import RemoteStub.Target
import RemoteStub.PacketLog
import RemoteStub.Command.Parse

/-!
# Responder

Logs each command, reads it, and puts the query behind it to the target.
-/

namespace RemoteStub

structure Responder (σ : Type) where
  target : Target σ
  state : σ
  log : PacketLog := {}
  /-- Every query put to the target, in order. -/
  asked : List Query := []

namespace Responder

variable {σ : Type}

/-- A responder for the target that gives every default answer. -/
def default : Responder Unit := { target := {}, state := () }

/-- Answers one command with the payload of the reply. A command is logged before it is read, so a
malformed one shows up in the log too. -/
def respond (r : Responder σ) (packet : Text) : Except DecodeError Bytes × Responder σ :=
  let r := { r with log := r.log.push packet }
  match Command.parse packet with
  | .error e => (.error e, r)
  | .ok command =>
    let query := command.query
    let (payload, state) := (r.target.answer query).run r.state
    (.ok payload, { r with state, asked := r.asked ++ [query] })

end Responder

end RemoteStub
