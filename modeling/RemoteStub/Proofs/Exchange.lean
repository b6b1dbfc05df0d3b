import RemoteStub.Client
import RemoteStub.Connection
import RemoteStub.Proofs.Responder

/-!
# Exchanges

A client and a connection over two channels that keep every byte and its order. A move
begins a call, or lets one side take a part of what is on its way to it; in which order
and in which parts is left open. `direct` puts the same calls straight to a responder.
-/

namespace RemoteStub

inductive Call where
  | sendAck
  | request (command : Text)
  | startNoAckMode
  deriving DecidableEq, Repr

namespace Call

def step : Call → Client.Step
  | sendAck => .sendAck
  | request t => .request t
  | startNoAckMode => .startNoAckMode

def command? : Call → Option Text
  | sendAck => none
  | request t => some t
  | startNoAckMode => some Client.startNoAckMode

end Call

abbrev Outcome := Except Error Client.Result

/-- The two sides, and the bytes on their way between them. -/
structure Exchange (σ : Type) where
  client : Client := {}
  server : Connection σ
  toServer : Bytes := []
  toClient : Bytes := []
  /-- The call that waits for its reply. -/
  waiting : Option Call := none
  calls : List Call
  /-- The calls that have returned, and with what. -/
  returned : List (Call × Outcome) := []

namespace Exchange

variable {σ : Type}

def start (r : Responder σ) (config : Config) (calls : List Call) : Exchange σ :=
  { server := Connection.create r config, calls }

inductive Move where
  /-- The next call begins. -/
  | call
  /-- The server takes the next `n` bytes, and sends what they call for. -/
  | serve (n : Nat)
  /-- The next `n` bytes reach the client. -/
  | deliver (n : Nat)
  /-- The client learns that the server has ended its stream. -/
  | hangUp
  deriving DecidableEq, Repr

def post (x : Exchange σ) : Exchange σ :=
  { x with client := { x.client with outbox := [] }, toServer := x.toServer ++ x.client.outbox }

def send (x : Exchange σ) (c : Call) : Exchange σ :=
  { x with client := x.client.write c.step.written }.post

def finish (x : Exchange σ) (client : Client) (c : Call) (outcome : Outcome) : Exchange σ :=
  { x with client, waiting := none, returned := x.returned ++ [(c, outcome)] }.post

/-- A call that has written takes what has arrived. It returns, or it waits for more. -/
def attempt (x : Exchange σ) (c : Call) : Exchange σ :=
  match x.client.take c.step with
  | (.ok result, client) => x.finish client c (.ok result)
  | (.error (.error e), client) => x.finish client c (.error e)
  | (.error .waiting, client) => { x with client, waiting := some c }

def resume (x : Exchange σ) : Exchange σ :=
  match x.waiting with
  | some c => x.attempt c
  | none => x

def serve (x : Exchange σ) (n : Nat) : Exchange σ :=
  let answer := Peer.accept x.server (x.toServer.take n)
  { x with
    server := answer.peer
    toServer := x.toServer.drop n
    toClient := x.toClient ++ answer.bytes }

def deliver (x : Exchange σ) (n : Nat) : Exchange σ :=
  { x with
    client := x.client.deliver (x.toClient.take n) false
    toClient := x.toClient.drop n }

def hangUp (x : Exchange σ) : Exchange σ := { x with client := x.client.deliver [] true }

def step? (x : Exchange σ) : Move → Option (Exchange σ)
  | .call =>
    match x.waiting, x.calls with
    | none, c :: calls => some (({ x with calls }.send c).attempt c)
    | _, _ => none
  | .serve n => if 0 < n ∧ n ≤ x.toServer.length then some (x.serve n) else none
  | .deliver n => if 0 < n ∧ n ≤ x.toClient.length then some (x.deliver n).resume else none
  | .hangUp =>
    if x.server.failure.isSome ∧ x.toClient = [] ∧ x.client.ended = false then
      some x.hangUp.resume
    else none

def run (x : Exchange σ) (moves : List Move) : Option (Exchange σ) := moves.foldlM step? x

end Exchange

/-! ## Without a connection -/

/-- A responder to which calls are put directly, and what they returned. -/
structure Direct (σ : Type) where
  responder : Responder σ
  /-- A command was refused, and every later one is. -/
  refused : Bool := false
  returned : List (Call × Outcome) := []

namespace Direct

variable {σ : Type}

def finish (d : Direct σ) (c : Call) (outcome : Outcome) : Direct σ :=
  { d with returned := d.returned ++ [(c, outcome)] }

/-- Puts a call to the responder. The request to end acknowledgements is accepted without it. -/
def perform (d : Direct σ) (c : Call) : Direct σ :=
  match c.command? with
  | none => d.finish c (.ok .done)
  | some t =>
    if d.refused then d.finish c (.error (.io .closed))
    else if t = Client.startNoAckMode then d.finish c (.ok (.reply "OK".toList))
    else match d.responder.respond t with
      | (.ok reply, responder) =>
        { d with responder }.finish c (.ok (.reply (Text.ofBytes reply)))
      | (.error _, responder) =>
        { d with responder, refused := true }.finish c (.error (.io .closed))

end Direct

/-- What the calls return when they are put straight to a responder. -/
def direct {σ : Type} (r : Responder σ) (calls : List Call) : Direct σ :=
  calls.foldl Direct.perform { responder := r }

/-- The commands among the calls, but for the request that never reaches the responder. -/
def commands (calls : List Call) : List Text :=
  (calls.filterMap Call.command?).filter (· ≠ Client.startNoAckMode)

end RemoteStub
