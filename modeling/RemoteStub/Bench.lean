import RemoteStub.Server

/-!
# Bench

One server and at most one client on one host, and all that can be done to them.
-/

namespace RemoteStub

structure Bench (σ : Type) where
  host : Host
  server : Server σ
  client : Option Client := none

namespace Bench

variable {σ : Type}

def create (host : Host) (config : Config) (responder : Responder σ) : Bench σ :=
  { host, server := .create config responder }

def start (b : Bench σ) : Except Error SocketAddress × Bench σ :=
  let (result, server) := b.server.start b.host
  (result, { b with server })

/-- Stops the server, which ends the stream of its client. -/
def stop (b : Bench σ) : Bench σ :=
  match b.server.stop with
  | some (_, server) => { b with server, client := b.client.map (·.deliver [] true) }
  | none => b

/-- Awaits the end of the session. -/
def wait (b : Bench σ) : Option (Except Error Unit × Bench σ) :=
  b.server.wait.map fun (result, server) => (result, { b with server })

/-- A new client connects to an address, where nobody but the server can listen. -/
def connect (b : Bench σ) (address : SocketAddress) : Except Error Unit × Bench σ :=
  let welcome := if b.server.address = some address then b.server.letIn else none
  match b.host.reach address welcome.isSome with
  | .error e => (.error (.io (.system e)), b)
  | .ok () => (.ok (), { b with server := welcome.getD b.server, client := some {} })

/-- A new client tries addresses in turn, up to the first at which it is let in. -/
def connectAny (b : Bench σ) : List SocketAddress → Except Error Unit × Bench σ
  | [] => (.error (.io .noAddress), b)
  | [address] => b.connect address
  | address :: rest =>
    match b.connect address with
    | (.ok (), b) => (.ok (), b)
    | (.error _, b) => b.connectAny rest

/-- The client leaves, if there is one. -/
def disconnect (b : Bench σ) : Bench σ :=
  match b.client with
  | some _ => { b with server := b.server.hangUp, client := none }
  | none => b

/-- The client performs a step. Nothing without a client. -/
def perform (b : Bench σ) (step : Client.Step) :
    Option (Except Client.Failure Client.Result × Bench σ) :=
  b.client.map fun client =>
    let (result, l) := ({ client, peer := b.server } : Link (Server σ)).perform step
    (result, { b with server := l.peer, client := some l.client })

end Bench

end RemoteStub
