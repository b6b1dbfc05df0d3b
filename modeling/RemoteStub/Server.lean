import RemoteStub.Connection
import RemoteStub.Client
import RemoteStub.Host

/-!
# Server

A server listens on one address, serves exactly one client, and then ends. It
can be told to stop at any time. What its status shows changes only when it is
started, when its client connects, and when its end is awaited.
-/

namespace RemoteStub

/-- The lifecycle as it is seen from outside. -/
inductive Status where
  | unbound
  | listening
  | connected
  /-- Its end was awaited. -/
  | stopped
  deriving DecidableEq, Repr

/-- What a server is doing, with what it holds then. -/
inductive Phase (σ : Type) where
  | unbound (responder : Responder σ)
  | listening (responder : Responder σ)
  /-- A client is let in, and nothing of it is seen from outside. What it sends waits for the
  server, also when it has left. -/
  | accepted (responder : Responder σ) (arrived : Bytes) (left : Bool)
  /-- Listening is over, and no client is served. -/
  | deserted (responder : Responder σ)
  | serving (connection : Connection σ)
  /-- The session is over. -/
  | served (responder : Responder σ)
  | stopped (responder : Responder σ)

namespace Phase

variable {σ : Type}

def status : Phase σ → Status
  | unbound _ => .unbound
  | listening _ | accepted .. | deserted _ => .listening
  | serving _ | served _ => .connected
  | stopped _ => .stopped

def responder : Phase σ → Responder σ
  | unbound r | listening r | accepted r .. | deserted r | served r | stopped r => r
  | serving c => c.responder

/-- Whether there is an end to be awaited. -/
def isRunning : Phase σ → Bool
  | unbound _ | stopped _ => false
  | listening _ | accepted .. | deserted _ | serving _ | served _ => true

end Phase

/-- The phase of a server with this connection. The session is over when the connection is closed or
its client has left. -/
def Connection.phase {σ : Type} (c : Connection σ) (left : Bool) : Phase σ :=
  if left || c.failure.isSome then .served c.responder else .serving c

structure Server (σ : Type) where
  config : Config
  phase : Phase σ
  /-- The address bound, once there is one. -/
  address : Option SocketAddress := none
  /-- A stop was asked for; a server that is told so before it starts leaves at once. -/
  stopRequested : Bool := false

namespace Server

variable {σ : Type}

def create (config : Config) (responder : Responder σ) : Server σ :=
  { config, phase := .unbound responder }

def status (s : Server σ) : Status := s.phase.status

def log (s : Server σ) : PacketLog := s.phase.responder.log

def port (s : Server σ) : Option UInt16 := s.address.map (·.port)

/-- The address for a debugger to connect to. -/
def url (s : Server σ) : Option Text :=
  s.address.map fun a => "connect://".toList ++ a.ip.render ++ ':' :: decimal a.port.toNat

/-- What the server does by itself: it goes on listening, and serves a client that was let in with
all that it has sent so far, unless a stop was asked for. -/
def poll (s : Server σ) : Server σ :=
  match s.phase with
  | .listening responder => if s.stopRequested then { s with phase := .deserted responder } else s
  | .accepted responder arrived left =>
    if s.stopRequested then { s with phase := .deserted responder }
    else { s with phase := ((Connection.create responder s.config).run arrived).phase left }
  | _ => s

/-- Binds the address and starts to wait for the client. A server starts once. -/
def start (s : Server σ) (host : Host) : Except Error SocketAddress × Server σ :=
  match s.phase with
  | .unbound responder =>
    match s.config.socketAddress host.lookup with
    | .error e => (.error (.config e), s)
    | .ok address =>
      match host.bind address with
      | .error e => (.error (.io (.system e)), s)
      | .ok bound =>
        (.ok bound, { s with phase := .listening responder, address := some bound }.poll)
  | _ => (.error (.network .alreadyStarted), s)

/-- A client asks for the connection. Only the first one is let in, while the server listens. -/
def accept (s : Server σ) : Option (Server σ) :=
  match s.phase with
  | .listening responder =>
    if s.stopRequested then none else some { s with phase := .accepted responder [] false }
  | _ => none

/-- A client asks for the connection and is served. -/
def letIn (s : Server σ) : Option (Server σ) := s.accept.map poll

/-- The time to wait for a client is over, if it is limited. -/
def expire (s : Server σ) : Server σ :=
  match s.phase with
  | .listening responder =>
    if s.config.acceptTimeout.isSome then { s with phase := .deserted responder } else s
  | _ => s

/-- The client sends bytes. They are answered at once in a session, and wait for it before. -/
def receive (s : Server σ) (data : Bytes) : Answer (Server σ) :=
  match s.phase with
  | .serving c =>
    let answer := Peer.accept c data
    { answer with peer := { s with phase := answer.peer.phase false } }
  | .accepted responder arrived false =>
    { peer := { s with phase := .accepted responder (arrived ++ data) false } }
  | _ => { peer := s, ended := true }

/-- The client leaves. -/
def hangUp (s : Server σ) : Server σ :=
  match s.phase with
  | .accepted responder arrived _ => { s with phase := .accepted responder arrived true }
  | .serving c => { s with phase := .served c.responder }
  | _ => s

/-- The network fails the server, which then gives up what it is doing. -/
def fail (s : Server σ) : Server σ :=
  match s.phase with
  | .listening responder | .accepted responder .. => { s with phase := .deserted responder }
  | .serving c => { s with phase := .served c.responder }
  | _ => s

/-- Awaits the end of a server that is running. Nothing as long as it does not end. -/
def join (s : Server σ) : Option (Except Error Unit × Server σ) :=
  match s.phase with
  | .unbound _ | .stopped _ => some (.ok (), s)
  | .deserted responder | .served responder =>
    some (.ok (), { s with phase := .stopped responder })
  | .listening _ | .accepted .. | .serving _ => none

/-- Ends the session, if there is one, and awaits the end. -/
def stop (s : Server σ) : Option (Except Error Unit × Server σ) :=
  { s with stopRequested := true }.hangUp.poll.join

/-- Awaits the end of the session. Nothing where it does not end by itself. -/
def wait (s : Server σ) : Option (Except Error Unit × Server σ) :=
  if s.phase.isRunning then s.poll.expire.join else some (.error (.network .notRunning), s)

instance : Peer (Server σ) where
  accept := receive

end Server

end RemoteStub
