import Std.Async.DNS
import Std.Async.TCP
import RemoteStub.CommandLine.Send
import RemoteStub.CommandLine.Serve

/-!
# The program

`serve` serves one session of the remote protocol over TCP, and `send` sends
commands to a server. Everything but the sockets, the clock and the files is the
library's.
-/

namespace RemoteStub.CommandLine

open Std.Async TCP

def netAddress : SocketAddress → Std.Net.SocketAddress
  | .v4 ip port => .v4 ⟨.ofParts ip.a ip.b ip.c ip.d, port⟩
  | .v6 ip _ port => .v6 ⟨⟨ip.groups⟩, port⟩

def ofNetAddress : Std.Net.IPAddr → SocketAddress
  | .v4 ip => .v4 ⟨ip.octets[0], ip.octets[1], ip.octets[2], ip.octets[3]⟩ 0
  | .v6 ip => .v6 ⟨ip.segments⟩ 0 0

/-- What the system makes of the host in an address. -/
def lookUp (address : Text) : IO (Text → Except String (List SocketAddress)) := do
  match SocketAddress.splitPort address with
  | none => return fun _ => .ok []
  | some (name, _) =>
    try
      let found ← (DNS.getAddrInfo (String.ofList name) "").block
      return fun _ => .ok (found.toList.map ofNetAddress)
    catch e => return fun _ => .error (toString e)

def printText (t : Text) : IO Unit := do
  let out ← IO.getStdout
  out.putStr (String.ofList t)
  out.flush

def printError (t : Text) : IO Unit := IO.eprint (String.ofList t)

def conclude (o : Outcome) : IO UInt32 := do
  printText o.stdout
  printError o.stderr
  return UInt32.ofNat o.exit

def sendBytes (socket : Socket.Client) (data : Bytes) : IO Unit := do
  if !data.isEmpty then (socket.send ⟨data.toArray⟩).block

/-- What arrives next, or nothing at the end of the stream. -/
def receiveBytes (socket : Socket.Client) (size : UInt64) : IO (Option Bytes) := do
  return (← (socket.recv? size).block).map (·.data.toList)

/-! ## Serving -/

/-- Waits for a client, until the deadline if there is one. -/
partial def awaitClient (listener : Socket.Server) (deadline : Option Nat) :
    IO (Option Socket.Client) := do
  match ← listener.tryAccept with
  | some client => return some client
  | none =>
    if deadline.any (· ≤ (← IO.monoMsNow)) then return none
    IO.sleep 10
    awaitClient listener deadline

/-- Serves until the client leaves or the session is over. -/
partial def session (socket : Socket.Client) (s : Server Unit) : IO (Server Unit) := do
  match ← (try receiveBytes socket s.config.recvChunkSize catch _ => pure none) with
  | none => return s.hangUp
  | some data =>
    let answer := s.receive data
    sendBytes socket answer.bytes
    if answer.ended then return answer.peer
    session socket answer.peer

def writeLog (path : Text) (s : Server Unit) : IO UInt32 := do
  try
    IO.FS.writeBinFile (String.ofList path) ⟨(s.log.writeTo {}).2.taken.toArray⟩
    return 0
  catch e => conclude (failure [] ("Failed to write packet log: " ++ toString e))

/-- Serves one session on a socket that listens. -/
def serveOn (o : Serve.Options) (listener : Socket.Server) (b : Bench Unit) : IO UInt32 := do
  printText (Serve.announcement b.server)
  let now ← IO.monoMsNow
  let deadline := b.server.config.acceptTimeout.map fun ms => now + ms.toNat
  let served ← match ← awaitClient listener deadline, b.server.letIn with
    | some socket, some s => session socket s
    | _, _ => pure b.server
  match o.packetLog with
  | some path => writeLog path served
  | none => return 0

/-- Binds an address; yields the port assigned, and nothing if the address cannot be bound. -/
def listenOn (listener : Socket.Server) (address : SocketAddress) : IO (Option UInt16) := do
  try
    listener.bind (netAddress address)
    listener.listen 1
    return some (← listener.getSockName).port
  catch _ => return none

def serve (args : List Text) : IO UInt32 := do
  let listener ← Socket.Server.mk
  let host : Host ← match Serve.invocation args with
    | .run o => do
      let lookup ← lookUp o.listen
      let assigned ← match (Serve.config o).socketAddress lookup with
        | .ok address => listenOn listener address
        | .error _ => pure none
      pure <| match assigned with
        | some port => { lookup, freePort := port }
        | none => { lookup, refusal := fun _ => some .addressNotAvailable }
    | _ => pure {}
  match Serve.launch host args with
  | .running o b => serveOn o listener b
  | .over outcome => conclude outcome

/-! ## Sending -/

def flush (socket : Socket.Client) (c : Client) : IO Client := do
  sendBytes socket c.outbox
  return { c with outbox := [] }

/-- Takes what a step needs, and waits for more as long as that has not arrived. -/
partial def take (socket : Socket.Client) (c : Client) (step : Client.Step) :
    IO (Except Client.Failure Client.Result × Client) := do
  match c.take step with
  | (.error .waiting, d) =>
    match ← receiveBytes socket 4096 with
    | some data => take socket (d.deliver data false) step
    | none => take socket (d.deliver [] true) step
  | (result, d) => return (result, ← flush socket d)

def converse (socket : Socket.Client) (c : Client) : List Client.Step → IO (Option Client.Failure)
  | [] => return none
  | step :: rest => do
    let (result, c) ← take socket (← flush socket (c.write step.written)) step
    match result with
    | .error f => return some f
    | .ok r =>
      printText (Send.report step r)
      converse socket c rest

/-- Tries addresses in turn. -/
def reach : List SocketAddress → IO Socket.Client
  | [] => throw (.userError IoError.noAddress.message)
  | address :: rest => do
    let socket ← Socket.Client.mk
    try
      (socket.connect (netAddress address)).block
      return socket
    catch e => if rest.isEmpty then throw e else reach rest

def send (args : List Text) : IO UInt32 := do
  match Send.invocation args with
  | .help => conclude { stdout := Send.help }
  | .refused | .version => conclude (usageError Send.usage)
  | .run o =>
    match SocketAddress.resolve (← lookUp o.server) o.server with
    | .error e => conclude (Send.failed [] (.io e.toIoError))
    | .ok addresses =>
      try
        let socket ← reach addresses
        match ← converse socket {} (Send.plan o) with
        | some (.error e) => conclude (Send.failed [] e)
        | some .waiting | none => return 0
      catch e => conclude (failure [] ("error: IO error: " ++ toString e))

end RemoteStub.CommandLine

open RemoteStub CommandLine in
def main (args : List String) : IO UInt32 :=
  match args with
  | "serve" :: rest => serve (rest.map (·.toList))
  | "send" :: rest => send (rest.map (·.toList))
  | _ => conclude (usageError (Serve.usage ++ Send.usage))
