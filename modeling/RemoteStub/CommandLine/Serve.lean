import RemoteStub.CommandLine.Arguments
import RemoteStub.CommandLine.Outcome
import RemoteStub.Bench

/-!
# Serving a session

The server program: it prints where it listens, serves one client with the
default answers, and writes the packet log when the session has ended.
-/

namespace RemoteStub.CommandLine.Serve

structure Options where
  listen : Text := "127.0.0.1:0".toList
  /-- Zero waits forever. -/
  acceptTimeoutMs : UInt64 := 0
  /-- The file to write every received command to. -/
  packetLog : Option Text := none
  deriving DecidableEq, Repr

def grammar : Grammar :=
  { options := [⟨some 'l', "listen".toList, .value⟩, ⟨some 'a', "accept-timeout-ms".toList, .value⟩,
      ⟨some 'p', "packet-log".toList, .value⟩, ⟨some 'h', "help".toList, .help⟩,
      ⟨some 'V', "version".toList, .version⟩]
    operands := false }

def milliseconds? (t : Text) : Option UInt64 := (Numeric.below? UInt64.size 10 t).map UInt64.ofNat

/-- The timeout has to be a number, and the file has to have a name. -/
def invocation (args : List Text) : Invocation Options :=
  let r := grammar.read args
  let timeout := (r.value? "accept-timeout-ms".toList).getD ['0']
  let packetLog := r.value? "packet-log".toList
  r.invocation ((milliseconds? timeout).isSome && packetLog != some []) <| some
    { listen := (r.value? "listen".toList).getD "127.0.0.1:0".toList
      acceptTimeoutMs := (milliseconds? timeout).getD 0
      packetLog }

def usage : Text := "Usage: gdbmock-server [OPTIONS]\n".toList

def help : Text :=
  ("Mock GDB Remote Serial Protocol server for debugger tests\n\n" ++
    String.ofList usage ++ "\n" ++
    "Options:\n" ++
    "  -l, --listen <LISTEN>\n" ++
    "          Listen address (host:port, port 0 picks a free port) [default: 127.0.0.1:0]\n" ++
    "  -a, --accept-timeout-ms <ACCEPT_TIMEOUT_MS>\n" ++
    "          Give up if no client connects within this many milliseconds (0 = wait forever) " ++
    "[default: 0]\n" ++
    "  -p, --packet-log <PACKET_LOG>\n" ++
    "          Write every received command to this file when the session ends\n" ++
    "  -h, --help\n" ++
    "          Print help\n" ++
    "  -V, --version\n" ++
    "          Print version\n").toList

def config (o : Options) : Config :=
  Config.ofSettings [.listenAddress o.listen, .acceptTimeoutMs o.acceptTimeoutMs]

/-- The program once its arguments are read: over, or running. -/
inductive Launch where
  | over (outcome : Outcome)
  | running (options : Options) (bench : Bench Unit)

def launch (host : Host) (args : List Text) : Launch :=
  match invocation args with
  | .refused => .over (usageError usage)
  | .help => .over { stdout := help }
  | .version => .over { stdout := line ("gdbmock-server " ++ version).toList }
  | .run o =>
    match (Bench.create host (config o) Responder.default).start with
    | (.error e, _) => .over (failure [] ("Failed to start server: " ++ e.message))
    | (.ok _, b) => .running o b

/-- What is printed once the server listens. -/
def announcement {σ : Type} (s : Server σ) : Text := (s.url.map line).getD []

/-- Awaits the end of the session and writes the log, where `creatable` tells which files can be
created. Yields the outcome and what was written, or nothing if the session does not end. -/
def finish (o : Options) (creatable : Text → Bool) (b : Bench Unit) :
    Option (Outcome × Option Bytes) :=
  b.wait.map fun (_, b) =>
    let stdout := announcement b.server
    match o.packetLog with
    | none => ({ stdout }, none)
    | some path =>
      if creatable path then ({ stdout }, some (b.server.log.writeTo {}).2.taken)
      else (failure stdout "Failed to write packet log", none)

end RemoteStub.CommandLine.Serve
