import RemoteStub.CommandLine.Arguments
import RemoteStub.CommandLine.Outcome
import RemoteStub.Bench

/-!
# Sending commands

The client program: it connects, sends the commands given as operands one after
the other, and prints a line for each reply. The first failure ends it.
-/

namespace RemoteStub.CommandLine.Send

structure Options where
  server : Text := "127.0.0.1:1234".toList
  /-- Whether acknowledgements end before the first command. -/
  noAck : Bool := false
  commands : List Text
  deriving DecidableEq, Repr

def grammar : Grammar :=
  { options := [⟨some 's', "server".toList, .value⟩, ⟨none, "no-ack".toList, .flag⟩,
      ⟨some 'h', "help".toList, .help⟩]
    operands := true }

/-- At least one command is required. -/
def invocation (args : List Text) : Invocation Options :=
  let r := grammar.read args
  let server := (r.value? "server".toList).getD "127.0.0.1:1234".toList
  let options := { server, noAck := r.hasFlag "no-ack".toList, commands := r.operands }
  r.invocation true (if r.operands.isEmpty then none else some options)

def usage : Text := "Usage: gdbmock-cli [OPTIONS] <COMMANDS>...\n".toList

def help : Text :=
  ("Send raw GDB remote protocol commands\n\n" ++
    String.ofList usage ++ "\n" ++
    "Arguments:\n" ++
    "  <COMMANDS>...  Commands to send, e.g. `qSupported:swbreak+` `g` `m1000,4`\n\n" ++
    "Options:\n" ++
    "  -s, --server <SERVER>  Server address [default: 127.0.0.1:1234]\n" ++
    "      --no-ack           Negotiate QStartNoAckMode before sending the commands\n" ++
    "  -h, --help             Print help\n").toList

/-- What the client does: it opens with an acknowledgement. -/
def plan (o : Options) : List Client.Step :=
  .sendAck :: (if o.noAck then [.startNoAckMode] else []) ++ o.commands.map .request

/-- What is printed about a step that succeeded. -/
def report (step : Client.Step) (result : Client.Result) : Text :=
  match step, result with
  | .request command, .reply reply => line (command ++ " -> ".toList ++ reply)
  | .startNoAckMode, .reply reply => line (Client.startNoAckMode ++ " -> ".toList ++ reply)
  | _, _ => []

def failed (stdout : Text) (e : Error) : Outcome := failure stdout ("error: " ++ e.message)

/-- Performs the steps up to the first failure, with what is printed on the way. -/
def converse {π : Type} [Peer π] (l : Link π) : List Client.Step → Text × Option Client.Failure × Link π
  | [] => ([], none, l)
  | step :: rest =>
    match l.perform step with
    | (.error f, l) => ([], some f, l)
    | (.ok result, l) =>
      let (printed, failure, l) := converse l rest
      (report step result ++ printed, failure, l)

variable {σ : Type}

def connect (b : Bench σ) (server : Text) : Except Error Unit × Bench σ :=
  match SocketAddress.resolve b.host.lookup server with
  | .error e => (.error (.io e.toIoError), b)
  | .ok addresses => b.connectAny addresses

/-- Runs the program beside a server. Nothing where it would wait forever for a reply. -/
def run (b : Bench σ) (args : List Text) : Option Outcome × Bench σ :=
  match invocation args with
  | .refused | .version => (some (usageError usage), b)
  | .help => (some { stdout := help }, b)
  | .run o =>
    match connect b o.server with
    | (.error e, b) => (some (failed [] e), b)
    | (.ok (), b) =>
      let (stdout, failure, l) :=
        converse ({ client := b.client.getD {}, peer := b.server } : Link (Server σ)) (plan o)
      let b := ({ b with server := l.peer, client := some l.client } : Bench σ).disconnect
      match failure with
      | none => (some { stdout }, b)
      | some (.error e) => (some (failed stdout e), b)
      | some .waiting => (none, b)

end RemoteStub.CommandLine.Send
