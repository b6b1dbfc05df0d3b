import RemoteStub.Address

/-!
# Configuration

Where a server listens, how long it waits for its client, and how much it reads
at a time.
-/

namespace RemoteStub

structure Config where
  listenAddress : Text := "127.0.0.1:0".toList
  /-- How long to wait for the client, in milliseconds; zero waits until stopped. -/
  acceptTimeoutMs : UInt64 := 2000
  /-- Whether small writes are sent at once. -/
  nodelay : Bool := true
  /-- The most bytes that one read takes. -/
  recvChunkSize : UInt64 := 4096
  deriving DecidableEq, Repr

namespace Config

/-- One choice made over the defaults. -/
inductive Setting where
  | listenAddress (address : Text)
  | port (port : UInt16)
  | acceptTimeoutMs (ms : UInt64)
  | nodelay (enabled : Bool)
  | recvChunkSize (size : UInt64)
  deriving DecidableEq, Repr

/-- A port means that port on the loopback address; a read takes at least one byte. -/
def set (c : Config) : Setting → Config
  | .listenAddress address => { c with listenAddress := address }
  | .port port => { c with listenAddress := "127.0.0.1:".toList ++ decimal port.toNat }
  | .acceptTimeoutMs ms => { c with acceptTimeoutMs := ms }
  | .nodelay enabled => { c with nodelay := enabled }
  | .recvChunkSize size => { c with recvChunkSize := max size 1 }

/-- The configuration that a list of settings leads to, later ones winning. -/
def ofSettings (settings : List Setting) : Config := settings.foldl set {}

/-- The accept timeout in milliseconds, unless the server waits until stopped. -/
def acceptTimeout (c : Config) : Option UInt64 :=
  if c.acceptTimeoutMs = 0 then none else some c.acceptTimeoutMs

inductive Error where
  | badAddress (listenAddress : Text) (cause : AddressError)
  /-- The name was looked up, and stands for no address. -/
  | noAddress (listenAddress : Text)
  deriving DecidableEq, Repr

def Error.message : Error → String
  | badAddress address cause =>
    "bad listen address " ++ String.ofList address ++ ": " ++ cause.message
  | noAddress address => "listen address " ++ String.ofList address ++ " did not resolve"

/-- The address to listen on, the first if there are several. -/
def socketAddress (c : Config) (lookup : Text → Except String (List SocketAddress)) :
    Except Error SocketAddress :=
  match SocketAddress.resolve lookup c.listenAddress with
  | .error cause => .error (.badAddress c.listenAddress cause)
  | .ok [] => .error (.noAddress c.listenAddress)
  | .ok (address :: _) => .ok address

end Config

end RemoteStub
