import RemoteStub.Address

/-!
# Hosts

What the network of a host allows: which names it knows, which addresses can be
listened on, and which can be reached.
-/

namespace RemoteStub

structure Host where
  /-- The addresses that a name stands for, without their ports, or why they are not known. -/
  lookup : Text → Except String (List SocketAddress) := fun _ =>
    .error "Temporary failure in name resolution"
  /-- Why an address cannot be listened on, if it cannot. -/
  refusal : SocketAddress → Option SystemError := fun _ => none
  /-- Why an address cannot be reached, whoever listens there. -/
  obstacle : SocketAddress → Option SystemError := fun _ => none
  /-- The port assigned where none is asked for. -/
  freePort : UInt16 := 49152

namespace Host

/-- A host on which a client and a server can meet. -/
def loopback : Host := {}

/-- A host without any interface in use. Every IPv4 address can be listened on there, but of the
others only those that stand for it and the unspecified one. There is no route to anywhere, the
host itself included. -/
def isolated : Host :=
  { refusal := fun
      | .v4 .. => none
      | .v6 ip scope _ =>
        if ip.isUnspecified || ip.mapped?.isSome then none
        else if ip.isMulticast then some .invalidArgument
        else if ip.isLinkLocal then some (if scope = 0 then .invalidArgument else .noSuchDevice)
        else some .addressNotAvailable
    obstacle := fun
      | .v4 .. => some .networkUnreachable
      | .v6 ip scope _ =>
        if ip.mapped?.isSome || ip.isMulticast then some .networkUnreachable
        else if ip.isLinkLocal && scope = 0 then some .invalidArgument
        else some .addressNotAvailable }

/-- Listens on an address. Port zero asks for a free one. -/
def bind (h : Host) (address : SocketAddress) : Except SystemError SocketAddress :=
  match h.refusal address with
  | some e => .error e
  | none => .ok (if address.port = 0 then address.withPort h.freePort else address)

/-- Reaches for an address; `listening` tells whether anyone listens there. -/
def reach (h : Host) (address : SocketAddress) (listening : Bool) : Except SystemError Unit :=
  match h.obstacle address with
  | some e => .error e
  | none => if listening then .ok () else .error .connectionRefused

end Host

end RemoteStub
