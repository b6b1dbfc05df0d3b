import RemoteStub.Text

/-!
# Peers

The other end of a connection, as seen from one side: it takes bytes as they are
written, and what it sends in answer is there at once.
-/

namespace RemoteStub

/-- What a peer does on receiving bytes: it may send some, and it may end its stream. -/
structure Answer (π : Type) where
  peer : π
  bytes : Bytes := []
  ended : Bool := false

class Peer (π : Type) where
  accept : π → Bytes → Answer π

/-- A peer that takes everything and says nothing. -/
instance : Peer Unit where
  accept _ _ := { peer := () }

end RemoteStub
