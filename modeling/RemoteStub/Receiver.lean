import RemoteStub.Packet

/-!
# Receiver

Turns a stream of bytes, cut anywhere, into events. Bytes not yet consumed stay
pending, and the receiver remembers how far it has searched for the end of the
current payload, so that a search resumes where the last one stopped.

A violation of the framing consumes nothing: it is final until the receiver is
cleared.
-/

namespace RemoteStub

/-- How a stream can break the framing. -/
inductive Violation where
  /-- A byte that starts neither an acknowledgement nor a packet. -/
  | leadingByte (b : UInt8)
  | checksumDigits (high low : UInt8)
  | checksumMismatch (stated actual : UInt8)
  deriving DecidableEq, Repr

def Violation.message : Violation → String
  | leadingByte b => "unexpected leading byte 0x" ++ String.ofList (Hex.octet b)
  | checksumDigits high low =>
    "bad checksum hex: " ++ String.ofList (Text.quote (Text.ofBytes [high, low]))
  | checksumMismatch stated actual =>
    "checksum " ++ String.ofList (Hex.octet stated) ++ " does not match content " ++
      String.ofList (Hex.octet actual)

/-- The packet with this payload, if the digits state its checksum. -/
def Packet.verify (payload : Bytes) (high low : UInt8) : Except Violation Packet :=
  match Hex.octet? high low with
  | none => .error (.checksumDigits high low)
  | some stated =>
    let actual := RemoteStub.checksum payload
    if stated = actual then .ok ⟨payload, actual⟩ else .error (.checksumMismatch stated actual)

structure Receiver where
  /-- The bytes received and not consumed. -/
  pending : Bytes := []
  /-- Where the search for the end of the payload resumes; zero between events. -/
  scanned : Nat := 0
  deriving DecidableEq, Repr

namespace Receiver

def feed (r : Receiver) (data : Bytes) : Receiver := { r with pending := r.pending ++ data }

def clear (_ : Receiver) : Receiver := {}

/-- The position of the first `#` from `start` on, or the length if there is none. -/
def terminator (bytes : Bytes) (start : Nat) : Nat :=
  start + (bytes.drop start).findIdx (· == Wire.packetEnd)

/-- Takes the next event out, if a complete one is pending. -/
def next (r : Receiver) : Except Violation (Option Event) × Receiver :=
  match r.pending with
  | [] => (.ok none, r)
  | b :: rest =>
    if r.scanned = 0 ∧ b = Wire.ack then (.ok (some .ack), { pending := rest })
    else if r.scanned = 0 ∧ b ≠ Wire.packetStart then (.error (.leadingByte b), r)
    else
      let stop := terminator r.pending (max 1 r.scanned)
      match r.pending.drop (stop + 1) with
      | high :: low :: rest =>
        match Packet.verify ((r.pending.take stop).drop 1) high low with
        | .ok p => (.ok (some (.packet p)), { pending := rest })
        | .error v => (.error v, r)
      | _ => (.ok none, { r with scanned := stop })

@[simp] theorem feed_nil (r : Receiver) : r.feed [] = r := by simp [feed]

theorem feed_append (r : Receiver) (a b : Bytes) : r.feed (a ++ b) = (r.feed a).feed b := by
  simp [feed]

/-- Every event takes at least one byte out. -/
theorem length_pending_lt_of_next {r s : Receiver} {e : Event} (h : r.next = (.ok (some e), s)) :
    s.pending.length < r.pending.length := by
  unfold next at h
  split at h
  · simp at h
  next b rest hp =>
    rw [hp]
    split at h
    · simp only [Prod.mk.injEq] at h
      simp [← h.2]
    split at h
    · simp at h
    dsimp only at h
    split at h
    next high low tail ht =>
      split at h
      · simp only [Prod.mk.injEq] at h
        have := congrArg List.length ht
        simp only [hp, List.length_drop, List.length_cons] at this
        simp only [← h.2, List.length_cons]
        omega
      · simp at h
    · simp at h

/-- A search that finds no complete event keeps what is pending. -/
theorem pending_of_next {r s : Receiver} (h : r.next = (.ok none, s)) :
    s.pending = r.pending := by
  unfold next at h
  split at h
  · simp only [Prod.mk.injEq] at h
    simp [← h.2]
  · split at h
    · simp at h
    split at h
    · simp at h
    dsimp only at h
    split at h
    · split at h <;> simp at h
    · simp only [Prod.mk.injEq] at h
      simp [← h.2]

/-- What a receiver yields when it is asked until it has no more. -/
structure Drained where
  events : List Event
  /-- The violation that ended it, if one did. -/
  violation : Option Violation
  receiver : Receiver
  deriving DecidableEq, Repr

/-- Takes events out until none is complete or the framing is broken. -/
def drain (r : Receiver) : Drained :=
  match _h : r.next with
  | (.ok none, s) => ⟨[], none, s⟩
  | (.error v, s) => ⟨[], some v, s⟩
  | (.ok (some e), s) =>
    let d := drain s
    { d with events := e :: d.events }
termination_by r.pending.length
decreasing_by exact length_pending_lt_of_next _h

end Receiver

end RemoteStub
