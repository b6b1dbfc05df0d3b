import RemoteStub.Receiver
import RemoteStub.Proofs.Hex

/-!
# The grammar of the stream

A stream is a sequence of encoded events. What stands at its front is an event
(`Event.Encoding`), something that more bytes can still complete (`Incomplete`), or
a violation (`Breaks`). The function `front` reads off which one it is
(`front_eq_event_iff`, `front_eq_incomplete_iff`, `front_eq_broken_iff`); bytes that
arrive later change neither an event nor a violation.
-/

namespace RemoteStub

/-- Two digits, of either case, that state a number. -/
def Hex.Stated (high low : UInt8) (n : Nat) : Prop :=
  ∃ c ∈ digits, ∃ d ∈ digits, high.toNat = c.toNat ∧ low.toNat = d.toNat ∧
    n = 16 * digitValue c + digitValue d

/-- The sum of the bytes modulo 256. -/
def byteSum (payload : Bytes) : Nat := payload.foldr (fun b n => b.toNat + n) 0 % 256

/-- The bytes that can carry an event. -/
inductive Event.Encoding : Event → Bytes → Prop
  | ack : Encoding .ack [Wire.ack]
  | packet {p : Bytes} {high low : UInt8} (hp : Wire.packetEnd ∉ p)
      (hd : Hex.Stated high low (byteSum p)) :
      Encoding (.packet (.ofPayload p)) (Wire.packetStart :: (p ++ [Wire.packetEnd, high, low]))

theorem Event.Encoding.ne_nil {e : Event} {enc : Bytes} (h : e.Encoding enc) : enc ≠ [] := by
  cases h <;> simp

namespace Receiver

/-- More bytes decide what these are. -/
inductive Incomplete : Bytes → Prop
  | empty : Incomplete []
  | unterminated {p : Bytes} (hp : Wire.packetEnd ∉ p) : Incomplete (Wire.packetStart :: p)
  | trailer {p t : Bytes} (hp : Wire.packetEnd ∉ p) (ht : t.length < 2) :
      Incomplete (Wire.packetStart :: (p ++ Wire.packetEnd :: t))

/-- No event starts with these bytes, whatever follows. -/
inductive Breaks : Bytes → Violation → Prop
  | lead {b : UInt8} (ha : b ≠ Wire.ack) (hs : b ≠ Wire.packetStart) (rest : Bytes) :
      Breaks (b :: rest) (.leadingByte b)
  | digits {p : Bytes} {high low : UInt8} (hp : Wire.packetEnd ∉ p)
      (hd : ∀ n, ¬ Hex.Stated high low n) (rest : Bytes) :
      Breaks (Wire.packetStart :: (p ++ Wire.packetEnd :: high :: low :: rest))
        (.checksumDigits high low)
  | mismatch {p : Bytes} {high low : UInt8} {n : Nat} (hp : Wire.packetEnd ∉ p)
      (hd : Hex.Stated high low n) (hn : n ≠ byteSum p) (rest : Bytes) :
      Breaks (Wire.packetStart :: (p ++ Wire.packetEnd :: high :: low :: rest))
        (.checksumMismatch (UInt8.ofNat n) (checksum p))

end Receiver

/-! ## Checksums -/

theorem foldl_add_toNat (p : Bytes) (a : UInt8) :
    (p.foldl (· + ·) a).toNat = (a.toNat + p.foldr (fun b n => b.toNat + n) 0) % 256 := by
  induction p generalizing a with
  | nil => simp [Nat.mod_eq_of_lt a.toNat_lt]
  | cons b p ih =>
    rw [List.foldl_cons, ih, UInt8.toNat_add, List.foldr_cons]
    omega

theorem checksum_toNat (p : Bytes) : (checksum p).toNat = byteSum p := by
  simp [checksum, byteSum, foldl_add_toNat]

namespace Hex

theorem stated_iff {high low : UInt8} {n : Nat} :
    Stated high low n ↔
      ∃ x y, digit? (latin high) = some x ∧ digit? (latin low) = some y ∧ n = 16 * x + y := by
  constructor
  · rintro ⟨c, hc, d, hd, hhigh, hlow, rfl⟩
    exact ⟨digitValue c, digitValue d, digit?_latin_iff.mpr ⟨c, hc, hhigh, rfl⟩,
      digit?_latin_iff.mpr ⟨d, hd, hlow, rfl⟩, rfl⟩
  · rintro ⟨x, y, hx, hy, rfl⟩
    obtain ⟨c, hc, hhigh, rfl⟩ := digit?_latin_iff.mp hx
    obtain ⟨d, hd, hlow, rfl⟩ := digit?_latin_iff.mp hy
    exact ⟨c, hc, d, hd, hhigh, hlow, rfl⟩

theorem Stated.lt {high low : UInt8} {n : Nat} (h : Stated high low n) : n < 256 := by
  obtain ⟨x, y, hx, hy, rfl⟩ := stated_iff.mp h
  have := digit?_lt hx
  have := digit?_lt hy
  omega

theorem octet?_of_stated {high low : UInt8} {n : Nat} (h : Stated high low n) :
    octet? high low = some (UInt8.ofNat n) := by
  obtain ⟨x, y, hx, hy, rfl⟩ := stated_iff.mp h
  simp [octet?, hx, hy]

theorem octet?_of_not_stated {high low : UInt8} (h : ∀ n, ¬ Stated high low n) :
    octet? high low = none := by
  cases hx : digit? (latin high) with
  | none => simp [octet?, hx]
  | some x =>
    cases hy : digit? (latin low) with
    | none => simp [octet?, hx, hy]
    | some y => exact absurd (stated_iff.mpr ⟨x, y, hx, hy, rfl⟩) (h _)

end Hex

namespace Packet

theorem verify_of_agrees {p : Bytes} {high low : UInt8} (h : Hex.Stated high low (byteSum p)) :
    verify p high low = .ok (.ofPayload p) := by
  have : UInt8.ofNat (byteSum p) = RemoteStub.checksum p := by simp [← checksum_toNat]
  simp [verify, Hex.octet?_of_stated h, ofPayload, this]

theorem verify_of_differs {p : Bytes} {high low : UInt8} {n : Nat} (h : Hex.Stated high low n)
    (hn : n ≠ byteSum p) :
    verify p high low = .error (.checksumMismatch (UInt8.ofNat n) (RemoteStub.checksum p)) := by
  have : UInt8.ofNat n ≠ RemoteStub.checksum p := by
    intro e
    have := congrArg UInt8.toNat e
    rw [checksum_toNat, UInt8.toNat_ofNat_of_lt' h.lt] at this
    exact hn this
  simp [verify, Hex.octet?_of_stated h, this]

theorem verify_of_no_digits {p : Bytes} {high low : UInt8} (h : ∀ n, ¬ Hex.Stated high low n) :
    verify p high low = .error (.checksumDigits high low) := by
  simp [verify, Hex.octet?_of_not_stated h]

end Packet

namespace Receiver

/-! ## Payloads -/

def inPayload (b : UInt8) : Bool := b != Wire.packetEnd

theorem inPayload_iff {b : UInt8} : inPayload b = true ↔ b ≠ Wire.packetEnd := by
  simp [inPayload]

theorem forall_inPayload {p : Bytes} (h : Wire.packetEnd ∉ p) : ∀ b ∈ p, inPayload b = true := by
  intro b hb
  exact inPayload_iff.mpr fun e => h (e ▸ hb)

theorem packetEnd_not_mem_takeWhile (bytes : Bytes) :
    Wire.packetEnd ∉ bytes.takeWhile inPayload := by
  intro h
  have := List.all_eq_true.mp (List.all_takeWhile (p := inPayload) (l := bytes)) _ h
  exact inPayload_iff.mp this rfl

theorem takeWhile_payload {p : Bytes} (h : Wire.packetEnd ∉ p) (rest : Bytes) :
    (p ++ Wire.packetEnd :: rest).takeWhile inPayload = p := by
  rw [List.takeWhile_append_of_pos (forall_inPayload h)]
  simp [inPayload]

theorem dropWhile_payload {p : Bytes} (h : Wire.packetEnd ∉ p) (rest : Bytes) :
    (p ++ Wire.packetEnd :: rest).dropWhile inPayload = Wire.packetEnd :: rest := by
  rw [List.dropWhile_append_of_pos (forall_inPayload h)]
  simp [inPayload]

theorem dropWhile_eq_nil {p : Bytes} (h : Wire.packetEnd ∉ p) : p.dropWhile inPayload = [] := by
  have hd : (p ++ []).dropWhile inPayload = [].dropWhile inPayload :=
    List.dropWhile_append_of_pos (forall_inPayload h)
  rwa [List.append_nil] at hd

/-- Bytes either hold no `#`, or are cut at the first one. -/
theorem payload_cases (bytes : Bytes) :
    Wire.packetEnd ∉ bytes ∨
      ∃ p rest, Wire.packetEnd ∉ p ∧ bytes = p ++ Wire.packetEnd :: rest := by
  have hsplit := List.takeWhile_append_dropWhile (p := inPayload) (l := bytes)
  have hp := packetEnd_not_mem_takeWhile bytes
  cases hd : bytes.dropWhile inPayload with
  | nil =>
    left
    rw [hd, List.append_nil] at hsplit
    exact hsplit ▸ hp
  | cons b rest =>
    right
    have hb : inPayload b = false := by
      have := List.head_dropWhile_not inPayload (l := bytes) (by simp [hd])
      simpa [hd] using this
    have : b = Wire.packetEnd := by simpa [inPayload] using hb
    exact ⟨_, rest, hp, by rw [← this, ← hd, hsplit]⟩

/-! ## The front of a stream -/

inductive Front where
  | event (e : Event) (rest : Bytes)
  | broken (v : Violation)
  | incomplete
  deriving DecidableEq, Repr

/-- What stands at the front of a stream. -/
def front : Bytes → Front
  | [] => .incomplete
  | b :: rest =>
    if b = Wire.ack then .event .ack rest
    else if b ≠ Wire.packetStart then .broken (.leadingByte b)
    else match rest.dropWhile inPayload with
      | _ :: high :: low :: after =>
        match Packet.verify (rest.takeWhile inPayload) high low with
        | .ok p => .event (.packet p) after
        | .error v => .broken v
      | _ => .incomplete

theorem packetStart_ne_ack : Wire.packetStart ≠ Wire.ack := by decide

theorem front_packet {p : Bytes} (h : Wire.packetEnd ∉ p) (high low : UInt8) (rest : Bytes) :
    front (Wire.packetStart :: (p ++ Wire.packetEnd :: high :: low :: rest)) =
      match Packet.verify p high low with
      | .ok p => .event (.packet p) rest
      | .error v => .broken v := by
  simp [front, packetStart_ne_ack, dropWhile_payload h, takeWhile_payload h]

theorem front_of_encoding {e : Event} {bytes : Bytes} (h : e.Encoding bytes) (rest : Bytes) :
    front (bytes ++ rest) = .event e rest := by
  cases h with
  | ack => simp [front]
  | packet hp hd =>
    simp only [List.cons_append, List.append_assoc, List.nil_append]
    rw [front_packet hp, Packet.verify_of_agrees hd]

theorem front_of_incomplete {bytes : Bytes} (h : Incomplete bytes) : front bytes = .incomplete := by
  cases h with
  | empty => rfl
  | unterminated hp => simp [front, packetStart_ne_ack, dropWhile_eq_nil hp]
  | @trailer p t hp ht =>
    match t, ht with
    | [], _ => simp [front, packetStart_ne_ack, dropWhile_payload hp]
    | [b], _ => simp [front, packetStart_ne_ack, dropWhile_payload hp]

theorem front_of_breaks {bytes : Bytes} {v : Violation} (h : Breaks bytes v) :
    front bytes = .broken v := by
  cases h with
  | lead ha hs => simp [front, ha, hs]
  | digits hp hd => rw [front_packet hp, Packet.verify_of_no_digits hd]
  | mismatch hp hd hn => rw [front_packet hp, Packet.verify_of_differs hd hn]

theorem front_cases (bytes : Bytes) :
    (∃ e enc rest, Event.Encoding e enc ∧ bytes = enc ++ rest) ∨ Incomplete bytes ∨
      ∃ v, Breaks bytes v := by
  match bytes with
  | [] => exact .inr (.inl .empty)
  | b :: rest =>
    by_cases ha : b = Wire.ack
    · exact .inl ⟨.ack, [b], rest, ha ▸ .ack, rfl⟩
    by_cases hs : b = Wire.packetStart
    · subst hs
      rcases payload_cases rest with hp | ⟨p, t, hp, rfl⟩
      · exact .inr (.inl (.unterminated hp))
      match t with
      | [] => exact .inr (.inl (.trailer hp (by simp)))
      | [_] => exact .inr (.inl (.trailer hp (by simp)))
      | high :: low :: t =>
        by_cases hd : ∃ n, Hex.Stated high low n
        · obtain ⟨n, hd⟩ := hd
          by_cases hn : n = byteSum p
          · subst hn
            exact .inl ⟨.packet (.ofPayload p), _, t, .packet hp hd, by simp⟩
          · exact .inr (.inr ⟨_, .mismatch hp hd hn t⟩)
        · exact .inr (.inr ⟨_, .digits hp (fun n h => hd ⟨n, h⟩) t⟩)
    · exact .inr (.inr ⟨_, .lead ha hs rest⟩)

theorem front_eq_event_iff {bytes rest : Bytes} {e : Event} :
    front bytes = .event e rest ↔ ∃ enc, e.Encoding enc ∧ bytes = enc ++ rest := by
  constructor
  · intro h
    rcases front_cases bytes with ⟨e', enc, rest', he, rfl⟩ | hi | ⟨v, hv⟩
    · rw [front_of_encoding he, Front.event.injEq] at h
      obtain ⟨rfl, rfl⟩ := h
      exact ⟨enc, he, rfl⟩
    · rw [front_of_incomplete hi] at h; cases h
    · rw [front_of_breaks hv] at h; cases h
  · rintro ⟨enc, he, rfl⟩
    exact front_of_encoding he rest

theorem front_eq_incomplete_iff {bytes : Bytes} : front bytes = .incomplete ↔ Incomplete bytes := by
  constructor
  · intro h
    rcases front_cases bytes with ⟨e', enc, rest', he, rfl⟩ | hi | ⟨v, hv⟩
    · rw [front_of_encoding he] at h; cases h
    · exact hi
    · rw [front_of_breaks hv] at h; cases h
  · exact front_of_incomplete

theorem front_eq_broken_iff {bytes : Bytes} {v : Violation} :
    front bytes = .broken v ↔ Breaks bytes v := by
  constructor
  · intro h
    rcases front_cases bytes with ⟨e', enc, rest', he, rfl⟩ | hi | ⟨w, hw⟩
    · rw [front_of_encoding he] at h; cases h
    · rw [front_of_incomplete hi] at h; cases h
    · rw [front_of_breaks hw, Front.broken.injEq] at h
      exact h ▸ hw
  · exact front_of_breaks

/-! ## Later bytes -/

theorem front_append_of_event {bytes rest : Bytes} {e : Event} (h : front bytes = .event e rest)
    (more : Bytes) : front (bytes ++ more) = .event e (rest ++ more) := by
  obtain ⟨enc, he, rfl⟩ := front_eq_event_iff.mp h
  rw [List.append_assoc]
  exact front_of_encoding he _

theorem Breaks.append {bytes : Bytes} {v : Violation} (h : Breaks bytes v) (more : Bytes) :
    Breaks (bytes ++ more) v := by
  cases h with
  | lead ha hs rest => exact .lead ha hs (rest ++ more)
  | digits hp hd rest => simpa using Breaks.digits hp hd (rest ++ more)
  | mismatch hp hd hn rest => simpa using Breaks.mismatch hp hd hn (rest ++ more)

theorem front_append_of_broken {bytes : Bytes} {v : Violation} (h : front bytes = .broken v)
    (more : Bytes) : front (bytes ++ more) = .broken v :=
  front_of_breaks ((front_eq_broken_iff.mp h).append more)

theorem length_lt_of_front {bytes rest : Bytes} {e : Event} (h : front bytes = .event e rest) :
    rest.length < bytes.length := by
  obtain ⟨enc, he, rfl⟩ := front_eq_event_iff.mp h
  have := List.length_pos_iff.mpr he.ne_nil
  simp only [List.length_append]
  omega

end Receiver

end RemoteStub
