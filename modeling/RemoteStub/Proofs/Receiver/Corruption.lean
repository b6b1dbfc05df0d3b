import RemoteStub.Proofs.Receiver.Framing

/-!
# Corrupted frames

One byte of a frame is replaced. A checksum tells two payloads apart that differ in one
byte (`checksum_set_ne`), and a digit tells its value but for the case of its letter
(`digit?_eq_iff`). So the receiver refuses the frame, unless a letter of its checksum has
changed its case (`next_corrupted`).
-/

namespace RemoteStub

/-! ## Checksums -/

theorem foldl_add_eq (p : Bytes) (a : UInt8) : p.foldl (· + ·) a = a + checksum p := by
  unfold checksum
  induction p generalizing a with
  | nil => simp
  | cons b p ih => rw [List.foldl_cons, List.foldl_cons, ih, ih (0 + b), UInt8.zero_add, UInt8.add_assoc]

theorem checksum_cons (b : UInt8) (p : Bytes) : checksum (b :: p) = b + checksum p := by
  rw [checksum, List.foldl_cons, foldl_add_eq, UInt8.zero_add]

/-- A checksum changes by what a byte changes by. -/
theorem checksum_set {p : Bytes} {i : Nat} {a : UInt8} (h : p[i]? = some a) (b : UInt8) :
    checksum (p.set i b) + a = checksum p + b := by
  induction p generalizing i with
  | nil => cases h
  | cons c p ih =>
    cases i with
    | zero =>
      cases h
      rw [List.set_cons_zero, checksum_cons, checksum_cons, UInt8.add_comm b, UInt8.add_comm a,
        UInt8.add_assoc, UInt8.add_assoc, UInt8.add_comm b]
    | succ i =>
      rw [List.set_cons_succ, checksum_cons, checksum_cons, UInt8.add_assoc, UInt8.add_assoc, ih h]

theorem checksum_set_ne {p : Bytes} {i : Nat} {a b : UInt8} (h : p[i]? = some a) (hb : b ≠ a) :
    checksum (p.set i b) ≠ checksum p := by
  intro heq
  have := checksum_set h b
  rw [heq, UInt8.add_right_inj] at this
  exact hb this.symm

/-! ## Digits -/

namespace Hex

theorem digit?_latin_ofNat : ∀ k < 256, ∀ x < 16,
    digit? (latin (UInt8.ofNat k)) = some x ↔
      UInt8.ofNat k = digitByte x ∨ latin (UInt8.ofNat k) = (latin (digitByte x)).toUpper := by
  decide +kernel

/-- The digits of a value are the one that is written and its capital. -/
theorem digit?_eq_iff {b : UInt8} {x : Nat} (hx : x < 16) :
    digit? (latin b) = some x ↔ b = digitByte x ∨ latin b = (latin (digitByte x)).toUpper := by
  have := digit?_latin_ofNat b.toNat b.toNat_lt x hx
  rwa [UInt8.ofNat_toNat] at this

theorem stated_high_iff {b : UInt8} {x y : Nat} (hy : y < 16) :
    Stated b (digitByte y) (16 * x + y) ↔ digit? (latin b) = some x := by
  rw [stated_iff]
  constructor
  · rintro ⟨x', y', hx', hy', heq⟩
    rw [digit?_digitByte y hy, Option.some.injEq] at hy'
    have : x' = x := by omega
    rwa [this] at hx'
  · intro h
    exact ⟨x, y, h, digit?_digitByte y hy, rfl⟩

theorem stated_low_iff {b : UInt8} {x y : Nat} (hx : x < 16) :
    Stated (digitByte x) b (16 * x + y) ↔ digit? (latin b) = some y := by
  rw [stated_iff]
  constructor
  · rintro ⟨x', y', hx', hy', heq⟩
    rw [digit?_digitByte x hx, Option.some.injEq] at hx'
    have : y' = y := by omega
    rwa [this] at hy'
  · intro h
    exact ⟨x, y, digit?_digitByte x hx, h, rfl⟩

end Hex

namespace Packet

theorem verify_of_not_stated {p : Bytes} {high low : UInt8}
    (h : ¬ Hex.Stated high low (byteSum p)) : ∃ v, verify p high low = .error v := by
  by_cases hd : ∃ n, Hex.Stated high low n
  · obtain ⟨n, hn⟩ := hd
    exact ⟨_, verify_of_differs hn fun heq => h (heq ▸ hn)⟩
  · exact ⟨_, verify_of_no_digits fun n hn => hd ⟨n, hn⟩⟩

end Packet

namespace Receiver

variable {payload : Bytes} {high low : UInt8}

/-- A new receiver that is fed a frame with the byte at a position replaced, and more bytes. -/
def corrupted (payload : Bytes) (i : Nat) (b : UInt8) (rest : Bytes) : Receiver :=
  ({} : Receiver).feed ((frame payload).set i b ++ rest)

theorem next_feed (bytes : Bytes) : (({} : Receiver).feed bytes).next =
    match front bytes with
    | .event e rest => (.ok (some e), { pending := rest })
    | .broken v => (.error v, ({} : Receiver).feed bytes)
    | .incomplete => (.ok none, parked bytes) :=
  ((sound_of_pending []).feed bytes).next_eq

theorem next_feed_packet (h : Wire.packetEnd ∉ payload) (rest : Bytes) :
    let r := ({} : Receiver).feed
      (Wire.packetStart :: (payload ++ Wire.packetEnd :: high :: low :: rest))
    r.next = match Packet.verify payload high low with
      | .ok p => (.ok (some (.packet p)), { pending := rest })
      | .error v => (.error v, r) := by
  intro r
  rw [next_feed, front_packet h]
  cases Packet.verify payload high low <;> rfl

/-! ## The payload -/

theorem set_frame_payload {i : Nat} (hi : i < payload.length) (b : UInt8) (rest : Bytes) :
    (frame payload).set (i + 1) b ++ rest =
      Wire.packetStart :: (payload.set i b ++ Wire.packetEnd :: (checksumDigits payload ++ rest)) := by
  rw [frame, List.cons_append, List.set_cons_succ, List.set_append_left _ _ hi]
  simp

theorem next_corrupted_payload (h : Wire.packetEnd ∉ payload) (rest : Bytes) {i : Nat} {a b : UInt8}
    (ha : payload[i]? = some a) (hb : b ≠ a) (hend : b ≠ Wire.packetEnd) :
    (corrupted payload (i + 1) b rest).next =
      (.error (.checksumMismatch (checksum payload) (checksum (payload.set i b))),
        corrupted payload (i + 1) b rest) := by
  obtain ⟨hi, -⟩ := List.getElem?_eq_some_iff.mp ha
  obtain ⟨high, low, hd, hstated⟩ := checksumDigits_eq payload
  have hmem : Wire.packetEnd ∉ payload.set i b := by
    intro hx
    rcases List.mem_or_eq_of_mem_set hx with hx | hx
    · exact h hx
    · exact hend hx.symm
  have hne : byteSum payload ≠ byteSum (payload.set i b) := by
    rw [← checksum_toNat, ← checksum_toNat, ne_eq, UInt8.toNat_inj]
    exact (checksum_set_ne ha hb).symm
  have hsum : UInt8.ofNat (byteSum payload) = checksum payload := by
    rw [← checksum_toNat, UInt8.ofNat_toNat]
  rw [corrupted, set_frame_payload hi, hd, List.cons_append, List.cons_append, List.nil_append]
  rw [next_feed_packet hmem, Packet.verify_of_differs hstated hne, hsum]

/-! ## The digits -/

theorem set_frame_digits (i : Nat) (b : UInt8) (rest : Bytes) :
    (frame payload).set (payload.length + 2 + i) b ++ rest =
      Wire.packetStart :: (payload ++ Wire.packetEnd :: ((checksumDigits payload).set i b ++ rest)) := by
  have hpos : payload.length + 2 + i = payload.length + (i + 1) + 1 := by omega
  rw [frame, hpos, List.cons_append, List.set_cons_succ, List.set_append_right _ _ (by omega),
    Nat.add_sub_cancel_left, List.set_cons_succ]
  simp

/-- What becomes of a checksum digit that is replaced: its capital still states it. -/
theorem stated_set_iff {i : Nat} {a b : UInt8} (ha : (checksumDigits payload)[i]? = some a) :
    ∃ high low, (checksumDigits payload).set i b = [high, low] ∧
      (Hex.Stated high low (byteSum payload) ↔
        b = a ∨ Hex.latin b = (Hex.latin a).toUpper) := by
  have hsum : byteSum payload < 256 := Nat.mod_lt _ (by decide)
  have hhigh : byteSum payload / 16 < 16 := by omega
  have hlow : byteSum payload % 16 < 16 := Nat.mod_lt _ (by decide)
  have hsplit := Nat.div_add_mod (byteSum payload) 16
  rw [checksumDigits_eq_digitBytes] at ha ⊢
  match i, ha with
  | 0, rfl =>
    refine ⟨_, _, rfl, ?_⟩
    rw [← Hex.digit?_eq_iff hhigh, ← Hex.stated_high_iff hlow, hsplit]
  | 1, rfl =>
    refine ⟨_, _, rfl, ?_⟩
    rw [← Hex.digit?_eq_iff hlow, ← Hex.stated_low_iff hhigh, hsplit]

theorem next_corrupted_digits (h : Wire.packetEnd ∉ payload) (rest : Bytes) {i : Nat} {a b : UInt8}
    (ha : (checksumDigits payload)[i]? = some a) (hb : b ≠ a) :
    let r := corrupted payload (payload.length + 2 + i) b rest
    (Hex.latin b = (Hex.latin a).toUpper →
      r.next = (.ok (some (.packet (.ofPayload payload))), { pending := rest })) ∧
    (Hex.latin b ≠ (Hex.latin a).toUpper → ∃ v, r.next = (.error v, r)) := by
  obtain ⟨high, low, hset, hstated⟩ := stated_set_iff ha (b := b)
  rw [corrupted, set_frame_digits, hset, List.cons_append, List.cons_append, List.nil_append]
  dsimp only
  rw [next_feed_packet h]
  constructor
  · intro hcase
    rw [Packet.verify_of_agrees (hstated.mpr (.inr hcase))]
  · intro hcase
    obtain ⟨v, hv⟩ := Packet.verify_of_not_stated fun hs => (hstated.mp hs).elim hb hcase
    exact ⟨v, by rw [hv]⟩

/-- **One corrupted byte is found.** In the frame of a payload without `#`, a byte of the payload or
of the checksum is replaced by another one, which in the payload is not `#`. Whatever follows, the
receiver refuses the frame; only a letter of the checksum that became its capital leaves the packet
what it was. -/
theorem next_corrupted (h : Wire.packetEnd ∉ payload) (rest : Bytes) {i : Nat} {a b : UInt8}
    (ha : (frame payload)[i]? = some a) (hb : b ≠ a) :
    let r := corrupted payload i b rest
    (1 ≤ i → i ≤ payload.length → b ≠ Wire.packetEnd →
      r.next = (.error (.checksumMismatch (checksum payload) (checksum (payload.set (i - 1) b))), r)) ∧
    (payload.length + 2 ≤ i →
      (Hex.latin b = (Hex.latin a).toUpper →
        r.next = (.ok (some (.packet (.ofPayload payload))), { pending := rest })) ∧
      (Hex.latin b ≠ (Hex.latin a).toUpper → ∃ v, r.next = (.error v, r))) := by
  intro r
  constructor
  · intro hi hle hend
    obtain ⟨j, rfl⟩ := Nat.exists_eq_add_of_le' hi
    have hj : payload[j]? = some a := by
      rw [frame, List.cons_append, List.getElem?_cons_succ,
        List.getElem?_append_left (by omega)] at ha
      exact ha
    exact next_corrupted_payload h rest hj hb hend
  · intro hi
    obtain ⟨j, rfl⟩ := Nat.exists_eq_add_of_le hi
    have hj : (checksumDigits payload)[j]? = some a := by
      have hpos : payload.length + 2 + j = payload.length + (j + 1) + 1 := by omega
      rw [frame, hpos, List.cons_append, List.getElem?_cons_succ,
        List.getElem?_append_right (by omega), Nat.add_sub_cancel_left,
        List.getElem?_cons_succ] at ha
      exact ha
    exact next_corrupted_digits h rest hj hb

/-- In `$?#3f` the payload, the last digit, or only its case is changed. -/
theorem next_corrupted_halt :
    let payload : Bytes := [0x3f]
    Wire.packetEnd ∉ payload ∧ (frame payload)[1]? = some 0x3f ∧ (frame payload)[4]? = some 0x66 ∧
      (corrupted payload 1 0x40 [0x2b]).next =
        (.error (.checksumMismatch 0x3f 0x40), corrupted payload 1 0x40 [0x2b]) ∧
      (∃ v, (corrupted payload 4 0x23 [0x2b]).next = (.error v, corrupted payload 4 0x23 [0x2b])) ∧
      (corrupted payload 4 0x46 [0x2b]).next =
        (.ok (some (.packet (.ofPayload payload))), { pending := [0x2b] }) := by
  intro payload
  have hmem : Wire.packetEnd ∉ payload := by decide
  have hfirst : (frame payload)[1]? = some 0x3f := by decide
  have hlast : (frame payload)[4]? = some 0x66 := by decide
  refine ⟨hmem, hfirst, hlast, ?_, ?_, ?_⟩
  · exact (next_corrupted hmem [0x2b] hfirst (by decide)).1 (by decide) (by decide) (by decide)
  · exact ((next_corrupted hmem [0x2b] hlast (by decide)).2 (by decide)).2 (by decide)
  · exact ((next_corrupted hmem [0x2b] hlast (by decide)).2 (by decide)).1 (by decide)

end Receiver

end RemoteStub
