import RemoteStub.Text.Utf8
import RemoteStub.Frame

/-!
# Writing and reading texts

Reading is a left inverse of writing (`ofBytes_toBytes`). A byte below 0x80 is written for
one character only (`mem_toBytes_iff`), so a text without `#` is written without the byte that
ends a payload (`packetEnd_not_mem_toBytes`), and it is read as that character only, whatever
stands around it (`mem_ofBytes_iff`).
-/

namespace RemoteStub.Text

/-! ## One character -/

/-- The ways to write a character, by its code. -/
inductive Written (v : Nat) : Bytes → Prop
  | one (h : v < 0x80) : Written v [UInt8.ofNat v]
  | two (h : 0x80 ≤ v) (h' : v < 0x800) :
      Written v [UInt8.ofNat (v / 64 + 0xc0), UInt8.ofNat (v % 64 + 0x80)]
  | three (h : 0x800 ≤ v) (h' : v < 0x10000) :
      Written v [UInt8.ofNat (v / 4096 + 0xe0), UInt8.ofNat (v / 64 % 64 + 0x80),
        UInt8.ofNat (v % 64 + 0x80)]
  | four (h : 0x10000 ≤ v) :
      Written v [UInt8.ofNat (v / 262144 + 0xf0), UInt8.ofNat (v / 4096 % 64 + 0x80),
        UInt8.ofNat (v / 64 % 64 + 0x80), UInt8.ofNat (v % 64 + 0x80)]

/-- The codes of characters leave out the surrogates. -/
theorem toNat_cases (c : Char) : c.toNat < 0xd800 ∨ 0xdfff < c.toNat ∧ c.toNat < 0x110000 :=
  c.valid

theorem written (c : Char) : Written c.toNat (String.utf8EncodeChar c) := by
  have hv := toNat_cases c
  unfold String.utf8EncodeChar
  simp only [show c.val.toNat = c.toNat from rfl]
  generalize c.toNat = v at hv
  by_cases h1 : v ≤ 0x7f
  · rw [if_pos h1]
    exact .one (by omega)
  by_cases h2 : v ≤ 0x7ff
  · rw [if_neg h1, if_pos h2, show v / 64 % 0x20 = v / 64 by omega]
    exact .two (by omega) (by omega)
  by_cases h3 : v ≤ 0xffff
  · rw [if_neg h1, if_neg h2, if_pos h3, show v / 4096 % 0x10 = v / 4096 by omega]
    exact .three (by omega) (by omega)
  · rw [if_neg h1, if_neg h2, if_neg h3, show v / 262144 % 0x08 = v / 262144 by omega]
    exact .four (by omega)

/-! ## Reading it back -/

theorem toNat_byte {n : Nat} (h : n < 256) : (UInt8.ofNat n).toNat = n :=
  UInt8.toNat_ofNat_of_lt' h

theorem ofBytes_of_char {b : UInt8} {c : Char} (h : lead b = .char c) (rest : Bytes) :
    ofBytes (b :: rest) = c :: ofBytes rest := by
  simp [ofBytes, h]

theorem ofBytes_of_opens {b : UInt8} {s : Sequence} (h : lead b = .opens s) (rest : Bytes) :
    ofBytes (b :: rest) = ofBytesIn s rest := by
  simp [ofBytes, h]

theorem ofBytesIn_last {s : Sequence} {n : Nat} (h : s.owed = 1) (hn : n < 64)
    (hl : s.low ≤ n + 0x80) (hh : n + 0x80 ≤ s.high) (rest : Bytes) :
    ofBytesIn s (UInt8.ofNat (n + 0x80) :: rest) =
      Char.ofNat (64 * s.bits + n) :: ofBytes rest := by
  rw [ofBytesIn, toNat_byte (by omega), if_pos ⟨hl, hh⟩, Nat.add_sub_cancel]
  simp [h]

theorem ofBytesIn_more {s : Sequence} {k n : Nat} (h : s.owed = k + 2) (hn : n < 64)
    (hl : s.low ≤ n + 0x80) (hh : n + 0x80 ≤ s.high) (rest : Bytes) :
    ofBytesIn s (UInt8.ofNat (n + 0x80) :: rest) =
      ofBytesIn { bits := 64 * s.bits + n, owed := k + 1 } rest := by
  rw [ofBytesIn, toNat_byte (by omega), if_pos ⟨hl, hh⟩, Nat.add_sub_cancel]
  simp [h]

theorem lead_one {v : Nat} (h : v < 0x80) : lead (UInt8.ofNat v) = .char (Char.ofNat v) := by
  rw [lead, toNat_byte (by omega)]
  exact if_pos h

theorem lead_two {v : Nat} (h : 0x80 ≤ v) (h' : v < 0x800) :
    lead (UInt8.ofNat (v / 64 + 0xc0)) = .opens { bits := v / 64, owed := 1 } := by
  have hb : (UInt8.ofNat (v / 64 + 0xc0)).toNat = v / 64 + 0xc0 :=
    toNat_byte (by omega)
  unfold lead
  simp only [hb]
  rw [if_neg (by omega), if_neg (by omega), if_pos (by omega), Nat.add_sub_cancel]

/-- The range of the second byte leaves out the overlong forms and the surrogates. -/
theorem lead_three {v : Nat} (h : 0x800 ≤ v) (h' : v < 0x10000) (hs : v < 0xd800 ∨ 0xdfff < v) :
    ∃ s, lead (UInt8.ofNat (v / 4096 + 0xe0)) = .opens s ∧ s.bits = v / 4096 ∧ s.owed = 2 ∧
      s.low ≤ v / 64 % 64 + 0x80 ∧ v / 64 % 64 + 0x80 ≤ s.high := by
  have hb : (UInt8.ofNat (v / 4096 + 0xe0)).toNat = v / 4096 + 0xe0 :=
    toNat_byte (by omega)
  unfold lead
  simp only [hb]
  rw [if_neg (by omega), if_neg (by omega), if_neg (by omega)]
  by_cases h0 : v / 4096 + 0xe0 = 0xe0
  · rw [if_pos h0]
    exact ⟨_, rfl, by simp only; omega, rfl, by simp only; omega, by simp only; omega⟩
  by_cases hd : v / 4096 + 0xe0 = 0xed
  · rw [if_neg h0, if_pos hd]
    exact ⟨_, rfl, by simp only; omega, rfl, by simp only; omega, by simp only; omega⟩
  · rw [if_neg h0, if_neg hd, if_pos (by omega)]
    exact ⟨_, rfl, by simp only; omega, rfl, by simp only; omega, by simp only; omega⟩

theorem lead_four {v : Nat} (h : 0x10000 ≤ v) (h' : v < 0x110000) :
    ∃ s, lead (UInt8.ofNat (v / 262144 + 0xf0)) = .opens s ∧ s.bits = v / 262144 ∧ s.owed = 3 ∧
      s.low ≤ v / 4096 % 64 + 0x80 ∧ v / 4096 % 64 + 0x80 ≤ s.high := by
  have hb : (UInt8.ofNat (v / 262144 + 0xf0)).toNat = v / 262144 + 0xf0 :=
    toNat_byte (by omega)
  unfold lead
  simp only [hb]
  rw [if_neg (by omega), if_neg (by omega), if_neg (by omega), if_neg (by omega),
    if_neg (by omega), if_neg (by omega)]
  by_cases h0 : v / 262144 + 0xf0 = 0xf0
  · rw [if_pos h0]
    exact ⟨_, rfl, by simp only; omega, rfl, by simp only; omega, by simp only; omega⟩
  by_cases h3 : v / 262144 + 0xf0 < 0xf4
  · rw [if_neg h0, if_pos h3]
    exact ⟨_, rfl, by simp only; omega, rfl, by simp only; omega, by simp only; omega⟩
  · rw [if_neg h0, if_neg h3, if_pos (by omega)]
    exact ⟨_, rfl, by simp only; omega, rfl, by simp only; omega, by simp only; omega⟩

theorem ofBytes_encode (c : Char) (rest : Bytes) :
    ofBytes (String.utf8EncodeChar c ++ rest) = c :: ofBytes rest := by
  have hv := toNat_cases c
  have hc : Char.ofNat c.toNat = c := Char.ofNat_toNat c
  have hw := written c
  generalize String.utf8EncodeChar c = bytes at hw
  cases hw with
  | one h =>
    rw [List.singleton_append, ofBytes_of_char (lead_one h), hc]
  | two h h' =>
    simp only [List.cons_append, List.nil_append]
    rw [ofBytes_of_opens (lead_two h h'), ofBytesIn_last rfl (by omega) (by simp) (by simp; omega)]
    simp only [Nat.div_add_mod, hc]
  | three h h' =>
    obtain ⟨s, hs, hbits, howed, hlow, hhigh⟩ := lead_three h h' (by omega)
    simp only [List.cons_append, List.nil_append]
    rw [ofBytes_of_opens hs, ofBytesIn_more howed (by omega) hlow hhigh,
      ofBytesIn_last rfl (by omega) (by simp) (by simp; omega), hbits]
    rw [show 64 * (64 * (c.toNat / 4096) + c.toNat / 64 % 64) + c.toNat % 64 = c.toNat by omega, hc]
  | four h =>
    obtain ⟨s, hs, hbits, howed, hlow, hhigh⟩ := lead_four h (by omega)
    simp only [List.cons_append, List.nil_append]
    rw [ofBytes_of_opens hs, ofBytesIn_more howed (by omega) hlow hhigh,
      ofBytesIn_more rfl (by omega) (by simp) (by simp; omega),
      ofBytesIn_last rfl (by omega) (by simp) (by simp; omega), hbits]
    rw [show 64 * (64 * (64 * (c.toNat / 262144) + c.toNat / 4096 % 64) + c.toNat / 64 % 64) +
      c.toNat % 64 = c.toNat by omega, hc]

/-- **A text that is written is read back.** -/
theorem ofBytes_toBytes (t : Text) : ofBytes t.toBytes = t := by
  induction t with
  | nil => simp [ofBytes]
  | cons c t ih => rw [toBytes_cons, ofBytes_encode, ih]

theorem toBytes_injective {t u : Text} (h : t.toBytes = u.toBytes) : t = u := by
  rw [← ofBytes_toBytes t, h, ofBytes_toBytes]

/-! ## Where characters begin -/

/-- A character is one byte, or several of which none but the first begins a character. -/
theorem encode_cases (c : Char) :
    (∃ b, String.utf8EncodeChar c = [b] ∧ b.toNat < 0x80) ∨
      ∃ b b' more, String.utf8EncodeChar c = b :: b' :: more ∧ 0xc0 ≤ b.toNat ∧
        0x80 ≤ b'.toNat ∧ b'.toNat < 0xc0 := by
  have hv := toNat_cases c
  have hw := written c
  generalize String.utf8EncodeChar c = bytes at hw
  cases hw with
  | one h =>
    refine .inl ⟨_, rfl, ?_⟩
    rw [toNat_byte (by omega)]
    exact h
  | two h h' =>
    refine .inr ⟨_, _, _, rfl, ?_⟩
    rw [toNat_byte (by omega), toNat_byte (by omega)]
    omega
  | three h h' =>
    refine .inr ⟨_, _, _, rfl, ?_⟩
    rw [toNat_byte (by omega), toNat_byte (by omega)]
    omega
  | four h =>
    refine .inr ⟨_, _, _, rfl, ?_⟩
    rw [toNat_byte (by omega), toNat_byte (by omega)]
    omega

theorem begins_of_toBytes {t : Text} {b : UInt8} {bytes : Bytes} (h : t.toBytes = b :: bytes) :
    b.toNat < 0x80 ∨ 0xc0 ≤ b.toNat := by
  cases t with
  | nil => cases h
  | cons c t =>
    rw [toBytes_cons] at h
    rcases encode_cases c with ⟨_, hc, hb⟩ | ⟨_, _, _, hc, hb, -⟩
    · rw [hc] at h
      cases h
      exact .inl hb
    · rw [hc] at h
      cases h
      exact .inr hb

/-! ## Bytes below 0x80 -/

/-- Such a byte is written for the character with its code, and for no other. -/
theorem mem_encode_iff {c : Char} {b : UInt8} (hb : b.toNat < 0x80) :
    b ∈ String.utf8EncodeChar c ↔ b.toNat = c.toNat := by
  have hv := toNat_cases c
  have hbyte : ∀ n < 256, b = UInt8.ofNat n ↔ b.toNat = n := by
    intro n hn
    rw [← UInt8.toNat_inj, toNat_byte hn]
  have hw := written c
  generalize String.utf8EncodeChar c = bytes at hw
  cases hw with
  | one h => rw [List.mem_singleton, hbyte _ (by omega)]
  | two h h' =>
    simp only [List.mem_cons, List.not_mem_nil, or_false]
    rw [hbyte _ (by omega), hbyte _ (by omega)]
    omega
  | three h h' =>
    simp only [List.mem_cons, List.not_mem_nil, or_false]
    rw [hbyte _ (by omega), hbyte _ (by omega), hbyte _ (by omega)]
    omega
  | four h =>
    simp only [List.mem_cons, List.not_mem_nil, or_false]
    rw [hbyte _ (by omega), hbyte _ (by omega), hbyte _ (by omega), hbyte _ (by omega)]
    omega

theorem encode_of_lt {c : Char} (h : c.toNat < 0x80) :
    String.utf8EncodeChar c = [UInt8.ofNat c.toNat] := by
  have hw := written c
  generalize String.utf8EncodeChar c = bytes at hw
  cases hw with
  | one => rfl
  | two h' => omega
  | three h' => omega
  | four h' => omega

theorem mem_toBytes_iff {c : Char} (h : c.toNat < 0x80) {t : Text} :
    UInt8.ofNat c.toNat ∈ t.toBytes ↔ c ∈ t := by
  have hb : (UInt8.ofNat c.toNat).toNat = c.toNat := toNat_byte (by omega)
  have hmem (d : Char) : UInt8.ofNat c.toNat ∈ String.utf8EncodeChar d ↔ d = c := by
    rw [mem_encode_iff (by omega), hb, Char.toNat_inj, eq_comm]
  simp only [toBytes, List.mem_flatMap, hmem, exists_eq_right]

theorem packetEnd_not_mem_toBytes {t : Text} (h : '#' ∉ t) : Wire.packetEnd ∉ t.toBytes := by
  have hc : '#'.toNat < 0x80 := by decide
  rw [← mem_toBytes_iff hc] at h
  exact h

/-! ## Reading such a byte -/

/-- What the sequence reads as lies beyond ASCII. -/
structure Sequence.Beyond (s : Sequence) : Prop where
  low : 0x80 ≤ s.low
  more : 2 ≤ 64 * s.bits + (s.low - 0x80)
  last : s.owed ≤ 1 → 0x80 ≤ 64 * s.bits + (s.low - 0x80)

theorem beyond_two {n : Nat} (h : 0xC2 ≤ n) :
    Sequence.Beyond { bits := n - 0xC0, owed := 1 } := by
  refine ⟨Nat.le_refl _, ?_, fun _ => ?_⟩
  · simp only
    omega
  · simp only
    omega

theorem beyond_long {bits owed low high : Nat} (howed : 2 ≤ owed) (hlow : 0x80 ≤ low)
    (h : 2 ≤ 64 * bits + (low - 0x80)) : Sequence.Beyond { bits, owed, low, high } := by
  refine ⟨hlow, h, fun hlast => ?_⟩
  simp only at hlast
  omega

theorem lead_cases (b : UInt8) : b.toNat < 0x80 ∧ lead b = .char (Char.ofNat b.toNat) ∨
    0x80 ≤ b.toNat ∧ (lead b = .illFormed ∨ ∃ s, lead b = .opens s ∧ s.Beyond) := by
  by_cases h : b.toNat < 0x80
  · exact .inl ⟨h, if_pos h⟩
  refine .inr ⟨by omega, ?_⟩
  unfold lead
  simp only [if_neg h]
  split
  next => exact .inl rfl
  split
  next => exact .inr ⟨_, rfl, beyond_two (by omega)⟩
  split
  next => exact .inr ⟨_, rfl, beyond_long (by omega) (by omega) (by omega)⟩
  split
  next => exact .inr ⟨_, rfl, beyond_long (by omega) (by omega) (by omega)⟩
  split
  next => exact .inr ⟨_, rfl, beyond_long (by omega) (by omega) (by omega)⟩
  split
  next => exact .inr ⟨_, rfl, beyond_long (by omega) (by omega) (by omega)⟩
  split
  next => exact .inr ⟨_, rfl, beyond_long (by omega) (by omega) (by omega)⟩
  split
  next => exact .inr ⟨_, rfl, beyond_long (by omega) (by omega) (by omega)⟩
  next => exact .inl rfl

/-- A code that is no character's reads as the character of code zero. -/
theorem eq_ofNat_iff {c : Char} (hpos : 0 < c.toNat) {n : Nat} : c = Char.ofNat n ↔ c.toNat = n := by
  constructor
  · intro h
    by_cases hn : n.isValidChar
    · rw [h, Char.ofNat, dif_pos hn]
      rfl
    · rw [h, Char.ofNat, dif_neg hn] at hpos
      exact absurd hpos (by decide)
  · rintro rfl
    exact (Char.ofNat_toNat c).symm

theorem ofBytes_of_illFormed {b : UInt8} (h : lead b = .illFormed) (rest : Bytes) :
    ofBytes (b :: rest) = replacement :: ofBytes rest := by
  simp [ofBytes, h]

/-- A byte out of range is read afresh. -/
theorem ofBytesIn_of_out {s : Sequence} {b : UInt8} (h : ¬ (s.low ≤ b.toNat ∧ b.toNat ≤ s.high))
    (rest : Bytes) : ofBytesIn s (b :: rest) = replacement :: ofBytes (b :: rest) := by
  rw [ofBytesIn, if_neg h, ofBytes]

section
variable {c : Char} (hpos : 0 < c.toNat) (hlt : c.toNat < 0x80)
include hpos hlt

theorem mem_cons_ofNat_iff {n : Nat} (hn : 0x80 ≤ n) {t : Text} :
    c ∈ Char.ofNat n :: t ↔ c ∈ t := by
  rw [List.mem_cons, eq_ofNat_iff hpos, or_iff_right (by omega)]

theorem mem_cons_replacement_iff {t : Text} : c ∈ replacement :: t ↔ c ∈ t :=
  mem_cons_ofNat_iff hpos hlt (n := 0xFFFD) (by decide)

theorem mem_cons_byte_iff {b : UInt8} {bytes : Bytes} :
    UInt8.ofNat c.toNat ∈ b :: bytes ↔ c.toNat = b.toNat ∨ UInt8.ofNat c.toNat ∈ bytes := by
  rw [List.mem_cons, ← UInt8.toNat_inj, toNat_byte (by omega)]

theorem mem_ofBytes_and_ofBytesIn_iff (bytes : Bytes) :
    (c ∈ ofBytes bytes ↔ UInt8.ofNat c.toNat ∈ bytes) ∧
      ∀ s : Sequence, s.Beyond → (c ∈ ofBytesIn s bytes ↔ UInt8.ofNat c.toNat ∈ bytes) := by
  -- each of the two reads on with the other
  induction bytes with
  | nil =>
    refine ⟨by simp [ofBytes], fun s _ => ?_⟩
    rw [ofBytesIn, mem_cons_replacement_iff hpos hlt]
    simp
  | cons b rest ih =>
    obtain ⟨ih, ihIn⟩ := ih
    have hfirst : c ∈ ofBytes (b :: rest) ↔ UInt8.ofNat c.toNat ∈ b :: rest := by
      rw [mem_cons_byte_iff hpos hlt]
      rcases lead_cases b with ⟨hb, hlead⟩ | ⟨hb, hlead | ⟨s, hlead, hs⟩⟩
      · rw [ofBytes_of_char hlead, List.mem_cons, eq_ofNat_iff hpos, ih]
      · rw [ofBytes_of_illFormed hlead, mem_cons_replacement_iff hpos hlt, ih,
          or_iff_right (by omega)]
      · rw [ofBytes_of_opens hlead, ihIn s hs, or_iff_right (by omega)]
    refine ⟨hfirst, fun s hs => ?_⟩
    by_cases hb : s.low ≤ b.toNat ∧ b.toNat ≤ s.high
    · -- a byte that continues the sequence is no character of its own
      have hlow := hs.low
      have hmore := hs.more
      rw [ofBytesIn, if_pos hb, mem_cons_byte_iff hpos hlt, or_iff_right (by omega)]
      split
      next howed =>
        have := hs.last howed
        rw [mem_cons_ofNat_iff hpos hlt (by omega), ih]
      next howed =>
        apply ihIn
        refine ⟨Nat.le_refl _, ?_, ?_⟩
        · simp only
          omega
        · intro _
          simp only
          omega
    · rw [ofBytesIn_of_out hb, mem_cons_replacement_iff hpos hlt, hfirst]

/-- A character of ASCII, but for code zero, is read from its own byte and from nothing else. -/
theorem mem_ofBytes_iff {bytes : Bytes} : c ∈ ofBytes bytes ↔ UInt8.ofNat c.toNat ∈ bytes :=
  (mem_ofBytes_and_ofBytesIn_iff hpos hlt bytes).1

end

end RemoteStub.Text
