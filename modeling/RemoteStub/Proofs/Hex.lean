import RemoteStub.Error
import RemoteStub.Proofs.Text.Utf8

/-!
# Hexadecimal texts

Bytes that are written are read back (`decode_encode`). A text that is no written form is
refused for its odd length, or else at the first byte that is no digit; any other text is read
as the bytes that are written as the text in lower case (`decode_reads`).
-/

namespace RemoteStub.Hex

/-! ## Digits -/

/-- The digits of either case. -/
def digits : Text := "0123456789abcdefABCDEF".toList

theorem digit?_digitChar : ∀ n < 16, digit? (Nat.digitChar n) = some n := by decide

/-- The byte that a digit is written as. -/
def digitByte (n : Nat) : UInt8 := UInt8.ofNat (Nat.digitChar n).toNat

theorem encode_digitChar : ∀ n < 16, String.utf8EncodeChar (Nat.digitChar n) = [digitByte n] := by
  decide

theorem digit?_digitByte : ∀ n < 16, digit? (latin (digitByte n)) = some n := by
  decide

theorem digit?_ranges {c : Char} {x : Nat} (h : digit? c = some x) :
    48 ≤ c.toNat ∧ c.toNat ≤ 57 ∧ x = c.toNat - 48 ∨
      97 ≤ c.toNat ∧ c.toNat ≤ 102 ∧ x = c.toNat - 87 ∨
      65 ≤ c.toNat ∧ c.toNat ≤ 70 ∧ x = c.toNat - 55 := by
  unfold digit? at h
  split at h
  next hc =>
    cases h
    exact .inl ⟨hc.1, hc.2, rfl⟩
  split at h
  next hc =>
    cases h
    exact .inr (.inl ⟨hc.1, hc.2, rfl⟩)
  split at h
  next hc =>
    cases h
    exact .inr (.inr ⟨hc.1, hc.2, rfl⟩)
  next => cases h

theorem digit?_lt {c : Char} {x : Nat} (h : digit? c = some x) : x < 16 := by
  have := digit?_ranges h
  omega

theorem toNat_lt_of_digit? {c : Char} {x : Nat} (h : digit? c = some x) : c.toNat < 0x80 := by
  have := digit?_ranges h
  omega

theorem toNat_lt_of_mem_digits {c : Char} (h : c ∈ digits) : c.toNat < 0x80 := by
  have hall : digits.all (fun c => c.toNat < 0x80) = true := by decide
  exact of_decide_eq_true (List.all_eq_true.mp hall c h)

theorem isSome_digit?_ofNat :
    ∀ n < 0x80, (digit? (Char.ofNat n)).isSome ↔ Char.ofNat n ∈ digits := by
  decide +kernel

theorem isSome_digit?_iff {c : Char} : (digit? c).isSome ↔ c ∈ digits := by
  by_cases hc : c.toNat < 0x80
  · have := isSome_digit?_ofNat c.toNat hc
    rwa [Char.ofNat_toNat] at this
  · constructor
    · intro h
      obtain ⟨x, hx⟩ := Option.isSome_iff_exists.mp h
      exact absurd (toNat_lt_of_digit? hx) hc
    · intro h
      exact absurd (toNat_lt_of_mem_digits h) hc

theorem exists_digit?_of_mem {c : Char} (h : c ∈ digits) : ∃ x, digit? c = some x :=
  Option.isSome_iff_exists.mp (isSome_digit?_iff.mpr h)

theorem digit?_eq_none {c : Char} (h : c ∉ digits) : digit? c = none := by
  rwa [← isSome_digit?_iff, Option.not_isSome_iff_eq_none] at h

theorem toLower_ofNat : ∀ n < 0x80, ∀ x < 16, digit? (Char.ofNat n) = some x →
    (Char.ofNat n).toLower = Nat.digitChar x := by
  decide +kernel

/-- In lower case a digit is the one that is written for its value. -/
theorem toLower_of_digit? {c : Char} {x : Nat} (h : digit? c = some x) :
    c.toLower = Nat.digitChar x := by
  have := toLower_ofNat c.toNat (toNat_lt_of_digit? h) x (digit?_lt h)
  rw [Char.ofNat_toNat] at this
  exact this h

/-- The place of a digit of either case among the sixteen. -/
def digitValue (c : Char) : Nat := "0123456789abcdef".toList.idxOf c.toLower

theorem idxOf_digitChar : ∀ d < 16, "0123456789abcdef".toList.idxOf (Nat.digitChar d) = d := by
  decide

theorem digitValue_of_digit? {c : Char} {d : Nat} (h : digit? c = some d) : digitValue c = d := by
  rw [digitValue, toLower_of_digit? h, idxOf_digitChar d (digit?_lt h)]

theorem digit?_eq_some_iff {c : Char} {d : Nat} :
    digit? c = some d ↔ c ∈ digits ∧ digitValue c = d := by
  constructor
  · intro h
    have hsome : (digit? c).isSome := by simp [h]
    exact ⟨isSome_digit?_iff.mp hsome, digitValue_of_digit? h⟩
  · rintro ⟨hc, rfl⟩
    obtain ⟨d, hd⟩ := exists_digit?_of_mem hc
    rw [hd, digitValue_of_digit? hd]

/-! ## Digits as bytes -/

theorem latin_ofNat : ∀ k < 256, latin (UInt8.ofNat k) ∈ digits → k < 0x80 := by decide +kernel

theorem toNat_lt_of_latin_mem {b : UInt8} (h : latin b ∈ digits) : b.toNat < 0x80 := by
  have := latin_ofNat b.toNat b.toNat_lt
  rw [UInt8.ofNat_toNat] at this
  exact this h

theorem latin_toNat {c : Char} (h : c.toNat < 0x80) : latin (UInt8.ofNat c.toNat) = c := by
  rw [latin, Text.toNat_byte (by omega), Char.ofNat_toNat]

theorem toNat_latin {b : UInt8} (h : b.toNat < 0x80) : (latin b).toNat = b.toNat := by
  have hvalid : b.toNat.isValidChar := .inl (by omega)
  rw [latin, Char.ofNat, dif_pos hvalid]
  rfl

theorem digit?_latin_iff {b : UInt8} {x : Nat} :
    digit? (latin b) = some x ↔ ∃ c ∈ digits, b.toNat = c.toNat ∧ digitValue c = x := by
  rw [digit?_eq_some_iff]
  constructor
  · rintro ⟨hb, hx⟩
    exact ⟨latin b, hb, (toNat_latin (toNat_lt_of_latin_mem hb)).symm, hx⟩
  · rintro ⟨c, hc, hb, hx⟩
    have hlatin : latin b = c := by rw [latin, hb, Char.ofNat_toNat]
    rw [hlatin]
    exact ⟨hc, hx⟩

/-- All bytes of a character beyond ASCII lie beyond the digits. -/
theorem forall_mem_encode_iff {c : Char} :
    (∀ b ∈ String.utf8EncodeChar c, latin b ∈ digits) ↔ c ∈ digits := by
  constructor
  · intro h
    have hlead : ∃ b ∈ String.utf8EncodeChar c, latin b ∈ digits := by
      obtain ⟨b, hb⟩ := List.exists_mem_of_ne_nil _ (String.utf8EncodeChar_ne_nil (c := c))
      exact ⟨b, hb, h b hb⟩
    obtain ⟨b, hb, hdigit⟩ := hlead
    rw [Text.mem_encode_iff (toNat_lt_of_latin_mem hdigit)] at hb
    rwa [latin, hb, Char.ofNat_toNat] at hdigit
  · intro h
    have hc := toNat_lt_of_mem_digits h
    rw [Text.encode_of_lt hc, List.forall_mem_singleton, latin_toNat hc]
    exact h

theorem forall_mem_toBytes_iff {t : Text} :
    (∀ b ∈ t.toBytes, latin b ∈ digits) ↔ ∀ c ∈ t, c ∈ digits := by
  simp only [Text.toBytes, List.forall_mem_flatMap, forall_mem_encode_iff]

theorem map_latin_toBytes {t : Text} (h : ∀ c ∈ t, c ∈ digits) : t.toBytes.map latin = t := by
  induction t with
  | nil => rfl
  | cons c t ih =>
    rw [List.forall_mem_cons] at h
    have hc := toNat_lt_of_mem_digits h.1
    rw [Text.toBytes_cons, List.map_append, ih h.2, Text.encode_of_lt hc, List.map_singleton,
      latin_toNat hc, List.singleton_append]

/-! ## Reading bytes -/

theorem encode_cons (b : UInt8) (bytes : Bytes) : encode (b :: bytes) = octet b ++ encode bytes := rfl

theorem octet_ofNat {x y : Nat} (hx : x < 16) (hy : y < 16) :
    octet (UInt8.ofNat (16 * x + y)) = [Nat.digitChar x, Nat.digitChar y] := by
  have hb : (UInt8.ofNat (16 * x + y)).toNat = 16 * x + y := Text.toNat_byte (by omega)
  rw [octet, hb, show (16 * x + y) / 16 = x by omega, show (16 * x + y) % 16 = y by omega]

theorem decodeFrom_of_digits {bytes : Bytes} (i : Nat) (heven : bytes.length % 2 = 0)
    (h : ∀ b ∈ bytes, latin b ∈ digits) :
    ∃ out, decodeFrom i bytes = .ok out ∧ encode out = (bytes.map latin).map Char.toLower := by
  fun_induction decodeFrom i bytes with
  | case1 i => exact ⟨[], rfl, rfl⟩
  | case2 i b => simp at heven
  | case3 i high low rest hhigh =>
    obtain ⟨x, hx⟩ := exists_digit?_of_mem (h high (by simp))
    rw [hx] at hhigh
    cases hhigh
  | case4 i high low rest x hlow hx =>
    obtain ⟨y, hy⟩ := exists_digit?_of_mem (h low (by simp))
    rw [hy] at hlow
    cases hlow
  | case5 i high low rest x y hy hx ih =>
    rw [List.forall_mem_cons, List.forall_mem_cons] at h
    obtain ⟨out, hout, henc⟩ := ih (by simp only [List.length_cons] at heven; omega) h.2.2
    refine ⟨UInt8.ofNat (16 * x + y) :: out, by rw [hout]; rfl, ?_⟩
    rw [encode_cons, octet_ofNat (digit?_lt hx) (digit?_lt hy), henc]
    simp [toLower_of_digit? hx, toLower_of_digit? hy]

/-- The digits before the byte go in pairs, so it is the first or the second of its own. -/
theorem decodeFrom_of_notDigit {b : UInt8} {after : Bytes} (hb : latin b ∉ digits) :
    ∀ (i : Nat) {before : Bytes}, (before ++ b :: after).length % 2 = 0 →
      (∀ x ∈ before, latin x ∈ digits) →
      decodeFrom i (before ++ b :: after) = .error (.notDigit b (i + before.length))
  | i, [], heven, _ => by
    cases after with
    | nil => simp at heven
    | cons low rest => simp [decodeFrom, digit?_eq_none hb]
  | i, [x], _, h => by
    obtain ⟨n, hn⟩ := exists_digit?_of_mem (h x (by simp))
    simp [decodeFrom, hn, digit?_eq_none hb]
  | i, x :: y :: before, heven, h => by
    rw [List.forall_mem_cons, List.forall_mem_cons] at h
    obtain ⟨n, hn⟩ := exists_digit?_of_mem h.1
    obtain ⟨m, hm⟩ := exists_digit?_of_mem h.2.1
    have heven : (before ++ b :: after).length % 2 = 0 := by
      simp only [List.cons_append, List.length_cons] at heven
      omega
    have ih := decodeFrom_of_notDigit hb (i + 2) heven h.2.2
    simp only [List.cons_append, decodeFrom, hn, hm, ih, List.length_cons, Except.map]
    rw [show i + 2 + before.length = i + (before.length + 1 + 1) by omega]

/-! ## Reading texts -/

theorem toBytes_octet (b : UInt8) :
    Text.toBytes (octet b) = [digitByte (b.toNat / 16), digitByte (b.toNat % 16)] := by
  have hb := b.toNat_lt
  have hhigh : b.toNat / 16 < 16 := by omega
  have hlow : b.toNat % 16 < 16 := by omega
  simp [octet, encode_digitChar _ hhigh, encode_digitChar _ hlow]

theorem length_toBytes_encode (bytes : Bytes) :
    (encode bytes).toBytes.length = 2 * bytes.length := by
  induction bytes with
  | nil => rfl
  | cons b bytes ih =>
    rw [encode_cons, Text.toBytes_append, toBytes_octet, List.length_append, ih]
    simp only [List.length_cons, List.length_nil]
    omega

theorem decodeFrom_toBytes_encode (i : Nat) (bytes : Bytes) :
    decodeFrom i (encode bytes).toBytes = .ok bytes := by
  induction bytes generalizing i with
  | nil => rfl
  | cons b bytes ih =>
    have hb := b.toNat_lt
    have hhigh := digit?_digitByte (b.toNat / 16) (by omega)
    have hlow := digit?_digitByte (b.toNat % 16) (by omega)
    rw [encode_cons, Text.toBytes_append, toBytes_octet]
    simp only [List.cons_append, List.nil_append, decodeFrom, hhigh, hlow, ih, Except.map,
      Nat.div_add_mod, UInt8.ofNat_toNat]

theorem decode_of_odd {t : Text} (h : t.toBytes.length % 2 = 1) : decode t = .error .oddLength := by
  rw [decode, if_pos h]

theorem decode_of_even {t : Text} (h : t.toBytes.length % 2 = 0) :
    decode t = decodeFrom 0 t.toBytes := by
  rw [decode, if_neg (by omega)]

/-- **Bytes that are written are read back.** -/
theorem decode_encode (bytes : Bytes) : decode (encode bytes) = .ok bytes := by
  have heven : (encode bytes).toBytes.length % 2 = 0 := by
    rw [length_toBytes_encode]
    omega
  rw [decode_of_even heven, decodeFrom_toBytes_encode]

theorem encode_injective {a b : Bytes} (h : encode a = encode b) : a = b := by
  have ha := decode_encode a
  rw [h, decode_encode b] at ha
  cases ha
  rfl

theorem decode_of_digits {t : Text} (heven : t.toBytes.length % 2 = 0) (h : ∀ c ∈ t, c ∈ digits) :
    ∃ out, decode t = .ok out ∧ encode out = t.map Char.toLower := by
  have := decodeFrom_of_digits 0 heven (forall_mem_toBytes_iff.mpr h)
  rwa [map_latin_toBytes h, ← decode_of_even heven] at this

/-- A byte of the text that is no digit, with nothing but digits before it. -/
def Offends (t : Text) (b : UInt8) (i : Nat) : Prop :=
  ∃ before after, t.toBytes = before ++ b :: after ∧ before.length = i ∧
    (∀ x ∈ before, latin x ∈ digits) ∧ latin b ∉ digits

theorem decode_of_offends {t : Text} {b : UInt8} {i : Nat} (heven : t.toBytes.length % 2 = 0)
    (h : Offends t b i) : decode t = .error (.notDigit b i) := by
  obtain ⟨before, after, ht, rfl, hbefore, hb⟩ := h
  rw [decode_of_even heven]
  rw [ht] at heven ⊢
  rw [decodeFrom_of_notDigit hb 0 heven hbefore, Nat.zero_add]

theorem digits_or_offends (t : Text) : (∀ c ∈ t, c ∈ digits) ∨ ∃ b i, Offends t b i := by
  rw [← forall_mem_toBytes_iff]
  cases h : t.toBytes.find? fun b => latin b ∉ digits with
  | none =>
    left
    intro b hb
    simpa using List.find?_eq_none.mp h b hb
  | some b =>
    right
    obtain ⟨hb, before, after, ht, hbefore⟩ := List.find?_eq_some_iff_append.mp h
    refine ⟨b, before.length, before, after, ht, rfl, ?_, by simpa using hb⟩
    intro x hx
    simpa using hbefore x hx

inductive Reads (t : Text) : Except Error Bytes → Prop
  | odd (h : t.toBytes.length % 2 = 1) : Reads t (.error .oddLength)
  | offends {b : UInt8} {i : Nat} (heven : t.toBytes.length % 2 = 0) (h : Offends t b i) :
      Reads t (.error (.notDigit b i))
  | bytes {out : Bytes} (heven : t.toBytes.length % 2 = 0) (h : ∀ c ∈ t, c ∈ digits)
      (henc : encode out = t.map Char.toLower) : Reads t (.ok out)

theorem reads_decode (t : Text) : Reads t (decode t) := by
  rcases Nat.mod_two_eq_zero_or_one t.toBytes.length with heven | hodd
  · rcases digits_or_offends t with h | ⟨b, i, h⟩
    · obtain ⟨out, hout, henc⟩ := decode_of_digits heven h
      rw [hout]
      exact .bytes heven h henc
    · rw [decode_of_offends heven h]
      exact .offends heven h
  · rw [decode_of_odd hodd]
    exact .odd hodd

theorem decode_eq_ok_iff {t : Text} {bytes : Bytes} : decode t = .ok bytes ↔
    t.toBytes.length % 2 = 0 ∧ (∀ c ∈ t, c ∈ digits) ∧ encode bytes = t.map Char.toLower := by
  constructor
  · intro h
    have hr := reads_decode t
    rw [h] at hr
    cases hr with
    | bytes heven hdigits henc => exact ⟨heven, hdigits, henc⟩
  · rintro ⟨heven, hdigits, henc⟩
    obtain ⟨out, hout, henc'⟩ := decode_of_digits heven hdigits
    rw [hout, encode_injective (henc'.trans henc.symm)]

theorem decode_eq_oddLength_iff {t : Text} :
    decode t = .error .oddLength ↔ t.toBytes.length % 2 = 1 := by
  constructor
  · intro h
    have hr := reads_decode t
    rw [h] at hr
    cases hr with
    | odd hodd => exact hodd
  · exact decode_of_odd

theorem decode_eq_notDigit_iff {t : Text} {b : UInt8} {i : Nat} :
    decode t = .error (.notDigit b i) ↔ t.toBytes.length % 2 = 0 ∧ Offends t b i := by
  constructor
  · intro h
    have hr := reads_decode t
    rw [h] at hr
    cases hr with
    | offends heven hoffends => exact ⟨heven, hoffends⟩
  · rintro ⟨heven, hoffends⟩
    exact decode_of_offends heven hoffends

theorem decodeHex_of_ok {t : Text} {bytes : Bytes} (h : decode t = .ok bytes) :
    decodeHex t = .ok bytes := by
  rw [decodeHex, h]
  rfl

theorem decodeHex_of_error {t : Text} {cause : Error} (h : decode t = .error cause) :
    decodeHex t = .error (.hex cause) := by
  rw [decodeHex, h]
  rfl

theorem decodeHex_eq_ok_iff {t : Text} {bytes : Bytes} :
    decodeHex t = .ok bytes ↔ decode t = .ok bytes := by
  cases h : decode t with
  | ok out => simp [decodeHex_of_ok h]
  | error cause => simp [decodeHex_of_error h]

theorem decodeHex_eq_error_iff {t : Text} {e : RemoteStub.Error} :
    decodeHex t = .error e ↔ ∃ cause, decode t = .error cause ∧ e = .hex cause := by
  cases h : decode t with
  | ok out => simp [decodeHex_of_ok h]
  | error cause => simp [decodeHex_of_error h, eq_comm]

theorem decodeHex_eq_hex_iff {t : Text} {cause : Error} :
    decodeHex t = .error (.hex cause) ↔ decode t = .error cause := by
  simp [decodeHex_eq_error_iff]

/-- **What is written is read back, and what is read is written in lower case.** A text is read
just if it has an even number of bytes and holds nothing but digits. Otherwise an odd number of
bytes is reported, whatever else is wrong, and with an even number the first byte that is no
digit, with its position. -/
theorem decode_reads :
    (∀ bytes : Bytes, decodeHex (encode bytes) = .ok bytes) ∧
      ∀ t : Text,
        ((∃ bytes, decodeHex t = .ok bytes) ↔
          t.toBytes.length % 2 = 0 ∧ ∀ c ∈ t, c ∈ digits) ∧
        (∀ bytes, decodeHex t = .ok bytes ↔
          t.toBytes.length % 2 = 0 ∧ (∀ c ∈ t, c ∈ digits) ∧
            encode bytes = t.map Char.toLower) ∧
        (decodeHex t = .error (.hex .oddLength) ↔ t.toBytes.length % 2 = 1) ∧
        (∀ b i, decodeHex t = .error (.hex (.notDigit b i)) ↔
          t.toBytes.length % 2 = 0 ∧ Offends t b i) ∧
        ∀ e, decodeHex t = .error e → e.category = .hex := by
  simp only [decodeHex_eq_ok_iff, decodeHex_eq_hex_iff]
  refine ⟨decode_encode, fun t => ⟨?_, ?_, decode_eq_oddLength_iff, ?_, ?_⟩⟩
  · constructor
    · rintro ⟨bytes, h⟩
      obtain ⟨heven, hdigits, -⟩ := decode_eq_ok_iff.mp h
      exact ⟨heven, hdigits⟩
    · rintro ⟨heven, hdigits⟩
      obtain ⟨out, hout, -⟩ := decode_of_digits heven hdigits
      exact ⟨out, hout⟩
  · intro bytes
    exact decode_eq_ok_iff
  · intro b i
    exact decode_eq_notDigit_iff
  · intro e he
    obtain ⟨cause, -, rfl⟩ := decodeHex_eq_error_iff.mp he
    rfl

/-- An odd length is reported before a `z`, and `é` at the first of its two bytes. -/
example : decodeHex "zz0".toList = .error (.hex .oddLength) ∧
    decodeHex "0Fé".toList = .error (.hex (.notDigit 0xc3 2)) := ⟨rfl, rfl⟩

end RemoteStub.Hex
