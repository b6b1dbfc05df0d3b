import RemoteStub.Command.Parse
import RemoteStub.Proofs.Numeric
import RemoteStub.Proofs.Text.Fields
import RemoteStub.Proofs.Text.Utf8

/-!
# Readers of command fields

For each form of command with fields, what it is read as (`parseWriteRegister_eq_ok_iff`
and its like) and when it is refused (`parseWriteRegister_refuses_iff` and its like),
said of the text and not of the way in which it is cut. The numbers in the fields are
those that stand there (`numberFields_exact`).
-/

namespace RemoteStub

theorem bind_eq_ok_iff {ε α β : Type} {x : Except ε α} {f : α → Except ε β} {b : β} :
    x >>= f = .ok b ↔ ∃ a, x = .ok a ∧ f a = .ok b := by
  cases x with
  | error e => exact ⟨nofun, nofun⟩
  | ok a => exact ⟨fun h => ⟨a, rfl, h⟩, fun ⟨_, ha, h⟩ => by cases ha; exact h⟩

theorem pure_eq_ok_iff {ε α : Type} {a b : α} : (pure a : Except ε α) = .ok b ↔ b = a := by
  constructor
  · rintro ⟨rfl⟩
    rfl
  · rintro rfl
    rfl

theorem exists_error_iff {ε α : Type} {x : Except ε α} :
    (∃ e, x = .error e) ↔ ¬ ∃ a, x = .ok a := by
  cases x <;> simp

/-- What is made of two fields, where nothing is made of any other number of them. -/
theorem pair_eq_ok_iff {ε α : Type} {fields : List Text} {f : Text → Text → Except ε α} {e : ε}
    {v : α} :
    (match fields with
      | [a, b] => f a b
      | _ => .error e) = .ok v ↔ ∃ a b, fields = [a, b] ∧ f a b = .ok v := by
  split
  next a b =>
    constructor
    · intro h
      exact ⟨a, b, rfl, h⟩
    · rintro ⟨_, _, heq, h⟩
      cases heq
      exact h
  next hf =>
    constructor
    · nofun
    · rintro ⟨a, b, heq, -⟩
      exact absurd heq (hf a b)

namespace Command

variable {field rest : Text} {c : Command}

/-! ## Numbers and ranges -/

/-- A field that is read as an unsigned number. -/
def IsUnsigned (field : Text) : Prop := ∃ n, Numeric.unsigned? field = some n

def IsSigned (field : Text) : Prop := ∃ v, Numeric.signed? field = some v

/-- Two unsigned fields around the only comma. -/
def Spans (field : Text) (address length : UInt64) : Prop :=
  ∃ a b, field = a ++ ',' :: b ∧ ',' ∉ a ∧ ',' ∉ b ∧
    Numeric.unsigned? a = some address ∧ Numeric.unsigned? b = some length

def IsRange (field : Text) : Prop := ∃ address length, Spans field address length

theorem spans_iff {x y : UInt64} :
    Spans field x y ↔
      ∃ a b, field.fields ',' = [a, b] ∧
        Numeric.unsigned? a = some x ∧ Numeric.unsigned? b = some y := by
  simp only [Spans, Text.fields_eq_pair_iff, and_assoc]

theorem not_mem_of_spans {x y : UInt64} (h : Spans field x y) : ':' ∉ field := by
  obtain ⟨a, b, rfl, -, -, ha, hb⟩ := h
  have ha := Numeric.not_mem_of_unsigned? ha ':' (by decide) (by decide)
  have hb := Numeric.not_mem_of_unsigned? hb ':' (by decide) (by decide)
  simp [ha, hb]

theorem spans_toDigits {x y : Nat} (hx : x < UInt64.size) (hy : y < UInt64.size) :
    Spans (Nat.toDigits 16 x ++ ',' :: Nat.toDigits 16 y) (.ofNat x) (.ofNat y) := by
  have hx := Numeric.unsigned?_toDigits hx
  have hy := Numeric.unsigned?_toDigits hy
  have hxc := Numeric.not_mem_of_unsigned? hx ',' (by decide) (by decide)
  have hyc := Numeric.not_mem_of_unsigned? hy ',' (by decide) (by decide)
  exact ⟨_, _, rfl, hxc, hyc, hx, hy⟩

theorem unsignedField_eq_ok_iff {what : String} {n : UInt64} :
    unsignedField what field = .ok n ↔ Numeric.unsigned? field = some n := by
  unfold unsignedField
  cases Numeric.unsigned? field <;> simp

theorem signedField_eq_ok_iff {what : String} {v : Int64} :
    signedField what field = .ok v ↔ Numeric.signed? field = some v := by
  unfold signedField
  cases Numeric.signed? field <;> simp

theorem rangeField_eq_ok_iff {range : UInt64 × UInt64} :
    rangeField field = .ok range ↔ Spans field range.1 range.2 := by
  rw [spans_iff]
  unfold rangeField
  apply pair_eq_ok_iff.trans
  simp only [bind_eq_ok_iff, unsignedField_eq_ok_iff]
  constructor
  · rintro ⟨a, b, hf, x, hx, y, hy, ⟨rfl⟩⟩
    exact ⟨a, b, hf, hx, hy⟩
  · rintro ⟨a, b, hf, hx, hy⟩
    exact ⟨a, b, hf, _, hx, _, hy, rfl⟩

/-! ## What is read -/

theorem parseReadMemory_eq_ok_iff :
    parseReadMemory rest = .ok c ↔
      ∃ x y, Spans rest x y ∧ y.toNat ≤ maxReadLength ∧ c = .readMemory x y := by
  simp only [parseReadMemory, bind_eq_ok_iff, rangeField_eq_ok_iff, Prod.exists]
  constructor
  · rintro ⟨x, y, hs, h⟩
    by_cases hy : y.toNat ≤ maxReadLength
    · rw [if_pos hy] at h
      cases h
      exact ⟨x, y, hs, hy, rfl⟩
    · rw [if_neg hy] at h
      cases h
  · rintro ⟨x, y, hs, hy, rfl⟩
    refine ⟨x, y, hs, ?_⟩
    rw [if_pos hy]
    rfl

theorem parseWriteRegister_eq_ok_iff :
    parseWriteRegister rest = .ok c ↔
      ∃ a value, rest.fields '=' = [a, value] ∧
        ∃ n, Numeric.unsigned? a = some n ∧ c = .writeRegister n value := by
  unfold parseWriteRegister
  apply pair_eq_ok_iff.trans
  simp only [bind_eq_ok_iff, unsignedField_eq_ok_iff, pure_eq_ok_iff]

theorem parseWriteMemory_eq_ok_iff :
    parseWriteMemory rest = .ok c ↔
      ∃ range data, rest.fields ':' = [range, data] ∧
        ∃ x y, Spans range x y ∧ c = .writeMemory x y data := by
  unfold parseWriteMemory
  apply pair_eq_ok_iff.trans
  simp only [bind_eq_ok_iff, rangeField_eq_ok_iff, pure_eq_ok_iff, Prod.exists]

theorem parseSelectThread_eq_ok_iff :
    parseSelectThread rest = .ok c ↔
      ∃ op thread v, rest = op :: thread ∧ Numeric.signed? thread = some v ∧
        c = .selectThread op v := by
  cases rest with
  | nil => exact ⟨nofun, nofun⟩
  | cons op thread =>
    simp only [parseSelectThread, bind_eq_ok_iff, signedField_eq_ok_iff]
    constructor
    · rintro ⟨v, hv, ⟨rfl⟩⟩
      exact ⟨op, thread, v, rfl, hv, rfl⟩
    · rintro ⟨_, _, v, ⟨rfl, rfl⟩, hv, rfl⟩
      exact ⟨v, hv, rfl⟩

theorem parseTransfer_eq_ok_iff :
    parseTransfer rest = .ok c ↔
      ∃ object mode annex range, rest.fields ':' = [object, mode, annex, range] ∧
        ∃ x y, Spans range x y ∧ c = .transfer object mode annex x y := by
  unfold parseTransfer
  split
  next object mode annex range hf =>
    simp only [bind_eq_ok_iff, rangeField_eq_ok_iff, Prod.exists]
    constructor
    · rintro ⟨x, y, hs, ⟨rfl⟩⟩
      exact ⟨object, mode, annex, range, hf, x, y, hs, rfl⟩
    · rintro ⟨_, _, _, _, hf', x, y, hs, rfl⟩
      rw [hf] at hf'
      cases hf'
      exact ⟨x, y, hs, rfl⟩
  next hf =>
    constructor
    · nofun
    · rintro ⟨object, mode, annex, range, hf', -⟩
      exact absurd hf' (hf object mode annex range)

/-! ## What is refused -/

theorem unsignedField_refuses_iff {what : String} :
    (∃ e, unsignedField what field = .error e) ↔ ¬ IsUnsigned field := by
  simp only [exists_error_iff, unsignedField_eq_ok_iff, IsUnsigned]

theorem parseReadMemory_refuses_iff :
    (∃ e, parseReadMemory rest = .error e) ↔
      ¬ ∃ x y, Spans rest x y ∧ y.toNat ≤ maxReadLength := by
  rw [exists_error_iff]
  apply not_congr
  simp only [parseReadMemory_eq_ok_iff]
  constructor
  · rintro ⟨_, x, y, hs, hy, -⟩
    exact ⟨x, y, hs, hy⟩
  · rintro ⟨x, y, hs, hy⟩
    exact ⟨_, x, y, hs, hy, rfl⟩

theorem parseWriteRegister_refuses_iff :
    (∃ e, parseWriteRegister rest = .error e) ↔
      rest.count '=' ≠ 1 ∨ ¬ IsUnsigned (rest.takeWhile (· ≠ '=')) := by
  rw [exists_error_iff, ← not_and_or, ← Text.exists_fields_pair_iff]
  apply not_congr
  simp only [parseWriteRegister_eq_ok_iff]
  constructor
  · rintro ⟨_, a, value, hf, n, hn, -⟩
    exact ⟨a, value, hf, n, hn⟩
  · rintro ⟨a, value, hf, n, hn⟩
    exact ⟨_, a, value, hf, n, hn, rfl⟩

theorem parseWriteMemory_refuses_iff :
    (∃ e, parseWriteMemory rest = .error e) ↔
      rest.count ':' ≠ 1 ∨ ¬ IsRange (rest.takeWhile (· ≠ ':')) := by
  rw [exists_error_iff, ← not_and_or, ← Text.exists_fields_pair_iff]
  apply not_congr
  simp only [parseWriteMemory_eq_ok_iff]
  constructor
  · rintro ⟨_, range, data, hf, x, y, hs, -⟩
    exact ⟨range, data, hf, x, y, hs⟩
  · rintro ⟨range, data, hf, x, y, hs⟩
    exact ⟨_, range, data, hf, x, y, hs, rfl⟩

theorem parseSelectThread_refuses_iff :
    (∃ e, parseSelectThread rest = .error e) ↔ rest = [] ∨ ¬ IsSigned rest.tail := by
  cases rest with
  | nil => exact ⟨fun _ => .inl rfl, fun _ => ⟨_, rfl⟩⟩
  | cons op thread =>
    rw [exists_error_iff]
    simp only [parseSelectThread_eq_ok_iff, List.cons.injEq, List.tail_cons, reduceCtorEq, false_or]
    apply not_congr
    constructor
    · rintro ⟨_, _, _, v, ⟨rfl, rfl⟩, hv, -⟩
      exact ⟨v, hv⟩
    · rintro ⟨v, hv⟩
      exact ⟨_, op, thread, v, ⟨rfl, rfl⟩, hv, rfl⟩

theorem parseTransfer_refuses_iff :
    (∃ e, parseTransfer rest = .error e) ↔
      rest.count ':' ≠ 3 ∨ ¬ IsRange (rest.rtakeWhile (· ≠ ':')) := by
  rw [exists_error_iff, ← not_and_or, ← Text.exists_fields_four_iff]
  apply not_congr
  simp only [parseTransfer_eq_ok_iff]
  constructor
  · rintro ⟨_, object, mode, annex, range, hf, x, y, hs, -⟩
    exact ⟨object, mode, annex, range, hf, x, y, hs⟩
  · rintro ⟨object, mode, annex, range, hf, x, y, hs⟩
    exact ⟨_, object, mode, annex, range, hf, x, y, hs, rfl⟩

/-! ## Numbers as they stand -/

theorem isUnsigned_iff : IsUnsigned field ↔ ∃ n < 2 ^ 64, Numeric.Unsigned field n := by
  simp only [IsUnsigned, Numeric.unsigned?_eq_some_iff]
  constructor
  · rintro ⟨n, h⟩
    exact ⟨n.toNat, n.toNat_lt, h⟩
  · rintro ⟨n, hn, h⟩
    refine ⟨UInt64.ofNat n, ?_⟩
    rwa [UInt64.toNat_ofNat_of_lt' hn]

theorem isSigned_iff : IsSigned field ↔ ∃ v, -2 ^ 63 ≤ v ∧ v < 2 ^ 63 ∧ Numeric.Signed field v := by
  simp only [IsSigned, Numeric.signed?_eq_some_iff]
  constructor
  · rintro ⟨v, h⟩
    exact ⟨v.toInt, v.le_toInt, v.toInt_lt, h⟩
  · rintro ⟨v, hmin, hmax, h⟩
    refine ⟨Int64.ofInt v, ?_⟩
    rwa [Int64.toInt_ofInt_of_le hmin hmax]

theorem unsignedField_eq_error_iff {what : String} {e : DecodeError} :
    unsignedField what field = .error e ↔ e = .notHex what field ∧ ¬ IsUnsigned field := by
  unfold unsignedField IsUnsigned
  cases Numeric.unsigned? field with
  | none => simp [eq_comm]
  | some n => simp

theorem signedField_eq_error_iff {what : String} {e : DecodeError} :
    signedField what field = .error e ↔ e = .notHex what field ∧ ¬ IsSigned field := by
  unfold signedField IsSigned
  cases Numeric.signed? field with
  | none => simp [eq_comm]
  | some v => simp

theorem spans_iff_unsigned {x y : UInt64} :
    Spans field x y ↔
      ∃ a b, field = a ++ ',' :: b ∧ Numeric.Unsigned a x.toNat ∧ Numeric.Unsigned b y.toNat := by
  simp only [Spans, ← Numeric.unsigned?_eq_some_iff]
  constructor
  · rintro ⟨a, b, rfl, -, -, ha, hb⟩
    exact ⟨a, b, rfl, ha, hb⟩
  · rintro ⟨a, b, rfl, ha, hb⟩
    have hac := Numeric.not_mem_of_unsigned? ha ',' (by decide) (by decide)
    have hbc := Numeric.not_mem_of_unsigned? hb ',' (by decide) (by decide)
    exact ⟨a, b, rfl, hac, hbc, ha, hb⟩

/-- **The numbers in a command are those that stand in its fields.** A field is one or more digits
of either case after one plus sign or none, and where it is signed, one minus sign may stand there
instead. However many digits there are, the field is read as the number that they stand for if that
fits in 64 bits. Any other text is refused, with the name and the text of the field. The numbers of
a range and of a thread are such fields. -/
theorem numberFields_exact (what : String) (field : Text) :
    (∀ n, unsignedField what field = .ok n ↔ Numeric.Unsigned field n.toNat) ∧
      (∀ e, unsignedField what field = .error e ↔
        e = .notHex what field ∧ ¬ ∃ n < 2 ^ 64, Numeric.Unsigned field n) ∧
      (∀ v, signedField what field = .ok v ↔ Numeric.Signed field v.toInt) ∧
      (∀ e, signedField what field = .error e ↔
        e = .notHex what field ∧ ¬ ∃ v, -2 ^ 63 ≤ v ∧ v < 2 ^ 63 ∧ Numeric.Signed field v) ∧
      (∀ x y, rangeField field = .ok (x, y) ↔
        ∃ a b, field = a ++ ',' :: b ∧
          Numeric.Unsigned a x.toNat ∧ Numeric.Unsigned b y.toNat) ∧
      ∀ op c, parseSelectThread (op :: field) = .ok c ↔
        ∃ v, Numeric.Signed field v.toInt ∧ c = .selectThread op v := by
  refine ⟨?_, ?_, ?_, ?_, ?_, ?_⟩
  · intro n
    rw [unsignedField_eq_ok_iff, Numeric.unsigned?_eq_some_iff]
  · intro e
    rw [unsignedField_eq_error_iff, isUnsigned_iff]
  · intro v
    rw [signedField_eq_ok_iff, Numeric.signed?_eq_some_iff]
  · intro e
    rw [signedField_eq_error_iff, isSigned_iff]
  · intro x y
    rw [rangeField_eq_ok_iff, spans_iff_unsigned]
  · intro op c
    simp only [parseSelectThread_eq_ok_iff, Numeric.signed?_eq_some_iff]
    constructor
    · rintro ⟨_, _, v, ⟨rfl, rfl⟩, hv, rfl⟩
      exact ⟨v, hv, rfl⟩
    · rintro ⟨v, hv, rfl⟩
      exact ⟨op, field, v, rfl, hv, rfl⟩

/-- The least signed number is read, its opposite does not fit, and zeros in front do not count. -/
example :
    signedField "id" "-8000000000000000".toList = .ok Int64.minValue ∧
      signedField "id" "+8000000000000000".toList =
        .error (.notHex "id" "+8000000000000000".toList) ∧
      unsignedField "id" "+000000000000000000fF".toList = .ok 255 := by
  decide +kernel

/-! ## What follows a keyword -/

/-- A text without its first byte, or nothing where the bytes after that one are no text. -/
def AfterByte (rest args : Text) : Prop :=
  args.toBytes = rest.toBytes.drop 1 ∨ args = [] ∧ ∀ t : Text, t.toBytes ≠ rest.toBytes.drop 1

theorem afterByte_of_toBytes {args t : Text} (h : t.toBytes = rest.toBytes.drop 1) :
    AfterByte rest args ↔ t = args := by
  unfold AfterByte
  rw [← h]
  constructor
  · rintro (heq | ⟨-, hnone⟩)
    · exact (Text.toBytes_injective heq).symm
    · exact absurd rfl (hnone t)
  · rintro rfl
    exact .inl rfl

theorem afterByte_iff {args : Text} : AfterByte rest args ↔ argument rest = args := by
  cases rest with
  | nil => exact afterByte_of_toBytes rfl
  | cons first rest =>
    rw [argument, ← String.length_utf8EncodeChar]
    rcases Text.encode_cases first with ⟨b, hb, -⟩ | ⟨b, b', more, hb, -, hlow, hhigh⟩
    · rw [hb, if_pos List.length_singleton]
      apply afterByte_of_toBytes
      simp [hb]
    · have hnone : ∀ t : Text, t.toBytes ≠ (Text.toBytes (first :: rest)).drop 1 := by
        intro t ht
        rw [Text.toBytes_cons, hb] at ht
        have := Text.begins_of_toBytes ht
        omega
      rw [hb, if_neg (by simp)]
      constructor
      · rintro (h | ⟨h, -⟩)
        · exact absurd h (hnone args)
        · exact h.symm
      · rintro rfl
        exact .inr ⟨rfl, hnone⟩

end Command

end RemoteStub
