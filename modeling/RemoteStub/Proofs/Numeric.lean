import Mathlib.Data.Nat.Digits.Defs
import RemoteStub.Numeric
import RemoteStub.Proofs.Hex

/-!
# Numbers as fields

A field is read as the number that its digits stand for by their places, and only if that
number fits its width (`unsigned?_eq_some_iff`, `signed?_eq_some_iff`). Hence a number that is
written is read back (`unsigned?_unsigned`, `signed?_signed`), and a field that is read holds
nothing but digits and a sign, so none of the separators (`not_mem_of_unsigned?`).
-/

namespace RemoteStub

namespace Numeric

/-! ## Digits by their places -/

/-- The number that digits stand for, the last of them counting once. -/
def value (digits : Text) : Nat := Nat.ofDigits 16 (digits.reverse.map Hex.digitValue)

/-- One or more digits that stand for `n`. -/
structure Denotes (digits : Text) (n : Nat) : Prop where
  ne_nil : digits ≠ []
  isDigit : ∀ c ∈ digits, c ∈ Hex.digits
  value_eq : value digits = n

theorem value_cons (c : Char) (t : Text) :
    value (c :: t) = 16 ^ t.length * Hex.digitValue c + value t := by
  rw [value, List.reverse_cons, List.map_append, Nat.ofDigits_append, List.map_singleton,
    Nat.ofDigits_singleton, List.length_map, List.length_reverse, Nat.add_comm]
  rfl

/-! ## Reading digits -/

theorem natural?_of_ne_nil {t : Text} (h : t ≠ []) (radix : Nat) :
    natural? radix t = t.foldlM (addDigit radix) 0 := by
  unfold natural?
  rw [if_neg (by simpa using h)]

theorem addDigit_eq_some_iff {n m : Nat} {c : Char} :
    addDigit 16 n c = some m ↔ c ∈ Hex.digits ∧ 16 * n + Hex.digitValue c = m := by
  unfold addDigit
  rw [Option.bind_eq_some_iff]
  constructor
  · rintro ⟨d, hd, h⟩
    rw [if_pos (Hex.digit?_lt hd)] at h
    obtain ⟨hc, rfl⟩ := Hex.digit?_eq_some_iff.mp hd
    exact ⟨hc, Option.some.inj h⟩
  · rintro ⟨hc, rfl⟩
    have hd := Hex.digit?_eq_some_iff.mpr ⟨hc, rfl⟩
    exact ⟨Hex.digitValue c, hd, if_pos (Hex.digit?_lt hd)⟩

theorem foldlM_addDigit_eq_some_iff {t : Text} {n m : Nat} :
    t.foldlM (addDigit 16) n = some m ↔
      (∀ c ∈ t, c ∈ Hex.digits) ∧ 16 ^ t.length * n + value t = m := by
  induction t generalizing n with
  | nil => simp [value]
  | cons c t ih =>
    -- what was read before goes up by as many places as there are digits to come
    have hplaces : 16 ^ t.length * (16 * n + Hex.digitValue c) + value t =
        16 ^ (c :: t).length * n + value (c :: t) := by
      rw [value_cons, List.length_cons]
      ring
    rw [List.foldlM_cons, List.forall_mem_cons, ← hplaces]
    constructor
    · intro h
      obtain ⟨k, hk, h⟩ := Option.bind_eq_some_iff.mp h
      obtain ⟨hc, rfl⟩ := addDigit_eq_some_iff.mp hk
      obtain ⟨ht, h⟩ := ih.mp h
      exact ⟨⟨hc, ht⟩, h⟩
    · rintro ⟨⟨hc, ht⟩, h⟩
      exact Option.bind_eq_some_iff.mpr ⟨_, addDigit_eq_some_iff.mpr ⟨hc, rfl⟩, ih.mpr ⟨ht, h⟩⟩

/-- **Digits are read as the number that they stand for**, however many they are. -/
theorem natural?_eq_some_iff {t : Text} {n : Nat} : natural? 16 t = some n ↔ Denotes t n := by
  by_cases ht : t = []
  · subst ht
    exact ⟨nofun, fun h => absurd rfl h.ne_nil⟩
  · rw [natural?_of_ne_nil ht, foldlM_addDigit_eq_some_iff, Nat.mul_zero, Nat.zero_add]
    constructor
    · rintro ⟨hdigits, hn⟩
      exact ⟨ht, hdigits, hn⟩
    · intro h
      exact ⟨h.isDigit, h.value_eq⟩

/-- The bound can be checked at every digit, so that nothing beyond it is ever held. -/
theorem foldlM_addDigit_filter {bound n : Nat} (hn : n < bound) (t : Text) :
    (t.foldlM (addDigit 16) n).filter (· < bound) =
      t.foldlM (fun n c => (addDigit 16 n c).filter (· < bound)) n := by
  induction t generalizing n with
  | nil => simp [hn]
  | cons c t ih =>
    rw [List.foldlM_cons, List.foldlM_cons]
    cases hc : addDigit 16 n c with
    | none => rfl
    | some k =>
      by_cases hk : k < bound
      · rw [Option.filter_some_pos (by simpa using hk)]
        exact ih hk
      · -- the digits to come only add to what is too much already
        have hlate : (t.foldlM (addDigit 16) k).filter (· < bound) = none := by
          rw [Option.filter_eq_none_iff]
          intro m hm
          obtain ⟨-, rfl⟩ := foldlM_addDigit_eq_some_iff.mp hm
          have hplaces : k ≤ 16 ^ t.length * k := Nat.le_mul_of_pos_left k (by positivity)
          simp only [decide_eq_true_eq]
          omega
        rw [Option.filter_some_neg (by simpa using hk)]
        exact hlate

theorem naturalBelow?_eq {bound : Nat} (hbound : 0 < bound) (t : Text) :
    naturalBelow? bound 16 t = (natural? 16 t).filter (· < bound) := by
  unfold naturalBelow? natural?
  split
  · rfl
  · exact (foldlM_addDigit_filter hbound t).symm

/-- **Digits are read as the number that they stand for**, and only if it is below the bound. -/
theorem naturalBelow?_eq_some_iff {bound n : Nat} {t : Text} (hbound : 0 < bound) :
    naturalBelow? bound 16 t = some n ↔ Denotes t n ∧ n < bound := by
  rw [naturalBelow?_eq hbound, Option.filter_eq_some_iff, natural?_eq_some_iff, decide_eq_true_eq]

theorem Denotes.not_mem {t : Text} {n : Nat} (h : Denotes t n) {c : Char}
    (hc : Hex.digit? c = none) : c ∉ t := by
  intro hmem
  obtain ⟨d, hd⟩ := Hex.exists_digit?_of_mem (h.isDigit c hmem)
  rw [hd] at hc
  cases hc

/-! ## Digits as they are written -/

theorem addDigit_digitChar {d : Nat} (hd : d < 16) (n : Nat) :
    addDigit 16 n (Nat.digitChar d) = some (16 * n + d) := by
  simp [addDigit, Hex.digit?_digitChar d hd, hd]

theorem natural?_append_digit {t : Text} {n d : Nat} (h : natural? 16 t = some n) (hd : d < 16) :
    natural? 16 (t ++ [Nat.digitChar d]) = some (16 * n + d) := by
  have ht : t ≠ [] := by
    rintro rfl
    cases h
  rw [natural?_of_ne_nil ht] at h
  rw [natural?_of_ne_nil (by simp), List.foldlM_append, h]
  simp [addDigit_digitChar hd]

theorem natural?_toDigits (n : Nat) : natural? 16 (Nat.toDigits 16 n) = some n := by
  induction n using Nat.strongRecOn with
  | ind n ih =>
    rw [Nat.toDigits_eq_if (by decide)]
    by_cases h : n < 16
    · rw [if_pos h, natural?_of_ne_nil (by simp)]
      simp [addDigit_digitChar h]
    · rw [if_neg h, natural?_append_digit (ih (n / 16) (by omega)) (Nat.mod_lt n (by decide)),
        Nat.div_add_mod]

theorem denotes_toDigits (n : Nat) : Denotes (Nat.toDigits 16 n) n :=
  natural?_eq_some_iff.mp (natural?_toDigits n)

/-! ## Unsigned fields -/

/-- The unsigned fields, each with the number that it stands for. -/
inductive Unsigned : Text → Nat → Prop
  | plain {digits : Text} {n : Nat} (h : Denotes digits n) : Unsigned digits n
  | plus {digits : Text} {n : Nat} (h : Denotes digits n) : Unsigned ('+' :: digits) n

theorem below?_eq_some_iff {bound n : Nat} {t : Text} (hbound : 0 < bound) :
    below? bound 16 t = some n ↔ Unsigned t n ∧ n < bound := by
  unfold below?
  split
  next digits =>
    rw [naturalBelow?_eq_some_iff hbound]
    apply and_congr_left'
    constructor
    · exact .plus
    · intro h
      cases h with
      | plain h => exact absurd List.mem_cons_self (h.not_mem (by decide))
      | plus h => exact h
  next hplus =>
    rw [naturalBelow?_eq_some_iff hbound]
    apply and_congr_left'
    constructor
    · exact .plain
    · intro h
      cases h with
      | plain h => exact h
      | plus h => exact absurd rfl (hplus _)

/-- **An unsigned field is read as the number that it stands for**, and only if that fits. -/
theorem unsigned?_eq_some_iff {t : Text} {n : UInt64} :
    unsigned? t = some n ↔ Unsigned t n.toNat := by
  unfold unsigned?
  rw [Option.map_eq_some_iff]
  constructor
  · rintro ⟨k, hk, rfl⟩
    obtain ⟨hk, hlt⟩ := (below?_eq_some_iff (by decide)).mp hk
    rwa [UInt64.toNat_ofNat_of_lt' hlt]
  · intro h
    exact ⟨n.toNat, (below?_eq_some_iff (by decide)).mpr ⟨h, n.toNat_lt⟩, UInt64.ofNat_toNat⟩

theorem unsigned?_toDigits {n : Nat} (h : n < UInt64.size) :
    unsigned? (Nat.toDigits 16 n) = some (UInt64.ofNat n) := by
  rw [unsigned?_eq_some_iff, UInt64.toNat_ofNat_of_lt' h]
  exact .plain (denotes_toDigits n)

/-- **An unsigned field that is written is read back.** -/
theorem unsigned?_unsigned (n : UInt64) : unsigned? (unsigned n) = some n :=
  unsigned?_eq_some_iff.mpr (.plain (denotes_toDigits n.toNat))

theorem not_mem_of_unsigned? {t : Text} {n : UInt64} (h : unsigned? t = some n) (sep : Char)
    (hplus : sep ≠ '+') (hdigit : Hex.digit? sep = none) : sep ∉ t := by
  cases unsigned?_eq_some_iff.mp h with
  | plain h => exact h.not_mem hdigit
  | plus h =>
    rw [List.mem_cons, not_or]
    exact ⟨hplus, h.not_mem hdigit⟩

/-! ## Signed fields -/

/-- The signed fields, each with the number that it stands for. -/
inductive Signed : Text → Int → Prop
  | plain {digits : Text} {n : Nat} (h : Denotes digits n) : Signed digits n
  | plus {digits : Text} {n : Nat} (h : Denotes digits n) : Signed ('+' :: digits) n
  | minus {digits : Text} {n : Nat} (h : Denotes digits n) : Signed ('-' :: digits) (-n)

theorem toInt_eq_ofNat_iff {v : Int64} {n : Nat} :
    v.toInt = n ↔ n < 2 ^ 63 ∧ Int64.ofNat n = v := by
  constructor
  · intro h
    have hlt : n < 2 ^ 63 := by
      have := v.toInt_lt
      omega
    refine ⟨hlt, ?_⟩
    rw [← Int64.toInt_inj, Int64.toInt_ofNat_of_lt hlt, h]
  · rintro ⟨hlt, rfl⟩
    exact Int64.toInt_ofNat_of_lt hlt

theorem toInt_eq_neg_iff {v : Int64} {n : Nat} :
    v.toInt = -(n : Int) ↔ n < 2 ^ 63 + 1 ∧ Int64.ofInt (-n) = v := by
  constructor
  · intro h
    refine ⟨?_, by rw [← h, Int64.ofInt_toInt]⟩
    have := v.le_toInt
    omega
  · rintro ⟨hlt, rfl⟩
    exact Int64.toInt_ofInt_of_le (by omega) (by omega)

/-- **A signed field is read as the number that it stands for**, and only if that fits. -/
theorem signed?_eq_some_iff {t : Text} {v : Int64} :
    signed? t = some v ↔ Signed t v.toInt := by
  have hpos : ∀ {digits : Text}, (naturalBelow? (2 ^ 63) 16 digits).map Int64.ofNat = some v ↔
      ∃ n : Nat, Denotes digits n ∧ v.toInt = n := by
    intro digits
    simp only [Option.map_eq_some_iff, naturalBelow?_eq_some_iff (by decide : 0 < 2 ^ 63),
      toInt_eq_ofNat_iff, and_assoc]
  have hneg : ∀ {digits : Text},
      ((naturalBelow? (2 ^ 63 + 1) 16 digits).map fun n : Nat => Int64.ofInt (-n)) = some v ↔
        ∃ n : Nat, Denotes digits n ∧ v.toInt = -n := by
    intro digits
    simp only [Option.map_eq_some_iff, naturalBelow?_eq_some_iff (by decide : 0 < 2 ^ 63 + 1),
      toInt_eq_neg_iff, and_assoc]
  constructor
  · intro h
    unfold signed? at h
    split at h
    · obtain ⟨n, hn, hv⟩ := hpos.mp h
      rw [hv]
      exact .plus hn
    · obtain ⟨n, hn, hv⟩ := hneg.mp h
      rw [hv]
      exact .minus hn
    · obtain ⟨n, hn, hv⟩ := hpos.mp h
      rw [hv]
      exact .plain hn
  · intro h
    generalize hw : v.toInt = w at h
    cases h with
    | plain h =>
      unfold signed?
      split
      · exact absurd List.mem_cons_self (h.not_mem (by decide))
      · exact absurd List.mem_cons_self (h.not_mem (by decide))
      · exact hpos.mpr ⟨_, h, hw⟩
    | plus h => exact hpos.mpr ⟨_, h, hw⟩
    | minus h => exact hneg.mpr ⟨_, h, hw⟩

/-- **A signed field that is written is read back.** -/
theorem signed?_signed (v : Int64) : signed? (signed v) = some v := by
  rw [signed?_eq_some_iff]
  have hdigits := denotes_toDigits v.toInt.natAbs
  unfold signed
  by_cases h : v.toInt < 0
  · have habs : v.toInt = -(v.toInt.natAbs : Int) := by omega
    rw [if_pos h]
    nth_rewrite 2 [habs]
    exact .minus hdigits
  · have habs : v.toInt = (v.toInt.natAbs : Int) := by omega
    rw [if_neg h]
    nth_rewrite 2 [habs]
    exact .plain hdigits

end Numeric

end RemoteStub
