import Mathlib.Data.List.DropRight
import RemoteStub.Proofs.Text.Utf8

/-!
# Fields of a text

The fields of a text are the parts that hold no separator and give the text when they
are joined by it (`fields_eq_iff`). There is one more of them than there are separators
(`length_fields`); the first ends before the first separator, the last begins after the
last one (`head?_fields`, `getLast?_fields`). At a separator of ASCII the written text falls
into the fields as they are written (`splitOn_toBytes`).
-/

namespace RemoteStub.Text

variable {sep : Char} {t : Text}

theorem fields_cons_self (sep : Char) (t : Text) : fields sep (sep :: t) = [] :: fields sep t := by
  simp [fields]

theorem fields_cons_of_ne {c : Char} (h : c ≠ sep) (t : Text) :
    fields sep (c :: t) = (fields sep t).modifyHead (c :: ·) := by
  simp [fields, h]

theorem fields_eq_splitOn (sep : Char) (t : Text) : fields sep t = t.splitOn sep := by
  induction t with
  | nil => rfl
  | cons c t ih =>
    rw [List.splitOn_cons_eq_if_modifyHead, ← ih]
    by_cases h : c = sep
    · subst h
      simp [fields_cons_self]
    · simp [fields_cons_of_ne h, h]

theorem not_mem_of_mem_fields {part : Text} (h : part ∈ fields sep t) : sep ∉ part := by
  induction t generalizing part with
  | nil => simp_all [fields]
  | cons c t ih =>
    by_cases hc : c = sep
    · subst hc
      rw [fields_cons_self, List.mem_cons] at h
      rcases h with rfl | h
      · exact List.not_mem_nil
      · exact ih h
    · rw [fields_cons_of_ne hc] at h
      obtain ⟨first, rest, hf⟩ := List.exists_cons_of_ne_nil (fields_ne_nil sep t)
      rw [hf] at h ih
      rw [List.modifyHead_cons, List.mem_cons] at h
      rcases h with rfl | h
      · have := ih List.mem_cons_self
        simp [this, Ne.symm hc]
      · exact ih (List.mem_cons_of_mem _ h)

theorem fields_eq_iff {parts : List Text} (h : parts ≠ []) :
    fields sep t = parts ↔ t = [sep].intercalate parts ∧ ∀ part ∈ parts, sep ∉ part := by
  constructor
  · rintro rfl
    refine ⟨?_, fun part hp => not_mem_of_mem_fields hp⟩
    rw [fields_eq_splitOn, List.intercalate_splitOn]
  · rintro ⟨rfl, hp⟩
    rw [fields_eq_splitOn, List.splitOn_intercalate sep hp h]

theorem length_fields (sep : Char) (t : Text) : (fields sep t).length = t.count sep + 1 := by
  induction t with
  | nil => rfl
  | cons c t ih =>
    by_cases h : c = sep
    · subst h
      simp [fields_cons_self, ih]
    · simp [fields_cons_of_ne h, ih, h]

theorem head?_fields (sep : Char) (t : Text) :
    (fields sep t).head? = some (t.takeWhile (· ≠ sep)) := by
  induction t with
  | nil => rfl
  | cons c t ih =>
    by_cases h : c = sep
    · subst h
      simp [fields_cons_self]
    · simp [fields_cons_of_ne h, h, List.head?_modifyHead, ih]

theorem getLast?_fields_append {b : Text} (h : sep ∉ b) (a : Text) :
    (fields sep (a ++ sep :: b)).getLast? = some b := by
  rw [fields_eq_splitOn, List.splitOn_append_cons_self, ← fields_eq_splitOn, ← fields_eq_splitOn,
    fields_of_not_mem h]
  simp

theorem getLast?_fields (sep : Char) (t : Text) :
    (fields sep t).getLast? = some (t.rtakeWhile (· ≠ sep)) := by
  have ht : t.rdropWhile (· ≠ sep) ++ t.rtakeWhile (· ≠ sep) = t :=
    List.rdropWhile_append_rtakeWhile
  have hlast : sep ∉ t.rtakeWhile (· ≠ sep) := fun h => by simpa using List.mem_rtakeWhile_imp h
  have hbefore := List.rdropWhile_last_not (· ≠ sep) t
  generalize t.rtakeWhile (· ≠ sep) = last at *
  generalize t.rdropWhile (· ≠ sep) = before at *
  rcases List.eq_nil_or_concat before with rfl | ⟨before, c, rfl⟩
  · rw [← ht, List.nil_append, fields_of_not_mem hlast]
    simp
  · obtain rfl : c = sep := by simpa using hbefore (by simp)
    rw [← ht, List.concat_eq_append, List.append_assoc, List.singleton_append]
    exact getLast?_fields_append hlast before

/-! ## A number of fields that is known -/

theorem fields_eq_pair_iff {a b : Text} :
    fields sep t = [a, b] ↔ t = a ++ sep :: b ∧ sep ∉ a ∧ sep ∉ b := by
  rw [fields_eq_iff (by simp)]
  simp

theorem fields_eq_four_iff {a b c d : Text} :
    fields sep t = [a, b, c, d] ↔
      t = a ++ sep :: b ++ sep :: c ++ sep :: d ∧ sep ∉ a ∧ sep ∉ b ∧ sep ∉ c ∧ sep ∉ d := by
  rw [fields_eq_iff (by simp)]
  simp

theorem exists_fields_pair_iff {P : Text → Prop} :
    (∃ a b, fields sep t = [a, b] ∧ P a) ↔ t.count sep = 1 ∧ P (t.takeWhile (· ≠ sep)) := by
  have hlen := length_fields sep t
  have hhead := head?_fields sep t
  constructor
  · rintro ⟨a, b, hf, hp⟩
    rw [hf] at hlen hhead
    cases hhead
    exact ⟨by simpa using hlen.symm, hp⟩
  · rintro ⟨hc, hp⟩
    rw [hc] at hlen
    obtain ⟨a, b, hf⟩ := List.length_eq_two.mp hlen
    rw [hf] at hhead
    cases hhead
    exact ⟨_, b, hf, hp⟩

theorem exists_fields_four_iff {P : Text → Prop} :
    (∃ a b c d, fields sep t = [a, b, c, d] ∧ P d) ↔
      t.count sep = 3 ∧ P (t.rtakeWhile (· ≠ sep)) := by
  have hlen := length_fields sep t
  have hlast := getLast?_fields sep t
  constructor
  · rintro ⟨a, b, c, d, hf, hp⟩
    rw [hf] at hlen hlast
    cases hlast
    exact ⟨by simpa using hlen.symm, hp⟩
  · rintro ⟨hc, hp⟩
    rw [hc] at hlen
    match hf : fields sep t, hlen with
    | [a, b, c, d], _ =>
      rw [hf] at hlast
      cases hlast
      exact ⟨a, b, c, _, rfl, hp⟩

/-! ## Written fields -/

theorem splitOn_append_of_not_mem {b : UInt8} {encoded : Bytes} (h : b ∉ encoded) (rest : Bytes) :
    (encoded ++ rest).splitOn b = (rest.splitOn b).modifyHead (encoded ++ ·) := by
  induction encoded with
  | nil =>
    rw [List.nil_append]
    cases rest.splitOn b <;> rfl
  | cons a encoded ih =>
    rw [List.mem_cons, not_or] at h
    rw [List.cons_append, List.splitOn_cons_eq_if_modifyHead, ih h.2, if_neg (by simpa using Ne.symm h.1),
      List.modifyHead_modifyHead]
    rfl

theorem splitOn_toBytes (h : sep.toNat < 0x80) (t : Text) :
    t.toBytes.splitOn (UInt8.ofNat sep.toNat) = (fields sep t).map toBytes := by
  induction t with
  | nil => rfl
  | cons c t ih =>
    by_cases hc : c = sep
    · subst hc
      rw [toBytes_cons, encode_of_lt h, List.singleton_append, List.splitOn_cons_eq_if_modifyHead,
        if_pos (by simp), ih, fields_cons_self]
      rfl
    · have hnot : UInt8.ofNat sep.toNat ∉ String.utf8EncodeChar c := by
        have hb : (UInt8.ofNat sep.toNat).toNat = sep.toNat := toNat_byte (by omega)
        rw [mem_encode_iff (by omega), hb, Char.toNat_inj]
        exact Ne.symm hc
      obtain ⟨first, more, hf⟩ := List.exists_cons_of_ne_nil (fields_ne_nil sep t)
      rw [toBytes_cons, splitOn_append_of_not_mem hnot, ih, fields_cons_of_ne hc, hf]
      rfl

end RemoteStub.Text
