import RemoteStub.Frame

/-!
# Escaped data

Escaped data is read back (`unescape?_escape`), holds none of the bytes that would break a
frame (`not_mem_escape`), and is longer than the data by the bytes that were escaped
(`length_escape`).
-/

namespace RemoteStub

open Wire

theorem needsEscape_iff {b : UInt8} :
    needsEscape b = true ↔ b = packetStart ∨ b = packetEnd ∨ b = escapeMark := by
  simp [needsEscape, or_assoc]

theorem escape_cons_of_needsEscape {b : UInt8} (h : needsEscape b = true) (data : Bytes) :
    escape (b :: data) = escapeMark :: (b ^^^ escapeMask) :: escape data := by
  simp [escape, h]

theorem escape_cons_of_plain {b : UInt8} (h : needsEscape b = false) (data : Bytes) :
    escape (b :: data) = b :: escape data := by
  simp [escape, h]

theorem unescape?_mark (b : UInt8) (rest : Bytes) :
    unescape? (escapeMark :: b :: rest) =
      (unescape? rest).map ((b ^^^ escapeMask) :: ·) := by
  simp [unescape?]

theorem unescape?_plain {b : UInt8} (h : b ≠ escapeMark) (rest : Bytes) :
    unescape? (b :: rest) = (unescape? rest).map (b :: ·) := by
  cases rest <;> simp [unescape?, h]

/-- **Escaping loses nothing.** -/
theorem unescape?_escape (data : Bytes) : unescape? (escape data) = some data := by
  induction data with
  | nil => rfl
  | cons b data ih =>
    by_cases h : needsEscape b = true
    · rw [escape_cons_of_needsEscape h, unescape?_mark, ih, UInt8.xor_assoc, UInt8.xor_self,
        UInt8.xor_zero, Option.map_some]
    · have hb : b ≠ escapeMark := by
        rintro rfl
        exact h rfl
      rw [escape_cons_of_plain (by simpa using h), unescape?_plain hb, ih, Option.map_some]

theorem escape_injective {a b : Bytes} (h : escape a = escape b) : a = b := by
  have ha := unescape?_escape a
  rw [h, unescape?_escape b, Option.some.injEq] at ha
  exact ha.symm

/-! ## What escaped data holds -/

/-- An escaped byte is none of those that need to be escaped. -/
theorem needsEscape_xor {b : UInt8} (h : needsEscape b = true) :
    needsEscape (b ^^^ escapeMask) = false := by
  obtain rfl | rfl | rfl := needsEscape_iff.mp h
  · rfl
  · rfl
  · rfl

/-- Of the bytes that need to be escaped, only the mark is left. -/
theorem not_mem_escape {b : UInt8} (hb : needsEscape b = true) (hmark : b ≠ escapeMark)
    (data : Bytes) : b ∉ escape data := by
  induction data with
  | nil => exact List.not_mem_nil
  | cons c data ih =>
    by_cases hc : needsEscape c = true
    · have hne : b ≠ c ^^^ escapeMask := by
        intro h
        rw [h, needsEscape_xor hc] at hb
        cases hb
      rw [escape_cons_of_needsEscape hc]
      simp [hmark, hne, ih]
    · have hne : b ≠ c := by
        intro h
        exact hc (h ▸ hb)
      rw [escape_cons_of_plain (by simpa using hc)]
      simp [hne, ih]

theorem packetEnd_not_mem_escape (data : Bytes) : packetEnd ∉ escape data :=
  not_mem_escape rfl (by decide) data

theorem length_escape (data : Bytes) :
    (escape data).length = data.length + data.countP needsEscape := by
  induction data with
  | nil => rfl
  | cons b data ih =>
    by_cases h : needsEscape b = true
    · rw [escape_cons_of_needsEscape h, List.countP_cons_of_pos h]
      simp only [List.length_cons, ih]
      omega
    · rw [escape_cons_of_plain (by simpa using h), List.countP_cons_of_neg h]
      simp only [List.length_cons, ih]
      omega

/-- Each byte that needs to be escaped is one of three. -/
theorem countP_needsEscape (data : Bytes) : data.countP needsEscape =
    data.count packetStart + data.count packetEnd + data.count escapeMark := by
  induction data with
  | nil => rfl
  | cons b data ih =>
    by_cases h : needsEscape b = true
    · rw [List.countP_cons_of_pos h, ih]
      obtain rfl | rfl | rfl := needsEscape_iff.mp h
      · simp [packetStart, packetEnd, escapeMark]
        omega
      · simp [packetStart, packetEnd, escapeMark]
        omega
      · simp [packetStart, packetEnd, escapeMark]
        omega
    · rw [List.countP_cons_of_neg h, ih]
      rw [needsEscape_iff, not_or, not_or] at h
      simp [h.1, h.2.1, h.2.2]

theorem escape_eq_self_iff {data : Bytes} :
    escape data = data ↔ packetStart ∉ data ∧ packetEnd ∉ data ∧ escapeMark ∉ data := by
  constructor
  · intro h
    have hlength := length_escape data
    rw [h, countP_needsEscape] at hlength
    simp only [← List.count_eq_zero]
    omega
  · intro h
    induction data with
    | nil => rfl
    | cons b data ih =>
      simp only [List.mem_cons, not_or] at h
      obtain ⟨⟨hs, hsd⟩, ⟨he, hed⟩, hm, hmd⟩ := h
      have hb : needsEscape b = false := by
        rw [Bool.eq_false_iff, ne_eq, needsEscape_iff, not_or, not_or]
        exact ⟨Ne.symm hs, Ne.symm he, Ne.symm hm⟩
      rw [escape_cons_of_plain hb, ih ⟨hsd, hed, hmd⟩]

/-- **Escaping is lossless and safe.** Escaped data holds neither `$` nor `#` and is read back, so
different data is escaped differently. Parts are escaped one by one. Data stays as it is just if it
holds none of the three bytes, and grows by one for each of them. -/
theorem escape_lossless (data : Bytes) :
    (packetStart ∉ escape data ∧ packetEnd ∉ escape data) ∧
      unescape? (escape data) = some data ∧
      (∀ other, escape other = escape data → other = data) ∧
      (∀ more, escape (data ++ more) = escape data ++ escape more) ∧
      (escape data = data ↔ packetStart ∉ data ∧ packetEnd ∉ data ∧ escapeMark ∉ data) ∧
      (escape data).length =
        data.length + (data.count packetStart + data.count packetEnd + data.count escapeMark) := by
  refine ⟨⟨?_, ?_⟩, unescape?_escape data, ?_, escape_append data, escape_eq_self_iff, ?_⟩
  · exact not_mem_escape rfl (by decide) data
  · exact packetEnd_not_mem_escape data
  · intro other h
    exact escape_injective h
  · rw [length_escape, countP_needsEscape]

/-- What `$` and `}` become also stands for itself. -/
example : escape [0x24, 0x04, 0x7d, 0x5d] = [0x7d, 0x04, 0x04, 0x7d, 0x5d, 0x5d] := by decide

end RemoteStub
