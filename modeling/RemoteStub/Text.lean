/-!
# Texts and bytes

Commands, replies and log entries are texts, the wire carries bytes. Both are
lists, and a text is cut into fields at a separator.
-/

namespace RemoteStub

/-- A text: its Unicode scalar values in order. -/
abbrev Text := List Char

/-- What travels over the connection. -/
abbrev Bytes := List UInt8

namespace Text

/-- The parts of a text between the occurrences of a separator. There is always at least one. -/
def fields (sep : Char) : Text → List Text
  | [] => [[]]
  | c :: t => if c = sep then [] :: fields sep t else (fields sep t).modifyHead (c :: ·)

theorem fields_ne_nil (sep : Char) (t : Text) : fields sep t ≠ [] := by
  cases t with
  | nil => simp [fields]
  | cons c t =>
    rw [fields]
    split
    · simp
    · have := fields_ne_nil sep t
      cases h : fields sep t <;> simp_all

theorem fields_of_not_mem {sep : Char} {t : Text} (h : sep ∉ t) : fields sep t = [t] := by
  induction t with
  | nil => rfl
  | cons c t ih =>
    have hc : c ≠ sep := fun e => h (by simp [e])
    have ht : sep ∉ t := fun m => h (by simp [m])
    simp [fields, hc, ih ht]

end Text

end RemoteStub
