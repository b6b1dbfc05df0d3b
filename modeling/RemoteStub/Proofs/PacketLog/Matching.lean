import Mathlib.Data.List.Basic
import RemoteStub.PacketLog

/-!
# Matching a log

The search matches each expected text with the first equal entry behind those already
matched. An entry that is taken first can be taken instead of any later one
(`cons_sublist_iff_after`), so the search finds every expected sequence that the log holds
in order, and stops where the longest beginning that it holds ends
(`containsInOrder_iff_sublist`).
-/

namespace RemoteStub.PacketLog

open scoped List

/-- The expected texts before this index appear in order, and with the one at it they do not. -/
def StopsAt (entries expected : List Text) (k : Nat) : Prop :=
  expected.take k <+ entries ∧ ¬ expected.take (k + 1) <+ entries

variable {wanted : Text} {entries expected more : List Text}

/-! ## The search -/

theorem after_cons_self (wanted : Text) (entries : List Text) :
    after wanted (wanted :: entries) = some entries := by
  rw [after, if_pos rfl]

theorem after_cons_of_ne {e : Text} (h : e ≠ wanted) (entries : List Text) :
    after wanted (e :: entries) = after wanted entries := by
  rw [after, if_neg h]

/-- The first match serves as well as any other. -/
theorem cons_sublist_iff_after :
    wanted :: more <+ entries ↔ ∃ rest, after wanted entries = some rest ∧ more <+ rest := by
  induction entries with
  | nil => simp [after]
  | cons e entries ih =>
    by_cases h : e = wanted
    · subst h
      simp only [after_cons_self, List.cons_sublist_cons, Option.some.injEq, exists_eq_left']
    · rw [after_cons_of_ne h, ← ih]
      constructor
      · intro hs
        exact List.Sublist.of_cons_of_ne (Ne.symm h) hs
      · intro hs
        exact hs.cons e

theorem firstMissingIn_eq_none_iff :
    firstMissingIn entries expected = none ↔ expected <+ entries := by
  induction expected generalizing entries with
  | nil => simp [firstMissingIn]
  | cons wanted more ih =>
    rw [firstMissingIn, cons_sublist_iff_after]
    cases after wanted entries with
    | none => simp
    | some rest => simp [ih]

/-! ## Where it stops -/

theorem stopsAt_zero_iff : StopsAt entries (wanted :: more) 0 ↔ after wanted entries = none := by
  simp only [StopsAt, List.take_succ_cons, List.take_zero, cons_sublist_iff_after]
  cases after wanted entries with
  | none => simp
  | some rest => simp

theorem stopsAt_succ_iff {k : Nat} : StopsAt entries (wanted :: more) (k + 1) ↔
    ∃ rest, after wanted entries = some rest ∧ StopsAt rest more k := by
  simp only [StopsAt, List.take_succ_cons, cons_sublist_iff_after]
  cases after wanted entries with
  | none => simp
  | some rest => simp

theorem firstMissingIn_eq_some_iff {x : Text} : firstMissingIn entries expected = some x ↔
    ∃ k, expected[k]? = some x ∧ StopsAt entries expected k := by
  induction expected generalizing entries with
  | nil => simp [firstMissingIn]
  | cons wanted more ih =>
    -- the search stops at the first text, or somewhere behind its match
    rw [firstMissingIn, ← Nat.or_exists_add_one]
    simp only [List.getElem?_cons_zero, List.getElem?_cons_succ, stopsAt_zero_iff, stopsAt_succ_iff]
    cases after wanted entries with
    | none => simp
    | some rest => simp [ih]

theorem StopsAt.le {j k : Nat} (hj : StopsAt entries expected j) (hk : StopsAt entries expected k) :
    k ≤ j := by
  by_contra h
  have htake : expected.take (j + 1) <+ expected.take k :=
    List.take_sublist_take_left (by omega)
  exact hj.2 (htake.trans hk.1)

theorem StopsAt.unique {j k : Nat} (hj : StopsAt entries expected j)
    (hk : StopsAt entries expected k) : j = k :=
  Nat.le_antisymm (hk.le hj) (hj.le hk)

/-! ## Logs -/

theorem entries_foldl_push (log : PacketLog) (later : List Text) :
    (later.foldl push log).entries = log.entries ++ later := by
  induction later generalizing log with
  | nil => rw [List.foldl_nil, List.append_nil]
  | cons entry later ih => rw [List.foldl_cons, ih, push, List.append_assoc, List.singleton_append]

theorem containsInOrder_eq_true_iff {log : PacketLog} :
    log.containsInOrder expected = true ↔ expected <+ log.entries := by
  rw [containsInOrder, Option.isNone_iff_eq_none, firstMissing, firstMissingIn_eq_none_iff]

/-- **A log is matched by its subsequences.** What is missing from any other expected sequence is
the text at the one index where the search stops. More entries do not undo a match. -/
theorem containsInOrder_iff_sublist (log : PacketLog) (expected : List Text) :
    (log.containsInOrder expected = true ↔ expected <+ log.entries) ∧
      (log.firstMissing expected = none ↔ expected <+ log.entries) ∧
      (∀ x, log.firstMissing expected = some x ↔
        ∃ k, expected[k]? = some x ∧ StopsAt log.entries expected k) ∧
      (∀ j k, StopsAt log.entries expected j → StopsAt log.entries expected k → j = k) ∧
      ∀ later : List Text, log.containsInOrder expected = true →
        (later.foldl push log).containsInOrder expected = true := by
  refine ⟨containsInOrder_eq_true_iff, firstMissingIn_eq_none_iff, ?_, ?_, ?_⟩
  · intro x
    exact firstMissingIn_eq_some_iff
  · intro j k hj hk
    exact hj.unique hk
  · intro later h
    rw [containsInOrder_eq_true_iff] at h ⊢
    rw [entries_foldl_push]
    exact h.trans (List.sublist_append_left log.entries later)

/-- The second `g` is found behind `?`, and a third one nowhere. -/
example : (⟨["g".toList, "?".toList, "g".toList]⟩ : PacketLog).firstMissing
    ["g".toList, "g".toList, "g".toList] = some "g".toList := by decide

end RemoteStub.PacketLog
