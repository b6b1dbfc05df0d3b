import Mathlib.Data.List.Induction
import Mathlib.Logic.Relation
import RemoteStub.PacketLog.Shared
import RemoteStub.Proofs.PacketLog.Matching

/-!
# Handles on logs

What a handle shows is told from the history of all handles: the entries pushed so far through
its family, which are the handles that clones connect it to (`run_shows`). The log behind a
handle is the same one for the whole family and for no other handle (`Tells.family_iff`), and
it holds what was pushed through handles with that log (`Tells`).
-/

namespace RemoteStub.SharedLogs

open scoped List

inductive Op where
  /-- A handle on a new log is made. -/
  | create
  | clone (handle : Nat)
  | push (handle : Nat) (entry : Text)
  | entries (handle : Nat)
  | length (handle : Nat)
  | last (handle n : Nat)
  | firstMissing (handle : Nat) (expected : List Text)
  | containsInOrder (handle : Nat) (expected : List Text)
  deriving DecidableEq, Repr

inductive Answer where
  | done
  | made (handle : Nat)
  | entries (entries : List Text)
  | count (n : Nat)
  | missing (entry : Option Text)
  | verdict (holds : Bool)
  deriving DecidableEq, Repr

def perform (s : SharedLogs) : Op → Answer × SharedLogs
  | .create => (.made s.create.1, s.create.2)
  | .clone handle => (.made (s.clone handle).1, (s.clone handle).2)
  | .push handle entry => (.done, s.push handle entry)
  | .entries handle => (.entries (s.log handle).entries, s)
  | .length handle => (.count (s.log handle).length, s)
  | .last handle n => (.entries ((s.log handle).last n), s)
  | .firstMissing handle expected => (.missing ((s.log handle).firstMissing expected), s)
  | .containsInOrder handle expected => (.verdict ((s.log handle).containsInOrder expected), s)

/-- What a history leads to. -/
def run (ops : List Op) : SharedLogs := ops.foldl (fun s op => (s.perform op).2) {}

/-! ## Histories -/

namespace Op

def makes : Op → Bool
  | create | clone _ => true
  | _ => false

/-- The handle that an operation goes through. -/
def handle? : Op → Option Nat
  | create => none
  | clone handle | push handle _ | entries handle | length handle | last handle _
  | firstMissing handle _ | containsInOrder handle _ => some handle

/-- What an operation pushes through a handle that has the property. -/
def pushed? (p : Nat → Bool) : Op → Option Text
  | push handle entry => if p handle then some entry else none
  | _ => none

end Op

/-- How many handles a history makes. They are numbered from zero. -/
def made (ops : List Op) : Nat := ops.countP Op.makes

/-- Every operation goes through a handle that was made before. -/
inductive Proper : List Op → Prop
  | nil : Proper []
  | concat {ops : List Op} {op : Op} (h : Proper ops) (hop : ∀ handle ∈ op.handle?, handle < made ops) :
      Proper (ops ++ [op])

/-- The second handle was made as a clone of the first. -/
def Cloned (ops : List Op) (g h : Nat) : Prop :=
  ∃ before after, ops = before ++ .clone g :: after ∧ h = made before

/-- Clones connect the handles. -/
def Family (ops : List Op) : Nat → Nat → Prop := Relation.EqvGen (Cloned ops)

/-- The entries pushed through the handles with a property, in the order of the pushes. -/
def pushedThrough (p : Nat → Bool) (ops : List Op) : List Text := ops.filterMap (Op.pushed? p)

open Classical in
/-- The entries pushed through the family of a handle. -/
noncomputable def pushed (ops : List Op) (handle : Nat) : List Text :=
  pushedThrough (fun g => Family ops g handle) ops

variable {ops more : List Op} {op : Op} {s t : SharedLogs} {a g h : Nat} {p q : Nat → Bool}

theorem made_le_append (ops more : List Op) : made ops ≤ made (ops ++ more) := by
  rw [made, made, List.countP_append]
  exact Nat.le_add_right _ _

theorem made_concat (ops : List Op) (op : Op) :
    made (ops ++ [op]) = made ops + if op.makes then 1 else 0 := by
  rw [made, List.countP_append, List.countP_singleton, made]

theorem made_concat_of_makes (hop : op.makes = true) : made (ops ++ [op]) = made ops + 1 := by
  rw [made_concat, if_pos hop]

theorem made_concat_of_not_makes (hop : op.makes = false) : made (ops ++ [op]) = made ops := by
  simp [made_concat, hop]

theorem run_concat (ops : List Op) (op : Op) : run (ops ++ [op]) = ((run ops).perform op).2 := by
  rw [run, List.foldl_append]
  rfl

theorem pushedThrough_concat (p : Nat → Bool) (ops : List Op) (op : Op) :
    pushedThrough p (ops ++ [op]) = pushedThrough p ops ++ (op.pushed? p).toList := by
  rw [pushedThrough, List.filterMap_append]
  cases hop : op.pushed? p with
  | none => simp [pushedThrough, hop]
  | some entry => simp [pushedThrough, hop]

theorem pushedThrough_concat_of_none (hop : op.pushed? p = none) :
    pushedThrough p (ops ++ [op]) = pushedThrough p ops := by
  rw [pushedThrough_concat, hop, Option.toList_none, List.append_nil]

theorem Op.pushed?_congr (hpq : ∀ g ∈ op.handle?, p g = q g) : op.pushed? p = op.pushed? q := by
  cases op with
  | push g entry => simp [Op.pushed?, hpq g rfl]
  | _ => rfl

/-- Only the handles that a history has made count. -/
theorem pushedThrough_congr (hp : Proper ops) (hpq : ∀ g < made ops, p g = q g) :
    pushedThrough p ops = pushedThrough q ops := by
  induction hp with
  | nil => rfl
  | @concat ops op hp hop ih =>
    have hle := made_le_append ops [op]
    rw [pushedThrough_concat, pushedThrough_concat, ih fun g hg => hpq g (by omega),
      Op.pushed?_congr fun g hg => hpq g (by have := hop g hg; omega)]

theorem pushedThrough_eq_nil (hp : Proper ops) (hpq : ∀ g < made ops, p g = false) :
    pushedThrough p ops = [] := by
  have hnone : ∀ op ∈ ops, op.pushed? (fun _ => false) = none := by
    intro op _
    cases op <;> rfl
  rw [pushedThrough_congr hp hpq]
  exact List.filterMap_eq_nil_iff.mpr hnone

theorem cloned_concat_iff :
    Cloned (ops ++ [op]) g h ↔ Cloned ops g h ∨ op = .clone g ∧ h = made ops := by
  constructor
  · rintro ⟨before, after, heq, rfl⟩
    rcases List.eq_nil_or_concat after with rfl | ⟨after, last, rfl⟩
    · obtain ⟨rfl, hop⟩ := List.append_inj' heq rfl
      cases hop
      exact .inr ⟨rfl, rfl⟩
    · rw [List.concat_eq_append, ← List.cons_append, ← List.append_assoc] at heq
      obtain ⟨rfl, -⟩ := List.append_inj' heq rfl
      exact .inl ⟨before, after, rfl, rfl⟩
  · rintro (⟨before, after, rfl, rfl⟩ | ⟨rfl, rfl⟩)
    · exact ⟨before, after ++ [op], by simp, rfl⟩
    · exact ⟨ops, [], rfl, rfl⟩

theorem cloned_concat_of_not_clone (hop : ∀ g, op ≠ .clone g) :
    Cloned (ops ++ [op]) g h ↔ Cloned ops g h := by
  rw [cloned_concat_iff, or_iff_left]
  rintro ⟨hclone, -⟩
  exact hop g hclone

theorem Family.concat (hf : Family ops g h) (op : Op) : Family (ops ++ [op]) g h := by
  have hle : Cloned ops ≤ Cloned (ops ++ [op]) := by
    intro g h hc
    exact cloned_concat_iff.mpr (.inl hc)
  exact Relation.EqvGen.mono hle g h hf

theorem Cloned.lt (hp : Proper ops) (hc : Cloned ops g h) : g < h ∧ h < made ops := by
  induction hp with
  | nil =>
    obtain ⟨before, after, heq, -⟩ := hc
    simp at heq
  | @concat ops op hp hop ih =>
    rw [made_concat]
    rcases cloned_concat_iff.mp hc with hc | ⟨rfl, rfl⟩
    · have := ih hc
      omega
    · exact ⟨hop g rfl, by simp [Op.makes]⟩

/-! ## What operations do to handles and logs -/

theorem exists_owner? (hh : h < s.handles.length) : ∃ i, s.owner? h = some i :=
  ⟨_, List.getElem?_eq_getElem hh⟩

theorem getElem?_concat {α : Type} (l : List α) (x : α) (i : Nat) :
    (l ++ [x])[i]? = if i = l.length then some x else l[i]? := by
  rcases Nat.lt_trichotomy i l.length with hi | rfl | hi
  · rw [List.getElem?_append_left hi, if_neg (by omega)]
  · simp
  · rw [if_neg (by omega), List.getElem?_eq_none (by simp; omega), List.getElem?_eq_none (by omega)]

theorem owner?_attach {i : Nat} (hhandles : t.handles = s.handles ++ [i]) (h : Nat) :
    t.owner? h = if h = s.handles.length then some i else s.owner? h := by
  rw [owner?, hhandles, getElem?_concat, owner?]

theorem clone_eq {i : Nat} (ha : s.owner? a = some i) :
    s.clone a = (s.handles.length, { s with handles := s.handles ++ [i] }) := by
  rw [clone, ha]

theorem push_eq {i : Nat} (ha : s.owner? a = some i) (entry : Text) :
    s.push a entry = { s with logs := s.logs.modify i (·.push entry) } := by
  rw [push, ha]

theorem owner?_push (s : SharedLogs) (a : Nat) (entry : Text) (h : Nat) :
    (s.push a entry).owner? h = s.owner? h := by
  unfold push
  split <;> rfl

def logAt (s : SharedLogs) (i : Nat) : PacketLog := (s.logs[i]?).getD {}

theorem log_of_owner? {i : Nat} (hh : s.owner? h = some i) : s.log h = s.logAt i := by
  rw [log, hh, Option.bind_some, logAt]

theorem log_congr (howner : s.owner? h = t.owner? h) (hlogs : ∀ i, s.logAt i = t.logAt i) :
    s.log h = t.log h := by
  rw [log, log, ← howner]
  cases s.owner? h with
  | none => rfl
  | some i => exact hlogs i

/-- A log that is not there shows as empty, and a new one is. -/
theorem logAt_create (s : SharedLogs) (i : Nat) : s.create.2.logAt i = s.logAt i := by
  show ((s.logs ++ [({} : PacketLog)])[i]?).getD {} = _
  rw [getElem?_concat, logAt]
  split
  next hi =>
    rw [List.getElem?_eq_none (Nat.le_of_eq hi.symm)]
    rfl
  next => rfl

theorem logAt_push {i : Nat} (ha : s.owner? a = some i) (hi : i < s.logs.length) (entry : Text)
    (j : Nat) : (s.push a entry).logAt j = if j = i then (s.logAt j).push entry else s.logAt j := by
  rw [push_eq ha, logAt, List.getElem?_modify, logAt]
  by_cases hij : j = i
  · subst hij
    rw [List.getElem?_eq_getElem hi]
    simp
  · simp [hij, Ne.symm hij]

/-! ## What a history tells -/

/-- Handles of one family have the same log, no others have, and it holds what was pushed through
handles with that log. -/
structure Tells (ops : List Op) (s : SharedLogs) : Prop where
  length : s.handles.length = made ops
  owned : ∀ h i, s.owner? h = some i → i < s.logs.length
  cloned : ∀ g h, Cloned ops g h → s.owner? g = s.owner? h
  joined : ∀ g < made ops, ∀ h < made ops, s.owner? g = s.owner? h → Family ops g h
  entries : ∀ h < made ops,
    (s.log h).entries = pushedThrough (fun g => s.owner? g = s.owner? h) ops

theorem tells_nil : Tells [] {} := by
  refine ⟨rfl, ?_, ?_, ?_, ?_⟩
  · intro h i hi
    cases hi
  · rintro g h ⟨before, after, heq, -⟩
    simp at heq
  · intro g hg
    exact absurd hg (Nat.not_lt_zero g)
  · intro h hh
    exact absurd hh (Nat.not_lt_zero h)

/-- A new handle is made on a log that holds what handles on that log have pushed. -/
theorem Tells.attach {i : Nat} (ht : Tells ops s) (hp : Proper ops) (hmakes : op.makes = true)
    (hop : ∀ handle ∈ op.handle?, handle < made ops)
    (hhandles : t.handles = s.handles ++ [i]) (hi : i < t.logs.length)
    (hlength : s.logs.length ≤ t.logs.length) (hlogs : ∀ j, t.logAt j = s.logAt j)
    (hclone : ∀ g, op = .clone g → s.owner? g = some i)
    (hjoin : ∀ g < made ops, s.owner? g = some i → Family (ops ++ [op]) g (made ops))
    (hentries : (s.logAt i).entries = pushedThrough (fun g => s.owner? g = some i) ops) :
    Tells (ops ++ [op]) t := by
  have hmade : made (ops ++ [op]) = made ops + 1 := made_concat_of_makes hmakes
  -- the handles that were there keep their logs, and the new one is the last
  have hold (h : Nat) (hh : h < made ops) : t.owner? h = s.owner? h := by
    rw [owner?_attach hhandles, if_neg (by rw [ht.length]; omega)]
  have hnew : t.owner? (made ops) = some i := by
    rw [owner?_attach hhandles, if_pos ht.length.symm]
  have hnone (p : Nat → Bool) : op.pushed? p = none := by
    cases op <;> first | rfl | cases hmakes
  refine ⟨?_, ?_, ?_, ?_, ?_⟩
  · rw [hmade, hhandles, List.length_append, ht.length]
    rfl
  · intro h j hj
    rw [owner?_attach hhandles] at hj
    split at hj
    · cases hj
      exact hi
    · have := ht.owned h j hj
      omega
  · intro g h hc
    rcases cloned_concat_iff.mp hc with hc | ⟨hclones, rfl⟩
    · obtain ⟨hlt, hh⟩ := hc.lt hp
      rw [hold g (by omega), hold h hh]
      exact ht.cloned g h hc
    · rw [hold g (hop g (by rw [hclones]; rfl)), hnew]
      exact hclone g hclones
  · rw [hmade]
    intro g hg h hh heq
    rcases Nat.lt_succ_iff_lt_or_eq.mp hg with hg | rfl
    · rw [hold g hg] at heq
      rcases Nat.lt_succ_iff_lt_or_eq.mp hh with hh | rfl
      · rw [hold h hh] at heq
        exact (ht.joined g hg h hh heq).concat op
      · exact hjoin g hg (heq.trans hnew)
    · rcases Nat.lt_succ_iff_lt_or_eq.mp hh with hh | rfl
      · rw [hold h hh, hnew] at heq
        exact (hjoin h hh heq.symm).symm
      · exact .refl _
  · intro h hh
    rw [pushedThrough_concat_of_none (hnone _)]
    rcases Nat.lt_succ_iff_lt_or_eq.mp (hmade ▸ hh) with hh | rfl
    · rw [log_congr (hold h hh) hlogs, ht.entries h hh, hold h hh]
      apply pushedThrough_congr hp
      intro g hg
      rw [hold g hg]
    · rw [log_of_owner? hnew, hlogs, hentries, hnew]
      apply pushedThrough_congr hp
      intro g hg
      rw [hold g hg]

theorem Tells.create (ht : Tells ops s) (hp : Proper ops) :
    Tells (ops ++ [.create]) s.create.2 := by
  have hfresh (g : Nat) : s.owner? g ≠ some s.logs.length := by
    intro hg
    exact absurd (ht.owned g _ hg) (Nat.lt_irrefl _)
  have hempty : s.logAt s.logs.length = {} := by
    rw [logAt, List.getElem?_eq_none (Nat.le_refl _)]
    rfl
  have hlength : s.create.2.logs.length = s.logs.length + 1 := List.length_append
  apply ht.attach hp rfl
  · intro handle hhandle
    cases hhandle
  · rfl
  · omega
  · omega
  · exact logAt_create s
  · intro g hg
    cases hg
  · intro g _ hg
    exact absurd hg (hfresh g)
  · rw [hempty]
    apply Eq.symm
    apply pushedThrough_eq_nil hp
    intro g _
    simpa using hfresh g

theorem Tells.clone (ht : Tells ops s) (hp : Proper ops) (ha : a < made ops) :
    Tells (ops ++ [.clone a]) (s.clone a).2 := by
  obtain ⟨i, hi⟩ := exists_owner? (ht.length ▸ ha)
  rw [clone_eq hi]
  apply ht.attach hp rfl
  · intro handle hhandle
    cases hhandle
    exact ha
  · rfl
  · exact ht.owned a i hi
  · exact Nat.le_refl _
  · intro j
    rfl
  · intro g hg
    cases hg
    exact hi
  · intro g hg hgi
    have hcloned : Cloned (ops ++ [.clone a]) a (made ops) := cloned_concat_iff.mpr (.inr ⟨rfl, rfl⟩)
    exact ((ht.joined g hg a ha (hgi.trans hi.symm)).concat _).trans _ _ _ (.rel _ _ hcloned)
  · rw [← log_of_owner? hi, ht.entries a ha, hi]

/-- No handle is made. -/
theorem Tells.keep (ht : Tells ops s) (hmakes : op.makes = false) (hhandles : t.handles = s.handles)
    (hlength : t.logs.length = s.logs.length)
    (hentries : ∀ h < made ops, (t.log h).entries =
      (s.log h).entries ++ (op.pushed? fun g => s.owner? g = s.owner? h).toList) :
    Tells (ops ++ [op]) t := by
  have hmade : made (ops ++ [op]) = made ops := made_concat_of_not_makes hmakes
  have howner (h : Nat) : t.owner? h = s.owner? h := by rw [owner?, owner?, hhandles]
  refine ⟨?_, ?_, ?_, ?_, ?_⟩
  · rw [hmade, hhandles, ht.length]
  · intro h i hi
    rw [hlength]
    exact ht.owned h i (howner h ▸ hi)
  · intro g h hc
    rw [howner, howner]
    apply ht.cloned g h
    rwa [cloned_concat_of_not_clone] at hc
    rintro g rfl
    cases hmakes
  · intro g hg h hh heq
    rw [howner, howner] at heq
    exact (ht.joined g (hmade ▸ hg) h (hmade ▸ hh) heq).concat op
  · intro h hh
    rw [hmade] at hh
    simp only [howner]
    rw [hentries h hh, ht.entries h hh, pushedThrough_concat]

theorem Tells.push (ht : Tells ops s) (ha : a < made ops) (entry : Text) :
    Tells (ops ++ [.push a entry]) (s.push a entry) := by
  obtain ⟨i, hi⟩ := exists_owner? (ht.length ▸ ha)
  apply ht.keep rfl
  · rw [push_eq hi]
  · rw [push_eq hi, List.length_modify]
  · intro h hh
    obtain ⟨j, hj⟩ := exists_owner? (ht.length ▸ hh)
    have hj' : (s.push a entry).owner? h = some j := by rw [owner?_push, hj]
    rw [log_of_owner? hj', log_of_owner? hj, logAt_push hi (ht.owned a i hi), Op.pushed?, hi, hj]
    by_cases hij : j = i
    · subst hij
      simp [PacketLog.push]
    · simp [hij, Ne.symm hij]

theorem Tells.perform (ht : Tells ops s) (hp : Proper ops)
    (hop : ∀ handle ∈ op.handle?, handle < made ops) : Tells (ops ++ [op]) (s.perform op).2 := by
  cases op with
  | create => exact ht.create hp
  | clone a => exact ht.clone hp (hop a rfl)
  | push a entry => exact ht.push (hop a rfl) entry
  | _ =>
    -- the others only read
    apply ht.keep rfl rfl rfl
    intro h _
    exact (List.append_nil _).symm

theorem tells_run (hp : Proper ops) : Tells ops (run ops) := by
  induction hp with
  | nil => exact tells_nil
  | concat hp hop ih =>
    rw [run_concat]
    exact ih.perform hp hop

theorem Tells.family_iff (ht : Tells ops s) (hg : g < made ops) (hh : h < made ops) :
    Family ops g h ↔ s.owner? g = s.owner? h := by
  constructor
  · intro hf
    clear hg hh
    induction hf with
    | rel g h hc => exact ht.cloned g h hc
    | refl g => rfl
    | symm g h _ ih => exact ih.symm
    | trans g h k _ _ ih ih' => exact ih.trans ih'
  · exact ht.joined g hg h hh

theorem Tells.entries_eq_pushed (ht : Tells ops s) (hp : Proper ops) (hh : h < made ops) :
    (s.log h).entries = pushed ops h := by
  rw [ht.entries h hh, pushed]
  apply pushedThrough_congr hp
  intro g hg
  exact decide_eq_decide.mpr (ht.family_iff hg hh).symm

/-! ## What operations answer -/

theorem proper_concat_iff :
    Proper (ops ++ [op]) ↔ Proper ops ∧ ∀ handle ∈ op.handle?, handle < made ops := by
  constructor
  · intro hp
    generalize heq : ops ++ [op] = all at hp
    cases hp with
    | nil => simp at heq
    | concat hp hop =>
      obtain ⟨rfl, hlast⟩ := List.append_inj' heq rfl
      cases hlast
      exact ⟨hp, hop⟩
  · rintro ⟨hp, hop⟩
    exact hp.concat hop

theorem fst_perform_of_makes (hop : op.makes = true) :
    (s.perform op).1 = .made s.handles.length := by
  cases op with
  | create => rfl
  | clone a =>
    rw [perform, clone]
    cases s.owner? a <;> rfl
  | _ => cases hop

theorem Tells.owner?_perform (ht : Tells ops s) (op : Op) (hh : h < made ops) :
    (s.perform op).2.owner? h = s.owner? h := by
  have hne : h ≠ s.handles.length := by
    rw [ht.length]
    omega
  cases op with
  | create => rw [SharedLogs.perform, owner?_attach rfl, if_neg hne]
  | clone a =>
    simp only [SharedLogs.perform]
    cases ha : s.owner? a with
    | none =>
      rw [SharedLogs.clone, ha, owner?_attach rfl, if_neg hne]
    | some i => rw [clone_eq ha, owner?_attach rfl, if_neg hne]
  | push a entry => exact owner?_push s a entry h
  | _ => rfl

/-- An operation adds to the log behind a handle what it pushes through the family of it. -/
theorem Tells.entries_perform (ht : Tells ops s) (hp : Proper ops)
    (hop : ∀ handle ∈ op.handle?, handle < made ops) (hh : h < made ops) :
    ((s.perform op).2.log h).entries =
      (s.log h).entries ++ (op.pushed? fun g => s.owner? g = s.owner? h).toList := by
  have hle := made_le_append ops [op]
  have hagree (g : Nat) (hg : g < made ops) :
      decide ((s.perform op).2.owner? g = (s.perform op).2.owner? h) =
        decide (s.owner? g = s.owner? h) := by
    rw [ht.owner?_perform op hg, ht.owner?_perform op hh]
  rw [(ht.perform hp hop).entries h (by omega), pushedThrough_concat, ht.entries h hh,
    pushedThrough_congr hp hagree, Op.pushed?_congr fun g hg => hagree g (hop g hg)]

theorem entries_run_prefix (hp : Proper (ops ++ more)) (hh : h < made ops) :
    ((run ops).log h).entries <+: ((run (ops ++ more)).log h).entries := by
  induction more using List.reverseRecOn with
  | nil => simp
  | append_singleton more op ih =>
    rw [← List.append_assoc] at hp ⊢
    obtain ⟨hp, hop⟩ := proper_concat_iff.mp hp
    have hle := made_le_append ops more
    rw [run_concat, (tells_run hp).entries_perform hp hop (by omega)]
    exact (ih hp).trans (List.prefix_append _ _)

/-- What the operations that only read answer through a handle that these entries are seen
through. -/
structure Shows (s : SharedLogs) (handle : Nat) (seen : List Text) : Prop where
  entries : s.perform (.entries handle) = (.entries seen, s)
  length : s.perform (.length handle) = (.count seen.length, s)
  last : ∀ n, ∃ tail, s.perform (.last handle n) = (.entries tail, s) ∧ tail <:+ seen ∧
    tail.length = min n seen.length
  firstMissing : ∀ expected, ∃ missing,
    s.perform (.firstMissing handle expected) = (.missing missing, s) ∧
      (missing = none ↔ expected <+ seen) ∧
      ∀ x, missing = some x ↔ ∃ k, expected[k]? = some x ∧ PacketLog.StopsAt seen expected k
  containsInOrder : ∀ expected, ∃ holds,
    s.perform (.containsInOrder handle expected) = (.verdict holds, s) ∧
      (holds = true ↔ expected <+ seen)

theorem shows_log (s : SharedLogs) (handle : Nat) : Shows s handle (s.log handle).entries := by
  refine ⟨rfl, rfl, ?_, ?_, ?_⟩
  · intro n
    refine ⟨_, rfl, List.drop_suffix _ _, ?_⟩
    rw [PacketLog.last, List.length_drop, PacketLog.length]
    omega
  · intro expected
    exact ⟨_, rfl, PacketLog.firstMissingIn_eq_none_iff, fun x => PacketLog.firstMissingIn_eq_some_iff⟩
  · intro expected
    exact ⟨_, rfl, PacketLog.containsInOrder_eq_true_iff⟩

/-- **A handle shows what was pushed through its family.** After any history every handle answers by
the entries pushed so far through the handles that clones connect it to, in the order of the
pushes. A push adds its entry behind these just for the handles of its own family, and nothing that
follows takes an entry away. -/
theorem run_shows (hp : Proper ops) :
    (∀ op, op.makes = true → ((run ops).perform op).1 = .made (made ops)) ∧
      (∀ handle < made ops, Shows (run ops) handle (pushed ops handle)) ∧
      (∀ handle < made ops, ∀ g < made ops, ∀ entry,
        (Family ops g handle → ((run (ops ++ [.push g entry])).log handle).entries =
          ((run ops).log handle).entries ++ [entry]) ∧
        (¬ Family ops g handle → ((run (ops ++ [.push g entry])).log handle).entries =
          ((run ops).log handle).entries)) ∧
      ∀ handle < made ops, ∀ more, Proper (ops ++ more) →
        ((run ops).log handle).entries <+: ((run (ops ++ more)).log handle).entries := by
  have ht := tells_run hp
  refine ⟨?_, ?_, ?_, ?_⟩
  · intro op hop
    rw [← ht.length, fst_perform_of_makes hop]
  · intro handle hh
    rw [← ht.entries_eq_pushed hp hh]
    exact shows_log (run ops) handle
  · intro handle hh g hg entry
    have hop : ∀ a ∈ (Op.push g entry).handle?, a < made ops := by
      intro a ha
      cases ha
      exact hg
    have hentries := ht.entries_perform hp hop hh
    rw [← run_concat, Op.pushed?] at hentries
    constructor
    · intro hf
      rw [hentries, if_pos (by simpa using (ht.family_iff hg hh).mp hf)]
      rfl
    · intro hf
      rw [hentries, if_neg (by simpa using (ht.family_iff hg hh).not.mp hf)]
      exact List.append_nil _
  · intro handle hh more hmore
    exact entries_run_prefix hmore hh

/-- Two families: a handle with a clone and a clone of that clone, and a handle made for itself. The
first family has one log, also for what was pushed before the clones were made. -/
theorem run_shows_families :
    let ops : List Op := [.create, .push 0 "?".toList, .clone 0, .create, .push 2 "qC".toList,
      .push 1 "g".toList, .clone 1]
    Proper ops ∧ 3 < made ops ∧ pushed ops 0 = ["?".toList, "g".toList] ∧
      pushed ops 3 = ["?".toList, "g".toList] ∧ pushed ops 2 = ["qC".toList] := by
  intro ops
  have hp : Proper ([] ++ [.create] ++ [.push 0 "?".toList] ++ [.clone 0] ++ [.create] ++
      [.push 2 "qC".toList] ++ [.push 1 "g".toList] ++ [.clone 1]) := by
    simp only [proper_concat_iff]
    exact ⟨⟨⟨⟨⟨⟨⟨.nil, by decide⟩, by decide⟩, by decide⟩, by decide⟩, by decide⟩, by decide⟩, by decide⟩
  obtain ⟨-, hshows, -⟩ := run_shows hp
  have hentries (handle : Nat) (hh : handle < made ops) :
      pushed ops handle = ((run ops).log handle).entries :=
    (Answer.entries.inj (congrArg Prod.fst (hshows handle hh).entries)).symm
  refine ⟨hp, by decide, ?_, ?_, ?_⟩
  · exact hentries 0 (by decide)
  · exact hentries 3 (by decide)
  · exact hentries 2 (by decide)

end RemoteStub.SharedLogs
