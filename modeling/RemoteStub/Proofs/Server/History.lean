import RemoteStub.Server

/-!
# Histories of a server

What can happen to a server, one operation after the other, and what comes of each: its
owner starts it, stops it and awaits its end, clients come and go, and the server goes on
by itself. An end that does not come is awaited forever, and no history goes on after it.
-/

namespace RemoteStub

namespace Server

variable {σ : Type}

inductive Operation where
  | start (host : Host)
  | stop
  | wait
  | connect
  | disconnect
  | receive (data : Bytes)
  | poll
  | expire
  | fail

inductive Report where
  | started (result : Except Error SocketAddress)
  | stopped (result : Except Error Unit)
  | awaited (result : Except Error Unit)
  | connected (admitted : Bool)
  | done

def perform (s : Server σ) : Operation → Option (Report × Server σ)
  | .start host => some (.started (s.start host).1, (s.start host).2)
  | .stop => s.stop.map fun (result, t) => (.stopped result, t)
  | .wait => s.wait.map fun (result, t) => (.awaited result, t)
  | .connect =>
    match s.accept with
    | some t => some (.connected true, t)
    | none => some (.connected false, s)
  | .disconnect => some (.done, s.hangUp)
  | .receive data => some (.done, (s.receive data).peer)
  | .poll => some (.done, s.poll)
  | .expire => some (.done, s.expire)
  | .fail => some (.done, s.fail)

namespace Report

/-- The address that a server was started at. -/
def address? : Report → Option SocketAddress
  | started (.ok a) => some a
  | _ => none

def ends : Report → Bool
  | stopped (.ok _) | awaited (.ok _) => true
  | _ => false

def admits : Report → Bool
  | connected admitted => admitted
  | _ => false

end Report

end Server

/-- A server, and what has come of all that happened to it. -/
structure Course (σ : Type) where
  server : Server σ
  history : List Server.Report := []

namespace Course

open Server (Operation Report)

variable {σ : Type}

def begin (config : Config) (r : Responder σ) : Course σ := { server := .create config r }

def perform (c : Course σ) (op : Operation) : Option (Course σ) :=
  (c.server.perform op).map fun (outcome, server) =>
    { server, history := c.history ++ [outcome] }

def run (c : Course σ) (ops : List Operation) : Option (Course σ) := ops.foldlM perform c

theorem perform_of_some {c : Course σ} {op : Operation} {o : Report} {t : Server σ}
    (h : c.server.perform op = some (o, t)) :
    c.perform op = some { server := t, history := c.history ++ [o] } := by
  rw [perform, h]
  rfl

theorem run_cons (c : Course σ) (op : Operation) (ops : List Operation) :
    c.run (op :: ops) = (c.perform op).bind fun d => d.run ops := by
  rw [run, List.foldlM_cons]
  rfl

theorem run_append (c : Course σ) (before after : List Operation) :
    c.run (before ++ after) = (c.run before).bind fun d => d.run after := by
  rw [run, List.foldlM_append]
  rfl

/-- What every operation keeps is kept by every course. -/
theorem run_induction {p : Course σ → Prop} {c d : Course σ}
    (hstep : ∀ (op : Operation) (x y : Course σ), p x → x.perform op = some y → p y)
    {ops : List Operation} (h : p c) (hrun : c.run ops = some d) : p d := by
  induction ops generalizing c with
  | nil =>
    cases hrun
    exact h
  | cons op ops ih =>
    rw [run_cons, Option.bind_eq_some_iff] at hrun
    obtain ⟨x, hx, hrun⟩ := hrun
    exact ih (hstep op c x h hx) hrun

/-- The course with something before it. -/
def behind (past : List Report) (c : Course σ) : Course σ := { c with history := past ++ c.history }

theorem behind_self (c : Course σ) : behind c.history { server := c.server } = c := by
  simp [behind]

theorem perform_behind (past : List Report) (c : Course σ) (op : Operation) :
    (behind past c).perform op = (c.perform op).map (behind past) := by
  simp [perform, behind, Function.comp_def]

/-- What comes of a server does not depend on what came before. -/
theorem run_behind (past : List Report) (c : Course σ) (ops : List Operation) :
    (behind past c).run ops = (c.run ops).map (behind past) := by
  induction ops generalizing c with
  | nil => rfl
  | cons op ops ih =>
    rw [run_cons, run_cons, perform_behind]
    cases c.perform op with
    | none => rfl
    | some d => exact ih d

/-! ## What a history tells -/

/-- The addresses that successful starts returned. -/
def addresses (history : List Report) : List SocketAddress := history.filterMap Report.address?

/-- A start succeeded, and an end was awaited after it. -/
def Ended (history : List Report) : Prop :=
  ∃ before a after, history = before ++ .started (.ok a) :: after ∧ ∃ o ∈ after, o.ends = true

variable {history : List Report} {o : Report}

theorem addresses_concat :
    addresses (history ++ [o]) = addresses history ++ o.address?.toList := by
  simp only [addresses, List.filterMap_append]
  cases h : o.address? <;> simp [h]

theorem mem_addresses_iff {a : SocketAddress} :
    a ∈ addresses history ↔ .started (.ok a) ∈ history := by
  rw [addresses, List.mem_filterMap]
  constructor
  · rintro ⟨o, ho, h⟩
    match o, h with
    | .started (.ok _), rfl => exact ho
  · intro h
    exact ⟨_, h, rfl⟩

theorem addresses_ne_nil_iff : addresses history ≠ [] ↔ ∃ a, .started (.ok a) ∈ history := by
  constructor
  · intro h
    obtain ⟨a, ha⟩ := List.exists_mem_of_ne_nil _ h
    exact ⟨a, mem_addresses_iff.mp ha⟩
  · rintro ⟨a, ha⟩
    exact List.ne_nil_of_mem (mem_addresses_iff.mpr ha)

theorem ended_concat :
    Ended (history ++ [o]) ↔ Ended history ∨ addresses history ≠ [] ∧ o.ends = true := by
  rw [addresses_ne_nil_iff]
  constructor
  · rintro ⟨before, a, after, heq, x, hx, hends⟩
    rcases List.eq_nil_or_concat after with rfl | ⟨after, y, rfl⟩
    · cases hx
    · rw [List.concat_eq_append, ← List.cons_append, ← List.append_assoc] at heq
      obtain ⟨rfl, hy⟩ := List.append_inj' heq rfl
      cases hy
      rw [List.concat_eq_append, List.mem_append, List.mem_singleton] at hx
      rcases hx with hx | rfl
      · exact .inl ⟨before, a, after, rfl, x, hx, hends⟩
      · exact .inr ⟨⟨a, by simp⟩, hends⟩
  · rintro (⟨before, a, after, rfl, x, hx, hends⟩ | ⟨⟨a, ha⟩, hends⟩)
    · exact ⟨before, a, after ++ [o], by simp, x, List.mem_append_left _ hx, hends⟩
    · obtain ⟨before, after, rfl⟩ := List.append_of_mem ha
      exact ⟨before, a, after ++ [o], by simp, o, by simp, hends⟩

theorem Ended.addresses_ne_nil (h : Ended history) : addresses history ≠ [] := by
  obtain ⟨before, a, after, rfl, -⟩ := h
  exact addresses_ne_nil_iff.mpr ⟨a, by simp⟩

end Course

end RemoteStub
