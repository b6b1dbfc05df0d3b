import RemoteStub.Proofs.Responder.Calls

/-!
# Targets that differ in one method

A command comes to one method of the target and to no other (`Responder.calls_eq`). So
targets that have every method but one in common are told apart only by commands that come
to that one (`Responder.respondAll_isolated`).
-/

namespace RemoteStub

namespace Target

variable {σ τ : Type} {R : σ → τ → Prop} {t : Target σ} {u : Target τ}

inductive Method where
  | registerCount
  | answering (family : Query.Family)
  deriving DecidableEq, Repr

/-! ## Methods in common -/

/-- The results are equal, and the states stay related. -/
def Alike {α : Type} (R : σ → τ → Prop) (f : StateM σ α) (g : StateM τ α) : Prop :=
  ∀ s s', R s s' → (f.run s).1 = (g.run s').1 ∧ R (f.run s).2 (g.run s').2

/-- The targets have the method in common that answers a family of queries. -/
def Shares (R : σ → τ → Prop) (t : Target σ) (u : Target τ) : Query.Family → Prop
  | .readRegisters => Alike R t.readRegisters u.readRegisters
  | .writeRegisters => ∀ data, Alike R (t.writeRegisters data) (u.writeRegisters data)
  | .readRegister => ∀ register, Alike R (t.readRegister register) (u.readRegister register)
  | .writeRegister => ∀ register value,
      Alike R (t.writeRegister register value) (u.writeRegister register value)
  | .readMemory => ∀ address length,
      Alike R (t.readMemory address length) (u.readMemory address length)
  | .writeMemory => ∀ address data,
      Alike R (t.writeMemory address data) (u.writeMemory address data)
  | .symbol => ∀ args, Alike R (t.symbol args) (u.symbol args)
  | .supported => ∀ features, Alike R (t.supported features) (u.supported features)
  | .threadInfo => Alike R t.threadInfo u.threadInfo
  | .currentThread => Alike R t.currentThread u.currentThread
  | .haltReason => Alike R t.haltReason u.haltReason
  | .selectThread => ∀ op thread, Alike R (t.selectThread op thread) (u.selectThread op thread)
  | .transfer => ∀ object annex offset length,
      Alike R (t.transfer object annex offset length) (u.transfer object annex offset length)
  | .other => ∀ packet, Alike R (t.other packet) (u.other packet)

theorem Alike.map {α β : Type} {f : StateM σ α} {g : StateM τ α} (h : Alike R f g) (k : α → β) :
    Alike R (k <$> f) (k <$> g) := by
  intro s s' hs
  obtain ⟨hresult, hstate⟩ := h s s' hs
  exact ⟨congrArg k hresult, hstate⟩

theorem Alike.transfer {object annex : Text} {offset length : UInt64}
    (h : Alike R (t.transfer object annex offset length) (u.transfer object annex offset length)) :
    Alike R (t.answer (.transfer object annex offset length))
      (u.answer (.transfer object annex offset length)) := by
  intro s s' hs
  have hs := h s s' hs
  rw [answer, answer, StateT.run_bind, StateT.run_bind]
  generalize (t.transfer object annex offset length).run s = x at hs
  generalize (u.transfer object annex offset length).run s' = y at hs
  obtain ⟨chunk, x⟩ := x
  obtain ⟨chunk', y⟩ := y
  obtain ⟨rfl, hstate⟩ := hs
  cases chunk with
  | none => exact ⟨rfl, hstate⟩
  | some chunk => exact ⟨rfl, hstate⟩

/-- An answer asks for nothing but the method of its family. -/
theorem Shares.answer {q : Query} (h : Shares R t u q.family) : Alike R (t.answer q) (u.answer q) := by
  cases q with
  | readRegisters => exact h.map _
  | writeRegisters data => exact (h data).map _
  | readRegister register => exact (h register).map _
  | writeRegister register value => exact (h register value).map _
  | readMemory address length => exact (h address length).map _
  | writeMemory address data => exact (h address data).map _
  | symbol args => exact (h args).map _
  | supported features => exact (h features).map _
  | threadInfo => exact h.map _
  | currentThread => exact h.map _
  | haltReason => exact h.map _
  | selectThread op thread => exact (h op thread).map _
  | transfer object annex offset length => exact (h object annex offset length).transfer
  | other packet => exact (h packet).map _

/-- The registers are read as by default, and so counted. -/
def CountsRegisters (t : Target σ) : Prop :=
  t.readRegisters = ({ registerCount := t.registerCount } : Target σ).readRegisters

/-- The queries of a family come to a method. -/
def Routes (t : Target σ) : Method → Query.Family → Prop
  | .registerCount, f => f = .readRegisters ∧ t.CountsRegisters
  | .answering g, f => f = g

/-- The targets have every method in common but this one and what depends on it. -/
def AlikeExcept (R : σ → τ → Prop) (t : Target σ) (u : Target τ) (m : Method) : Prop :=
  ∀ f, ¬ (t.Routes m f ∧ u.Routes m f) → Shares R t u f

end Target

namespace Responder

open Target

variable {σ τ : Type} {R : σ → τ → Prop} {r : Responder σ} {r' : Responder τ} {packet : Text}

/-- Responders that have seen the same commands, with targets in related states. -/
structure Twins (R : σ → τ → Prop) (r : Responder σ) (r' : Responder τ) : Prop where
  log : r.log = r'.log
  state : R r.state r'.state

theorem Twins.respond (h : Twins R r r')
    (hp : ∀ command, Command.parse packet = .ok command →
      Shares R r.target r'.target command.query.family) :
    (r.respond packet).1 = (r'.respond packet).1 ∧
      Twins R (r.respond packet).2 (r'.respond packet).2 := by
  have hlog : r.log.push packet = r'.log.push packet := by rw [h.log]
  cases hc : Command.parse packet with
  | error e =>
    rw [respond_error hc, respond_error hc]
    exact ⟨rfl, hlog, h.state⟩
  | ok command =>
    obtain ⟨hreply, hstate⟩ := (hp command hc).answer r.state r'.state h.state
    rw [respond_ok hc, respond_ok hc]
    exact ⟨congrArg Except.ok hreply, hlog, hstate⟩

theorem Twins.respondAll {packets : List Text} (h : Twins R r r')
    (hp : ∀ packet ∈ packets, ∀ command, Command.parse packet = .ok command →
      Shares R r.target r'.target command.query.family) :
    (r.respondAll packets).1 = (r'.respondAll packets).1 ∧
      Twins R (r.respondAll packets).2 (r'.respondAll packets).2 := by
  induction packets generalizing r r' with
  | nil => exact ⟨rfl, h⟩
  | cons packet more ih =>
    obtain ⟨hresult, hnext⟩ := h.respond (hp packet List.mem_cons_self)
    have hmore : ∀ p ∈ more, ∀ command, Command.parse p = .ok command →
        Shares R (r.respond packet).2.target (r'.respond packet).2.target
          command.query.family := by
      rw [target_respond, target_respond]
      exact fun p hmem => hp p (List.mem_cons_of_mem packet hmem)
    obtain ⟨hresults, hlast⟩ := ih hnext hmore
    rw [respondAll_cons, respondAll_cons, hresult, hresults]
    exact ⟨rfl, hlast⟩

/-- **Overrides are isolated.** Two targets have every method in common but one, in states that
are related and stay so. Commands that do not come to this one have the same results, the same
log and the same calls, each as the command says. A command that is refused is logged, and the
target knows nothing of it. -/
theorem respondAll_isolated {t : Target σ} {u : Target τ} {m : Method}
    (h : AlikeExcept R t u m) {s : σ} {s' : τ} (hs : R s s') {packets : List Text}
    (hp : ∀ packet ∈ packets, ∀ command, Command.parse packet = .ok command →
      ¬ (t.Routes m command.query.family ∧ u.Routes m command.query.family)) :
    let run := ({ target := t, state := s } : Responder σ).respondAll packets
    let run' := ({ target := u, state := s' } : Responder τ).respondAll packets
    run.1 = run'.1 ∧ run.2.log = run'.2.log ∧ R run.2.state run'.2.state ∧
      calls t s packets = packets.filterMap Command.query? ∧
      calls u s' packets = packets.filterMap Command.query? ∧
      ∀ (r : Responder σ) (packet : Text) (e : DecodeError), Command.parse packet = .error e →
        r.respond packet = (.error e, { r with log := r.log.push packet }) ∧
          (r.log.push packet).entries = r.log.entries ++ [packet] := by
  intro run run'
  have htwins : Twins R ({ target := t, state := s } : Responder σ)
      ({ target := u, state := s' } : Responder τ) := ⟨rfl, hs⟩
  obtain ⟨hresults, hlast⟩ := htwins.respondAll fun packet hmem command hc =>
    h _ (hp packet hmem command hc)
  refine ⟨hresults, hlast.log, hlast.state, calls_eq t s packets, calls_eq u s' packets, ?_⟩
  intro r packet e he
  have hlogged := r.log_respond packet
  rw [respond_error he] at hlogged
  exact ⟨respond_error he r, hlogged⟩

/-- One target counts the reads of a register and answers with its number. -/
theorem respondAll_isolated_counting :
    let u : Target Nat :=
      { readRegister := fun register => do
          modify (· + 1)
          return Numeric.unsigned register }
    let packets := ["g".toList, "m10,2".toList, "p".toList, "Hc-1".toList]
    let r : Responder Unit := Responder.default
    let r' : Responder Nat := { target := u, state := 0 }
    AlikeExcept (fun _ _ => True) r.target u (.answering .readRegister) ∧
      (r.respond "p1".toList).1 = .ok (Text.toBytes "00000000".toList) ∧
      (r'.respond "p1".toList).1 = .ok (Text.toBytes "1".toList) ∧
      (r.respondAll packets).1 = (r'.respondAll packets).1 ∧
      (r'.respondAll packets).2.log.entries = packets ∧
      calls u 0 packets = [.readRegisters, .readMemory 0x10 2, .selectThread 'c' (-1)] := by
  intro u packets r r'
  have h : AlikeExcept (fun _ _ => True) r.target u (.answering .readRegister) := by
    intro f hf
    cases f with
    | readRegister => exact absurd ⟨rfl, rfl⟩ hf
    | _ =>
      simp only [Shares, Alike]
      intros
      exact ⟨rfl, trivial⟩
  have hfamilies : ∀ packet ∈ packets,
      (Command.query? packet).map Query.family ≠ some .readRegister := by decide
  have hp : ∀ packet ∈ packets, ∀ command, Command.parse packet = .ok command →
      ¬ (r.target.Routes (.answering .readRegister) command.query.family ∧
        u.Routes (.answering .readRegister) command.query.family) := by
    rintro packet hmem command hc ⟨hf, -⟩
    apply hfamilies packet hmem
    rw [Command.query?_of_ok hc, ← hf]
    rfl
  have hs : (fun (_ : Unit) (_ : Nat) => True) () 0 := trivial
  obtain ⟨hresults, hlog, -, -, hcalls, -⟩ := respondAll_isolated h hs hp
  refine ⟨h, rfl, rfl, hresults, ?_, hcalls⟩
  rw [← hlog]
  rfl

end Responder

end RemoteStub
