import RemoteStub.Proofs.Command.Grammar

/-!
# Written commands

A command that can be written is read back from its written form, and only such
commands are ever read (`render_canonical`): the written form is canonical.
-/

namespace RemoteStub.Command

/-- Commands whose texts cannot be taken for anything else once they are written. -/
def WellFormed : Command → Prop
  | writeRegister _ value => '=' ∉ value
  | readMemory _ length => length.toNat ≤ maxReadLength
  | writeMemory _ _ data => ':' ∉ data
  | supported features => ∀ f ∈ features, f ≠ [] ∧ ';' ∉ f
  | transfer object mode annex _ _ => ':' ∉ object ∧ ':' ∉ mode ∧ ':' ∉ annex
  | other packet => Unclaimed packet
  | readRegisters | writeRegisters _ | readRegister _ | symbol _ | threadInfoFirst | currentThread
  | haltReason | selectThread .. => True

theorem spans_renderRange (x y : UInt64) : Spans (renderRange x y) x y := by
  have h := spans_toDigits x.toNat_lt y.toNat_lt
  rwa [UInt64.ofNat_toNat, UInt64.ofNat_toNat] at h

theorem afterByte_cons {c : Char} (h : c.utf8Size = 1) (args : Text) : AfterByte (c :: args) args := by
  rw [afterByte_iff, argument, if_pos h]

theorem reads_render {c : Command} (h : c.WellFormed) : Reads c.render c := by
  cases c with
  | readRegisters => exact .readRegisters
  | writeRegisters data => exact .writeRegisters data
  | readRegister register => exact .readRegister (Numeric.unsigned?_unsigned register)
  | writeRegister register value =>
    have hr := Numeric.unsigned?_unsigned register
    have hfield := Numeric.not_mem_of_unsigned? hr '=' (by decide) (by decide)
    exact .writeRegister hr hfield h
  | readMemory address length => exact .readMemory (spans_renderRange address length) h
  | writeMemory address length data =>
    have hs := spans_renderRange address length
    exact .writeMemory hs (not_mem_of_spans hs) h
  | symbol args => exact .symbol (afterByte_cons rfl args)
  | supported features =>
    have hfilter : features.filter (! ·.isEmpty) = features := by
      simp only [List.filter_eq_self, Bool.not_eq_true', List.isEmpty_eq_false_iff]
      exact fun f hf => (h f hf).1
    have hr := Reads.supported (afterByte_cons (c := ':') rfl _) rfl fun f hf => (h f hf).2
    rwa [hfilter] at hr
  | threadInfoFirst => exact .threadInfoFirst
  | currentThread => exact .currentThread
  | haltReason => exact .haltReason
  | selectThread op thread => exact .selectThread (Numeric.signed?_signed thread)
  | transfer object mode annex offset length =>
    have hs := spans_renderRange offset length
    obtain ⟨ho, hm, ha⟩ := h
    exact .transfer hs ho hm ha (not_mem_of_spans hs)
  | other packet => exact .other h

theorem wellFormed_of_reads {p : Text} {c : Command} (h : Reads p c) : c.WellFormed := by
  cases h with
  | writeRegister _ _ hv => exact hv
  | readMemory _ hy => exact hy
  | writeMemory _ _ hd => exact hd
  | supported _ _ hf =>
    intro f hmem
    rw [List.mem_filter, Bool.not_eq_true', List.isEmpty_eq_false_iff] at hmem
    exact ⟨hmem.2, hf f hmem.1⟩
  | transfer _ ho hm ha _ => exact ⟨ho, hm, ha⟩
  | other hu => exact hu
  | _ => trivial

/-- **Reading undoes writing.** A well-formed command is read back from its written form. Whatever
is read is well-formed, so writing it and reading that again changes nothing. -/
theorem render_canonical :
    (∀ c : Command, c.WellFormed → parse c.render = .ok c) ∧
      ∀ (p : Text) (c : Command), parse p = .ok c → c.WellFormed ∧ parse c.render = parse p := by
  have hback : ∀ c : Command, c.WellFormed → parse c.render = .ok c :=
    fun c hc => parse_of_reads (reads_render hc)
  refine ⟨hback, fun p c hp => ?_⟩
  have hc := wellFormed_of_reads (reads_parse hp)
  exact ⟨hc, by rw [hback c hc, hp]⟩

example : (render (.selectThread 'g' Int64.minValue)) = "Hg-8000000000000000".toList := by decide

end RemoteStub.Command
