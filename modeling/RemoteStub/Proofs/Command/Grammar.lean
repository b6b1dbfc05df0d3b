import RemoteStub.Proofs.Command.Fields

/-!
# The language of commands

`Reads` says how a text is read as a command, `Malformed` which texts have the form of a
known command and a field that is not as it should be, and `Unclaimed` which texts have
no known form. Every text is read in exactly one way, or it is malformed and refused
(`parse_accepts`).
-/

namespace RemoteStub.Command

/-- The commands that are known by their whole text. -/
def words : List Text :=
  ["g".toList, "qfThreadInfo".toList, "qC".toList, "?".toList]

/-- What the other known commands begin with. -/
def keywords : List Text :=
  ["G".toList, "p".toList, "P".toList, "m".toList, "M".toList, "H".toList, "qSymbol".toList,
    "qSupported".toList, "qXfer:".toList]

/-- A text that no known command claims. -/
def Unclaimed (p : Text) : Prop := p ∉ words ∧ ∀ k ∈ keywords, ¬ k <+: p

instance (p : Text) : Decidable (Unclaimed p) := inferInstanceAs (Decidable (_ ∧ _))

/-- How a text is read. -/
inductive Reads : Text → Command → Prop
  | readRegisters : Reads "g".toList .readRegisters
  | writeRegisters (data : Text) : Reads ('G' :: data) (.writeRegisters data)
  | readRegister {field : Text} {n : UInt64} (h : Numeric.unsigned? field = some n) :
      Reads ('p' :: field) (.readRegister n)
  | writeRegister {field value : Text} {n : UInt64} (h : Numeric.unsigned? field = some n)
      (hf : '=' ∉ field) (hv : '=' ∉ value) :
      Reads ('P' :: field ++ '=' :: value) (.writeRegister n value)
  | readMemory {range : Text} {x y : UInt64} (h : Spans range x y) (hy : y.toNat ≤ maxReadLength) :
      Reads ('m' :: range) (.readMemory x y)
  | writeMemory {range data : Text} {x y : UInt64} (h : Spans range x y) (hr : ':' ∉ range)
      (hd : ':' ∉ data) : Reads ('M' :: range ++ ':' :: data) (.writeMemory x y data)
  | symbol {rest args : Text} (h : AfterByte rest args) :
      Reads ("qSymbol".toList ++ rest) (.symbol args)
  | supported {rest args : Text} {features : List Text} (h : AfterByte rest args)
      (ha : args = [';'].intercalate features) (hf : ∀ f ∈ features, ';' ∉ f) :
      Reads ("qSupported".toList ++ rest) (.supported (features.filter (! ·.isEmpty)))
  | threadInfoFirst : Reads "qfThreadInfo".toList .threadInfoFirst
  | currentThread : Reads "qC".toList .currentThread
  | haltReason : Reads "?".toList .haltReason
  | selectThread {op : Char} {field : Text} {v : Int64} (h : Numeric.signed? field = some v) :
      Reads ('H' :: op :: field) (.selectThread op v)
  | transfer {object mode annex range : Text} {x y : UInt64} (h : Spans range x y)
      (ho : ':' ∉ object) (hm : ':' ∉ mode) (ha : ':' ∉ annex) (hr : ':' ∉ range) :
      Reads ("qXfer:".toList ++ object ++ ':' :: mode ++ ':' :: annex ++ ':' :: range)
        (.transfer object mode annex x y)
  | other {p : Text} (h : Unclaimed p) : Reads p (.other p)

/-- The texts of a known form whose fields are not as they should be. -/
inductive Malformed (p : Text) : Prop
  | readRegister {r : Text} (hp : p = 'p' :: r) (h : ¬ IsUnsigned r)
  | writeRegister {r : Text} (hp : p = 'P' :: r)
      (h : r.count '=' ≠ 1 ∨ ¬ IsUnsigned (r.takeWhile (· ≠ '=')))
  | readMemory {r : Text} (hp : p = 'm' :: r)
      (h : ¬ ∃ x y, Spans r x y ∧ y.toNat ≤ maxReadLength)
  | writeMemory {r : Text} (hp : p = 'M' :: r)
      (h : r.count ':' ≠ 1 ∨ ¬ IsRange (r.takeWhile (· ≠ ':')))
  | selectThread {r : Text} (hp : p = 'H' :: r) (h : r = [] ∨ ¬ IsSigned r.tail)
  | transfer {r : Text} (hp : p = "qXfer:".toList ++ r)
      (h : r.count ':' ≠ 3 ∨ ¬ IsRange (r.rtakeWhile (· ≠ ':')))

/-! ## The forms of a text -/

/-- The forms of a text, and what is made of each. -/
inductive Form : Text → Except DecodeError Command → Prop
  | readRegisters : Form "g".toList (.ok .readRegisters)
  | threadInfoFirst : Form "qfThreadInfo".toList (.ok .threadInfoFirst)
  | currentThread : Form "qC".toList (.ok .currentThread)
  | haltReason : Form "?".toList (.ok .haltReason)
  | writeRegisters (data : Text) : Form ('G' :: data) (.ok (.writeRegisters data))
  | readRegister (field : Text) :
      Form ('p' :: field) (unsignedField "register number" field >>= (pure <| .readRegister ·))
  | writeRegister (rest : Text) : Form ('P' :: rest) (parseWriteRegister rest)
  | readMemory (rest : Text) : Form ('m' :: rest) (parseReadMemory rest)
  | writeMemory (rest : Text) : Form ('M' :: rest) (parseWriteMemory rest)
  | selectThread (rest : Text) : Form ('H' :: rest) (parseSelectThread rest)
  | symbol (rest : Text) : Form ("qSymbol".toList ++ rest) (.ok (.symbol (argument rest)))
  | supported (rest : Text) :
      Form ("qSupported".toList ++ rest)
        (.ok (.supported ((Text.fields ';' (argument rest)).filter (! ·.isEmpty))))
  | transfer (rest : Text) : Form ("qXfer:".toList ++ rest) (parseTransfer rest)
  | other {p : Text} (h : Unclaimed p) : Form p (.ok (.other p))

theorem not_prefix_of_unclaimed {p k : Text} (h : Unclaimed p) (hk : k ∈ keywords) (rest : Text) :
    k ++ rest ≠ p := by
  intro heq
  exact h.2 k hk ⟨rest, heq⟩

theorem parseQuery_of_unclaimed {query : Text} (h : Unclaimed ('q' :: query)) :
    parseQuery query = .ok (.other ('q' :: query)) := by
  have hkey : ∀ k rest, ('q' :: k) ∈ keywords → k.isPrefixOf? query ≠ some rest := by
    intro k rest hk hp
    have heq := List.isPrefixOf?_eq_some_iff_append_eq.mp hp
    exact not_prefix_of_unclaimed h hk rest (congrArg ('q' :: ·) heq)
  unfold parseQuery
  split
  next rest hp => exact absurd hp (hkey _ rest (by decide))
  split
  next rest hp => exact absurd hp (hkey _ rest (by decide))
  by_cases ht : query = "fThreadInfo".toList
  · subst ht
    exact absurd (by decide) h.1
  by_cases hc : query = "C".toList
  · subst hc
    exact absurd (by decide) h.1
  rw [if_neg ht, if_neg hc]
  split
  next rest hp => exact absurd hp (hkey _ rest (by decide))
  rfl

theorem parse_of_unclaimed {p : Text} (h : Unclaimed p) : parse p = .ok (.other p) := by
  unfold parse
  split
  · exact absurd (by decide) h.1
  · exact absurd (by decide) h.1
  · exact absurd rfl (not_prefix_of_unclaimed h (k := ['G']) (by decide) _)
  · exact absurd rfl (not_prefix_of_unclaimed h (k := ['p']) (by decide) _)
  · exact absurd rfl (not_prefix_of_unclaimed h (k := ['P']) (by decide) _)
  · exact absurd rfl (not_prefix_of_unclaimed h (k := ['m']) (by decide) _)
  · exact absurd rfl (not_prefix_of_unclaimed h (k := ['M']) (by decide) _)
  · exact absurd rfl (not_prefix_of_unclaimed h (k := ['H']) (by decide) _)
  · exact parseQuery_of_unclaimed h
  · rfl

theorem parse_of_form {p : Text} {x : Except DecodeError Command} (h : Form p x) : parse p = x := by
  cases h with
  | other h => exact parse_of_unclaimed h
  | _ => rfl

theorem exists_form (p : Text) : ∃ x, Form p x := by
  by_cases h : Unclaimed p
  · exact ⟨_, .other h⟩
  · rw [Unclaimed, not_and_or, not_not] at h
    rcases h with h | h
    · simp only [words, List.mem_cons, List.not_mem_nil, or_false] at h
      rcases h with rfl | rfl | rfl | rfl
      · exact ⟨_, .readRegisters⟩
      · exact ⟨_, .threadInfoFirst⟩
      · exact ⟨_, .currentThread⟩
      · exact ⟨_, .haltReason⟩
    · simp only [not_forall, not_not] at h
      obtain ⟨k, hk, rest, rfl⟩ := h
      simp only [keywords, List.mem_cons, List.not_mem_nil, or_false] at hk
      rcases hk with rfl | rfl | rfl | rfl | rfl | rfl | rfl | rfl | rfl
      · exact ⟨_, .writeRegisters rest⟩
      · exact ⟨_, .readRegister rest⟩
      · exact ⟨_, .writeRegister rest⟩
      · exact ⟨_, .readMemory rest⟩
      · exact ⟨_, .writeMemory rest⟩
      · exact ⟨_, .selectThread rest⟩
      · exact ⟨_, .symbol rest⟩
      · exact ⟨_, .supported rest⟩
      · exact ⟨_, .transfer rest⟩

theorem form_parse (p : Text) : Form p (parse p) := by
  obtain ⟨x, hx⟩ := exists_form p
  rwa [parse_of_form hx]

/-! ## What is read, and what is refused -/

theorem filter_fields_intercalate {features : List Text} (h : ∀ f ∈ features, ';' ∉ f) :
    (Text.fields ';' ([';'].intercalate features)).filter (! ·.isEmpty) =
      features.filter (! ·.isEmpty) := by
  by_cases hne : features = []
  · subst hne
    rfl
  · rw [(Text.fields_eq_iff hne).mpr ⟨rfl, h⟩]

theorem reads_parse {p : Text} {c : Command} (h : parse p = .ok c) : Reads p c := by
  have hf := form_parse p
  rw [h] at hf
  generalize hx : Except.ok c = x at hf
  cases hf with
  | readRegisters => cases hx; exact .readRegisters
  | threadInfoFirst => cases hx; exact .threadInfoFirst
  | currentThread => cases hx; exact .currentThread
  | haltReason => cases hx; exact .haltReason
  | writeRegisters data => cases hx; exact .writeRegisters data
  | readRegister field =>
    obtain ⟨n, hn, hc⟩ := bind_eq_ok_iff.mp hx.symm
    cases hc
    exact .readRegister (unsignedField_eq_ok_iff.mp hn)
  | writeRegister rest =>
    obtain ⟨field, value, hfields, n, hn, rfl⟩ := parseWriteRegister_eq_ok_iff.mp hx.symm
    obtain ⟨rfl, hfield, hvalue⟩ := Text.fields_eq_pair_iff.mp hfields
    exact .writeRegister hn hfield hvalue
  | readMemory rest =>
    obtain ⟨x, y, hs, hy, rfl⟩ := parseReadMemory_eq_ok_iff.mp hx.symm
    exact .readMemory hs hy
  | writeMemory rest =>
    obtain ⟨range, data, hfields, x, y, hs, rfl⟩ := parseWriteMemory_eq_ok_iff.mp hx.symm
    obtain ⟨rfl, hrange, hdata⟩ := Text.fields_eq_pair_iff.mp hfields
    exact .writeMemory hs hrange hdata
  | selectThread rest =>
    obtain ⟨op, field, v, rfl, hv, rfl⟩ := parseSelectThread_eq_ok_iff.mp hx.symm
    exact .selectThread hv
  | symbol rest =>
    cases hx
    exact .symbol (afterByte_iff.mpr rfl)
  | supported rest =>
    cases hx
    have hne := Text.fields_ne_nil ';' (argument rest)
    obtain ⟨ha, hf⟩ := (Text.fields_eq_iff hne).mp rfl
    exact .supported (afterByte_iff.mpr rfl) ha hf
  | transfer rest =>
    obtain ⟨object, mode, annex, range, hfields, x, y, hs, rfl⟩ := parseTransfer_eq_ok_iff.mp hx.symm
    obtain ⟨rfl, ho, hm, ha, hr⟩ := Text.fields_eq_four_iff.mp hfields
    exact .transfer hs ho hm ha hr
  | other hu => cases hx; exact .other hu

theorem parse_of_reads {p : Text} {c : Command} (h : Reads p c) : parse p = .ok c := by
  cases h with
  | @readRegister field n h =>
    rw [parse_of_form (.readRegister field), bind_eq_ok_iff]
    exact ⟨n, unsignedField_eq_ok_iff.mpr h, rfl⟩
  | @writeRegister field value n h hf hv =>
    rw [List.cons_append, parse_of_form (.writeRegister _), parseWriteRegister_eq_ok_iff]
    exact ⟨field, value, Text.fields_eq_pair_iff.mpr ⟨rfl, hf, hv⟩, n, h, rfl⟩
  | @readMemory range x y h hy =>
    rw [parse_of_form (.readMemory _), parseReadMemory_eq_ok_iff]
    exact ⟨x, y, h, hy, rfl⟩
  | @writeMemory range data x y h hr hd =>
    rw [List.cons_append, parse_of_form (.writeMemory _), parseWriteMemory_eq_ok_iff]
    exact ⟨range, data, Text.fields_eq_pair_iff.mpr ⟨rfl, hr, hd⟩, x, y, h, rfl⟩
  | @symbol rest args h =>
    rw [parse_of_form (.symbol rest), afterByte_iff.mp h]
  | @supported rest args features h ha hf =>
    rw [parse_of_form (.supported rest), afterByte_iff.mp h, ha, filter_fields_intercalate hf]
  | @selectThread op field v h =>
    rw [parse_of_form (.selectThread _), parseSelectThread_eq_ok_iff]
    exact ⟨op, field, v, rfl, h, rfl⟩
  | @transfer object mode annex range x y h ho hm ha hr =>
    have hfields := Text.fields_eq_four_iff.mpr ⟨rfl, ho, hm, ha, hr⟩
    simp only [List.append_assoc] at hfields ⊢
    rw [parse_of_form (.transfer _), parseTransfer_eq_ok_iff]
    exact ⟨object, mode, annex, range, hfields, x, y, h, rfl⟩
  | other h => exact parse_of_unclaimed h
  | _ => rfl

theorem malformed_of_refused {p : Text} {e : DecodeError} (h : parse p = .error e) :
    Malformed p := by
  have hf := form_parse p
  rw [h] at hf
  generalize hx : Except.error e = x at hf
  cases hf with
  | readRegister field =>
    by_cases hn : ∃ e, unsignedField "register number" field = .error e
    · exact .readRegister rfl (unsignedField_refuses_iff.mp hn)
    · rw [exists_error_iff, not_not] at hn
      obtain ⟨n, hn⟩ := hn
      rw [hn] at hx
      cases hx
  | writeRegister rest => exact .writeRegister rfl (parseWriteRegister_refuses_iff.mp ⟨e, hx.symm⟩)
  | readMemory rest => exact .readMemory rfl (parseReadMemory_refuses_iff.mp ⟨e, hx.symm⟩)
  | writeMemory rest => exact .writeMemory rfl (parseWriteMemory_refuses_iff.mp ⟨e, hx.symm⟩)
  | selectThread rest => exact .selectThread rfl (parseSelectThread_refuses_iff.mp ⟨e, hx.symm⟩)
  | transfer rest => exact .transfer rfl (parseTransfer_refuses_iff.mp ⟨e, hx.symm⟩)
  | _ => cases hx

theorem refused_of_malformed {p : Text} (h : Malformed p) : ∃ e, parse p = .error e := by
  cases h with
  | readRegister hp h =>
    subst hp
    obtain ⟨e, he⟩ := unsignedField_refuses_iff.mpr h
    exact ⟨e, by rw [parse_of_form (.readRegister _), he]; rfl⟩
  | writeRegister hp h =>
    subst hp
    rw [parse_of_form (.writeRegister _)]
    exact parseWriteRegister_refuses_iff.mpr h
  | readMemory hp h =>
    subst hp
    rw [parse_of_form (.readMemory _)]
    exact parseReadMemory_refuses_iff.mpr h
  | writeMemory hp h =>
    subst hp
    rw [parse_of_form (.writeMemory _)]
    exact parseWriteMemory_refuses_iff.mpr h
  | selectThread hp h =>
    subst hp
    rw [parse_of_form (.selectThread _)]
    exact parseSelectThread_refuses_iff.mpr h
  | transfer hp h =>
    subst hp
    rw [parse_of_form (.transfer _)]
    exact parseTransfer_refuses_iff.mpr h

/-- **The language of commands.** A text is refused if and only if it is malformed, it is taken as
it is if and only if no known command claims it, and whatever a text is read as is what its form
and its fields say. -/
theorem parse_accepts (p : Text) :
    ((∃ e : DecodeError, parse p = .error e) ↔ Malformed p) ∧
      (parse p = .ok (.other p) ↔ Unclaimed p) ∧
      ∀ c, parse p = .ok c ↔ Reads p c := by
  refine ⟨⟨?_, refused_of_malformed⟩, ⟨?_, parse_of_unclaimed⟩, fun c => ⟨reads_parse, parse_of_reads⟩⟩
  · rintro ⟨e, he⟩
    exact malformed_of_refused he
  · intro h
    cases reads_parse h with
    | other hu => exact hu

-- the colon belongs to the keyword: without it the text is claimed by no command
example : Unclaimed "qXfer".toList ∧ ¬ Unclaimed "qXfer:".toList := by decide

end RemoteStub.Command
