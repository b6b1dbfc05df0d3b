import RemoteStub.Proofs.Responder

/-!
# Calls of a target's methods

A query is answered by a call of the method that it names (`Target.returns_answer`). That
no other method is called shows in the record of a target that takes down its calls
itself: each command that is read comes to one method, with the arguments that were read,
and one that is refused comes to none (`Responder.calls_eq`).
-/

namespace RemoteStub

/-- The query that a text is read as. -/
def Command.query? (t : Text) : Option Query := (parse t).toOption.map query

theorem Command.query?_of_ok {t : Text} {command : Command} (h : parse t = .ok command) :
    query? t = some command.query := by
  rw [query?, h]
  rfl

theorem Command.query?_of_error {t : Text} {e : DecodeError} (h : parse t = .error e) :
    query? t = none := by
  rw [query?, h]
  rfl

namespace Target

variable {σ : Type} {t : Target σ}

/-- A call of the method that a query names: the state before, what it returns as the payload of a
reply, and the state after. -/
inductive Returns (t : Target σ) (s : σ) : Query → Bytes → σ → Prop
  | readRegisters {text : Text} {s' : σ} (h : t.readRegisters.run s = (text, s')) :
      Returns t s .readRegisters text.toBytes s'
  | writeRegisters {data text : Text} {s' : σ} (h : (t.writeRegisters data).run s = (text, s')) :
      Returns t s (.writeRegisters data) text.toBytes s'
  | readRegister {register : UInt64} {text : Text} {s' : σ}
      (h : (t.readRegister register).run s = (text, s')) :
      Returns t s (.readRegister register) text.toBytes s'
  | writeRegister {register : UInt64} {value text : Text} {s' : σ}
      (h : (t.writeRegister register value).run s = (text, s')) :
      Returns t s (.writeRegister register value) text.toBytes s'
  | readMemory {address length : UInt64} {text : Text} {s' : σ}
      (h : (t.readMemory address length).run s = (text, s')) :
      Returns t s (.readMemory address length) text.toBytes s'
  | writeMemory {address : UInt64} {data text : Text} {s' : σ}
      (h : (t.writeMemory address data).run s = (text, s')) :
      Returns t s (.writeMemory address data) text.toBytes s'
  | symbol {args text : Text} {s' : σ} (h : (t.symbol args).run s = (text, s')) :
      Returns t s (.symbol args) text.toBytes s'
  | supported {features : List Text} {text : Text} {s' : σ}
      (h : (t.supported features).run s = (text, s')) :
      Returns t s (.supported features) text.toBytes s'
  | threadInfo {text : Text} {s' : σ} (h : t.threadInfo.run s = (text, s')) :
      Returns t s .threadInfo text.toBytes s'
  | currentThread {text : Text} {s' : σ} (h : t.currentThread.run s = (text, s')) :
      Returns t s .currentThread text.toBytes s'
  | haltReason {text : Text} {s' : σ} (h : t.haltReason.run s = (text, s')) :
      Returns t s .haltReason text.toBytes s'
  | selectThread {op : Char} {thread : Int64} {text : Text} {s' : σ}
      (h : (t.selectThread op thread).run s = (text, s')) :
      Returns t s (.selectThread op thread) text.toBytes s'
  | transfer {object annex : Text} {offset length : UInt64} {chunk : Chunk} {s' : σ}
      (h : (t.transfer object annex offset length).run s = (some chunk, s')) :
      Returns t s (.transfer object annex offset length) chunk.payload s'
  | noTransfer {object annex : Text} {offset length : UInt64} {s' : σ}
      (h : (t.transfer object annex offset length).run s = (none, s')) :
      Returns t s (.transfer object annex offset length) [] s'
  | other {packet text : Text} {s' : σ} (h : (t.other packet).run s = (text, s')) :
      Returns t s (.other packet) text.toBytes s'

theorem returns_answer (q : Query) (s : σ) :
    t.Returns s q ((t.answer q).run s).1 ((t.answer q).run s).2 := by
  cases q with
  | readRegisters => exact .readRegisters rfl
  | writeRegisters data => exact .writeRegisters rfl
  | readRegister register => exact .readRegister rfl
  | writeRegister register value => exact .writeRegister rfl
  | readMemory address length => exact .readMemory rfl
  | writeMemory address data => exact .writeMemory rfl
  | symbol args => exact .symbol rfl
  | supported features => exact .supported rfl
  | threadInfo => exact .threadInfo rfl
  | currentThread => exact .currentThread rfl
  | haltReason => exact .haltReason rfl
  | selectThread op thread => exact .selectThread rfl
  | other packet => exact .other rfl
  | transfer object annex offset length =>
    rw [answer, StateT.run_bind]
    rcases h : (t.transfer object annex offset length).run s with ⟨chunk, s'⟩
    cases chunk with
    | none => exact .noTransfer h
    | some chunk => exact .transfer h

/-! ## Taking calls down -/

/-- A method that also takes down how it was called. -/
def record {α : Type} (q : Query) (f : StateM σ α) : StateM (σ × List Query) α := fun (s, calls) =>
  let (a, s) := f.run s
  (a, s, calls ++ [q])

/-- The target with a record of the calls of its methods. -/
def recording (t : Target σ) : Target (σ × List Query) where
  registerCount s := t.registerCount s.1
  readRegisters := record .readRegisters t.readRegisters
  writeRegisters data := record (.writeRegisters data) (t.writeRegisters data)
  readRegister register := record (.readRegister register) (t.readRegister register)
  writeRegister register value :=
    record (.writeRegister register value) (t.writeRegister register value)
  readMemory address length := record (.readMemory address length) (t.readMemory address length)
  writeMemory address data := record (.writeMemory address data) (t.writeMemory address data)
  symbol args := record (.symbol args) (t.symbol args)
  supported features := record (.supported features) (t.supported features)
  threadInfo := record .threadInfo t.threadInfo
  currentThread := record .currentThread t.currentThread
  haltReason := record .haltReason t.haltReason
  selectThread op thread := record (.selectThread op thread) (t.selectThread op thread)
  transfer object annex offset length :=
    record (.transfer object annex offset length) (t.transfer object annex offset length)
  other packet := record (.other packet) (t.other packet)

theorem run_answer_recording (q : Query) (s : σ) (calls : List Query) :
    (t.recording.answer q).run (s, calls) =
      (((t.answer q).run s).1, ((t.answer q).run s).2, calls ++ [q]) := by
  cases q with
  | transfer object annex offset length =>
    have hrun : (t.recording.transfer object annex offset length).run (s, calls) =
        (((t.transfer object annex offset length).run s).1,
          ((t.transfer object annex offset length).run s).2,
          calls ++ [.transfer object annex offset length]) := rfl
    rw [answer, answer, StateT.run_bind, StateT.run_bind, hrun]
    generalize (t.transfer object annex offset length).run s = x
    obtain ⟨chunk, state⟩ := x
    cases chunk with
    | none => rfl
    | some chunk => rfl
  | _ => rfl

end Target

namespace Responder

variable {σ : Type}

/-- The responder whose target takes its calls down behind the queries of before. -/
def recording (r : Responder σ) : Responder (σ × List Query) :=
  { target := r.target.recording, state := (r.state, r.asked), log := r.log, asked := r.asked }

theorem respond_recording (r : Responder σ) (packet : Text) :
    r.recording.respond packet = ((r.respond packet).1, (r.respond packet).2.recording) := by
  cases hp : Command.parse packet with
  | error e =>
    rw [respond_error hp, respond_error hp]
    rfl
  | ok command =>
    have hrun := Target.run_answer_recording (t := r.target) command.query r.state r.asked
    rw [respond_ok hp, respond_ok hp]
    dsimp only [recording]
    rw [hrun]

theorem respondAll_recording (r : Responder σ) (packets : List Text) :
    r.recording.respondAll packets =
      ((r.respondAll packets).1, (r.respondAll packets).2.recording) := by
  induction packets generalizing r with
  | nil => rfl
  | cons packet more ih =>
    rw [respondAll_cons, respond_recording, ih]
    rfl

theorem asked_respondAll (r : Responder σ) (packets : List Text) :
    (r.respondAll packets).2.asked = r.asked ++ packets.filterMap Command.query? := by
  induction packets generalizing r with
  | nil => exact (List.append_nil _).symm
  | cons packet more ih =>
    rcases hs : r.respond packet with ⟨result, s⟩
    rw [respondAll_cons, hs, ih]
    cases result with
    | error e =>
      obtain ⟨hp, rfl⟩ := respond_eq_error hs
      rw [List.filterMap_cons_none (Command.query?_of_error hp)]
    | ok reply =>
      obtain ⟨command, state, hp, -, rfl⟩ := respond_eq_ok hs
      rw [List.filterMap_cons_some (Command.query?_of_ok hp), List.append_assoc]
      rfl

/-- The calls of a target's methods that commands lead to, as the target itself sees them. -/
def calls (t : Target σ) (s : σ) (packets : List Text) : List Query :=
  (({ target := t.recording, state := (s, []) } : Responder _).respondAll packets).2.state.2

/-- **Each command comes to one method**, and to it with the arguments that were read. -/
theorem calls_eq (t : Target σ) (s : σ) (packets : List Text) :
    calls t s packets = packets.filterMap Command.query? := by
  have hrecording := respondAll_recording { target := t, state := s } packets
  have hcalls : calls t s packets =
      (({ target := t, state := s } : Responder σ).respondAll packets).2.asked :=
    congrArg (fun x => x.2.state.2) hrecording
  rw [hcalls, asked_respondAll]
  rfl

end Responder

end RemoteStub
