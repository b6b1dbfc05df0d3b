import RemoteStub.PacketLog

/-!
# Writing a log

A sink takes data as it takes any parts of the data one after another (`write_append`), so
it does not matter which parts it takes at a time (`writesAll_iff`), and writing the entries
of a log is one write of all its lines (`writeTo_eq`). A sink without enough room is left
with the beginning of the lines that there was room for (`writeTo_takes_prefix`).
-/

namespace RemoteStub

namespace Sink

def take (s : Sink) (data : Bytes) : Sink :=
  { s with room := s.room.map (· - data.length), taken := s.taken ++ data }

def Fits (s : Sink) (data : Bytes) : Prop := ∀ room, s.room = some room → data.length ≤ room

variable {s t : Sink} {a b data : Bytes} {results : List (Except IoError Nat)}
  {out : Except IoError Unit}

theorem take_nil (s : Sink) : s.take [] = s := by
  simp [take]

theorem take_take (s : Sink) (a b : Bytes) : (s.take a).take b = s.take (a ++ b) := by
  have hsub : (· - b.length) ∘ (· - a.length) = (· - (a ++ b).length) := by
    funext room
    simp only [Function.comp_apply, List.length_append]
    omega
  simp only [take, Option.map_map, hsub, List.append_assoc]

theorem fits_append_iff (ha : s.Fits a) : s.Fits (a ++ b) ↔ (s.take a).Fits b := by
  unfold Fits at *
  cases h : s.room with
  | none => simp [take, h]
  | some room =>
    have hle := ha room h
    simp only [take, h, Option.map_some, Option.some.injEq, forall_eq', List.length_append]
    omega

theorem fits_or_lacks (s : Sink) (data : Bytes) :
    s.Fits data ∨ ∃ room, s.room = some room ∧ room < data.length := by
  unfold Fits
  cases s.room with
  | none => simp
  | some room => simpa using Nat.lt_or_ge room data.length |>.symm

theorem write_of_fits (h : s.Fits data) : s.write data = (.ok (), s.take data) := by
  unfold write take
  cases hs : s.room with
  | none => rfl
  | some room =>
    have hle := h room hs
    simp [hle, List.take_of_length_le]

theorem write_of_lacks {room : Nat} (hs : s.room = some room) (h : room < data.length) :
    s.write data = (.error s.failure.error, s.take (data.take room)) := by
  unfold write take
  simp only [hs, Option.map_some, List.length_take]
  rw [if_neg (by omega), show room - data.length = room - min room data.length by omega]

theorem write_nil (s : Sink) : s.write [] = (.ok (), s) := by
  have hfits : s.Fits [] := fun _ _ => Nat.zero_le _
  rw [write_of_fits hfits, take_nil]

/-- Data is taken as its parts are, the second one only if there was room for the first. -/
theorem write_append (s : Sink) (a b : Bytes) :
    s.write (a ++ b) = match s.write a with
      | (.error f, t) => (.error f, t)
      | (.ok _, t) => t.write b := by
  rcases fits_or_lacks s a with ha | ⟨room, hs, ha⟩
  · rw [write_of_fits ha]
    rcases fits_or_lacks (s.take a) b with hb | ⟨left, ht, hb⟩
    · rw [write_of_fits ((fits_append_iff ha).mpr hb)]
      simp only [write_of_fits hb, take_take]
    · obtain ⟨room, hs, rfl⟩ := Option.map_eq_some_iff.mp ht
      have hle := ha room hs
      have htake : (a ++ b).take room = a ++ b.take (room - a.length) := by
        rw [List.take_append, List.take_of_length_le hle]
      simp only [write_of_lacks ht hb, take_take]
      rw [write_of_lacks hs (by rw [List.length_append]; omega), htake]
      rfl
  · have htake : (a ++ b).take room = a.take room := List.take_append_of_le_length (by omega)
    rw [write_of_lacks hs ha, write_of_lacks hs (by rw [List.length_append]; omega), htake]

/-! ## Taking parts -/

/-- Offering data until all of it is taken or the sink fails, with the result of every write. While
it has room, the sink takes as much as it likes of what it is offered, but at least a byte, or the
write is interrupted. -/
inductive WritesAll :
    Sink → Bytes → List (Except IoError Nat) → Except IoError Unit → Sink → Prop
  | done (s : Sink) : WritesAll s [] [] (.ok ()) s
  | part {s t : Sink} {a b : Bytes} {results : List (Except IoError Nat)}
      {out : Except IoError Unit} (ha : a ≠ []) (hfits : s.Fits a)
      (h : WritesAll (s.take a) b results out t) :
      WritesAll s (a ++ b) (.ok a.length :: results) out t
  | interrupted {s t : Sink} {data : Bytes} {e : IoError} {results : List (Except IoError Nat)}
      {out : Except IoError Unit} (hdata : data ≠ []) (he : e.kind = .interrupted)
      (h : WritesAll s data results out t) : WritesAll s data (.error e :: results) out t
  | full {s : Sink} {data : Bytes} (hdata : data ≠ []) (h : s.room = some 0) :
      WritesAll s data [.error s.failure.error] (.error s.failure.error) s

theorem WritesAll.write_eq (h : s.WritesAll data results out t) : s.write data = (out, t) := by
  induction h with
  | done s => exact write_nil s
  | part ha hfits h ih =>
    rw [write_append, write_of_fits hfits]
    exact ih
  | interrupted hdata he h ih => exact ih
  | full hdata h =>
    rw [write_of_lacks h (List.length_pos_iff.mpr hdata), List.take_zero, take_nil]

theorem writesAll_of_fits (h : s.Fits data) :
    ∃ results, s.WritesAll data results (.ok ()) (s.take data) := by
  by_cases hdata : data = []
  · subst hdata
    rw [take_nil]
    exact ⟨_, .done s⟩
  · refine ⟨[.ok data.length], ?_⟩
    have hpart := WritesAll.part hdata h (.done (s.take data))
    rwa [List.append_nil] at hpart

theorem writesAll_write (s : Sink) (data : Bytes) :
    ∃ results, s.WritesAll data results (s.write data).1 (s.write data).2 := by
  rcases fits_or_lacks s data with h | ⟨room, hs, h⟩
  · rw [write_of_fits h]
    exact writesAll_of_fits h
  · rw [write_of_lacks hs h]
    by_cases hroom : room = 0
    · subst hroom
      rw [List.take_zero, take_nil]
      exact ⟨_, .full (List.length_pos_iff.mp h) hs⟩
    · -- all that there is room for goes first, and the rest is refused
      have hfits : s.Fits (data.take room) := by
        intro n hn
        rw [hs, Option.some.injEq] at hn
        rw [List.length_take]
        omega
      have hnil : data.take room ≠ [] := by
        rw [← List.length_pos_iff, List.length_take]
        omega
      have hrest : data.drop room ≠ [] := by
        rw [← List.length_pos_iff, List.length_drop]
        omega
      have hfull : (s.take (data.take room)).room = some 0 := by
        simp only [take, hs, Option.map_some, List.length_take]
        rw [show room - min room data.length = 0 by omega]
      have hpart := WritesAll.part hnil hfits (.full hrest hfull)
      rw [List.take_append_drop] at hpart
      exact ⟨_, hpart⟩

/-- Whatever parts the sink takes at a time, and however often it is interrupted, it is one write. -/
theorem writesAll_iff :
    (∃ results, s.WritesAll data results out t) ↔ s.write data = (out, t) := by
  constructor
  · rintro ⟨results, h⟩
    exact h.write_eq
  · intro h
    have := writesAll_write s data
    rwa [h] at this

end Sink

namespace PacketLog

theorem writeEntries_eq (entries : List Text) (s : Sink) :
    writeEntries entries s = s.write (entries.flatMap line) := by
  induction entries generalizing s with
  | nil => rw [List.flatMap_nil, Sink.write_nil]; rfl
  | cons e rest ih =>
    rw [writeEntries, List.flatMap_cons, line, List.append_assoc, Sink.write_append]
    rcases s.write e.toBytes with ⟨_ | _, t⟩
    · rfl
    · simp only [Sink.write_append]
      rcases t.write [0x0a] with ⟨_ | _, u⟩
      · rfl
      · exact ih u

theorem lines_eq (log : PacketLog) :
    log.lines = Text.toBytes (log.entries.flatMap (· ++ ['\n'])) := by
  have hline (e : Text) : Text.toBytes (e ++ ['\n']) = line e := by
    rw [line, Text.toBytes_append]
    rfl
  simp only [lines, Text.toBytes, List.flatMap_assoc] at hline ⊢
  simp only [hline]

/-- Writing a log is one write of all its lines, which are then handed on. -/
theorem writeTo_eq (log : PacketLog) (s : Sink) :
    log.writeTo s = match s.write log.lines with
      | (.error e, t) => (.error (.io e), t)
      | (.ok _, t) => (t.flush.mapError .io, t) := by
  rw [writeTo, writeEntries_eq]
  rfl

theorem writeTo_of_fits {log : PacketLog} {s : Sink} (h : s.Fits log.lines) :
    log.writeTo s = (s.flush.mapError .io, s.take log.lines) := by
  rw [writeTo_eq, Sink.write_of_fits h]
  rfl

theorem writeTo_of_lacks {log : PacketLog} {s : Sink} {room : Nat} (hs : s.room = some room)
    (h : room < log.lines.length) :
    log.writeTo s = (.error (.io s.failure.error), s.take (log.lines.take room)) := by
  rw [writeTo_eq, Sink.write_of_lacks hs h]

/-- Where handing on does not fail, writing a log comes to what writing its lines comes to. -/
theorem writeTo_eq_iff {log : PacketLog} {s t : Sink} {out : Except IoError Unit}
    (h : s.flushFailure = none) :
    log.writeTo s = (out.mapError .io, t) ↔ s.write log.lines = (out, t) := by
  have hflush : s.flush = .ok () := by rw [Sink.flush, h]
  rcases Sink.fits_or_lacks s log.lines with hfits | ⟨room, hs, hlacks⟩
  · rw [writeTo_of_fits hfits, Sink.write_of_fits hfits, hflush]
    constructor <;> cases out <;> rintro ⟨⟩ <;> rfl
  · rw [writeTo_of_lacks hs hlacks, Sink.write_of_lacks hs hlacks]
    constructor <;> cases out <;> rintro ⟨⟩ <;> rfl

/-- **A sink with little room is left with the beginning of the log.** The lines are written just
if there is room for all of them, and otherwise the writer's failure is passed on; either way the
sink has taken as many of their bytes as there was room for, in whatever parts it took them and
however often it was interrupted. Writing changes nothing about the log, so a sink without a limit
still takes all of it. -/
theorem writeTo_takes_prefix (log : PacketLog) (room : Nat) (failure : WriteFailure)
    (taken : Bytes) :
    let full := Text.toBytes (log.entries.flatMap (· ++ ['\n']))
    let s : Sink := { room := some room, failure, taken }
    ((log.writeTo s).1 = .ok () ↔ full.length ≤ room) ∧
      ((log.writeTo s).1 = .error (.io failure.error) ↔ room < full.length) ∧
      (log.writeTo s).2.taken = taken ++ full.take (min room full.length) ∧
      (∀ out t, (∃ results, s.WritesAll full results out t) ↔
        log.writeTo s = (out.mapError .io, t)) ∧
      ∀ t : Sink, log.writeTo { t with room := none } =
        (t.flush.mapError .io, { t with room := none, taken := t.taken ++ full }) := by
  intro full s
  have hfull : log.lines = full := lines_eq log
  have hall : ∀ out t, (∃ results, s.WritesAll full results out t) ↔
      log.writeTo s = (out.mapError .io, t) := by
    intro out t
    rw [Sink.writesAll_iff, writeTo_eq_iff rfl, hfull]
  have hunlimited : ∀ t : Sink, log.writeTo { t with room := none } =
      (t.flush.mapError .io, { t with room := none, taken := t.taken ++ full }) := by
    intro t
    have hfits : Sink.Fits { t with room := none } log.lines := by
      intro n hn
      cases hn
    rw [writeTo_of_fits hfits, hfull]
    rfl
  rcases Nat.lt_or_ge room full.length with h | h
  · have hlacks : log.writeTo s = (.error (.io failure.error), s.take (full.take room)) := by
      rw [writeTo_of_lacks rfl (hfull ▸ h), hfull]
    refine ⟨?_, ?_, ?_, hall, hunlimited⟩
    · rw [hlacks]
      simpa using h
    · rw [hlacks]
      simpa using h
    · rw [hlacks, Nat.min_eq_left (by omega)]
      rfl
  · have hfits : s.Fits log.lines := by
      intro n hn
      cases hn
      rw [hfull]
      exact h
    have hwritten : log.writeTo s = (.ok (), s.take full) := by
      rw [writeTo_of_fits hfits, hfull]
      rfl
    refine ⟨?_, ?_, ?_, hall, hunlimited⟩
    · rw [hwritten]
      simpa using h
    · rw [hwritten]
      simpa using h
    · rw [hwritten, Nat.min_eq_right h, List.take_length]
      rfl

end PacketLog

end RemoteStub
