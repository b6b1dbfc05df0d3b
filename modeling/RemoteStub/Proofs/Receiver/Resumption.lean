import Mathlib.Data.List.Induction
import RemoteStub.Proofs.Receiver.Schedule

/-!
# Resumed searches

The cursor is only an optimisation: in every state that a receiver can come to, a search
that resumes does what a search from the start would do (`resumes_operated`). `next?` reads
the pending bytes position by position, and gives nothing where a position is out of range:
it never does (`next?_eq`).
-/

namespace RemoteStub.Receiver

/-! ## Position by position -/

/-- The bytes from one position up to another, if there are such positions. -/
def slice? (bytes : Bytes) (start stop : Nat) : Option Bytes :=
  if start ≤ stop ∧ stop ≤ bytes.length then some ((bytes.take stop).drop start) else none

/-- Looks at one byte after the other, up to the first `#` or the end. -/
def search? (bytes : Bytes) (i : Nat) : Option Nat :=
  if i < bytes.length then
    match bytes[i]? with
    | none => none
    | some b => if b = Wire.packetEnd then some i else search? bytes (i + 1)
  else some i
termination_by bytes.length - i

def resume? (r : Receiver) (start : Nat) : Option (Reply × Receiver) := do
  let stop ← search? r.pending start
  if r.pending.length < stop + 3 then
    return (.ok none, { r with scanned := stop })
  else
    let high ← r.pending[stop + 1]?
    let low ← r.pending[stop + 2]?
    let payload ← slice? r.pending 1 stop
    match Packet.verify payload high low with
    | .error v => return (.error v, r)
    | .ok p =>
      let rest ← slice? r.pending (stop + 3) r.pending.length
      return (.ok (some (.packet p)), { pending := rest })

/-- What `next` does, with every access to the pending bytes checked. -/
def next? (r : Receiver) : Option (Reply × Receiver) := do
  if r.pending.isEmpty then
    return (.ok none, r)
  else if r.scanned = 0 then
    let b ← r.pending[0]?
    if b = Wire.ack then
      let rest ← slice? r.pending 1 r.pending.length
      return (.ok (some .ack), { pending := rest })
    else if b = Wire.packetStart then r.resume? 1
    else return (.error (.leadingByte b), r)
  else r.resume? r.scanned

theorem slice?_of_le {bytes : Bytes} {start stop : Nat} (h : start ≤ stop)
    (hs : stop ≤ bytes.length) : slice? bytes start stop = some ((bytes.take stop).drop start) :=
  if_pos ⟨h, hs⟩

theorem search?_eq (bytes : Bytes) (i : Nat) : search? bytes i = some (terminator bytes i) := by
  unfold search? terminator
  by_cases hi : i < bytes.length
  · rw [if_pos hi, List.getElem?_eq_getElem hi, List.drop_eq_getElem_cons hi, List.findIdx_cons]
    by_cases hb : bytes[i] = Wire.packetEnd
    · simp [hb]
    · have ih := search?_eq bytes (i + 1)
      have hb' : (bytes[i] == Wire.packetEnd) = false := beq_false_of_ne hb
      simp only [hb, hb', if_false, cond_false, ih, terminator]
      congr 1
      omega
  · rw [if_neg hi, List.drop_of_length_le (Nat.le_of_not_lt hi)]
    rfl
termination_by bytes.length - i

theorem le_terminator (bytes : Bytes) (i : Nat) : i ≤ terminator bytes i := Nat.le_add_right _ _

/-- What `next` does once it has searched up to a position. -/
def conclude (r : Receiver) (stop : Nat) : Reply × Receiver :=
  match r.pending.drop (stop + 1) with
  | high :: low :: rest =>
    match Packet.verify ((r.pending.take stop).drop 1) high low with
    | .ok p => (.ok (some (.packet p)), { pending := rest })
    | .error v => (.error v, r)
  | _ => (.ok none, { r with scanned := stop })

/-- No position is out of range once the search has begun behind the first byte. -/
theorem resume?_eq (r : Receiver) {start : Nat} (h : 1 ≤ start) :
    r.resume? start = some (r.conclude (terminator r.pending start)) := by
  have hstop : 1 ≤ terminator r.pending start := Nat.le_trans h (le_terminator _ _)
  unfold resume? conclude
  rw [search?_eq]
  generalize terminator r.pending start = stop at hstop
  have hlength : (r.pending.drop (stop + 1)).length = r.pending.length - (stop + 1) :=
    List.length_drop
  -- nothing behind the two digits is looked at before both of them are there
  match hd : r.pending.drop (stop + 1) with
  | [] =>
    rw [hd, List.length_nil] at hlength
    have : r.pending.length < stop + 3 := by omega
    simp [this]
  | [b] =>
    rw [hd, List.length_singleton] at hlength
    have : r.pending.length < stop + 3 := by omega
    simp [this]
  | high :: low :: rest =>
    rw [hd, List.length_cons, List.length_cons] at hlength
    have hle : stop + 3 ≤ r.pending.length := by omega
    have hhigh : r.pending[stop + 1]? = some high := by
      have : (r.pending.drop (stop + 1))[0]? = r.pending[stop + 1]? := List.getElem?_drop
      rw [← this, hd, List.getElem?_cons_zero]
    have hlow : r.pending[stop + 2]? = some low := by
      have : (r.pending.drop (stop + 1))[1]? = r.pending[stop + 2]? := List.getElem?_drop
      rw [← this, hd, List.getElem?_cons_succ, List.getElem?_cons_zero]
    have hrest : slice? r.pending (stop + 3) r.pending.length = some rest := by
      have : (r.pending.drop (stop + 1)).drop 2 = r.pending.drop (stop + 3) := List.drop_drop
      rw [slice?_of_le hle (Nat.le_refl _), List.take_length, ← this, hd]
      rfl
    have hpayload := slice?_of_le hstop (show stop ≤ r.pending.length by omega)
    simp only [Option.bind_eq_bind, Option.bind_some, Nat.not_lt.mpr hle, if_false, hhigh, hlow,
      hpayload]
    cases Packet.verify ((r.pending.take stop).drop 1) high low with
    | error v => rfl
    | ok p => simp [hrest]

theorem next_of_cons {r : Receiver} {b : UInt8} {rest : Bytes} (h : r.pending = b :: rest) :
    r.next = if r.scanned = 0 ∧ b = Wire.ack then (.ok (some .ack), { pending := rest })
      else if r.scanned = 0 ∧ b ≠ Wire.packetStart then (.error (.leadingByte b), r)
      else r.conclude (terminator r.pending (max 1 r.scanned)) := by
  obtain ⟨pending, scanned⟩ := r
  cases h
  rfl

/-- **No position is ever out of range.** -/
theorem next?_eq (r : Receiver) : r.next? = some r.next := by
  unfold next?
  cases hp : r.pending with
  | nil =>
    rw [next, hp]
    rfl
  | cons b rest =>
    rw [next_of_cons hp]
    by_cases hs : r.scanned = 0
    · by_cases ha : b = Wire.ack
      · have hrest : slice? (b :: rest) 1 (rest.length + 1) = some rest := by simp [slice?]
        rw [ha] at hrest
        simp [hs, ha, hrest]
      · have hresume := r.resume?_eq (Nat.le_refl 1)
        by_cases hb : b = Wire.packetStart
        · simp [hs, hb, packetStart_ne_ack, hresume, hp]
        · simp [hs, ha, hb]
    · have hpos : 1 ≤ r.scanned := Nat.pos_of_ne_zero hs
      simp [hs, r.resume?_eq hpos, Nat.max_eq_right hpos, hp]

/-! ## The cursor -/

variable {r s : Receiver} {e : Event}

theorem Sound.next (h : r.Sound) : r.next.2.Sound := by
  rw [h.next_eq]
  cases hf : front r.pending with
  | event e rest => exact sound_of_pending rest
  | broken v => exact h
  | incomplete => exact sound_parked hf

theorem Sound.not_packetEnd (h : r.Sound) {i : Nat} (hi : 1 ≤ i) (his : i < r.scanned) :
    r.pending[i]? ≠ some Wire.packetEnd := by
  intro hx
  apply h.packetEnd_not_mem
  have hdrop : ((r.pending.take r.scanned).drop 1)[i - 1]? = some Wire.packetEnd := by
    rw [List.getElem?_drop, List.getElem?_take_of_lt (by omega), Nat.add_sub_cancel' hi, hx]
  exact List.mem_of_getElem? hdrop

theorem Sound.scanned_le_searched (h : r.Sound) : r.scanned ≤ searched r.pending := by
  cases hp : r.pending with
  | nil =>
    have := h.scanned_le
    rwa [hp] at this
  | cons b rest =>
    have := le_terminator (b :: rest) (max 1 r.scanned)
    rw [h.terminator_eq hp] at this
    omega

/-- A search that finds no event leaves the cursor where it was, or farther on. -/
theorem Sound.scanned_le_next (h : r.Sound) (hn : ∀ e, r.next.1 ≠ .ok (some e)) :
    r.scanned ≤ r.next.2.scanned := by
  rw [h.next_eq] at hn ⊢
  cases hf : front r.pending with
  | event e rest =>
    rw [hf] at hn
    exact absurd rfl (hn e)
  | broken v => exact Nat.le_refl _
  | incomplete => exact h.scanned_le_searched

theorem Sound.scanned_le_perform (h : r.Sound) {acts : List Act}
    (hn : ∀ e, .ok (some e) ∉ (r.perform acts).1) : r.scanned ≤ (r.perform acts).2.scanned := by
  induction acts generalizing r with
  | nil => exact Nat.le_refl _
  | cons act acts ih =>
    cases act with
    | feed data => exact ih (h.feed data) hn
    | ask =>
      have hlater := ih h.next fun e he => hn e (List.mem_cons_of_mem _ he)
      apply Nat.le_trans (h.scanned_le_next ?_) hlater
      intro e he
      exact hn e (he ▸ List.mem_cons_self)

theorem Sound.scanned_of_event (h : r.Sound) (hn : r.next = (.ok (some e), s)) : s.scanned = 0 := by
  rw [h.next_eq] at hn
  cases hf : front r.pending with
  | event e rest =>
    rw [hf] at hn
    cases hn
    rfl
  | broken v =>
    rw [hf] at hn
    cases hn
  | incomplete =>
    rw [hf] at hn
    cases hn

/-- A search that resumes finds what a search from the start would find. -/
theorem Sound.next_congr (h : r.Sound) (hs : s.Sound) (hp : r.pending = s.pending) :
    r.next.1 = s.next.1 ∧ r.next.2.pending = s.next.2.pending := by
  rw [h.next_eq, hs.next_eq, hp]
  cases front s.pending with
  | event e rest => exact ⟨rfl, rfl⟩
  | broken v => exact ⟨rfl, hp⟩
  | incomplete => exact ⟨rfl, rfl⟩

theorem Sound.perform_congr (h : r.Sound) (hs : s.Sound) (hp : r.pending = s.pending)
    (acts : List Act) : (r.perform acts).1 = (s.perform acts).1 := by
  induction acts generalizing r s with
  | nil => rfl
  | cons act acts ih =>
    cases act with
    | feed data => exact ih (h.feed data) (hs.feed data) (congrArg (· ++ data) hp)
    | ask =>
      obtain ⟨hresult, hpending⟩ := h.next_congr hs hp
      rw [perform, perform, hresult, ih h.next hs.next hpending]

/-! ## Draining ends -/

theorem length_events_drain_le (r : Receiver) : r.drain.events.length ≤ r.pending.length := by
  match hn : r.next with
  | (.ok none, s) =>
    rw [drain_of_none hn]
    exact Nat.zero_le _
  | (.error v, s) =>
    rw [drain_of_error hn]
    exact Nat.zero_le _
  | (.ok (some e), s) =>
    have hlt := length_pending_lt_of_next hn
    have ih := length_events_drain_le s
    rw [drain_of_some hn, List.length_cons]
    omega
termination_by r.pending.length

theorem le_length_of_asks {n : Nat}
    (h : ∀ reply ∈ (r.perform (List.replicate n .ask)).1, ∃ e, reply = .ok (some e)) :
    n ≤ r.pending.length := by
  induction n generalizing r with
  | zero => exact Nat.zero_le _
  | succ n ih =>
    rw [List.replicate_succ, perform] at h
    obtain ⟨e, he⟩ := h _ List.mem_cons_self
    have hlt := length_pending_lt_of_next (Prod.ext he rfl : r.next = (_, r.next.2))
    have := ih fun reply hr => h reply (List.mem_cons_of_mem _ hr)
    omega

/-! ## Every state -/

inductive Operation where
  | feed (data : Bytes)
  | next
  | clear
  deriving DecidableEq, Repr

def operate (r : Receiver) : Operation → Receiver
  | .feed data => r.feed data
  | .next => r.next.2
  | .clear => r.clear

theorem Sound.operate (h : r.Sound) (op : Operation) : (r.operate op).Sound := by
  cases op with
  | feed data => exact h.feed data
  | next => exact h.next
  | clear => exact sound_of_pending []

theorem sound_operated (ops : List Operation) : (ops.foldl operate {}).Sound := by
  induction ops using List.reverseRecOn with
  | nil => exact sound_of_pending []
  | append_singleton ops op ih =>
    rw [List.foldl_append]
    exact ih.operate op

/-- What holds of a receiver that may resume its search. -/
structure Resumes (r : Receiver) : Prop where
  scanned_le : r.scanned ≤ r.pending.length
  /-- A search that has begun stands in a packet. -/
  begun : 0 < r.scanned → r.pending[0]? = some Wire.packetStart
  /-- The payload does not end before the cursor. -/
  searched : ∀ i, 1 ≤ i → i < r.scanned → r.pending[i]? ≠ some Wire.packetEnd
  /-- To resume is to search from the start: the result is the same, and so is what is kept. -/
  result : r.next.1 = { r with scanned := 0 }.next.1
  pending : r.next.2.pending = { r with scanned := 0 }.next.2.pending
  /-- Nothing that is done later tells the difference. -/
  unseen : ∀ acts, (r.perform acts).1 = ({ r with scanned := 0 }.perform acts).1
  /-- No position that is looked at is out of range. -/
  inRange : r.next? = some r.next
  /-- Until an event is taken, the cursor does not move back. -/
  forward : ∀ acts, (∀ e, .ok (some e) ∉ (r.perform acts).1) →
    r.scanned ≤ (r.perform acts).2.scanned
  /-- An event takes a byte at least, and the next search starts afresh. -/
  taken : ∀ e s, r.next = (.ok (some e), s) → s.pending.length < r.pending.length ∧ s.scanned = 0
  /-- Who asks for events until there is none gets no more events than there are bytes. -/
  asked : ∀ n, (∀ reply ∈ (r.perform (List.replicate n .ask)).1, ∃ e, reply = .ok (some e)) →
    n ≤ r.pending.length
  drained : r.drain.events.length ≤ r.pending.length

/-- **To resume a search is to start it again**, in every state that a receiver can come to. -/
theorem resumes_operated (ops : List Operation) : Resumes (ops.foldl operate {}) := by
  have h := sound_operated ops
  have hstart := sound_of_pending (ops.foldl operate {}).pending
  constructor
  · exact h.scanned_le
  · intro hs
    rw [← List.head?_eq_getElem?]
    exact h.begun hs
  · intro i hi his
    exact h.not_packetEnd hi his
  · exact (h.next_congr hstart rfl).1
  · exact (h.next_congr hstart rfl).2
  · exact h.perform_congr hstart rfl
  · exact next?_eq _
  · intro acts hn
    exact h.scanned_le_perform hn
  · intro e s hn
    exact ⟨length_pending_lt_of_next hn, h.scanned_of_event hn⟩
  · intro n
    exact le_length_of_asks
  · exact length_events_drain_le _

/-- The cursor waits at the `#` of `$ab#` for the digits. -/
example : ([.feed [0x24, 0x61, 0x62, 0x23], .next].foldl operate {}).scanned = 3 := by decide

end RemoteStub.Receiver
