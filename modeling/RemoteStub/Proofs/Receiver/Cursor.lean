import RemoteStub.Proofs.Receiver.Grammar

/-!
# The cursor

The cursor of a receiver only spares a second search. While it is sound, what the
receiver does next is read off the pending bytes (`Sound.next_eq`), and so is what it
yields when it is drained (`Sound.drain_cases`).
-/

namespace RemoteStub.Receiver

/-- A search that has begun stands in a packet, and its payload does not end before the cursor. -/
structure Sound (r : Receiver) : Prop where
  scanned_le : r.scanned ≤ r.pending.length
  begun : 0 < r.scanned → r.pending.head? = some Wire.packetStart
  packetEnd_not_mem : Wire.packetEnd ∉ (r.pending.take r.scanned).drop 1

/-- How far a search gets that finds no event. -/
def searched : Bytes → Nat
  | [] => 0
  | _ :: rest => rest.findIdx (· == Wire.packetEnd) + 1

/-- A receiver that has searched all it has and found no event. -/
def parked (bytes : Bytes) : Receiver := { pending := bytes, scanned := searched bytes }

theorem sound_of_pending (bytes : Bytes) : Sound { pending := bytes } where
  scanned_le := Nat.zero_le _
  begun h := absurd h (Nat.lt_irrefl 0)
  packetEnd_not_mem := by simp

theorem Sound.feed {r : Receiver} (h : r.Sound) (data : Bytes) : (r.feed data).Sound where
  scanned_le := by
    have := h.scanned_le
    simp only [Receiver.feed, List.length_append]
    omega
  begun h0 := by
    have := h.begun h0
    simp [Receiver.feed, List.head?_append, this]
  packetEnd_not_mem := by
    simpa [Receiver.feed, List.take_append_of_le_length h.scanned_le] using h.packetEnd_not_mem

/-- Bytes that hold no `#` need not be searched again. -/
theorem terminator_eq_searched (b : UInt8) {rest : Bytes} {k : Nat} (hk : k ≤ rest.length)
    (h : Wire.packetEnd ∉ rest.take k) : terminator (b :: rest) (k + 1) = searched (b :: rest) := by
  have hlen : (rest.take k).length = k := by simp [hk]
  have hskip : (rest.take k).findIdx (· == Wire.packetEnd) = k := by
    rw [List.findIdx_eq_length_of_false, hlen]
    intro c hc
    simpa using fun e : c = Wire.packetEnd => h (e ▸ hc)
  have hfind : rest.findIdx (· == Wire.packetEnd) =
      (rest.drop k).findIdx (· == Wire.packetEnd) + k := by
    conv => lhs; rw [← List.take_append_drop k rest, List.findIdx_append, hskip, hlen]
    simp
  simp only [terminator, searched, List.drop_succ_cons, hfind]
  omega

theorem Sound.terminator_eq {r : Receiver} (h : r.Sound) {b : UInt8} {rest : Bytes}
    (hp : r.pending = b :: rest) :
    terminator (b :: rest) (max 1 r.scanned) = searched (b :: rest) := by
  have hle := h.scanned_le
  have hmem := h.packetEnd_not_mem
  rw [hp] at hle hmem
  cases hs : r.scanned with
  | zero => exact terminator_eq_searched b (Nat.zero_le _) (by simp)
  | succ k =>
    rw [hs] at hle hmem
    rw [Nat.max_eq_right (Nat.le_add_left 1 k)]
    exact terminator_eq_searched b (by simpa using hle) (by simpa using hmem)

theorem take_searched (b : UInt8) (rest : Bytes) :
    ((b :: rest).take (searched (b :: rest))).drop 1 = rest.takeWhile inPayload := by
  simp [searched, List.takeWhile_eq_take_findIdx_not, inPayload, bne]

theorem drop_searched (b : UInt8) (rest : Bytes) :
    (b :: rest).drop (searched (b :: rest) + 1) = (rest.dropWhile inPayload).drop 1 := by
  simp [searched, List.dropWhile_eq_drop_findIdx_not, inPayload, bne]

/-- **The cursor does not matter.** What a sound receiver does next depends on the pending bytes. -/
theorem Sound.next_eq {r : Receiver} (h : r.Sound) :
    r.next = match front r.pending with
      | .event e rest => (.ok (some e), { pending := rest })
      | .broken v => (.error v, r)
      | .incomplete => (.ok none, parked r.pending) := by
  have hbegun := h.begun
  unfold next
  cases hp : r.pending with
  | nil =>
    have h0 : r.scanned = 0 := by simpa [hp] using h.scanned_le
    have hr : r = parked [] := by
      cases r
      simp_all [parked, searched]
    rw [hr]
    rfl
  | cons b rest =>
    rw [hp] at hbegun
    simp only [front, h.terminator_eq hp, take_searched, drop_searched]
    -- a search that has begun stands in a packet, so the first byte is looked at only once
    by_cases ha : b = Wire.ack
    · have h0 : r.scanned = 0 := by
        refine Nat.eq_zero_of_not_pos fun h0 => ?_
        have : b = Wire.packetStart := by simpa using hbegun h0
        exact packetStart_ne_ack (this ▸ ha)
      simp [h0, ha]
    by_cases hs : b = Wire.packetStart
    · subst hs
      rcases rest.dropWhile inPayload with _ | ⟨_, _ | ⟨high, _ | ⟨low, after⟩⟩⟩
      · simp [packetStart_ne_ack, parked]
      · simp [packetStart_ne_ack, parked]
      · simp [packetStart_ne_ack, parked]
      · cases hv : Packet.verify (rest.takeWhile inPayload) high low with
        | ok p => simp [packetStart_ne_ack, hv]
        | error v => simp [packetStart_ne_ack, hv]
    · have h0 : r.scanned = 0 := by
        refine Nat.eq_zero_of_not_pos fun h0 => hs ?_
        simpa using hbegun h0
      simp [h0, ha, hs]

theorem sound_parked {bytes : Bytes} (h : front bytes = .incomplete) : (parked bytes).Sound := by
  cases bytes with
  | nil => exact sound_of_pending []
  | cons b rest =>
    refine ⟨?_, fun _ => ?_, ?_⟩
    · simp only [parked, searched, List.length_cons]
      exact Nat.succ_le_succ List.findIdx_le_length
    · cases front_eq_incomplete_iff.mp h <;> rfl
    · simp only [parked, take_searched]
      exact packetEnd_not_mem_takeWhile rest

/-! ## Decodings -/

/-- Taking events off the front of a stream, as long as one stands there or not as long. -/
inductive Decodes : Bytes → List Event → Bytes → Prop
  | nil (rest : Bytes) : Decodes rest [] rest
  | cons {bytes rest last : Bytes} {e : Event} {es : List Event} (h : front bytes = .event e rest)
      (t : Decodes rest es last) : Decodes bytes (e :: es) last

/-- No event stands at the front. -/
def Stuck (bytes : Bytes) : Prop := ∀ e rest, front bytes ≠ .event e rest

theorem stuck_of_incomplete {bytes : Bytes} (h : front bytes = .incomplete) : Stuck bytes := by
  intro e rest he
  rw [h] at he
  cases he

theorem stuck_of_broken {bytes : Bytes} {v : Violation} (h : front bytes = .broken v) :
    Stuck bytes := by
  intro e rest he
  rw [h] at he
  cases he

theorem Decodes.trans {bytes mid last : Bytes} {es fs : List Event} (h : Decodes bytes es mid)
    (t : Decodes mid fs last) : Decodes bytes (es ++ fs) last := by
  induction h with
  | nil => exact t
  | cons hf _ ih => exact .cons hf (ih t)

theorem Decodes.append {bytes rest : Bytes} {es : List Event} (h : Decodes bytes es rest)
    (more : Bytes) : Decodes (bytes ++ more) es (rest ++ more) := by
  induction h with
  | nil => exact .nil _
  | cons hf _ ih => exact .cons (front_append_of_event hf more) ih

theorem Decodes.split {bytes last : Bytes} {es fs : List Event} (h : Decodes bytes (es ++ fs) last) :
    ∃ mid, Decodes bytes es mid ∧ Decodes mid fs last := by
  induction es generalizing bytes with
  | nil => exact ⟨bytes, .nil bytes, h⟩
  | cons e es ih =>
    cases h with
    | cons hf h =>
      obtain ⟨mid, he, hm⟩ := ih h
      exact ⟨mid, .cons hf he, hm⟩

/-- Any decoding is the beginning of one that ends where nothing more can be taken. -/
theorem Decodes.extend {bytes mid last : Bytes} {es fs : List Event} (h : Decodes bytes es mid)
    (t : Decodes bytes fs last) (hl : Stuck last) : ∃ more, fs = es ++ more ∧ Decodes mid more last := by
  induction h generalizing fs with
  | nil => exact ⟨fs, rfl, t⟩
  | cons hf _ ih =>
    cases t with
    | nil => exact absurd hf (hl _ _)
    | cons hg t =>
      rw [hf, Front.event.injEq] at hg
      obtain ⟨rfl, rfl⟩ := hg
      obtain ⟨more, rfl, hm⟩ := ih t
      exact ⟨more, rfl, hm⟩

theorem Decodes.of_stuck {bytes last : Bytes} {es : List Event} (h : Decodes bytes es last)
    (hs : Stuck bytes) : es = [] ∧ last = bytes := by
  cases h with
  | nil => exact ⟨rfl, rfl⟩
  | cons hf _ => exact absurd hf (hs _ _)

/-- A stream has one decoding that ends where nothing more can be taken. -/
theorem Decodes.unique {bytes mid last : Bytes} {es fs : List Event} (h : Decodes bytes es mid)
    (hm : Stuck mid) (t : Decodes bytes fs last) (hl : Stuck last) : fs = es ∧ last = mid := by
  obtain ⟨more, rfl, hd⟩ := h.extend t hl
  obtain ⟨rfl, rfl⟩ := hd.of_stuck hm
  exact ⟨List.append_nil _, rfl⟩

/-! ## Draining -/

theorem drain_of_none {r s : Receiver} (h : r.next = (.ok none, s)) : r.drain = ⟨[], none, s⟩ := by
  rw [drain]
  split <;> simp_all

theorem drain_of_error {r s : Receiver} {v : Violation} (h : r.next = (.error v, s)) :
    r.drain = ⟨[], some v, s⟩ := by
  rw [drain]
  split <;> simp_all

theorem drain_of_some {r s : Receiver} {e : Event} (h : r.next = (.ok (some e), s)) :
    r.drain = { s.drain with events := e :: s.drain.events } := by
  rw [drain]
  split <;> simp_all

/-- **Draining decodes the pending bytes** until nothing more can be taken. -/
theorem Sound.drain_cases {r : Receiver} (h : r.Sound) :
    ∃ es rest, Decodes r.pending es rest ∧
      ((front rest = .incomplete ∧ r.drain = ⟨es, none, parked rest⟩) ∨
        ∃ v s, front rest = .broken v ∧ r.drain = ⟨es, some v, s⟩ ∧ s.pending = rest ∧ s.Sound) := by
  have hn := h.next_eq
  cases hf : front r.pending with
  | incomplete =>
    rw [hf] at hn
    exact ⟨[], r.pending, .nil _, .inl ⟨hf, drain_of_none hn⟩⟩
  | broken v =>
    rw [hf] at hn
    exact ⟨[], r.pending, .nil _, .inr ⟨v, r, hf, drain_of_error hn, rfl, h⟩⟩
  | event e rest =>
    rw [hf] at hn
    obtain ⟨es, last, hd, hend⟩ := (sound_of_pending rest).drain_cases
    refine ⟨e :: es, last, .cons hf hd, ?_⟩
    rw [drain_of_some hn]
    rcases hend with ⟨hi, hr⟩ | ⟨v, s, hb, hr, hs⟩
    · exact .inl ⟨hi, by rw [hr]⟩
    · exact .inr ⟨v, s, hb, by rw [hr], hs⟩
termination_by r.pending.length
decreasing_by exact length_lt_of_front hf

theorem exists_decodes (bytes : Bytes) : ∃ es rest, Decodes bytes es rest ∧ Stuck rest := by
  obtain ⟨es, rest, hd, ⟨hi, -⟩ | ⟨v, -, hb, -⟩⟩ := (sound_of_pending bytes).drain_cases
  · exact ⟨es, rest, hd, stuck_of_incomplete hi⟩
  · exact ⟨es, rest, hd, stuck_of_broken hb⟩

theorem Sound.drain_of_incomplete {r : Receiver} (h : r.Sound) {es : List Event} {rest : Bytes}
    (hd : Decodes r.pending es rest) (hi : front rest = .incomplete) :
    r.drain = ⟨es, none, parked rest⟩ := by
  obtain ⟨fs, last, hd', ⟨hi', hr⟩ | ⟨v, s, hb, -⟩⟩ := h.drain_cases
  · obtain ⟨rfl, rfl⟩ := hd.unique (stuck_of_incomplete hi) hd' (stuck_of_incomplete hi')
    exact hr
  · obtain ⟨rfl, rfl⟩ := hd.unique (stuck_of_incomplete hi) hd' (stuck_of_broken hb)
    rw [hi] at hb
    cases hb

theorem Sound.drain_of_broken {r : Receiver} (h : r.Sound) {es : List Event} {rest : Bytes}
    {v : Violation} (hd : Decodes r.pending es rest) (hb : front rest = .broken v) :
    ∃ s, r.drain = ⟨es, some v, s⟩ ∧ s.pending = rest ∧ s.Sound := by
  obtain ⟨fs, last, hd', ⟨hi, -⟩ | ⟨w, s, hb', hr, hs⟩⟩ := h.drain_cases
  · obtain ⟨rfl, rfl⟩ := hd.unique (stuck_of_broken hb) hd' (stuck_of_incomplete hi)
    rw [hb] at hi
    cases hi
  · obtain ⟨rfl, rfl⟩ := hd.unique (stuck_of_broken hb) hd' (stuck_of_broken hb')
    rw [hb, Front.broken.injEq] at hb'
    exact ⟨s, hb' ▸ hr, hs⟩

/-- **Draining later changes nothing.** A receiver that has already yielded some events yields the
others when it is drained, and ends where it would have ended. -/
theorem Sound.drain_resume {r t : Receiver} (hr : r.Sound) (ht : t.Sound) {es : List Event}
    (hd : Decodes r.pending es t.pending) :
    r.drain.events = es ++ t.drain.events ∧ r.drain.violation = t.drain.violation ∧
      r.drain.receiver.pending = t.drain.receiver.pending ∧
      (t.drain.violation = none → r.drain.receiver = t.drain.receiver) := by
  obtain ⟨fs, last, hf, ⟨hi, ht⟩ | ⟨v, s, hb, ht, hs, -⟩⟩ := ht.drain_cases
  · rw [hr.drain_of_incomplete (hd.trans hf) hi, ht]
    exact ⟨rfl, rfl, rfl, fun _ => rfl⟩
  · obtain ⟨u, hu, hp, -⟩ := hr.drain_of_broken (hd.trans hf) hb
    rw [hu, ht]
    exact ⟨rfl, rfl, hp.trans hs.symm, nofun⟩

end RemoteStub.Receiver
