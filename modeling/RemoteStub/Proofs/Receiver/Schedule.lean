import RemoteStub.Proofs.Receiver.Cursor

/-!
# Schedules

A receiver may be fed in any pieces and asked for events at any time in between.
`perform_drain_eq`: neither the cuts nor the questions change what it delivers, how
the stream ends, or what is kept.
-/

namespace RemoteStub.Receiver

inductive Act where
  | feed (data : Bytes)
  /-- It is asked for the next event. -/
  | ask
  deriving DecidableEq, Repr

abbrev Reply := Except Violation (Option Event)

/-- What a schedule feeds, piece after piece. -/
def fed : List Act → Bytes
  | [] => []
  | .feed data :: acts => data ++ fed acts
  | .ask :: acts => fed acts

/-- Follows a schedule, and records every reply. -/
def perform (r : Receiver) : List Act → List Reply × Receiver
  | [] => ([], r)
  | .feed data :: acts => (r.feed data).perform acts
  | .ask :: acts => (r.next.1 :: (r.next.2.perform acts).1, (r.next.2.perform acts).2)

/-- The replies that draining consists of, but for the last one if that is that nothing is there. -/
def Drained.replies (d : Drained) : List Reply :=
  d.events.map (.ok ∘ some) ++ d.violation.toList.map .error

/-- The events delivered before the first violation, and that violation. -/
def delivered : List Reply → List Event × Option Violation
  | [] => ([], none)
  | .ok none :: replies => delivered replies
  | .ok (some e) :: replies => (e :: (delivered replies).1, (delivered replies).2)
  | .error v :: _ => ([], some v)

theorem delivered_append_of_none {a b : List Reply} (h : (delivered a).2 = none) :
    delivered (a ++ b) = ((delivered a).1 ++ (delivered b).1, (delivered b).2) := by
  induction a with
  | nil => rfl
  | cons reply a ih =>
    match reply with
    | .ok none => exact ih h
    | .ok (some e) => simp only [List.cons_append, delivered, ih h]
    | .error v => cases h

theorem delivered_append_of_some {a : List Reply} {v : Violation} (h : (delivered a).2 = some v)
    (b : List Reply) : delivered (a ++ b) = delivered a := by
  induction a with
  | nil => cases h
  | cons reply a ih =>
    match reply with
    | .ok none => exact ih h
    | .ok (some e) => simp only [List.cons_append, delivered, ih h]
    | .error w => rfl

theorem delivered_replies (d : Drained) : delivered d.replies = (d.events, d.violation) := by
  obtain ⟨es, v, r⟩ := d
  induction es with
  | nil => cases v <;> rfl
  | cons e es ih =>
    simp only [Drained.replies, List.map_cons, List.cons_append, Function.comp, delivered] at ih ⊢
    rw [ih]

/-- What a schedule has delivered is a decoding of what was fed. Once a violation is met, it is at
the front and stays there. -/
theorem Sound.perform_decodes (acts : List Act) {r : Receiver} (h : r.Sound) :
    (r.perform acts).2.Sound ∧
      Decodes (r.pending ++ fed acts) (delivered (r.perform acts).1).1 (r.perform acts).2.pending ∧
      ∀ v, (delivered (r.perform acts).1).2 = some v → front (r.perform acts).2.pending = .broken v := by
  induction acts generalizing r with
  | nil =>
    refine ⟨h, ?_, nofun⟩
    rw [fed, List.append_nil]
    exact .nil _
  | cons act acts ih =>
    cases act with
    | feed data =>
      have := ih (h.feed data)
      rw [Receiver.feed, List.append_assoc] at this
      exact this
    | ask =>
      simp only [perform, h.next_eq, fed]
      cases hf : front r.pending with
      | event e rest =>
        obtain ⟨hs, hd, hv⟩ := ih (sound_of_pending rest)
        exact ⟨hs, .cons (front_append_of_event hf _) hd, hv⟩
      | incomplete => exact ih (sound_parked hf)
      | broken v =>
        -- the violation stands before all that is fed later, so no event is delivered any more
        obtain ⟨hs, hd, -⟩ := ih h
        have hb := front_append_of_broken hf (fed acts)
        obtain ⟨-, hp⟩ := hd.of_stuck (stuck_of_broken hb)
        refine ⟨hs, ?_, ?_⟩
        · rw [hp]
          exact .nil _
        · rintro w ⟨rfl⟩
          rw [hp]
          exact hb

/-- **Neither cuts nor questions matter.** Feed a stream in any pieces, ask for events any number
of times in between, and drain the receiver at the end: the events delivered before the first
violation and that violation are those of feeding it whole and draining it once. So are the bytes
kept, and the cursor too unless the framing is broken. -/
theorem perform_drain_eq (acts : List Act) :
    let (replies, r) := ({} : Receiver).perform acts
    let whole := (({} : Receiver).feed (fed acts)).drain
    delivered (replies ++ r.drain.replies) = (whole.events, whole.violation) ∧
      r.drain.receiver.pending = whole.receiver.pending ∧
      (r.drain.violation = none → r.drain.receiver.scanned = whole.receiver.scanned) := by
  obtain ⟨hs, hd, hv⟩ := (sound_of_pending []).perform_decodes acts
  have hwhole : (({} : Receiver).feed (fed acts)).Sound := (sound_of_pending []).feed _
  obtain ⟨he, hviol, hp, hr⟩ := hwhole.drain_resume hs hd
  refine ⟨?_, hp.symm, fun hn => by rw [hr hn]⟩
  cases hx : (delivered (({} : Receiver).perform acts).1).2 with
  | none =>
    rw [delivered_append_of_none hx, delivered_replies, he, hviol]
  | some v =>
    -- the violation was already met, and draining only meets it again
    obtain ⟨t, ht, -⟩ := hs.drain_of_broken (.nil _) (hv v hx)
    rw [ht, List.append_nil] at he
    rw [ht] at hviol
    rw [delivered_append_of_some hx, he, hviol, ← hx]

end RemoteStub.Receiver
