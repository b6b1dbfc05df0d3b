import RemoteStub.Proofs.Receiver.Resumption

/-!
# Violations are final

A violation stands at the front of what is pending (`Broken`), and nothing that arrives later
changes what stands there. So the receiver repeats it until it is cleared, and is as good as
new then (`next_violation_final`).
-/

namespace RemoteStub.Receiver

/-- What is answered to the questions among some operations. -/
def replies (r : Receiver) : List Operation → List Reply
  | [] => []
  | .feed data :: ops => (r.feed data).replies ops
  | .next :: ops => r.next.1 :: r.next.2.replies ops
  | .clear :: ops => r.clear.replies ops

/-- What operations feed, one after the other. -/
def fedBy : List Operation → Bytes
  | [] => []
  | .feed data :: ops => data ++ fedBy ops
  | .next :: ops | .clear :: ops => fedBy ops

theorem replies_append (r : Receiver) (a b : List Operation) :
    r.replies (a ++ b) = r.replies a ++ (a.foldl operate r).replies b := by
  induction a generalizing r with
  | nil => rfl
  | cons op a ih =>
    cases op with
    | feed data => exact ih _
    | next => exact congrArg (r.next.1 :: ·) (ih _)
    | clear => exact ih _

/-- A violation stands at the front. -/
structure Broken (r : Receiver) (v : Violation) : Prop where
  sound : r.Sound
  front : front r.pending = .broken v

variable {r : Receiver} {v : Violation}

theorem Sound.broken (h : r.Sound) (hn : r.next.1 = .error v) : r.Broken v := by
  refine ⟨h, ?_⟩
  rw [h.next_eq] at hn
  cases hf : Receiver.front r.pending with
  | event e rest =>
    rw [hf] at hn
    cases hn
  | broken w =>
    rw [hf] at hn
    cases hn
    rfl
  | incomplete =>
    rw [hf] at hn
    cases hn

theorem Broken.next_eq (h : r.Broken v) : r.next = (.error v, r) := by
  rw [h.sound.next_eq, h.front]

theorem Broken.feed (h : r.Broken v) (data : Bytes) : (r.feed data).Broken v where
  sound := h.sound.feed data
  front := front_append_of_broken h.front data

/-- A broken receiver takes in what arrives, and answers nothing but the violation. -/
theorem Broken.stays (h : r.Broken v) {ops : List Operation} (hops : .clear ∉ ops) :
    r.replies ops = List.replicate (ops.count .next) (.error v) ∧
      ops.foldl operate r = r.feed (fedBy ops) := by
  induction ops generalizing r with
  | nil => exact ⟨rfl, r.feed_nil.symm⟩
  | cons op ops ih =>
    have hmore : .clear ∉ ops := fun hm => hops (List.mem_cons_of_mem op hm)
    cases op with
    | feed data =>
      obtain ⟨hreplies, hlast⟩ := ih (h.feed data) hmore
      have hne : Operation.feed data ≠ .next := by simp
      refine ⟨?_, ?_⟩
      · rw [replies, hreplies, List.count_cons_of_ne hne]
      · rw [List.foldl_cons, operate, hlast, fedBy, feed_append]
    | next =>
      obtain ⟨hreplies, hlast⟩ := ih h hmore
      refine ⟨?_, ?_⟩
      · rw [replies, h.next_eq, hreplies, List.count_cons_self, List.replicate_succ]
      · rw [List.foldl_cons, operate, h.next_eq, hlast, fedBy]
    | clear => exact absurd List.mem_cons_self hops

/-- **A violation is final.** In every state that a receiver can come to, an answer that is a
violation changes nothing. Whatever is fed later, the receiver only takes it in, and every question
is answered by this violation. Once it is cleared, it is a new receiver. -/
theorem next_violation_final {ops : List Operation}
    (h : (ops.foldl operate {}).next.1 = .error v) :
    let r := ops.foldl operate {}
    r.next.2 = r ∧
      (∀ later, .clear ∉ later →
        r.replies later = List.replicate (later.count .next) (.error v) ∧
          later.foldl operate r = r.feed (fedBy later)) ∧
      ∀ later more, r.replies (later ++ .clear :: more) =
          r.replies later ++ ({} : Receiver).replies more ∧
        (later ++ .clear :: more).foldl operate r = more.foldl operate {} := by
  intro r
  have hbroken := (sound_operated ops).broken h
  refine ⟨?_, ?_, ?_⟩
  · rw [hbroken.next_eq]
  · intro later hlater
    exact hbroken.stays hlater
  · intro later more
    refine ⟨?_, ?_⟩
    · rw [replies_append]
      rfl
    · rw [List.foldl_append]
      rfl

/-- The search waits behind `$ab#`, and `zz` are no digits. What comes then is read only once the
receiver is cleared. -/
theorem next_violation_final_digits :
    let ops : List Operation := [.feed [0x24, 0x61, 0x62, 0x23], .next, .feed [0x7a, 0x7a]]
    let r := ops.foldl operate {}
    r.scanned = 3 ∧ r.next.1 = .error (.checksumDigits 0x7a 0x7a) ∧ r.next.2 = r ∧
      r.replies [.feed [0x2b], .next, .next] =
        [.error (.checksumDigits 0x7a 0x7a), .error (.checksumDigits 0x7a 0x7a)] ∧
      r.replies [.next, .clear, .feed [0x2b], .next] =
        [.error (.checksumDigits 0x7a 0x7a), .ok (some .ack)] := by
  intro ops r
  have hscanned : r.scanned = 3 := by decide
  have h : r.next.1 = .error (.checksumDigits 0x7a 0x7a) := by decide
  obtain ⟨hkeeps, hstays, hcleared⟩ := next_violation_final h
  refine ⟨hscanned, h, hkeeps, (hstays _ (by decide)).1, ?_⟩
  have hbefore : r.replies [.next] = [.error (.checksumDigits 0x7a 0x7a)] :=
    (hstays [.next] (by decide)).1
  have hafter := (hcleared [.next] [.feed [0x2b], .next]).1
  rw [hbefore] at hafter
  exact hafter

end RemoteStub.Receiver
