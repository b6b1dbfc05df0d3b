import RemoteStub.Proofs.Connection.Acknowledgements
import RemoteStub.Proofs.Exchange.Parties

/-!
# What a client sends

The calls of a client tell what it sends and why (`sendingsOf`). An acknowledgement for a
reply is sent when one is due, and any other when none is (`faithful_sendingsOf`).
-/

namespace RemoteStub

open Event (Acking Due)

/-- An acknowledgement that a call consists of, a command, or the acknowledgement of a reply. -/
inductive Sending where
  | unsolicited
  | command (t : Text)
  | receipt
  deriving DecidableEq, Repr

namespace Sending

def event : Sending → Event
  | unsolicited => .ack
  | command t => .packet (.ofPayload t.toBytes)
  | receipt => .ack

end Sending

def Call.opening (c : Call) : Sending :=
  match c.command? with
  | none => .unsolicited
  | some t => .command t

/-- What a call sends when its reply has come. -/
def Call.receipts (acks : Bool) (c : Call) : List Sending :=
  if acks ∧ c.command?.isSome then [.receipt] else []

/-- What calls send, if replies are acknowledged before them or are not. -/
def sendingsOf (acks : Bool) : List Call → List Sending
  | [] => []
  | c :: calls =>
    c.opening :: c.receipts acks ++ sendingsOf (acks && c ≠ .startNoAckMode) calls

/-- Whether replies are acknowledged after these calls. -/
def acksAfter (calls : List Call) : Bool := calls.all (· ≠ .startNoAckMode)

theorem Call.event_opening (c : Call) : c.opening.event = c.sends := by
  cases c <;> rfl

theorem acksAfter_concat (calls : List Call) (c : Call) :
    acksAfter (calls ++ [c]) = (acksAfter calls && c ≠ .startNoAckMode) := by
  simp [acksAfter]

theorem sendingsOf_concat (acks : Bool) (calls : List Call) (c : Call) :
    sendingsOf acks (calls ++ [c]) =
      sendingsOf acks calls ++ c.opening :: c.receipts (acks && acksAfter calls) := by
  induction calls generalizing acks with
  | nil => simp [sendingsOf, acksAfter]
  | cons d calls ih => simp [sendingsOf, acksAfter, ih, Bool.and_assoc]

theorem mem_sendingsOf {acks : Bool} {calls : List Call} {t : Text}
    (h : .command t ∈ sendingsOf acks calls) : ∃ c ∈ calls, c.command? = some t := by
  induction calls generalizing acks with
  | nil => cases h
  | cons c calls ih =>
    have hreceipts : Sending.command t ∉ c.receipts acks := by
      unfold Call.receipts
      split <;> simp
    simp only [sendingsOf, List.cons_append, List.mem_cons, List.mem_append, hreceipts, false_or] at h
    rcases h with h | h
    · refine ⟨c, List.mem_cons_self, ?_⟩
      unfold Call.opening at h
      cases hc : c.command? with
      | none => simp [hc] at h
      | some u =>
        rw [hc, Sending.command.injEq] at h
        rw [h]
    · obtain ⟨d, hd, ht⟩ := ih h
      exact ⟨d, List.mem_cons_of_mem c hd, ht⟩

/-! ## Which acknowledgements are due -/

/-- After what was handled, exactly the receipts among the acknowledgements are due. -/
def Faithful (h : List Event) (l : List Sending) : Prop :=
  ∀ before a, before ++ [a] <+: l → a.event = .ack →
    (Due (h ++ before.map Sending.event) ↔ a = .receipt)

theorem faithful_nil (h : List Event) : Faithful h [] := by
  intro before a hp
  simp at hp

theorem faithful_cons {h : List Event} {a : Sending} {l : List Sending} :
    Faithful h (a :: l) ↔
      (a.event = .ack → (Due h ↔ a = .receipt)) ∧ Faithful (h ++ [a.event]) l := by
  constructor
  · intro hf
    refine ⟨fun ha => by simpa using hf [] a (by simp) ha, ?_⟩
    intro before b hp hb
    have := hf (a :: before) b (by simpa using hp) hb
    simpa using this
  · rintro ⟨ha, hf⟩ before b hp hb
    cases before with
    | nil =>
      obtain rfl : b = a := by simpa using hp
      simpa using ha hb
    | cons c before =>
      obtain ⟨rfl, hp'⟩ : c = a ∧ before ++ [b] <+: l := by simpa using hp
      simpa using hf before b hp' hb

theorem faithful_append {h : List Event} {l m : List Sending} :
    Faithful h (l ++ m) ↔ Faithful h l ∧ Faithful (h ++ l.map Sending.event) m := by
  induction l generalizing h with
  | nil => simp [faithful_nil]
  | cons a l ih => simp [faithful_cons, ih, and_assoc]

theorem faithful_call {h : List Event} {acks : Bool} (hdue : ¬ Due h)
    (hacks : Acking h ↔ acks = true) {c : Call}
    (hc : c.command? = some Client.startNoAckMode → c = .startNoAckMode) :
    Faithful h (c.opening :: c.receipts acks) ∧
      ¬ Due (h ++ (c.opening :: c.receipts acks).map Sending.event) ∧
      (Acking (h ++ (c.opening :: c.receipts acks).map Sending.event) ↔
        (acks && c ≠ .startNoAckMode) = true) := by
  cases hx : c.command? with
  | none =>
    -- nothing was due, so the acknowledgement is no receipt
    have hopening : c.opening = .unsolicited := by rw [Call.opening, hx]
    have hreceipts : c.receipts acks = [] := by simp [Call.receipts, hx]
    have hne : c ≠ .startNoAckMode := by
      rintro rfl
      cases hx
    rw [hopening, hreceipts]
    refine ⟨faithful_cons.mpr ⟨?_, faithful_nil _⟩, Event.not_due_concat_ack, ?_⟩
    · intro _
      exact iff_of_false hdue nofun
    · simpa [hne, Sending.event] using Event.acking_concat_ack.trans hacks
  | some t =>
    have hopening : c.opening = .command t := by rw [Call.opening, hx]
    have htext : (Packet.ofPayload t.toBytes).text = t := Text.ofBytes_toBytes t
    have hne : t ≠ Connection.startNoAckMode ↔ c ≠ .startNoAckMode := by
      constructor
      · rintro ht rfl
        exact ht (Option.some.inj hx).symm
      · rintro hne rfl
        exact hne (hc hx)
    have hacking : Acking (h ++ [.packet (.ofPayload t.toBytes)]) ↔
        (acks && c ≠ .startNoAckMode) = true := by
      rw [Event.acking_concat_packet, htext, hacks]
      simpa using fun _ => hne
    rw [hopening]
    -- the packet makes an acknowledgement due just if replies are acknowledged
    cases acks with
    | true =>
      have hreceipts : c.receipts true = [.receipt] := by simp [Call.receipts, hx]
      have hpacket : Due (h ++ [.packet (.ofPayload t.toBytes)]) :=
        Event.due_concat_packet.mpr (.inr (hacks.mpr rfl))
      have hsplit : h ++ [Sending.command t, .receipt].map Sending.event =
          h ++ [.packet (.ofPayload t.toBytes)] ++ [.ack] := by
        rw [List.append_assoc]
        rfl
      rw [hreceipts, hsplit]
      refine ⟨?_, Event.not_due_concat_ack, Event.acking_concat_ack.trans hacking⟩
      refine faithful_cons.mpr ⟨nofun, faithful_cons.mpr ⟨?_, faithful_nil _⟩⟩
      intro _
      exact iff_of_true hpacket rfl
    | false =>
      have hreceipts : c.receipts false = [] := by simp [Call.receipts]
      rw [hreceipts]
      refine ⟨faithful_cons.mpr ⟨nofun, faithful_nil _⟩, ?_, hacking⟩
      intro hd
      rcases Event.due_concat_packet.mp hd with hd | ha
      · exact hdue hd
      · cases hacks.mp ha

/-- **A client acknowledges what is due.** -/
theorem faithful_sendingsOf {h : List Event} {acks : Bool} (hdue : ¬ Due h)
    (hacks : Acking h ↔ acks = true) {calls : List Call}
    (hcalls : ∀ c ∈ calls, c.command? = some Client.startNoAckMode → c = .startNoAckMode) :
    Faithful h (sendingsOf acks calls) ∧ ¬ Due (h ++ (sendingsOf acks calls).map Sending.event) ∧
      (Acking (h ++ (sendingsOf acks calls).map Sending.event) ↔ (acks && acksAfter calls) = true) := by
  induction calls generalizing h acks with
  | nil =>
    refine ⟨faithful_nil h, ?_, ?_⟩
    · simpa [sendingsOf] using hdue
    · simpa [sendingsOf, acksAfter] using hacks
  | cons c calls ih =>
    obtain ⟨hf, hdue', hacks'⟩ := faithful_call hdue hacks (hcalls c List.mem_cons_self)
    obtain ⟨hf', hdue'', hacks''⟩ := ih hdue' hacks' fun d hd => hcalls d (List.mem_cons_of_mem c hd)
    rw [sendingsOf, List.map_append, ← List.append_assoc]
    refine ⟨faithful_append.mpr ⟨hf, hf'⟩, hdue'', hacks''.trans ?_⟩
    simp [acksAfter, Bool.and_assoc]

end RemoteStub
