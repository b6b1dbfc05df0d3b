import RemoteStub.Proofs.Exchange.Direct
import RemoteStub.Proofs.Exchange.Parties

/-!
# The phases of an exchange

Where a call stands, seen from what is on its way between the two sides (`Phase`). Acks
are on their way in any number, but there is at most one request, or one reply, and it
belongs to the call that waits. What the server handles leads from one phase to the
next (`Phase.handle`).
-/

namespace RemoteStub.Exchange

open Event (Acks acks_nil acks_singleton acks_append)

variable {σ : Type}

/-- Where an exchange stands whose finished calls lead to `d`, with the events that are on their
way to the server and to the client. -/
inductive Phase (d : Direct σ) (s : Connection σ) :
    Option Call → List Event → List Event → Prop
  /-- No call waits. -/
  | quiet {P V : List Event} (hs : s.failure = none) (hd : d.refused = false)
      (hr : s.responder = d.responder) (hP : Acks P) (hV : Acks V) : Phase d s none P V
  /-- The request is on its way, behind acknowledgements. -/
  | asked {c : Call} {P V : List Event} (hc : c.command?.isSome) (hs : s.failure = none)
      (hd : d.refused = false) (hr : s.responder = d.responder) (hP : Acks P) (hV : Acks V) :
      Phase d s (some c) (P ++ [c.sends]) V
  /-- The reply is on its way, behind acknowledgements. -/
  | answered {c : Call} {p : Packet} {V : List Event} (hc : c.command?.isSome)
      (hs : s.failure = none) (hd : d.refused = false)
      (hp : d.perform c = { d with responder := s.responder }.finish c (.ok (.reply p.text)))
      (hV : Acks V) : Phase d s (some c) [] (V ++ [.packet p])
  /-- A command was refused, and the server has closed. -/
  | closed {w : Option Call} {P V : List Event} (hw : ∀ c, w = some c → c.command?.isSome)
      (hs : s.failure.isSome) (hd : (d.after w).refused = true)
      (hr : s.responder = (d.after w).responder) (hV : Acks V) : Phase d s w P V

variable {d : Direct σ} {s : Connection σ}

theorem Phase.congr {w : Option Call} {P V : List Event} (h : Phase d s w P V) {s' : Connection σ}
    (hf : s'.failure = s.failure) (hr : s'.responder = s.responder) : Phase d s' w P V := by
  cases h with
  | quiet hs hd hr' hP hV => exact .quiet (hf.trans hs) hd (hr.trans hr') hP hV
  | asked hc hs hd hr' hP hV => exact .asked hc (hf.trans hs) hd (hr.trans hr') hP hV
  | answered hc hs hd hp hV => exact .answered hc (hf.trans hs) hd (hr ▸ hp) hV
  | closed hw hs hd hr' hV => exact .closed hw (hf ▸ hs) hd (hr.trans hr') hV

/-! ## The client's side -/

/-- Acknowledgements that the client has taken do not change the phase. -/
theorem Phase.drop {w : Option Call} {P es V : List Event} (h : Phase d s w P (es ++ V))
    (hes : Acks es) : Phase d s w P V := by
  generalize hQ : es ++ V = Q at h
  cases h with
  | quiet hs hd hr hP hV =>
    subst hQ
    exact .quiet hs hd hr hP (acks_append.mp hV).2
  | asked hc hs hd hr hP hV =>
    subst hQ
    exact .asked hc hs hd hr hP (acks_append.mp hV).2
  | closed hw hs hd hr hV =>
    subst hQ
    exact .closed hw hs hd hr (acks_append.mp hV).2
  | @answered c p V' hc hs hd hp hV =>
    -- the reply comes last, and it is no acknowledgement
    rcases List.eq_nil_or_concat V with rfl | ⟨V, e, rfl⟩
    · have : Event.packet p = .ack := by
        rw [List.append_nil] at hQ
        exact hes _ (hQ ▸ List.mem_append_right _ List.mem_cons_self)
      cases this
    · rw [List.concat_eq_append, ← List.append_assoc] at hQ
      obtain ⟨rfl, he⟩ := List.append_inj' hQ rfl
      rw [List.concat_eq_append, he]
      exact .answered hc hs hd hp (acks_append.mp hV).2

theorem Phase.sendAck {P V : List Event} (h : Phase d s none P V) :
    Phase d s none (P ++ [.ack]) V := by
  cases h with
  | quiet hs hd hr hP hV => exact .quiet hs hd hr (acks_append.mpr ⟨hP, acks_singleton⟩) hV
  | closed hw hs hd hr hV => exact .closed hw hs hd hr hV

theorem Phase.perform {c : Call} {P V : List Event} (h : Phase d s none P V)
    (hc : c.command? = none) : Phase (d.perform c) s none P V := by
  rw [Direct.perform_sendAck hc]
  cases h with
  | quiet hs hd hr hP hV => exact .quiet hs hd hr hP hV
  | closed hw hs hd hr hV => exact .closed hw hs hd hr hV

theorem Phase.request {c : Call} {P V : List Event} (h : Phase d s none P V)
    (hc : c.command?.isSome) : Phase d s (some c) (P ++ [c.sends]) V := by
  cases h with
  | quiet hs hd hr hP hV => exact .asked hc hs hd hr hP hV
  | closed _ hs hd hr hV =>
    obtain ⟨hd', hr'⟩ := Direct.perform_after_refusal hd c
    refine .closed ?_ hs hd' (hr.trans hr'.symm) hV
    rintro _ ⟨⟩
    exact hc

/-! ## The server's side -/

theorem plain_append_reply {acks : List Event} (h : Acks acks) {reply : Bytes}
    (hr : Wire.packetEnd ∉ reply) : ∀ e ∈ acks ++ [.packet (.ofPayload reply)], e.Plain :=
  List.forall_mem_append.mpr ⟨h.plain, List.forall_mem_singleton.mpr (Event.plain_ofPayload hr)⟩

/-- The server has handled an event: what it sent is on its way, and it answers as before. -/
structure Handled (d : Direct σ) (s t : Connection σ) (w : Option Call) (P V new : List Event) :
    Prop where
  sent : t.sent = s.sent ++ new
  plain : ∀ e ∈ new, e.Plain
  target : t.responder.target = s.responder.target
  phase : Phase d t w P (V ++ new)

/-- The request is answered, or it is refused and the server closes. -/
theorem handle_request {c : Call} {V : List Event} (ht : s.responder.target.HashFree)
    (hc : c.command?.isSome) (hs : s.failure = none) (hd : d.refused = false)
    (hr : s.responder = d.responder) (hV : Acks V) :
    ∃ new, Handled d s (s.handle c.sends) (some c) [] V new := by
  obtain ⟨t, hc'⟩ := Option.isSome_iff_exists.mp hc
  have hsends : c.sends = .packet (.ofPayload t.toBytes) := by rw [Call.sends, hc']
  have htext : (Packet.ofPayload t.toBytes).text = t := Text.ofBytes_toBytes t
  obtain ⟨acks, hacks, hsent⟩ := s.acknowledge_adds
  have hh := Connection.handles hs c.sends
  rw [hsends] at hh ⊢
  generalize s.handle (.packet (.ofPayload t.toBytes)) = u at hh ⊢
  cases hh with
  | negotiate hx =>
    rw [htext] at hx
    refine ⟨acks ++ [.packet (.ofPayload Connection.accepted)], ?_, ?_, ?_, ?_⟩
    · simp [Connection.send, hsent]
    · exact plain_append_reply hacks (by decide)
    · simp [Connection.send]
    rw [← List.append_assoc]
    refine .answered hc (by simpa [Connection.send] using hs) hd ?_ (acks_append.mpr ⟨hV, hacks⟩)
    have haccepted : (Packet.ofPayload Connection.accepted).text = "OK".toList :=
      Text.ofBytes_toBytes _
    rw [Direct.perform_negotiate hc' hd hx, haccepted]
    simp [Connection.send, hr]
  | @answer _ reply r hx hresp =>
    rw [htext] at hx hresp
    refine ⟨acks ++ [.packet (.ofPayload reply)], ?_, ?_, ?_, ?_⟩
    · simp [Connection.send, hsent]
    · exact plain_append_reply hacks (Responder.packetEnd_not_mem_reply ht hresp)
    · have := s.responder.target_respond t
      rwa [hresp] at this
    rw [← List.append_assoc]
    refine .answered hc (by simpa [Connection.send] using hs) hd ?_ (acks_append.mpr ⟨hV, hacks⟩)
    exact Direct.perform_answer hc' hd hx (hr ▸ hresp)
  | @refuse _ e r hx hresp =>
    rw [htext] at hx hresp
    have hperform := Direct.perform_refuse hc' hd hx (hr ▸ hresp)
    refine ⟨acks, ?_, hacks.plain, ?_, ?_⟩
    · simp [Connection.close, hsent]
    · have := s.responder.target_respond t
      rwa [hresp] at this
    refine .closed ?_ rfl ?_ ?_ (acks_append.mpr ⟨hV, hacks⟩)
    · rintro _ ⟨⟩
      exact hc
    · rw [Direct.after_some, hperform]
      rfl
    · rw [Direct.after_some, hperform]
      rfl

/-- **What the server handles leads from one phase to the next.** -/
theorem Phase.handle {w : Option Call} {e : Event} {P V : List Event}
    (h : Phase d s w (e :: P) V) (ht : s.responder.target.HashFree) :
    ∃ new, Handled d s (s.handle e) w P V new := by
  generalize hQ : e :: P = Q at h
  cases h with
  | quiet hs hd hr hP hV =>
    subst hQ
    obtain rfl := hP e List.mem_cons_self
    obtain ⟨acks, hacks, hsent, hf, hr'⟩ := Connection.handle_ack_adds hs
    refine ⟨acks, hsent, hacks.plain, by rw [hr'], ?_⟩
    exact .quiet hf hd (hr'.trans hr) (fun e he => hP e (List.mem_cons_of_mem _ he))
      (acks_append.mpr ⟨hV, hacks⟩)
  | @asked c P' V hc hs hd hr hP hV =>
    -- the request is reached once no acknowledgement stands before it
    cases P' with
    | nil =>
      obtain ⟨rfl, rfl⟩ := List.cons.inj hQ
      exact handle_request ht hc hs hd hr hV
    | cons a P' =>
      obtain ⟨rfl, rfl⟩ := List.cons.inj hQ
      obtain rfl := hP e List.mem_cons_self
      obtain ⟨acks, hacks, hsent, hf, hr'⟩ := Connection.handle_ack_adds hs
      refine ⟨acks, hsent, hacks.plain, by rw [hr'], ?_⟩
      exact .asked hc hf hd (hr'.trans hr) (fun e he => hP e (List.mem_cons_of_mem _ he))
        (acks_append.mpr ⟨hV, hacks⟩)
  | answered => cases hQ
  | closed hw hs hd hr hV =>
    refine ⟨[], ?_, nofun, ?_, ?_⟩
    · rw [Connection.handle_of_failure hs, List.append_nil]
    · rw [Connection.handle_of_failure hs]
    · rw [Connection.handle_of_failure hs, List.append_nil]
      exact .closed hw hs hd hr hV

theorem Phase.foldl_handle {w : Option Call} {es P V : List Event}
    (h : Phase d s w (es ++ P) V) (ht : s.responder.target.HashFree) :
    ∃ new, Handled d s (es.foldl Connection.handle s) w P V new := by
  induction es generalizing s V with
  | nil => exact ⟨[], (List.append_nil _).symm, nofun, rfl, by rwa [List.append_nil]⟩
  | cons e es ih =>
    obtain ⟨new, hsent, hplain, htarget, hphase⟩ := h.handle ht
    obtain ⟨more, hsent', hplain', htarget', hphase'⟩ := ih hphase (htarget ▸ ht)
    refine ⟨new ++ more, ?_, ?_, ?_, ?_⟩
    · rw [List.foldl_cons, hsent', hsent, List.append_assoc]
    · exact List.forall_mem_append.mpr ⟨hplain, hplain'⟩
    · rw [List.foldl_cons, htarget', htarget]
    · rw [List.foldl_cons, ← List.append_assoc]
      exact hphase'

end RemoteStub.Exchange
