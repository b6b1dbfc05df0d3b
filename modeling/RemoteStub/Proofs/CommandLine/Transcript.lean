import RemoteStub.CommandLine.Send
import RemoteStub.Proofs.Exchange.Lockstep
import RemoteStub.Proofs.Server.Lifecycle

/-!
# What the client program prints

Each command that is answered is printed with its reply, up to the first that cannot be
read. That one ends the program, and none of those after it is sent (`run_transcript`).
A link delivers all that is sent at once; the parts in which bytes travel make no
difference, since the calls return the same in every exchange (`printed_run`).
-/

namespace RemoteStub

variable {σ : Type}

/-! ## The first command that cannot be read -/

/-- Its index, or the number of commands if there is none. -/
def firstRefused (ts : List Text) : Nat := ts.findIdx fun t => (Command.refusal? t).isSome

theorem firstRefused_cons_of_ok {t : Text} {command : Command} (h : Command.parse t = .ok command)
    (ts : List Text) : firstRefused (t :: ts) = firstRefused ts + 1 := by
  simp [firstRefused, List.findIdx_cons, Command.refusal?, h]

theorem firstRefused_cons_of_error {t : Text} {e : DecodeError} (h : Command.parse t = .error e)
    (ts : List Text) : firstRefused (t :: ts) = 0 := by
  simp [firstRefused, List.findIdx_cons, Command.refusal?, h]

theorem firstRefused_lt_iff (ts : List Text) :
    firstRefused ts < ts.length ↔ (ts.findSome? Command.refusal?).isSome := by
  rw [firstRefused, List.findIdx_lt_length, List.isSome_findSome?, List.any_eq_true]

theorem untilRefused_eq_take (ts : List Text) : untilRefused ts = ts.take (firstRefused ts + 1) := by
  induction ts with
  | nil => rfl
  | cons t ts ih =>
    cases hp : Command.parse t with
    | ok command => rw [untilRefused_cons_of_ok hp, firstRefused_cons_of_ok hp, List.take_succ_cons, ih]
    | error e => rw [untilRefused_cons_of_error hp, firstRefused_cons_of_error hp]; rfl

theorem findSome?_untilRefused (ts : List Text) :
    (untilRefused ts).findSome? Command.refusal? = ts.findSome? Command.refusal? := by
  induction ts with
  | nil => rfl
  | cons t ts ih =>
    cases hp : Command.parse t with
    | ok command => rw [untilRefused_cons_of_ok hp, List.findSome?_cons, List.findSome?_cons, ih]
    | error e => simp [untilRefused_cons_of_error hp, Command.refusal?, hp]

theorem untilRefused_filter (p : Text → Bool) (ts : List Text) :
    untilRefused ((untilRefused ts).filter p) = (untilRefused ts).filter p := by
  induction ts with
  | nil => rfl
  | cons t ts ih =>
    cases hp : Command.parse t with
    | ok command =>
      rw [untilRefused_cons_of_ok hp, List.filter_cons]
      split
      · rw [untilRefused_cons_of_ok hp, ih]
      · exact ih
    | error e =>
      rw [untilRefused_cons_of_error hp, List.filter_cons]
      split
      · exact untilRefused_cons_of_error hp _
      · rfl

/-! ## Commands with their replies -/

/-- The commands that are answered, each with its reply, up to the first that cannot be read. The
request to end acknowledgements is granted without the responder. -/
def Responder.answers (r : Responder σ) : List Text → List (Text × Text)
  | [] => []
  | t :: ts =>
    if t = Client.startNoAckMode then (t, "OK".toList) :: r.answers ts
    else match r.respond t with
      | (.ok reply, r) => (t, Text.ofBytes reply) :: r.answers ts
      | (.error _, _) => []

/-- A command that is put to a responder is answered, or it cannot be read and all is refused. -/
theorem Direct.perform_answers {d : Direct σ} {c : Call} {t : Text} (hc : c.command? = some t)
    (hd : d.refused = false) :
    (∃ command reply r, Command.parse t = .ok command ∧
      d.perform c = { d with responder := r }.finish c (.ok (.reply reply)) ∧
      ∀ ts, d.responder.answers (t :: ts) = (t, reply) :: r.answers ts) ∨
    ∃ e, Command.parse t = .error e ∧
      (d.perform c).returned = d.returned ++ [(c, .error (.io .closed))] ∧
      ∀ ts, d.responder.answers (t :: ts) = [] := by
  by_cases ht : t = Client.startNoAckMode
  · refine .inl ⟨.other t, "OK".toList, d.responder, ?_, perform_negotiate hc hd ht, ?_⟩
    · rw [ht]
      exact Connection.parse_startNoAckMode
    · intro ts
      rw [Responder.answers, if_pos ht]
  · cases hp : Command.parse t with
    | ok command =>
      obtain ⟨reply, r, hr⟩ := Responder.respond_of_ok (r := d.responder) hp
      refine .inl ⟨command, _, r, rfl, perform_answer hc hd ht hr, ?_⟩
      intro ts
      rw [Responder.answers, if_neg ht, hr]
    | error e =>
      obtain ⟨r, hr⟩ := Responder.respond_of_error (r := d.responder) hp
      refine .inr ⟨e, rfl, by rw [perform_refuse hc hd ht hr]; rfl, ?_⟩
      intro ts
      rw [Responder.answers, if_neg ht, hr]

theorem Responder.map_fst_answers (r : Responder σ) (ts : List Text) :
    (r.answers ts).map Prod.fst = ts.take (firstRefused ts) := by
  induction ts generalizing r with
  | nil => rfl
  | cons t ts ih =>
    let d : Direct σ := { responder := r }
    rcases Direct.perform_answers (d := d) (c := .request t) rfl rfl with
      ⟨command, reply, r', hp, -, hanswers⟩ | ⟨e, hp, -, hanswers⟩
    · rw [hanswers, firstRefused_cons_of_ok hp, List.take_succ_cons, List.map_cons, ih]
    · rw [hanswers, firstRefused_cons_of_error hp]
      rfl

theorem Responder.answers_untilRefused (r : Responder σ) (ts : List Text) :
    r.answers (untilRefused ts) = r.answers ts := by
  induction ts generalizing r with
  | nil => rfl
  | cons t ts ih =>
    let d : Direct σ := { responder := r }
    rcases Direct.perform_answers (d := d) (c := .request t) rfl rfl with
      ⟨command, reply, r', hp, -, hanswers⟩ | ⟨e, hp, -, hanswers⟩
    · rw [untilRefused_cons_of_ok hp, hanswers, hanswers, ih]
    · rw [untilRefused_cons_of_error hp, hanswers, hanswers]

namespace CommandLine.Send

open Link (Tracks)

/-! ## The commands of a command line -/

def Options.calls (o : Options) : List Call :=
  .sendAck :: (if o.noAck then [.startNoAckMode] else []) ++ o.commands.map .request

/-- The commands that the program is about to send. -/
def Options.texts (o : Options) : List Text :=
  (if o.noAck then [Client.startNoAckMode] else []) ++ o.commands

theorem plan_eq (o : Options) : plan o = o.calls.map Call.step := by
  unfold plan Options.calls
  cases o.noAck <;> simp [Call.step]

theorem commands_calls (o : Options) : o.calls.filterMap Call.command? = o.texts := by
  have hrequests : (o.commands.map .request).filterMap Call.command? = o.commands := by
    rw [List.filterMap_map]
    exact List.filterMap_some
  unfold Options.calls Options.texts
  rw [List.cons_append, List.filterMap_cons_none rfl, List.filterMap_append, hrequests]
  cases o.noAck <;> rfl

/-- What is printed about a command and its reply. -/
def entry (p : Text × Text) : Text := line (p.1 ++ " -> ".toList ++ p.2)

theorem answers_texts (r : Responder σ) (o : Options) : (r.answers o.texts).flatMap entry =
    (if o.noAck then line "QStartNoAckMode -> OK".toList else []) ++
      (r.answers o.commands).flatMap entry := by
  unfold Options.texts
  cases o.noAck with
  | true =>
    simp only [if_true, List.singleton_append, Responder.answers, List.flatMap_cons]
    rfl
  | false => rfl

theorem untilRefused_texts (o : Options) : untilRefused o.texts =
    (if o.noAck then [Client.startNoAckMode] else []) ++
      o.commands.take (firstRefused o.commands + 1) := by
  rw [← untilRefused_eq_take]
  unfold Options.texts
  cases o.noAck with
  | true => exact untilRefused_cons_of_ok Connection.parse_startNoAckMode _
  | false => rfl

theorem findSome?_texts (o : Options) :
    o.texts.findSome? Command.refusal? = o.commands.findSome? Command.refusal? := by
  unfold Options.texts
  cases o.noAck <;> rfl

/-! ## What the client does -/

theorem report_eq_entry {c : Call} {t : Text} (hc : c.command? = some t) (reply : Text) :
    report c.step (.reply reply) = entry (t, reply) := by
  cases c <;> cases hc <;> rfl

variable {l l' : Link (Server σ)} {d : Direct σ} {calls : List Call}

theorem converse_of_ok {step : Client.Step} {result : Client.Result}
    (h : l.perform step = (.ok result, l')) (rest : List Client.Step) :
    converse l (step :: rest) =
      (report step result ++ (converse l' rest).1, (converse l' rest).2) := by
  rw [converse, h]

theorem converse_of_error {step : Client.Step} {f : Client.Failure}
    (h : l.perform step = (.error f, l')) (rest : List Client.Step) :
    converse l (step :: rest) = ([], some f, l') := by
  rw [converse, h]

theorem perform_of_returned (h : Tracks d l) {c : Call} {outcome : RemoteStub.Outcome}
    (hplain : c.sends.Plain) (hreturned : (d.perform c).returned = d.returned ++ [(c, outcome)]) :
    ∃ l', l.perform c.step = (outcome.mapError .error, l') ∧ Tracks (d.perform c) l' := by
  obtain ⟨outcome', houtcome, hreturned', htracks⟩ := h.perform hplain
  obtain rfl : outcome' = outcome := by
    rw [hreturned'] at hreturned
    simpa using hreturned
  exact ⟨_, Prod.ext houtcome rfl, htracks⟩

/-! ## The calls that return -/

/-- What is printed about the calls that have returned, up to the first that failed, and how that
one failed. -/
def printed : List (Call × RemoteStub.Outcome) → Text × Option Error
  | [] => ([], none)
  | (c, .ok result) :: rest => (report c.step result ++ (printed rest).1, (printed rest).2)
  | (_, .error e) :: _ => ([], some e)

theorem returned_foldl_perform (d : Direct σ) (calls : List Call) :
    d.returned <+: (calls.foldl Direct.perform d).returned := by
  induction calls generalizing d with
  | nil => exact List.prefix_refl _
  | cons c calls ih =>
    refine List.IsPrefix.trans ?_ (ih (d.perform c))
    unfold Direct.perform
    repeat' split
    all_goals exact List.prefix_append _ _

theorem printed_returned (hd : d.refused = false) (calls : List Call) :
    ∃ new, (calls.foldl Direct.perform d).returned = d.returned ++ new ∧
      printed new = ((d.responder.answers (calls.filterMap Call.command?)).flatMap entry,
        ((calls.filterMap Call.command?).findSome? Command.refusal?).map fun _ => .io .closed) := by
  induction calls generalizing d with
  | nil => exact ⟨[], (List.append_nil _).symm, rfl⟩
  | cons c calls ih =>
    rw [List.foldl_cons]
    cases hx : c.command? with
    | none =>
      obtain rfl := Call.eq_sendAck hx
      obtain ⟨new, hnew, hprinted⟩ := @ih (d.finish .sendAck (.ok .done)) hd
      refine ⟨(.sendAck, .ok .done) :: new, ?_, ?_⟩
      · rw [Direct.perform_sendAck hx, hnew, Direct.finish, List.append_assoc]
        rfl
      · rw [List.filterMap_cons_none hx, printed, hprinted]
        rfl
    | some t =>
      rw [List.filterMap_cons_some hx, List.findSome?_cons]
      rcases Direct.perform_answers hx hd with
        ⟨command, reply, r, hp, hperform, hanswers⟩ | ⟨e, hp, hreturned, hanswers⟩
      · obtain ⟨new, hnew, hprinted⟩ :=
          @ih ({ d with responder := r }.finish c (.ok (.reply reply))) hd
        have hr : Command.refusal? t = none := by rw [Command.refusal?, hp]
        refine ⟨(c, .ok (.reply reply)) :: new, ?_, ?_⟩
        · rw [hperform, hnew, Direct.finish, List.append_assoc]
          rfl
        · rw [printed, hprinted, report_eq_entry hx, hanswers, List.flatMap_cons, hr]
          rfl
      · -- the call fails, and what comes of those after it is not printed
        obtain ⟨later, hlater⟩ := returned_foldl_perform (d.perform c) calls
        have hr : Command.refusal? t = some e := by rw [Command.refusal?, hp]
        refine ⟨(c, .error (.io .closed)) :: later, ?_, ?_⟩
        · rw [← hlater, hreturned, List.append_assoc]
          rfl
        · rw [printed, hanswers, hr]
          rfl

/-- The calls are made up to the first that is refused. -/
theorem converse_calls (h : Tracks d l) (hd : d.refused = false)
    (hplain : ∀ c ∈ calls, c.sends.Plain) :
    ∃ (done : List Call) (l' : Link (Server σ)), converse l (calls.map Call.step) =
        ((d.responder.answers (calls.filterMap Call.command?)).flatMap entry,
          ((calls.filterMap Call.command?).findSome? Command.refusal?).map
            fun _ => .error (.io .closed), l') ∧
      done.filterMap Call.command? = untilRefused (calls.filterMap Call.command?) ∧
      Tracks (done.foldl Direct.perform d) l' := by
  induction calls generalizing d l with
  | nil => exact ⟨[], l, rfl, rfl, h⟩
  | cons c calls ih =>
    have hc := hplain c List.mem_cons_self
    have hlater : ∀ c ∈ calls, c.sends.Plain := fun u hu => hplain u (List.mem_cons_of_mem c hu)
    cases hx : c.command? with
    | none =>
      have hperform := Direct.perform_sendAck (d := d) hx
      obtain ⟨l₁, hl, h₁⟩ := perform_of_returned h hc (by rw [hperform]; rfl)
      rw [hperform] at h₁
      obtain ⟨done, l', hconverse, hdone, h'⟩ := ih h₁ hd hlater
      refine ⟨c :: done, l', ?_, ?_, ?_⟩
      · rw [List.map_cons, converse_of_ok hl, hconverse, List.filterMap_cons_none hx]
        obtain rfl := Call.eq_sendAck hx
        rfl
      · rw [List.filterMap_cons_none hx, List.filterMap_cons_none hx, hdone]
      · rw [List.foldl_cons, hperform]
        exact h'
    | some t =>
      rw [List.filterMap_cons_some hx, List.map_cons, List.findSome?_cons]
      rcases Direct.perform_answers hx hd with
        ⟨command, reply, r, hp, hperform, hanswers⟩ | ⟨e, hp, hreturned, hanswers⟩
      · obtain ⟨l₁, hl, h₁⟩ := perform_of_returned h hc (by rw [hperform]; rfl)
        rw [hperform] at h₁
        obtain ⟨done, l', hconverse, hdone, h'⟩ := ih h₁ hd hlater
        have hr : Command.refusal? t = none := by rw [Command.refusal?, hp]
        refine ⟨c :: done, l', ?_, ?_, ?_⟩
        · rw [converse_of_ok hl, hconverse, report_eq_entry hx, hanswers, List.flatMap_cons, hr]
          rfl
        · rw [List.filterMap_cons_some hx, untilRefused_cons_of_ok hp, hdone]
        · rw [List.foldl_cons, hperform]
          exact h'
      · -- the call fails, and those after it are not made
        obtain ⟨l₁, hl, h₁⟩ := perform_of_returned h hc hreturned
        have hr : Command.refusal? t = some e := by rw [Command.refusal?, hp]
        refine ⟨[c], l₁, ?_, ?_, h₁⟩
        · rw [converse_of_error hl, hanswers, hr]
          rfl
        · rw [untilRefused_cons_of_error hp, List.filterMap_cons_some hx]
          rfl

theorem converse_plan (h : Tracks d l) (hd : d.refused = false) {o : Options}
    (hcommands : ∀ t ∈ o.commands, '#' ∉ t) :
    ∃ (done : List Call) (l' : Link (Server σ)), converse l (plan o) =
        ((d.responder.answers o.texts).flatMap entry,
          (o.texts.findSome? Command.refusal?).map fun _ => .error (.io .closed), l') ∧
      done.filterMap Call.command? = untilRefused o.texts ∧
      Tracks (done.foldl Direct.perform d) l' := by
  rw [plan_eq, ← commands_calls]
  refine converse_calls h hd (Exchange.plain_sends ?_)
  intro t ht
  apply hcommands
  unfold Options.calls at ht
  cases ho : o.noAck <;> simpa [ho] using ht

/-! ## The whole program -/

/-- The texts of the packets in a stream. -/
def received (data : Bytes) : List Text :=
  (({} : Receiver).feed data).drain.events.filterMap Event.text?

theorem received_of_sent {texts : List Text} (h : l.Sent texts) : received l.sent = texts := by
  obtain ⟨es, hsent, hes, htexts⟩ := h
  rw [received, hsent, Receiver.drain_feed_encodeAll hes]
  exact htexts

theorem connect_of_reached {b : Bench σ} {address : SocketAddress}
    (haddress : b.server.address = some address) (hhost : b.host.obstacle address = none)
    {s : Server σ} (hs : b.server.letIn = some s) :
    b.connect address = (.ok (), { b with server := s, client := some {} }) := by
  simp [Bench.connect, haddress, hs, Host.reach, hhost]

theorem connect_of_ne {b : Bench σ} {address : SocketAddress}
    (haddress : b.server.address ≠ some address) : ∃ e, b.connect address = (.error e, b) := by
  unfold Bench.connect Host.reach
  rw [if_neg haddress]
  cases b.host.obstacle address <;> exact ⟨_, rfl⟩

/-- Where several addresses are tried, the one that the server listens on is found. -/
theorem connectAny_of_mem {b : Bench σ} {address : SocketAddress} {addresses : List SocketAddress}
    (hmem : address ∈ addresses) (haddress : b.server.address = some address)
    (hhost : b.host.obstacle address = none) {s : Server σ} (hs : b.server.letIn = some s) :
    b.connectAny addresses = (.ok (), { b with server := s, client := some {} }) := by
  have hreached := connect_of_reached haddress hhost hs
  fun_induction Bench.connectAny b addresses with
  | case1 b => cases hmem
  | case2 b a =>
    rw [← List.mem_singleton.mp hmem]
    exact hreached
  | case3 b a rest _ b' hok =>
    rcases eq_or_ne a address with rfl | hne
    · exact hok.symm.trans hreached
    · have hother : b.server.address ≠ some a := by simpa [haddress] using hne.symm
      obtain ⟨e, he⟩ := connect_of_ne hother
      rw [he] at hok
      cases hok
  | case4 b a rest _ e b' herror ih =>
    rcases eq_or_ne a address with rfl | hne
    · rw [hreached] at herror
      cases herror
    · have hother : b.server.address ≠ some a := by simpa [haddress] using hne.symm
      obtain ⟨e', he⟩ := connect_of_ne hother
      rw [he] at herror
      cases herror
      exact ih ((List.mem_cons.mp hmem).resolve_left hne.symm) haddress hhost hs hreached

/-- The first client of a server that was started is served. -/
theorem connect_started {r : Responder σ} {config : Config} {host : Host} {address : SocketAddress}
    {b : Bench σ} {server : Text} {addresses : List SocketAddress}
    (hstart : (Bench.create host config r).start = (.ok address, b))
    (hhost : host.obstacle address = none)
    (hserver : SocketAddress.resolve host.lookup server = .ok addresses)
    (hmem : address ∈ addresses) :
    ∃ s, connect b server = (.ok (), { b with server := s, client := some {} }) ∧
      s.phase = .serving (.create r config) := by
  match hs : (Server.create config r).start host with
  | (result, s) =>
    simp only [Bench.start, Bench.create, hs, Prod.mk.injEq] at hstart
    obtain ⟨rfl, rfl⟩ := hstart
    obtain rfl := Server.start_create hs
    have hletIn : Server.letIn { config, phase := .listening r, address := some address } =
        some { config, phase := .serving (.create r config), address := some address } :=
      congrArg some (Server.poll_accepted rfl rfl)
    refine ⟨{ config, phase := .serving (.create r config), address := some address }, ?_, rfl⟩
    rw [connect, hserver]
    exact connectAny_of_mem hmem rfl hhost hletIn

theorem failed_closed (t : Text) : failed t (.io .closed) =
    { exit := 1, stdout := t, stderr := line "error: IO error: server closed the connection".toList } := by
  have hmessage : "error: " ++ (Error.io .closed).message =
      "error: IO error: server closed the connection" := by decide
  rw [failed, hmessage]
  rfl

/-- What the program leaves behind when the server has closed, or has not. -/
theorem run_of_converse {b welcome : Bench σ} {args : List Text} {o : Options} {printed : Text}
    {refusal : Option DecodeError} (hargs : invocation args = .run o)
    (hconnect : connect b o.server = (.ok (), welcome)) (hclient : welcome.client = some {})
    (h : converse ({ peer := welcome.server } : Link (Server σ)) (plan o) =
      (printed, refusal.map fun _ => .error (.io .closed), l)) :
    run b args = (some {
      exit := if refusal.isSome then 1 else 0
      stdout := printed
      stderr := if refusal.isSome then
        line "error: IO error: server closed the connection".toList else [] },
      ({ welcome with server := l.peer, client := some l.client } : Bench σ).disconnect) := by
  simp only [run, hargs, hconnect, hclient, Option.getD_some, h]
  cases refusal with
  | none => rfl
  | some e => simp only [Option.map_some, failed_closed, Option.isSome_some, if_true]

theorem log_of_tracks {r : Responder σ} {done : List Call} {ts : List Text}
    (h : Tracks (done.foldl Direct.perform { responder := r }) l)
    (hdone : done.filterMap Call.command? = untilRefused ts) :
    l.peer.log.entries = r.log.entries ++ (untilRefused ts).filter (· ≠ Client.startNoAckMode) := by
  rw [Server.log, h.responder_eq, Direct.log_foldl_perform, commands, hdone]
  simp [untilRefused_filter]

theorem received_of_tracks {r : Responder σ} {done : List Call} {ts : List Text}
    (h : Tracks (done.foldl Direct.perform { responder := r }) l)
    (hdone : done.filterMap Call.command? = untilRefused ts) : received l.sent = untilRefused ts := by
  have hcalls : ((direct r done).returned.map Prod.fst).filterMap Call.command? =
      untilRefused ts := by
    rw [fst_returned_direct, hdone]
  rw [List.filterMap_map] at hcalls
  exact received_of_sent (hcalls ▸ h.sent)

/-- Whatever the order of the moves and the parts in which the bytes arrive, the calls that the
program makes come to the same text and the same log. -/
theorem printed_run {r : Responder σ} {config : Config} {o : Options} (ht : r.target.HashFree)
    (hc : 1 ≤ config.recvChunkSize) (hcommands : ∀ t ∈ o.commands, '#' ∉ t)
    {moves : List Exchange.Move} {x : Exchange σ}
    (hrun : (Exchange.start r config o.calls).run moves = some x)
    (hstop : ∀ m, x.step? m = none) :
    printed x.returned = ((r.answers o.texts).flatMap entry,
        (o.texts.findSome? Command.refusal?).map fun _ => .io .closed) ∧
      x.server.responder.log.entries =
        r.log.entries ++ untilRefused (o.texts.filter (· ≠ Client.startNoAckMode)) := by
  have hrequests : ∀ t, Call.request t ∈ o.calls → '#' ∉ t := by
    intro t hmem
    apply hcommands
    unfold Options.calls at hmem
    cases ho : o.noAck <;> simpa [ho] using hmem
  have hinv := (Exchange.invariant_start ht hc o.calls).run (Exchange.plain_sends hrequests) hrun
  obtain ⟨hw, hnone⟩ := hinv.finished hstop
  obtain ⟨done, P, V, hdone, hs, -⟩ := hinv
  rw [hw, hnone, Option.toList_none, List.append_nil, List.append_nil] at hdone
  subst hdone
  obtain ⟨new, hnew, hprinted⟩ := printed_returned (d := { responder := r }) rfl o.calls
  rw [commands_calls] at hprinted
  constructor
  · rw [hs.returned, direct, hnew]
    exact hprinted
  · rw [hs.responder_eq hw, log_direct, commands, commands_calls]

/-- **What is printed, logged and sent.** The client connects to a server that was just started, and
sends its commands. Those before the first that cannot be read are printed with their replies, the
same whether acknowledgements end before or not. They are logged, and so is that one, but never the
request to end acknowledgements. The exit code tells whether there is such a command, and none after
it is sent. In whatever parts the bytes travel, the calls that the program makes then come to the
same. -/
theorem run_transcript {target : Target σ} {state : σ} {config : Config} {host : Host}
    {address : SocketAddress} {addresses : List SocketAddress} {b : Bench σ} {server : Text}
    {commands : List Text} (ht : target.HashFree) (hc : 1 ≤ config.recvChunkSize)
    (hstart : (Bench.create host config { target, state }).start = (.ok address, b))
    (hhost : host.obstacle address = none)
    (hserver : SocketAddress.resolve host.lookup server = .ok addresses)
    (hmem : address ∈ addresses) (hcommands : ∀ t ∈ commands, '#' ∉ t) :
    let k := firstRefused commands
    let answers := ({ target, state } : Responder σ).answers commands
    answers.map Prod.fst = commands.take k ∧
    (∀ noAck moves x,
      (Exchange.start { target, state } config
        (Options.calls { server, noAck, commands := commands.take (k + 1) })).run moves = some x →
      (∀ m, x.step? m = none) →
      printed x.returned = ((if noAck then line "QStartNoAckMode -> OK".toList else []) ++
          answers.flatMap entry, if k < commands.length then some (.io .closed) else none) ∧
        x.server.responder.log.entries =
          (commands.take (k + 1)).filter (· ≠ Client.startNoAckMode)) ∧
    ∀ noAck args, invocation args = .run { server, noAck, commands } →
      ∃ welcome b', connect b server = (.ok (), welcome) ∧
        run b args = (some {
          exit := if k < commands.length then 1 else 0
          stdout := (if noAck then line "QStartNoAckMode -> OK".toList else []) ++
            answers.flatMap entry
          stderr := if k < commands.length then
            line "error: IO error: server closed the connection".toList else [] }, b') ∧
        b'.server.log.entries = (commands.take (k + 1)).filter (· ≠ Client.startNoAckMode) ∧
        received (converse ({ peer := welcome.server } : Link (Server σ))
          (plan { server, noAck, commands })).2.2.sent =
            (if noAck then [Client.startNoAckMode] else []) ++ commands.take (k + 1) := by
  intro k answers
  refine ⟨Responder.map_fst_answers _ commands, ?_, ?_⟩
  · intro noAck moves x hrun hstop
    have hmade : ∀ t ∈ commands.take (k + 1), '#' ∉ t :=
      fun t ht => hcommands t (List.mem_of_mem_take ht)
    obtain ⟨hprinted, hlog⟩ := printed_run ht hc hmade hrun hstop
    have htexts := untilRefused_texts { server, noAck, commands }
    rw [answers_texts, findSome?_texts] at hprinted
    rw [Options.texts, ← htexts, untilRefused_filter, htexts] at hlog
    constructor
    · rw [hprinted, ← untilRefused_eq_take, Responder.answers_untilRefused, findSome?_untilRefused]
      simp only [k, firstRefused_lt_iff]
      cases commands.findSome? Command.refusal? <;> rfl
    · rw [hlog]
      cases noAck <;> simp [k]
  intro noAck args hargs
  obtain ⟨s, hconnect, hs⟩ := connect_started hstart hhost hserver hmem
  obtain ⟨done, l, hconverse, hdone, htracks⟩ :=
    converse_plan (Link.tracks_start ht hc hs) rfl (o := { server, noAck, commands }) hcommands
  have hlog := log_of_tracks htracks hdone
  have hsent := received_of_tracks htracks hdone
  rw [untilRefused_texts] at hlog hsent
  rw [answers_texts, findSome?_texts] at hconverse
  have hrun := run_of_converse hargs hconnect rfl hconverse
  simp only [← firstRefused_lt_iff] at hrun
  refine ⟨_, _, hconnect, hrun, ?_, ?_⟩
  · have hleft : l.peer.hangUp.log = l.peer.log :=
      congrArg Responder.log l.peer.responder_hangUp
    show l.peer.hangUp.log.entries = _
    rw [hleft, hlog]
    cases noAck <;> simp [k]
  · rw [hconverse]
    exact hsent

/-- Acknowledgements end, a command is answered, the next one is refused, and the one after it is
not sent. -/
theorem run_transcript_refused :
    let b := (Bench.create .loopback {} Responder.default).start.2
    let address := SocketAddress.v4 ⟨127, 0, 0, 1⟩ 49152
    let server := "127.0.0.1:49152".toList
    let commands := ["?".toList, "p?".toList, "g".toList]
    let args := ["-s".toList, server, "--no-ack".toList] ++ commands
    Responder.default.target.HashFree ∧ (1 : UInt64) ≤ ({} : Config).recvChunkSize ∧
      (Bench.create .loopback {} Responder.default).start = (.ok address, b) ∧
      Host.loopback.obstacle address = none ∧
      SocketAddress.resolve Host.loopback.lookup server = .ok [address] ∧ address ∈ [address] ∧
      (∀ t ∈ commands, '#' ∉ t) ∧ invocation args = .run ⟨server, true, commands⟩ ∧
      ∃ b', run b args = (some {
          exit := 1
          stdout := "QStartNoAckMode -> OK\n? -> S02\n".toList
          stderr := "error: IO error: server closed the connection\n".toList }, b') ∧
        b'.server.log.entries = ["?".toList, "p?".toList] := by
  intro b address server commands args
  have ht : Responder.default.target.HashFree := Target.hashFree_default
  have hc : (1 : UInt64) ≤ ({} : Config).recvChunkSize := by decide
  have hstart : (Bench.create .loopback {} Responder.default).start = (.ok address, b) := rfl
  have hhost : Host.loopback.obstacle address = none := rfl
  have hserver : SocketAddress.resolve Host.loopback.lookup server = .ok [address] := rfl
  have hmem : address ∈ [address] := List.mem_singleton.mpr rfl
  have hcommands : ∀ t ∈ commands, '#' ∉ t := by decide
  have hargs : invocation args = .run ⟨server, true, commands⟩ := rfl
  obtain ⟨-, -, hrun⟩ := run_transcript ht hc hstart hhost hserver hmem hcommands
  obtain ⟨welcome, b', -, hrun, hlog, -⟩ := hrun true args hargs
  exact ⟨ht, hc, hstart, hhost, hserver, hmem, hcommands, hargs, b', hrun, hlog⟩

end CommandLine.Send

end RemoteStub
