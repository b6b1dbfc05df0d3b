import RemoteStub.Proofs.Connection.Session
import RemoteStub.Proofs.PacketLog.Writing
import RemoteStub.Proofs.Text.Fields

/-!
# The lines of a written log

An entry is written as one line for each part of it between line feeds (`readBack_lines`), so
a log is read back from its lines just if none of its entries holds a line feed
(`readBack_lines_eq_iff`). The entries of a session hold one just if a packet that was handled
does (`run_readBack_iff`), and then the entries cannot be told from the lines at all
(`run_written_ambiguous`).
-/

namespace RemoteStub

namespace PacketLog

/-- Ends a line. -/
def lineFeed : UInt8 := 0x0a

/-- The lines of what was written, each of them ended by a line feed, as texts. -/
def readBack (written : Bytes) : List Text := (written.splitOn lineFeed).dropLast.map Text.ofBytes

theorem splitOn_flatMap_line (entries : List Text) :
    (entries.flatMap line).splitOn lineFeed =
      (entries.flatMap (Text.fields '\n')).map Text.toBytes ++ [[]] := by
  induction entries with
  | nil => rfl
  | cons e entries ih =>
    have hcode : '\n'.toNat < 0x80 := by decide
    have hfields : e.toBytes.splitOn lineFeed = (Text.fields '\n' e).map Text.toBytes :=
      Text.splitOn_toBytes hcode e
    rw [List.flatMap_cons, line, List.append_assoc, List.singleton_append]
    rw [show (0x0a : UInt8) = lineFeed from rfl, List.splitOn_append_cons_self, hfields, ih,
      List.flatMap_cons, List.map_append, List.append_assoc]

theorem readBack_lines (log : PacketLog) :
    readBack log.lines = log.entries.flatMap (Text.fields '\n') := by
  rw [readBack, lines, splitOn_flatMap_line, List.dropLast_concat, List.map_map]
  simp [Function.comp_def, Text.ofBytes_toBytes]

theorem length_flatMap_fields (entries : List Text) :
    (entries.flatMap (Text.fields '\n')).length =
      entries.length + entries.flatten.count '\n' := by
  induction entries with
  | nil => rfl
  | cons e entries ih =>
    rw [List.flatMap_cons, List.length_append, Text.length_fields, ih, List.flatten_cons,
      List.count_append, List.length_cons]
    omega

theorem flatMap_fields_of_not_mem {entries : List Text} (h : ∀ e ∈ entries, '\n' ∉ e) :
    entries.flatMap (Text.fields '\n') = entries := by
  induction entries with
  | nil => rfl
  | cons e entries ih =>
    rw [List.forall_mem_cons] at h
    rw [List.flatMap_cons, Text.fields_of_not_mem h.1, ih h.2, List.singleton_append]

theorem length_readBack_lines (log : PacketLog) :
    (readBack log.lines).length = log.length + log.entries.flatten.count '\n' := by
  rw [readBack_lines, length_flatMap_fields, length]

theorem length_readBack_lines_eq_iff {log : PacketLog} :
    (readBack log.lines).length = log.length ↔ ∀ e ∈ log.entries, '\n' ∉ e := by
  rw [length_readBack_lines, Nat.add_eq_left, List.count_eq_zero, List.mem_flatten]
  simp

theorem readBack_lines_eq_iff {log : PacketLog} :
    readBack log.lines = log.entries ↔ ∀ e ∈ log.entries, '\n' ∉ e := by
  constructor
  · intro h
    rw [← length_readBack_lines_eq_iff, h, length]
  · intro h
    rw [readBack_lines, flatMap_fields_of_not_mem h]

theorem writeTo_unlimited (log : PacketLog) : log.writeTo {} = (.ok (), { taken := log.lines }) := by
  rw [writeTo_eq]
  rfl

end PacketLog

namespace Connection

open PacketLog

variable {σ : Type}

theorem lineFeed_mem_iff {payload : Bytes} : '\n' ∈ Text.ofBytes payload ↔ lineFeed ∈ payload :=
  Text.mem_ofBytes_iff (by decide) (by decide)

theorem filterMap_text?_eq (events : List Event) :
    events.filterMap Event.text? = (events.filterMap Event.payload?).map Text.ofBytes := by
  rw [List.map_filterMap]
  congr
  funext e
  cases e <;> rfl

/-- The request that is not logged holds no line feed either. -/
theorem forall_mem_log_iff {c d : Connection σ} {texts : List Text} {a : Account}
    (h : Served c texts a d) :
    (∀ e ∈ d.responder.log.entries, '\n' ∉ e) ↔
      (∀ e ∈ c.responder.log.entries, '\n' ∉ e) ∧ ∀ t ∈ untilRefused texts, '\n' ∉ t := by
  have hstart : '\n' ∉ startNoAckMode := by decide
  have hlogged : (∀ t ∈ (untilRefused texts).filter (· ≠ startNoAckMode), '\n' ∉ t) ↔
      ∀ t ∈ untilRefused texts, '\n' ∉ t := by
    constructor
    · intro hall t ht
      by_cases hn : t = startNoAckMode
      · rw [hn]
        exact hstart
      · exact hall t (List.mem_filter.mpr ⟨ht, by simpa using hn⟩)
    · intro hall t ht
      exact hall t (List.mem_of_mem_filter ht)
  rw [h.log, h.serves.log_eq, List.forall_mem_append, hlogged]

theorem forall_mem_untilRefused_iff (payloads : List Bytes) :
    (∀ t ∈ untilRefused (payloads.map Text.ofBytes), '\n' ∉ t) ↔
      ∀ payload ∈ payloads.take (untilRefused (payloads.map Text.ofBytes)).length,
        lineFeed ∉ payload := by
  have htake : untilRefused (payloads.map Text.ofBytes) =
      (payloads.take (untilRefused (payloads.map Text.ofBytes)).length).map Text.ofBytes := by
    rw [List.map_take, ← List.prefix_iff_eq_take]
    exact untilRefused_prefix (payloads.map Text.ofBytes)
  generalize (untilRefused (payloads.map Text.ofBytes)).length = n at htake ⊢
  rw [htake, List.forall_mem_map]
  simp only [lineFeed_mem_iff]

/-- **The log of a session is read back just if no packet that it handled holds a line feed.**
Every line feed inside an entry makes one line more than there are entries. -/
theorem run_readBack_iff (r : Responder σ) {config : Config} (h : 1 ≤ config.recvChunkSize)
    (pieces : List Bytes) :
    let d := (({} : Receiver).feed pieces.flatten).drain
    let payloads := d.events.filterMap Event.payload?
    let handled := payloads.take (untilRefused (payloads.map Text.ofBytes)).length
    let log := (pieces.foldl run (create r config)).responder.log
    let lines := readBack (log.writeTo {}).2.taken
    (log.writeTo {}).1 = .ok () ∧
      lines = log.entries.flatMap (Text.fields '\n') ∧
      lines.length = log.length + log.entries.flatten.count '\n' ∧
      (lines.length = log.length ↔ lines = log.entries) ∧
      (lines = log.entries ↔
        (∀ e ∈ r.log.entries, '\n' ∉ e) ∧ ∀ payload ∈ handled, lineFeed ∉ payload) := by
  intro d payloads handled log lines
  have htexts : d.events.filterMap Event.text? = payloads.map Text.ofBytes :=
    filterMap_text?_eq d.events
  obtain ⟨-, hresponder, -, -⟩ := foldl_run_shows r h pieces
  obtain ⟨a, hserved, -⟩ := served_foldl_handle (c := create r config) rfl d.events
  have hentries : (∀ e ∈ log.entries, '\n' ∉ e) ↔
      (∀ e ∈ r.log.entries, '\n' ∉ e) ∧ ∀ payload ∈ handled, lineFeed ∉ payload := by
    rw [← forall_mem_untilRefused_iff, ← htexts]
    show (∀ e ∈ (pieces.foldl run (create r config)).responder.log.entries, '\n' ∉ e) ↔ _
    rw [hresponder]
    exact forall_mem_log_iff hserved
  have hlines : lines = readBack log.lines := by
    show readBack (log.writeTo {}).2.taken = _
    rw [writeTo_unlimited]
  refine ⟨by rw [writeTo_unlimited], ?_, ?_, ?_, ?_⟩
  · rw [hlines, readBack_lines]
  · rw [hlines, length_readBack_lines]
  · rw [hlines, length_readBack_lines_eq_iff, readBack_lines_eq_iff]
  · rw [hlines, readBack_lines_eq_iff, hentries]

/-- Of three packets handled one holds a line feed, and it is written as two lines. -/
theorem run_readBack_iff_three :
    let pieces : List Bytes := [frame (Text.toBytes "g".toList),
      frame (Text.toBytes "qC\n?".toList) ++ frame (Text.toBytes "?".toList)]
    let log := (pieces.foldl run (create .default {})).responder.log
    let lines := readBack (log.writeTo {}).2.taken
    (1 : UInt64) ≤ ({} : Config).recvChunkSize ∧
      lines = ["g".toList, "qC".toList, "?".toList, "?".toList] ∧ lines.length = log.length + 1 ∧
      lines ≠ log.entries := by
  intro pieces log lines
  have hlog : log.entries = ["g".toList, "qC\n?".toList, "?".toList] := by decide +kernel
  obtain ⟨-, hlines, hlength, -, -⟩ := @run_readBack_iff Unit .default {} (by decide) pieces
  rw [show (pieces.foldl run (create .default {})).responder.log = log from rfl, hlog] at hlines hlength
  have hlines : lines = ["g".toList, "qC".toList, "?".toList, "?".toList] := hlines
  refine ⟨by decide, hlines, hlength, ?_⟩
  rw [hlines, hlog]
  decide

/-- Two sessions with different logs, of one entry and of two, are written alike. -/
theorem run_written_ambiguous :
    let log (pieces : List Bytes) := (pieces.foldl run (create .default {})).responder.log
    let written (pieces : List Bytes) := ((log pieces).writeTo {}).2.taken
    let one := [frame (Text.toBytes "qC\n?".toList)]
    let two := [frame (Text.toBytes "qC".toList), frame (Text.toBytes "?".toList)]
    (log one).entries = ["qC\n?".toList] ∧ (log two).entries = ["qC".toList, "?".toList] ∧
      written one = written two ∧ readBack (written one) ≠ (log one).entries ∧
      (readBack (written one)).length ≠ (log one).length := by
  decide +kernel

end Connection

end RemoteStub
