import RemoteStub.Text.Utf8
import RemoteStub.Error

/-!
# Packet log

The commands received, in order of arrival. A log can be matched against an
expected sequence and written out, one entry to a line.
-/

namespace RemoteStub

structure PacketLog where
  entries : List Text := []
  deriving DecidableEq, Repr

/-- Why a write fails. One that is only interrupted is made again. -/
structure WriteFailure where
  error : IoError
  not_interrupted : error.kind ≠ .interrupted
  deriving DecidableEq, Repr

def WriteFailure.sinkFull : WriteFailure := ⟨.stated .other "sink is full", by decide⟩

/-- Somewhere to write, with room for a number of bytes and the failure that follows them. -/
structure Sink where
  room : Option Nat := none
  failure : WriteFailure := .sinkFull
  /-- Why what was taken cannot be handed on, if it cannot. -/
  flushFailure : Option IoError := none
  taken : Bytes := []
  deriving DecidableEq, Repr

/-- Writes as much as there is room for, and fails unless that is all. -/
def Sink.write (s : Sink) (data : Bytes) : Except IoError Unit × Sink :=
  match s.room with
  | none => (.ok (), { s with taken := s.taken ++ data })
  | some room =>
    let s' := { s with room := some (room - data.length), taken := s.taken ++ data.take room }
    (if data.length ≤ room then .ok () else .error s.failure.error, s')

def Sink.flush (s : Sink) : Except IoError Unit :=
  match s.flushFailure with
  | none => .ok ()
  | some e => .error e

namespace PacketLog

def push (log : PacketLog) (entry : Text) : PacketLog := ⟨log.entries ++ [entry]⟩

def length (log : PacketLog) : Nat := log.entries.length

/-- The last `n` entries, or all if there are fewer. -/
def last (log : PacketLog) (n : Nat) : List Text := log.entries.drop (log.length - n)

/-- The entries after the first one equal to `wanted`, if there is one. -/
def after (wanted : Text) : List Text → Option (List Text)
  | [] => none
  | e :: rest => if e = wanted then some rest else after wanted rest

/-- The first expected text that does not appear in its turn. Others may stand between. -/
def firstMissingIn : List Text → List Text → Option Text
  | _, [] => none
  | entries, wanted :: more =>
    match after wanted entries with
    | none => some wanted
    | some rest => firstMissingIn rest more

def firstMissing (log : PacketLog) (expected : List Text) : Option Text :=
  firstMissingIn log.entries expected

/-- Whether every expected text appears, in order. -/
def containsInOrder (log : PacketLog) (expected : List Text) : Bool :=
  (log.firstMissing expected).isNone

def line (entry : Text) : Bytes := entry.toBytes ++ [0x0a]

def lines (log : PacketLog) : Bytes := log.entries.flatMap line

/-- Writes entries and line ends in turn until one fails. -/
def writeEntries : List Text → Sink → Except IoError Unit × Sink
  | [], s => (.ok (), s)
  | e :: rest, s =>
    match s.write e.toBytes with
    | (.error f, s) => (.error f, s)
    | (.ok _, s) =>
      match s.write [0x0a] with
      | (.error f, s) => (.error f, s)
      | (.ok _, s) => writeEntries rest s

/-- Writes the entries and hands them on. -/
def writeTo (log : PacketLog) (s : Sink) : Except Error Unit × Sink :=
  match writeEntries log.entries s with
  | (.error e, s) => (.error (.io e), s)
  | (.ok _, s) => (s.flush.mapError .io, s)

end PacketLog

end RemoteStub
