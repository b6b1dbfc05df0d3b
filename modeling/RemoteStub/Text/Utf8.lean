import RemoteStub.Text

/-!
# UTF-8

Writing a text as UTF-8, and reading any bytes as a text. Reading never fails:
each maximal subpart of an ill-formed sequence stands for one replacement
character.
-/

namespace RemoteStub.Text

/-- The UTF-8 form of a text. -/
def toBytes (t : Text) : Bytes := t.flatMap String.utf8EncodeChar

@[simp] theorem toBytes_nil : toBytes [] = [] := rfl

@[simp] theorem toBytes_cons (c : Char) (t : Text) :
    toBytes (c :: t) = String.utf8EncodeChar c ++ toBytes t := rfl

@[simp] theorem toBytes_append (t u : Text) : toBytes (t ++ u) = toBytes t ++ toBytes u := by
  simp [toBytes]

/-- What an ill-formed sequence reads as. -/
def replacement : Char := '\uFFFD'

/-- A sequence that has begun: the bits read, how many bytes are owed, and the
range of the next one. Bytes after that have the range of a plain tail. -/
structure Sequence where
  bits : Nat
  owed : Nat
  low : Nat := 0x80
  high : Nat := 0xBF
  deriving DecidableEq, Repr

/-- What a byte means between characters. -/
inductive Lead where
  | char (c : Char)
  | opens (s : Sequence)
  | illFormed
  deriving DecidableEq, Repr

def lead (b : UInt8) : Lead :=
  let n := b.toNat
  if n < 0x80 then .char (Char.ofNat n)
  else if n < 0xC2 then .illFormed
  else if n < 0xE0 then .opens { bits := n - 0xC0, owed := 1 }
  else if n = 0xE0 then .opens { bits := 0, owed := 2, low := 0xA0 }
  else if n = 0xED then .opens { bits := 0xD, owed := 2, high := 0x9F }
  else if n < 0xF0 then .opens { bits := n - 0xE0, owed := 2 }
  else if n = 0xF0 then .opens { bits := 0, owed := 3, low := 0x90 }
  else if n < 0xF4 then .opens { bits := n - 0xF0, owed := 3 }
  else if n = 0xF4 then .opens { bits := 4, owed := 3, high := 0x8F }
  else .illFormed

mutual

/-- Reads bytes as UTF-8, with a replacement character for each ill-formed part. -/
def ofBytes : Bytes → Text
  | [] => []
  | b :: rest =>
    match lead b with
    | .char c => c :: ofBytes rest
    | .opens s => ofBytesIn s rest
    | .illFormed => replacement :: ofBytes rest

/-- Reads on within a sequence. A byte outside the range ends it and is read afresh. -/
def ofBytesIn (s : Sequence) : Bytes → Text
  | [] => [replacement]
  | b :: rest =>
    if s.low ≤ b.toNat ∧ b.toNat ≤ s.high then
      let bits := 64 * s.bits + (b.toNat - 0x80)
      if s.owed ≤ 1 then Char.ofNat bits :: ofBytes rest
      else ofBytesIn { bits, owed := s.owed - 1 } rest
    else
      replacement :: match lead b with
        | .char c => c :: ofBytes rest
        | .opens t => ofBytesIn t rest
        | .illFormed => replacement :: ofBytes rest

end

end RemoteStub.Text
