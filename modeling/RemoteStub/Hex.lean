import RemoteStub.Text.Utf8
import RemoteStub.Text.Quoted

/-!
# Hexadecimal bytes

Bytes are written as two lowercase digits each. Either case is read back.
-/

namespace RemoteStub.Hex

/-- The value of a hexadecimal digit of either case. -/
def digit? (c : Char) : Option Nat :=
  if '0' ≤ c ∧ c ≤ '9' then some (c.toNat - 48)
  else if 'a' ≤ c ∧ c ≤ 'f' then some (c.toNat - 87)
  else if 'A' ≤ c ∧ c ≤ 'F' then some (c.toNat - 55)
  else none

/-- A byte read as the character with that code point. -/
def latin (b : UInt8) : Char := Char.ofNat b.toNat

/-- The byte that two digits stand for. -/
def octet? (high low : UInt8) : Option UInt8 := do
  let x ← digit? (latin high)
  let y ← digit? (latin low)
  return UInt8.ofNat (16 * x + y)

/-- The two digits of a byte. -/
def octet (b : UInt8) : Text := [Nat.digitChar (b.toNat / 16), Nat.digitChar (b.toNat % 16)]

def encode (bytes : Bytes) : Text := bytes.flatMap octet

/-- Why a text is not the hexadecimal form of any bytes. -/
inductive Error where
  | oddLength
  | notDigit (byte : UInt8) (position : Nat)
  deriving DecidableEq, Repr

def Error.message : Error → String
  | .oddLength => "Odd number of digits"
  | .notDigit b i =>
    "Invalid character " ++ String.ofList (Text.quoteChar (latin b)) ++ " at position " ++ toString i

/-- Reads digits two at a time. The first byte that is no digit is reported with its position,
counted from `i`. -/
def decodeFrom (i : Nat) : Bytes → Except Error Bytes
  | [] => .ok []
  | [_] => .error .oddLength
  | high :: low :: rest =>
    match digit? (latin high), digit? (latin low) with
    | none, _ => .error (.notDigit high i)
    | some _, none => .error (.notDigit low (i + 1))
    | some x, some y => (decodeFrom (i + 2) rest).map (UInt8.ofNat (16 * x + y) :: ·)

/-- Reads a text as bytes. An odd length, in bytes of UTF-8, is reported before anything else. -/
def decode (t : Text) : Except Error Bytes :=
  let digits := t.toBytes
  if digits.length % 2 = 1 then .error .oddLength else decodeFrom 0 digits

end RemoteStub.Hex
