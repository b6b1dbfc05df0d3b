import RemoteStub.Hex

/-!
# Numeric fields

The hexadecimal numbers inside commands: one optional sign, then digits of
either case with any number of leading zeros. A number that does not fit its
width is refused.
-/

namespace RemoteStub.Numeric

/-- A digit in the given radix, at most sixteen, after those with the value `n`. -/
def addDigit (radix n : Nat) (c : Char) : Option Nat :=
  (Hex.digit? c).bind fun d => if d < radix then some (radix * n + d) else none

/-- The value of a non-empty run of digits. -/
def natural? (radix : Nat) (t : Text) : Option Nat :=
  if t.isEmpty then none else t.foldlM (addDigit radix) 0

/-- The value of a non-empty run of digits below the given bound. Nothing beyond it is ever held. -/
def naturalBelow? (bound radix : Nat) (t : Text) : Option Nat :=
  if t.isEmpty then none
  else t.foldlM (fun n c => (addDigit radix n c).filter (· < bound)) 0

/-- A natural number with an optional plus sign, below the given bound. -/
def below? (bound radix : Nat) (t : Text) : Option Nat :=
  match t with
  | '+' :: digits => naturalBelow? bound radix digits
  | _ => naturalBelow? bound radix t

def unsigned? (t : Text) : Option UInt64 := (below? UInt64.size 16 t).map UInt64.ofNat

/-- One more number fits below zero than above. -/
def signed? (t : Text) : Option Int64 :=
  match t with
  | '+' :: digits => (naturalBelow? 0x8000000000000000 16 digits).map Int64.ofNat
  | '-' :: digits =>
    (naturalBelow? 0x8000000000000001 16 digits).map fun n : Nat => Int64.ofInt (-n)
  | _ => (naturalBelow? 0x8000000000000000 16 t).map Int64.ofNat

/-- The shortest lowercase form of an unsigned field. -/
def unsigned (n : UInt64) : Text := Nat.toDigits 16 n.toNat

/-- The shortest lowercase form of a signed field: a minus sign if negative, then the magnitude. -/
def signed (v : Int64) : Text :=
  let digits := Nat.toDigits 16 v.toInt.natAbs
  if v.toInt < 0 then '-' :: digits else digits

end RemoteStub.Numeric
