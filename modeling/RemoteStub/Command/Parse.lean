import RemoteStub.Command

/-!
# Reading commands

Every text is some command unless it has the form of a known one and a field of
it is malformed.
-/

namespace RemoteStub

/-- Why a text is a malformed command. -/
inductive DecodeError where
  | notHex (what : String) (field : Text)
  | notRange (field : Text)
  | notAssignment (rest : Text)
  | notStore (rest : Text)
  | readTooLong (length : UInt64)
  | operationMissing
  | transferFields (count : Nat)
  deriving DecidableEq, Repr

namespace DecodeError

def message : DecodeError → String
  | notHex what field => what ++ " is not valid hex: " ++ quoted field
  | notRange field => "expected <addr>,<length>, got " ++ quoted field
  | notAssignment rest => "expected <reg>=<value>, got " ++ quoted rest
  | notStore rest => "expected <addr>,<length>:<data>, got " ++ quoted rest
  | readTooLong length =>
    "read length 0x" ++ hex length.toNat ++ " exceeds the 0x" ++ hex Command.maxReadLength ++
      "-byte limit"
  | operationMissing => "H packet is missing its operation"
  | transferFields count => "qXfer expects 4 fields, got " ++ toString count
where
  quoted (t : Text) : String := String.ofList (Text.quote t)
  hex (n : Nat) : String := String.ofList (Nat.toDigits 16 n)

end DecodeError

namespace Command

/-- Reads an unsigned field; `what` names it in the error. -/
def unsignedField (what : String) (field : Text) : Except DecodeError UInt64 :=
  match Numeric.unsigned? field with
  | some n => .ok n
  | none => .error (.notHex what field)

def signedField (what : String) (field : Text) : Except DecodeError Int64 :=
  match Numeric.signed? field with
  | some v => .ok v
  | none => .error (.notHex what field)

/-- Reads an address and a length with one comma between them. -/
def rangeField (field : Text) : Except DecodeError (UInt64 × UInt64) :=
  match field.fields ',' with
  | [address, length] => do
    let address ← unsignedField "address" address
    let length ← unsignedField "length" length
    return (address, length)
  | _ => .error (.notRange field)

def parseReadMemory (rest : Text) : Except DecodeError Command := do
  let (address, length) ← rangeField rest
  if length.toNat ≤ maxReadLength then return readMemory address length
  else throw (.readTooLong length)

def parseWriteRegister (rest : Text) : Except DecodeError Command :=
  match rest.fields '=' with
  | [register, value] => do return writeRegister (← unsignedField "register number" register) value
  | _ => .error (.notAssignment rest)

def parseWriteMemory (rest : Text) : Except DecodeError Command :=
  match rest.fields ':' with
  | [range, data] => do
    let (address, length) ← rangeField range
    return writeMemory address length data
  | _ => .error (.notStore rest)

def parseSelectThread : Text → Except DecodeError Command
  | [] => .error .operationMissing
  | op :: thread => do return selectThread op (← signedField "thread id" thread)

def parseTransfer (rest : Text) : Except DecodeError Command :=
  match rest.fields ':' with
  | [object, mode, annex, range] => do
    let (offset, length) ← rangeField range
    return transfer object mode annex offset length
  | fields => .error (.transferFields fields.length)

/-- What follows a keyword and the separator after it. The separator is one byte: where the next
character takes more, there is nothing to read. -/
def argument : Text → Text
  | [] => []
  | c :: rest => if c.utf8Size = 1 then rest else []

/-- Reads what follows the `q` of a general query. -/
def parseQuery (query : Text) : Except DecodeError Command :=
  if let some rest := "Symbol".toList.isPrefixOf? query then .ok (symbol (argument rest))
  else if let some rest := "Supported".toList.isPrefixOf? query then
    .ok (supported ((Text.fields ';' (argument rest)).filter (! ·.isEmpty)))
  else if query = "fThreadInfo".toList then .ok threadInfoFirst
  else if query = "C".toList then .ok currentThread
  else if let some rest := "Xfer:".toList.isPrefixOf? query then parseTransfer rest
  else .ok (other ('q' :: query))

def parse : Text → Except DecodeError Command
  | ['g'] => .ok readRegisters
  | ['?'] => .ok haltReason
  | 'G' :: data => .ok (writeRegisters data)
  | 'p' :: register => do return readRegister (← unsignedField "register number" register)
  | 'P' :: rest => parseWriteRegister rest
  | 'm' :: rest => parseReadMemory rest
  | 'M' :: rest => parseWriteMemory rest
  | 'H' :: rest => parseSelectThread rest
  | 'q' :: query => parseQuery query
  | packet => .ok (other packet)

end Command

end RemoteStub
