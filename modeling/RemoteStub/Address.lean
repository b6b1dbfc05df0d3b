import RemoteStub.Numeric
import RemoteStub.Io

/-!
# Socket addresses

The literal forms of an address with a port, `a.b.c.d:port` and
`[v6%scope]:port`, how they are read, and the one form in which each is written.
Addresses that are not of that form are read as a host and a port; a host may
still be numeric, and else its name is looked up.
-/

namespace RemoteStub

structure Ipv4 where
  a : UInt8
  b : UInt8
  c : UInt8
  d : UInt8
  deriving DecidableEq, Repr

structure Ipv6 where
  groups : Vector UInt16 8
  deriving DecidableEq, Repr

inductive Ip where
  | v4 (ip : Ipv4)
  | v6 (ip : Ipv6)
  deriving DecidableEq, Repr

inductive SocketAddress where
  | v4 (ip : Ipv4) (port : UInt16)
  | v6 (ip : Ipv6) (scope : UInt32) (port : UInt16)
  deriving DecidableEq, Repr

def decimal (n : Nat) : Text := Nat.toDigits 10 n

/-! ## Writing -/

namespace Ipv4

def octets (ip : Ipv4) : List UInt8 := [ip.a, ip.b, ip.c, ip.d]

def render (ip : Ipv4) : Text := ['.'].intercalate (ip.octets.map fun o => decimal o.toNat)

/-- The two groups that the address fills inside a longer one. -/
def groups (ip : Ipv4) : List UInt16 :=
  [UInt16.ofNat (256 * ip.a.toNat + ip.b.toNat), UInt16.ofNat (256 * ip.c.toNat + ip.d.toNat)]

/-- The address with this 32-bit value. -/
def ofNat (n : Nat) : Ipv4 :=
  ⟨UInt8.ofNat (n >>> 24), UInt8.ofNat (n >>> 16), UInt8.ofNat (n >>> 8), UInt8.ofNat n⟩

end Ipv4

namespace Ipv6

/-- Groups in hexadecimal, with colons between them. -/
def renderGroups (groups : List UInt16) : Text :=
  [':'].intercalate (groups.map fun g => Nat.toDigits 16 g.toNat)

/-- Start and length of the longest run of zero groups, the first of several. -/
def longestZeros (groups : List UInt16) : Nat × Nat :=
  (List.range groups.length).foldl
    (fun best i =>
      let run := ((groups.drop i).takeWhile (· == 0)).length
      if best.2 < run then (i, run) else best)
    (0, 0)

def isUnspecified (ip : Ipv6) : Bool := ip.groups.all (· == 0)

def isMulticast (ip : Ipv6) : Bool := ip.groups[0] ≥ 0xff00

/-- Whether the address means something on one link only. -/
def isLinkLocal (ip : Ipv6) : Bool := ip.groups[0] ≥ 0xfe80 && ip.groups[0] ≤ 0xfebf

/-- The embedded address, where the first 96 bits say that there is one. -/
def mapped? (ip : Ipv6) : Option Ipv4 :=
  match ip.groups.toList with
  | [0, 0, 0, 0, 0, 0xffff, high, low] => some (Ipv4.ofNat (65536 * high.toNat + low.toNat))
  | _ => none

/-- Two colons stand for the longest run of at least two zero groups. -/
def render (ip : Ipv6) : Text :=
  match ip.mapped? with
  | some v4 => "::ffff:".toList ++ v4.render
  | none =>
    let groups := ip.groups.toList
    let (start, run) := longestZeros groups
    if 1 < run then
      renderGroups (groups.take start) ++ "::".toList ++ renderGroups (groups.drop (start + run))
    else renderGroups groups

end Ipv6

def Ip.render : Ip → Text
  | v4 ip => ip.render
  | v6 ip => ip.render

namespace SocketAddress

def ip : SocketAddress → Ip
  | v4 ip _ => .v4 ip
  | v6 ip _ _ => .v6 ip

def port : SocketAddress → UInt16
  | v4 _ port | v6 _ _ port => port

/-- A port on the machine itself. -/
def loopback (port : UInt16) : SocketAddress := .v4 ⟨127, 0, 0, 1⟩ port

def withPort (port : UInt16) : SocketAddress → SocketAddress
  | v4 ip _ => .v4 ip port
  | v6 ip scope _ => .v6 ip scope port

def render : SocketAddress → Text
  | v4 ip port => ip.render ++ ':' :: decimal port.toNat
  | v6 ip scope port =>
    let scope := if scope = 0 then [] else '%' :: decimal scope.toNat
    '[' :: ip.render ++ scope ++ "]:".toList ++ decimal port.toNat

end SocketAddress

/-! ## Reading literals -/

namespace Literal

/-- Reads a part at the front of a text, or nothing. -/
abbrev Reader := StateT Text Option

def char (c : Char) : Reader Unit := fun t =>
  match t with
  | d :: rest => if d = c then some ((), rest) else none
  | [] => none

/-- Reads all the digits there are. They must be at most `most`, if given, without a leading zero
unless `padded`, and their value below `bound`. -/
def number (radix bound : Nat) (most : Option Nat) (padded : Bool) : Reader Nat := fun t =>
  let isDigit c := (Hex.digit? c).any (· < radix)
  let digits := t.takeWhile isDigit
  if most.any (· < digits.length) then none
  else if !padded && 1 < digits.length && digits.head? == some '0' then none
  else (Numeric.naturalBelow? bound radix digits).map fun n => (n, t.dropWhile isDigit)

def ipv4 : Reader Ipv4 := do
  let a ← octet
  char '.'
  let b ← octet
  char '.'
  let c ← octet
  char '.'
  let d ← octet
  return ⟨UInt8.ofNat a, UInt8.ofNat b, UInt8.ofNat c, UInt8.ofNat d⟩
where
  octet : Reader Nat := number 10 256 (some 3) false

/-- Reads up to `room` groups separated by colons, the first after `lead`. Where two or more fit,
they may end in an embedded address; the flag tells whether they do. -/
def groups (lead : Reader Unit) : Nat → Text → (List UInt16 × Bool) × Text
  | 0, t => (([], false), t)
  | room + 1, t =>
    match if room = 0 then none else (lead *> ipv4) t with
    | some (ip, rest) => ((ip.groups, true), rest)
    | none =>
      match (lead *> number 16 65536 (some 4) true) t with
      | some (g, rest) =>
        let ((more, embedded), rest) := groups (char ':') room rest
        ((UInt16.ofNat g :: more, embedded), rest)
      | none => (([], false), t)

def ipv6 : Reader Ipv6 := fun t =>
  let ((front, embedded), rest) := groups (pure ()) 8 t
  if h : front.length = 8 then some (⟨⟨front.toArray, by simpa using h⟩⟩, rest)
  else if embedded then none
  else do
    let (_, rest) ← (char ':' *> char ':') rest
    let ((back, _), rest) := groups (pure ()) (7 - front.length) rest
    let all := front ++ List.replicate (8 - front.length - back.length) 0 ++ back
    if h : all.length = 8 then return (⟨⟨all.toArray, by simpa using h⟩⟩, rest) else none

def scope : Reader UInt32 := do
  char '%'
  return UInt32.ofNat (← number 10 UInt32.size none true)

def port : Reader UInt16 := do
  char ':'
  return UInt16.ofNat (← number 10 UInt16.size none true)

def socketV4 : Reader SocketAddress := do
  let ip ← ipv4
  return .v4 ip (← port)

def socketV6 : Reader SocketAddress := do
  char '['
  let ip ← ipv6
  let scope ← scope <|> pure 0
  char ']'
  return .v6 ip scope (← port)

def whole {α : Type} (r : Reader α) (t : Text) : Option α :=
  match r t with
  | some (a, []) => some a
  | _ => none

/-- Reads a socket address in its literal form. -/
def socket? (t : Text) : Option SocketAddress := whole socketV4 t <|> whole socketV6 t

end Literal

/-! ## Hosts and ports -/

inductive AddressError where
  | noPort
  | badPort
  | nulInHost
  /-- The name could not be looked up. -/
  | unresolved (reason : String)
  deriving DecidableEq, Repr

namespace AddressError

def message : AddressError → String
  | noPort => "invalid socket address"
  | badPort => "invalid port value"
  | nulInHost => "file name contained an unexpected NUL byte"
  | unresolved reason => "failed to lookup address information: " ++ reason

def kind : AddressError → IoKind
  | noPort | badPort | nulInHost => .invalidInput
  | unresolved _ => .uncategorized

def toIoError (e : AddressError) : IoError := .stated e.kind e.message

end AddressError

namespace SocketAddress

/-- A text cut at its last colon. -/
def splitPort (t : Text) : Option (Text × Text) :=
  match (t.fields ':').reverse with
  | [] | [_] => none
  | port :: host => some ([':'].intercalate host.reverse, port)

/-- One part of a numeric host: decimal, octal after `0`, or hexadecimal after `0x`. -/
def hostNumber? : Text → Option Nat
  | '0' :: 'x' :: digits | '0' :: 'X' :: digits => Numeric.natural? 16 digits
  | ['0'] => some 0
  | '0' :: digits => Numeric.natural? 8 digits
  | digits => Numeric.natural? 10 digits

/-- A numeric host of one to four parts. The last part fills the bytes that are left. -/
def hostV4? (host : Text) : Option Ipv4 := do
  let parts ← (host.fields '.').mapM hostNumber?
  let front := parts.dropLast
  let last ← parts.getLast?
  let room := 1 <<< (32 - 8 * front.length)
  if 3 < front.length || front.any (256 ≤ ·) || room ≤ last then none
  else return Ipv4.ofNat (front.foldl (fun n part => 256 * n + part) 0 * room + last)

/-- A host that is an address itself. -/
def ofHost? (host : Text) (port : UInt16) : Option SocketAddress :=
  (hostV4? host).map (.v4 · port) <|>
    Literal.whole (do
      let ip ← Literal.ipv6
      let scope ← Literal.scope <|> pure 0
      return .v6 ip scope port) host

/-- The addresses that a text stands for: a literal for itself, and else a host with a port for the
addresses of the host. A name is looked up, which may yield any number of them. -/
def resolve (lookup : Text → Except String (List SocketAddress)) (t : Text) :
    Except AddressError (List SocketAddress) :=
  match Literal.socket? t with
  | some address => .ok [address]
  | none =>
    match splitPort t with
    | none => .error .noPort
    | some (host, port) =>
      match Numeric.below? UInt16.size 10 port with
      | none => .error .badPort
      | some port =>
        if '\x00' ∈ host then .error .nulInHost
        else match ofHost? host (UInt16.ofNat port) with
          | some address => .ok [address]
          | none =>
            match lookup host with
            | .ok addresses => .ok (addresses.map (withPort (UInt16.ofNat port)))
            | .error reason => .error (.unresolved reason)

end SocketAddress

end RemoteStub
