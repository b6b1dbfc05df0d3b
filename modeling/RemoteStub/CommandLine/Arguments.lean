import RemoteStub.Text

/-!
# Arguments

The grammar of a command line: options with a long name and perhaps a letter,
and operands. Arguments are read from left to right, and the first one that asks
for help or the version, or that does not fit, ends the reading.
-/

namespace RemoteStub.CommandLine

inductive Role where
  | value
  | flag
  | help
  | version
  deriving DecidableEq, Repr

structure OptionSpec where
  letter : Option Char
  name : Text
  role : Role
  deriving DecidableEq, Repr

structure Grammar where
  options : List OptionSpec
  operands : Bool
  deriving DecidableEq, Repr

/-- An argument that was understood. -/
inductive Item where
  | value (name value : Text)
  | flag (name : Text)
  | operand (text : Text)
  deriving DecidableEq, Repr

inductive Ending where
  | complete
  | help
  | version
  | refused
  deriving DecidableEq, Repr

structure Reading where
  items : List Item
  ending : Ending
  deriving DecidableEq, Repr

namespace Reading

def prepend (l : List Item) (r : Reading) : Reading := { r with items := l ++ r.items }

def value? (r : Reading) (name : Text) : Option Text :=
  r.items.findSome? fun i => match i with
    | .value n v => if n = name then some v else none
    | _ => none

def hasFlag (r : Reading) (name : Text) : Bool := r.items.contains (.flag name)

def operands (r : Reading) : List Text :=
  r.items.filterMap fun i => match i with
    | .operand t => some t
    | _ => none

def repeats (r : Reading) : Bool :=
  let names := r.items.filterMap fun i => match i with
    | .value n _ | .flag n => some n
    | .operand _ => none
  !decide names.Nodup

end Reading

/-- What a command line asks for. -/
inductive Invocation (ω : Type) where
  | run (options : ω)
  | help
  | version
  | refused

/-- What a reading asks for. Values that do not fit are refused whatever ends the reading, and
`options` makes the options of a complete one. -/
def Reading.invocation {ω : Type} (r : Reading) (valid : Bool) (options : Option ω) :
    Invocation ω :=
  if r.repeats || !valid then .refused
  else match r.ending, options with
    | .complete, some o => .run o
    | .complete, none | .refused, _ => .refused
    | .help, _ => .help
    | .version, _ => .version

/-- What one argument contributes, and whether the reading goes on after it. -/
inductive Contribution where
  | items (items : List Item)
  /-- The items, then an option whose value is the next argument. -/
  | awaits (items : List Item) (name : Text)
  /-- Only operands follow. -/
  | operandsFollow
  | ends (items : List Item) (ending : Ending)
  deriving DecidableEq, Repr

namespace Contribution

/-- An item before all others. -/
def cons (i : Item) : Contribution → Contribution
  | items l => .items (i :: l)
  | awaits l name => .awaits (i :: l) name
  | operandsFollow => .operandsFollow
  | ends l e => .ends (i :: l) e

end Contribution

namespace Grammar

/-- An argument that starts with two hyphens: a name, perhaps with a value after `=`. -/
def long (g : Grammar) (arg : Text) : Contribution :=
  let name := arg.takeWhile (· ≠ '=')
  let value := arg.dropWhile (· ≠ '=')
  match g.options.find? (·.name = name) with
  | none => .ends [] .refused
  | some spec =>
    match spec.role, value with
    | .value, [] => .awaits [] spec.name
    | .value, _ :: v => .items [.value spec.name v]
    | _, _ :: _ => .ends [] .refused
    | .flag, [] => .items [.flag spec.name]
    | .help, [] => .ends [] .help
    | .version, [] => .ends [] .version

/-- An argument that starts with one hyphen: letters of options, the last one perhaps with a value
after it. -/
def letters (g : Grammar) : Text → Contribution
  | [] => .items []
  | c :: more =>
    match g.options.find? (·.letter = some c) with
    | none => .ends [] .refused
    | some spec =>
      match spec.role with
      | .flag => (letters g more).cons (.flag spec.name)
      | .help => .ends [] .help
      | .version => .ends [] .version
      | .value =>
        match more with
        | [] => .awaits [] spec.name
        | '=' :: v => .items [.value spec.name v]
        | v => .items [.value spec.name v]

def operand (g : Grammar) (arg : Text) : Contribution :=
  if g.operands then .items [.operand arg] else .ends [] .refused

/-- One argument. A hyphen alone is no option, and two alone end the options. -/
def argument (g : Grammar) : Text → Contribution
  | ['-', '-'] => .operandsFollow
  | '-' :: '-' :: rest => g.long rest
  | '-' :: c :: rest => g.letters (c :: rest)
  | arg => g.operand arg

/-- Whether an argument can be the value of the option before it. -/
def isValue : Text → Bool
  | '-' :: _ :: _ => false
  | _ => true

/-- Reads the arguments; `awaiting` names an option whose value is due. -/
def readFrom (g : Grammar) (awaiting : Option Text) : List Text → Reading
  | [] => ⟨[], if awaiting.isSome then .refused else .complete⟩
  | arg :: rest =>
    match awaiting with
    | some name =>
      if isValue arg then (readFrom g none rest).prepend [.value name arg] else ⟨[], .refused⟩
    | none =>
      match g.argument arg with
      | .items l => (readFrom g none rest).prepend l
      | .awaits l name => (readFrom g (some name) rest).prepend l
      | .operandsFollow =>
        if g.operands || rest.isEmpty then ⟨rest.map .operand, .complete⟩ else ⟨[], .refused⟩
      | .ends l e => ⟨l, e⟩

def read (g : Grammar) (args : List Text) : Reading := readFrom g none args

end Grammar

end RemoteStub.CommandLine
