import RemoteStub.Text

/-!
# Outcomes

What a program leaves behind: its exit code and its two outputs.
-/

namespace RemoteStub.CommandLine

structure Outcome where
  exit : Nat := 0
  stdout : Text := []
  stderr : Text := []
  deriving DecidableEq, Repr

def version : String := "0.1.0"

/-- The outcome of arguments that do not fit. -/
def usageError (usage : Text) : Outcome := { exit := 2, stderr := usage }

def line (t : Text) : Text := t ++ ['\n']

/-- The outcome of a program that could not do its work. -/
def failure (stdout : Text) (message : String) : Outcome :=
  { exit := 1, stdout, stderr := line message.toList }

end RemoteStub.CommandLine
