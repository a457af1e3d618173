import ResumePress.Text.Occurs
import ResumePress.Value.Equality
import ResumePress.Value.Spelling

/-!
# Provenance

The lines at the head of a session's log that say what produced it: the program with its version and
whatever the session adds, between two rules. An addition under a key that is there replaces it.
Lines about the machine, which change from run to run, are left out.
-/
namespace ResumePress.Provenance

def rule : String :=
  String.ofList (List.replicate 60 '-')

/-- What every session is marked with. -/
def standard : List (Value × Value) :=
  [(.text "vitae", .text "0.1.0")]

def machineKeys : List String :=
  ["Command", "Working directory", "Python"]

def isMachineLine (line : String) : Bool :=
  machineKeys.any (fun k => Text.beginsWith (k ++ ": ") line)

def line (entry : Value × Value) : String :=
  entry.1.printed ++ ": " ++ entry.2.printed

/-- The lines for a session with additional entries. -/
def linesOf (extra : List (Value × Value)) : List String :=
  let entries := extra.foldl (fun es e => Value.put e.1 e.2 es) standard
  rule :: (entries.map line).filter (fun l => !isMachineLine l) ++ [rule]

/-- The lines for a session whose additional entries are given as a value, if there are any. -/
def lines (extra : Value) : Except Fault (List String) :=
  if extra.truthy then
    match extra with
    | .mapping entries =>
      if entriesSpellable entries then .ok (linesOf entries) else .error (.misuse .unspellable)
    | _ => .error (.misuse .wrongKind)
  else .ok (linesOf [])

end ResumePress.Provenance
