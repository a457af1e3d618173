import ResumePress.Config.Resolve
import ResumePress.Text.Lines
import ResumePress.Yaml.Plain

/-!
# Configurations from text

A configuration is a mapping or a list. A text without a document is an empty mapping, and a
document that is a single text is read once more. Keys are not empty, and every reference is well
formed, whether it leads anywhere or not.
-/
namespace ResumePress.Config

mutual

/-- Looks for empty keys and unreadable references. -/
def check : Value → Except ConfigFault Unit
  | .text s => if refers s && !isAccepted s then .error .badReference else .ok ()
  | .list items => checkItems items
  | .mapping entries => checkEntries entries
  | _ => .ok ()

def checkItems : List Value → Except ConfigFault Unit
  | [] => .ok ()
  | v :: vs =>
    match check v with
    | .error e => .error e
    | .ok () => checkItems vs

def checkEntries : List (Value × Value) → Except ConfigFault Unit
  | [] => .ok ()
  | (.null, _) :: _ => .error .nullKey
  | (_, v) :: es =>
    match check v with
    | .error e => .error e
    | .ok () => checkEntries es

end

def empty : Value := .mapping []

/-- The configuration in a text that was itself the only contents of a document. -/
def ofInnerText (s : String) : Except ConfigFault Value := do
  match ← Yaml.value? s.toList with
  | none => .ok empty
  | some .null => .ok empty
  | some (.text s) => .ok (.mapping [(.text s, .null)])
  | some (.list items) => .ok (.list items)
  | some (.mapping entries) => .ok (.mapping entries)
  | some _ => .error .textOfScalar

def ofText (s : String) : Except ConfigFault Value := do
  let v ← match ← Yaml.value? (Text.unifyLineEnds s.toList) with
    | none => .ok empty
    | some .null => .ok empty
    | some (.text s) => ofInnerText s
    | some (.list items) => .ok (.list items)
    | some (.mapping entries) => .ok (.mapping entries)
    | some _ => .error .singleScalar
  check v
  .ok v

end ResumePress.Config
