import ResumePress.Text.Occurs
import ResumePress.Theme.Basic
import ResumePress.Value.Equality

/-!
# Palettes

A theme may be given as a table from color names to triples. The table has to be total: several
spellings of a name may occur and the last one counts, but a color that no entry names is a fault.
-/
namespace ResumePress

/-- The entries of a palette, the latest first. -/
abbrev PaletteEntries := List (Color × Rgb)

namespace PaletteEntries

def find? (c : Color) (entries : PaletteEntries) : Option Rgb :=
  entries.lookup c

/-- The colors without an entry, in the order of their declaration. -/
def missing (entries : PaletteEntries) : List Color :=
  Color.all.filter (fun c => (find? c entries).isNone)

theorem isSome_of_missing_eq_nil {entries : PaletteEntries} (h : missing entries = [])
    (c : Color) : (find? c entries).isSome := by
  have hc := List.filter_eq_nil_iff.mp h c (Color.mem_all c)
  simpa [Option.isSome_iff_ne_none] using hc

/-- Reads the entries one after the other in front of those already read. -/
def read (theme : Value) : List (Value × Value) → PaletteEntries → Except Fault PaletteEntries
  | [], done => .ok done
  | (name, rgb) :: rest, done =>
    match Color.ofValue? name with
    | .error e => .error e
    | .ok c =>
      match Rgb.check rgb (some c) theme with
      | .error e => .error e
      | .ok v => read theme rest ((c, v) :: done)

end PaletteEntries

/-- A table with a value for every color. -/
structure Palette where
  entries : PaletteEntries
  total : ∀ c, (PaletteEntries.find? c entries).isSome

namespace Palette

def rgb (p : Palette) (c : Color) : Rgb :=
  (PaletteEntries.find? c p.entries).get (p.total c)

/-- The palette of a mapping; `theme` is named in the faults. -/
def ofEntries (theme : Value) (given : List (Value × Value)) : Except Fault Palette :=
  match PaletteEntries.read theme given [] with
  | .error e => .error e
  | .ok entries =>
    if h : PaletteEntries.missing entries = [] then
      .ok ⟨entries, PaletteEntries.isSome_of_missing_eq_nil h⟩
    else Fault.raise (.theme (.missingColors (PaletteEntries.missing entries)) theme)

def ofValue (theme : Value) : Value → Except Fault Palette
  | .mapping entries => ofEntries theme entries
  | _ => .error (.misuse .notPalette)

end Palette

structure PaletteTheme where
  name : Value
  palette : Palette
  css : Value

namespace PaletteTheme

/-- The style sheet, which is the usual one if the theme does not bring its own. -/
def sheet (t : PaletteTheme) : Value :=
  match t.css with
  | .null => .text Theme.defaultCss
  | css => css

/-- The theme of a palette. It knows a color by any spelling of its name. -/
def toTheme (t : PaletteTheme) : Theme where
  name := t.name
  rgb v := match Color.ofValue? v with
    | .error e => .error e
    | .ok c => .ok (t.palette.rgb c).toValue
  css := .ok t.sheet
  card := Theme.defaultCard

def literal (t : PaletteTheme) : String :=
  "PaletteTheme(name=" ++ t.name.literal ++ ")"

def make (name palette css : Value) : Except Fault PaletteTheme :=
  match Palette.ofValue name palette with
  | .error e => .error e
  | .ok p => .ok ⟨name, p, css⟩

/-- Builds a theme from its configuration: a mapping with a palette and perhaps a style sheet. -/
def ofConfig (name config : Value) : Except Fault PaletteTheme :=
  let without : Except Fault PaletteTheme := Fault.raise (.theme .noPalette name)
  match config with
  | .mapping entries =>
    match Value.field? "palette" entries with
    | none => without
    | some .null => without
    | some palette => make name palette ((Value.field? "document_css" entries).getD .null)
  | .list items => if items.any (Value.same (.text "palette")) then
      .error (.misuse .notTheme) else without
  | .tuple items => if items.any (Value.same (.text "palette")) then
      .error (.misuse .notTheme) else without
  | v => match v.content? with
    | some s => if Text.holds "palette" s then .error (.misuse .notTheme) else without
    | none => .error (.misuse .notTheme)

end PaletteTheme

end ResumePress
