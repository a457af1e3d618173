import ResumePress.Theme.Palette
import ResumePress.Theme.Shipped
import ResumePress.Value.Order

/-!
# Catalogs of themes

A themes file maps names to theme configurations. A name is a key like any other, so names of
different kinds may stand side by side, but then there is no order to list them in.
-/
namespace ResumePress

structure Catalog where
  entries : List (Value × Value)

namespace Catalog

def shipped : Catalog := ⟨Shipped.configs⟩

def names (c : Catalog) : List Value :=
  c.entries.map Prod.fst

def available (c : Catalog) : Except Fault (List Value) :=
  match Value.sorted? c.names with
  | some names => .ok names
  | none => .error (.misuse .noOrder)

/-- The theme of a name, which a fault lists the available names for. -/
def theme (c : Catalog) (name : Value) : Except Fault PaletteTheme :=
  match Value.find? name c.entries with
  | some config => PaletteTheme.ofConfig name config
  | none =>
    match c.available with
    | .ok names => Fault.raise (.unknownTheme name names)
    | .error e => .error e

theorem theme_of_find? {c : Catalog} {name config : Value}
    (h : Value.find? name c.entries = some config) :
    c.theme name = PaletteTheme.ofConfig name config := by
  rw [theme, h]

end Catalog

end ResumePress
