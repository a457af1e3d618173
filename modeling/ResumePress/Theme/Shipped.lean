import ResumePress.Value.Basic

/-!
# Shipped themes

The themes that are there when no themes file is named, in the order in which they are listed.
-/
namespace ResumePress.Shipped

structure Row where
  color : Color
  red : Nat
  green : Nat
  blue : Nat

/-- A row as a configuration states it. -/
def Row.entry (r : Row) : Value × Value :=
  (.text r.color.token, .list [.int r.red, .int r.green, .int r.blue])

def standard : List Row :=
  [⟨.black, 0, 0, 0⟩,
   ⟨.defaultForeground, 0, 0, 0⟩,
   ⟨.white, 255, 255, 255⟩,
   ⟨.defaultBackground, 255, 255, 255⟩,
   ⟨.red, 255, 0, 0⟩,
   ⟨.green, 0, 255, 0⟩,
   ⟨.blue, 0, 0, 255⟩,
   ⟨.defaultSectionTitle, 0, 0, 255⟩,
   ⟨.yellow, 255, 255, 0⟩,
   ⟨.orange, 255, 165, 0⟩,
   ⟨.pink, 255, 192, 203⟩,
   ⟨.defaultSubtitle, 255, 0, 255⟩,
   ⟨.grey, 128, 128, 128⟩,
   ⟨.violet, 127, 0, 255⟩,
   ⟨.defaultTitle, 127, 0, 255⟩,
   ⟨.brown, 165, 42, 42⟩]

def dracula : List Row :=
  [⟨.black, 40, 42, 54⟩,
   ⟨.defaultBackground, 40, 42, 54⟩,
   ⟨.white, 248, 248, 242⟩,
   ⟨.defaultForeground, 248, 248, 242⟩,
   ⟨.red, 255, 85, 85⟩,
   ⟨.orange, 255, 184, 108⟩,
   ⟨.yellow, 241, 250, 140⟩,
   ⟨.green, 80, 250, 123⟩,
   ⟨.blue, 139, 233, 253⟩,
   ⟨.defaultSectionTitle, 139, 233, 253⟩,
   ⟨.violet, 189, 147, 249⟩,
   ⟨.defaultTitle, 189, 147, 249⟩,
   ⟨.grey, 68, 71, 90⟩,
   ⟨.pink, 255, 121, 198⟩,
   ⟨.defaultSubtitle, 255, 121, 198⟩,
   ⟨.brown, 165, 42, 42⟩]

def forest : List Row :=
  [⟨.black, 40, 42, 54⟩,
   ⟨.white, 237, 245, 225⟩,
   ⟨.defaultForeground, 237, 245, 225⟩,
   ⟨.red, 255, 85, 85⟩,
   ⟨.orange, 255, 184, 108⟩,
   ⟨.yellow, 241, 250, 140⟩,
   ⟨.green, 80, 250, 123⟩,
   ⟨.defaultSectionTitle, 55, 150, 131⟩,
   ⟨.blue, 5, 56, 107⟩,
   ⟨.defaultBackground, 5, 56, 107⟩,
   ⟨.defaultTitle, 142, 228, 175⟩,
   ⟨.violet, 189, 147, 249⟩,
   ⟨.grey, 68, 71, 90⟩,
   ⟨.defaultSubtitle, 219, 92, 162⟩,
   ⟨.pink, 255, 121, 198⟩,
   ⟨.brown, 165, 42, 42⟩]

def theme (rows : List Row) : Value :=
  .mapping [(.text "palette", .mapping (rows.map Row.entry))]

def configs : List (Value × Value) :=
  [(.text "default", theme standard),
   (.text "dracula", theme dracula),
   (.text "forest", theme forest)]

end ResumePress.Shipped
