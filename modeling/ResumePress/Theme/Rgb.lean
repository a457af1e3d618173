import ResumePress.Text.Blank
import ResumePress.Value.Spelling

/-!
# Concrete colors

A concrete color has three channels from 0 to 255. Palettes come from configuration and themes may
answer anything, so a color is checked wherever it enters; a color that passed the check is of a
type that cannot hold anything else.
-/
namespace ResumePress

structure Channel where
  whole : Whole
  nonneg : 0 ≤ whole.amount
  le : whole.amount ≤ 255

namespace Channel

/-- A channel is a whole number in range. -/
def ofValue? (v : Value) : Option Channel :=
  match v.whole? with
  | none => none
  | some w => if h : 0 ≤ w.amount ∧ w.amount ≤ 255 then some ⟨w, h.1, h.2⟩ else none

def hex (c : Channel) : List Char :=
  Text.hexFixed 2 c.whole.amount.toNat

end Channel

structure Rgb where
  red : Channel
  green : Channel
  blue : Channel

namespace Rgb

def toValue (c : Rgb) : Value :=
  .tuple [c.red.whole.toValue, c.green.whole.toValue, c.blue.whole.toValue]

def hex (c : Rgb) : String :=
  String.ofList ('#' :: (c.red.hex ++ c.green.hex ++ c.blue.hex))

def triple? : Value → Option (Value × Value × Value)
  | .list [r, g, b] => some (r, g, b)
  | .tuple [r, g, b] => some (r, g, b)
  | _ => none

/-- Checks what was given for a color. The color asked for and the theme are named in the fault. -/
def check (rgb : Value) (token : Option Color) (theme : Value) : Except Fault Rgb :=
  match triple? rgb with
  | none => Fault.raise (.theme (.notTriple token rgb) theme)
  | some (r, g, b) =>
    match Channel.ofValue? r, Channel.ofValue? g, Channel.ofValue? b with
    | some r, some g, some b => .ok ⟨r, g, b⟩
    | _, _, _ => Fault.raise (.theme (.channelOutOfRange token rgb) theme)

end Rgb

namespace Color

/-- A hyphen in a color's name is read as an underscore. -/
def underscored (s : String) : String :=
  String.ofList (s.toList.map (fun c => if c = '-' then '_' else c))

/-- The spelling under which a color is looked up. -/
def normalized (s : String) : String :=
  underscored (Text.lower (Text.trim s))

/-- The color that a value names: a color itself, or its name in any case and with hyphens. -/
def ofValue? : Value → Except Fault Color
  | .color c => .ok c
  | v => do
    let name ← v.spelled
    match ofToken? (normalized name) with
    | some c => .ok c
    | none => .error (.theme (.unknownColor v) .null)

end Color

/-- The color that a value is, if it is one. -/
def Value.color? : Value → Option Color
  | .color c => some c
  | _ => none

end ResumePress
