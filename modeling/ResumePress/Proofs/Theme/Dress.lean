import Mathlib.Tactic.SplitIfs
import ResumePress.Theme.Palette

/-!
# What a theme puts on a page

A page shows of its theme the style sheet, the colors in hexadecimal notation, and what stands
around the contents of a card. Themes are free to refuse any of them and to treat a card as they
like; the theme of a palette does neither, and two of its colors have one notation only if they are
one triple. Its name and its style sheet are whatever the configuration gave, so they may be numbers
that cannot be spelled out.
-/
namespace ResumePress

namespace Text

def hexDigits : List Char :=
  ['0', '1', '2', '3', '4', '5', '6', '7', '8', '9', 'a', 'b', 'c', 'd', 'e', 'f']

theorem mem_hexFixed {w n : Nat} {c : Char} (h : c ∈ hexFixed w n) : c ∈ hexDigits := by
  induction w generalizing n with
  | zero => simp [hexFixed] at h
  | succ w ih =>
    rw [hexFixed, List.mem_append, List.mem_singleton] at h
    rcases h with h | rfl
    · exact ih h
    · have all : ∀ d ∈ List.range 16, hexDigit d ∈ hexDigits := by decide
      exact all _ (List.mem_range.mpr (Nat.mod_lt n (by decide)))

/-- The number that a run of hexadecimal digits denotes. -/
def hexNumber? (cs : List Char) : Option Nat :=
  cs.foldlM (fun n c => (hexValue? c).map (16 * n + ·)) 0

theorem hexNumber?_append_hexDigit {cs : List Char} {n d : Nat} (h : hexNumber? cs = some n)
    (hd : d < 16) : hexNumber? (cs ++ [hexDigit d]) = some (16 * n + d) := by
  rw [hexNumber?] at h
  simp [hexNumber?, h, hexValue?_hexDigit hd]

theorem hexNumber?_hexFixed {w n : Nat} (h : n < Nat.pow 16 w) :
    hexNumber? (hexFixed w n) = some n := by
  induction w generalizing n with
  | zero =>
    rw [Nat.lt_one_iff.mp h]
    rfl
  | succ w ih =>
    have hhigh : n / 16 < Nat.pow 16 w := Nat.div_lt_of_lt_mul (Nat.mul_comm _ _ ▸ h)
    rw [hexFixed, hexNumber?_append_hexDigit (ih hhigh) (Nat.mod_lt n (by decide)),
      Nat.div_add_mod]

end Text

namespace Channel

theorem ofValue?_toValue (c : Channel) : ofValue? c.whole.toValue = some c := by
  rw [ofValue?, Value.whole?_toValue]
  exact dif_pos ⟨c.nonneg, c.le⟩

def byte (c : Channel) : Nat :=
  c.whole.amount.toNat

theorem byte_le (c : Channel) : c.byte ≤ 255 := by
  have h := c.le
  rw [byte]
  omega

theorem amount_eq_byte (c : Channel) : c.whole.amount = c.byte := by
  have h := c.nonneg
  rw [byte]
  omega

theorem hexNumber?_hex (c : Channel) : Text.hexNumber? c.hex = some c.byte :=
  Text.hexNumber?_hexFixed (Nat.lt_succ_of_le c.byte_le)

theorem amount_eq_of_hex_eq {c d : Channel} (h : c.hex = d.hex) :
    c.whole.amount = d.whole.amount := by
  have hread := c.hexNumber?_hex
  rw [h, d.hexNumber?_hex] at hread
  rw [c.amount_eq_byte, d.amount_eq_byte, Option.some.inj hread]

end Channel

namespace Rgb

def channels (c : Rgb) : Int × Int × Int :=
  (c.red.whole.amount, c.green.whole.amount, c.blue.whole.amount)

theorem check_toValue (c : Rgb) (token : Option Color) (theme : Value) :
    check c.toValue token theme = .ok c := by
  simp [check, toValue, triple?, Channel.ofValue?_toValue]

def dark : Rgb :=
  let off : Channel := ⟨.int 0, by decide, by decide⟩
  ⟨off, off, off⟩

theorem toList_hex (c : Rgb) : c.hex.toList = '#' :: (c.red.hex ++ c.green.hex ++ c.blue.hex) := by
  simp [hex]

/-- The characters in the notation of colors. None of them means anything to markup or to a style
rule. -/
def alphabet : List Char :=
  '#' :: Text.hexDigits

theorem mem_hex {c : Rgb} {x : Char} (h : x ∈ c.hex.toList) : x ∈ alphabet := by
  rw [toList_hex, List.mem_cons, List.mem_append, List.mem_append] at h
  rcases h with rfl | (h | h) | h
  · exact List.mem_cons_self
  all_goals exact List.mem_cons_of_mem _ (Text.mem_hexFixed h)

theorem hex_eq_iff {c d : Rgb} : c.hex = d.hex ↔ c.channels = d.channels := by
  constructor
  · intro h
    have hl := congrArg String.toList h
    rw [toList_hex, toList_hex] at hl
    obtain ⟨hrg, hb⟩ := List.append_inj (List.cons.inj hl).2 (by simp [Channel.hex])
    obtain ⟨hr, hg⟩ := List.append_inj hrg (by simp [Channel.hex])
    rw [channels, channels, Channel.amount_eq_of_hex_eq hr, Channel.amount_eq_of_hex_eq hg,
      Channel.amount_eq_of_hex_eq hb]
  · intro h
    simp only [channels, Prod.mk.injEq] at h
    simp only [hex, Channel.hex, h.1, h.2.1, h.2.2]

end Rgb

/-- What a page shows of a theme that answers every color and puts a card between two strings. -/
structure Dress where
  name : Value
  css : Except Fault Value
  hex : Color → String
  cardOpening : String
  cardClosing : String

/-- The style sheet as it stands on a page, where there is one. -/
def Dress.sheet (d : Dress) : String :=
  match d.css with
  | .ok css => css.printed
  | .error _ => ""

/-- The theme shows itself on a page in this way and in no other. -/
structure Theme.Wears (t : Theme) (d : Dress) : Prop where
  name : t.name = d.name
  css : t.css = d.css
  hex : ∀ c, t.hex (.color c) = .ok (d.hex c)
  card : ∀ s, t.card s = .ok (d.cardOpening ++ s ++ d.cardClosing)

/-- The style sheet of a theme that does not bring its own has no angle brackets. -/
theorem Theme.notMem_defaultCss {c : Char} (hc : c = '<' ∨ c = '>') :
    c ∉ Theme.defaultCss.toList := by
  have literal : ∀ {l : List Char}, c ∉ l → c ∉ (String.ofList l).toList := by
    intro l hl
    rwa [String.toList_ofList]
  unfold Theme.defaultCss
  rw [String.toList_append, List.mem_append, not_or]
  rcases hc with rfl | rfl
  · exact ⟨literal (by decide), literal (by decide)⟩
  · exact ⟨literal (by decide), literal (by decide)⟩

namespace PaletteTheme

def dress (t : PaletteTheme) : Dress where
  name := t.name
  css := .ok t.sheet
  hex c := (t.palette.rgb c).hex
  cardOpening := Theme.cardOpening
  cardClosing := Theme.cardClosing

def monochrome (c : Rgb) : PaletteTheme where
  name := .text "monochrome"
  palette := ⟨Color.all.map fun k => (k, c), by intro k; cases k <;> rfl⟩
  css := .null

structure IsSpellable (t : PaletteTheme) : Prop where
  name : t.name.isSpellable = true
  sheet : t.sheet.isSpellable = true

theorem isSpellable_monochrome (c : Rgb) : (monochrome c).IsSpellable :=
  ⟨rfl, rfl⟩

theorem hex_color (t : PaletteTheme) (c : Color) :
    t.toTheme.hex (.color c) = .ok (t.palette.rgb c).hex := by
  have hr : t.toTheme.rgb (.color c) = .ok (t.palette.rgb c).toValue := rfl
  rw [Theme.hex, hr]
  dsimp only
  rw [Rgb.check_toValue]

theorem wears_dress (t : PaletteTheme) : t.toTheme.Wears t.dress where
  name := rfl
  css := rfl
  hex := t.hex_color
  card _ := rfl

end PaletteTheme

end ResumePress
