import ResumePress.Proofs.Text.Recoloring
import ResumePress.Proofs.Theme.Configured

/-!
# The notation of colors

A theme may answer anything for a color. What it answers is written down exactly if it is a sequence
of three numbers below 256, and then a reader of hexadecimal notation finds these numbers again, so
that two answers are written alike only if they are one color. Any other answer is a fault of the
theme.
-/
namespace ResumePress

/-! ## Writing and reading -/

theorem Channel.exists_hex_eq (c : Channel) : ∃ high low, c.hex = [high, low] :=
  ⟨_, _, rfl⟩

namespace Rgb

def IsNotation (s : String) : Prop :=
  ∃ digits, s.toList = '#' :: digits ∧ Text.AreColorDigits digits

/-- The numbers that three pairs of hexadecimal digits denote. -/
def read? (s : String) : Option (Nat × Nat × Nat) :=
  match s.toList with
  | ['#', a, b, c, d, e, f] => do
    let red ← Text.hexNumber? [a, b]
    let green ← Text.hexNumber? [c, d]
    let blue ← Text.hexNumber? [e, f]
    return (red, green, blue)
  | _ => none

theorem isNotation_hex (c : Rgb) : IsNotation c.hex :=
  ⟨_, c.toList_hex, Text.areColorDigits_channels c⟩

theorem read?_hex (c : Rgb) : read? c.hex = some c.bytes := by
  have hred := c.red.hexNumber?_hex
  have hgreen := c.green.hexNumber?_hex
  have hblue := c.blue.hexNumber?_hex
  obtain ⟨a, b, hab⟩ := c.red.exists_hex_eq
  obtain ⟨d, e, hde⟩ := c.green.exists_hex_eq
  obtain ⟨f, g, hfg⟩ := c.blue.exists_hex_eq
  rw [hab] at hred
  rw [hde] at hgreen
  rw [hfg] at hblue
  simp [read?, toList_hex, hab, hde, hfg, hred, hgreen, hblue, bytes]

example : read? "#010a00" = some (1, 10, 0) := by decide

end Rgb

namespace Theme

variable {t : Theme} {token v : Value} {s : String} {e : Fault}

section

variable (hrgb : t.rgb token = .ok v)
include hrgb

theorem hex_eq_ok_iff : t.hex token = .ok s ↔ ∃ c : Rgb, c.IsGivenBy v ∧ c.hex = s := by
  rw [hex, hrgb]
  constructor
  · intro h
    dsimp only at h
    split at h
    · cases h
    · next c hcheck =>
      cases h
      exact ⟨c, Rgb.check_eq_ok_iff.mp hcheck, rfl⟩
  · rintro ⟨c, hc, rfl⟩
    simp only [Rgb.check_eq_ok_iff.mpr hc]

theorem tells_of_hex (h : t.hex token = .error e) :
    e.Tells (v.isSpellable = true ∧ t.name.isSpellable = true) := by
  rw [hex, hrgb] at h
  dsimp only at h
  split at h
  · next hcheck =>
    cases h
    exact Rgb.tells_of_check hcheck
  · cases h

theorem exists_hex_iff : (∃ s, t.hex token = .ok s) ↔ ∃ bytes, v.IsTriple bytes := by
  simp only [hex_eq_ok_iff hrgb, Rgb.isTriple_iff]
  constructor
  · rintro ⟨_, c, hc, _⟩
    exact ⟨c.bytes, c, hc, rfl⟩
  · rintro ⟨_, c, hc, _⟩
    exact ⟨c.hex, c, hc, rfl⟩

theorem isNotation_of_hex (h : t.hex token = .ok s) :
    Rgb.IsNotation s ∧ ∃ bytes, v.IsTriple bytes ∧ Rgb.read? s = some bytes := by
  obtain ⟨c, hc, rfl⟩ := (hex_eq_ok_iff hrgb).mp h
  exact ⟨c.isNotation_hex, c.bytes, Rgb.isTriple_iff.mpr ⟨c, hc, rfl⟩, c.read?_hex⟩

theorem exists_bytes_of_hex_eq {t' : Theme} {token' v' : Value} (h : t.hex token = .ok s)
    (hrgb' : t'.rgb token' = .ok v') (h' : t'.hex token' = .ok s) :
    ∃ bytes, v.IsTriple bytes ∧ v'.IsTriple bytes := by
  obtain ⟨-, bytes, hv, hread⟩ := isNotation_of_hex hrgb h
  obtain ⟨-, bytes', hv', hread'⟩ := isNotation_of_hex hrgb' h'
  rw [hread] at hread'
  cases hread'
  exact ⟨bytes, hv, hv'⟩

end

/-- What a theme answers has a notation if and only if it is a color. The notation is read as the
color again, and whatever else has this notation is the same color. What has none is a fault of the
theme, as long as the answer and the name of the theme can be spelled out. -/
theorem hex_faithful (hrgb : t.rgb token = .ok v) :
    ((∃ s, t.hex token = .ok s) ↔ ∃ bytes, v.IsTriple bytes) ∧
      (∀ s, t.hex token = .ok s →
        Rgb.IsNotation s ∧ ∃ bytes, v.IsTriple bytes ∧ Rgb.read? s = some bytes) ∧
      (∀ s (t' : Theme) (token' v' : Value), t.hex token = .ok s → t'.rgb token' = .ok v' →
        t'.hex token' = .ok s → ∃ bytes, v.IsTriple bytes ∧ v'.IsTriple bytes) ∧
      ∀ e, t.hex token = .error e → e.Tells (v.isSpellable = true ∧ t.name.isSpellable = true) :=
  ⟨exists_hex_iff hrgb, fun _ => isNotation_of_hex hrgb,
    fun _ _ _ _ h hrgb' h' => exists_bytes_of_hex_eq hrgb h hrgb' h',
    fun _ => tells_of_hex hrgb⟩

/-! ## Two dim reds -/

def answering (v : Value) : Theme :=
  ⟨.text "answering", fun _ => .ok v, .ok .null, .ok⟩

theorem rgb_answering (v token : Value) : (answering v).rgb token = .ok v :=
  rfl

def dim (red : Value) : Value :=
  .list [red, .int 10, .int 0]

theorem isTriple_dim : (dim (.int 1)).IsTriple (1, 10, 0) :=
  ⟨_, _, _, .list _ _ _, ⟨by decide, .int 1, rfl, rfl⟩, ⟨by decide, .int 10, rfl, rfl⟩,
    ⟨by decide, .int 0, rfl, rfl⟩⟩

theorem not_isTriple_dim_bool (b : Bool) (bytes : Nat × Nat × Nat) :
    ¬ (dim (.bool b)).IsTriple bytes := by
  rintro ⟨_, _, _, ⟨⟩, ⟨-, w, hw, -⟩, -⟩
  cases w <;> cases hw

theorem hex_faithful_dim :
    (∃ s, (answering (dim (.int 1))).hex (.color .red) = .ok s) ∧
      ¬ ∃ s, (answering (dim (.bool true))).hex (.color .red) = .ok s := by
  have hnumber := (hex_faithful (rgb_answering (dim (.int 1)) (.color .red))).1
  have hbool := (hex_faithful (rgb_answering (dim (.bool true)) (.color .red))).1
  refine ⟨hnumber.mpr ⟨_, isTriple_dim⟩, ?_⟩
  rw [hbool, not_exists]
  exact not_isTriple_dim_bool true

theorem not_isTriple_dim_unspelled (bytes : Nat × Nat × Nat) :
    ¬ (dim (.int unspelled)).IsTriple bytes := by
  rintro ⟨_, _, _, ⟨⟩, ⟨hle, w, hw, hn⟩, -⟩
  have hlarge : 255 < unspelled := by decide +kernel
  cases w with
  | int n =>
    cases hw
    have hamount : (unspelled : Int) = bytes.1 := hn
    omega
  | level => cases hw

theorem not_forall_isThemed_of_hex : ¬ ∀ (t : Theme) (token v : Value) (e : Fault),
    t.rgb token = .ok v → t.hex token = .error e → e.IsThemed := by
  intro h
  have hlarge : (dim (.int unspelled)).isSpellable = false := by
    simp [dim, Value.isSpellable, allSpellable]
  cases hhex : (answering (dim (.int unspelled))).hex (.color .red) with
  | ok s =>
    obtain ⟨-, bytes, hbytes, -⟩ := isNotation_of_hex (rgb_answering _ _) hhex
    exact not_isTriple_dim_unspelled bytes hbytes
  | error e =>
    have htells := tells_of_hex (rgb_answering _ _) hhex
    obtain ⟨cause, name, rfl⟩ := h _ _ _ _ (rgb_answering _ _) hhex
    have hmute := htells.eq_unspellable_iff.mpr (by simp [hlarge])
    cases hmute

end Theme

end ResumePress
