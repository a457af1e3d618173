import ResumePress.Fault

/-!
# Spelling values out

What is put on a page, into a message or into a listing is spelled out first, and that fails if
there is a number of too many digits in it. It fails for the wording of a fault as well: then the
fault is lost, and what is reported is that a number cannot be spelled out.
-/
namespace ResumePress

namespace Value

def spelled (v : Value) : Except Fault String :=
  if v.isSpellable then .ok v.printed else .error (.misuse .unspellable)

theorem spelled_of_isSpellable {v : Value} (h : v.isSpellable = true) :
    v.spelled = .ok v.printed := if_pos h

theorem spelled_of_not_isSpellable {v : Value} (h : v.isSpellable = false) :
    v.spelled = .error (.misuse .unspellable) := by
  simp [spelled, h]

theorem toOption_spelled_of_isSpellable {v : Value} (h : v.isSpellable = true) :
    v.spelled.toOption = some v.printed := by
  rw [spelled_of_isSpellable h]
  rfl

@[simp] theorem spelled_text (s : String) : (text s).spelled = .ok s := rfl

theorem spelled_eq_ok_iff {v : Value} {s : String} :
    v.spelled = .ok s ↔ v.isSpellable = true ∧ v.printed = s := by
  cases h : v.isSpellable <;> simp [spelled, h]

theorem spelled_eq_error_iff {v : Value} {e : Fault} :
    v.spelled = .error e ↔ v.isSpellable = false ∧ .misuse .unspellable = e := by
  cases h : v.isSpellable <;> simp [spelled, h]

end Value

/-! ## Faults -/

/-- Whether the wording of a cause can be spelled out. -/
def ThemeCause.isSpellable : ThemeCause → Bool
  | unknownColor name => name.isSpellable
  | notTriple _ rgb => rgb.isSpellable
  | channelOutOfRange _ rgb => rgb.isSpellable
  | _ => true

def NodeCause.isSpellable : NodeCause → Bool
  | notNode v => v.isSpellable
  | percentNotWhole v => v.isSpellable
  | percentOutOfRange v => v.isSpellable
  | radiusNotWhole v => v.isSpellable
  | radiusNegative v => v.isSpellable
  | notColor _ v => v.isSpellable

def EntryCause.isSpellable : EntryCause → Bool
  | unknownProficiency v => v.isSpellable
  | noSubject _ => true
  | badYear year entry => year.isSpellable && entry.isSpellable
  | reversedYears start finish entry =>
    start.isSpellable && finish.isSpellable && entry.isSpellable

def ShapeCause.isSpellable : ShapeCause → Bool
  | notYear _ _ v => v.isSpellable
  | badDegree v => v.isSpellable
  | unknownDegree v => v.isSpellable
  | badSkill v => v.isSpellable
  | badEducation v => v.isSpellable
  | badWork v => v.isSpellable
  | badContact v => v.isSpellable
  | unknownContact fields => allSpellable fields
  | _ => true

namespace Fault

/-- Whether the wording of a fault can be spelled out. -/
def isSpellable : Fault → Bool
  | theme cause name => cause.isSpellable && name.isSpellable
  | unknownTheme name available => name.isSpellable && allSpellable available
  | node cause => cause.isSpellable
  | entry cause => cause.isSpellable
  | shape cause => cause.isSpellable
  | _ => true

/-- What is reported of a fault. -/
def told (e : Fault) : Fault :=
  if e.isSpellable then e else .misuse .unspellable

/-- Fails with what is reported of a fault. -/
def raise {α : Type} (e : Fault) : Except Fault α :=
  .error e.told

variable {α : Type} {e f : Fault}

theorem told_of_isSpellable (h : e.isSpellable = true) : e.told = e := if_pos h

theorem told_of_not_isSpellable (h : e.isSpellable = false) : e.told = .misuse .unspellable := by
  simp [told, h]

@[simp] theorem raise_ne_ok {a : α} : (raise e : Except Fault α) ≠ .ok a := nofun

theorem raise_eq_error_iff : (raise e : Except Fault α) = .error f ↔ e.told = f := by
  simp [raise]

end Fault

end ResumePress
