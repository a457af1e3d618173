import ResumePress.Text.Escape
import ResumePress.Value.Spelling

/-!
# Values as markup

What becomes of a value when it is put into a page under a policy. A trusted text stands as it is;
everything else is spelled out, and escaped if the policy says so. What has been escaped is trusted
from then on, so no text is escaped twice.
-/
namespace ResumePress

open Text (EscapePolicy)

namespace Value

def escaped : Value → String
  | trusted s => s
  | v => Text.escape v.printed

/-- The characters that a value contributes to a page. -/
def embedded : EscapePolicy → Value → String
  | .verbatim, v => v.printed
  | .escape, v => v.escaped

/-- What a value contributes to a page, if it can be spelled out. -/
def shown (policy : EscapePolicy) (v : Value) : Except Fault String :=
  v.spelled.map fun _ => v.embedded policy

theorem shown_of_isSpellable {v : Value} (h : v.isSpellable = true) (policy : EscapePolicy) :
    v.shown policy = .ok (v.embedded policy) := by
  rw [shown, spelled_of_isSpellable h]
  rfl

/-- What a value contributes in the place of a template. -/
def inPlace (policy : EscapePolicy) (v : Value) : Except Text.TemplateFault String :=
  if v.isSpellable then .ok (v.embedded policy) else .error .unspellable

theorem inPlace_of_isSpellable {v : Value} (h : v.isSpellable = true) (policy : EscapePolicy) :
    v.inPlace policy = .ok (v.embedded policy) := if_pos h

/-- The value under a policy: as it is, or escaped and then trusted. -/
def underPolicy : EscapePolicy → Value → Value
  | .verbatim, v => v
  | .escape, v => trusted v.escaped

/-- A text that is made of trusted markup and embedded values: trusted itself if the values were
escaped. -/
def composed : EscapePolicy → String → Value
  | .verbatim, s => text s
  | .escape, s => trusted s

@[simp] theorem embedded_trusted (policy : EscapePolicy) (s : String) :
    (trusted s).embedded policy = s := by
  cases policy <;> rfl

/-- What came of filling a template, as a value. -/
def ofFilling (wrap : String → Value) : Except Text.TemplateFault String → Except Fault Value
  | .ok s => .ok (wrap s)
  | .error e => .error (.template e)

/-- A template filled with embedded values. A trusted template escapes its arguments under every
policy, and counts its places; a plain one states how they are numbered. -/
def filled (policy : EscapePolicy) (template : Value) (args : List Value) : Except Fault Value :=
  match policy, template with
  | _, trusted s => ofFilling trusted (Text.fill .counted (inPlace .escape) args s)
  | .escape, v => do
    ofFilling trusted (Text.fill .counted (inPlace .escape) args (← v.spelled))
  | .verbatim, v =>
    match v.content? with
    | some s => ofFilling text (Text.fill .stated (inPlace .verbatim) args s)
    | none => .error (.misuse .noPart)

end Value

end ResumePress
