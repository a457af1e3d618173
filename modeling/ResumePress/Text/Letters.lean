/-!
# Small and capital letters

Names of colors, degrees and skill levels are compared without regard to case. They consist of
ASCII letters, so the two maps below are exact on every character whose other form is made of
ASCII letters, and keep every other character as it is: the Kelvin sign is a `k`, the long s and
the st ligatures are capitalised to `S` and `ST`, and no further character can ever match.
-/
namespace ResumePress.Text

def small (c : Char) : Char :=
  if 'A' ≤ c ∧ c ≤ 'Z' then Char.ofNat (c.toNat + 32)
  else if c = '\u212A' then 'k'
  else c

/-- The capital form of a letter, which may take several characters. -/
def capital (c : Char) : List Char :=
  if 'a' ≤ c ∧ c ≤ 'z' then [Char.ofNat (c.toNat - 32)]
  else match c with
    | '\u017F' => ['S']
    | '\u0131' => ['I']
    | '\u00DF' => ['S', 'S']
    | '\uFB00' => ['F', 'F']
    | '\uFB01' => ['F', 'I']
    | '\uFB02' => ['F', 'L']
    | '\uFB03' => ['F', 'F', 'I']
    | '\uFB04' => ['F', 'F', 'L']
    | '\uFB05' => ['S', 'T']
    | '\uFB06' => ['S', 'T']
    | _ => [c]

def lower (s : String) : String :=
  String.ofList (s.toList.map small)

def upper (s : String) : String :=
  String.ofList (s.toList.flatMap capital)

@[simp] theorem toList_lower (s : String) : (lower s).toList = s.toList.map small := by
  simp [lower]

@[simp] theorem toList_upper (s : String) : (upper s).toList = s.toList.flatMap capital := by
  simp [upper]

end ResumePress.Text
