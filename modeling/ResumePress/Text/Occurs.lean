/-!
# Texts within texts

Whether a text begins with another one or holds it somewhere.
-/
namespace ResumePress.Text

def occursIn (part : List Char) : List Char → Bool
  | [] => part.isEmpty
  | c :: cs => part.isPrefixOf (c :: cs) || occursIn part cs

def beginsWith (opening s : String) : Bool :=
  opening.toList.isPrefixOf s.toList

def holds (part s : String) : Bool :=
  occursIn part.toList s.toList

theorem occursIn_iff {part cs : List Char} : occursIn part cs = true ↔ part <:+: cs := by
  induction cs with
  | nil => rw [occursIn, List.isEmpty_iff, List.infix_nil]
  | cons c cs ih =>
    rw [occursIn, Bool.or_eq_true, List.isPrefixOf_iff_prefix, ih, List.infix_cons_iff]

theorem beginsWith_iff {opening s : String} :
    beginsWith opening s = true ↔ opening.toList <+: s.toList :=
  List.isPrefixOf_iff_prefix

theorem holds_iff {part s : String} : holds part s = true ↔ part.toList <:+: s.toList :=
  occursIn_iff

end ResumePress.Text
