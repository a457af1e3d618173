/-!
# Placement

Where a child stands in the space that it is given, and from where a part of a page appears.
-/
namespace ResumePress

/-- Placement along a line. -/
inductive HorizontalAlignment
  | left | right | center | inherit
  deriving DecidableEq, Repr

/-- Placement across lines. -/
inductive VerticalAlignment
  | top | bottom | center | inherit
  deriving DecidableEq, Repr

/-- The direction of an entrance. -/
inductive Direction
  | left | right | up | down
  deriving DecidableEq, Repr

namespace HorizontalAlignment

def token : HorizontalAlignment → String
  | left => "left"
  | right => "right"
  | center => "center"
  | inherit => "inherit"

def all : List HorizontalAlignment := [left, right, center, inherit]

def ofToken? (s : String) : Option HorizontalAlignment :=
  all.find? (fun h => h.token == s)

theorem ofToken?_token (h : HorizontalAlignment) : ofToken? h.token = some h := by
  cases h <;> decide

theorem ofToken?_eq_some_iff {s : String} {h : HorizontalAlignment} :
    ofToken? s = some h ↔ s = h.token := by
  constructor
  · intro hs
    have hmatch := List.find?_some hs
    exact (beq_iff_eq.mp hmatch).symm
  · rintro rfl
    exact ofToken?_token h

end HorizontalAlignment

namespace VerticalAlignment

def token : VerticalAlignment → String
  | top => "top"
  | bottom => "bottom"
  | center => "center"
  | inherit => "inherit"

def all : List VerticalAlignment := [top, bottom, center, inherit]

def ofToken? (s : String) : Option VerticalAlignment :=
  all.find? (fun v => v.token == s)

theorem ofToken?_token (v : VerticalAlignment) : ofToken? v.token = some v := by
  cases v <;> decide

theorem ofToken?_eq_some_iff {s : String} {v : VerticalAlignment} :
    ofToken? s = some v ↔ s = v.token := by
  constructor
  · intro hs
    have hmatch := List.find?_some hs
    exact (beq_iff_eq.mp hmatch).symm
  · rintro rfl
    exact ofToken?_token v

end VerticalAlignment

namespace Direction

def token : Direction → String
  | left => "left"
  | right => "right"
  | up => "up"
  | down => "down"

def all : List Direction := [left, right, up, down]

end Direction

end ResumePress
