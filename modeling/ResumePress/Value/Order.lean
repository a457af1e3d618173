import ResumePress.Value.Equality

/-!
# Order of values

Numbers are ordered among themselves and texts by code points among themselves. Between other
values, and between a number and a text, there is no order, so a mixture cannot be sorted.
-/
namespace ResumePress

namespace Binary64

/-- Whether `x` is below `y`. A value that is no number is neither below nor above another. -/
def lt : Binary64 → Binary64 → Bool
  | .nan, _ => false
  | _, .nan => false
  | .infinite a, .infinite b => a && !b
  | .infinite a, _ => a
  | _, .infinite b => !b
  | .finite a m p, .finite b n q =>
    let low := min p q
    let x : Int := (if a then -(m : Int) else m) * Nat.pow 2 (p - low).toNat
    let y : Int := (if b then -(n : Int) else n) * Nat.pow 2 (q - low).toNat
    x < y

def ofIntExact (n : Int) : Binary64 :=
  .finite (n < 0) n.natAbs 0

end Binary64

namespace Value

inductive OrderKey
  | number (x : Binary64)
  | text (cs : List Char)

def orderKey? : Value → Option OrderKey
  | float x => some (.number x)
  | v => match v.number? with
    | some n => some (.number (.ofIntExact n))
    | none => v.content?.map (fun s => .text s.toList)

/-- Whether one key is below another; keys of two kinds are not compared. -/
def OrderKey.lt : OrderKey → OrderKey → Bool
  | .number x, .number y => x.lt y
  | .text a, .text b => a < b
  | _, _ => false

def OrderKey.isText : OrderKey → Bool
  | .text _ => true
  | .number _ => false

/-- Whether there is an order on all the values. A single value needs none. -/
def sortable (vs : List Value) : Bool :=
  vs.length ≤ 1 ||
    vs.all (fun v => (v.orderKey?.map (fun k => !k.isText)).getD false) ||
    vs.all (fun v => (v.orderKey?.map OrderKey.isText).getD false)

/-- Whether `a` may stand before `b` in a sorted list. -/
def notAfter (a b : Value) : Bool :=
  match a.orderKey?, b.orderKey? with
  | some j, some k => !k.lt j
  | _, _ => true

/-- The values in ascending order, equal ones as they came; `none` if they have no order. -/
def sorted? (vs : List Value) : Option (List Value) :=
  if sortable vs then some (vs.mergeSort notAfter) else none

end Value

end ResumePress
