import ResumePress.Number.Binary64

/-!
# The shortest decimal of a number

A finite number is written with the fewest decimal digits that read back to it, and of those with
the digits nearest to it. The reals that round to a number form an interval, which holds its ends
exactly if the significand is even. For one digit, two digits and so on the two neighbours of the
number on that decimal grid are tested against the interval, in exact integer arithmetic.
-/
namespace ResumePress

structure Decimal where
  digits : Nat
  exponent : Int
  deriving DecidableEq, Repr

namespace Decimal

/-- A positive number and the ends of the interval that rounds to it, over one denominator. -/
structure Interval where
  low : Nat
  middle : Nat
  high : Nat
  denominator : Nat
  closed : Bool

/-- The interval of reals that round to `m * 2 ^ e`; below a power of two it is narrower. -/
def Interval.around (m : Nat) (e : Int) : Interval :=
  let below := if m = Nat.pow 2 52 ∧ e > Binary64.minExponent then 1 else 2
  let shift := e - 2
  let num := if 0 ≤ shift then Nat.pow 2 shift.toNat else 1
  let den := if 0 ≤ shift then 1 else Nat.pow 2 (-shift).toNat
  ⟨(4 * m - below) * num, 4 * m * num, (4 * m + 2) * num, den, m % 2 == 0⟩

/-- The interval in units of `10 ^ grid`. -/
def Interval.inUnits (i : Interval) (grid : Int) : Interval :=
  if 0 ≤ grid then { i with denominator := i.denominator * Nat.pow 10 grid.toNat }
  else
    let s := Nat.pow 10 (-grid).toNat
    { i with low := i.low * s, middle := i.middle * s, high := i.high * s }

def Interval.contains (i : Interval) (n : Nat) : Bool :=
  let x := n * i.denominator
  if i.closed then i.low ≤ x && x ≤ i.high else i.low < x && x < i.high

/-- The least `k` with `middle / denominator < 10 ^ k`, found from a near guess. -/
def Interval.point (i : Interval) : Int :=
  let guess := (Binary64.binaryLog i.middle i.denominator * 30103) / 100000 + 1
  let u := i.inUnits guess
  if u.denominator ≤ u.middle then guess + 1
  else
    let l := i.inUnits (guess - 1)
    if l.middle < l.denominator then guess - 1 else guess

/-- The neighbour of the middle on the grid that lies in the interval, the nearer one of two. -/
def Interval.onGrid (i : Interval) (grid : Int) : Option Decimal :=
  let u := i.inUnits grid
  let n := u.middle / u.denominator
  let r := u.middle % u.denominator
  match u.contains n, u.contains (n + 1) with
  | true, true =>
    if 2 * r < u.denominator ∨ (2 * r = u.denominator ∧ n % 2 = 0) then some ⟨n, grid⟩
    else some ⟨n + 1, grid⟩
  | true, false => some ⟨n, grid⟩
  | false, true => some ⟨n + 1, grid⟩
  | false, false => none

/-- The first grid with a hit, from `point - used` digits on; seventeen digits always hit. -/
def Interval.search (i : Interval) (point : Int) : Nat → Nat → Decimal
  | _, 0 => ⟨i.middle / i.denominator, 0⟩
  | used, left + 1 =>
    match i.onGrid (point - used) with
    | some d => d
    | none => i.search point (used + 1) left

/-- The shortest decimal that reads back to the positive number `m * 2 ^ e`. -/
def shortest (m : Nat) (e : Int) : Decimal :=
  let i := Interval.around m e
  i.search i.point 1 17

end Decimal

/-- A number in positional notation while its first digit stands between the fourth place after the
point and the sixteenth before it, otherwise with an exponent of at least two digits. -/
def Decimal.layout (d : Decimal) : String :=
  let all := Nat.toDigits 10 d.digits
  let digits := (all.reverse.dropWhile (· = '0')).reverse
  let point : Int := all.length + d.exponent
  let count : Int := digits.length
  if -4 < point ∧ point ≤ 16 then
    if point ≤ 0 then
      String.ofList ('0' :: '.' :: List.replicate (-point).toNat '0' ++ digits)
    else if count ≤ point then
      String.ofList (digits ++ List.replicate (point - count).toNat '0' ++ ['.', '0'])
    else
      String.ofList (digits.take point.toNat ++ '.' :: digits.drop point.toNat)
  else
    let exponent := point - 1
    let fraction := match digits.drop 1 with
      | [] => []
      | rest => '.' :: rest
    let shown := Nat.toDigits 10 exponent.natAbs
    let padded := if shown.length < 2 then '0' :: shown else shown
    String.ofList (digits.take 1 ++ fraction ++ ['e', if exponent < 0 then '-' else '+'] ++ padded)

def Binary64.shown : Binary64 → String
  | .nan => "nan"
  | .infinite negative => if negative then "-inf" else "inf"
  | .finite negative m e =>
    let magnitude := if m = 0 then "0.0" else (Decimal.shortest m e).layout
    if negative then "-" ++ magnitude else magnitude

end ResumePress
