/-!
# Binary floating-point numbers

A number of the binary64 format is kept as data: a sign, a significand below `2 ^ 53` and an
exponent of two not below `-1074`, or one of the values that are no numbers. Rounding is done in
exact integer arithmetic, to the nearest number and in a tie to the even significand.
-/
namespace ResumePress

/-- A binary64 value. A finite one is its sign times `significand * 2 ^ exponent`. -/
inductive Binary64
  | nan
  | infinite (negative : Bool)
  | finite (negative : Bool) (significand : Nat) (exponent : Int)
  deriving DecidableEq, Repr

namespace Binary64

def minExponent : Int := -1074

def maxExponent : Int := 971

/-- The quotient rounded to the nearest natural number, in a tie to the even one. -/
def roundHalfEven (num den : Nat) : Nat :=
  let q := num / den
  let r := num % den
  if 2 * r < den ∨ (2 * r = den ∧ q % 2 = 0) then q else q + 1

/-- The quotient `num / (den * 2 ^ e)` as a fraction of natural numbers. -/
def scaled (num den : Nat) (e : Int) : Nat × Nat :=
  if 0 ≤ e then (num, den * Nat.pow 2 e.toNat) else (num * Nat.pow 2 (-e).toNat, den)

/-- The exponent `e` with `2 ^ e ≤ num / den < 2 ^ (e + 1)`. -/
def binaryLog (num den : Nat) : Int :=
  let guess : Int := (num.log2 : Int) - (den.log2 : Int)
  let (a, b) := scaled num den guess
  if b ≤ a then guess else guess - 1

/-- The number nearest to `num / den`; too large a quotient becomes infinite. -/
def ofRatio (negative : Bool) (num den : Nat) : Binary64 :=
  if num = 0 ∨ den = 0 then .finite negative 0 minExponent
  else
    let exponent := max (binaryLog num den - 52) minExponent
    let (a, b) := scaled num den exponent
    let m := roundHalfEven a b
    let (m, exponent) := if m = Nat.pow 2 53 then (Nat.pow 2 52, exponent + 1) else (m, exponent)
    if exponent > maxExponent then .infinite negative else .finite negative m exponent

/-- The number nearest to `digits * 10 ^ exponent`. Exponents far out of range are not expanded. -/
def ofDecimal (negative : Bool) (digits : Nat) (exponent : Int) : Binary64 :=
  let magnitude : Int := (Nat.toDigits 10 digits).length + exponent
  if digits = 0 ∨ magnitude < -400 then .finite negative 0 minExponent
  else if magnitude > 400 then .infinite negative
  else if 0 ≤ exponent then ofRatio negative (digits * Nat.pow 10 exponent.toNat) 1
  else ofRatio negative digits (Nat.pow 10 (-exponent).toNat)

/-- Zero of either sign; every other value counts as true. -/
def isZero : Binary64 → Bool
  | .finite _ m _ => m == 0
  | _ => false

/-- Equality of numbers: the two zeros are equal and a value that is no number equals nothing. -/
def same : Binary64 → Binary64 → Bool
  | .infinite a, .infinite b => a == b
  | .finite a m p, .finite b n q => (m == 0 && n == 0) || (a == b && m == n && p == q)
  | _, _ => false

def isInt (x : Binary64) (n : Int) : Bool :=
  match x with
  | .finite negative m e =>
    let signed : Int := if negative then -m else m
    if 0 ≤ e then signed * Nat.pow 2 e.toNat == n else signed == n * Nat.pow 2 (-e).toNat
  | _ => false

def negated : Binary64 → Binary64
  | .nan => .nan
  | .infinite negative => .infinite !negative
  | .finite negative m e => .finite (!negative) m e

/-- The size of a finite number as a fraction. -/
def size (m : Nat) (e : Int) : Nat × Nat :=
  scaled m 1 (-e)

/-- The sum of `x` and `k` times `y`, rounded after each of the two operations. Signs are not looked
at, because only digits are added up in this way. -/
def addTimes (x y : Binary64) (k : Nat) : Binary64 :=
  match y with
  | .finite _ m e =>
    let (a, b) := size m e
    match x, ofRatio false (a * k) b with
    | .finite _ n f, .finite _ p g =>
      let (c, d) := size n f
      let (r, s) := size p g
      ofRatio false (c * s + r * d) (d * s)
    | _, _ => .infinite false
  | y => y

end Binary64

end ResumePress
