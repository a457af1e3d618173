import ResumePress.Number.Binary64

/-!
# Numbers read from text

Decimal notation: digits with an optional point and an optional exponent of ten. The reader works
on the characters and rounds once, at the end.
-/
namespace ResumePress.Number

def digitRun (cs : List Char) : List Char × List Char :=
  (cs.takeWhile Char.isDigit, cs.dropWhile Char.isDigit)

/-- The number that digits of the given base denote, most significant first. -/
def ofDigits (base : Nat) (digits : List Nat) : Nat :=
  digits.foldl (fun n d => base * n + d) 0

def ofDecimalDigits (cs : List Char) : Nat :=
  ofDigits 10 (cs.map (fun c => c.toNat - 48))

/-- Splits a leading sign off; `true` for a minus. -/
def signed : List Char → Bool × List Char
  | '-' :: cs => (true, cs)
  | '+' :: cs => (false, cs)
  | cs => (false, cs)

/-- An exponent of ten, `none` if the text is no exponent and not empty. -/
def exponent? : List Char → Option Int
  | [] => some 0
  | c :: cs =>
    if c = 'e' ∨ c = 'E' then
      let (negative, digits) := signed cs
      if digits.isEmpty || !digits.all Char.isDigit then none
      else
        let n : Int := ofDecimalDigits digits
        some (if negative then -n else n)
    else none

/-- Digits with a point and an exponent, both optional, at least one digit before the exponent. -/
def decimal? (negative : Bool) (cs : List Char) : Option Binary64 :=
  let (whole, rest) := digitRun cs
  let (fraction, rest) := match rest with
    | '.' :: rest => digitRun rest
    | rest => ([], rest)
  if whole.isEmpty && fraction.isEmpty then none
  else match exponent? rest with
    | none => none
    | some e =>
      some (.ofDecimal negative (ofDecimalDigits (whole ++ fraction)) (e - fraction.length))

/-- A binary64 value written in decimal, or by the name of a value that is no finite number. -/
def binary64? (s : String) : Option Binary64 :=
  let (negative, cs) := signed s.toList
  match String.ofList (cs.map Char.toLower) with
  | "inf" => some (.infinite negative)
  | "infinity" => some (.infinite negative)
  | "nan" => some .nan
  | _ => decimal? negative cs

end ResumePress.Number
