import ResumePress.Number.Reading
import ResumePress.Value.Equality
import ResumePress.Yaml.Tree

/-!
# What plain texts mean

A plain text may denote nothing, a truth value, a whole number or a float; otherwise it is a text.
Whole numbers are written to the base of two, eight, ten, sixteen or sixty, and underscores between
digits are skipped. What looks like a number but has no digits is a fault, and so is a number to the
base of ten or sixty with more digits than are read.
-/
namespace ResumePress.Yaml

open Number (signed ofDigits ofDecimalDigits)

def nullWords : List String := ["", "~", "null", "Null", "NULL"]

def trueWords : List String :=
  ["yes", "Yes", "YES", "true", "True", "TRUE", "on", "On", "ON"]

def falseWords : List String :=
  ["no", "No", "NO", "false", "False", "FALSE", "off", "Off", "OFF"]

/-- The digits without the underscores between them. -/
def withoutUnderscores (cs : List Char) : List Char :=
  cs.filter (· ≠ '_')

def isDigits (base : Nat) (cs : List Char) : Bool :=
  !cs.isEmpty && cs.all (fun c => c = '_' || (Text.hexValue? c).any (· < base))

def isNumeral (cs : List Char) : Bool :=
  (cs.head?.map Char.isDigit).getD false && isDigits 10 cs

/-- A digit group of a number to the base of sixty. -/
def isGroup : List Char → Bool
  | [c] => c.isDigit
  | [c, d] => '0' ≤ c && c ≤ '5' && d.isDigit
  | _ => false

/-- The number that digits to a base denote, underscores apart. -/
def numeral (base : Nat) (cs : List Char) : Nat :=
  ofDigits base ((withoutUnderscores cs).filterMap Text.hexValue?)

def groups : List Char → List (List Char)
  | [] => [[]]
  | c :: cs =>
    if c = ':' then [] :: groups cs
    else match groups cs with
      | [] => [[c]]
      | g :: gs => (c :: g) :: gs

/-- The most digits of a decimal number that are read. -/
def longestNumeral : Nat := 4300

/-- The size of a whole number without its sign. -/
def wholeSize? (cs : List Char) : Option (Except ConfigFault Nat) :=
  let based (base : Nat) (digits : List Char) : Except ConfigFault Nat :=
    if (withoutUnderscores digits).isEmpty then .error .emptyNumber else .ok (numeral base digits)
  match cs with
  | '0' :: 'b' :: digits => if isDigits 2 digits then some (based 2 digits) else none
  | '0' :: 'x' :: digits => if isDigits 16 digits then some (based 16 digits) else none
  | ['0'] => some (.ok 0)
  | '0' :: digits => if isDigits 8 digits then some (.ok (numeral 8 digits)) else none
  | cs =>
    match groups cs with
    | [] => none
    | first :: rest =>
      if isNumeral first && rest.all isGroup then
        if (withoutUnderscores first).length > longestNumeral then some (.error .overlongNumber)
        else some (.ok (ofDigits 60 ((first :: rest).map (numeral 10))))
      else none

def whole? (cs : List Char) : Option (Except ConfigFault Int) :=
  let (negative, size) := signed cs
  (wholeSize? size).map (fun r => r.map (fun n => if negative then -(n : Int) else n))

/-- An exponent of ten: a letter, a sign and digits. -/
def isExponent (signRequired : Bool) : List Char → Bool
  | c :: cs =>
    (c = 'e' || c = 'E') &&
      (let digits := match cs with
        | '+' :: ds => ds
        | '-' :: ds => ds
        | ds => if signRequired then [] else ds
      !digits.isEmpty && digits.all Char.isDigit)
  | [] => false

/-- The digits and underscores in front, and what follows them. -/
def digitRun (cs : List Char) : List Char × List Char :=
  (cs.takeWhile (fun c => c.isDigit || c = '_'), cs.dropWhile (fun c => c.isDigit || c = '_'))

/-- Whether a text is a float in decimal notation that begins with a digit. -/
def isDecimal (cs : List Char) : Bool :=
  let (digits, rest) := digitRun cs
  isNumeral digits &&
    match rest with
    | '.' :: rest =>
      let (_, rest) := digitRun rest
      rest.isEmpty || isExponent false rest
    | rest => isExponent false rest

/-- Whether a text is a float that begins with a point. -/
def isFraction : List Char → Bool
  | '.' :: cs =>
    let (digits, rest) := digitRun cs
    !digits.isEmpty && (rest.isEmpty || isExponent true rest)
  | _ => false

/-- Whether a text is a float to the base of sixty: groups, a point and digits. -/
def isSexagesimal (cs : List Char) : Bool :=
  let fraction := (cs.dropWhile (· ≠ '.')).drop 1
  match groups (cs.takeWhile (· ≠ '.')) with
  | first :: next :: rest =>
    cs.contains '.' && isNumeral first && (next :: rest).all isGroup &&
      (fraction.isEmpty || isDigits 10 fraction)
  | _ => false

/-- The sum of groups to the base of sixty, rounded at every step from the last group on. -/
def sexagesimal (gs : List (List Char)) : Binary64 :=
  let term (g : List Char) : Binary64 :=
    (Number.decimal? false g).getD .nan
  (gs.reverse.foldl (fun (sum, base) g => (sum.addTimes (term g) base, base * 60))
    (Binary64.ofRatio false 0 1, 1)).1

/-- A float in decimal notation, underscores apart. -/
def decimal (negative : Bool) (cs : List Char) : Except ConfigFault Binary64 :=
  match Number.decimal? negative (withoutUnderscores cs) with
  | some x => .ok x
  | none => .error .emptyNumber

def float? (cs : List Char) : Option (Except ConfigFault Binary64) :=
  let (negative, size) := signed cs
  if [".inf", ".Inf", ".INF"].contains (String.ofList size) then some (.ok (.infinite negative))
  else if [".nan", ".NaN", ".NAN"].contains (String.ofList cs) then some (.ok .nan)
  else if isDecimal size then some (decimal negative size)
  else if isFraction cs then some (decimal false cs)
  else if isSexagesimal size then
    let sum := sexagesimal (groups (withoutUnderscores size))
    some (.ok (if negative then sum.negated else sum))
  else none

/-- What a plain text means. A merging key or a default means nothing in this place. -/
def plainValue (cs : List Char) : Except ConfigFault Value :=
  let s := String.ofList cs
  if nullWords.contains s then .ok .null
  else if trueWords.contains s then .ok (.bool true)
  else if falseWords.contains s then .ok (.bool false)
  else if s == "<<" || s == "=" then .error .malformed
  else match whole? cs, float? cs with
    | some n, _ => n.map .int
    | none, some x => x.map .float
    | none, none => .ok (.text s)

namespace Tree

def scalarValue (isPlain : Bool) (cs : List Char) : Except ConfigFault Value :=
  if isPlain then plainValue cs else .ok (.text (String.ofList cs))

/-- A key is a single value. A key `=` is a text like others, and a merging key is not covered. -/
def keyValue : Tree → Except ConfigFault Value
  | scalar isPlain cs =>
    if cs = ['='] then .ok (.text "=")
    else if isPlain && cs = ['<', '<'] then .error .notCovered
    else scalarValue isPlain cs
  | _ => .error .malformed

/-- Whether a text among the keys is there twice. -/
def repeats : List Value → Bool
  | [] => false
  | .text s :: ks => ks.any (fun k => match k with
      | .text t => s == t
      | _ => false) || repeats ks
  | _ :: ks => repeats ks

/-- Whether two keys of a document are one. What is no number is one value in a document wherever it
stands, so it is one key, although it equals nothing. -/
def oneKey : Value → Value → Bool
  | .float .nan, .float .nan => true
  | a, b => a.same b

/-- The mapping of the entries of a document, where the last value of a key counts. -/
def ofEntries (entries : List (Value × Value)) : Value :=
  .mapping (entries.foldl (fun es e => Value.putBy oneKey e.1 e.2 es) [])

mutual

def value : Tree → Except ConfigFault Value
  | scalar isPlain cs => scalarValue isPlain cs
  | sequence items => (values items).map .list
  | mapping entries => do
    let entries ← entryValues entries
    if repeats (entries.map Prod.fst) then .error .malformed
    else .ok (ofEntries entries)

def values : List Tree → Except ConfigFault (List Value)
  | [] => .ok []
  | t :: ts => do
    let v ← t.value
    .ok (v :: (← values ts))

def entryValues : List (Tree × Tree) → Except ConfigFault (List (Value × Value))
  | [] => .ok []
  | (k, t) :: es => do
    let k ← k.keyValue
    let v ← t.value
    .ok ((k, v) :: (← entryValues es))

end

end Tree

/-- What the document in a text means; `none` if there is none. -/
def value? (cs : List Char) : Except ConfigFault (Option Value) := do
  match ← tree? cs with
  | none => .ok none
  | some t => .ok (some (← t.value))

end ResumePress.Yaml
