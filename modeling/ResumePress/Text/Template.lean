import ResumePress.Text.Digit

/-!
# Templates with numbered places

A template is text with places for arguments: a pair of braces takes the next argument, a number
between braces takes that one, and a doubled brace stands for itself. Reading a template never
fails: what cannot be read becomes a `broken` piece, and filling the template reports it only when
it gets there, so of two faults the one further left is reported.

A template numbers its places itself or leaves that to the reader, never both. There are two schemes
for that. One states how the places are numbered as soon as the first of them tells; the other keeps
a count of the open places and gives it up at the first numbered one.
-/
namespace ResumePress.Text

/-- A place for an argument: its name, a conversion and a layout. -/
structure Place where
  name : List Char
  conversion : Option Char
  layout : List Char
  deriving DecidableEq, Repr

inductive Piece
  | letter (c : Char)
  | place (p : Place)
  | broken
  deriving DecidableEq, Repr

/-- Where in a template the reader stands. Collected characters are reversed. -/
inductive TemplateState
  | outside
  | inName (name : List Char)
  | inIndex (name : List Char)
  | atConversion (name : List Char)
  | afterConversion (name : List Char) (conversion : Char)
  | inLayout (name : List Char) (conversion : Option Char) (layout : List Char) (depth : Nat)

/-- The pieces of the rest of a template. -/
def piecesFrom : TemplateState → List Char → List Piece
  | .outside, [] => []
  | .outside, '\x7b' :: '\x7b' :: cs => .letter '\x7b' :: piecesFrom .outside cs
  | .outside, '\x7d' :: '\x7d' :: cs => .letter '\x7d' :: piecesFrom .outside cs
  | .outside, c :: cs =>
    if c = '\x7d' then [.broken]
    else if c = '\x7b' then piecesFrom (.inName []) cs
    else .letter c :: piecesFrom .outside cs
  | _, [] => [.broken]
  | .inName name, c :: cs =>
    if c = '\x7b' then [.broken]
    else if c = '\x7d' then .place ⟨name.reverse, none, []⟩ :: piecesFrom .outside cs
    else if c = '[' then piecesFrom (.inIndex (c :: name)) cs
    else if c = ':' then piecesFrom (.inLayout name none [] 0) cs
    else if c = '!' then piecesFrom (.atConversion name) cs
    else piecesFrom (.inName (c :: name)) cs
  | .inIndex name, c :: cs =>
    if c = ']' then piecesFrom (.inName (c :: name)) cs else piecesFrom (.inIndex (c :: name)) cs
  | .atConversion name, c :: cs => piecesFrom (.afterConversion name c) cs
  | .afterConversion name conversion, c :: cs =>
    if c = '\x7d' then .place ⟨name.reverse, some conversion, []⟩ :: piecesFrom .outside cs
    else if c = ':' then piecesFrom (.inLayout name (some conversion) [] 0) cs
    else [.broken]
  | .inLayout name conversion layout depth, c :: cs =>
    if c = '\x7b' then piecesFrom (.inLayout name conversion (c :: layout) (depth + 1)) cs
    else if c = '\x7d' then
      match depth with
      | 0 => .place ⟨name.reverse, conversion, layout.reverse⟩ :: piecesFrom .outside cs
      | d + 1 => piecesFrom (.inLayout name conversion (c :: layout) d) cs
    else piecesFrom (.inLayout name conversion (c :: layout) depth) cs

def pieces (template : String) : List Piece :=
  piecesFrom .outside template.toList

inductive TemplateFault
  | malformed
  | mixedNumbering
  | numberTooLarge
  | noArgument (index : Nat)
  | unknownName (name : String)
  | noPart (path : String)
  | unknownLayout
  | unspellable
  deriving DecidableEq, Repr

/-! ## Numbers of places -/

def lastIndex : Nat := Nat.pow 2 63 - 1

/-- The number whose digits are those of `n` and then these, `none` if one of them is no digit. What
gets too large is not read to its end. -/
def numberFrom (n : Nat) : List Char → Except TemplateFault (Option Nat)
  | [] => .ok (some n)
  | c :: cs =>
    match digit? c with
    | none => .ok none
    | some d =>
      if 10 * n + d > lastIndex then .error .numberTooLarge else numberFrom (10 * n + d) cs

namespace Place

/-- The name of a place as far as it names an argument. -/
def head (p : Place) : List Char :=
  p.name.takeWhile (fun c => c ≠ '.' && c ≠ '[')

def number (p : Place) : Except TemplateFault Nat :=
  let unknown : Except TemplateFault Nat := .error (.unknownName (String.ofList p.head))
  if p.head.isEmpty then unknown
  else match numberFrom 0 p.head with
    | .error e => .error e
    | .ok none => unknown
    | .ok (some n) => .ok n

end Place

/-- How the places seen so far are numbered. -/
inductive Numbering
  | unset
  | automatic (next : Nat)
  | manual
  deriving DecidableEq, Repr

/-- The argument that a place asks for, and the numbering from there on. -/
def Place.stated (p : Place) (numbering : Numbering) : Except TemplateFault (Nat × Numbering) :=
  if p.head.isEmpty then
    match numbering with
    | .unset => .ok (0, .automatic 1)
    | .automatic n => .ok (n, .automatic (n + 1))
    | .manual => .error .mixedNumbering
  else match p.number with
    | .error e => .error e
    | .ok n =>
      match numbering with
      | .automatic _ => .error .mixedNumbering
      | _ => .ok (n, .manual)

/-- The argument that a place asks for when `count` open places come before it, and the count from
there on; there is none behind a numbered place. A name of digit signs is taken for a number before
it is read. -/
def Place.counted (p : Place) (count : Option Nat) : Except TemplateFault (Nat × Option Nat) :=
  if p.name.isEmpty then
    match count with
    | some n => .ok (n, some (n + 1))
    | none => .error .mixedNumbering
  else if p.name.all isDigitSign then
    match count with
    | some (_ + 1) => .error .mixedNumbering
    | _ => p.number.map (·, none)
  else p.number.map (·, count)

/-- A way to find out which argument a place asks for. -/
structure Scheme (σ : Type) where
  start : σ
  index : Place → σ → Except TemplateFault (Nat × σ)

def Scheme.stated : Scheme Numbering := ⟨.unset, Place.stated⟩

def Scheme.counted : Scheme (Option Nat) := ⟨some 0, Place.counted⟩

/-! ## Filling -/

section
variable {α σ : Type} (scheme : Scheme σ) (shown : α → Except TemplateFault String) (args : List α)

/-- What `shown` gives for argument `n` in a place. -/
def Place.fill (p : Place) (n : Nat) : Except TemplateFault String :=
  match args[n]? with
  | none => .error (.noArgument n)
  | some a =>
    if p.name.any (fun c => c = '.' || c = '[') then .error (.noPart (String.ofList p.name))
    else if p.conversion.isNone && p.layout.isEmpty then shown a
    else .error .unknownLayout

/-- The pieces with every place replaced by its argument. -/
def fillPieces : σ → List Piece → Except TemplateFault String
  | _, [] => .ok ""
  | state, .letter c :: ps => (fillPieces state ps).map (String.singleton c ++ ·)
  | state, .place p :: ps => do
    let (n, next) ← scheme.index p state
    let s ← p.fill shown args n
    (fillPieces next ps).map (s ++ ·)
  | _, .broken :: _ => .error .malformed

/-- The template with its places filled from `args`, each shown by `shown`. -/
def fill (template : String) : Except TemplateFault String :=
  fillPieces scheme shown args scheme.start (pieces template)

end

end ResumePress.Text
