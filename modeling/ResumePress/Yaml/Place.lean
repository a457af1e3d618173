/-!
# Places in a document

Where a reader stands, and the characters that matter for standing there. Five characters end a
line; a carriage return with a line feed after it is one end. A byte order mark takes no column.
-/
namespace ResumePress.Yaml

/-- A place in a document. The offset counts characters from its beginning. -/
structure Place where
  line : Nat
  column : Nat
  offset : Nat
  deriving DecidableEq, Repr

namespace Place

def start : Place := ⟨0, 0, 0⟩

def past (p : Place) (c : Char) : Place :=
  ⟨p.line, if c = '\uFEFF' then p.column else p.column + 1, p.offset + 1⟩

/-- The place behind several characters that end no line. -/
def pastAll (p : Place) (cs : List Char) : Place :=
  cs.foldl past p

/-- The beginning of the next line, behind a line end of `length` characters. -/
def nextLine (p : Place) (length : Nat) : Place :=
  ⟨p.line + 1, 0, p.offset + length⟩

end Place

def isBreak (c : Char) : Bool :=
  c = '\n' || c = '\r' || c = '\u0085' || c = '\u2028' || c = '\u2029'

/-- What a line end contributes to a text: the two separators stand for themselves. -/
def breakChar (c : Char) : Char :=
  if c = '\u2028' || c = '\u2029' then c else '\n'

def isSpace (c : Char) : Bool :=
  c = ' ' || c = '\t'

/-- Whether nothing, a blank or a line end comes next. -/
def endsWord : List Char → Bool
  | [] => true
  | c :: _ => isSpace c || isBreak c

/-- The characters that delimit collections within a line. -/
def isFlowMark (c : Char) : Bool :=
  c = ',' || c = '[' || c = ']' || c = '\x7b' || c = '\x7d'

/-- Whether a line begins with a mark that separates documents. -/
def atSeparator : List Char → Bool
  | '-' :: '-' :: '-' :: cs => endsWord cs
  | '.' :: '.' :: '.' :: cs => endsWord cs
  | _ => false

/-- The characters that may stand in a document. -/
def isAllowed (c : Char) : Bool :=
  let n := c.toNat
  n == 9 || n == 10 || n == 13 || (0x20 ≤ n && n ≤ 0x7E) || n == 0x85 ||
    (0xA0 ≤ n && n ≤ 0xD7FF) || (0xE000 ≤ n && n ≤ 0xFFFD) || 0x10000 ≤ n

/-- A place with the text from there on. -/
structure Cursor where
  rest : List Char
  place : Place

namespace Cursor

def start : List Char → Cursor
  | '\uFEFF' :: cs => ⟨cs, Place.start.past '\uFEFF'⟩
  | cs => ⟨cs, Place.start⟩

def past (c : Cursor) (n : Nat) : Cursor :=
  ⟨c.rest.drop n, c.place.pastAll (c.rest.take n)⟩

/-- Passes over spaces, comments and line ends. Also says whether a line ended. -/
def skipFrom (inComment ended : Bool) : List Char → Place → Cursor × Bool
  | '\r' :: '\n' :: cs, p => skipFrom false true cs (p.nextLine 2)
  | c :: cs, p =>
    if isBreak c then skipFrom false true cs (p.nextLine 1)
    else if inComment || c = ' ' then skipFrom inComment ended cs (p.past c)
    else if c = '#' then skipFrom true ended cs (p.past c)
    else (⟨c :: cs, p⟩, ended)
  | [], p => (⟨[], p⟩, ended)

/-- The next place where something may begin, and whether a line ended on the way. -/
def skip (c : Cursor) : Cursor × Bool :=
  skipFrom false false c.rest c.place

end Cursor

end ResumePress.Yaml
