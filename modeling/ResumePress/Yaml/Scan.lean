import ResumePress.Fault
import ResumePress.Text.Hex
import ResumePress.Yaml.Place

/-!
# Scalars

The texts in a document: plain ones, quoted ones and blocks of lines. Each reader goes over the
characters once and folds lines together: a single line end is a space, further ones stand for
themselves. A reader answers the text and where it ends.
-/
namespace ResumePress.Yaml

/-- A text and the cursor behind it. -/
structure Scanned where
  text : List Char
  cursor : Cursor
  /-- Whether the text was left at the beginning of a line. -/
  ended : Bool

/-- What lies between two words: blanks, or line ends. The first line end stands apart, because it
counts for a space unless others follow; there is none if it is escaped. -/
inductive Gap
  | blanks (reversed : List Char)
  | breaks (first : Option Char) (reversed : List Char)

namespace Gap

def none : Gap := blanks []

/-- What the gap contributes to the text, reversed. -/
def reversedText : Gap → List Char
  | blanks cs => cs
  | breaks .none cs => cs
  | breaks (some c) cs =>
    if c ≠ '\n' then cs ++ [c] else if cs.isEmpty then [' '] else cs

/-- The gap with a line end more. Blanks before it are dropped. -/
def addBreak : Gap → Char → Gap
  | blanks _, c => breaks (some (breakChar c)) []
  | breaks first cs, c => breaks first (breakChar c :: cs)

/-- The gap with a blank more. Blanks after a line end are dropped. -/
def addBlank : Gap → Char → Gap
  | blanks cs, c => blanks (c :: cs)
  | breaks first cs, _ => breaks first cs

def isEmpty : Gap → Bool
  | blanks cs => cs.isEmpty
  | breaks _ _ => false

def hasBreak : Gap → Bool
  | blanks _ => false
  | breaks _ _ => true

end Gap

/-! ## Plain texts -/

/-- Whether a plain text ends before `c`, followed by `cs`. -/
def endsPlain (inFlow : Bool) (c : Char) (cs : List Char) : Bool :=
  c = '\t' ||
    (c = ':' && (endsWord cs || (inFlow && (cs.head?.map isFlowMark).getD false))) ||
    (inFlow && (c = '?' || isFlowMark c))

/-- Reads a plain text from a place in it. `text` and `gap` are what was read, reversed. -/
def plainFrom (inFlow : Bool) (margin : Int) (text : List Char) (gap : Gap) :
    List Char → Place → Scanned
  | '\r' :: '\n' :: cs, p =>
    let gap := gap.addBreak '\r'
    let p := p.nextLine 2
    if atSeparator cs then ⟨text, ⟨cs, p⟩, true⟩ else plainFrom inFlow margin text gap cs p
  | c :: cs, p =>
    if isBreak c then
      let gap := gap.addBreak c
      let p := p.nextLine 1
      if atSeparator cs then ⟨text, ⟨cs, p⟩, true⟩ else plainFrom inFlow margin text gap cs p
    else if c = ' ' then plainFrom inFlow margin text (gap.addBlank c) cs (p.past c)
    else if endsPlain inFlow c cs || (c = '#' && !gap.isEmpty) ||
        (!inFlow && gap.hasBreak && (p.column : Int) < margin) then
      ⟨text, ⟨c :: cs, p⟩, gap.hasBreak⟩
    else plainFrom inFlow margin (c :: (gap.reversedText ++ text)) .none cs (p.past c)
  | [], p => ⟨text, ⟨[], p⟩, gap.hasBreak⟩

def plain (inFlow : Bool) (margin : Int) (c : Cursor) : Scanned :=
  let s := plainFrom inFlow margin [] .none c.rest c.place
  { s with text := s.text.reverse }

/-! ## Quoted texts -/

/-- What a letter after a backslash stands for. -/
def escapedChar? : Char → Option Char
  | '0' => some '\x00'
  | 'a' => some '\x07'
  | 'b' => some '\x08'
  | 't' => some '\t'
  | '\t' => some '\t'
  | 'n' => some '\n'
  | 'v' => some '\x0B'
  | 'f' => some '\x0C'
  | 'r' => some '\r'
  | 'e' => some '\x1B'
  | ' ' => some ' '
  | '\x22' => some '\x22'
  | '\\' => some '\\'
  | '/' => some '/'
  | 'N' => some '\u0085'
  | '_' => some '\u00A0'
  | 'L' => some '\u2028'
  | 'P' => some '\u2029'
  | _ => none

/-- How many digits follow a letter after a backslash. -/
def escapeLength? : Char → Option Nat
  | 'x' => some 2
  | 'u' => some 4
  | 'U' => some 8
  | _ => none

/-- Whether a number is the code of half of a surrogate pair. No text here can hold one. -/
def isSurrogate (n : Nat) : Bool :=
  0xD800 ≤ n && n ≤ 0xDFFF

inductive QuoteState
  | within (gap : Gap)
  | escape
  | digits (left value : Nat)

/-- Reads a text in single quotes, in which a doubled quote stands for one. -/
def singleFrom (text : List Char) (gap : Gap) :
    List Char → Place → Except ConfigFault Scanned
  | [], _ => .error .malformed
  | '\r' :: '\n' :: cs, p =>
    if atSeparator cs then .error .malformed
    else singleFrom text (gap.addBreak '\r') cs (p.nextLine 2)
  | '\x27' :: '\x27' :: cs, p =>
    singleFrom ('\x27' :: (gap.reversedText ++ text)) .none cs ((p.past '\x27').past '\x27')
  | c :: cs, p =>
    if c = '\x27' then .ok ⟨gap.reversedText ++ text, ⟨cs, p.past c⟩, false⟩
    else if isBreak c then
      if atSeparator cs then .error .malformed
      else singleFrom text (gap.addBreak c) cs (p.nextLine 1)
    else if isSpace c then singleFrom text (gap.addBlank c) cs (p.past c)
    else singleFrom (c :: (gap.reversedText ++ text)) .none cs (p.past c)

/-- Reads a text in double quotes, in which a backslash escapes. -/
def doubleFrom (text : List Char) :
    QuoteState → List Char → Place → Except ConfigFault Scanned
  | _, [], _ => .error .malformed
  | .within gap, '\r' :: '\n' :: cs, p =>
    if atSeparator cs then .error .malformed
    else doubleFrom text (.within (gap.addBreak '\r')) cs (p.nextLine 2)
  | .within gap, c :: cs, p =>
    if c = '\x22' then .ok ⟨gap.reversedText ++ text, ⟨cs, p.past c⟩, false⟩
    else if isBreak c then
      if atSeparator cs then .error .malformed
      else doubleFrom text (.within (gap.addBreak c)) cs (p.nextLine 1)
    else if isSpace c then doubleFrom text (.within (gap.addBlank c)) cs (p.past c)
    else if c = '\\' then doubleFrom (gap.reversedText ++ text) .escape cs (p.past c)
    else doubleFrom (c :: (gap.reversedText ++ text)) (.within .none) cs (p.past c)
  | .escape, '\r' :: '\n' :: cs, p =>
    if atSeparator cs then .error .malformed
    else doubleFrom text (.within (.breaks none [])) cs (p.nextLine 2)
  | .escape, c :: cs, p =>
    if isBreak c then
      if atSeparator cs then .error .malformed
      else doubleFrom text (.within (.breaks none [])) cs (p.nextLine 1)
    else match escapedChar? c, escapeLength? c with
      | some e, _ => doubleFrom (e :: text) (.within .none) cs (p.past c)
      | none, some n => doubleFrom text (.digits n 0) cs (p.past c)
      | none, none => .error .malformed
  | .digits left value, c :: cs, p =>
    match Text.hexValue? c with
    | none => .error .malformed
    | some d =>
      let value := 16 * value + d
      match left with
      | 0 => .error .malformed
      | 1 =>
        if value.isValidChar then
          doubleFrom (Char.ofNat value :: text) (.within .none) cs (p.past c)
        else if isSurrogate value then .error .notCovered
        else .error .noCharacter
      | left + 1 => doubleFrom text (.digits left value) cs (p.past c)

def quoted (double : Bool) (c : Cursor) : Except ConfigFault Scanned :=
  let read := if double then doubleFrom [] (.within .none) c.rest c.place
    else singleFrom [] .none c.rest c.place
  read.map (fun s => { s with text := s.text.reverse })

/-! ## Blocks of lines -/

/-- What becomes of the line ends after the last line of a block. -/
inductive Chomp
  | strip
  | clip
  | keep
  deriving DecidableEq, Repr

/-- How a block is read. -/
structure BlockStyle where
  folded : Bool
  chomp : Chomp
  /-- The indentation beyond that of what the block stands in, if it is given. -/
  indent : Option Nat

/-- The chomping that a sign asks for. -/
def chompOf? : Char → Option Chomp
  | '+' => some .keep
  | '-' => some .strip
  | _ => none

/-- The indentation that a digit asks for. -/
def blockIndent? (c : Char) : Option Nat :=
  if '1' ≤ c ∧ c ≤ '9' then some (c.toNat - 48) else none

/-- Reads the signs after the mark of a block, in either order; also says how many they are. -/
def blockStyle (folded : Bool) : List Char → BlockStyle × Nat
  | c :: cs =>
    match chompOf? c, blockIndent? c with
    | some chomp, _ =>
      match (cs.head?.bind blockIndent?) with
      | some n => (⟨folded, chomp, some n⟩, 2)
      | none => (⟨folded, chomp, none⟩, 1)
    | none, some n =>
      match (cs.head?.bind chompOf?) with
      | some chomp => (⟨folded, chomp, some n⟩, 2)
      | none => (⟨folded, .clip, some n⟩, 1)
    | none, none => (⟨folded, .clip, none⟩, 0)
  | [] => (⟨folded, .clip, none⟩, 0)

/-- The widest indentation up to the first character that is neither a space nor a line end. -/
def widestIndent (column widest : Nat) : List Char → Nat
  | [] => widest
  | c :: cs =>
    if c = ' ' then widestIndent (column + 1) (max widest (column + 1)) cs
    else if isBreak c then widestIndent 0 widest cs
    else widest

/-- What was read of a block. -/
structure BlockText where
  /-- The lines so far, joined and reversed. -/
  text : List Char
  /-- Whether there is a line yet. -/
  begun : Bool
  /-- Whether the last line began with a blank. -/
  indented : Bool
  /-- The end of the last line. -/
  lineEnd : Option Char
  /-- The line ends after that, reversed. -/
  breaks : List Char

namespace BlockText

def empty : BlockText := ⟨[], false, false, none, []⟩

/-- The text with the beginning of a line more. Two lines that begin with no blank are folded. -/
def addLine (t : BlockText) (folded : Bool) (c : Char) : BlockText :=
  let joined :=
    if !t.begun then t.text
    else if folded && t.lineEnd == some '\n' && !t.indented && !isSpace c then
      if t.breaks.isEmpty then ' ' :: t.text else t.text
    else match t.lineEnd with
      | some e => e :: t.text
      | none => t.text
  ⟨c :: (t.breaks ++ joined), true, isSpace c, none, []⟩

/-- The text at the end of the block, reversed. -/
def finish (t : BlockText) : Chomp → List Char
  | .strip => t.text
  | .clip => t.lineEnd.toList ++ t.text
  | .keep => t.breaks ++ t.lineEnd.toList ++ t.text

/-- The end of the line that the reader stands in, or an empty line. -/
def endLine (t : BlockText) (inLine : Bool) (e : Char) : BlockText :=
  if inLine then { t with lineEnd := some e } else { t with breaks := e :: t.breaks }

end BlockText

/-- Reads the lines of a block. `inLine` says whether the reader stands in a line or before one. -/
def blockFrom (folded : Bool) (indent : Nat) (inLine : Bool) (t : BlockText) :
    List Char → Place → BlockText × Cursor
  | [], p => (t, ⟨[], p⟩)
  | '\r' :: '\n' :: cs, p =>
    blockFrom folded indent false (t.endLine inLine '\n') cs (p.nextLine 2)
  | c :: cs, p =>
    if isBreak c then
      blockFrom folded indent false (t.endLine inLine (breakChar c)) cs (p.nextLine 1)
    else if inLine then
      blockFrom folded indent true { t with text := c :: t.text } cs (p.past c)
    else if c = ' ' && p.column < indent then blockFrom folded indent false t cs (p.past c)
    else if p.column = indent then
      blockFrom folded indent true (t.addLine folded c) cs (p.past c)
    else (t, ⟨c :: cs, p⟩)

/-- Passes over the rest of the line of a block's mark, which may hold a comment only. -/
def restOfLine (inComment : Bool) : List Char → Place → Option Cursor
  | [], p => some ⟨[], p⟩
  | '\r' :: '\n' :: cs, p => some ⟨cs, p.nextLine 2⟩
  | c :: cs, p =>
    if isBreak c then some ⟨cs, p.nextLine 1⟩
    else if inComment || c = ' ' then restOfLine inComment cs (p.past c)
    else if c = '#' then restOfLine true cs (p.past c)
    else none

def block (folded : Bool) (outer : Int) (c : Cursor) : Option Scanned :=
  let (style, signs) := blockStyle folded c.rest
  let head := c.past signs
  if !endsWord head.rest || head.rest.head? == some '\t' then none
  else (restOfLine false head.rest head.place).map (fun body =>
    let least := (max (outer + 1) 1).toNat
    let indent := match style.indent with
      | some n => least + n - 1
      | none => max least (widestIndent 0 0 body.rest)
    let (t, cursor) := blockFrom folded indent false .empty body.rest body.place
    ⟨(t.finish style.chomp).reverse, cursor, true⟩)

end ResumePress.Yaml
