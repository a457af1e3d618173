import ResumePress.Yaml.Scan

/-!
# Tokens

A document as a sequence of tokens. Indentation opens and closes collections, so it becomes tokens
too. A key is recognised only by the colon behind it: where something that can be a key begins, the
place is remembered, and the token for the key is put there when the colon comes. A key has to stand
on one line and be short.

Tags, anchors, aliases and directives are not covered.
-/
namespace ResumePress.Yaml

/-- A token. A plain text may mean something other than its characters. -/
inductive Token
  | documentStart
  | documentEnd
  | blockSequence
  | blockMapping
  | blockEnd
  | flowSequence
  | flowSequenceEnd
  | flowMapping
  | flowMappingEnd
  | blockEntry
  | flowEntry
  | key
  | value
  | scalar (isPlain : Bool) (text : List Char)
  deriving DecidableEq

/-- Something that may turn out to be a key. -/
structure PendingKey where
  /-- The number of tokens before it. -/
  tokens : Nat
  place : Place
  /-- Whether it cannot be anything but a key. -/
  required : Bool

namespace PendingKey

/-- The greatest length of a key. -/
def longest : Nat := 1024

/-- Whether a colon at `p` is too far away. -/
def isStale (k : PendingKey) (p : Place) : Bool :=
  k.place.line != p.line || k.place.offset + longest < p.offset

end PendingKey

/-- The state of the reader between two tokens. -/
structure Scanner where
  cursor : Cursor
  /-- The indentation of the innermost block and of those around it; none at the outside. -/
  indents : List Nat
  /-- Whether a key may begin here. -/
  keyAllowed : Bool
  /-- What may be a key in the innermost collection. -/
  pending : Option PendingKey
  /-- What may be a key in the collections around it, as far as they are within lines. -/
  outer : List (Option PendingKey)
  /-- The tokens so far, the latest first. -/
  tokens : List Token

namespace Scanner

def start (cs : List Char) : Scanner :=
  ⟨.start cs, [], true, none, [], []⟩

/-- Whether the reader is in a collection within lines. -/
def inFlow (s : Scanner) : Bool :=
  !s.outer.isEmpty

def place (s : Scanner) : Place :=
  s.cursor.place

def indent (s : Scanner) : Int :=
  match s.indents with
  | [] => -1
  | i :: _ => i

def malformed {α : Type} : Except ConfigFault α :=
  .error .malformed

def push (s : Scanner) (t : Token) : Scanner :=
  { s with tokens := t :: s.tokens }

/-- The reader with a token put where a pending key is. -/
def insert (s : Scanner) (k : PendingKey) (t : Token) : Scanner :=
  let later := s.tokens.length - k.tokens
  { s with tokens := s.tokens.take later ++ t :: s.tokens.drop later }

/-- The reader behind the next `n` characters. -/
def forward (s : Scanner) (n : Nat) : Scanner :=
  { s with cursor := s.cursor.past n }

/-- Forgets a pending key unless it is required. -/
def dropKey (k : Option PendingKey) : Except ConfigFault (Option PendingKey) :=
  match k with
  | some k => if k.required then malformed else .ok none
  | none => .ok none

/-- Forgets a pending key that is too far away, unless it is required. -/
def dropStale (p : Place) (k : Option PendingKey) : Except ConfigFault (Option PendingKey) :=
  match k with
  | some k => if k.isStale p then dropKey (some k) else .ok (some k)
  | none => .ok none

/-- Forgets all pending keys that are too far away. -/
def forgetStale (s : Scanner) : Except ConfigFault Scanner := do
  let pending ← dropStale s.place s.pending
  let outer ← s.outer.mapM (dropStale s.place)
  .ok { s with pending, outer }

/-- Forgets what may be a key in the innermost collection. -/
def forgetKey (s : Scanner) : Except ConfigFault Scanner := do
  .ok { s with pending := ← dropKey s.pending }

/-- Remembers that a key may begin here. -/
def rememberKey (s : Scanner) : Except ConfigFault Scanner :=
  if s.keyAllowed then do
    let s ← s.forgetKey
    let required := !s.inFlow && s.indent == (s.place.column : Int)
    .ok { s with pending := some ⟨s.tokens.length, s.place, required⟩ }
  else .ok s

/-- Closes the blocks that are indented by more than `column`. -/
def closeBlocks (column : Int) : List Nat → List Token → List Nat × List Token
  | [], ts => ([], ts)
  | i :: is, ts =>
    if column < (i : Int) then closeBlocks column is (.blockEnd :: ts) else (i :: is, ts)

/-- Closes the blocks that what stands at `column` does not belong to. -/
def unwind (s : Scanner) (column : Int) : Scanner :=
  if s.inFlow then s
  else
    let (indents, tokens) := closeBlocks column s.indents s.tokens
    { s with indents, tokens }

def opens (s : Scanner) (column : Nat) : Bool :=
  s.indent < (column : Int)

/-- Opens a block at the place of the reader, unless it is open. -/
def openBlock (s : Scanner) (t : Token) : Scanner :=
  if s.opens s.place.column then { s.push t with indents := s.place.column :: s.indents } else s

def separator (s : Scanner) (t : Token) : Except ConfigFault Scanner := do
  let s ← (s.unwind (-1)).forgetKey
  .ok (({ s with keyAllowed := false }.forward 3).push t)

/-- The opening of a collection within lines. It may itself be a key. -/
def openFlow (s : Scanner) (t : Token) : Except ConfigFault Scanner := do
  let s ← s.rememberKey
  .ok (({ s with
    keyAllowed := true, pending := none, outer := s.pending :: s.outer }.forward 1).push t)

def closeFlow (s : Scanner) (t : Token) : Except ConfigFault Scanner := do
  let s ← s.forgetKey
  match s.outer with
  | [] => malformed
  | pending :: outer =>
    .ok (({ s with keyAllowed := false, pending, outer }.forward 1).push t)

def flowEntry (s : Scanner) : Except ConfigFault Scanner := do
  let s ← s.forgetKey
  .ok (({ s with keyAllowed := true }.forward 1).push .flowEntry)

def blockEntry (s : Scanner) : Except ConfigFault Scanner := do
  if !s.inFlow && !s.keyAllowed then malformed
  else
    let s := if s.inFlow then s else s.openBlock .blockSequence
    let s ← s.forgetKey
    .ok (({ s with keyAllowed := true }.forward 1).push .blockEntry)

def explicitKey (s : Scanner) : Except ConfigFault Scanner := do
  if !s.inFlow && !s.keyAllowed then malformed
  else
    let s := if s.inFlow then s else s.openBlock .blockMapping
    let s ← s.forgetKey
    .ok (({ s with keyAllowed := !s.inFlow }.forward 1).push .key)

def colon (s : Scanner) : Except ConfigFault Scanner :=
  match s.pending with
  | some k =>
    let s := { s with pending := none }.insert k .key
    let s := if !s.inFlow && s.opens k.place.column then
        { s.insert k .blockMapping with indents := k.place.column :: s.indents }
      else s
    .ok (({ s with keyAllowed := false }.forward 1).push .value)
  | none =>
    if !s.inFlow && !s.keyAllowed then malformed
    else
      let s := if s.inFlow then s else s.openBlock .blockMapping
      .ok (({ s with keyAllowed := !s.inFlow }.forward 1).push .value)

/-- The reader behind a text. -/
def pushScalar (s : Scanner) (isPlain : Bool) (r : Scanned) : Scanner :=
  { s with cursor := r.cursor, keyAllowed := r.ended }.push (.scalar isPlain r.text)

def blockText (s : Scanner) (folded : Bool) : Except ConfigFault Scanner := do
  let s ← s.forgetKey
  match block folded s.indent (s.cursor.past 1) with
  | some r => .ok (s.pushScalar false r)
  | none => malformed

def quotedText (s : Scanner) (double : Bool) : Except ConfigFault Scanner := do
  let s ← s.rememberKey
  .ok (s.pushScalar false (← quoted double (s.cursor.past 1)))

def plainText (s : Scanner) : Except ConfigFault Scanner := do
  let s ← s.rememberKey
  .ok (s.pushScalar true (plain s.inFlow (s.indent + 1) s.cursor))

/-- The characters that no plain text begins with, apart from blanks and line ends. -/
def reserved : List Char :=
  ['-', '?', ':', ',', '[', ']', '\x7b', '\x7d', '#', '&', '*', '!', '|', '>', '\x27', '\x22',
    '%', '@', '\x60']

/-- Whether a plain text begins with `c`, followed by `cs`. -/
def beginsPlain (inFlow : Bool) (c : Char) (cs : List Char) : Bool :=
  if isSpace c || isBreak c then false
  else !reserved.contains c ||
    (!endsWord cs && (c = '-' || (!inFlow && (c = '?' || c = ':'))))

def token (s : Scanner) (c : Char) (cs : List Char) : Except ConfigFault Scanner :=
  let atMargin := s.place.column == 0
  if atMargin && c = '%' then .error .notCovered
  else if atMargin && c = '-' && atSeparator (c :: cs) then s.separator .documentStart
  else if atMargin && c = '.' && atSeparator (c :: cs) then s.separator .documentEnd
  else if c = '[' then s.openFlow .flowSequence
  else if c = '\x7b' then s.openFlow .flowMapping
  else if c = ']' then s.closeFlow .flowSequenceEnd
  else if c = '\x7d' then s.closeFlow .flowMappingEnd
  else if c = ',' then s.flowEntry
  else if c = '-' && endsWord cs then s.blockEntry
  else if c = '?' && (s.inFlow || endsWord cs) then s.explicitKey
  else if c = ':' && (s.inFlow || endsWord cs) then s.colon
  else if c = '|' && !s.inFlow then s.blockText false
  else if c = '>' && !s.inFlow then s.blockText true
  else if c = '\x27' then s.quotedText false
  else if c = '\x22' then s.quotedText true
  else if c = '&' || c = '*' || c = '!' then .error .notCovered
  else if beginsPlain s.inFlow c cs then s.plainText
  else malformed

def toNext (s : Scanner) : Except ConfigFault Scanner := do
  let (cursor, ended) := s.cursor.skip
  let keyAllowed := s.keyAllowed || (ended && !s.inFlow)
  let s ← forgetStale { s with cursor, keyAllowed }
  .ok (s.unwind s.place.column)

/-- The tokens of the rest of a text. Every token takes at least a character; a reader that would
not move on stops. -/
def run (s : Scanner) : Except ConfigFault (List Token) := do
  let next ← s.toNext
  match next.cursor.rest with
  | [] =>
    let last ← (next.unwind (-1)).forgetKey
    .ok last.tokens.reverse
  | c :: cs =>
    let after ← next.token c cs
    if after.cursor.rest.length < s.cursor.rest.length then run after else malformed
termination_by s.cursor.rest.length

end Scanner

def tokens (cs : List Char) : Except ConfigFault (List Token) :=
  if cs.all isAllowed then (Scanner.start cs).run else .error .malformed

end ResumePress.Yaml
