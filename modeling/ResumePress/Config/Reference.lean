import ResumePress.Fault

/-!
# References in texts

A text of a configuration may refer to other parts of it: a dollar sign and a path between braces
stand for the value there. A path is made of keys, between dots or in brackets; leading dots make it
relative, and a key may itself be given by a reference. A backslash in front takes the meaning from
a reference, and a doubled one stands for itself there; elsewhere backslashes are left alone.

Instead of a path there may be a function with arguments behind a colon: words, texts in quotes,
lists and mappings, in which there may be references again. It is read like that, but there are no
functions to call.
-/
namespace ResumePress.Config

mutual

inductive Reference
  /-- A path. One dot leads to the collection that the reference stands in. -/
  | path (dots : Nat) (keys : List Key)
  /-- A call of a function. -/
  | call (name : List Key)

inductive Key
  | word (s : List Char)
  | inner (r : Reference)

end

inductive Part
  | chars (cs : List Char)
  | reference (r : Reference)

def isBlank (c : Char) : Bool :=
  c = ' ' || c = '\t'

/-! ## Paths -/

/-- Where in a path the reader stands. -/
inductive PathSlot
  /-- At the beginning, where blanks and dots may stand. -/
  | opening
  /-- Behind a leading dot. -/
  | dotted
  /-- Where a key has to follow. -/
  | key
  | word (reversed : List Char)
  /-- Behind an opening bracket. -/
  | bracket
  | bracketWord (reversed : List Char)
  /-- Before a closing bracket. -/
  | bracketEnd
  /-- Behind a key. -/
  | behind
  /-- Behind a blank, where no key may follow. -/
  | closing

/-- A path that is being read. Its keys are reversed. -/
structure OpenPath where
  dots : Nat
  keys : List Key
  /-- Whether there was a bracket. -/
  bracketed : Bool
  slot : PathSlot

/-! ## Elements -/

inductive Collection
  | arguments (name : List Key)
  | list
  | mapping

inductive ElementSlot
  /-- Where an element, a comma or the end may follow. -/
  | item
  /-- Where a key or the end may follow. -/
  | firstKey
  /-- Where a key has to follow. -/
  | key
  | inKey
  /-- Where an element has to follow. -/
  | value
  /-- In an element without quotes. -/
  | words
  /-- Behind an element that is closed. -/
  | behind

/-- Elements that are being read. -/
structure OpenElements where
  collection : Collection
  slot : ElementSlot
  /-- Whether there was a backslash that may escape what follows. -/
  slashed : Bool

structure OpenQuote where
  isDouble : Bool
  /-- Whether the number of backslashes just read is odd. -/
  slashed : Bool

inductive Frame
  | path (o : OpenPath)
  | elements (o : OpenElements)
  | quoted (o : OpenQuote)

/-- What has been read when a frame is closed. -/
inductive Content
  | reference (r : Reference)
  | element

/-- What reading a character leads to. -/
inductive Step
  | going (f : Frame)
  | opened (inner : Frame)
  | done (x : Content)

namespace OpenPath

def fresh : OpenPath := ⟨0, [], false, .opening⟩

def isKeyChar (c : Char) : Bool :=
  !(['\\', '\x7b', '\x7d', '(', ')', '[', ']', ':', '.', ' ', '\t', '\x27', '\x22'].contains c)

/-- Whether a key can be part of the name of a function. -/
def isName : Key → Bool
  | .inner _ => true
  | .word [] => false
  | .word (c :: cs) =>
    (c.isAlpha || c = '_') && cs.all (fun d => d.isAlphanum || d = '_' || d = '-')

def addKey (o : OpenPath) (k : Key) (slot : PathSlot) : OpenPath :=
  { o with keys := k :: o.keys, slot }

/-- The path with a key that is a reference; `none` where none may stand. -/
def addInner? (o : OpenPath) (r : Reference) : Option OpenPath :=
  match o.slot with
  | .opening => some (o.addKey (.inner r) .behind)
  | .dotted => some (o.addKey (.inner r) .behind)
  | .key => some (o.addKey (.inner r) .behind)
  | .bracket => some (o.addKey (.inner r) .bracketEnd)
  | _ => none

def going (o : OpenPath) (slot : PathSlot) : Option Step :=
  some (.going (.path { o with slot }))

/-- Reads the end of a path, or the colon behind the name of a function. -/
def readEnd (o : OpenPath) (c : Char) : Option Step :=
  if c = '\x7d' then some (.done (.reference (.path o.dots o.keys.reverse)))
  else if isBlank c then o.going .closing
  else if c = ':' && o.dots == 0 && !o.bracketed && o.keys.all isName then
    some (.going (.elements ⟨.arguments o.keys.reverse, .item, false⟩))
  else none

def readBehind (o : OpenPath) (c : Char) : Option Step :=
  if c = '.' then o.going .key
  else if c = '[' then some (.going (.path { o with slot := .bracket, bracketed := true }))
  else o.readEnd c

def readKey (o : OpenPath) (c : Char) : Option Step :=
  if isKeyChar c then o.going (.word [c]) else none

def read (o : OpenPath) (c : Char) : Option Step :=
  match o.slot with
  | .opening =>
    if isBlank c then o.going .opening
    else if c = '.' then some (.going (.path { o with dots := 1, slot := .dotted }))
    else if c = '[' then some (.going (.path { o with slot := .bracket, bracketed := true }))
    else o.readKey c
  | .dotted =>
    if c = '.' then some (.going (.path { o with dots := o.dots + 1 }))
    else if c = '[' then some (.going (.path { o with slot := .bracket, bracketed := true }))
    else o.readKey c
  | .key => o.readKey c
  | .word cs =>
    if isKeyChar c then o.going (.word (c :: cs))
    else (o.addKey (.word cs.reverse) .behind).readBehind c
  | .bracket => if isKeyChar c then o.going (.bracketWord [c]) else none
  | .bracketWord cs =>
    if isKeyChar c then o.going (.bracketWord (c :: cs))
    else if c = ']' then some (.going (.path (o.addKey (.word cs.reverse) .behind)))
    else none
  | .bracketEnd => if c = ']' then o.going .behind else none
  | .behind => o.readBehind c
  | .closing => o.readEnd c

end OpenPath

namespace OpenElements

/-- The characters that stand for themselves outside of quotes. -/
def isWordChar (c : Char) : Bool :=
  c.isAlphanum || ['_', '/', '-', '\\', '+', '.', '$', '%', '*', '@', '?', '|'].contains c

/-- The characters that a backslash takes the meaning from. -/
def isEscapable (c : Char) : Bool :=
  ['\\', '(', ')', '[', ']', '\x7b', '\x7d', ':', '=', ',', ' ', '\t'].contains c

def closing (o : OpenElements) : Char :=
  match o.collection with
  | .list => ']'
  | _ => '\x7d'

def content (o : OpenElements) : Content :=
  match o.collection with
  | .arguments name => .reference (.call name)
  | _ => .element

/-- What follows a comma. -/
def next (o : OpenElements) : ElementSlot :=
  match o.collection with
  | .mapping => .key
  | _ => .item

def going (o : OpenElements) (slot : ElementSlot) (slashed : Bool) : Option Step :=
  some (.going (.elements { o with slot, slashed }))

def readElement (o : OpenElements) (c : Char) : Option Step :=
  if isBlank c then o.going o.slot false
  else if isWordChar c || c = ':' then o.going .words (c = '\\')
  else if c = '\x27' || c = '\x22' then some (.opened (.quoted ⟨c = '\x22', false⟩))
  else if c = '[' then some (.opened (.elements ⟨.list, .item, false⟩))
  else if c = '\x7b' then some (.opened (.elements ⟨.mapping, .firstKey, false⟩))
  else none

def readKey (o : OpenElements) (c : Char) : Option Step :=
  if isBlank c then o.going o.slot false
  else if isWordChar c then o.going .inKey (c = '\\')
  else none

/-- Reads a comma or the end. -/
def readEnd (o : OpenElements) (c : Char) : Option Step :=
  if c = ',' then o.going o.next false
  else if c = o.closing then some (.done o.content)
  else none

/-- Reads a character that is not escaped. -/
def readPlain (o : OpenElements) (c : Char) : Option Step :=
  match o.slot with
  | .item => (o.readEnd c).orElse fun _ => o.readElement c
  | .firstKey => if c = o.closing then some (.done o.content) else o.readKey c
  | .key => o.readKey c
  | .inKey => if c = ':' then o.going .value false else o.readKey c
  | .value => o.readElement c
  | .words =>
    if isBlank c || isWordChar c || c = ':' then o.going .words (c = '\\') else o.readEnd c
  | .behind => if isBlank c then o.going .behind false else o.readEnd c

def read (o : OpenElements) (c : Char) : Option Step :=
  if o.slashed && isEscapable c then o.going o.slot false else o.readPlain c

/-- The elements with a reference more; `none` where none may stand. -/
def addReference? (o : OpenElements) : Option OpenElements :=
  match o.slot with
  | .item => some { o with slot := .words, slashed := false }
  | .value => some { o with slot := .words, slashed := false }
  | .words => some { o with slashed := false }
  | _ => none

def addElement? (o : OpenElements) : Option OpenElements :=
  match o.slot with
  | .item => some { o with slot := .behind }
  | .value => some { o with slot := .behind }
  | _ => none

end OpenElements

namespace OpenQuote

def closing (o : OpenQuote) : Char :=
  if o.isDouble then '\x22' else '\x27'

def read (o : OpenQuote) (c : Char) : Option Step :=
  if c = o.closing && !o.slashed then some (.done .element)
  else some (.going (.quoted { o with slashed := c = '\\' && !o.slashed }))

end OpenQuote

namespace Frame

def read : Frame → Char → Option Step
  | path o, c => o.read c
  | elements o, c => o.read c
  | quoted o, c => o.read c

/-- The frame with what was read inside of it; `none` where that may not stand. -/
def add? : Frame → Content → Option Frame
  | path o, .reference r => (o.addInner? r).map path
  | path _, .element => none
  | elements o, .reference _ => o.addReference?.map elements
  | elements o, .element => o.addElement?.map elements
  | quoted o, .reference _ => some (quoted { o with slashed := false })
  | quoted _, .element => none

/-- The frame behind the two characters that open a reference, where a backslash takes their
meaning. -/
def pastEscaped? : Frame → Option Frame
  | quoted o => if o.slashed then some (quoted { o with slashed := false }) else none
  | _ => none

end Frame

/-! ## Texts -/

def addChars (cs : List Char) : List Part → List Part
  | .chars ds :: ps => .chars (cs ++ ds) :: ps
  | ps => if cs.isEmpty then ps else .chars cs :: ps

/-- The parts of the rest of a text. `slashes` counts the backslashes just read outside of all
references, and `opened` holds what is being read, innermost first. -/
def partsFrom (slashes : Nat) (opened : List Frame) : List Char → Option (List Part)
  | [] => if opened.isEmpty then some (addChars (List.replicate slashes '\\') []) else none
  | '$' :: '\x7b' :: cs =>
    match opened with
    | [] =>
      let kept := List.replicate (slashes / 2) '\\'
      if slashes % 2 = 1 then (partsFrom 0 [] cs).map (addChars (kept ++ ['$', '\x7b']))
      else (partsFrom 0 [.path .fresh] cs).map (addChars kept)
    | f :: fs =>
      match f.pastEscaped? with
      | some f => partsFrom 0 (f :: fs) cs
      | none =>
        if (f.add? (.reference (.path 0 []))).isSome then partsFrom 0 (.path .fresh :: f :: fs) cs
        else none
  | c :: cs =>
    match opened with
    | [] =>
      if c = '\\' then partsFrom (slashes + 1) [] cs
      else (partsFrom 0 [] cs).map (addChars (List.replicate slashes '\\' ++ [c]))
    | f :: fs =>
      match f.read c with
      | none => none
      | some (.going f) => partsFrom 0 (f :: fs) cs
      | some (.opened inner) => partsFrom 0 (inner :: f :: fs) cs
      | some (.done x) =>
        match fs, x with
        | [], .reference r => (partsFrom 0 [] cs).map (.reference r :: ·)
        | [], .element => none
        | outer :: fs, x =>
          match outer.add? x with
          | some outer => partsFrom 0 (outer :: fs) cs
          | none => none

/-- The parts of a text; `none` if a reference in it cannot be read. -/
def parts? (s : String) : Option (List Part) :=
  partsFrom 0 [] s.toList

/-! ## Common references -/

/-- The blanks around the parts of a common reference. -/
def isGap (c : Char) : Bool :=
  ['\t', '\n', '\x0B', '\x0C', '\r', ' '].contains c

def trimGaps (cs : List Char) : List Char :=
  ((cs.dropWhile isGap).reverse.dropWhile isGap).reverse

/-- A path of keys that are made of letters, digits, underscores and dollar signs. -/
def isCommonPath (cs : List Char) : Bool :=
  cs.all (fun c => c.isAlphanum || ['_', '$', '.', '[', ']'].contains c) &&
    (partsFrom 0 [.path .fresh] (cs ++ ['\x7d'])).isSome

/-- The name of a function; it may be missing. -/
def isCommonName (cs : List Char) : Bool :=
  cs.isEmpty || (cs.splitOn '.').all (fun name => OpenPath.isName (.word name))

/-- Arguments that are single words, at least one. -/
def areCommonArguments (cs : List Char) : Bool :=
  (cs.splitOn ',').all fun arg =>
    let word := trimGaps arg
    !word.isEmpty && word.all (fun c => OpenElements.isWordChar c && c ≠ '\\')

def isCommonCall (cs : List Char) : Bool :=
  isCommonName (trimGaps (cs.takeWhile (· ≠ ':'))) &&
    match cs.dropWhile (· ≠ ':') with
    | [] => false
    | _ :: arguments => areCommonArguments arguments

/-- Whether every reference in the rest of a text is a common one. `inside` holds what has been read
of an open one, reversed. -/
def areCommonFrom (inside : Option (List Char)) : List Char → Bool
  | [] => inside.isNone
  | '$' :: '\x7b' :: cs =>
    match inside with
    | none => areCommonFrom (some []) cs
    | some _ => false
  | c :: cs =>
    match inside with
    | none => areCommonFrom none cs
    | some read =>
      if c = '\x7d' then
        (isCommonPath (trimGaps read.reverse) || isCommonCall read.reverse) && areCommonFrom none cs
      else areCommonFrom (some (c :: read)) cs

/-- Whether a text is accepted where references have to be well formed: it can be read, or every
reference in it has one of the two common forms, which are not read again. -/
def isAccepted (s : String) : Bool :=
  areCommonFrom none s.toList || (parts? s).isSome

end ResumePress.Config
