import ResumePress.Yaml.Token

/-!
# Trees

The collections of a document, read from its tokens in one pass. The reader keeps the collections
that are open, innermost first, each with the place in it where the next token belongs. What is
finished is delivered to the collection around it. Where something may be left out, nothing stands
for it; that is settled when the next token does not continue it.
-/
namespace ResumePress.Yaml

inductive Tree
  | scalar (isPlain : Bool) (text : List Char)
  | sequence (items : List Tree)
  | mapping (entries : List (Tree × Tree))

def Tree.nothing : Tree := .scalar true []

/-- Where in an entry of a mapping the reader stands. -/
inductive Slot
  /-- Before an entry or the end. -/
  | entry
  /-- Behind the mark of a key. -/
  | key
  /-- Behind a key. -/
  | colon (key : Tree)
  /-- Behind a colon. -/
  | value (key : Tree)
  /-- In an entry within a line that has no mark of a key. -/
  | bare
  /-- Behind an entry within a line. -/
  | comma

/-- Where in a sequence within a line the reader stands. -/
inductive ItemSlot
  | item
  | comma

/-- A collection that is open. What it holds so far is reversed. -/
inductive Frame
  | sequence (items : List Tree) (entered : Bool)
  | indentless (items : List Tree) (entered : Bool)
  | mapping (entries : List (Tree × Tree)) (slot : Slot)
  | flowSequence (items : List Tree) (slot : ItemSlot)
  | flowMapping (entries : List (Tree × Tree)) (slot : Slot)
  /-- A single entry that stands in a sequence. -/
  | pair (slot : Slot)

/-- The reader between two tokens. -/
inductive TreeState
  /-- At the beginning. -/
  | start
  /-- Behind the mark of a document. -/
  | marked
  /-- In a document, in the given collections. -/
  | within (frames : List Frame)
  /-- Behind a document. -/
  | finished (root : Tree)

namespace TreeState

def malformed {α : Type} : Except ConfigFault α :=
  .error .malformed

/-- Delivers what is finished to the innermost open collection. -/
def deliver (t : Tree) : List Frame → Except ConfigFault TreeState
  | [] => .ok (.finished t)
  | .sequence items _ :: fs => .ok (.within (.sequence (t :: items) false :: fs))
  | .indentless items _ :: fs => .ok (.within (.indentless (t :: items) false :: fs))
  | .mapping entries .key :: fs => .ok (.within (.mapping entries (.colon t) :: fs))
  | .mapping entries (.value k) :: fs =>
    .ok (.within (.mapping ((k, t) :: entries) .entry :: fs))
  | .flowSequence items _ :: fs => .ok (.within (.flowSequence (t :: items) .comma :: fs))
  | .flowMapping entries .key :: fs => .ok (.within (.flowMapping entries (.colon t) :: fs))
  | .flowMapping entries .bare :: fs =>
    .ok (.within (.flowMapping ((t, .nothing) :: entries) .comma :: fs))
  | .flowMapping entries (.value k) :: fs =>
    .ok (.within (.flowMapping ((k, t) :: entries) .comma :: fs))
  | .pair .key :: fs => .ok (.within (.pair (.colon t) :: fs))
  | .pair (.value k) :: .flowSequence items _ :: fs =>
    .ok (.within (.flowSequence (.mapping [(k, t)] :: items) .comma :: fs))
  | _ => malformed

/-- Begins something with a token. Blocks may begin only where `inBlock` says so, and a sequence
without an indentation of its own only as a part of a mapping. -/
def begin (inBlock inMapping : Bool) (frames : List Frame) (t : Token) :
    Except ConfigFault TreeState :=
  match t with
  | .scalar isPlain text => deliver (.scalar isPlain text) frames
  | .flowSequence => .ok (.within (.flowSequence [] .item :: frames))
  | .flowMapping => .ok (.within (.flowMapping [] .entry :: frames))
  | .blockSequence =>
    if inBlock then .ok (.within (.sequence [] false :: frames)) else malformed
  | .blockMapping =>
    if inBlock then .ok (.within (.mapping [] .entry :: frames)) else malformed
  | .blockEntry =>
    if inMapping then .ok (.within (.indentless [] true :: frames)) else malformed
  | _ => malformed

/-- Whether nothing can stand in a block mapping before the token. -/
def endsSlot : Token → Bool
  | .key => true
  | .value => true
  | .blockEnd => true
  | _ => false

/-- Whether nothing can stand in a collection within a line before the token. -/
def endsFlowSlot : Token → Bool
  | .flowEntry => true
  | .flowSequenceEnd => true
  | .flowMappingEnd => true
  | _ => false

/-- What is left out before a token in a block mapping. -/
def settleMapping (entries : List (Tree × Tree)) (slot : Slot) (t : Token) :
    List (Tree × Tree) × Slot :=
  let slot : Slot := match slot with
    | .key => if endsSlot t then .colon .nothing else .key
    | slot => slot
  match slot with
  | .colon k => if t = .value then (entries, .colon k) else ((k, .nothing) :: entries, .entry)
  | .value k => if endsSlot t then ((k, .nothing) :: entries, .entry) else (entries, .value k)
  | slot => (entries, slot)

/-- What is left out before a token in an entry within a line; an entry that is done is answered
apart from what the reader stands in. -/
def settleEntry (slot : Slot) (t : Token) : Slot ⊕ (Tree × Tree) :=
  let slot : Slot := match slot with
    | .key => if t = .value || endsFlowSlot t then .colon .nothing else .key
    | slot => slot
  match slot with
  | .colon k => if t = .value then .inl (.colon k) else .inr (k, .nothing)
  | .value k => if endsFlowSlot t then .inr (k, .nothing) else .inl (.value k)
  | slot => .inl slot

/-- What is left out before a token, in the innermost collections. -/
def settle (frames : List Frame) (t : Token) : List Frame :=
  match frames with
  | .indentless items entered :: .mapping entries slot :: fs =>
    let close (items : List Tree) : List Frame :=
      match slot with
      | .key =>
        let (entries, slot) := settleMapping entries (.colon (.sequence items.reverse)) t
        .mapping entries slot :: fs
      | .value k => .mapping ((k, .sequence items.reverse) :: entries) .entry :: fs
      | slot => .mapping entries slot :: fs
    if entered then
      if endsSlot t then close (.nothing :: items) else frames
    else if t = .blockEntry then frames
    else close items
  | .mapping entries slot :: fs =>
    let (entries, slot) := settleMapping entries slot t
    .mapping entries slot :: fs
  | .flowMapping entries slot :: fs =>
    match settleEntry slot t with
    | .inl slot => .flowMapping entries slot :: fs
    | .inr entry => .flowMapping (entry :: entries) .comma :: fs
  | .pair slot :: .flowSequence items itemSlot :: fs =>
    match settleEntry slot t with
    | .inl slot => .pair slot :: .flowSequence items itemSlot :: fs
    | .inr entry => .flowSequence (.mapping [entry] :: items) .comma :: fs
  | frames => frames

def take (frames : List Frame) (t : Token) : Except ConfigFault TreeState :=
  match frames with
  | .sequence items false :: fs =>
    match t with
    | .blockEntry => .ok (.within (.sequence items true :: fs))
    | .blockEnd => deliver (.sequence items.reverse) fs
    | _ => malformed
  | .sequence items true :: fs =>
    match t with
    | .blockEntry => .ok (.within (.sequence (.nothing :: items) true :: fs))
    | .blockEnd => deliver (.sequence (.nothing :: items).reverse) fs
    | t => begin true false frames t
  | .indentless items false :: fs =>
    match t with
    | .blockEntry => .ok (.within (.indentless items true :: fs))
    | _ => malformed
  | .indentless items true :: fs =>
    match t with
    | .blockEntry => .ok (.within (.indentless (.nothing :: items) true :: fs))
    | t => begin true false frames t
  | .mapping entries .entry :: fs =>
    match t with
    | .key => .ok (.within (.mapping entries .key :: fs))
    | .blockEnd => deliver (.mapping entries.reverse) fs
    | _ => malformed
  | .mapping entries (.colon k) :: fs => .ok (.within (.mapping entries (.value k) :: fs))
  | .mapping _ _ :: _ => begin true true frames t
  | .flowSequence items .item :: fs =>
    match t with
    | .flowSequenceEnd => deliver (.sequence items.reverse) fs
    | .key => .ok (.within (.pair .key :: frames))
    | t => begin false false frames t
  | .flowSequence items .comma :: fs =>
    match t with
    | .flowSequenceEnd => deliver (.sequence items.reverse) fs
    | .flowEntry => .ok (.within (.flowSequence items .item :: fs))
    | _ => malformed
  | .flowMapping entries .entry :: fs =>
    match t with
    | .flowMappingEnd => deliver (.mapping entries.reverse) fs
    | .key => .ok (.within (.flowMapping entries .key :: fs))
    | t => begin false false (.flowMapping entries .bare :: fs) t
  | .flowMapping entries .comma :: fs =>
    match t with
    | .flowMappingEnd => deliver (.mapping entries.reverse) fs
    | .flowEntry => .ok (.within (.flowMapping entries .entry :: fs))
    | _ => malformed
  | .flowMapping entries (.colon k) :: fs =>
    .ok (.within (.flowMapping entries (.value k) :: fs))
  | .flowMapping _ _ :: _ => begin false false frames t
  | .pair (.colon k) :: fs => .ok (.within (.pair (.value k) :: fs))
  | .pair _ :: _ => begin false false frames t
  | [] => malformed

def next (s : TreeState) (t : Token) : Except ConfigFault TreeState :=
  match s, t with
  | .start, .documentStart => .ok .marked
  | .start, t => begin true false [] t
  | .marked, .documentEnd => .ok (.finished .nothing)
  | .marked, t => begin true false [] t
  | .within frames, t => take (settle frames t) t
  | .finished root, .documentEnd => .ok (.finished root)
  | .finished _, _ => malformed

/-- What was read when the tokens end; `none` if there was no document. -/
def result : TreeState → Except ConfigFault (Option Tree)
  | .start => .ok none
  | .marked => .ok (some .nothing)
  | .within _ => malformed
  | .finished root => .ok (some root)

end TreeState

def tree? (cs : List Char) : Except ConfigFault (Option Tree) := do
  let read ← (← tokens cs).foldlM TreeState.next .start
  read.result

end ResumePress.Yaml
