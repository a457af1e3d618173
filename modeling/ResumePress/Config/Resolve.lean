import ResumePress.Config.Reference
import ResumePress.Value.Equality
import ResumePress.Value.Printing

/-!
# Resolving references

A text that is nothing but a reference becomes the value that it refers to; in a longer text the
value is inserted as a page would show it, if it can be spelled out. A path leads through mappings
by their keys and through lists by position. A chain of references that is longer than the
configuration has texts comes back to where it was and has no value.
-/
namespace ResumePress.Config

/-- Where a value is: the collections around it, innermost first. -/
abbrev Around := List Value

/-- The value that a reference in the given surroundings stands for. -/
abbrev Lookup := Around → Reference → Except ConfigFault Value

/-- Whether a text holds anything to resolve. -/
def refers (s : String) : Bool :=
  go s.toList
where
  go : List Char → Bool
    | '$' :: '\x7b' :: _ => true
    | _ :: cs => go cs
    | [] => false

def insertAll (look : Lookup) (around : Around) : List Part → Except ConfigFault (List Char)
  | [] => .ok []
  | .chars cs :: ps => do
    .ok (cs ++ (← insertAll look around ps))
  | .reference r :: ps => do
    let v ← look around r
    if v.isSpellable then .ok (v.printed.toList ++ (← insertAll look around ps))
    else .error .unresolved

def resolveText (look : Lookup) (around : Around) (s : String) : Except ConfigFault Value :=
  if refers s then
    match parts? s with
    | none => .error .badReference
    | some [.reference r] => look around r
    | some ps => (insertAll look around ps).map (fun cs => .text (String.ofList cs))
  else .ok (.text s)

mutual

def resolveWith (look : Lookup) (around : Around) : Value → Except ConfigFault Value
  | .text s => resolveText look around s
  | .list items => (resolveItems look (.list items :: around) items).map .list
  | .mapping entries => (resolveEntries look (.mapping entries :: around) entries).map .mapping
  | v => .ok v

def resolveItems (look : Lookup) (around : Around) :
    List Value → Except ConfigFault (List Value)
  | [] => .ok []
  | v :: vs => do
    let v ← resolveWith look around v
    .ok (v :: (← resolveItems look around vs))

def resolveEntries (look : Lookup) (around : Around) :
    List (Value × Value) → Except ConfigFault (List (Value × Value))
  | [] => .ok []
  | (k, v) :: es => do
    let v ← resolveWith look around v
    .ok ((k, v) :: (← resolveEntries look around es))

end

mutual

def textCount : Value → Nat
  | .text _ => 1
  | .list items => itemsTextCount items
  | .mapping entries => entriesTextCount entries
  | _ => 0

def itemsTextCount : List Value → Nat
  | [] => 0
  | v :: vs => textCount v + itemsTextCount vs

def entriesTextCount : List (Value × Value) → Nat
  | [] => 0
  | (_, v) :: es => textCount v + entriesTextCount es

end

def child? (v : Value) (key : String) : Option Value :=
  match v with
  | .mapping entries => Value.field? key entries
  | .list items => (Text.decimal? key.toList).bind (items[·]?)
  | _ => none

/-- Follows a path. A reference met on the way is resolved first. -/
def follow (look : Lookup) (v : Value) (around : Around) :
    List String → Except ConfigFault (Value × Around)
  | [] => .ok (v, around)
  | k :: ks =>
    let through : Except ConfigFault Value := match v with
      | .text s => if refers s then resolveText look around s else .error .unresolved
      | v => .ok v
    match through with
    | .error e => .error e
    | .ok v =>
      match child? v k with
      | some w => follow look w (v :: around) ks
      | none => .error .unresolved

/-- The keys that a key on a path stands for. A reference may stand for several. -/
def keyNames (look : Lookup) (around : Around) : Key → Except ConfigFault (List String)
  | .word cs => .ok [String.ofList cs]
  | .inner r =>
    match look around r with
    | .ok (.text s) => .ok (s.splitOn ".")
    | .ok _ => .error .unresolved
    | .error e => .error e

/-- Where a path with leading dots begins. -/
def origin? (root : Value) (around : Around) : Nat → Option (Value × Around)
  | 0 => some (root, [])
  | dots + 1 =>
    match around.drop dots with
    | [] => none
    | v :: outer => some (v, outer)

/-- Whether a function comes with references, or may do so as its name is given by a reference. -/
def isBuiltIn : List Key → Bool
  | .word ['o', 'c'] :: _ => true
  | name => name.any fun k => match k with
    | .inner _ => true
    | .word _ => false

/-- The value that a reference stands for, over at most so many further references. -/
def lookup (root : Value) : Nat → Lookup
  | 0 => fun _ _ => .error .unresolved
  | n + 1 => fun around r =>
    match r with
    | .call name => .error (if isBuiltIn name then .notCovered else .unresolved)
    | .path dots keys => do
      let names ← keys.mapM (keyNames (lookup root n) around)
      match origin? root around dots with
      | none => .error .unresolved
      | some (v, outer) =>
        let (target, around) ← follow (lookup root n) v outer names.flatten
        match target with
        | .text "???" => .error .unresolved
        | target => resolveWith (lookup root n) around target

def resolve (root : Value) : Except ConfigFault Value :=
  resolveWith (lookup root (textCount root + 1)) [] root

end ResumePress.Config
