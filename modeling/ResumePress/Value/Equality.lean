import ResumePress.Value.Basic

/-!
# Equality of values

Two values are the same if they mean the same: truth values, whole numbers, skill levels and floats
are compared as numbers, texts by their characters whether trusted or not, mappings without regard
to order. Lists and tuples are never the same.
-/
namespace ResumePress

namespace Value

/-- The whole number that a value counts as, truth values included. -/
def number? : Value → Option Int
  | bool b => some (if b then 1 else 0)
  | int n => some n
  | proficiency p => some p.ordinal
  | _ => none

/-- Sameness of two values that hold no other values. -/
def sameAtom (a b : Value) : Bool :=
  match a.content?, b.content? with
  | some s, some t => s == t
  | _, _ =>
    match a, b with
    | null, null => true
    | float x, float y => x.same y
    | float x, b => match b.number? with
      | some n => x.isInt n
      | none => false
    | a, float y => match a.number? with
      | some n => y.isInt n
      | none => false
    | a, b => match a.number?, b.number? with
      | some m, some n => m == n
      | _, _ => false

end Value

mutual

def Value.same : Value → Value → Bool
  | .list xs, .list ys => sameAll xs ys
  | .tuple xs, .tuple ys => sameAll xs ys
  | .mapping es, .mapping fs => es.length == fs.length && sameEntries es fs
  | .node m, .node n => m.same n
  | .record j xs, .record k ys => j == k && sameAll xs ys
  | a, b => a.sameAtom b

/-- Nodes are the same if their kinds and all their fields are. -/
def Node.same : Node → Node → Bool
  | .document xs, .document ys => sameAll xs ys
  | .container xs, .container ys => sameAll xs ys
  | .aligned a h v, .aligned b i w => a.same b && h.same i && v.same w
  | .row xs, .row ys => sameAll xs ys
  | .column xs, .column ys => sameAll xs ys
  | .text a, .text b => a.same b
  | .title a, .title b => a.same b
  | .sectionTitle a, .sectionTitle b => a.same b
  | .orderedList xs, .orderedList ys => sameAll xs ys
  | .unorderedList xs, .unorderedList ys => sameAll xs ys
  | .percentBar m a, .percentBar n b => m.whole.amount == n.whole.amount && a.same b
  | .rectangle a m c, .rectangle b n d => a.same b && m.whole.amount == n.whole.amount && c == d
  | .card a, .card b => a.same b
  | .italics a, .italics b => a.same b
  | .bold a, .bold b => a.same b
  | .link a u, .link b v => a.same b && u.same v
  | .foreground a c, .foreground b d => a.same b && c == d
  | .background a c, .background b d => a.same b && c == d
  | .fadeIn a, .fadeIn b => a.same b
  | _, _ => false

def sameAll : List Value → List Value → Bool
  | [], [] => true
  | x :: xs, y :: ys => x.same y && sameAll xs ys
  | _, _ => false

/-- Whether every entry has its like among `fs`. -/
def sameEntries : List (Value × Value) → List (Value × Value) → Bool
  | [], _ => true
  | (k, v) :: es, fs => fs.any (fun f => k.same f.1 && v.same f.2) && sameEntries es fs

end

namespace Value

/-- The value under a key, looked up by sameness. -/
def find? (key : Value) : List (Value × Value) → Option Value
  | [] => none
  | (k, v) :: es => if key.same k then some v else find? key es

/-- Puts a value under a key, where `one key k` says that `k` is this key. A key that is there keeps
its place and its spelling. -/
def putBy (one : Value → Value → Bool) (key value : Value) :
    List (Value × Value) → List (Value × Value)
  | [] => [(key, value)]
  | (k, v) :: es => if one key k then (k, value) :: es else (k, v) :: putBy one key value es

def put : Value → Value → List (Value × Value) → List (Value × Value) :=
  putBy same

/-- The mapping of the given entries, where the last value of a key counts. -/
def ofEntries (entries : List (Value × Value)) : Value :=
  mapping (entries.foldl (fun es e => put e.1 e.2 es) [])

def field? (name : String) (entries : List (Value × Value)) : Option Value :=
  find? (text name) entries

end Value

end ResumePress
