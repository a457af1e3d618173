/-!
# Escaping for markup

The five characters that mean something to markup and the entities that stand for them. Escaping
replaces every occurrence, also inside what already looks like an entity, so it is done once.
-/
namespace ResumePress.Text

/-- Whether texts are put into a page as they are or with their markup characters escaped. -/
inductive EscapePolicy
  | verbatim
  | escape
  deriving DecidableEq, Repr

def entity (c : Char) : List Char :=
  if c = '&' then ['&', 'a', 'm', 'p', ';']
  else if c = '<' then ['&', 'l', 't', ';']
  else if c = '>' then ['&', 'g', 't', ';']
  else if c = '\x27' then ['&', '#', '3', '9', ';']
  else if c = '\x22' then ['&', '#', '3', '4', ';']
  else [c]

/-- The text with every markup character replaced by its entity. -/
def escape (s : String) : String :=
  String.ofList (s.toList.flatMap entity)

@[simp] theorem toList_escape (s : String) : (escape s).toList = s.toList.flatMap entity := by
  simp [escape]

@[simp] theorem escape_empty : escape "" = "" := rfl

theorem escape_append (s t : String) : escape (s ++ t) = escape s ++ escape t := by
  apply String.toList_inj.mp
  simp

end ResumePress.Text
