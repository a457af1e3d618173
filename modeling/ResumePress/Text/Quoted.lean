import ResumePress.Text.Hex
import ResumePress.Text.Printable

/-!
# Quoted text

How a text is shown inside a message or inside a list: between single quotes, or between double
quotes when it holds a single one and no double one. The backslash, the quote in use, line ends,
tabs and unprintable characters are escaped.
-/
namespace ResumePress.Text

/-- The quote that needs fewer escapes; the single one if both are equal. -/
def quoteMark (cs : List Char) : Char :=
  if cs.contains '\x27' && !cs.contains '\x22' then '\x22' else '\x27'

/-- An unprintable character by its number, with two, four or eight digits. -/
def numbered (c : Char) : List Char :=
  let n := c.toNat
  if n < 0x100 then '\\' :: 'x' :: hexFixed 2 n
  else if n < 0x10000 then '\\' :: 'u' :: hexFixed 4 n
  else '\\' :: 'U' :: hexFixed 8 n

/-- One character between quotes of the kind `mark`. -/
def quotedChar (mark c : Char) : List Char :=
  if c = mark || c = '\\' then ['\\', c]
  else if c = '\n' then ['\\', 'n']
  else if c = '\r' then ['\\', 'r']
  else if c = '\t' then ['\\', 't']
  else if isPrintable c then [c]
  else numbered c

def quoted (s : String) : String :=
  let mark := quoteMark s.toList
  String.ofList (mark :: s.toList.flatMap (quotedChar mark) ++ [mark])

end ResumePress.Text
