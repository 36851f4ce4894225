import ThreatHunt.Text.Words
import ThreatHunt.Unicode.Property

/-!
Texts between double quotes, as messages show a text that was found in the wrong place: quotes,
backslashes and line breaks are escaped, and what cannot be seen is written by its number.
-/

namespace ThreatHunt.Text

/-- Characters that leave no mark of their own: controls, marks that join the character before,
separators other than the space, directions, private characters, and those yet to be assigned. -/
def unseenChars : CharSet :=
  ((GeneralCategory.charsOf
    [.control, .format, .privateUse, .unassigned, .lineSeparator, .paragraphSeparator,
      .spaceSeparator]).union Unicode.graphemeExtend).diff (CharSet.single ' ')

def isUnseen (c : Char) : Bool := unseenChars.has c

/-- The hexadecimal digits of a number without leading zeros. -/
def hexNumber (n : Nat) : List Char :=
  match (hex 6 n).dropWhile (· == '0') with
  | [] => ['0']
  | ds => ds

/-- One character between quotes. -/
def quoteChar (c : Char) : List Char :=
  if c == '\x22' then ['\\', '\x22']
  else if c == '\\' then ['\\', '\\']
  else if c == '\n' then ['\\', 'n']
  else if c == '\r' then ['\\', 'r']
  else if c == '\t' then ['\\', 't']
  else if c.toNat == 0 then ['\\', '0']
  else if isUnseen c then ['\\', 'u', '\x7b'] ++ hexNumber c.toNat ++ ['\x7d']
  else [c]

/-- The text between quotes. -/
def quoted (s : String) : String :=
  String.ofList ('\x22' :: s.toList.flatMap quoteChar ++ ['\x22'])

end ThreatHunt.Text
