import TypedSql.Text.Hex
import TypedSql.Text.Hidden

/-!
Text between double quotes as developers read it in messages: quotes and backslashes are escaped,
and so is every character that would not show.
-/

namespace TypedSql.Text

/-- A character as it stands in an escaped text. -/
def escapeChar (c : Char) : List Char :=
  if c = '"' then ['\\', '"']
  else if c = '\\' then ['\\', '\\']
  else if c = '\x00' then ['\\', '0']
  else if c = '\t' then ['\\', 't']
  else if c = '\r' then ['\\', 'r']
  else if c = '\n' then ['\\', 'n']
  else if isHiddenChar c then ['\\', 'u', '\x7b'] ++ hexDigits c.toNat ++ ['\x7d']
  else [c]

/-- A text between double quotes, with all that needs it escaped. -/
def escaped (text : String) : String :=
  String.ofList ('"' :: (text.toList.flatMap escapeChar ++ ['"']))

end TypedSql.Text
