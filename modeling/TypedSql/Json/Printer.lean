import TypedSql.Double.Printer
import TypedSql.Json.Basic
import TypedSql.Text.Hex

/-!
The compact text of JSON documents: no spaces, and only quotes, backslashes and controls escaped.
-/

namespace TypedSql.Json

open Text

/-- A character as it stands in a JSON string. -/
def escapeChar (c : Char) : List Char :=
  if c = '"' then ['\\', '"']
  else if c = '\\' then ['\\', '\\']
  else if c = '\n' then ['\\', 'n']
  else if c = '\r' then ['\\', 'r']
  else if c = '\t' then ['\\', 't']
  else if c = '\x08' then ['\\', 'b']
  else if c = '\x0c' then ['\\', 'f']
  else if c.toNat < 0x20 then ['\\', 'u'] ++ hexPadded 4 c.toNat
  else [c]

def stringText (s : String) : List Char :=
  '"' :: (s.toList.flatMap escapeChar ++ ['"'])

/-- A double; one that is not finite has no JSON form but `null`. -/
def doubleText (x : Double) : List Char :=
  if x.isFinite then x.render .json else "null".toList

def numberText : JsonNumber → List Char
  | .natural n => digits n.toNat
  | .negative n => signedDigits n.toInt
  | .real x => doubleText x

mutual

/-- A document without any spaces. -/
def toText : Json → List Char
  | null => "null".toList
  | bool true => "true".toList
  | bool false => "false".toList
  | number n => numberText n
  | string s => stringText s
  | array items => '[' :: (itemsText items ++ [']'])
  | object fields => '\x7b' :: (fieldsText fields ++ ['\x7d'])

def itemsText : List Json → List Char
  | [] => []
  | [j] => toText j
  | j :: js => toText j ++ ',' :: itemsText js

def fieldsText : List (String × Json) → List Char
  | [] => []
  | [(k, j)] => stringText k ++ ':' :: toText j
  | (k, j) :: fields => stringText k ++ ':' :: (toText j ++ ',' :: fieldsText fields)

end

end TypedSql.Json
