import TypedSql.Text.Hex

/-!
Universally unique identifiers: 128 bits, written as five groups of hexadecimal digits.
-/

namespace TypedSql

/-- An identifier of 128 bits. -/
structure Uuid where
  bits : BitVec 128
  deriving DecidableEq, Repr, Inhabited

namespace Uuid

open Text

/-- The lengths of the groups of digits. -/
def groupLengths : List Nat := [8, 4, 4, 4, 12]

/-- The digits cut into groups of the given lengths, with a hyphen between two groups. -/
def hyphenate : List Nat → List Char → List Char
  | [], _ => []
  | [n], cs => cs.take n
  | n :: ns, cs => cs.take n ++ '-' :: hyphenate ns (cs.drop n)

/-- The digits of groups of the given lengths, with a hyphen between two groups and nothing
after the last. -/
def unhyphenate? : List Nat → List Char → Option (List Char)
  | [], cs => if cs.isEmpty then some [] else none
  | [n], cs => if cs.length = n then some cs else none
  | n :: ns, cs =>
    match cs.drop n with
    | '-' :: rest => (unhyphenate? ns rest).map (cs.take n ++ ·)
    | _ => none

def toText (u : Uuid) : List Char :=
  hyphenate groupLengths (hexPadded 32 u.bits.toNat)

/-- An identifier from its 32 digits. -/
def ofDigits? (cs : List Char) : Option Uuid :=
  if cs.length = 32 then (readHex? cs).map fun n => ⟨BitVec.ofNat 128 n⟩ else none

/-- An identifier from its hyphenated text. -/
def ofHyphenated? (cs : List Char) : Option Uuid :=
  (unhyphenate? groupLengths cs).bind ofDigits?

/-- Reads an identifier: plain digits, or the hyphenated text by itself, in braces or behind
`urn:uuid:` in letters of either case. -/
def ofText? (cs : List Char) : Option Uuid :=
  if cs.length = 32 then ofDigits? cs
  else if cs.length = 36 then ofHyphenated? cs
  else if cs.length = 38 && cs.head? == some '\x7b' && cs.getLast? == some '\x7d' then
    ofHyphenated? (cs.drop 1).dropLast
  else if (cs.take 9).map Char.toLower == "urn:uuid:".toList then ofHyphenated? (cs.drop 9)
  else none

/-- An identifier from its bytes, the first the most significant. -/
def ofBytes (bytes : List UInt8) : Uuid :=
  ⟨BitVec.ofNat 128 (bytes.foldl (fun n b => 256 * n + b.toNat) 0)⟩

end Uuid

end TypedSql
