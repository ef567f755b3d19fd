import TypedSql.Json.Basic
import TypedSql.Text.Hex
import TypedSql.Text.Numeral

/-!
JSON text cut into tokens: brackets, commas, colons, strings and the other scalars. White space
between tokens is dropped.
-/

namespace TypedSql.Json

open Text

inductive Token where
  | openArray
  | closeArray
  | openObject
  | closeObject
  | comma
  | colon
  | string (s : String)
  /-- A document that is no string and has no parts. -/
  | scalar (j : Json)
  deriving Repr

/-! ### Strings -/

/-- The character that a letter behind a backslash stands for. -/
def simpleEscape? : Char → Option Char
  | '"' => some '"'
  | '\\' => some '\\'
  | '/' => some '/'
  | 'b' => some '\x08'
  | 'f' => some '\x0c'
  | 'n' => some '\n'
  | 'r' => some '\r'
  | 't' => some '\t'
  | _ => none

/-- The character that a code point stands for, if it is one by itself. -/
def charOf? (n : Nat) : Option Char :=
  if h : n.isValidChar then some (Char.ofNatAux n h) else none

/-- The rest of a string up to its closing quote, and what follows. Behind `\u` stand four
hexadecimal digits; a character beyond 16 bits takes two such escapes. -/
def scanString : List Char → Option (List Char × List Char)
  | [] => none
  | '"' :: cs => some ([], cs)
  | '\\' :: 'u' :: a :: b :: c :: d :: cs => do
    let n ← readHex? [a, b, c, d]
    if 0xd800 ≤ n && n ≤ 0xdbff then
      match cs with
      | '\\' :: 'u' :: a :: b :: c :: d :: cs =>
        let m ← readHex? [a, b, c, d]
        if 0xdc00 ≤ m && m ≤ 0xdfff then
          let (s, rest) ← scanString cs
          return ((← charOf? (0x10000 + 0x400 * (n - 0xd800) + (m - 0xdc00))) :: s, rest)
        else none
      | _ => none
    else
      let (s, rest) ← scanString cs
      return ((← charOf? n) :: s, rest)
  | '\\' :: c :: cs => do
    let x ← simpleEscape? c
    let (s, rest) ← scanString cs
    return (x :: s, rest)
  | c :: cs =>
    if c = '\\' ∨ c.toNat < 0x20 then none
    else (scanString cs).map fun (s, rest) => (c :: s, rest)

/-! ### Numbers -/

/-- The digits of a number taken as long as the significand stays below `2 ^ 64`, and the rest. -/
def takeSignificand : Nat → List Char → Nat × List Char
  | n, [] => (n, [])
  | n, c :: cs =>
    if c.isDigit && 10 * n + digitValue c < UInt64.size then
      takeSignificand (10 * n + digitValue c) cs
    else (n, c :: cs)

/-- The double nearest to `10 ^ n`. -/
def powerOfTen (n : Nat) : Double :=
  Double.ofRatio false (Nat.pow 10 n) 1

/-- The quotient by `10 ^ n`, by steps of at most `10 ^ 308` and each step rounded. The number is
zero after fewer steps than `fuel`, or the power is used up. -/
def scaleDown : Nat → Double → Nat → Double
  | 0, x, _ => x
  | fuel + 1, x, n =>
    if n ≤ 308 then x.div (powerOfTen n)
    else if x.isZero then x
    else scaleDown fuel (x.div (powerOfTen 308)) (n - 308)

/-- The double for `significand * 10 ^ exponent`: the significand is rounded, and then its product
or quotient by the power. None if it is too large. -/
def scaled? (negative : Bool) (significand : Nat) (exponent : Int) : Option Double :=
  let f := Double.ofRatio false significand 1
  let magnitude :=
    if exponent < 0 then some (scaleDown 8 f exponent.natAbs)
    else if 308 < exponent then (if f.isZero then some f else none)
    else
      let p := f.mul (powerOfTen exponent.natAbs)
      if p.isFinite then some p else none
  magnitude.map fun x => if negative then x.neg else x

/-- The exponent mark and the digits behind it, if they are there, and the rest. -/
def scanExponent (cs : List Char) : Option (Option Int × List Char) :=
  match cs with
  | c :: cs =>
    if c = 'e' ∨ c = 'E' then
      let (negative, ds) := match cs with
        | '-' :: cs => (true, cs)
        | '+' :: cs => (false, cs)
        | cs => (false, cs)
      match spanDigits ds with
      | ([], _) => none
      | (ds, rest) =>
        let n : Int := digitsValue ds
        some (some (if negative then -n else n), rest)
    else some (none, c :: cs)
  | [] => some (none, [])

/-- What follows the significand of a number: more whole digits, which only count; a fraction,
whose digits count while they fit; an exponent. -/
def scanNumberRest (negative : Bool) (significand : Nat) (cs : List Char) :
    Option (JsonNumber × List Char) := do
  let (dropped, cs) := spanDigits cs
  let (significand, exponent, isReal, cs) ← match cs with
    | '.' :: fraction =>
      let (all, rest) := spanDigits fraction
      let (n, unused) := takeSignificand significand all
      if all.isEmpty then none
      else some (n, (dropped.length : Int) - (all.length - unused.length : Nat), true, rest)
    | cs => some (significand, (dropped.length : Int), !dropped.isEmpty, cs)
  match ← scanExponent cs with
  | (some e, rest) => return (.real (← scaled? negative significand (exponent + e)), rest)
  | (none, rest) =>
    if isReal then return (.real (← scaled? negative significand exponent), rest)
    else if !negative then return (.natural (UInt64.ofNat significand), rest)
    else if 0 < significand ∧ significand ≤ Nat.pow 2 63 then
      return (.negative (Int64.ofInt (-(significand : Int))), rest)
    else return (.real (Double.ofInt significand).neg, rest)

/-- A number behind its sign. A leading zero stands alone. -/
def scanNumber (negative : Bool) (cs : List Char) : Option (JsonNumber × List Char) :=
  match cs with
  | '0' :: c :: rest => if c.isDigit then none else scanNumberRest negative 0 (c :: rest)
  | c :: _ =>
    if c.isDigit then
      let (n, rest) := takeSignificand 0 cs
      scanNumberRest negative n rest
    else none
  | [] => none

/-! ### Tokens -/

def isSpace (c : Char) : Bool :=
  c == ' ' || c == '\n' || c == '\t' || c == '\r'

/-- The first token of a text that does not begin with white space, and the rest. -/
def scanToken (cs : List Char) : Option (Token × List Char) :=
  match cs with
  | '[' :: cs => some (.openArray, cs)
  | ']' :: cs => some (.closeArray, cs)
  | '\x7b' :: cs => some (.openObject, cs)
  | '\x7d' :: cs => some (.closeObject, cs)
  | ',' :: cs => some (.comma, cs)
  | ':' :: cs => some (.colon, cs)
  | '"' :: cs => (scanString cs).map fun (s, cs) => (.string (String.ofList s), cs)
  | 'n' :: 'u' :: 'l' :: 'l' :: cs => some (.scalar .null, cs)
  | 't' :: 'r' :: 'u' :: 'e' :: cs => some (.scalar (.bool true), cs)
  | 'f' :: 'a' :: 'l' :: 's' :: 'e' :: cs => some (.scalar (.bool false), cs)
  | '-' :: cs => (scanNumber true cs).map fun (n, cs) => (.scalar (.number n), cs)
  | cs => (scanNumber false cs).map fun (n, cs) => (.scalar (.number n), cs)

/-- The tokens of a text. Every token takes a character at least, so as many steps as there are
characters are enough. -/
def tokensWithin : Nat → List Char → Option (List Token)
  | 0, cs => if (cs.dropWhile isSpace).isEmpty then some [] else none
  | steps + 1, cs =>
    match cs.dropWhile isSpace with
    | [] => some []
    | cs => do
      let (token, rest) ← scanToken cs
      return token :: (← tokensWithin steps rest)

def tokens (cs : List Char) : Option (List Token) :=
  tokensWithin cs.length cs

end TypedSql.Json
