import TypedSql.Calendar.Timestamp
import TypedSql.Text.Blank

/-!
Dates and times read from text. White space is allowed around the numbers, numbers may have fewer
digits than they are written with, and a moment may carry an offset from universal time.
-/

namespace TypedSql

open Text

namespace Calendar

/-- A step of reading: what was read and the rest of the text. -/
abbrev Reader (α : Type) := List Char → Option (α × List Char)

/-- At most `width` digits, and at least one. -/
def readNumber (width : Nat) : Reader Nat := fun cs =>
  let ds := (cs.take width).takeWhile Char.isDigit
  if ds.isEmpty then none else some (digitsValue ds, cs.drop ds.length)

/-- White space and then a number of at most two digits, in the given range. -/
def readPart (least greatest : Nat) : Reader Nat := fun cs => do
  let (n, cs) ← readNumber 2 (trimLeft cs)
  if least ≤ n ∧ n ≤ greatest then some (n, cs) else none

/-- White space and then a year: four digits at most, any number of them behind a sign. -/
def readYear : Reader Int := fun cs => do
  let inRange := fun y : Int => if -2147483648 ≤ y ∧ y ≤ 2147483647 then some y else none
  match trimLeft cs with
  | '-' :: cs =>
    let (n, cs) ← readNumber cs.length cs
    return (← inRange (-(n : Int)), cs)
  | '+' :: cs =>
    let (n, cs) ← readNumber cs.length cs
    return (← inRange n, cs)
  | cs =>
    let (n, cs) ← readNumber 4 cs
    return (← inRange n, cs)

/-- White space and then the given mark. -/
def readMark (mark : Char) : Reader Unit := fun cs =>
  match trimLeft cs with
  | c :: cs => if c = mark then some ((), cs) else none
  | [] => none

/-- A fraction of a second in nanoseconds, zero if there is no point. Digits after the ninth are
passed over. -/
def readFraction : Reader Nat := fun cs =>
  match cs with
  | '.' :: cs =>
    let ds := cs.takeWhile Char.isDigit
    if ds.isEmpty then none
    else
      let nine := ds.take 9
      some (digitsValue nine * Nat.pow 10 (9 - nine.length), cs.drop ds.length)
  | cs => some (0, cs)

/-- Nothing but white space is left. -/
def readEnd : List Char → Option Unit := fun cs =>
  if cs.all isBlankChar then some () else none

/-- The parts of a date: year, month, day. -/
def readDateParts : Reader (Int × Nat × Nat) := fun cs => do
  let (year, cs) ← readYear cs
  let (_, cs) ← readMark '-' cs
  let (month, cs) ← readPart 1 12 cs
  let (_, cs) ← readMark '-' cs
  let (day, cs) ← readPart 1 31 cs
  return ((year, month, day), cs)

def readHourMinute : Reader (Nat × Nat) := fun cs => do
  let (hour, cs) ← readPart 0 23 cs
  let (_, cs) ← readMark ':' cs
  let (minute, cs) ← readPart 0 59 cs
  return ((hour, minute), cs)

/-- A colon, the second and its fraction. -/
def readSecond : Reader (Nat × Nat) := fun cs => do
  let (_, cs) ← readMark ':' cs
  let (second, cs) ← readPart 0 60 cs
  let (nanosecond, cs) ← readFraction cs
  return ((second, nanosecond), cs)

/-- The time of day with the given parts, where second 60 is a leap second. -/
def timeOf? (hour minute second nanosecond : Nat) : Option Time :=
  if second = 60 then Time.of? hour minute 59 (nanosecond + 1000000000)
  else Time.of? hour minute second nanosecond

def readTime : Reader Time := fun cs => do
  let ((hour, minute), cs) ← readHourMinute cs
  let ((second, nanosecond), cs) ← readSecond cs
  return (← timeOf? hour minute second nanosecond, cs)

/-- An offset from universal time in seconds: a `Z`, the word `UTC`, or a sign with two digits for
the hours and two for the minutes. -/
def readOffset : Reader Int := fun cs =>
  match cs with
  | 'Z' :: cs => some (0, cs)
  | 'z' :: cs => some (0, cs)
  | sign :: h₁ :: h₂ :: cs =>
    if [sign, h₁, h₂].map Char.toUpper == ['U', 'T', 'C'] then some (0, cs)
    else if (sign == '+' || sign == '-' || sign == '−') && h₁.isDigit && h₂.isDigit then
      match cs.dropWhile fun c => c == ':' || isBlankChar c with
      | m₁ :: m₂ :: cs =>
        if m₁.isDigit && m₂.isDigit && m₁ < '6' then
          let seconds : Int := 3600 * digitsValue [h₁, h₂] + 60 * digitsValue [m₁, m₂]
          some (if sign == '+' then seconds else -seconds, cs)
        else none
      | _ => none
    else none
  | _ => none

end Calendar

open Calendar

def Date.ofText? (cs : List Char) : Option Date := do
  let ((year, month, day), cs) ← readDateParts cs
  readEnd cs
  Date.of? year month day

/-- Reads a time of day; the second may be left out. -/
def Time.ofText? (cs : List Char) : Option Time := do
  let ((hour, minute), cs) ← readHourMinute cs
  let ((second, nanosecond), cs) := (readSecond cs).getD ((0, 0), cs)
  readEnd cs
  timeOf? hour minute second nanosecond

/-- Reads a date and a time with the letter `T` between them. -/
def Timestamp.ofText? (cs : List Char) : Option Timestamp := do
  let ((year, month, day), cs) ← readDateParts cs
  let (_, cs) ← readMark 'T' cs
  let (time, cs) ← readTime cs
  readEnd cs
  return ⟨← Date.of? year month day, time⟩

/-- Reads a moment: a date, a `T` or one space, a time and an offset. The answer is in universal
time. -/
def Timestamp.ofOffsetText? (cs : List Char) : Option Timestamp := do
  let ((year, month, day), cs) ← readDateParts cs
  let cs ← match cs with
    | c :: cs => if c == 'T' || c == 't' || c == ' ' then some cs else none
    | [] => none
  let (time, cs) ← readTime cs
  let (offset, cs) ← readOffset (trimLeft cs)
  readEnd cs
  if 86400 ≤ offset.natAbs then none
  else Timestamp.addSeconds? ⟨← Date.of? year month day, time⟩ (-offset)

end TypedSql
