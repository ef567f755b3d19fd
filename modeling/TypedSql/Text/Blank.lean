/-!
White space, as the Unicode property of that name has it, and the operations that look at nothing
else: trimming a text, telling a blank one, taking its first word.
-/

namespace TypedSql.Text

/-- The Unicode property `White_Space`. -/
def isBlankChar (c : Char) : Bool :=
  let n := c.toNat
  (0x09 ≤ n && n ≤ 0x0d) || n == 0x20 || n == 0x85 || n == 0xa0 || n == 0x1680 ||
    (0x2000 ≤ n && n ≤ 0x200a) || n == 0x2028 || n == 0x2029 || n == 0x202f || n == 0x205f ||
    n == 0x3000

/-- The text after its leading white space. -/
def trimLeft (cs : List Char) : List Char :=
  cs.dropWhile isBlankChar

/-- The text without white space at either end. -/
def trim (cs : List Char) : List Char :=
  (trimLeft (trimLeft cs).reverse).reverse

/-- Whether the text has no character but white space. -/
def isBlank (text : String) : Bool :=
  text.toList.all isBlankChar

/-- The first word: the characters up to the white space that follows, none if there is no word. -/
def firstWord (text : String) : String :=
  String.ofList ((trimLeft text.toList).takeWhile (!isBlankChar ·))

end TypedSql.Text
