/-!
Quoted SQL strings: the payload between single quotes, with every quote of its own written twice,
so that the quotes of the payload can be told from the one that closes the string.
-/

namespace TypedSql.Text

/-- A payload with each quote doubled. -/
def doubleQuotes : List Char → List Char
  | [] => []
  | c :: cs => if c = '\'' then '\'' :: '\'' :: doubleQuotes cs else c :: doubleQuotes cs

/-- A payload as a quoted SQL string. -/
def quote (payload : List Char) : List Char :=
  '\'' :: (doubleQuotes payload ++ ['\''])

end TypedSql.Text
