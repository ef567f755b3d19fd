import TypedSql.Json.Token

/-!
JSON text read into a document by a machine that takes one token after another. Its stack holds
the arrays and objects that are still open, so a limit on the stack is a limit on nesting.
-/

namespace TypedSql.Json

/-- An array or object that is still open, with its finished parts, the last one first. -/
inductive Frame where
  | array (items : List Json)
  | object (fields : List (String × Json)) (key : String)

/-- What the next token may be. -/
inductive Expectation where
  /-- A document. -/
  | value
  /-- A document, or the end of an empty array. -/
  | valueOrClose
  /-- A key. -/
  | key (fields : List (String × Json))
  /-- A key, or the end of an empty object. -/
  | keyOrClose
  /-- The colon behind a key. -/
  | colon (fields : List (String × Json)) (key : String)
  /-- A comma or the end of what is open, behind a finished document. -/
  | after (j : Json)

/-- The machine between two tokens. -/
structure ParseState where
  expect : Expectation
  stack : List Frame

/-- How many arrays and objects may be open at once. -/
def maxDepth : Nat := 127

/-- A token where a document is expected. -/
def stepValue (token : Token) (stack : List Frame) : Option ParseState :=
  match token with
  | .scalar j => some ⟨.after j, stack⟩
  | .string s => some ⟨.after (string s), stack⟩
  | .openArray =>
    if stack.length < maxDepth then some ⟨.valueOrClose, .array [] :: stack⟩ else none
  | .openObject =>
    if stack.length < maxDepth then some ⟨.keyOrClose, .object [] "" :: stack⟩ else none
  | _ => none

/-- One token. The top of the stack is replaced where a key becomes known. -/
def step (state : ParseState) (token : Token) : Option ParseState :=
  match state.expect, token, state.stack with
  | .value, token, stack => stepValue token stack
  | .valueOrClose, .closeArray, .array _ :: stack => some ⟨.after (array []), stack⟩
  | .valueOrClose, token, stack => stepValue token stack
  | .keyOrClose, .closeObject, .object _ _ :: stack => some ⟨.after (object []), stack⟩
  | .keyOrClose, .string key, .object _ _ :: stack => some ⟨.colon [] key, stack⟩
  | .key fields, .string key, stack => some ⟨.colon fields key, stack⟩
  | .colon fields key, .colon, stack => some ⟨.value, .object fields key :: stack⟩
  | .after j, .comma, .array items :: stack => some ⟨.value, .array (j :: items) :: stack⟩
  | .after j, .closeArray, .array items :: stack =>
    some ⟨.after (array (j :: items).reverse), stack⟩
  | .after j, .comma, .object fields key :: stack => some ⟨.key ((key, j) :: fields), stack⟩
  | .after j, .closeObject, .object fields key :: stack =>
    some ⟨.after (object ((key, j) :: fields).reverse), stack⟩
  | _, _, _ => none

/-- The document of a run that ended with nothing open. -/
def ParseState.result? : ParseState → Option Json
  | ⟨.after j, []⟩ => some j
  | _ => none

/-- Reads a document and leaves objects as they are written, with the fields in their order and
keys that occur again. -/
def ofRawText? (cs : List Char) : Option Json := do
  let ts ← tokens cs
  let state ← ts.foldlM step ⟨.value, []⟩
  state.result?

def ofText? (cs : List Char) : Option Json :=
  (ofRawText? cs).map normalize

end TypedSql.Json
