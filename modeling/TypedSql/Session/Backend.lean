import TypedSql.Error
import TypedSql.Value.Basic

/-!
Backends. A backend runs SQL text in one of two ways: as a query, which answers with rows, or as a
command, which answers with a number of rows. Its answers may depend on all that it was asked
before, and it may never answer.
-/

namespace TypedSql

/-- A run against a backend with states `σ`: it ends with a result or an error, or not at all, and
leaves a state in each case. -/
abbrev Session (σ α : Type) := ExceptT SqlError (OptionT (StateM σ)) α

namespace Session

variable {σ α : Type}

/-- A result that needs no backend. -/
def ofResult (r : SqlResult α) : Session σ α :=
  ExceptT.mk (pure r)

/-- A run that never ends. -/
def silent : Session σ α :=
  fun s => (none, s)

/-- Runs from a state: the result, if the run ends, and the state it leaves. -/
def runFrom (run : Session σ α) (s : σ) : Option (SqlResult α) × σ :=
  run s

end Session

/-- What a backend does with SQL text. -/
structure Backend (σ : Type) where
  query : String → Session σ (List Record)
  execute : String → Session σ Nat

/-- A call that a backend receives. -/
inductive Call where
  | query (sql : String)
  | execute (sql : String)
  deriving DecidableEq, Repr

/-- The call as a line of a log. -/
def Call.line : Call → String
  | query sql => "query: " ++ sql
  | execute sql => "execute: " ++ sql

namespace Backend

variable {σ : Type}

/-- A run with a call noted in the log first. -/
def noting {α : Type} (call : Call) (run : Session σ α) : Session (σ × List Call) α :=
  fun (s, log) =>
    let (answer, s) := run s
    (answer, (s, log ++ [call]))

/-- The backend with a log of the calls it receives. -/
def logged (b : Backend σ) : Backend (σ × List Call) where
  query sql := noting (.query sql) (b.query sql)
  execute sql := noting (.execute sql) (b.execute sql)

end Backend

/-- A backend that gives the same answers whatever it is asked. -/
structure Canned where
  rows : List Record := []
  affected : Nat := 0
  /-- The text of the failure that it answers with, if it fails. -/
  failure : Option String := none
  /-- It does not answer at all. -/
  silent : Bool := false

namespace Canned

def answer {α : Type} (c : Canned) (result : α) : Session Unit α :=
  if c.silent then Session.silent
  else match c.failure with
    | some text => throw (.backend { text })
    | none => pure result

/-- The backend with these answers. -/
def backend (c : Canned) : Backend Unit where
  query _ := c.answer c.rows
  execute _ := c.answer c.affected

end Canned

end TypedSql
