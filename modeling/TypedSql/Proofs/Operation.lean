import TypedSql.Proofs.Validation
import TypedSql.Session.Operations

/-!
The operations as data. Each has a gate, which looks at the kind of the statement, at the statement
itself and at what it returns, in this order. Behind the gate it makes one call, and what it makes
of the answer needs no backend any more; so an operation is its gate, its call and a reading of the
answer.
-/

namespace TypedSql

/-- The query, asked for one row only. -/
def Select.first {row : SqlType} (q : Select row) : Select row :=
  q.mapClauses fun c => { c with limit := some 1 }

theorem Select.limit_one {row : SqlType} (q : Select row) : q.limit 1 = .ok q.first :=
  rfl

/-- How many rows are asked for makes no difference to the check. -/
theorem Select.validate_first {row : SqlType} (q : Select row) :
    q.first.statement.validate = q.statement.validate := by
  rw [Statement.validate_eq, Statement.validate_eq]
  rfl

/-- An operation with the statement that it is to run. -/
inductive Operation where
  | fetchAll {row : SqlType} (q : Select row) (type : RowType)
  | fetchCount {row : SqlType} (q : Select row)
  | fetchOptional {row : SqlType} (q : Select row) (type : RowType)
  | fetchOne {row : SqlType} (q : Select row) (type : RowType)
  | fetchFirst {row : SqlType} (q : Select row) (type : RowType)
  | runInsert (q : Insert)
  | runUpdate (q : Update)
  | runDelete (q : Delete)
  | insertReturning (q : Insert) (type : RowType)
  | fetchRecords (s : Statement)
  | executeStatement (s : Statement)

namespace Operation

inductive Answer where
  | rows (rows : List Record)
  | row? (row : Option Record)
  | row (row : Record)
  | count (n : Int64)
  | affected (n : Nat)

variable {σ : Type}

def run (b : Backend σ) : Operation → Session σ Answer
  | fetchAll q type => .rows <$> b.fetchAll q type
  | fetchCount q => .count <$> b.fetchCount q
  | fetchOptional q type => .row? <$> b.fetchOptional q type
  | fetchOne q type => .row <$> b.fetchOne q type
  | fetchFirst q type => .row? <$> b.fetchFirst q type
  | runInsert q => .affected <$> b.runInsert q
  | runUpdate q => .affected <$> b.runUpdate q
  | runDelete q => .affected <$> b.runDelete q
  | insertReturning q type => .rows <$> b.insertReturning q type
  | fetchRecords s => .rows <$> b.fetchRecords s
  | executeStatement s => .affected <$> b.executeStatement s

def statement : Operation → Statement
  | fetchAll q _ | fetchCount q | fetchOptional q _ | fetchOne q _ | fetchFirst q _ => q.statement
  | runInsert q | insertReturning q _ => q.statement
  | runUpdate q => q.statement
  | runDelete q => q.statement
  | fetchRecords s | executeStatement s => s

/-- The kinds of statement that the operation is for. -/
def kinds : Operation → List StatementKind
  | runInsert _ | insertReturning _ _ => [.insert]
  | runUpdate _ => [.update]
  | runDelete _ => [.delete]
  | executeStatement _ => [.insert, .update, .delete]
  | _ => [.select]

def isErased : Operation → Bool
  | fetchRecords _ | executeStatement _ => true
  | _ => false

/-- The operation reads rows of an answer. The others learn how many rows were changed. -/
def readsRows : Operation → Bool
  | runInsert _ | runUpdate _ | runDelete _ | executeStatement _ => false
  | _ => true

/-- The operation reads columns of changed rows, which the statement has to return. -/
def readsReturned : Operation → Bool
  | insertReturning _ _ => true
  | _ => false

/-- What the operation is called when it refuses a kind of statement. -/
def purpose (op : Operation) : String :=
  if op.readsRows then "row fetch" else "execute_update"

/-- All that is looked at before the backend is asked, in this order. -/
def gate (op : Operation) : SqlResult Unit := do
  if op.statement.kind ∉ op.kinds then
    throw (.unsupportedOperation op.statement.kind op.purpose)
  op.statement.validate
  if op.readsReturned ∧ op.statement.clauses.returning = [] then
    throw (.invalidState .missingReturning)

/-- The SQL that the backend is asked to run. -/
def sql : Operation → String
  | fetchCount q => "SELECT COUNT(*) FROM (" ++ q.statement.toSql ++ ") AS count_query"
  | fetchFirst q _ => q.first.statement.toSql
  | op => op.statement.toSql

def call (op : Operation) : Call :=
  if op.readsRows then .query op.sql else .execute op.sql

theorem kind_mem_kinds {op : Operation} (h : op.isErased = false) :
    op.statement.kind ∈ op.kinds := by
  cases op with
  | fetchRecords | executeStatement => cases h
  | fetchAll q | fetchCount q | fetchOptional q | fetchOne q | fetchFirst q =>
    exact List.mem_singleton.mpr q.isSelect
  | runInsert q | insertReturning q => exact List.mem_singleton.mpr q.isInsert
  | runUpdate q => exact List.mem_singleton.mpr q.isUpdate
  | runDelete q => exact List.mem_singleton.mpr q.isDelete

end Operation

/-! ### Plans -/

namespace Session

variable {σ α β : Type}

theorem runFrom_bind (run : Session σ α) (k : α → Session σ β) (s : σ) :
    (run >>= k).runFrom s = match run.runFrom s with
      | (none, s) => (none, s)
      | (some (.error e), s) => (some (.error e), s)
      | (some (.ok a), s) => (k a).runFrom s := by
  simp only [runFrom, bind, ExceptT.bind, ExceptT.mk, OptionT.bind, OptionT.mk, StateT.bind]
  rcases run s with ⟨_ | _ | _, s'⟩ <;> rfl

theorem ofResult_bind (r : SqlResult α) (k : α → SqlResult β) :
    (do let a ← ofResult r; ofResult (k a) : Session σ β) = ofResult (r.bind k) := by
  cases r <;> rfl

theorem runFrom_bind_ofResult (run : Session σ α) (read : α → SqlResult β) (s : σ) :
    (do let a ← run; ofResult (read a) : Session σ β).runFrom s =
      ((run.runFrom s).1.map (·.bind read), (run.runFrom s).2) := by
  rw [runFrom_bind]
  rcases run.runFrom s with ⟨_ | _ | _, s'⟩ <;> rfl

/-- Two checks in a row are one. -/
theorem ofResult_then (check gate : SqlResult Unit) (run : Session σ α) :
    (do ofResult check; ofResult gate; run) = (do ofResult (do check; gate); run) := by
  cases check <;> rfl

end Session

/-- One call and what is made of the answer. -/
inductive Plan (α : Type) where
  | query (sql : String) (read : List Record → SqlResult α)
  | execute (sql : String) (read : Nat → SqlResult α)

namespace Plan

variable {σ α β : Type}

def call : Plan α → Call
  | query sql _ => .query sql
  | execute sql _ => .execute sql

def run (b : Backend σ) : Plan α → Session σ α
  | query sql read => do
    let rows ← b.query sql
    Session.ofResult (read rows)
  | execute sql read => do
    let affected ← b.execute sql
    Session.ofResult (read affected)

/-- The plan behind a gate. -/
def runBehind (gate : SqlResult Unit) (b : Backend σ) (plan : Plan α) : Session σ α := do
  Session.ofResult gate
  plan.run b

/-- The same call, with more made of the answer. -/
def andThen (plan : Plan α) (k : α → SqlResult β) : Plan β :=
  match plan with
  | query sql read => .query sql fun rows => (read rows).bind k
  | execute sql read => .execute sql fun affected => (read affected).bind k

variable {plan : Plan α} {gate : SqlResult Unit} {b : Backend σ} {run : Session σ α}

/-- What is made of a result without the backend becomes part of the plan. -/
theorem bind_runBehind (h : run = plan.runBehind gate b) {rest : α → Session σ β}
    {k : α → SqlResult β} (hk : ∀ a, rest a = Session.ofResult (k a)) :
    run >>= rest = (plan.andThen k).runBehind gate b := by
  rw [h, funext hk]
  cases plan <;>
    simp only [runBehind, Plan.run, andThen, bind_assoc, Session.ofResult_bind]

theorem map_runBehind (h : run = plan.runBehind gate b) (f : α → β) :
    f <$> run = (plan.andThen fun a => .ok (f a)).runBehind gate b := by
  rw [map_eq_pure_bind]
  exact bind_runBehind h fun _ => rfl

end Plan

namespace Backend

variable {σ α : Type} (b : Backend σ) {row : SqlType}

/-! ### Answers -/

/-- What is read of an answer that has one row at most. -/
def atMostOne : List α → SqlResult (Option α)
  | [] => .ok none
  | [r] => .ok (some r)
  | rows => .error (.tooManyRows 1 rows.length)

def exactlyOne : Option α → SqlResult α
  | some r => .ok r
  | none => .error (.notFound .expectedRow)

/-- The number in the first column of the first row. -/
def countOf : List Record → SqlResult Int64
  | [] => .error (.notFound .countRow)
  | r :: _ => Record.readAt Value.decodeInt64 r 0

/-! ### Rows and counts of rows -/

/-- The plan of an operation that reads the rows of a statement. -/
def readPlan (s : Statement) (read : Record → SqlResult α) : Plan (List α) :=
  .query s.toSql (List.mapM read)

theorem readAll_eq (q : Select row) (read : Record → SqlResult α) :
    b.readAll q read = (readPlan q.statement read).runBehind q.statement.validate b :=
  rfl

theorem readOptional_eq (q : Select row) (read : Record → SqlResult α) : b.readOptional q read =
    ((readPlan q.statement read).andThen atMostOne).runBehind q.statement.validate b := by
  refine Plan.bind_runBehind (b.readAll_eq q read) fun rows => ?_
  rcases rows with _ | ⟨r, _ | _⟩ <;> rfl

theorem readOne_eq (q : Select row) (read : Record → SqlResult α) : b.readOne q read =
    (((readPlan q.statement read).andThen atMostOne).andThen exactlyOne).runBehind
      q.statement.validate b := by
  refine Plan.bind_runBehind (b.readOptional_eq q read) fun found => ?_
  cases found <;> rfl

theorem readFirst_eq (q : Select row) (read : Record → SqlResult α) : b.readFirst q read =
    ((readPlan q.first.statement read).andThen fun rows => .ok rows.head?).runBehind
      q.statement.validate b := by
  rw [← q.validate_first, readFirst, q.limit_one]
  exact Plan.bind_runBehind (b.readAll_eq q.first read) fun _ => rfl

theorem readReturning_eq (q : Insert) (read : Record → SqlResult α) : b.readReturning q read =
    (readPlan q.statement read).runBehind (do
      q.statement.validate
      if q.statement.clauses.returning = [] then throw (.invalidState .missingReturning)) b := by
  unfold readReturning Plan.runBehind
  rw [← Session.ofResult_then]
  refine congrArg _ (funext fun _ => ?_)
  by_cases hr : q.statement.clauses.returning = []
  · simp only [hr, List.isEmpty_nil, if_true]
    rfl
  · simp only [hr, List.isEmpty_iff, if_false]
    rfl

theorem fetchCount_eq (q : Select row) : b.fetchCount q =
    (Plan.query (countSql q.statement) countOf).runBehind q.statement.validate b := by
  unfold fetchCount Plan.runBehind Plan.run
  refine congrArg _ (funext fun _ => congrArg _ (funext fun rows => ?_))
  cases rows <;> rfl

/-- The plan of an operation that reads the rows of a statement as values. -/
def rowsPlan (s : Statement) (type : RowType) : Plan (List Record) :=
  .query s.toSql (decodeRows type)

theorem fetchAll_eq (q : Select row) (type : RowType) :
    b.fetchAll q type = (rowsPlan q.statement type).runBehind q.statement.validate b :=
  rfl

theorem fetchOptional_eq (q : Select row) (type : RowType) : b.fetchOptional q type =
    ((rowsPlan q.statement type).andThen atMostOne).runBehind q.statement.validate b :=
  b.readOptional_eq q (Record.decode type)

theorem fetchOne_eq (q : Select row) (type : RowType) : b.fetchOne q type =
    (((rowsPlan q.statement type).andThen atMostOne).andThen exactlyOne).runBehind
      q.statement.validate b :=
  b.readOne_eq q (Record.decode type)

theorem fetchFirst_eq (q : Select row) (type : RowType) : b.fetchFirst q type =
    ((rowsPlan q.first.statement type).andThen fun rows => .ok rows.head?).runBehind
      q.statement.validate b :=
  b.readFirst_eq q (Record.decode type)

theorem insertReturning_eq (q : Insert) (type : RowType) : b.insertReturning q type =
    (rowsPlan q.statement type).runBehind (do
      q.statement.validate
      if q.statement.clauses.returning = [] then throw (.invalidState .missingReturning)) b :=
  b.readReturning_eq q (Record.decode type)

theorem change_eq (s : Statement) :
    b.change s = (Plan.execute s.toSql .ok).runBehind s.validate b := by
  unfold change Plan.runBehind Plan.run
  exact congrArg _ (funext fun _ => (bind_pure _).symm)

theorem fetchRecords_eq (s : Statement) : b.fetchRecords s =
    (Plan.query s.toSql .ok).runBehind (do s.require [.select] "row fetch"; s.validate) b := by
  unfold fetchRecords Plan.runBehind Plan.run
  rw [← Session.ofResult_then]
  exact congrArg _ (funext fun _ => congrArg _ (funext fun _ => (bind_pure _).symm))

theorem executeStatement_eq (s : Statement) : b.executeStatement s =
    (Plan.execute s.toSql .ok).runBehind
      (do s.require [.insert, .update, .delete] "execute_update"; s.validate) b := by
  unfold executeStatement Plan.runBehind
  rw [← Session.ofResult_then, change_eq]
  rfl

end Backend

namespace Operation

theorem gate_eq_require (op : Operation) : op.gate = (do
    op.statement.require op.kinds op.purpose
    op.statement.validate
    if op.readsReturned ∧ op.statement.clauses.returning = [] then
      throw (.invalidState .missingReturning)) := by
  unfold gate Statement.require
  by_cases kind : op.statement.kind ∈ op.kinds
  · rw [if_pos kind, if_neg (not_not_intro kind)]
    rfl
  · rw [if_neg kind, if_pos kind]
    rfl

/-- An operation that reads nothing that a change returns asks for a kind and for the check. -/
theorem gate_eq {op : Operation} (hr : op.readsReturned = false) : op.gate = (do
    op.statement.require op.kinds op.purpose
    op.statement.validate) := by
  rw [gate_eq_require]
  simp [hr]

/-- An operation on a statement of a known kind looks at no kind. -/
theorem gate_eq_validate {op : Operation} (he : op.isErased = false)
    (hr : op.readsReturned = false) : op.gate = op.statement.validate := by
  rw [gate_eq hr, Statement.require_eq_ok_iff.mpr (kind_mem_kinds he)]
  rfl

theorem gate_insertReturning (q : Insert) (type : RowType) : (insertReturning q type).gate = (do
    q.statement.validate
    if q.statement.clauses.returning = [] then throw (.invalidState .missingReturning)) := by
  have kind : q.statement.require [.insert] "row fetch" = .ok () :=
    Statement.require_eq_ok_iff.mpr (List.mem_singleton.mpr q.isInsert)
  rw [gate_eq_require]
  show (do q.statement.require [.insert] "row fetch"; _) = _
  rw [kind]
  simp only [readsReturned, statement, true_and]
  rfl

/-- The call of an operation and what it makes of the answer. -/
def plan : Operation → Plan Answer
  | fetchAll q type => (Backend.rowsPlan q.statement type).andThen fun rows => .ok (.rows rows)
  | fetchCount q =>
    (Plan.query (Backend.countSql q.statement) Backend.countOf).andThen fun n => .ok (.count n)
  | fetchOptional q type =>
    ((Backend.rowsPlan q.statement type).andThen Backend.atMostOne).andThen fun r => .ok (.row? r)
  | fetchOne q type =>
    (((Backend.rowsPlan q.statement type).andThen Backend.atMostOne).andThen
      Backend.exactlyOne).andThen fun r => .ok (.row r)
  | fetchFirst q type =>
    ((Backend.rowsPlan q.first.statement type).andThen fun rows => .ok rows.head?).andThen
      fun r => .ok (.row? r)
  | insertReturning q type =>
    (Backend.rowsPlan q.statement type).andThen fun rows => .ok (.rows rows)
  | fetchRecords s => (Plan.query s.toSql .ok).andThen fun rows => .ok (.rows rows)
  | runInsert q => (Plan.execute q.statement.toSql .ok).andThen fun n => .ok (.affected n)
  | runUpdate q => (Plan.execute q.statement.toSql .ok).andThen fun n => .ok (.affected n)
  | runDelete q => (Plan.execute q.statement.toSql .ok).andThen fun n => .ok (.affected n)
  | executeStatement s => (Plan.execute s.toSql .ok).andThen fun n => .ok (.affected n)

theorem call_plan (op : Operation) : op.plan.call = op.call := by
  cases op <;> rfl

/-- An operation is its gate and then its plan. -/
theorem run_eq {σ : Type} (b : Backend σ) (op : Operation) :
    op.run b = op.plan.runBehind op.gate b := by
  cases op with
  | fetchAll q type =>
    rw [gate_eq_validate rfl rfl]
    exact Plan.map_runBehind (b.fetchAll_eq q type) _
  | fetchCount q =>
    rw [gate_eq_validate rfl rfl]
    exact Plan.map_runBehind (b.fetchCount_eq q) _
  | fetchOptional q type =>
    rw [gate_eq_validate rfl rfl]
    exact Plan.map_runBehind (b.fetchOptional_eq q type) _
  | fetchOne q type =>
    rw [gate_eq_validate rfl rfl]
    exact Plan.map_runBehind (b.fetchOne_eq q type) _
  | fetchFirst q type =>
    rw [gate_eq_validate rfl rfl]
    exact Plan.map_runBehind (b.fetchFirst_eq q type) _
  | runInsert q | runUpdate q | runDelete q =>
    rw [gate_eq_validate rfl rfl]
    exact Plan.map_runBehind (b.change_eq q.statement) _
  | insertReturning q type =>
    rw [gate_insertReturning]
    exact Plan.map_runBehind (b.insertReturning_eq q type) _
  | fetchRecords s =>
    rw [gate_eq rfl]
    exact Plan.map_runBehind (b.fetchRecords_eq s) _
  | executeStatement s =>
    rw [gate_eq rfl]
    exact Plan.map_runBehind (b.executeStatement_eq s) _

end Operation

end TypedSql
