import TypedSql.Proofs.Purity

/-!
Statements of a known and of an unknown kind. The changes that both offer agree: it makes no
difference whether a statement is changed first and its kind forgotten then, or the other way round.
-/

namespace TypedSql

/-- A statement of a known kind. Inserts share no change with statements of unknown kind. -/
inductive Builder : StatementKind → Type
  | select {row : SqlType} (q : Select row) : Builder .select
  | update (q : Update) : Builder .update
  | delete (q : Delete) : Builder .delete

/-- A change that the builders of a kind offer as statements of unknown kind do. A projection of one
expression is shared if the expression has the type that it is used at, and one of a list if the
list has not exactly one item. -/
inductive SharedChange : StatementKind → Type
  | filter {kind : StatementKind} (condition : Typed .bool) : SharedChange kind
  | andFilter {kind : StatementKind} (condition : Typed .bool) : SharedChange kind
  | project {t : SqlType} (e : Typed t) (hasType : e.expr.type = t) : SharedChange .select
  | projectMany (exprs : List Expr) (notSingle : exprs.length ≠ 1) : SharedChange .select
  | join (kind : JoinKind) (table : Table) (on : Typed .bool) : SharedChange .select
  | groupBy (exprs : List Expr) : SharedChange .select
  | having (condition : Typed .bool) : SharedChange .select
  | orderBy (expr : Expr) (direction : Direction) : SharedChange .select
  | limit (n : Int64) : SharedChange .select
  | offset (n : Int64) : SharedChange .select

variable {kind : StatementKind}

/-- The change as one to a statement of unknown kind. -/
def SharedChange.erased : SharedChange kind → Change
  | filter condition => .filter condition
  | andFilter condition => .andFilter condition
  | project e _ => .project [e.expr]
  | projectMany exprs _ => .project exprs
  | join kind table on => .join kind table on
  | groupBy exprs => .groupBy exprs
  | having condition => .having condition
  | orderBy expr direction => .orderBy expr direction
  | limit n => .limit n
  | offset n => .offset n

namespace Builder

/-- The statement, its kind forgotten. -/
def erased : Builder kind → Statement
  | select q => q.statement
  | update q => q.statement
  | delete q => q.statement

def apply : Builder kind → SharedChange kind → SqlResult (Builder kind)
  | select q, .filter condition => .ok (.select (q.filter condition))
  | update q, .filter condition => .ok (.update (q.filter condition))
  | delete q, .filter condition => .ok (.delete (q.filter condition))
  | select q, .andFilter condition => .ok (.select (q.andFilter condition))
  | update q, .andFilter condition => .ok (.update (q.andFilter condition))
  | delete q, .andFilter condition => .ok (.delete (q.andFilter condition))
  | select q, .project e _ => .ok (.select (q.project e))
  | select q, .projectMany exprs _ => .ok (.select (q.projectMany exprs))
  | select q, .join kind table on => .ok (.select (q.join kind table on))
  | select q, .groupBy exprs => .ok (.select (q.groupBy exprs))
  | select q, .having condition => .ok (.select (q.having condition))
  | select q, .orderBy expr direction => .ok (.select (q.orderBy expr direction))
  | select q, .limit n => (q.limit n).map .select
  | select q, .offset n => (q.offset n).map .select

end Builder

/-! ### One change -/

theorem Statement.require_then {α : Type} {s : Statement} {allowed : List StatementKind}
    {operation : String} {k : SqlResult α} (h : s.kind ∈ allowed) :
    (do s.require allowed operation; k) = k := by
  rw [require_eq_ok_iff.mpr h]
  rfl

/-- The type of the rows of a query for the given expressions, as it is worked out where the kind of
the statement is not known. -/
def rowTypeOf : List Expr → SqlType
  | [single] => single.type
  | _ => .record

theorem rowTypeOf_of_length_ne {exprs : List Expr} (h : exprs.length ≠ 1) :
    rowTypeOf exprs = .record := by
  match exprs, h with
  | [], _ => rfl
  | _ :: _ :: _, _ => rfl

namespace Select

variable {row : SqlType} (q : Select row)

theorem mem_kinds : q.statement.kind ∈ [StatementKind.select] :=
  List.mem_singleton.mpr q.isSelect

/-- A projection narrows the rows to what the builder is told if that is what the expressions
say. -/
theorem project_erased {new : SqlType} (exprs : List Expr) (h : rowTypeOf exprs = new) :
    q.statement.project exprs = .ok (q.withProjection new exprs).statement := by
  subst h
  refine (Statement.require_then q.mem_kinds).trans ?_
  match exprs with
  | [] => rfl
  | [_] => rfl
  | _ :: _ :: _ => rfl

/-- A count is checked in the same way on both sides. -/
theorem count_erased (clause : String) (n : Int64) (f : Nat → ClauseSet → ClauseSet) :
    (do
      q.statement.require [.select] clause
      let k ← nonNegative clause n
      return q.statement.mapClauses (f k)) =
    Except.map Select.statement (do
      let k ← nonNegative clause n
      return q.mapClauses (f k)) := by
  refine (Statement.require_then q.mem_kinds).trans ?_
  cases nonNegative clause n <;> rfl

end Select

/-- A change and the forgetting of the kind may change places. A change that fails does so with the
same error on both sides. -/
theorem Builder.apply_erased (q : Builder kind) (change : SharedChange kind) :
    change.erased.apply q.erased = (q.apply change).map erased := by
  have filterable : q.erased.kind ∈ Statement.filterable := by
    cases q with
    | select q => rw [erased, q.isSelect]; decide
    | update q => rw [erased, q.isUpdate]; decide
    | delete q => rw [erased, q.isDelete]; decide
  cases change with
  | filter | andFilter =>
    refine (Statement.require_then filterable).trans ?_
    cases q <;> rfl
  | project e hasType =>
    cases q with
    | select q => exact q.project_erased [e.expr] hasType
  | projectMany exprs notSingle =>
    cases q with
    | select q => exact q.project_erased exprs (rowTypeOf_of_length_ne notSingle)
  | join | groupBy | having | orderBy =>
    cases q with
    | select q => exact Statement.require_then q.mem_kinds
  | limit n =>
    cases q with
    | select q =>
      refine (q.count_erased "LIMIT" n fun k c => { c with limit := some k }).trans ?_
      show (q.limit n).map _ = ((q.limit n).map select).map erased
      cases q.limit n <;> rfl
  | offset n =>
    cases q with
    | select q =>
      refine (q.count_erased "OFFSET" n fun k c => { c with offset := some k }).trans ?_
      show (q.offset n).map _ = ((q.offset n).map select).map erased
      cases q.offset n <;> rfl

/-! ### Many changes -/

/-- Changes one by one, up to the first that is refused: its place in the list, counted from zero,
comes with its error. -/
def applyAll {σ κ : Type} (apply : σ → κ → SqlResult σ) : σ → List κ → Except (Nat × SqlError) σ
  | s, [] => .ok s
  | s, change :: changes =>
    match apply s change with
    | .error e => .error (0, e)
    | .ok s' => (applyAll apply s' changes).mapError (Prod.map (· + 1) id)

/-- What may change places with one change may do so with any number of them. -/
theorem applyAll_map {σ τ κ ν : Type} {apply : σ → κ → SqlResult σ} {apply' : τ → ν → SqlResult τ}
    {f : σ → τ} {g : κ → ν} (h : ∀ s change, apply' (f s) (g change) = (apply s change).map f)
    (s : σ) (changes : List κ) :
    applyAll apply' (f s) (changes.map g) = (applyAll apply s changes).map f := by
  induction changes generalizing s with
  | nil => rfl
  | cons change changes ih =>
    rw [List.map_cons, applyAll, applyAll, h]
    cases apply s change with
    | error e => rfl
    | ok s' =>
      show (applyAll apply' (f s') (changes.map g)).mapError _ =
        ((applyAll apply s' changes).mapError _).map f
      rw [ih]
      cases applyAll apply s' changes <;> rfl

/-- Changes to a statement of a known kind, and then no more kind, come to the same as no kind and
then the changes: both fail at the same change with the same error, or both give the same
statement. -/
theorem applyAll_erased (q : Builder kind) (changes : List (SharedChange kind)) :
    applyAll Change.apply q.erased (changes.map SharedChange.erased) =
      (applyAll Builder.apply q changes).map Builder.erased :=
  applyAll_map Builder.apply_erased q changes

/-- The negative limit is the second change. What comes behind it is not looked at. -/
example :
    let users := Builder.select (select.fromTable ⟨"users", none⟩)
    let id := Typed.column .int "users" "id"
    applyAll Builder.apply users [.offset 5, .limit (-1), .project id rfl] =
      .error (1, .invalidArgument (.negativeCount "LIMIT" (-1))) :=
  rfl

end TypedSql
