import TypedSql.Statement.Change
import TypedSql.Statement.Dynamic

/-!
The trees that can be built: an expression by the constructors of expressions, a query by its
builder, any statement by the builder of its kind and the changes to a statement of unknown kind.
-/

namespace TypedSql

mutual

/-- An expression that constructors of expressions make. -/
inductive Expr.Buildable : Expr → Prop
  | column (t : SqlType) (table name : String) : Expr.Buildable (Typed.column t table name).expr
  | columnAs (t : SqlType) (table name aliasName : String) :
      Expr.Buildable (Typed.columnAs t table name aliasName).expr
  | literal (t : SqlType) (v : Value) (fits : v.type = t ∨ v.type = .null) :
      Expr.Buildable (Typed.literal t v fits).expr
  | ofValue (v : Value) : Expr.Buildable (Expr.ofValue v)
  | call {t : SqlType} {name : String} {arguments : List Expr} {f : Typed t} :
      (∀ e ∈ arguments, e.Buildable) → Typed.call t name arguments = .ok f → f.expr.Buildable
  | countAll : Typed.countAll.expr.Buildable
  | count {t : SqlType} {e : Typed t} : e.expr.Buildable → e.count.expr.Buildable
  | sum {t : SqlType} {e : Typed t} (numeric : t.isNumeric = true) :
      e.expr.Buildable → Expr.Buildable (e.sum numeric).expr
  | avg {t : SqlType} {e : Typed t} (numeric : t.isNumeric = true) :
      e.expr.Buildable → Expr.Buildable (e.avg numeric).expr
  | min {t : SqlType} {e : Typed t} : e.expr.Buildable → e.min.expr.Buildable
  | max {t : SqlType} {e : Typed t} : e.expr.Buildable → e.max.expr.Buildable
  | isNull {t : SqlType} {e : Typed t} : e.expr.Buildable → e.isNull.expr.Buildable
  | isNotNull {t : SqlType} {e : Typed t} : e.expr.Buildable → e.isNotNull.expr.Buildable
  | comparison {t : SqlType} {op : Operator} {l r : Typed t} :
      op.isComparison = true → l.expr.Buildable → r.expr.Buildable →
      Expr.Buildable (Typed.predicate op l r).expr
  | logical {op : Operator} {l r : Typed .bool} :
      op.isLogical = true → l.expr.Buildable → r.expr.Buildable →
      Expr.Buildable (Typed.predicate op l r).expr
  | not {e : Typed .bool} : e.expr.Buildable → e.not.expr.Buildable
  | like {l r : Typed .text} : l.expr.Buildable → r.expr.Buildable → Expr.Buildable (l.like r).expr
  | notLike {l r : Typed .text} :
      l.expr.Buildable → r.expr.Buildable → Expr.Buildable (l.notLike r).expr
  | arithmetic {t : SqlType} {op : Operator} {l r : Typed t} :
      t.isNumeric = true → op.isArithmetic = true → l.expr.Buildable → r.expr.Buildable →
      Expr.Buildable (Typed.arithmetic op l r).expr
  | caseWhen {t : SqlType} {first : Typed .bool × Typed t} {others : List (Typed .bool × Typed t)}
      {otherwise : Option (Typed t)} :
      (∀ b ∈ first :: others, b.1.expr.Buildable) → (∀ b ∈ first :: others, b.2.expr.Buildable) →
      (∀ e ∈ otherwise, e.expr.Buildable) →
      Expr.Buildable (Typed.caseWhen t first others otherwise).expr
  | checked {l e : Expr} {op : Operator} {r : Option Expr} :
      l.Buildable → (∀ x ∈ r, x.Buildable) → l.checked op r = .ok e → e.Buildable
  | compare {l r e : Expr} {op : Operator} :
      l.Buildable → r.Buildable → l.compare op r = .ok e → e.Buildable
  | subquery {t : SqlType} {q : Select t} : q.Buildable → q.asSubquery.expr.Buildable
  | inSubquery {t : SqlType} {e : Typed t} {q : Select t} :
      e.expr.Buildable → q.Buildable → Expr.Buildable (e.inSubquery q).expr
  | notInSubquery {t : SqlType} {e : Typed t} {q : Select t} :
      e.expr.Buildable → q.Buildable → Expr.Buildable (e.notInSubquery q).expr

inductive Select.Buildable : {row : SqlType} → Select row → Prop
  | selectAs (row : SqlType) : Select.Buildable (selectAs row)
  | fromTable {row : SqlType} {q : Select row} (table : Table) :
      q.Buildable → Select.Buildable (q.fromTable table)
  | join {row : SqlType} {q : Select row} (kind : JoinKind) (table : Table) {on : Typed .bool} :
      q.Buildable → on.expr.Buildable → Select.Buildable (q.join kind table on)
  | filter {row : SqlType} {q : Select row} {condition : Typed .bool} :
      q.Buildable → condition.expr.Buildable → Select.Buildable (q.filter condition)
  | andFilter {row : SqlType} {q : Select row} {condition : Typed .bool} :
      q.Buildable → condition.expr.Buildable → Select.Buildable (q.andFilter condition)
  | groupBy {row : SqlType} {q : Select row} {exprs : List Expr} :
      q.Buildable → (∀ e ∈ exprs, e.Buildable) → Select.Buildable (q.groupBy exprs)
  | having {row : SqlType} {q : Select row} {condition : Typed .bool} :
      q.Buildable → condition.expr.Buildable → Select.Buildable (q.having condition)
  | orderBy {row : SqlType} {q : Select row} {e : Expr} (direction : Direction) :
      q.Buildable → e.Buildable → Select.Buildable (q.orderBy e direction)
  | limit {row : SqlType} {q q' : Select row} {n : Int64} :
      q.Buildable → q.limit n = .ok q' → q'.Buildable
  | offset {row : SqlType} {q q' : Select row} {n : Int64} :
      q.Buildable → q.offset n = .ok q' → q'.Buildable
  | paginate {row : SqlType} {q q' : Select row} {page perPage : Int64} :
      q.Buildable → q.paginate page perPage = .ok q' → q'.Buildable
  | project {row t : SqlType} {q : Select row} {e : Typed t} :
      q.Buildable → e.expr.Buildable → Select.Buildable (q.project e)
  | projectMany {row : SqlType} {q : Select row} {exprs : List Expr} :
      q.Buildable → (∀ e ∈ exprs, e.Buildable) → Select.Buildable (q.projectMany exprs)

end

inductive Insert.Buildable : Insert → Prop
  | insertInto (table : String) : Buildable (insertInto table)
  | columns {q q' : Insert} {names : List String} :
      Buildable q → q.columns names = .ok q' → Buildable q'
  | values {q q' : Insert} {row : List Expr} :
      Buildable q → (∀ e ∈ row, e.Buildable) → q.values row = .ok q' → Buildable q'
  | fromSelect {row : SqlType} {q : Insert} {source : Select row} :
      Buildable q → source.Buildable → Buildable (q.fromSelect source)
  | returning {q : Insert} (names : List String) : Buildable q → Buildable (q.returning names)

inductive Update.Buildable : Update → Prop
  | update (table : String) : Buildable (update table)
  | set {q q' : Update} {column : String} {value : Expr} :
      Buildable q → value.Buildable → q.set column value = .ok q' → Buildable q'
  | filter {q : Update} {condition : Typed .bool} :
      Buildable q → condition.expr.Buildable → Buildable (q.filter condition)
  | andFilter {q : Update} {condition : Typed .bool} :
      Buildable q → condition.expr.Buildable → Buildable (q.andFilter condition)
  | returning {q : Update} (names : List String) : Buildable q → Buildable (q.returning names)

inductive Delete.Buildable : Delete → Prop
  | deleteFrom (table : String) : Buildable (deleteFrom table)
  | filter {q : Delete} {condition : Typed .bool} :
      Buildable q → condition.expr.Buildable → Buildable (q.filter condition)
  | andFilter {q : Delete} {condition : Typed .bool} :
      Buildable q → condition.expr.Buildable → Buildable (q.andFilter condition)
  | returning {q : Delete} (names : List String) : Buildable q → Buildable (q.returning names)

/-- A statement that a builder of some kind makes, or changes to a statement of unknown kind. -/
inductive Statement.Buildable : Statement → Prop
  | select {row : SqlType} {q : Select row} : q.Buildable → Buildable q.statement
  | insert {q : Insert} : q.Buildable → Buildable q.statement
  | update {q : Update} : q.Buildable → Buildable q.statement
  | delete {q : Delete} : q.Buildable → Buildable q.statement
  | filter {s s' : Statement} {condition : Typed .bool} :
      Buildable s → condition.expr.Buildable → s.filter condition = .ok s' → Buildable s'
  | andFilter {s s' : Statement} {condition : Typed .bool} :
      Buildable s → condition.expr.Buildable → s.andFilter condition = .ok s' → Buildable s'
  | project {s s' : Statement} {exprs : List Expr} :
      Buildable s → (∀ e ∈ exprs, e.Buildable) → s.project exprs = .ok s' → Buildable s'
  | join {s s' : Statement} {kind : JoinKind} {table : Table} {on : Typed .bool} :
      Buildable s → on.expr.Buildable → s.join kind table on = .ok s' → Buildable s'
  | groupBy {s s' : Statement} {exprs : List Expr} :
      Buildable s → (∀ e ∈ exprs, e.Buildable) → s.groupBy exprs = .ok s' → Buildable s'
  | having {s s' : Statement} {condition : Typed .bool} :
      Buildable s → condition.expr.Buildable → s.having condition = .ok s' → Buildable s'
  | orderBy {s s' : Statement} {e : Expr} {direction : Direction} :
      Buildable s → e.Buildable → s.orderBy e direction = .ok s' → Buildable s'
  | limit {s s' : Statement} {n : Int64} : Buildable s → s.limit n = .ok s' → Buildable s'
  | offset {s s' : Statement} {n : Int64} : Buildable s → s.offset n = .ok s' → Buildable s'

/-- A plain value stands in a tree as a literal. -/
theorem Typed.buildable_ofPlain {t : SqlType} {v : Value} {e : Typed t}
    (h : ofPlain? t v = some e) : e.expr.Buildable := by
  unfold ofPlain? at h
  split at h
  · next n => exact Option.some.inj h ▸ .literal .bigInt (.bigInt n.toInt64) (.inl rfl)
  · split at h
    · next fits => exact Option.some.inj h ▸ .literal t v fits
    · cases h

end TypedSql
