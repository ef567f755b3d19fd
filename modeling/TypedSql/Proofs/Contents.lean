import TypedSql.Error
import TypedSql.Tree.Fold

/-!
What a tree contains: the names that stand in it, each with the part it plays, and the values of
its literals in the order in which they are written.
-/

namespace TypedSql

/-! ### Names -/

/-- A name in a tree and the part it plays there. -/
structure Mention where
  role : NameRole
  name : String
  deriving DecidableEq, Repr

def Mention.optional (role : NameRole) (name : Option String) : List Mention :=
  name.toList.map fun n => ⟨role, n⟩

def Table.names (t : Table) : List Mention :=
  ⟨.table, t.name⟩ :: Mention.optional .tableAlias t.aliasName

/-- The names in the clauses that stand in none of their expressions. -/
def Clauses.ownNames {ε σ : Type} (c : Clauses ε σ) : List Mention :=
  c.table.toList.flatMap Table.names ++ c.joins.flatMap (fun j => j.table.names) ++
    (c.columns.getD []).map (fun n => ⟨.insertColumn, n⟩) ++
    c.assignments.map (fun a => ⟨.setColumn, a.column⟩) ++
    c.returning.map fun n => ⟨.returningColumn, n⟩

def namesAlgebra : Algebra (List Mention) (List Mention) where
  column table column aliasName _ :=
    ⟨.table, table⟩ :: ⟨.column, column⟩ :: Mention.optional .columnAlias aliasName
  literal _ _ := []
  unary _ operand := operand
  binary _ left right _ := left ++ right
  call function arguments _ := ⟨.function, function⟩ :: arguments.flatten
  caseWhen branches otherwise _ :=
    branches.flatMap (fun b => b.1 ++ b.2) ++ otherwise.toList.flatten
  subquery statement _ := statement
  statement _ _ c := c.ownNames ++ c.exprs.flatten ++ c.source.toList.flatten

/-- All names in an expression, those of its subqueries included. -/
def Expr.names (e : Expr) : List Mention :=
  e.fold namesAlgebra

def Statement.names (s : Statement) : List Mention :=
  s.fold namesAlgebra

/-! ### Literals -/

/-- What the expressions of the clauses come to, in the order in which the clauses are written. -/
def Clauses.collect {α : Type} (c : Clauses (List α) (List α)) : List α :=
  c.projection.flatten ++ c.joins.flatMap (·.on) ++ c.rows.flatten.flatten ++
    c.source.toList.flatten ++ c.assignments.flatMap (·.value) ++ c.filter.toList.flatten ++
    c.groupBy.flatten ++ c.having.toList.flatten ++ c.orderBy.flatMap (·.expr)

def literalsAlgebra : Algebra (List Value) (List Value) where
  column _ _ _ _ := []
  literal value _ := [value]
  unary _ operand := operand
  binary _ left right _ := left ++ right
  call _ arguments _ := arguments.flatten
  caseWhen branches otherwise _ :=
    branches.flatMap (fun b => b.1 ++ b.2) ++ otherwise.toList.flatten
  subquery statement _ := statement
  statement _ _ c := c.collect

/-- The values of all literals in an expression, in the order in which they are written. -/
def Expr.literals (e : Expr) : List Value :=
  e.fold literalsAlgebra

def Statement.literals (s : Statement) : List Value :=
  s.fold literalsAlgebra

/-- The word for a double that is no finite number: the two infinities have one bit pattern each,
and those whose magnitude is beyond them are no numbers. -/
def Double.word? (x : Double) : Option (List Char) :=
  if x.bits.toNat = 0x7ff0000000000000 then some "Infinity".toList
  else if x.bits.toNat = 0xfff0000000000000 then some "-Infinity".toList
  else if 0x7ff0000000000000 < x.bits.toNat % 0x8000000000000000 then some "NaN".toList
  else none

/-- The text that stands between quotes in the literal of a value, if there is one. -/
def Value.payload? : Value → Option (List Char)
  | text s => some s.toList
  | double x => x.word?
  | date d => some d.toText
  | time t => some t.toText
  | timestamp t => some t.toText
  | timestampTz t => some t.toUtcText
  | uuid u => some u.toText
  | json j => some j.toText
  | null | bool _ | smallInt _ | int _ | bigInt _ | decimal _ => none

/-- The texts between the quotes of the quoted literals in an expression. -/
def Expr.payloads (e : Expr) : List (List Char) :=
  e.literals.filterMap Value.payload?

def Statement.payloads (s : Statement) : List (List Char) :=
  s.literals.filterMap Value.payload?

/-! ### What the parts contribute -/

section Parts

variable {α β γ δ : Type}

@[simp] theorem Clauses.ownNames_map (c : Clauses α β) (f : α → γ) (g : β → δ) :
    (c.map f g).ownNames = c.ownNames := by
  simp [Clauses.ownNames, Clauses.map, List.flatMap_map]

theorem Clauses.mem_ownNames {c : Clauses α β} {m : Mention} : m ∈ c.ownNames ↔
    (∃ t ∈ c.table, m ∈ t.names) ∨ (∃ j ∈ c.joins, m ∈ j.table.names) ∨
      (∃ n ∈ c.columns.getD [], m = ⟨.insertColumn, n⟩) ∨
      (∃ a ∈ c.assignments, m = ⟨.setColumn, a.column⟩) ∨
      ∃ n ∈ c.returning, m = ⟨.returningColumn, n⟩ := by
  simp [ownNames, eq_comm]

theorem Clauses.mem_exprs {c : Clauses α β} {e : α} : e ∈ c.exprs ↔
    e ∈ c.projection ∨ (∃ j ∈ c.joins, j.on = e) ∨ e ∈ c.filter ∨ e ∈ c.groupBy ∨ e ∈ c.having ∨
      (∃ o ∈ c.orderBy, o.expr = e) ∨ (∃ r ∈ c.rows, e ∈ r) ∨
      ∃ a ∈ c.assignments, a.value = e := by
  simp [exprs]

@[simp] theorem Clauses.exprs_map (c : Clauses α β) (f : α → γ) (g : β → δ) :
    (c.map f g).exprs = c.exprs.map f := by
  obtain ⟨_, _, _, filter, _, having, _, _, _, _, _, _, _, _⟩ := c
  cases filter <;> cases having <;>
    simp [Clauses.exprs, Clauses.map, Function.comp_def, List.map_flatten]

theorem Clauses.collect_map (c : Clauses α β) (f : α → List γ) (g : β → List γ) :
    (c.map f g).collect =
      c.projection.flatMap f ++ c.joins.flatMap (fun j => f j.on) ++ c.rows.flatten.flatMap f ++
        c.source.toList.flatMap g ++ c.assignments.flatMap (fun a => f a.value) ++
        c.filter.toList.flatMap f ++ c.groupBy.flatMap f ++ c.having.toList.flatMap f ++
        c.orderBy.flatMap fun o => f o.expr := by
  obtain ⟨_, _, _, filter, _, having, _, _, _, _, _, source, _, _⟩ := c
  cases filter <;> cases having <;> cases source <;>
    simp [Clauses.collect, Clauses.map, List.flatMap_def, List.map_flatten, Function.comp_def]

end Parts

namespace Expr

variable (type : SqlType)

theorem names_column (table column : String) (aliasName : Option String) :
    (Expr.column table column aliasName type).names =
      ⟨.table, table⟩ :: ⟨.column, column⟩ :: Mention.optional .columnAlias aliasName := by
  rw [names, fold_column]
  rfl

@[simp] theorem names_unary (op : Operator) (operand : Expr) :
    (Expr.unary op operand).names = operand.names := by
  rw [names, fold_unary]
  rfl

theorem names_binary (op : Operator) (left right : Expr) :
    (Expr.binary op left right type).names = left.names ++ right.names := by
  rw [names, fold_binary]
  rfl

theorem names_call (function : String) (arguments : List Expr) :
    (Expr.call function arguments type).names =
      ⟨.function, function⟩ :: arguments.flatMap names := by
  rw [names, fold_call, List.flatMap_def]
  rfl

theorem names_caseWhen (branches : List (Expr × Expr)) (otherwise : Option Expr) :
    (Expr.caseWhen branches otherwise type).names =
      branches.flatMap (fun b => b.1.names ++ b.2.names) ++ otherwise.toList.flatMap names := by
  rw [names, fold_caseWhen]
  show (branches.map _).flatMap _ ++ (otherwise.map _).toList.flatten = _
  rw [List.flatMap_map]
  cases otherwise <;> simp [names]

@[simp] theorem names_subquery (statement : Statement) :
    (Expr.subquery statement type).names = statement.names := by
  rw [names, fold_subquery]
  rfl

@[simp] theorem literals_literal (value : Value) :
    (Expr.literal value type).literals = [value] := by
  rw [literals, fold_literal]
  rfl

@[simp] theorem literals_unary (op : Operator) (operand : Expr) :
    (Expr.unary op operand).literals = operand.literals := by
  rw [literals, fold_unary]
  rfl

theorem literals_binary (op : Operator) (left right : Expr) :
    (Expr.binary op left right type).literals = left.literals ++ right.literals := by
  rw [literals, fold_binary]
  rfl

theorem literals_call (function : String) (arguments : List Expr) :
    (Expr.call function arguments type).literals = arguments.flatMap literals := by
  rw [literals, fold_call, List.flatMap_def]
  rfl

theorem literals_caseWhen (branches : List (Expr × Expr)) (otherwise : Option Expr) :
    (Expr.caseWhen branches otherwise type).literals =
      branches.flatMap (fun b => b.1.literals ++ b.2.literals) ++
        otherwise.toList.flatMap literals := by
  rw [literals, fold_caseWhen]
  show (branches.map _).flatMap _ ++ (otherwise.map _).toList.flatten = _
  rw [List.flatMap_map]
  cases otherwise <;> simp [literals]

@[simp] theorem literals_subquery (statement : Statement) :
    (Expr.subquery statement type).literals = statement.literals := by
  rw [literals, fold_subquery]
  rfl

end Expr

theorem Statement.names_eq (s : Statement) :
    s.names = s.clauses.ownNames ++ s.clauses.exprs.flatMap Expr.names ++
      s.clauses.source.toList.flatMap Statement.names := by
  rw [names, fold_eq]
  show (s.clauses.map _ _).ownNames ++ (s.clauses.map _ _).exprs.flatten ++
    (s.clauses.source.map _).toList.flatten = _
  rw [Clauses.ownNames_map, Clauses.exprs_map, ← List.flatMap_def]
  cases s.clauses.source <;> simp [names] <;> rfl

theorem Statement.literals_eq (s : Statement) :
    s.literals = (s.clauses.map Expr.literals Statement.literals).collect := by
  rw [literals, fold_eq]
  rfl

theorem Statement.map_literals {γ : Type} (φ : Value → γ) (s : Statement) : s.literals.map φ =
    (s.clauses.map (fun e => e.literals.map φ) fun t => t.literals.map φ).collect := by
  rw [literals_eq, Clauses.collect_map, Clauses.collect_map]
  simp only [List.map_append, List.map_flatMap]

end TypedSql
