import TypedSql.Proofs.Contents
import TypedSql.Proofs.Rendering
import TypedSql.Statement.Select

/-!
Trees without their types. The types that the parts of a tree were declared with play no part in
its SQL and none in the check of its names: a traversal that looks at no type makes the same of all
trees that differ in their types only.
-/

namespace TypedSql

/-- The traversal that puts the type of a bare `NULL` in the place of every other. -/
def untagAlgebra : Algebra Expr Statement where
  column table column aliasName _ := .column table column aliasName .null
  literal value _ := .literal value .null
  unary := .unary
  binary op left right _ := .binary op left right .null
  call function arguments _ := .call function arguments .null
  caseWhen branches otherwise _ := .caseWhen branches otherwise .null
  subquery statement _ := .subquery statement .null
  statement kind _ clauses := ⟨kind, .null, clauses⟩

/-- The expression with nothing left of the types it was declared with, at any depth. -/
def Expr.untagged (e : Expr) : Expr :=
  e.fold untagAlgebra

/-- The statement with nothing left of the types of its rows and of its expressions. -/
def Statement.untagged (s : Statement) : Statement :=
  s.fold untagAlgebra

namespace Expr

variable (type : SqlType)

theorem untagged_column (table column : String) (aliasName : Option String) :
    (Expr.column table column aliasName type).untagged = .column table column aliasName .null := by
  rw [untagged, fold_column]
  rfl

theorem untagged_literal (value : Value) :
    (Expr.literal value type).untagged = .literal value .null := by
  rw [untagged, fold_literal]
  rfl

theorem untagged_unary (op : Operator) (operand : Expr) :
    (Expr.unary op operand).untagged = .unary op operand.untagged := by
  rw [untagged, fold_unary]
  rfl

theorem untagged_binary (op : Operator) (left right : Expr) :
    (Expr.binary op left right type).untagged =
      .binary op left.untagged right.untagged .null := by
  rw [untagged, fold_binary]
  rfl

theorem untagged_call (function : String) (arguments : List Expr) :
    (Expr.call function arguments type).untagged =
      .call function (arguments.map untagged) .null := by
  rw [untagged, fold_call]
  rfl

theorem untagged_caseWhen (branches : List (Expr × Expr)) (otherwise : Option Expr) :
    (Expr.caseWhen branches otherwise type).untagged =
      .caseWhen (branches.map fun b => (b.1.untagged, b.2.untagged)) (otherwise.map untagged)
        .null := by
  rw [untagged, fold_caseWhen]
  rfl

theorem untagged_subquery (statement : Statement) :
    (Expr.subquery statement type).untagged = .subquery statement.untagged .null := by
  rw [untagged, fold_subquery]
  rfl

end Expr

theorem Statement.untagged_eq (s : Statement) :
    s.untagged = ⟨s.kind, .null, s.clauses.map Expr.untagged Statement.untagged⟩ := by
  rw [untagged, fold_eq]
  rfl

/-! ### Traversals that look at no type -/

/-- A traversal that makes the same of a node whatever type the node was declared with. -/
structure Algebra.IgnoresTypes {α β : Type} (a : Algebra α β) : Prop where
  column : ∀ table column aliasName t t',
    a.column table column aliasName t = a.column table column aliasName t'
  literal : ∀ value t t', a.literal value t = a.literal value t'
  binary : ∀ op left right t t', a.binary op left right t = a.binary op left right t'
  call : ∀ function arguments t t', a.call function arguments t = a.call function arguments t'
  caseWhen : ∀ branches otherwise t t',
    a.caseWhen branches otherwise t = a.caseWhen branches otherwise t'
  subquery : ∀ statement t t', a.subquery statement t = a.subquery statement t'
  statement : ∀ kind t t' clauses, a.statement kind t clauses = a.statement kind t' clauses

theorem Clauses.map_congr {ε σ α β : Type} {c : Clauses ε σ} {f f' : ε → α} {g g' : σ → β}
    (hf : ∀ e ∈ c.exprs, f e = f' e) (hg : ∀ s ∈ c.source, g s = g' s) :
    c.map f g = c.map f' g' := by
  simp only [mem_exprs] at hf
  have filter : c.filter.map f = c.filter.map f' := Option.map_congr fun e he => hf e (by grind)
  have having : c.having.map f = c.having.map f' := Option.map_congr fun e he => hf e (by grind)
  have source : c.source.map g = c.source.map g' := Option.map_congr hg
  simp only [map, filter, having, source, mk.injEq, true_and, and_true, List.map_inj_left,
    Join.mk.injEq, OrderItem.mk.injEq, Assignment.mk.injEq]
  refine ⟨?projection, ?joins, ?groupBy, ?orderBy, ?rows, ?assignments⟩ <;> grind

/-- A traversal that looks at no type makes the same of a tree with its types and without. -/
theorem Algebra.IgnoresTypes.fold_untagged {α β : Type} {a : Algebra α β} (h : a.IgnoresTypes) :
    (∀ e : Expr, e.untagged.fold a = e.fold a) ∧ ∀ s : Statement, s.untagged.fold a = s.fold a := by
  apply tree_induction
  case column =>
    intro table column aliasName type
    rw [Expr.untagged_column, Expr.fold_column, Expr.fold_column]
    exact h.column ..
  case literal =>
    intro value type
    rw [Expr.untagged_literal, Expr.fold_literal, Expr.fold_literal]
    exact h.literal ..
  case unary =>
    intro op operand ih
    rw [Expr.untagged_unary, Expr.fold_unary, Expr.fold_unary, ih]
  case binary =>
    intro op left right type ihl ihr
    rw [Expr.untagged_binary, Expr.fold_binary, Expr.fold_binary, ihl, ihr]
    exact h.binary ..
  case call =>
    intro function arguments type ih
    have same : (arguments.map Expr.untagged).map (Expr.fold a) = arguments.map (Expr.fold a) := by
      rw [List.map_map]
      exact List.map_congr_left ih
    rw [Expr.untagged_call, Expr.fold_call, Expr.fold_call, same]
    exact h.call ..
  case caseWhen =>
    intro branches otherwise type ihb iho
    have same : (branches.map fun b => (b.1.untagged, b.2.untagged)).map
        (fun b => (b.1.fold a, b.2.fold a)) = branches.map fun b => (b.1.fold a, b.2.fold a) := by
      rw [List.map_map]
      exact List.map_congr_left fun b hb => Prod.ext (ihb b hb).1 (ihb b hb).2
    have same? : (otherwise.map Expr.untagged).map (Expr.fold a) = otherwise.map (Expr.fold a) := by
      rw [Option.map_map]
      exact Option.map_congr iho
    rw [Expr.untagged_caseWhen, Expr.fold_caseWhen, Expr.fold_caseWhen, same, same?]
    exact h.caseWhen ..
  case subquery =>
    intro statement type ih
    rw [Expr.untagged_subquery, Expr.fold_subquery, Expr.fold_subquery, ih]
    exact h.subquery ..
  case statement =>
    intro s ihe ihs
    have same : (s.clauses.map Expr.untagged Statement.untagged).map (Expr.fold a)
        (Statement.fold a) = s.clauses.map (Expr.fold a) (Statement.fold a) := by
      rw [Clauses.map_map]
      exact Clauses.map_congr ihe ihs
    rw [Statement.untagged_eq, Statement.fold_eq, Statement.fold_eq, same]
    exact h.statement ..

theorem ignoresTypes_sql : sqlAlgebra.IgnoresTypes :=
  ⟨fun _ _ _ _ _ => rfl, fun _ _ _ => rfl, fun _ _ _ _ _ => rfl, fun _ _ _ _ => rfl,
    fun _ _ _ _ => rfl, fun _ _ _ => rfl, fun _ _ _ _ => rfl⟩

theorem ignoresTypes_check : checkAlgebra.IgnoresTypes :=
  ⟨fun _ _ _ _ _ => rfl, fun _ _ _ => rfl, fun _ _ _ _ _ => rfl, fun _ _ _ _ => rfl,
    fun _ _ _ _ => rfl, fun _ _ _ => rfl, fun _ _ _ _ => rfl⟩

theorem Expr.toSql_untagged (e : Expr) : e.untagged.toSql = e.toSql :=
  congrArg (fun f : Fragment => String.ofList f.text) (ignoresTypes_sql.fold_untagged.1 e)

theorem Expr.checkNames_untagged (e : Expr) : e.untagged.checkNames = e.checkNames :=
  ignoresTypes_check.fold_untagged.1 e

theorem Statement.toSql_untagged (s : Statement) : s.untagged.toSql = s.toSql :=
  congrArg String.ofList (ignoresTypes_sql.fold_untagged.2 s)

theorem Statement.validate_untagged (s : Statement) : s.untagged.validate = s.validate :=
  ignoresTypes_check.fold_untagged.2 s

/-- Trees that differ in nothing but the types they were declared with, at any depth, have the same
SQL, and the check comes to the same result, with the same error if there is one. -/
theorem toSql_and_validate_of_untagged_eq :
    (∀ a b : Expr, a.untagged = b.untagged → a.toSql = b.toSql ∧ a.checkNames = b.checkNames) ∧
    ∀ s t : Statement, s.untagged = t.untagged → s.toSql = t.toSql ∧ s.validate = t.validate := by
  refine ⟨fun a b h => ⟨?_, ?_⟩, fun s t h => ⟨?_, ?_⟩⟩
  · rw [← a.toSql_untagged, h, b.toSql_untagged]
  · rw [← a.checkNames_untagged, h, b.checkNames_untagged]
  · rw [← s.toSql_untagged, h, t.toSql_untagged]
  · rw [← s.validate_untagged, h, t.validate_untagged]

/-- A subquery for a column of integers and one for a column of texts of the same blank name: four
types differ, and both statements are refused for the name. -/
theorem toSql_and_validate_of_untagged_eq_blank :
    let users := select.fromTable ⟨"users", none⟩
    let nested (t : SqlType) :=
      (select.project (users.project (Typed.column t "users" " ")).asSubquery).statement
    nested .int ≠ nested .text ∧ (nested .int).untagged = (nested .text).untagged ∧
      (nested .int).toSql = (nested .text).toSql ∧
      (nested .text).validate = .error (.invalidArgument (.emptyName .column)) ∧
      (nested .int).validate = .error (.invalidArgument (.emptyName .column)) := by
  intro users nested
  have alike : (nested .int).untagged = (nested .text).untagged := rfl
  have refused : (nested .text).validate = .error (.invalidArgument (.emptyName .column)) :=
    rfl
  obtain ⟨sql, check⟩ := toSql_and_validate_of_untagged_eq.2 _ _ alike
  refine ⟨fun h => ?_, alike, sql, refused, check.trans refused⟩
  exact absurd (congrArg Statement.resultType h) (by decide)

end TypedSql
