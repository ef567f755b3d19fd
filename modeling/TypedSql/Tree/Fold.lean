import TypedSql.Tree.Basic

/-!
The traversal that all others are made of: a tree is taken apart and put together again by the
functions of an `Algebra`, one for each variety of expression and one for statements. With it
comes the induction that speaks of the direct parts of a tree only.
-/

namespace TypedSql

/-- What a traversal makes of each variety of expression and of a statement, given what it made of
their parts. -/
structure Algebra (α β : Type) where
  column : String → String → Option String → SqlType → α
  literal : Value → SqlType → α
  unary : Operator → α → α
  binary : Operator → α → α → SqlType → α
  call : String → List α → SqlType → α
  caseWhen : List (α × α) → Option α → SqlType → α
  subquery : β → SqlType → α
  statement : StatementKind → SqlType → Clauses α β → β

variable {α β : Type} (a : Algebra α β)

mutual

def Expr.fold : Expr → α
  | .column table column aliasName type => a.column table column aliasName type
  | .literal value type => a.literal value type
  | .unary op operand => a.unary op (Expr.fold operand)
  | .binary op left right type => a.binary op (Expr.fold left) (Expr.fold right) type
  | .call function arguments type => a.call function (foldExprs arguments) type
  | .caseWhen branches otherwise type =>
    a.caseWhen (foldBranches branches) (foldExpr? otherwise) type
  | .subquery statement type => a.subquery (Statement.fold statement) type

def foldExprs : List Expr → List α
  | [] => []
  | e :: es => Expr.fold e :: foldExprs es

def foldExpr? : Option Expr → Option α
  | none => none
  | some e => some (Expr.fold e)

def foldBranches : List (Expr × Expr) → List (α × α)
  | [] => []
  | (c, r) :: bs => (Expr.fold c, Expr.fold r) :: foldBranches bs

def foldJoins : List (Join Expr) → List (Join α)
  | [] => []
  | ⟨kind, table, on⟩ :: js => ⟨kind, table, Expr.fold on⟩ :: foldJoins js

def foldOrderItems : List (OrderItem Expr) → List (OrderItem α)
  | [] => []
  | ⟨e, direction⟩ :: os => ⟨Expr.fold e, direction⟩ :: foldOrderItems os

def foldRows : List (List Expr) → List (List α)
  | [] => []
  | r :: rs => foldExprs r :: foldRows rs

def foldAssignments : List (Assignment Expr) → List (Assignment α)
  | [] => []
  | ⟨column, value⟩ :: as => ⟨column, Expr.fold value⟩ :: foldAssignments as

def foldStatement? : Option Statement → Option β
  | none => none
  | some s => some (Statement.fold s)

def Statement.fold : Statement → β
  | ⟨kind, resultType, ⟨table, projection, joins, filter, groupBy, having, orderBy, limit, offset,
      columns, rows, source, assignments, returning⟩⟩ =>
    a.statement kind resultType
      { table
        projection := foldExprs projection
        joins := foldJoins joins
        filter := foldExpr? filter
        groupBy := foldExprs groupBy
        having := foldExpr? having
        orderBy := foldOrderItems orderBy
        limit
        offset
        columns
        rows := foldRows rows
        source := foldStatement? source
        assignments := foldAssignments assignments
        returning }

end

/-- Induction on trees: a fact holds of every expression and of every statement if it passes from
the direct parts of each to the whole. -/
theorem tree_induction {P : Expr → Prop} {Q : Statement → Prop}
    (column : ∀ table column aliasName type, P (.column table column aliasName type))
    (literal : ∀ value type, P (.literal value type))
    (unary : ∀ op operand, P operand → P (.unary op operand))
    (binary : ∀ op left right type, P left → P right → P (.binary op left right type))
    (call : ∀ function arguments type, (∀ e ∈ arguments, P e) → P (.call function arguments type))
    (caseWhen : ∀ branches otherwise type, (∀ b ∈ branches, P b.1 ∧ P b.2) →
      (∀ e ∈ otherwise, P e) → P (.caseWhen branches otherwise type))
    (subquery : ∀ statement type, Q statement → P (.subquery statement type))
    (statement : ∀ s : Statement, (∀ e ∈ s.clauses.exprs, P e) → (∀ t ∈ s.clauses.source, Q t) →
      Q s) :
    (∀ e, P e) ∧ ∀ s, Q s := by
  have parts := Expr.fold.mutual_induct P Q (fun as => ∀ x ∈ as, P x.value)
    (fun s => ∀ t ∈ s, Q t) (fun rs => ∀ r ∈ rs, ∀ e ∈ r, P e) (fun es => ∀ e ∈ es, P e)
    (fun os => ∀ o ∈ os, P o.expr) (fun e => ∀ x ∈ e, P x) (fun js => ∀ j ∈ js, P j.on)
    (fun bs => ∀ b ∈ bs, P b.1 ∧ P b.2)
    column literal unary binary call caseWhen subquery
    (fun _ _ _ _ _ _ _ _ _ _ _ _ _ _ _ _ hp hj hf hg hh ho hr hs ha => statement _ (by
      simp only [Clauses.exprs, List.mem_append, List.mem_map, Option.mem_toList, List.mem_flatten]
      grind) hs)
  refine ⟨(parts ?_ ?_ ?_ ?_ ?_ ?_ ?_ ?_ ?_ ?_ ?_ ?_ ?_ ?_ ?_ ?_).1,
    (parts ?_ ?_ ?_ ?_ ?_ ?_ ?_ ?_ ?_ ?_ ?_ ?_ ?_ ?_ ?_ ?_).2.1⟩ <;> grind

/-! ### The traversal of lists is `map` -/

theorem foldExprs_eq (es : List Expr) : foldExprs a es = es.map (Expr.fold a) := by
  induction es with
  | nil => simp [foldExprs]
  | cons e es ih => simp [foldExprs, ih]

theorem foldExpr?_eq (e : Option Expr) : foldExpr? a e = e.map (Expr.fold a) := by
  cases e <;> simp [foldExpr?]

theorem foldBranches_eq (bs : List (Expr × Expr)) :
    foldBranches a bs = bs.map fun b => (Expr.fold a b.1, Expr.fold a b.2) := by
  induction bs with
  | nil => simp [foldBranches]
  | cons b bs ih => simp [foldBranches, ih]

theorem foldJoins_eq (js : List (Join Expr)) :
    foldJoins a js = js.map fun j => ⟨j.kind, j.table, Expr.fold a j.on⟩ := by
  induction js with
  | nil => simp [foldJoins]
  | cons j js ih => simp [foldJoins, ih]

theorem foldOrderItems_eq (os : List (OrderItem Expr)) :
    foldOrderItems a os = os.map fun o => ⟨Expr.fold a o.expr, o.direction⟩ := by
  induction os with
  | nil => simp [foldOrderItems]
  | cons o os ih => simp [foldOrderItems, ih]

theorem foldRows_eq (rs : List (List Expr)) : foldRows a rs = rs.map (·.map (Expr.fold a)) := by
  induction rs with
  | nil => simp [foldRows]
  | cons r rs ih => simp [foldRows, foldExprs_eq, ih]

theorem foldAssignments_eq (as : List (Assignment Expr)) :
    foldAssignments a as = as.map fun x => ⟨x.column, Expr.fold a x.value⟩ := by
  induction as with
  | nil => simp [foldAssignments]
  | cons x as ih => simp [foldAssignments, ih]

theorem foldStatement?_eq (s : Option Statement) :
    foldStatement? a s = s.map (Statement.fold a) := by
  cases s <;> simp [foldStatement?]

/-! ### One equation for each variety -/

namespace Expr

@[simp] theorem fold_column (table column : String) (aliasName : Option String) (type : SqlType) :
    fold a (.column table column aliasName type) = a.column table column aliasName type := by
  simp [fold]

@[simp] theorem fold_literal (value : Value) (type : SqlType) :
    fold a (.literal value type) = a.literal value type := by
  simp [fold]

@[simp] theorem fold_unary (op : Operator) (operand : Expr) :
    fold a (.unary op operand) = a.unary op (operand.fold a) := by
  simp [fold]

@[simp] theorem fold_binary (op : Operator) (left right : Expr) (type : SqlType) :
    fold a (.binary op left right type) = a.binary op (left.fold a) (right.fold a) type := by
  simp [fold]

@[simp] theorem fold_call (function : String) (arguments : List Expr) (type : SqlType) :
    fold a (.call function arguments type) = a.call function (arguments.map (fold a)) type := by
  simp [fold, foldExprs_eq]

@[simp] theorem fold_caseWhen (branches : List (Expr × Expr)) (otherwise : Option Expr)
    (type : SqlType) :
    fold a (.caseWhen branches otherwise type) =
      a.caseWhen (branches.map fun b => (b.1.fold a, b.2.fold a)) (otherwise.map (fold a))
        type := by
  simp [fold, foldBranches_eq, foldExpr?_eq]

@[simp] theorem fold_subquery (statement : Statement) (type : SqlType) :
    fold a (.subquery statement type) = a.subquery (statement.fold a) type := by
  simp [fold]

end Expr

theorem Statement.fold_eq (s : Statement) :
    s.fold a =
      a.statement s.kind s.resultType (s.clauses.map (Expr.fold a) (Statement.fold a)) := by
  obtain ⟨kind, resultType, c⟩ := s
  cases c
  simp [Statement.fold, Clauses.map, foldExprs_eq, foldExpr?_eq, foldJoins_eq, foldOrderItems_eq,
    foldRows_eq, foldAssignments_eq, foldStatement?_eq]

end TypedSql
