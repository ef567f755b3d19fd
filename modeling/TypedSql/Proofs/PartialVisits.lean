import TypedSql.Proofs.Rendering
import TypedSql.Tree.Visitor

/-!
Visits of expressions by a visitor that goes through operators, counts the columns it meets and
leaves all other varieties alone. The visit ends at the first function, case distinction or subquery
that it reaches, from left to right, with the columns before it counted; if it reaches none, all
columns are counted. The visitor that writes SQL handles every variety and writes what is written
directly.
-/

namespace TypedSql

/-! ### What is reached -/

namespace Expr

/-- What stands below nothing but operators, from left to right. -/
def reached : Expr → List Expr
  | column table name aliasName type => [column table name aliasName type]
  | literal value type => [literal value type]
  | unary _ operand => operand.reached
  | binary _ left right _ => left.reached ++ right.reached
  | call function arguments type => [call function arguments type]
  | caseWhen branches otherwise type => [caseWhen branches otherwise type]
  | subquery statement type => [subquery statement type]

def isColumn : Expr → Bool
  | column .. => true
  | _ => false

/-- Whether every visitor has a way to visit the variety. Functions, case distinctions and
subqueries may be left alone. -/
def isBasic : Expr → Bool
  | call .. | caseWhen .. | subquery .. => false
  | _ => true

end Expr

/-! ### Visits one after the other -/

namespace Visit

variable {κ α β : Type} {count : κ → Nat} {nodes others : List Expr} {node : Expr}
  {visit : Visit κ α} {next : α → Visit κ β}

/-- How a visit of expressions, one after the other, ends from a context: behind the last of them,
or at the first that is not of a basic variety. The columns before the end are counted. -/
inductive Ending (count : κ → Nat) (k : κ) (nodes : List Expr) : SqlResult α × κ → Prop
  | finished {x : α} {k' : κ} : (∀ node ∈ nodes, node.isBasic = true) →
      count k' = count k + nodes.countP Expr.isColumn → Ending count k nodes (.ok x, k')
  | stopped {before after : List Expr} {node : Expr} {k' : κ} : nodes = before ++ node :: after →
      (∀ node ∈ before, node.isBasic = true) → node.isBasic = false →
      count k' = count k + before.countP Expr.isColumn →
      Ending count k nodes (.error (.unsupportedExpression node.variety), k')

/-- The visit is one of the expressions, from whatever context. -/
def GoesThrough (visit : Visit κ α) (count : κ → Nat) (nodes : List Expr) : Prop :=
  ∀ k, Ending count k nodes (visit.runFrom k)

/-- The visit succeeds and adds a number to the count. -/
def Adds (visit : Visit κ α) (count : κ → Nat) (n : Nat) : Prop :=
  ∀ k, ∃ x k', visit.runFrom k = (.ok x, k') ∧ count k' = count k + n

theorem runFrom_bind (visit : Visit κ α) (next : α → Visit κ β) (k : κ) :
    (visit >>= next).runFrom k = match visit.runFrom k with
      | (.ok x, k') => (next x).runFrom k'
      | (.error e, k') => (.error e, k') := by
  show (match visit.runFrom k with
    | (result, k') => Id.run (StateT.run (ExceptT.bindCont next result) k')) = _
  cases visit.runFrom k with
  | mk result k' => cases result <;> rfl

theorem GoesThrough.pure (x : α) : GoesThrough (Pure.pure x : Visit κ α) count [] :=
  fun _ => .finished nofun rfl

/-- A visit that fails keeps what follows from being visited. -/
theorem GoesThrough.bind (first : visit.GoesThrough count nodes)
    (second : ∀ x, (next x).GoesThrough count others) :
    (visit >>= next).GoesThrough count (nodes ++ others) := by
  intro k
  rw [runFrom_bind]
  have ending := first k
  generalize visit.runFrom k = outcome at ending
  cases ending with
  | @finished x k' basic counted =>
    dsimp only
    have ending := second x k'
    generalize (next x).runFrom k' = outcome at ending
    cases ending with
    | finished basic' counted' =>
      refine .finished (List.forall_mem_append.mpr ⟨basic, basic'⟩) ?_
      rw [counted', counted, List.countP_append, Nat.add_assoc]
    | stopped split basic' unsupported counted' =>
      refine .stopped (by rw [split, List.append_assoc])
        (List.forall_mem_append.mpr ⟨basic, basic'⟩) unsupported ?_
      rw [counted', counted, List.countP_append, Nat.add_assoc]
  | stopped split basic unsupported counted =>
    exact .stopped (by rw [split, List.append_assoc]; rfl) basic unsupported counted

theorem GoesThrough.basic (h : node.isBasic = true)
    (adds : visit.Adds count ([node].countP Expr.isColumn)) : visit.GoesThrough count [node] := by
  intro k
  obtain ⟨x, k', run, counted⟩ := adds k
  rw [run]
  exact .finished (List.forall_mem_singleton.mpr h) counted

theorem GoesThrough.unsupported (h : node.isBasic = false) :
    GoesThrough (Visit.unsupported node.variety : Visit κ α) count [node] :=
  fun _ => .stopped (show [node] = [] ++ node :: [] from rfl) nofun h rfl

end Visit

/-! ### Visitors -/

/-- A visitor that counts columns. It goes through operators, to the left operand first, makes its
answer from the answers of the operands, and leaves functions, case distinctions and subqueries
alone. -/
structure Visitor.CountsColumns {κ α : Type} (v : Visitor κ α) (count : κ → Nat) : Prop where
  column : ∀ table name aliasName, (v.column table name aliasName).Adds count 1
  literal : ∀ value, (v.literal value).Adds count 0
  unary : ∀ op operand, ∃ answer : α → α, ∀ visit,
    v.unary op operand visit = do
      let x ← visit
      return answer x
  binary : ∀ op left right, ∃ answer : α → α → α, ∀ visitLeft visitRight,
    v.binary op left right visitLeft visitRight = do
      let x ← visitLeft
      let y ← visitRight
      return answer x y
  call : ∀ function arguments, v.call function arguments = Visit.unsupported "FunctionCall"
  caseWhen : ∀ branches otherwise, v.caseWhen branches otherwise = Visit.unsupported "Conditional"
  subquery : ∀ statement, v.subquery statement = Visit.unsupported "Subquery"

namespace Visitor

variable {κ α : Type} {v : Visitor κ α} {count : κ → Nat}

theorem CountsColumns.goesThrough (h : v.CountsColumns count) :
    ∀ e : Expr, (e.accept v).GoesThrough count e.reached
  | .column table name aliasName type => .basic rfl (h.column table name aliasName)
  | .literal value type => .basic rfl (h.literal value)
  | .unary op operand => by
    obtain ⟨answer, unary⟩ := h.unary op operand
    rw [Expr.accept, unary, Expr.reached, ← List.append_nil operand.reached]
    exact (h.goesThrough operand).bind fun x => .pure (answer x)
  | .binary op left right type => by
    obtain ⟨answer, binary⟩ := h.binary op left right
    rw [Expr.accept, binary, Expr.reached, ← List.append_nil right.reached]
    exact (h.goesThrough left).bind fun x => (h.goesThrough right).bind fun y => .pure (answer x y)
  | .call function arguments type => by
    rw [Expr.accept, h.call]
    exact .unsupported rfl
  | .caseWhen branches otherwise type => by
    rw [Expr.accept, h.caseWhen]
    exact .unsupported rfl
  | .subquery statement type => by
    rw [Expr.accept, h.subquery]
    exact .unsupported rfl

/-- The visitor that writes SQL writes what is written directly. -/
theorem runFrom_accept_sql (e : Expr) : (e.accept sql).runFrom () = (.ok e.sqlText, ()) := by
  cases e <;>
    simp only [Expr.sqlText, Expr.fragment, Expr.fold_column, Expr.fold_literal, Expr.fold_unary,
      Expr.fold_binary, Expr.fold_call, Expr.fold_caseWhen, Expr.fold_subquery] <;>
    rfl

end Visitor

/-- A visitor that counts columns succeeds if and only if it reaches no function, case distinction
or subquery, and has counted all columns then. Otherwise its error names the variety of the first of
them, and it has counted the columns before that one. The visitor that writes SQL never fails and
writes what is written directly. -/
theorem columns_of_accept {κ α : Type} {v : Visitor κ α} {count : κ → Nat}
    (counts : v.CountsColumns count) (e : Expr) (k : κ) :
    ((∃ x k', (e.accept v).runFrom k = (.ok x, k') ∧
        count k' = count k + e.reached.countP Expr.isColumn) ↔
      ∀ node ∈ e.reached, node.isBasic = true) ∧
    ((¬ ∀ node ∈ e.reached, node.isBasic = true) →
      ∃ before node after k', e.reached = before ++ node :: after ∧
        (∀ node ∈ before, node.isBasic = true) ∧ node.isBasic = false ∧
        (e.accept v).runFrom k = (.error (.unsupportedExpression node.variety), k') ∧
        count k' = count k + before.countP Expr.isColumn) ∧
    (e.accept Visitor.sql).runFrom () = (.ok e.sqlText, ()) := by
  have ending := counts.goesThrough e k
  generalize (e.accept v).runFrom k = outcome at ending
  cases ending with
  | finished basic counted =>
    exact ⟨⟨fun _ => basic, fun _ => ⟨_, _, rfl, counted⟩⟩, fun h => absurd basic h,
      Visitor.runFrom_accept_sql e⟩
  | @stopped before after node k' split basic unsupported counted =>
    refine ⟨⟨fun ⟨_, _, h, _⟩ => (nomatch h), fun all => ?_⟩,
      fun _ => ⟨before, node, after, k', split, basic, unsupported, rfl, counted⟩,
      Visitor.runFrom_accept_sql e⟩
    have reached : node ∈ e.reached := split ▸ List.mem_append_right _ List.mem_cons_self
    rw [all node reached] at unsupported
    cases unsupported

/-- The visitor whose context is the number of columns met. -/
def Visitor.columnCounter : Visitor Nat Unit where
  column _ _ _ := modify (· + 1)
  literal _ := pure ()
  unary _ _ visit := visit
  binary _ _ _ visitLeft visitRight := do
    visitLeft
    visitRight

theorem Visitor.countsColumns_columnCounter : columnCounter.CountsColumns id where
  column _ _ _ k := ⟨(), k + 1, rfl, rfl⟩
  literal _ k := ⟨(), k, rfl, rfl⟩
  unary _ _ := ⟨id, fun _ => (bind_pure _).symm⟩
  binary _ _ _ := ⟨fun _ y => y, fun visitLeft visitRight => by
    show (visitLeft >>= fun _ => visitRight) = visitLeft >>= fun _ => visitRight >>= pure
    rw [bind_pure]⟩
  call _ _ := rfl
  caseWhen _ _ := rfl
  subquery _ := rfl

/-- Two columns are counted behind five others where there are only operators. One is counted before
a function in the middle of a condition; the subquery and the column behind it are not visited. -/
theorem columns_of_accept_function :
    let age := Expr.column "users" "age" none .int
    let adult := Expr.binary .gt age (.literal (.int 17) .int) .bool
    let plain := Expr.binary .or adult (.unary .isNull age) .bool
    let counted := Expr.binary .lt (.call "COUNT" [age] .bigInt) (.subquery default .bigInt) .bool
    let mixed := Expr.binary .and (.binary .and adult counted .bool) (.unary .isNull age) .bool
    Visitor.columnCounter.CountsColumns id ∧
      (plain.accept Visitor.columnCounter).runFrom 5 = (.ok (), 7) ∧
      (mixed.accept Visitor.columnCounter).runFrom 5 =
        (.error (.unsupportedExpression "FunctionCall"), 6) := by
  intro age adult plain counted mixed
  have counts := Visitor.countsColumns_columnCounter
  obtain ⟨_, k', run, count⟩ := (columns_of_accept counts plain 5).1.mpr (by decide)
  obtain rfl : k' = 7 := count
  refine ⟨counts, run, ?_⟩
  obtain ⟨before, node, after, k', split, basic, unsupported, run, count⟩ :=
    (columns_of_accept counts mixed 5).2.1 (by decide)
  have split : [age, .literal (.int 17) .int, .call "COUNT" [age] .bigInt,
    .subquery default .bigInt, age] = before ++ node :: after := split
  -- the function is the only place to stop
  rcases before with _ | ⟨_, _ | ⟨_, _ | ⟨_, before⟩⟩⟩
  · cases split
    cases unsupported
  · cases split
    cases unsupported
  · cases split
    rw [run]
    exact congrArg _ count
  · simp only [List.cons_append, List.cons.injEq] at split
    obtain ⟨-, -, rfl, -⟩ := split
    exact absurd (basic (.call "COUNT" [age] .bigInt) (by simp)) (by decide)

end TypedSql
