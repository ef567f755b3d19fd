import Mathlib.Algebra.Ring.Nat
import TypedSql.Proofs.Contents
import TypedSql.Proofs.Rendering

/-!
Operands that end with an operator. The rendering table has one rule for the operands of all
operators: an operand that ends with an operator of its own stands in parentheses. The text follows
the rule where the operator stands between its operands. Where it stands behind its one operand the
parentheses are left out, and they are all that sets the text apart from what the table says.
-/

namespace TypedSql

/-! ### Texts with more parentheses -/

/-- The second text is the first with that many pairs of parentheses put around parts of it. -/
inductive Parenthesized : Nat → List Char → List Char → Prop
  | same (s : List Char) : Parenthesized 0 s s
  | append {n m : Nat} {s s' t t' : List Char} : Parenthesized n s t → Parenthesized m s' t' →
      Parenthesized (n + m) (s ++ s') (t ++ t')
  | pair {n : Nat} {s t : List Char} : Parenthesized n s t →
      Parenthesized (n + 1) s ('(' :: (t ++ [')']))

namespace Parenthesized

variable {n : Nat} {s t : List Char}

theorem length_eq (h : Parenthesized n s t) : t.length = s.length + 2 * n := by
  induction h with
  | same => rfl
  | append _ _ ih ih' =>
    rw [List.length_append, List.length_append, ih, ih']
    omega
  | pair _ ih =>
    rw [List.length_cons, List.length_append, List.length_singleton, ih]
    omega

theorem eq_of_zero (h : Parenthesized n s t) (hn : n = 0) : s = t := by
  induction h with
  | same => rfl
  | append _ _ ih ih' => rw [ih (by omega), ih' (by omega)]
  | pair => omega

theorem eq_iff (h : Parenthesized n s t) : s = t ↔ n = 0 := by
  refine ⟨fun he => ?_, h.eq_of_zero⟩
  have := h.length_eq
  rw [he] at this
  omega

theorem front (text : List Char) (h : Parenthesized n s t) :
    Parenthesized n (text ++ s) (text ++ t) := by
  have := (same text).append h
  rwa [Nat.zero_add] at this

theorem back (h : Parenthesized n s t) (text : List Char) :
    Parenthesized n (s ++ text) (t ++ text) :=
  h.append (same text)

theorem between (h : Parenthesized n s t) (text text' : List Char) :
    Parenthesized n (text ++ (s ++ text')) (text ++ (t ++ text')) :=
  (h.back text').front text

section Lists

variable {α : Type} {k : α → Nat} {f g : α → List Char}

theorem flatMap (xs : List α) (h : ∀ x ∈ xs, Parenthesized (k x) (f x) (g x)) :
    Parenthesized (xs.map k).sum (xs.flatMap f) (xs.flatMap g) := by
  induction xs with
  | nil => exact same []
  | cons x xs ih =>
    rw [List.forall_mem_cons] at h
    exact h.1.append (ih h.2)

theorem commaSeparated (xs : List α) (h : ∀ x ∈ xs, Parenthesized (k x) (f x) (g x)) :
    Parenthesized (xs.map k).sum (TypedSql.commaSeparated (xs.map f))
      (TypedSql.commaSeparated (xs.map g)) := by
  cases xs with
  | nil => exact same []
  | cons x xs =>
    rw [List.forall_mem_cons] at h
    rw [List.map_cons, List.map_cons, List.map_cons, commaSeparated_cons, commaSeparated_cons,
      List.flatMap_map, List.flatMap_map]
    exact h.1.append (flatMap xs fun y hy => (h.2 y hy).front ", ".toList)

theorem optional (keyword : String) (x : Option α)
    (h : ∀ y ∈ x, Parenthesized (k y) (f y) (g y)) :
    Parenthesized ((x.map k).getD 0) (Clauses.optional keyword (x.map f))
      (Clauses.optional keyword (x.map g)) := by
  cases x with
  | none => exact same []
  | some y => exact (h y rfl).front keyword.toList

theorem optionalList (keyword : String) (xs : List α)
    (h : ∀ x ∈ xs, Parenthesized (k x) (f x) (g x)) :
    Parenthesized (xs.map k).sum (Clauses.optionalList keyword (xs.map f))
      (Clauses.optionalList keyword (xs.map g)) := by
  cases xs with
  | nil => exact same []
  | cons x xs => exact (commaSeparated (x :: xs) h).front keyword.toList

end Lists

end Parenthesized

/-! ### The table, and what the text leaves out of it -/

/-- An operand of an operator by the rendering table. -/
def documentedOperand (f : Fragment) : List Char :=
  if f.endsWithOperator then "(".toList ++ f.text ++ ")".toList else f.text

/-- The rendering table, row by row. -/
def documentedAlgebra : Algebra Fragment (List Char) where
  column table column aliasName _ :=
    ⟨table.toList ++ ".".toList ++ column.toList ++
      aliasName.elim [] (" AS ".toList ++ ·.toList), false⟩
  literal value _ := ⟨value.literalText, false⟩
  unary op operand := ⟨documentedOperand operand ++ " ".toList ++ op.symbol.toList, true⟩
  binary op left right _ :=
    ⟨"(".toList ++ documentedOperand left ++ " ".toList ++ op.symbol.toList ++ " ".toList ++
      documentedOperand right ++ ")".toList, false⟩
  call function arguments _ :=
    ⟨function.toList ++ "(".toList ++ commaSeparated (arguments.map Fragment.text) ++ ")".toList,
      false⟩
  caseWhen branches otherwise _ :=
    ⟨"CASE".toList ++
      branches.flatMap (fun b => " WHEN ".toList ++ b.1.text ++ " THEN ".toList ++ b.2.text) ++
      otherwise.elim [] (" ELSE ".toList ++ ·.text) ++ " END".toList, false⟩
  subquery statement _ := ⟨"(".toList ++ statement ++ ")".toList, false⟩
  statement kind _ clauses := (clauses.map Fragment.text id).text kind

/-- The text of an expression by the rendering table. -/
def Expr.documentedText (e : Expr) : List Char :=
  (e.fold documentedAlgebra).text

/-- The text of a statement by the rendering table. -/
def Statement.documentedText (s : Statement) : List Char :=
  s.fold documentedAlgebra

/-- How many operands in a text stand without the parentheses that they should have, and whether
an operator behind its operand ends the text. -/
structure Omission where
  pairs : Nat
  endsWithOperator : Bool := false

/-- The pairs that are left out of the written clauses of a statement. -/
def Clauses.omissions (c : Clauses Nat Nat) : StatementKind → Nat
  | .select =>
    c.projection.sum + (c.joins.map (·.on)).sum + c.filter.getD 0 + c.groupBy.sum +
      c.having.getD 0 + (c.orderBy.map (·.expr)).sum
  | .insert => if c.rows.isEmpty then c.source.getD 0 else (c.rows.map List.sum).sum
  | .update => (c.assignments.map (·.value)).sum + c.filter.getD 0
  | .delete => c.filter.getD 0

/-- The traversal that counts one operator behind its operand for each that stands directly behind
another. -/
def omissionAlgebra : Algebra Omission Nat where
  column _ _ _ _ := ⟨0, false⟩
  literal _ _ := ⟨0, false⟩
  unary _ operand := ⟨operand.pairs + if operand.endsWithOperator then 1 else 0, true⟩
  binary _ left right _ := ⟨left.pairs + right.pairs, false⟩
  call _ arguments _ := ⟨(arguments.map Omission.pairs).sum, false⟩
  caseWhen branches otherwise _ :=
    ⟨(branches.map fun b => b.1.pairs + b.2.pairs).sum + (otherwise.map Omission.pairs).getD 0,
      false⟩
  subquery statement _ := ⟨statement, false⟩
  statement kind _ clauses := (clauses.map Omission.pairs id).omissions kind

/-- The number of operators in an expression that stand behind their operand, directly behind
another such operator. -/
def Expr.omissions (e : Expr) : Nat :=
  (e.fold omissionAlgebra).pairs

def Statement.omissions (s : Statement) : Nat :=
  s.fold omissionAlgebra

/-- A count of omissions belongs to the two texts of one expression. -/
structure Omission.Explains (o : Omission) (written documented : Fragment) : Prop where
  text : Parenthesized o.pairs written.text documented.text
  written_ends : written.endsWithOperator = o.endsWithOperator
  documented_ends : documented.endsWithOperator = o.endsWithOperator

namespace Omission.Explains

variable {o p : Omission} {f g f' g' : Fragment}

/-- An operand of an operator between operands is written as the table has it. -/
theorem asOperand (h : o.Explains f g) :
    Parenthesized o.pairs f.asOperand (documentedOperand g) := by
  unfold Fragment.asOperand documentedOperand
  rw [h.written_ends, h.documented_ends]
  split
  · rw [List.append_assoc]
    exact h.text.between ['('] [')']
  · exact h.text

/-- The operand of an operator behind it is written as if it were none. -/
theorem text_operand (h : o.Explains f g) :
    Parenthesized (o.pairs + if o.endsWithOperator then 1 else 0) f.text (documentedOperand g) := by
  unfold documentedOperand
  rw [h.documented_ends]
  split
  · rw [List.append_assoc]
    exact h.text.pair
  · exact h.text

variable (op : Operator) (type : SqlType)

theorem column (table column : String) (aliasName : Option String) :
    (omissionAlgebra.column table column aliasName type).Explains
      (sqlAlgebra.column table column aliasName type)
      (documentedAlgebra.column table column aliasName type) := by
  refine ⟨?_, rfl, rfl⟩
  have text : (documentedAlgebra.column table column aliasName type).text =
      (sqlAlgebra.column table column aliasName type).text := by
    cases aliasName <;> simp [documentedAlgebra, sqlAlgebra, Fragment.column]
  rw [text]
  exact .same _

theorem unary (h : o.Explains f g) :
    (omissionAlgebra.unary op o).Explains (sqlAlgebra.unary op f)
      (documentedAlgebra.unary op g) := by
  refine ⟨?_, rfl, rfl⟩
  have text : (documentedAlgebra.unary op g).text =
      documentedOperand g ++ ' ' :: op.symbol.toList := List.append_assoc ..
  rw [text]
  exact h.text_operand.back (' ' :: op.symbol.toList)

theorem binary (h : o.Explains f g) (h' : p.Explains f' g') :
    (omissionAlgebra.binary op o p type).Explains (sqlAlgebra.binary op f f' type)
      (documentedAlgebra.binary op g g' type) := by
  refine ⟨?_, rfl, rfl⟩
  have text : (documentedAlgebra.binary op g g' type).text =
      '(' :: (documentedOperand g ++ ' ' :: (op.symbol.toList ++
        ' ' :: (documentedOperand g' ++ [')']))) := by
    simp [documentedAlgebra]
  rw [text]
  have right := ((h'.asOperand.between [' '] [')']).front op.symbol.toList).front [' ']
  exact (h.asOperand.append right).front ['(']

theorem subquery {n : Nat} {s t : List Char} (h : Parenthesized n s t) :
    (omissionAlgebra.subquery n type).Explains (sqlAlgebra.subquery s type)
      (documentedAlgebra.subquery t type) := by
  refine ⟨?_, rfl, rfl⟩
  have text : (documentedAlgebra.subquery t type).text = '(' :: (t ++ [')']) :=
    List.append_assoc ..
  rw [text]
  exact h.between ['('] [')']

section Lists

variable {ι : Type} {k : ι → Omission} {w d : ι → Fragment}

theorem call (function : String) {xs : List ι} (h : ∀ x ∈ xs, (k x).Explains (w x) (d x)) :
    (omissionAlgebra.call function (xs.map k) type).Explains
      (sqlAlgebra.call function (xs.map w) type)
      (documentedAlgebra.call function (xs.map d) type) := by
  have texts := Parenthesized.commaSeparated xs fun x hx => (h x hx).text
  refine ⟨?_, rfl, rfl⟩
  have written : (sqlAlgebra.call function (xs.map w) type).text = function.toList ++
      ('(' :: (commaSeparated (xs.map fun x => (w x).text) ++ [')'])) := by
    simp [sqlAlgebra, Fragment.call, Function.comp_def]
  have documented : (documentedAlgebra.call function (xs.map d) type).text = function.toList ++
      ('(' :: (commaSeparated (xs.map fun x => (d x).text) ++ [')'])) := by
    simp [documentedAlgebra, Function.comp_def]
  have count : (omissionAlgebra.call function (xs.map k) type).pairs =
      (xs.map fun x => (k x).pairs).sum := by
    simp [omissionAlgebra, Function.comp_def]
  rw [written, documented, count]
  exact (texts.between ['('] [')']).front function.toList

theorem caseWhen {branches : List (ι × ι)} {otherwise : Option ι}
    (hb : ∀ b ∈ branches, (k b.1).Explains (w b.1) (d b.1) ∧ (k b.2).Explains (w b.2) (d b.2))
    (ho : ∀ x ∈ otherwise, (k x).Explains (w x) (d x)) :
    (omissionAlgebra.caseWhen (branches.map fun b => (k b.1, k b.2)) (otherwise.map k)
      type).Explains
      (sqlAlgebra.caseWhen (branches.map fun b => (w b.1, w b.2)) (otherwise.map w) type)
      (documentedAlgebra.caseWhen (branches.map fun b => (d b.1, d b.2)) (otherwise.map d)
        type) := by
  have whens := Parenthesized.flatMap branches fun b hb' =>
    (((hb b hb').1.text.front " WHEN ".toList).back " THEN ".toList).append (hb b hb').2.text
  have elses := Parenthesized.optional " ELSE " otherwise fun x hx => (ho x hx).text
  refine ⟨?_, rfl, rfl⟩
  -- Both texts have one shape, which the parts of the two are put into.
  let shape (v : ι → Fragment) : List Char :=
    "CASE".toList ++ branches.flatMap (fun b => " WHEN ".toList ++ (v b.1).text ++
      " THEN ".toList ++ (v b.2).text) ++
    Clauses.optional " ELSE " (otherwise.map fun x => (v x).text) ++ " END".toList
  have written : (sqlAlgebra.caseWhen (branches.map fun b => (w b.1, w b.2)) (otherwise.map w)
      type).text = shape w := by
    show "CASE".toList ++ (branches.map _).flatMap Fragment.branch ++ _ ++ " END".toList = _
    rw [List.flatMap_map]
    cases otherwise <;> rfl
  have documented : (documentedAlgebra.caseWhen (branches.map fun b => (d b.1, d b.2))
      (otherwise.map d) type).text = shape d := by
    simp only [documentedAlgebra, List.flatMap_map]
    cases otherwise <;> rfl
  have count : (omissionAlgebra.caseWhen (branches.map fun b => (k b.1, k b.2)) (otherwise.map k)
      type).pairs = (branches.map fun b => (k b.1).pairs + (k b.2).pairs).sum +
        (otherwise.map fun x => (k x).pairs).getD 0 := by
    simp only [omissionAlgebra, List.map_map, Option.map_map]
    rfl
  rw [written, documented, count]
  exact ((whens.front "CASE".toList).append elses).back " END".toList

end Lists

end Omission.Explains

namespace Parenthesized

variable {ε σ : Type} {k : ε → Nat} {f g : ε → List Char}

theorem joins (js : List (Join ε)) (h : ∀ j ∈ js, Parenthesized (k j.on) (f j.on) (g j.on)) :
    Parenthesized (js.map fun j => k j.on).sum
      ((js.map fun j => ⟨j.kind, j.table, f j.on⟩).flatMap Clauses.joinText)
      ((js.map fun j => ⟨j.kind, j.table, g j.on⟩).flatMap Clauses.joinText) := by
  rw [List.flatMap_map, List.flatMap_map]
  refine flatMap js fun j hj => ?_
  have := (h j hj).front (' ' :: (j.kind.keyword.toList ++ ' ' ::
    (Clauses.tableText j.table ++ " ON ".toList)))
  simpa [Clauses.joinText] using this

theorem orderBy (os : List (OrderItem ε))
    (h : ∀ o ∈ os, Parenthesized (k o.expr) (f o.expr) (g o.expr)) :
    Parenthesized (os.map fun o => k o.expr).sum
      (Clauses.optionalList " ORDER BY "
        ((os.map fun o => ⟨f o.expr, o.direction⟩).map Clauses.orderText))
      (Clauses.optionalList " ORDER BY "
        ((os.map fun o => ⟨g o.expr, o.direction⟩).map Clauses.orderText)) := by
  rw [List.map_map, List.map_map]
  exact optionalList _ os fun o ho => (h o ho).back (' ' :: o.direction.keyword.toList)

theorem assignments (as : List (Assignment ε))
    (h : ∀ a ∈ as, Parenthesized (k a.value) (f a.value) (g a.value)) :
    Parenthesized (as.map fun a => k a.value).sum
      (TypedSql.commaSeparated
        ((as.map fun a => ⟨a.column, f a.value⟩).map Clauses.assignmentText))
      (TypedSql.commaSeparated
        ((as.map fun a => ⟨a.column, g a.value⟩).map Clauses.assignmentText)) := by
  rw [List.map_map, List.map_map]
  exact commaSeparated as fun a ha => (h a ha).front (a.column.toList ++ " = ".toList)

theorem rows (rs : List (List ε)) (h : ∀ r ∈ rs, ∀ e ∈ r, Parenthesized (k e) (f e) (g e)) :
    Parenthesized (rs.map fun r => (r.map k).sum).sum
      (TypedSql.commaSeparated ((rs.map (·.map f)).map Clauses.rowText))
      (TypedSql.commaSeparated ((rs.map (·.map g)).map Clauses.rowText)) := by
  rw [List.map_map, List.map_map]
  exact commaSeparated rs fun r hr => (commaSeparated r (h r hr)).between ['('] [')']

theorem projection (es : List ε) (h : ∀ e ∈ es, Parenthesized (k e) (f e) (g e)) :
    Parenthesized (es.map k).sum
      (if (es.map f).isEmpty then ['*'] else TypedSql.commaSeparated (es.map f))
      (if (es.map g).isEmpty then ['*'] else TypedSql.commaSeparated (es.map g)) := by
  cases es with
  | nil => exact same ['*']
  | cons e es => exact commaSeparated (e :: es) h

variable {c : Clauses ε σ} {k' : σ → Nat} {f' g' : σ → List Char}

theorem rowsText (he : ∀ r ∈ c.rows, ∀ e ∈ r, Parenthesized (k e) (f e) (g e))
    (hs : ∀ s ∈ c.source, Parenthesized (k' s) (f' s) (g' s)) :
    Parenthesized ((c.map k k').omissions .insert) (c.map f f').rowsText (c.map g g').rowsText := by
  unfold Clauses.omissions Clauses.rowsText Clauses.map
  dsimp only
  cases hr : c.rows with
  | nil => exact optional " " c.source hs
  | cons r rs =>
    rw [hr] at he
    rw [List.map_map]
    exact (rows (r :: rs) he).front " VALUES ".toList

/-- In a statement of any kind: what holds of the texts of its parts holds of its text. -/
theorem clauses (kind : StatementKind)
    (he : ∀ e ∈ c.exprs, Parenthesized (k e) (f e) (g e))
    (hs : ∀ s ∈ c.source, Parenthesized (k' s) (f' s) (g' s)) :
    Parenthesized ((c.map k k').omissions kind) ((c.map f f').text kind)
      ((c.map g g').text kind) := by
  simp only [Clauses.mem_exprs] at he
  have filter := optional " WHERE " c.filter fun e h => he e (by grind)
  cases kind with
  | select =>
    have projection := projection c.projection fun e h => he e (.inl h)
    have joins := joins c.joins fun j h => he j.on (by grind)
    have groupBy := optionalList " GROUP BY " c.groupBy fun e h => he e (by grind)
    have having := optional " HAVING " c.having fun e h => he e (by grind)
    have orderBy := orderBy c.orderBy fun o h => he o.expr (by grind)
    show Parenthesized (Clauses.omissions _ _) (Clauses.selectText _) (Clauses.selectText _)
    unfold Clauses.omissions Clauses.selectText Clauses.whereText Clauses.map
    dsimp only
    rw [List.map_map, List.map_map]
    exact ((((((((projection.front _).back _).append joins).append filter).append groupBy).append
      having).append orderBy).back _).back _
  | insert =>
    have rows := rowsText (fun r hr e h => he e (by grind)) hs
    exact (rows.front _).back _
  | update =>
    have assignments := assignments c.assignments fun a h => he a.value (by grind)
    show Parenthesized (Clauses.omissions _ _) (Clauses.updateText _) (Clauses.updateText _)
    unfold Clauses.omissions Clauses.updateText Clauses.whereText Clauses.map
    dsimp only
    rw [List.map_map]
    exact ((assignments.front _).append filter).back _
  | delete =>
    show Parenthesized _ (Clauses.deleteText _) (Clauses.deleteText _)
    unfold Clauses.deleteText Clauses.whereText
    exact (filter.front _).back _

end Parenthesized

/-! ### Trees -/

theorem Omission.explains :
    (∀ e : Expr, (e.fold omissionAlgebra).Explains e.fragment (e.fold documentedAlgebra)) ∧
    ∀ s : Statement, Parenthesized s.omissions s.sqlText s.documentedText := by
  apply tree_induction
  case column =>
    intro table column aliasName type
    rw [Expr.fragment, Expr.fold_column, Expr.fold_column, Expr.fold_column]
    exact .column type table column aliasName
  case literal =>
    intro value type
    rw [Expr.fragment, Expr.fold_literal, Expr.fold_literal, Expr.fold_literal]
    exact ⟨.same _, rfl, rfl⟩
  case unary =>
    intro op operand ih
    rw [Expr.fragment, Expr.fold_unary, Expr.fold_unary, Expr.fold_unary]
    exact ih.unary op
  case binary =>
    intro op left right type ihl ihr
    rw [Expr.fragment, Expr.fold_binary, Expr.fold_binary, Expr.fold_binary]
    exact ihl.binary op type ihr
  case call =>
    intro function arguments type ih
    rw [Expr.fragment, Expr.fold_call, Expr.fold_call, Expr.fold_call]
    exact .call type function ih
  case caseWhen =>
    intro branches otherwise type ihb iho
    rw [Expr.fragment, Expr.fold_caseWhen, Expr.fold_caseWhen, Expr.fold_caseWhen]
    exact .caseWhen type ihb iho
  case subquery =>
    intro statement type ih
    rw [Expr.fragment, Expr.fold_subquery, Expr.fold_subquery, Expr.fold_subquery]
    exact .subquery type ih
  case statement =>
    intro s ihe ihs
    have texts := Parenthesized.clauses s.kind (fun e he => (ihe e he).text) ihs
    rw [Statement.omissions, Statement.sqlText, Statement.documentedText, Statement.fold_eq,
      Statement.fold_eq, Statement.fold_eq]
    show Parenthesized
      (((s.clauses.map (Expr.fold omissionAlgebra) Statement.omissions).map Omission.pairs
        id).omissions s.kind)
      (((s.clauses.map Expr.fragment Statement.sqlText).map Fragment.text id).text s.kind)
      (((s.clauses.map (Expr.fold documentedAlgebra) Statement.documentedText).map Fragment.text
        id).text s.kind)
    rw [Clauses.map_map, Clauses.map_map, Clauses.map_map]
    exact texts

/-- The SQL of an expression, and that of a statement, is what the rendering table says but for the
parentheses around the operands of operators behind them: one pair is missing for each such
operator that stands directly behind another one, and nothing else. So it is what the table says if
and only if there is no such operator. -/
theorem sqlText_eq_documentedText_iff (e : Expr) (s : Statement) :
    (Parenthesized e.omissions e.sqlText e.documentedText ∧
      (e.sqlText = e.documentedText ↔ e.omissions = 0)) ∧
    Parenthesized s.omissions s.sqlText s.documentedText ∧
      (s.sqlText = s.documentedText ↔ s.omissions = 0) := by
  have ofExpr := (Omission.explains.1 e).text
  have ofStatement := Omission.explains.2 s
  exact ⟨⟨ofExpr, ofExpr.eq_iff⟩, ofStatement, ofStatement.eq_iff⟩

/-- Of two tests for `NULL` behind a column the inner one has no parentheses, though the rendering
table gives it a pair. Between two operands it has them. -/
theorem sqlText_ne_documentedText_isNull :
    let column := Expr.column "users" "age" none .int
    let twice := Expr.unary .isNull (.unary .isNull column)
    let both := Expr.binary .or column (.unary .isNull column) .bool
    twice.toSql = "users.age IS NULL IS NULL" ∧
      String.ofList twice.documentedText = "(users.age IS NULL) IS NULL" ∧
      twice.sqlText ≠ twice.documentedText ∧ twice.omissions = 1 ∧
      both.toSql = "(users.age OR (users.age IS NULL))" ∧
      both.sqlText = both.documentedText ∧ both.omissions = 0 := by
  decide +kernel

end TypedSql
