import TypedSql.Tree.Sql

/-!
The text of a tree in terms of the texts of its parts, one equation for each variety of expression
and one for statements.
-/

namespace TypedSql

theorem commaSeparated_cons (text : List Char) (texts : List (List Char)) :
    commaSeparated (text :: texts) = text ++ texts.flatMap (", ".toList ++ ·) := by
  induction texts generalizing text with
  | nil => simp [commaSeparated]
  | cons next texts ih =>
    have := ih next
    rw [commaSeparated] at this ⊢
    rw [List.intercalate_cons_cons, this, List.flatMap_cons, List.append_assoc]
    simp only [List.append_assoc]

namespace Expr

variable (type : SqlType)

/-- The text of an expression as an operand of an operator between operands. -/
def operandText (e : Expr) : List Char :=
  if e.isUnary then '(' :: (e.sqlText ++ [')']) else e.sqlText

theorem fragment_asOperand (e : Expr) : e.fragment.asOperand = e.operandText := by
  rw [Fragment.asOperand, fragment_endsWithOperator]
  rfl

theorem sqlText_column (table column : String) (aliasName : Option String) :
    (Expr.column table column aliasName type).sqlText =
      table.toList ++ '.' :: (column.toList ++
        Clauses.optional " AS " (aliasName.map String.toList)) := by
  rw [sqlText, fragment, fold_column]
  cases aliasName <;> rfl

theorem sqlText_literal (value : Value) :
    (Expr.literal value type).sqlText = value.literalText := by
  rw [sqlText, fragment, fold_literal]
  rfl

theorem sqlText_unary (op : Operator) (operand : Expr) :
    (Expr.unary op operand).sqlText = operand.sqlText ++ ' ' :: op.symbol.toList := by
  rw [sqlText, fragment, fold_unary]
  rfl

theorem sqlText_binary (op : Operator) (left right : Expr) :
    (Expr.binary op left right type).sqlText =
      '(' :: (left.operandText ++ ' ' :: (op.symbol.toList ++
        ' ' :: (right.operandText ++ [')']))) := by
  rw [← fragment_asOperand, ← fragment_asOperand, sqlText, fragment, fold_binary]
  rfl

theorem sqlText_call (function : String) (arguments : List Expr) :
    (Expr.call function arguments type).sqlText =
      function.toList ++ '(' :: (commaSeparated (arguments.map sqlText) ++ [')']) := by
  have h : arguments.map sqlText = (arguments.map fragment).map Fragment.text := by
    rw [List.map_map]
    rfl
  rw [h, sqlText, fragment, fold_call]
  rfl

theorem sqlText_caseWhen (branches : List (Expr × Expr)) (otherwise : Option Expr) :
    (Expr.caseWhen branches otherwise type).sqlText =
      "CASE".toList ++
        branches.flatMap (fun b => " WHEN ".toList ++ b.1.sqlText ++
          " THEN ".toList ++ b.2.sqlText) ++
        Clauses.optional " ELSE " (otherwise.map sqlText) ++ " END".toList := by
  rw [sqlText, fragment, fold_caseWhen]
  show "CASE".toList ++ (branches.map _).flatMap _ ++ _ ++ " END".toList = _
  rw [List.flatMap_map]
  cases otherwise <;> rfl

theorem sqlText_subquery (statement : Statement) :
    (Expr.subquery statement type).sqlText = '(' :: (statement.sqlText ++ [')']) := by
  rw [sqlText, fragment, fold_subquery]
  rfl

end Expr

theorem Clauses.map_map {α β γ α' β' γ' : Type} (c : Clauses α α') (f : α → β) (g : α' → β')
    (f' : β → γ) (g' : β' → γ') : (c.map f g).map f' g' = c.map (f' ∘ f) (g' ∘ g) := by
  simp [Clauses.map, Function.comp_def]

/-- The rows of an insert that come from one place. -/
theorem Clauses.rowsText_eq {c : Clauses (List Char) (List Char)}
    (hr : c.rows = [] ∨ c.source = none) : c.rowsText =
      optionalList " VALUES " (c.rows.map rowText) ++ optional " " c.source := by
  rw [rowsText]
  rcases hr with hr | hr
  · rw [hr]
    rfl
  · rw [hr]
    cases c.rows with
    | nil => rfl
    | cons r rs => exact (List.append_nil _).symm

/-- The clauses with the texts of their parts. -/
def Clauses.texts (c : Clauses Expr Statement) : Clauses (List Char) (List Char) :=
  c.map Expr.sqlText Statement.sqlText

theorem Statement.sqlText_eq (s : Statement) : s.sqlText = s.clauses.texts.text s.kind := by
  rw [sqlText, fold_eq]
  show ((s.clauses.map Expr.fragment Statement.sqlText).map Fragment.text id).text s.kind = _
  rw [Clauses.map_map]
  rfl

end TypedSql
