import TypedSql.Proofs.Regular
import TypedSql.Proofs.Tokens

/-!
Expressions are read back as their shape by readers that are built on the readers of their parts, as
soon as these read what the parts write.
-/

namespace TypedSql

open Text Reader

/-! ### Operators behind their operand -/

/-- The text of operators behind an operand. -/
def suffixText (ops : List Operator) : List Char :=
  ops.flatMap fun op => ' ' :: op.symbol.toList

theorem Expr.sqlText_eq_stem (e : Expr) : e.sqlText = e.stem.sqlText ++ suffixText e.suffixes := by
  induction e using Expr.stem_induction with
  | unary op operand ih =>
    rw [sqlText_unary, stem, suffixes, suffixText, List.flatMap_append, ih, suffixText]
    simp
  | other e hu =>
    rw [stem_eq_self hu, suffixes_eq_nil_iff.mpr hu, suffixText, List.flatMap_nil, List.append_nil]

theorem Expr.Regular.suffixes {e : Expr} (h : e.Regular) :
    ∀ op ∈ e.suffixes, op.isUnary = true := by
  induction e using Expr.stem_induction with
  | unary op operand ih =>
    cases h with
    | unary ho h =>
      intro op' hm
      rcases List.mem_append.mp hm with hm | hm
      · exact ih h op' hm
      · exact List.mem_singleton.mp hm ▸ ho
  | other e hu =>
    rw [Expr.suffixes_eq_nil_iff.mpr hu]
    exact nofun

theorem Reads.suffixes {n : Nat} {ops : List Operator} (ho : ∀ op ∈ ops, op.isUnary = true)
    (hn : ops.length ≤ n) : Reads (Reader.many n Reader.suffix) (suffixText ops) ops AfterExpr := by
  have each : ∀ op ∈ ops,
      Reads Reader.suffix (' ' :: op.symbol.toList) (some (id op)) fun _ => True :=
    fun op h => Reads.suffix (ho op h)
  have := many hn each no_suffix (fun _ _ => trivial) fun _ _ _ => trivial
  rwa [List.map_id] at this

theorem AfterExpr.suffixes {ops : List Operator} {rest : List Char}
    (ho : ∀ op ∈ ops, op.isUnary = true) (h : AfterExpr rest) :
    AfterOperand (suffixText ops ++ rest) := by
  cases ops with
  | nil => exact h.toAfterOperand
  | cons op ops =>
    have hs : Starts [" IS NULL", " IS NOT NULL"] (suffixText (op :: ops) ++ rest) := by
      have hu := ho op List.mem_cons_self
      rw [suffixText, List.flatMap_cons, List.append_assoc]
      cases op with
      | isNull => exact .inr ⟨" IS NULL", by decide, List.prefix_append _ _⟩
      | isNotNull => exact .inr ⟨" IS NOT NULL", by decide, List.prefix_append _ _⟩
      | _ => cases hu
    exact ⟨hs.head (by decide), hs.excludes (by decide)⟩

theorem afterExpr_closing (rest : List Char) : AfterExpr (")".toList ++ rest) := by
  have h : Starts [")"] (")".toList ++ rest) := Starts.of_append (by decide) rest
  exact h.afterExpr (by decide)

theorem afterExpr_symbol {op : Operator} (ho : op.isUnary = false) (rest : List Char) :
    AfterExpr (' ' :: (op.symbol.toList ++ [' ']) ++ rest) := by
  have h : Starts [" " ++ op.symbol ++ " "] (' ' :: (op.symbol.toList ++ [' ']) ++ rest) := by
    refine .inr ⟨_, List.mem_singleton_self _, ?_⟩
    simp
  refine h.afterExpr ?_
  cases op with
  | isNull => cases ho
  | isNotNull => cases ho
  | _ => decide

/-! ### Expressions -/

section Expressions

variable {parts : Readers} {n : Nat} {e : Expr} {F : List Char → Prop}

/-- The reader of operands reads the expression without the operators behind it. -/
def Expr.StemRead (parts : Readers) (e : Expr) : Prop :=
  Reads parts.operand e.stem.sqlText e.stem.erase AfterOperand

/-- The reader of operands reads the expression as an operand. -/
def Expr.OperandRead (parts : Readers) (e : Expr) : Prop :=
  Reads parts.operand e.operandText e.erase AfterOperand

def Expr.IsRead (parts : Readers) (n : Nat) (e : Expr) : Prop :=
  Reads (parts.expr n) e.sqlText e.erase AfterExpr

theorem Expr.StemRead.isRead (h : e.StemRead parts) (hr : e.Regular) (hn : e.suffixes.length ≤ n) :
    e.IsRead parts n := by
  rw [IsRead, sqlText_eq_stem, erase_eq_foldl]
  have suffixes := Reads.suffixes hr.suffixes hn
  exact h.bind suffixes.map fun _ ha => ha.suffixes hr.suffixes

theorem Reads.parenthesized_unary (h : e.StemRead parts) (hr : e.Regular)
    (hn : e.suffixes.length ≤ n) (hu : e.isUnary = true) :
    Reads (parts.parenthesized n) (e.sqlText ++ [')']) e.erase F := by
  have suffixes := Reads.suffixes hr.suffixes hn
  have nonempty : e.suffixes.isEmpty = false := by
    rw [List.isEmpty_eq_false_iff]
    intro h
    rw [Expr.suffixes_eq_nil_iff, hu] at h
    cases h
  rw [Expr.sqlText_eq_stem, Expr.erase_eq_foldl, List.append_assoc]
  refine h.bind (suffixes.bind ?_ fun rest _ => afterExpr_closing rest) fun rest _ => ?_
  · rw [nonempty]
    exact (expect ")").map
  · rw [List.append_assoc]
    exact (afterExpr_closing rest).suffixes hr.suffixes

theorem Reads.parenthesized_binary {op : Operator} {l r : Expr} (ho : op.isUnary = false)
    (hl : l.OperandRead parts) (hr : r.OperandRead parts) :
    Reads (parts.parenthesized n)
      (l.operandText ++ ' ' :: (op.symbol.toList ++ ' ' :: (r.operandText ++ [')'])))
      (.binary op l.erase r.erase) F := by
  have none : Reads (Reader.many n Reader.suffix) (suffixText []) [] AfterExpr :=
    Reads.suffixes nofun (Nat.zero_le n)
  have text : l.operandText ++ ' ' :: (op.symbol.toList ++ ' ' :: (r.operandText ++ [')'])) =
      l.operandText ++
        ([] ++ (' ' :: (op.symbol.toList ++ [' ']) ++ (r.operandText ++ [')']))) := by
    simp
  rw [text]
  refine hl.bind (none.bind ?_ fun rest _ => ?_) fun rest _ => ?_
  · refine (binaryOp (F := fun _ => True) ho).bind ?_ fun _ _ => trivial
    exact hr.bind (expect ")").map fun rest _ => (afterExpr_closing rest).toAfterOperand
  · rw [List.append_assoc]
    exact afterExpr_symbol ho _
  · rw [List.nil_append, List.append_assoc]
    exact (afterExpr_symbol ho _).toAfterOperand

/-! Operands by their first character -/

theorem Reads.nextOperand_parenthesized {text : List Char} {x : Shape}
    (h : Reads (parts.parenthesized n) text x F)
    (hs : ∀ rest, ¬ "SELECT ".toList <+: text ++ rest) :
    Reads (parts.nextOperand n) ('(' :: text) x F := by
  refine ahead_bind false (fun rest _ => ?_) ?_
  · rw [Bool.eq_false_iff]
    intro hp
    exact hs rest (List.cons_prefix_cons.mp (List.isPrefixOf_iff_prefix.mp hp)).2
  · exact (accept (F := fun _ => True) "(").bind h fun _ _ => trivial

theorem Reads.nextOperand_subquery {s : Statement} {words : List String} (hw : ")" ∈ words)
    (hs : "SELECT ".toList <+: s.sqlText)
    (h : Reads parts.statement s.sqlText s.erase (Starts words)) :
    Reads (parts.nextOperand n) ('(' :: (s.sqlText ++ [')'])) (.subquery s.erase) F := by
  refine ahead_bind true (fun rest _ => ?_) ?_
  · rw [List.isPrefixOf_iff_prefix]
    refine List.cons_prefix_cons.mpr ⟨rfl, ?_⟩
    exact (hs.trans (List.prefix_append _ _)).trans (List.prefix_append _ _)
  · refine (expect (F := fun _ => True) "(").bind ?_ fun _ _ => trivial
    exact h.bind (expect ")").map fun rest _ => Starts.of_append hw rest

theorem Reads.nextOperand_quoted (p : List Char) :
    Reads (parts.nextOperand n) (quote p) (.literal (quote p)) AfterOperand := by
  refine ahead_bind false (fun rest _ => rfl) ?_
  refine refuse_bind (fun rest _ => excludes_of_head rfl ?_) ?_
  · rintro _ ⟨rfl⟩
    decide
  refine (accept (F := fun _ => True) "'").bind ?_ fun _ _ => trivial
  exact ((payload p).weaken fun _ h => h.head.head_ne rfl).map

theorem Reads.nextOperand_word {w text : List Char} {x : Shape} (hw : IsWord w)
    (h : Reads (parts.behindWord n w) text x F) (hd : ∀ rest, F rest → Delimited (text ++ rest)) :
    Reads (parts.nextOperand n) (w ++ text) x F := by
  obtain ⟨c, cs, rfl, hc⟩ := hw.head
  have head : ∀ rest, ∀ d ∈ (c :: cs ++ text ++ rest).head?, isWordChar d = true := by
    rintro rest _ ⟨rfl⟩
    exact hc
  refine ahead_bind false (fun rest _ => ?_) ?_
  · rw [Bool.eq_false_iff]
    intro hp
    refine excludes_of_head rfl (fun d hd => ?_) (List.isPrefixOf_iff_prefix.mp hp)
    rintro rfl
    cases head rest _ hd
  refine refuse_bind (fun rest _ => excludes_of_head rfl fun d hd => ?_) ?_
  · rintro rfl
    cases head rest _ hd
  refine refuse_bind (fun rest _ => excludes_of_head rfl fun d hd => ?_) ?_
  · rintro rfl
    cases head rest _ hd
  exact (word hw.chars).bind h hd

/-! Operands that start with a word -/

theorem Reads.behindWord_literal {w : List Char} (hw : IsBare w) :
    Reads (parts.behindWord n w) [] (.literal w) AfterOperand := by
  refine refuse_bind (fun rest hr => excludes_of_head rfl (hr.head.head_ne rfl)) ?_
  show Reads (if w = "CASE".toList then _ else _) _ _ _
  rw [if_neg hw.no_keyword.1, hw.no_column]
  exact pure

theorem Reads.behindWord_column {table column : String} {aliasName : Option String}
    (ht : IsName table.toList) (ha : ∀ a ∈ aliasName, IsName a.toList) :
    Reads (parts.behindWord n (table.toList ++ '.' :: column.toList))
      (Clauses.optional " AS " (aliasName.map String.toList)) (.column table column aliasName)
      AfterOperand := by
  have before : ∀ c ∈ table.toList, (c ≠ '.') := fun c h => by
    rintro rfl
    exact ht.no_point h
  have take : (table.toList ++ '.' :: column.toList).takeWhile (· ≠ '.') = table.toList := by
    rw [List.takeWhile_append_of_pos (by simpa using before)]
    simp
  have drop : (table.toList ++ '.' :: column.toList).dropWhile (· ≠ '.') =
      '.' :: column.toList := by
    rw [List.dropWhile_append_of_pos (by simpa using before)]
    simp
  have head : (table.toList ++ '.' :: column.toList).head?.any isNameHead = true := by
    obtain ⟨c, cs, h, -⟩ := ht.isWord.head
    have := ht.head
    rwa [h] at this ⊢
  have keyword : table.toList ++ '.' :: column.toList ≠ "CASE".toList := by
    intro h
    rw [h] at head
    cases head
  have isColumn : ((table.toList ++ '.' :: column.toList).head?.any isNameHead &&
      (table.toList ++ '.' :: column.toList).contains '.') = true := by
    rw [head]
    simp
  have aliasRead : Reads (Reader.clause " AS " Reader.name)
      (Clauses.optional " AS " (aliasName.map String.toList)) (aliasName.map id) AfterOperand :=
    clause (fun a h => (name (ha a h)).weaken fun _ hr => hr.head.delimited) fun _ hr => hr.no_alias
  refine refuse_bind (fun rest hr => excludes_of_head rfl fun d hd => ?_) ?_
  · cases aliasName with
    | none => exact hr.head.head_ne rfl d hd
    | some a =>
      obtain rfl := Option.some.inj hd
      decide
  show Reads (if table.toList ++ '.' :: column.toList = "CASE".toList then _ else _) _ _ _
  rw [if_neg keyword, if_pos isColumn, take, drop]
  rw [String.ofList_toList, List.drop_one, List.tail_cons, String.ofList_toList]
  rw [Option.map_id] at aliasRead
  exact aliasRead.map

theorem Expr.IsRead.starts {words : List String} (h : e.IsRead parts n)
    (hc : closing words = true) :
    Reads (parts.expr n) e.sqlText e.erase (Starts words) :=
  Reads.weaken h fun _ hs => hs.afterExpr hc

theorem Reads.behindWord_call {function : String} {arguments : List Expr}
    (hn : arguments.length ≤ n) (h : ∀ e ∈ arguments, e.IsRead parts n)
    (ho : ∀ e ∈ arguments, ∀ rest, ¬ ")".toList <+: e.sqlText ++ rest) :
    Reads (parts.behindWord n function.toList)
      ('(' :: (commaSeparated (arguments.map Expr.sqlText) ++ [')']))
      (.call function (arguments.map Expr.erase)) F := by
  have args : Reads (parts.arguments n)
      (commaSeparated (arguments.map Expr.sqlText) ++ [')']) (arguments.map Expr.erase) F := by
    cases arguments with
    | nil => exact (accept (F := fun _ => True) ")").bind pure fun _ _ => trivial
    | cons e es =>
      refine refuse_bind (fun rest _ => ?_) ?_
      · rw [List.map_cons, commaSeparated_cons, List.append_assoc, List.append_assoc]
        exact ho e List.mem_cons_self _
      · have list : Reads (Reader.commas n (parts.expr n))
            (commaSeparated ((e :: es).map Expr.sqlText)) ((e :: es).map Expr.erase)
            (Starts [")"]) :=
          commas (List.cons_ne_nil e es) hn (by decide) fun e he => (h e he).starts (by decide)
        exact list.bind (expect ")").map fun rest _ => Starts.of_append List.mem_cons_self rest
  refine (accept (F := fun _ => True) "(").bind ?_ fun _ _ => trivial
  have := args.map (f := Shape.call (String.ofList function.toList))
  rwa [String.ofList_toList] at this ⊢

/-- What stands behind the first word of a `CASE` expression. -/
theorem starts_caseWhen (branches : List (Expr × Expr)) (otherwise : Option Expr)
    (rest : List Char) : Starts [" WHEN ", " ELSE ", " END"]
      (branches.flatMap (fun b => " WHEN ".toList ++ b.1.sqlText ++ " THEN ".toList ++
        b.2.sqlText) ++ (Clauses.optional " ELSE " (otherwise.map Expr.sqlText) ++
        (" END".toList ++ rest))) := by
  have ending : Starts [" END"] (" END".toList ++ rest) := Starts.of_append List.mem_cons_self rest
  cases branches with
  | nil => exact (ending.optional " ELSE " _).mono (List.subset_cons_self " WHEN " _)
  | cons b branches =>
    simp only [List.flatMap_cons, List.append_assoc]
    exact Starts.of_append List.mem_cons_self _

theorem Reads.behindWord_caseWhen {branches : List (Expr × Expr)} {otherwise : Option Expr}
    (hn : branches.length ≤ n) (hc : ∀ b ∈ branches, b.1.IsRead parts n)
    (hr : ∀ b ∈ branches, b.2.IsRead parts n) (ho : ∀ e ∈ otherwise, e.IsRead parts n) :
    Reads (parts.behindWord n "CASE".toList)
      (branches.flatMap (fun b => " WHEN ".toList ++ b.1.sqlText ++ " THEN ".toList ++
        b.2.sqlText) ++ Clauses.optional " ELSE " (otherwise.map Expr.sqlText) ++ " END".toList)
      (.caseWhen (branches.map fun b => (b.1.erase, b.2.erase)) (otherwise.map Expr.erase)) F := by
  have branch : ∀ b ∈ branches, Reads (Reader.clause " WHEN " (parts.branch n))
      (" WHEN ".toList ++ b.1.sqlText ++ " THEN ".toList ++ b.2.sqlText)
      (some (b.1.erase, b.2.erase)) (Starts [" WHEN ", " ELSE ", " END"]) := fun b hb => by
    have condition : Reads (parts.expr n) b.1.sqlText b.1.erase (Starts [" THEN "]) :=
      (hc b hb).starts (by decide)
    have result : Reads (parts.expr n) b.2.sqlText b.2.erase
        (Starts [" WHEN ", " ELSE ", " END"]) := (hr b hb).starts (by decide)
    have pair : Reads (parts.branch n) (b.1.sqlText ++ (" THEN ".toList ++ b.2.sqlText))
        (b.1.erase, b.2.erase) (Starts [" WHEN ", " ELSE ", " END"]) := by
      refine condition.bind ((expect (F := fun _ => True) " THEN ").bind result.map
        fun _ _ => trivial) fun rest _ => ?_
      rw [List.append_assoc]
      exact Starts.of_append List.mem_cons_self _
    rw [List.append_assoc, List.append_assoc]
    exact clause_some pair
  have branchList : Reads (Reader.many n (Reader.clause " WHEN " (parts.branch n)))
      (branches.flatMap fun b => " WHEN ".toList ++ b.1.sqlText ++ " THEN ".toList ++ b.2.sqlText)
      (branches.map fun b => (b.1.erase, b.2.erase)) (Starts [" ELSE ", " END"]) := by
    refine many hn branch (clause_none fun _ h => h.excludes (by decide))
      (fun _ h => h.mono (List.subset_cons_self _ _)) fun b _ rest => ?_
    simp only [List.append_assoc]
    exact Starts.of_append List.mem_cons_self _
  have last : Reads (Reader.clause " ELSE " (parts.expr n))
      (Clauses.optional " ELSE " (otherwise.map Expr.sqlText)) (otherwise.map Expr.erase)
      (Starts [" END"]) :=
    clause (fun e he => (ho e he).starts (by decide)) fun _ h => h.excludes (by decide)
  have ending : ∀ rest, Starts [" END"] (" END".toList ++ rest) := fun rest =>
    Starts.of_append List.mem_cons_self rest
  have whole : Reads (parts.caseWhen n)
      (branches.flatMap (fun b => " WHEN ".toList ++ b.1.sqlText ++ " THEN ".toList ++
        b.2.sqlText) ++ (Clauses.optional " ELSE " (otherwise.map Expr.sqlText) ++ " END".toList))
      (.caseWhen (branches.map fun b => (b.1.erase, b.2.erase)) (otherwise.map Expr.erase)) F := by
    refine branchList.bind (last.bind (expect " END").map fun rest _ => ending rest)
      fun rest _ => ?_
    rw [List.append_assoc]
    exact (ending rest).optional _ _
  rw [List.append_assoc]
  refine refuse_bind (fun rest _ => ?_) ?_
  · have start := starts_caseWhen branches otherwise rest
    simp only [List.append_assoc] at start ⊢
    exact start.excludes (by decide)
  · exact whole

end Expressions

end TypedSql
