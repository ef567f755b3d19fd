import Mathlib.Order.Filter.AtTopBot.Basic
import TypedSql.Proofs.Named
import TypedSql.Proofs.StatementReading

/-!
Rendering can be undone: the readers give back the shape of every tree that can be built from its
SQL, once they go deep enough. So two trees with the same SQL have the same shape.
-/

namespace TypedSql

open Text Reader Filter

theorem eventually_of_succ {P : Nat → Prop} (h : ∀ᶠ n in atTop, P (n + 1)) :
    ∀ᶠ n in atTop, P n := by
  obtain ⟨k, hk⟩ := eventually_atTop.mp h
  refine eventually_atTop.mpr ⟨k + 1, fun n hn => ?_⟩
  cases n with
  | zero => cases hn
  | succ n => exact hk n (Nat.le_of_succ_le_succ hn)

theorem eventually_forall_mem {ι : Type} {items : List ι} {P : Nat → ι → Prop}
    (h : ∀ i ∈ items, ∀ᶠ n in atTop, P n i) : ∀ᶠ n in atTop, ∀ i ∈ items, P n i := by
  induction items with
  | nil => exact Eventually.of_forall fun _ => nofun
  | cons i items ih =>
    filter_upwards [h i List.mem_cons_self, ih fun j hj => h j (List.mem_cons_of_mem i hj)]
      with n hi hs
    exact List.forall_mem_cons.mpr ⟨hi, hs⟩

/-! ### How the text of an expression starts -/

/-- Whatever follows, the text does not start like a query, a closing parenthesis or the list of
all columns. -/
def Opening (text : List Char) : Prop :=
  ∀ word ∈ ["SELECT ", ")", "*"], ∀ rest, ¬ word.toList <+: text ++ rest

theorem Opening.append {a : List Char} (h : Opening a) (b : List Char) : Opening (a ++ b) := by
  intro word hw rest
  rw [List.append_assoc]
  exact h word hw _

theorem opening_of_head {c : Char} {cs : List Char} (hs : c ≠ 'S') (hp : c ≠ ')') (ha : c ≠ '*') :
    Opening (c :: cs) := by
  intro word hw rest
  simp only [List.mem_cons, List.not_mem_nil, or_false] at hw
  have head : ∀ d ∈ (c :: cs ++ rest).head?, d = c := fun d hd => (Option.some.inj hd).symm
  rcases hw with rfl | rfl | rfl
  · exact excludes_of_head rfl fun d hd => head d hd ▸ hs
  · exact excludes_of_head rfl fun d hd => head d hd ▸ hp
  · exact excludes_of_head rfl fun d hd => head d hd ▸ ha

/-- The name of a function is no keyword when a parenthesis stands right behind it. -/
theorem opening_call {w cs : List Char} (hw : IsWord w) : Opening (w ++ '(' :: cs) := by
  obtain ⟨c, cs', rfl, hc⟩ := hw.head
  intro word hm rest
  have head : ∀ d ∈ (c :: cs' ++ '(' :: cs ++ rest).head?, isWordChar d = true := by
    rintro _ ⟨rfl⟩
    exact hc
  simp only [List.mem_cons, List.not_mem_nil, or_false] at hm
  rcases hm with rfl | rfl | rfl
  · rintro ⟨tail, h⟩
    have keyword := Reads.word (w := "SELECT".toList) (List.all_eq_true.mp (by decide))
      (' ' :: tail) (by rintro _ ⟨rfl⟩; rfl)
    have function := Reads.word hw.chars ('(' :: (cs ++ rest)) (by rintro _ ⟨rfl⟩; rfl)
    rw [List.append_assoc, List.cons_append] at h
    have same := keyword.symm.trans ((congrArg word h).trans function)
    cases (Prod.mk.inj (Option.some.inj same)).2
  · refine excludes_of_head rfl fun d hd => ?_
    rintro rfl
    cases head _ hd
  · refine excludes_of_head rfl fun d hd => ?_
    rintro rfl
    cases head _ hd

theorem opening_of_isName {w : List Char} (hw : IsName w) (text : List Char) :
    Opening (w ++ text) := by
  refine Opening.append ?_ text
  have head := hw.head
  cases w with
  | nil => cases head
  | cons c cs =>
    refine opening_of_head ?_ ?_ ?_ <;> rintro rfl <;> cases head

theorem Value.opening_literalText (v : Value) : Opening v.literalText := by
  rw [literalText]
  cases h : v.form with
  | quoted p => exact opening_of_head (by decide) (by decide) (by decide)
  | bare w =>
    have hb := isBare h
    obtain ⟨c, cs, rfl, hc⟩ := hb.head
    refine opening_of_head ?_ ?_ ?_
    · rintro rfl
      exact hb.no_keyword.2 rfl
    · rintro rfl
      cases hc
    · rintro rfl
      cases hc

theorem isName_of_column {table column : String} {aliasName : Option String} {type : SqlType}
    (h : Identifiers (Expr.column table column aliasName type).names) :
    IsName table.toList ∧ IsName column.toList ∧ ∀ a ∈ aliasName, IsName a.toList := by
  rw [Expr.names_column] at h
  refine ⟨isName_of_isIdentifier (h ⟨.table, table⟩ List.mem_cons_self) nofun,
    isName_of_isIdentifier (h ⟨.column, column⟩ (by simp)) nofun, fun a ha => ?_⟩
  have hm : ⟨.columnAlias, a⟩ ∈ Mention.optional .columnAlias aliasName :=
    List.mem_map.mpr ⟨a, Option.mem_toList.mpr ha, rfl⟩
  exact isName_of_isIdentifier (h ⟨.columnAlias, a⟩ (by simp [hm])) nofun

theorem Expr.opening (e : Expr) (hn : Identifiers e.names) : Opening e.sqlText := by
  induction e using stem_induction with
  | unary op operand ih =>
    rw [names_unary] at hn
    rw [sqlText_unary]
    exact (ih hn).append _
  | other e hu =>
    cases e with
    | column table column aliasName type =>
      rw [sqlText_column]
      exact opening_of_isName (isName_of_column hn).1 _
    | literal value type =>
      rw [sqlText_literal]
      exact value.opening_literalText
    | unary op operand => cases hu
    | binary op left right type =>
      rw [sqlText_binary]
      exact opening_of_head (by decide) (by decide) (by decide)
    | call function arguments type =>
      rw [names_call] at hn
      rw [sqlText_call]
      exact opening_call (isWord_of_function (hn _ List.mem_cons_self))
    | caseWhen branches otherwise type =>
      rw [sqlText_caseWhen, List.append_assoc, List.append_assoc]
      exact opening_of_head (by decide) (by decide) (by decide)
    | subquery statement type =>
      rw [sqlText_subquery]
      exact opening_of_head (by decide) (by decide) (by decide)

/-! ### Trees -/

/-- A regular expression whose names are all identifiers. -/
abbrev Expr.WellNamed (e : Expr) : Prop :=
  e.Named fun m => m.isIdentifier = true

abbrev Statement.WellNamed (s : Statement) : Prop :=
  s.Named fun m => m.isIdentifier = true

namespace Expr

variable {e : Expr}

theorem eventually_isRead (hw : e.WellNamed) (h : ∀ᶠ n in atTop, e.StemRead (readers n)) :
    ∀ᶠ n in atTop, e.IsRead (readers n) n := by
  filter_upwards [h, eventually_ge_atTop e.suffixes.length] with n h hn
  exact h.isRead hw.regular hn

theorem eventually_operandRead (hw : e.WellNamed) (h : ∀ᶠ n in atTop, e.StemRead (readers n)) :
    ∀ᶠ n in atTop, e.OperandRead (readers n) := by
  cases hu : e.isUnary with
  | false =>
    filter_upwards [h] with n h
    rw [StemRead, stem_eq_self hu] at h
    rw [OperandRead, operandText, hu]
    exact h
  | true =>
    -- In parentheses the operand is read one level deeper than where its stem stands.
    refine eventually_of_succ ?_
    filter_upwards [h, eventually_ge_atTop e.suffixes.length] with n h hs
    rw [OperandRead, operandText, hu, if_pos rfl]
    exact Reads.nextOperand_parenthesized (Reads.parenthesized_unary h hw.regular hs hu)
      (((e.opening hw.names).append _) _ List.mem_cons_self)

/-- An expression that no operator follows is read once its parts are. -/
theorem eventually_stemRead (hu : e.isUnary = false)
    (h : ∀ᶠ n in atTop, Reads ((readers n).nextOperand n) e.sqlText e.erase AfterOperand) :
    ∀ᶠ n in atTop, e.StemRead (readers n) := by
  refine eventually_of_succ ?_
  filter_upwards [h] with n h
  rw [StemRead, stem_eq_self hu]
  exact h

theorem eventually_binary {op : Operator} {l r : Expr} {type : SqlType} (ho : op.isUnary = false)
    (hw : l.WellNamed) (hl : ∀ᶠ n in atTop, l.OperandRead (readers n))
    (hr : ∀ᶠ n in atTop, r.OperandRead (readers n)) :
    ∀ᶠ n in atTop, (Expr.binary op l r type).StemRead (readers n) := by
  refine eventually_stemRead rfl ?_
  filter_upwards [hl, hr] with n hl hr
  rw [sqlText_binary, erase_binary]
  refine Reads.nextOperand_parenthesized (Reads.parenthesized_binary ho hl hr) fun rest => ?_
  -- A parenthesis opens a query only if the left operand starts like one.
  have operand : Opening l.operandText := by
    rw [operandText]
    split
    · exact opening_of_head (by decide) (by decide) (by decide)
    · exact l.opening hw.names
  exact operand.append _ _ List.mem_cons_self rest

theorem eventually_call {function : String} {arguments : List Expr} {type : SqlType}
    (hf : (Mention.mk .function function).isIdentifier = true)
    (hw : ∀ e ∈ arguments, e.WellNamed)
    (h : ∀ e ∈ arguments, ∀ᶠ n in atTop, e.IsRead (readers n) n) :
    ∀ᶠ n in atTop, (Expr.call function arguments type).StemRead (readers n) := by
  refine eventually_stemRead rfl ?_
  filter_upwards [eventually_forall_mem h, eventually_ge_atTop arguments.length] with n h hlen
  rw [sqlText_call, erase_call]
  refine Reads.nextOperand_word (isWord_of_function hf)
    (Reads.behindWord_call hlen h fun e he => (e.opening (hw e he).names) _ (by decide)) ?_
  rintro rest _ _ ⟨rfl⟩
  rfl

theorem eventually_caseWhen {branches : List (Expr × Expr)} {otherwise : Option Expr}
    {type : SqlType} (hc : ∀ b ∈ branches, ∀ᶠ n in atTop, b.1.IsRead (readers n) n)
    (hr : ∀ b ∈ branches, ∀ᶠ n in atTop, b.2.IsRead (readers n) n)
    (ho : ∀ e ∈ otherwise, ∀ᶠ n in atTop, e.IsRead (readers n) n) :
    ∀ᶠ n in atTop, (Expr.caseWhen branches otherwise type).StemRead (readers n) := by
  have last : ∀ᶠ n in atTop, ∀ e ∈ otherwise.toList, e.IsRead (readers n) n :=
    eventually_forall_mem fun e he => ho e (Option.mem_toList.mp he)
  refine eventually_stemRead rfl ?_
  filter_upwards [eventually_forall_mem hc, eventually_forall_mem hr, last,
    eventually_ge_atTop branches.length] with n hc hr ho hlen
  rw [sqlText_caseWhen, erase_caseWhen, List.append_assoc, List.append_assoc]
  have keyword : IsWord "CASE".toList :=
    ⟨by decide, List.all_eq_true.mp (by decide)⟩
  have behind := Reads.behindWord_caseWhen (F := AfterOperand) hlen hc hr fun e he =>
    ho e (Option.mem_toList.mpr he)
  rw [List.append_assoc] at behind
  refine Reads.nextOperand_word keyword behind fun rest _ => ?_
  have start := starts_caseWhen branches otherwise rest
  simp only [List.append_assoc] at start ⊢
  exact start.delimited (by decide)

theorem eventually_column {table column : String} {aliasName : Option String} {type : SqlType}
    (hn : Identifiers (Expr.column table column aliasName type).names) :
    ∀ᶠ n in atTop, (Expr.column table column aliasName type).StemRead (readers n) := by
  obtain ⟨ht, hc, ha⟩ := isName_of_column hn
  refine eventually_stemRead rfl (Eventually.of_forall fun n => ?_)
  have word : IsWord (table.toList ++ '.' :: column.toList) := by
    refine ⟨by simp, fun c hm => ?_⟩
    rcases List.mem_append.mp hm with hm | hm
    · exact ht.isWord.chars c hm
    · rcases List.mem_cons.mp hm with rfl | hm
      · rfl
      · exact hc.isWord.chars c hm
  rw [sqlText_column, erase_column, ← List.cons_append, ← List.append_assoc]
  refine Reads.nextOperand_word word (Reads.behindWord_column ht ha) fun rest hr => ?_
  cases aliasName with
  | none => exact hr.head.delimited
  | some a =>
    rintro _ ⟨rfl⟩
    rfl

theorem eventually_literal (value : Value) (type : SqlType) :
    ∀ᶠ n in atTop, (Expr.literal value type).StemRead (readers n) := by
  refine eventually_stemRead rfl (Eventually.of_forall fun n => ?_)
  rw [sqlText_literal, erase_literal, Value.literalText]
  cases h : value.form with
  | quoted p => exact Reads.nextOperand_quoted p
  | bare w =>
    have hw := Value.isBare h
    have read : Reads ((readers n).nextOperand n) (w ++ []) (.literal w) AfterOperand :=
      Reads.nextOperand_word hw.toIsWord (Reads.behindWord_literal hw)
        fun rest hr => hr.head.delimited
    rwa [List.append_nil] at read

end Expr

/-- What may follow a statement: inserts are the only place for one that is not in parentheses. -/
def Follow.statement : StatementKind → List String
  | .select => Follow.offset
  | _ => []

def Statement.IsRead (parts : Readers) (s : Statement) : Prop :=
  Reads parts.statement s.sqlText s.erase (Starts (Follow.statement s.kind))

theorem Statement.select_prefix_sqlText {s : Statement} (hk : s.kind = .select) :
    "SELECT ".toList <+: s.sqlText := by
  rw [sqlText_eq, hk]
  show _ <+: Clauses.selectText _
  unfold Clauses.selectText
  simp only [List.append_assoc]
  exact List.prefix_append _ _

theorem Statement.IsRead.query {parts : Readers} {s : Statement} (h : s.IsRead parts)
    (hk : s.kind = .select) :
    Reads parts.statement s.sqlText s.erase (Starts Follow.offset) := by
  rw [IsRead, hk] at h
  exact h

theorem Expr.eventually_subquery {s : Statement} {type : SqlType} (hk : s.kind = .select)
    (h : ∀ᶠ n in atTop, s.IsRead (readers n)) :
    ∀ᶠ n in atTop, (Expr.subquery s type).StemRead (readers n) := by
  refine eventually_stemRead rfl ?_
  filter_upwards [h] with n h
  rw [sqlText_subquery, erase_subquery]
  exact Reads.nextOperand_subquery List.mem_cons_self (Statement.select_prefix_sqlText hk)
    (h.query hk)

theorem Clauses.eventually_within {ε σ : Type} (c : Clauses ε σ) : ∀ᶠ n in atTop, c.Within n := by
  have row : ∀ᶠ n in atTop, ∀ r ∈ c.rows, r.length ≤ n :=
    eventually_forall_mem fun r _ => eventually_ge_atTop r.length
  filter_upwards [row, eventually_ge_atTop c.projection.length, eventually_ge_atTop c.joins.length,
    eventually_ge_atTop c.groupBy.length, eventually_ge_atTop c.orderBy.length,
    eventually_ge_atTop (c.columns.getD []).length, eventually_ge_atTop c.rows.length,
    eventually_ge_atTop c.assignments.length, eventually_ge_atTop c.returning.length]
    with n row projection joins groupBy orderBy columns rows assignments returning
  exact ⟨projection, joins, groupBy, orderBy, columns, rows, row, assignments, returning⟩

theorem Statement.eventually_isRead {s : Statement} (hw : s.WellNamed)
    (he : ∀ e ∈ s.clauses.exprs, ∀ᶠ n in atTop, e.StemRead (readers n))
    (hs : ∀ t ∈ s.clauses.source, ∀ᶠ n in atTop, t.IsRead (readers n)) :
    ∀ᶠ n in atTop, s.IsRead (readers n) := by
  have expr : ∀ᶠ n in atTop, ∀ e ∈ s.clauses.exprs, e.IsRead (readers n) n :=
    eventually_forall_mem fun e h => Expr.eventually_isRead (hw.exprs e h) (he e h)
  have source : ∀ᶠ n in atTop, ∀ t ∈ s.clauses.source.toList, t.IsRead (readers n) :=
    eventually_forall_mem fun t h => hs t (Option.mem_toList.mp h)
  -- The reader of statements of one depth uses the readers of the depth below it.
  refine eventually_of_succ ?_
  filter_upwards [expr, source, s.clauses.eventually_within] with n expr source within
  have parts : s.clauses.PartsRead (readers n) n := by
    refine ⟨expr, fun e hp => ?_, fun t ht => ?_, fun t ht => ?_, hw.ownNames, within⟩
    · exact e.opening (hw.exprs e (Clauses.mem_exprs.mpr (.inl hp))).names _ (by decide)
    · exact (source t (Option.mem_toList.mpr ht)).query (hw.source t ht).1
    · exact select_prefix_sqlText (hw.source t ht).1
  have suits := hw.regular.suits
  rw [IsRead, sqlText_eq, erase_eq]
  cases hk : s.kind with
  | select => exact parts.readSelect (hk ▸ suits)
  | insert => exact parts.readInsert (hk ▸ suits)
  | update => exact parts.readUpdate (hk ▸ suits)
  | delete => exact parts.readDelete (hk ▸ suits)

theorem eventually_read :
    (∀ e : Expr, e.WellNamed → ∀ᶠ n in atTop, e.StemRead (readers n)) ∧
      ∀ s : Statement, s.WellNamed → ∀ᶠ n in atTop, s.IsRead (readers n) := by
  apply named_induction
  case column => exact fun _ _ _ _ h => Expr.eventually_column h.names
  case literal => exact Expr.eventually_literal
  -- An operator behind its operand is no part of the stem.
  case unary => exact fun _ _ _ _ h => h
  case binary =>
    intro op left right type ho wl wr hl hr
    exact Expr.eventually_binary ho wl (Expr.eventually_operandRead wl hl)
      (Expr.eventually_operandRead wr hr)
  case call =>
    intro function arguments type hf h
    exact Expr.eventually_call hf (fun e he => (h e he).1) fun e he =>
      Expr.eventually_isRead (h e he).1 (h e he).2
  case caseWhen =>
    intro branches otherwise type hb ho
    exact Expr.eventually_caseWhen
      (fun b h => Expr.eventually_isRead (hb b h).1.1 (hb b h).1.2)
      (fun b h => Expr.eventually_isRead (hb b h).2.1 (hb b h).2.2)
      fun e he => Expr.eventually_isRead (ho e he).1 (ho e he).2
  case subquery => exact fun _ _ hk h => Expr.eventually_subquery hk h
  case statement => exact fun _ h exprs source => Statement.eventually_isRead h exprs source

/-! ### Trees with the same SQL -/

/-- Two texts that a reader reads to their end are the same only if it reads the same from both. -/
theorem Reads.unique {α : Type} {read : Reader α} {a b : List Char} {x y : α}
    {F G : List Char → Prop} (ha : Reads read a x F) (hb : Reads read b y G) (hF : F [])
    (hG : G []) (h : a = b) : x = y := by
  have hx := ha [] hF
  rw [h, hb [] hG] at hx
  exact (Prod.mk.inj (Option.some.inj hx)).1.symm

/-- Trees that can be built and have the same SQL have the same shape. -/
theorem shape_of_toSql :
    (∀ s t : Statement, s.Buildable → t.Buildable → Identifiers s.names → Identifiers t.names →
      s.toSql = t.toSql → s.kind = t.kind ∧ s.erase = t.erase) ∧
    ∀ a b : Expr, a.Buildable → b.Buildable → Identifiers a.names → Identifiers b.names →
      a.toSql = b.toSql → a.erase = b.erase := by
  constructor
  · intro s t hs ht ns nt h
    -- One depth is enough for both trees.
    obtain ⟨n, hs, ht⟩ := ((eventually_read.2 s ⟨hs.regular, ns⟩).and
      (eventually_read.2 t ⟨ht.regular, nt⟩)).exists
    have shape : s.erase = t.erase :=
      hs.unique ht (.inl rfl) (.inl rfl) (String.ofList_injective h)
    refine ⟨?_, shape⟩
    rw [Statement.erase_eq, Statement.erase_eq] at shape
    exact (StatementShape.mk.inj shape).1
  · intro a b ha hb na nb h
    have wa : a.WellNamed := ⟨ha.regular, na⟩
    have wb : b.WellNamed := ⟨hb.regular, nb⟩
    have read := (Expr.eventually_isRead wa (eventually_read.1 a wa)).and
      (Expr.eventually_isRead wb (eventually_read.1 b wb))
    obtain ⟨n, ha, hb⟩ := read.exists
    have ending : AfterExpr [] := (show Starts [] [] from .inl rfl).afterExpr rfl
    exact ha.unique hb ending ending (String.ofList_injective h)

/-- What the SQL leaves out is the types that columns were declared with. -/
theorem shape_of_toSql_column_types :
    (((selectAs .record).fromTable ⟨"users", none⟩).filter
        (Typed.column .int "users" "id").isNull).statement.erase =
      (((selectAs .record).fromTable ⟨"users", none⟩).filter
        (Typed.column .text "users" "id").isNull).statement.erase ∧
    (Typed.column .int "users" "id").isNull.expr.erase =
      (Typed.column .text "users" "id").isNull.expr.erase := by
  have condition (t : SqlType) : (Typed.column t "users" "id").isNull.expr.Buildable :=
    .isNull (.column t "users" "id")
  have query (t : SqlType) : Statement.Buildable (((selectAs .record).fromTable
      ⟨"users", none⟩).filter (Typed.column t "users" "id").isNull).statement :=
    .select (.filter (.fromTable _ (.selectAs _)) (condition t))
  constructor
  · exact (shape_of_toSql.1 _ _ (query .int) (query .text) (by decide +kernel) (by decide +kernel)
      (by decide +kernel)).2
  · exact shape_of_toSql.2 _ _ (condition .int) (condition .text) (by decide +kernel)
      (by decide +kernel) (by decide +kernel)

end TypedSql
