import TypedSql.Proofs.Named
import TypedSql.Proofs.Rendering
import TypedSql.Proofs.Sameness
import TypedSql.Proofs.Spelling

/-!
Equal trees are written alike exactly if their literals are spelled alike.
-/

namespace TypedSql

open Text List

theorem closed_cons {c : Char} (hc : isCloser c = true) (text : List Char) :
    Closed (c :: text) := by
  rintro _ ⟨rfl⟩
  exact hc

theorem none_of_rel {α β : Type} {R : α → β → Prop} {a : Option α} {b : Option β}
    (h : Option.Rel R a b) (ha : a = none) : b = none := by
  subst ha
  cases h
  rfl

theorem nil_notMem_of_forall₂ {α β : Type} {R : α → β → Prop} {as : List (List α)}
    {bs : List (List β)} (h : Forall₂ (Forall₂ R) as bs) (ha : [] ∉ as) : [] ∉ bs := by
  induction h with
  | nil => exact not_mem_nil
  | cons hab _ ih =>
    rw [mem_cons, not_or] at ha ⊢
    refine ⟨fun hb => ha.1 ?_, ih ha.2⟩
    rw [← hb, forall₂_nil_right_iff] at hab
    exact hab.symm

namespace Clauses

variable {ε ε' σ σ' : Type} {R : ε → ε' → Prop} {S : σ → σ' → Prop} {c : Clauses ε σ}
  {d : Clauses ε' σ'}

theorem Rel.noQuery (h : c.Rel R S d) (hq : c.NoQuery) : d.NoQuery := by
  obtain ⟨hp, hj, hg, hh, ho, hl, hof⟩ := hq
  refine ⟨?_, ?_, ?_, none_of_rel h.having hh, ?_, h.limit ▸ hl, h.offset ▸ hof⟩
  · exact forall₂_nil_left_iff.mp (hp ▸ h.projection)
  · exact forall₂_nil_left_iff.mp (hj ▸ h.joins)
  · exact forall₂_nil_left_iff.mp (hg ▸ h.groupBy)
  · exact forall₂_nil_left_iff.mp (ho ▸ h.orderBy)

theorem Rel.suits (h : c.Rel R S d) {kind : StatementKind} (hs : c.Suits kind) : d.Suits kind := by
  have target : c.HasTarget → d.HasTarget := fun ⟨name, ht⟩ => ⟨name, h.table ▸ ht⟩
  have rows : c.rows = [] → d.rows = [] := fun hr => forall₂_nil_left_iff.mp (hr ▸ h.rows)
  have assignments : c.assignments = [] → d.assignments = [] := fun ha =>
    forall₂_nil_left_iff.mp (ha ▸ h.assignments)
  cases kind with
  | select =>
    obtain ⟨hc, hr, hsrc, ha, hret⟩ := hs
    exact ⟨h.columns ▸ hc, rows hr, none_of_rel h.source hsrc, assignments ha, h.returning ▸ hret⟩
  | insert =>
    obtain ⟨ht, hq, hf, ha, hc, hne, hrs⟩ := hs
    exact ⟨target ht, h.noQuery hq, none_of_rel h.filter hf, assignments ha, h.columns ▸ hc,
      nil_notMem_of_forall₂ h.rows hne, hrs.imp rows (none_of_rel h.source)⟩
  | update =>
    obtain ⟨ht, hq, hc, hr, hsrc⟩ := hs
    exact ⟨target ht, h.noQuery hq, h.columns ▸ hc, rows hr, none_of_rel h.source hsrc⟩
  | delete =>
    obtain ⟨ht, hq, hc, hr, hsrc, ha⟩ := hs
    exact ⟨target ht, h.noQuery hq, h.columns ▸ hc, rows hr, none_of_rel h.source hsrc,
      assignments ha⟩

end Clauses

/-! ### Clauses side by side -/

section Sides

variable {γ : Type} {x y x' y' : List Char} {p q p' q' : List γ}

/-- Aligned texts before which any part may stand. -/
structure AlignedClause (x y : List Char) (p q : List γ) : Prop extends Aligned Closed x y p q where
  left : ∀ r, Closed r → Closed (x ++ r)
  right : ∀ r, Closed r → Closed (y ++ r)

theorem Aligned.clause (h : Aligned Closed x y p q) (h' : AlignedClause x' y' p' q') :
    Aligned Closed (x ++ x') (y ++ y') (p ++ p') (q ++ q') :=
  h.append h'.toAligned h'.left h'.right

theorem AlignedClause.refl (hx : ∀ r, Closed r → Closed (x ++ r)) :
    AlignedClause x x ([] : List γ) [] :=
  ⟨.refl x [], hx, hx⟩

theorem Aligned.closedBy (h : Aligned Closed x y p q) {c : Char} (hc : isCloser c = true)
    (z : List Char) : Aligned Closed (x ++ c :: z) (y ++ c :: z) p q :=
  h.back (c :: z) fun _ _ => closed_cons hc _

/-- A part that is the same on both sides in front, such as a keyword. -/
theorem AlignedClause.front (h : Aligned Closed x y p q) {c : Char} (hc : isCloser c = true)
    (z : List Char) : AlignedClause (c :: (z ++ x)) (c :: (z ++ y)) p q :=
  ⟨Aligned.front (c :: z) h, fun _ _ => closed_cons hc _, fun _ _ => closed_cons hc _⟩

variable {ι κ : Type} {as : List ι} {bs : List κ} {a : Option ι} {b : Option κ}
  {f : ι → List Char} {g : κ → List Char} {m : ι → List γ} {n : κ → List γ}

/-- Whether a keyword may stand behind any part. -/
def opensClause (keyword : String) : Bool :=
  keyword.toList.head?.any isCloser

theorem closed_keyword {keyword : String} (hk : opensClause keyword = true) (text : List Char) :
    Closed (keyword.toList ++ text) := by
  rw [opensClause] at hk
  cases h : keyword.toList with
  | nil =>
    rw [h] at hk
    cases hk
  | cons c cs =>
    rw [h] at hk
    exact closed_cons hk _

theorem closed_optional {keyword : String} (hk : opensClause keyword = true)
    (text : Option (List Char)) {r : List Char} (hr : Closed r) :
    Closed (Clauses.optional keyword text ++ r) := by
  cases text with
  | none => exact hr
  | some text =>
    rw [Clauses.optional, append_assoc]
    exact closed_keyword hk _

theorem AlignedClause.optional (keyword : String) (hk : opensClause keyword = true)
    (h : Option.Rel (fun a b => Aligned Closed (f a) (g b) (m a) (n b)) a b) :
    AlignedClause (Clauses.optional keyword (a.map f)) (Clauses.optional keyword (b.map g))
      (a.toList.flatMap m) (b.toList.flatMap n) := by
  refine ⟨?_, fun r => closed_optional hk _, fun r => closed_optional hk _⟩
  cases h with
  | none => exact .refl [] []
  | some h =>
    simp only [Option.toList_some, flatMap_singleton]
    exact h.front _

theorem closed_flatMap (hf : ∀ a text, Closed (f a ++ text)) (as : List ι) {r : List Char}
    (hr : Closed r) : Closed (as.flatMap f ++ r) := by
  cases as with
  | nil => exact hr
  | cons a as =>
    rw [flatMap_cons, append_assoc]
    exact hf a _

theorem AlignedClause.flatMap
    (h : Forall₂ (fun a b => Aligned Closed (f a) (g b) (m a) (n b)) as bs)
    (hf : ∀ a text, Closed (f a ++ text)) (hg : ∀ b text, Closed (g b ++ text)) :
    AlignedClause (as.flatMap f) (bs.flatMap g) (as.flatMap m) (bs.flatMap n) :=
  ⟨Aligned.flatMap h hf hg, fun _ => closed_flatMap hf as, fun _ => closed_flatMap hg bs⟩

theorem Aligned.commaSeparated
    (h : Forall₂ (fun a b => Aligned Closed (f a) (g b) (m a) (n b)) as bs) :
    Aligned Closed (commaSeparated (as.map f)) (commaSeparated (bs.map g)) (as.flatMap m)
      (bs.flatMap n) := by
  cases h with
  | nil => exact .refl _ []
  | cons hab hs =>
    rw [map_cons, map_cons, commaSeparated_cons, commaSeparated_cons, flatMap_map, flatMap_map]
    refine hab.clause (.flatMap (hs.imp fun a b hab => hab.front _) ?_ ?_)
    · exact fun a text => append_assoc _ (f a) text ▸ closed_keyword rfl (f a ++ text)
    · exact fun b text => append_assoc _ (g b) text ▸ closed_keyword rfl (g b ++ text)

theorem closed_optionalList {keyword : String} (hk : opensClause keyword = true)
    (texts : List (List Char)) {r : List Char} (hr : Closed r) :
    Closed (Clauses.optionalList keyword texts ++ r) := by
  rw [Clauses.optionalList]
  split
  · exact hr
  · rw [append_assoc]
    exact closed_keyword hk _

theorem AlignedClause.optionalList (keyword : String) (hk : opensClause keyword = true)
    (h : Forall₂ (fun a b => Aligned Closed (f a) (g b) (m a) (n b)) as bs) :
    AlignedClause (Clauses.optionalList keyword (as.map f))
      (Clauses.optionalList keyword (bs.map g)) (as.flatMap m) (bs.flatMap n) := by
  refine ⟨?_, fun _ => closed_optionalList hk _, fun _ => closed_optionalList hk _⟩
  cases h with
  | nil => exact .refl [] []
  | cons hab hs => exact (Aligned.commaSeparated (.cons hab hs)).front keyword.toList

end Sides

/-! ### Expressions -/

namespace Expr

/-- The two expressions are written alike exactly if their literals are spelled alike. -/
def Alike (a b : Expr) : Prop :=
  Aligned Closed a.sqlText b.sqlText (a.literals.map Value.spelling)
    (b.literals.map Value.spelling)

variable {a b a' b' : Expr} {type : SqlType}

theorem alike_unary (op : Operator) (h : a.Alike b) : (unary op a).Alike (unary op b) := by
  rw [Alike, sqlText_unary, sqlText_unary, literals_unary, literals_unary]
  exact h.closedBy rfl _

theorem Alike.operand (h : a.Alike b) (hu : a.isUnary = b.isUnary) :
    Aligned Closed a.operandText b.operandText (a.literals.map Value.spelling)
      (b.literals.map Value.spelling) := by
  rw [operandText, operandText, hu]
  split
  · exact (Aligned.closedBy h rfl []).front ['(']
  · exact h

theorem alike_binary (op : Operator) (hl : a.Alike b) (hr : a'.Alike b')
    (hlu : a.isUnary = b.isUnary) (hru : a'.isUnary = b'.isUnary) :
    (binary op a a' type).Alike (binary op b b' type) := by
  rw [Alike, sqlText_binary, sqlText_binary, literals_binary, literals_binary, map_append,
    map_append]
  have right := AlignedClause.front ((hr.operand hru).closedBy (c := ')') rfl []) (c := ' ') rfl
    (op.symbol.toList ++ [' '])
  have whole := ((hl.operand hlu).clause right).front ['(']
  simp only [append_assoc, singleton_append] at whole
  exact whole

theorem alike_call {as bs : List Expr} (function : String) (h : Forall₂ Alike as bs) :
    (call function as type).Alike (call function bs type) := by
  rw [Alike, sqlText_call, sqlText_call, literals_call, literals_call, map_flatMap, map_flatMap]
  exact (((Aligned.commaSeparated h).closedBy rfl []).front ['(']).front function.toList

theorem alike_caseWhen {as bs : List (Expr × Expr)} {a b : Option Expr}
    (h : Forall₂ (fun a b => a.1.Alike b.1 ∧ a.2.Alike b.2) as bs) (ho : Option.Rel Alike a b) :
    (caseWhen as a type).Alike (caseWhen bs b type) := by
  have branch : ∀ x y : Expr × Expr, x.1.Alike y.1 ∧ x.2.Alike y.2 →
      Aligned Closed
        (" WHEN ".toList ++ x.1.sqlText ++ " THEN ".toList ++ x.2.sqlText)
        (" WHEN ".toList ++ y.1.sqlText ++ " THEN ".toList ++ y.2.sqlText)
        ((x.1.literals ++ x.2.literals).map Value.spelling)
        ((y.1.literals ++ y.2.literals).map Value.spelling) := by
    intro x y h
    rw [map_append, map_append, append_assoc, append_assoc, append_assoc, append_assoc]
    exact (Aligned.clause h.1 (.front h.2 rfl "THEN ".toList)).front " WHEN ".toList
  have branches := AlignedClause.flatMap (h.imp branch) (fun _ _ => closed_cons rfl _)
    fun _ _ => closed_cons rfl _
  have whole := (branches.toAligned.front "CASE".toList).clause (.optional " ELSE " rfl ho)
  rw [Alike, sqlText_caseWhen, sqlText_caseWhen, literals_caseWhen, literals_caseWhen, map_append,
    map_append, map_flatMap, map_flatMap, map_flatMap, map_flatMap]
  exact whole.closedBy rfl "END".toList

end Expr

/-! ### Statements -/

/-- The two statements are written alike exactly if their literals are spelled alike. -/
def Statement.Alike (s t : Statement) : Prop :=
  Aligned Closed s.sqlText t.sqlText (s.literals.map Value.spelling)
    (t.literals.map Value.spelling)

theorem Expr.alike_subquery {s t : Statement} {type : SqlType} (h : s.Alike t) :
    (subquery s type).Alike (subquery t type) := by
  rw [Alike, sqlText_subquery, sqlText_subquery, literals_subquery, literals_subquery]
  exact (Aligned.closedBy h rfl []).front ['(']

namespace Clauses

/-- How the literals in the clauses are spelled, clause by clause. -/
def marks (c : ClauseSet) : List Spelling :=
  (c.map (fun e => e.literals.map Value.spelling) fun t => t.literals.map Value.spelling).collect

variable {c d : ClauseSet}

theorem marks_select (hs : c.Suits .select) : c.marks =
    c.projection.flatMap (fun e => e.literals.map Value.spelling) ++ [] ++
      c.joins.flatMap (fun j => j.on.literals.map Value.spelling) ++
      c.filter.toList.flatMap (fun e => e.literals.map Value.spelling) ++
      c.groupBy.flatMap (fun e => e.literals.map Value.spelling) ++
      c.having.toList.flatMap (fun e => e.literals.map Value.spelling) ++
      c.orderBy.flatMap (fun o => o.expr.literals.map Value.spelling) ++ [] ++ [] := by
  obtain ⟨-, hr, hsrc, ha, -⟩ := hs
  rw [marks, collect_map, hr, hsrc, ha]
  simp

theorem alignedClause_optional {keyword : String} (hk : opensClause keyword = true)
    {a b : Option (List Char)} (hab : a = b) :
    AlignedClause (optional keyword a) (optional keyword b) ([] : List Spelling) [] := by
  rw [hab]
  exact .refl fun _ => closed_optional hk b

theorem alike_select (h : c.Rel Expr.Alike Statement.Alike d) (hs : c.Suits .select) :
    Aligned Closed (c.texts.text .select) (d.texts.text .select) c.marks d.marks := by
  have projection : Aligned Closed
      (if c.texts.projection.isEmpty then ['*'] else commaSeparated c.texts.projection)
      (if d.texts.projection.isEmpty then ['*'] else commaSeparated d.texts.projection)
      (c.projection.flatMap fun e => e.literals.map Value.spelling)
      (d.projection.flatMap fun e => e.literals.map Value.spelling) := by
    have related := h.projection
    rw [texts, texts, map, map]
    generalize c.projection = items at related ⊢
    generalize d.projection = items' at related ⊢
    have list := Aligned.commaSeparated related
    cases related with
    | nil => exact .refl _ []
    | cons _ _ => exact list
  have source : AlignedClause (optional " FROM " (c.texts.table.map tableText))
      (optional " FROM " (d.texts.table.map tableText)) ([] : List Spelling) [] :=
    alignedClause_optional rfl (congrArg (Option.map tableText) h.table)
  have joins : AlignedClause (c.texts.joins.flatMap joinText) (d.texts.joins.flatMap joinText)
      (c.joins.flatMap fun j => j.on.literals.map Value.spelling)
      (d.joins.flatMap fun j => j.on.literals.map Value.spelling) := by
    rw [texts, texts, map, map, flatMap_map, flatMap_map]
    refine .flatMap (h.joins.imp fun j k hj => ?_) (fun _ _ => closed_cons rfl _)
      fun _ _ => closed_cons rfl _
    have text : ∀ i : Join (List Char), joinText i =
        ' ' :: (i.kind.keyword.toList ++ ' ' :: (tableText i.table ++ " ON ".toList)) ++ i.on := by
      simp [joinText]
    rw [text, text, hj.1, hj.2.1]
    exact Aligned.front _ hj.2.2
  have orderBy : AlignedClause (optionalList " ORDER BY " (c.texts.orderBy.map orderText))
      (optionalList " ORDER BY " (d.texts.orderBy.map orderText))
      (c.orderBy.flatMap fun o => o.expr.literals.map Value.spelling)
      (d.orderBy.flatMap fun o => o.expr.literals.map Value.spelling) := by
    rw [texts, texts, map, map, List.map_map, List.map_map]
    refine .optionalList " ORDER BY " rfl (h.orderBy.imp fun o p ho => ?_)
    show Aligned _ (o.expr.sqlText ++ _) (p.expr.sqlText ++ _) _ _
    rw [ho.1]
    exact Aligned.closedBy ho.2 rfl _
  have limit : AlignedClause (optional " LIMIT " (c.limit.map digits))
      (optional " LIMIT " (d.limit.map digits)) ([] : List Spelling) [] :=
    alignedClause_optional rfl (congrArg (Option.map digits) h.limit)
  have offset : AlignedClause (optional " OFFSET " (c.offset.map digits))
      (optional " OFFSET " (d.offset.map digits)) ([] : List Spelling) [] :=
    alignedClause_optional rfl (congrArg (Option.map digits) h.offset)
  have filter := AlignedClause.optional " WHERE " rfl h.filter
  have groupBy := AlignedClause.optionalList " GROUP BY " rfl h.groupBy
  have having := AlignedClause.optional " HAVING " rfl h.having
  rw [marks_select hs, marks_select (h.suits hs)]
  show Aligned _ c.texts.selectText d.texts.selectText _ _
  unfold selectText
  have upToJoins := ((projection.front "SELECT ".toList).clause source).clause joins
  have upToOrder := (((upToJoins.clause filter).clause groupBy).clause having).clause orderBy
  exact (upToOrder.clause limit).clause offset

theorem targetText_eq (h : c.table = d.table) : c.texts.targetText = d.texts.targetText := by
  rw [targetText, targetText, texts, texts, map, map, h]

theorem alike_returning (h : c.returning = d.returning) :
    AlignedClause c.texts.returningText d.texts.returningText ([] : List Spelling) [] := by
  rw [returningText, returningText, texts, texts, map, map, h]
  exact .refl fun _ => closed_optionalList rfl _

theorem marks_delete (hs : c.Suits .delete) : c.marks =
    c.filter.toList.flatMap (fun e => e.literals.map Value.spelling) ++ [] := by
  obtain ⟨-, ⟨hp, hj, hg, hh, ho, -, -⟩, -, hr, hsrc, ha⟩ := hs
  rw [marks, collect_map, hp, hj, hr, hsrc, ha, hg, hh, ho]
  simp

theorem alike_delete (h : c.Rel Expr.Alike Statement.Alike d) (hs : c.Suits .delete) :
    Aligned Closed (c.texts.text .delete) (d.texts.text .delete) c.marks d.marks := by
  have filter := AlignedClause.optional " WHERE " rfl h.filter
  have head : Aligned Closed ("DELETE FROM ".toList ++ c.texts.targetText)
      ("DELETE FROM ".toList ++ d.texts.targetText) ([] : List Spelling) [] := by
    rw [targetText_eq h.table]
    exact .refl _ []
  rw [marks_delete hs, marks_delete (h.suits hs)]
  show Aligned _ c.texts.deleteText d.texts.deleteText _ _
  unfold deleteText
  exact (head.clause filter).clause (alike_returning h.returning)

theorem marks_update (hs : c.Suits .update) : c.marks =
    c.assignments.flatMap (fun a => a.value.literals.map Value.spelling) ++
      c.filter.toList.flatMap (fun e => e.literals.map Value.spelling) ++ [] := by
  obtain ⟨-, ⟨hp, hj, hg, hh, ho, -, -⟩, -, hr, hsrc⟩ := hs
  rw [marks, collect_map, hp, hj, hr, hsrc, hg, hh, ho]
  simp

theorem alike_update (h : c.Rel Expr.Alike Statement.Alike d) (hs : c.Suits .update) :
    Aligned Closed (c.texts.text .update) (d.texts.text .update) c.marks d.marks := by
  have filter := AlignedClause.optional " WHERE " rfl h.filter
  have assignments : Aligned Closed (commaSeparated (c.texts.assignments.map assignmentText))
      (commaSeparated (d.texts.assignments.map assignmentText))
      (c.assignments.flatMap fun a => a.value.literals.map Value.spelling)
      (d.assignments.flatMap fun a => a.value.literals.map Value.spelling) := by
    rw [texts, texts, map, map, List.map_map, List.map_map]
    refine .commaSeparated (h.assignments.imp fun a b hab => ?_)
    show Aligned _ (a.column.toList ++ _ ++ a.value.sqlText)
      (b.column.toList ++ _ ++ b.value.sqlText) _ _
    rw [hab.1]
    exact Aligned.front _ hab.2
  rw [marks_update hs, marks_update (h.suits hs)]
  show Aligned _ c.texts.updateText d.texts.updateText _ _
  unfold updateText
  rw [targetText_eq h.table]
  exact ((assignments.front _).clause filter).clause (alike_returning h.returning)

theorem marks_insert (hs : c.Suits .insert) : c.marks =
    [] ++ c.rows.flatMap (fun r => r.flatMap fun e => e.literals.map Value.spelling) ++
      c.source.toList.flatMap (fun t => t.literals.map Value.spelling) ++ [] := by
  obtain ⟨-, ⟨hp, hj, hg, hh, ho, -, -⟩, hf, ha, -, -, -⟩ := hs
  rw [marks, collect_map, hp, hj, hf, ha, hg, hh, ho, ← flatMap_id, flatMap_assoc]
  simp

theorem alike_insert (h : c.Rel Expr.Alike Statement.Alike d) (hs : c.Suits .insert) :
    Aligned Closed (c.texts.text .insert) (d.texts.text .insert) c.marks d.marks := by
  have columns : AlignedClause c.texts.columnsText d.texts.columnsText ([] : List Spelling) [] := by
    rw [columnsText, columnsText, texts, texts, map, map, h.columns]
    cases d.columns with
    | none => exact .refl fun _ hr => hr
    | some names => exact .refl fun _ _ => closed_cons rfl _
  have row : ∀ r r' : List Expr, Forall₂ Expr.Alike r r' →
      Aligned Closed (rowText (r.map Expr.sqlText)) (rowText (r'.map Expr.sqlText))
        (r.flatMap fun e => e.literals.map Value.spelling)
        (r'.flatMap fun e => e.literals.map Value.spelling) := fun r r' hr =>
    ((Aligned.commaSeparated hr).closedBy rfl []).front ['(']
  have rows : AlignedClause (optionalList " VALUES " (c.texts.rows.map rowText))
      (optionalList " VALUES " (d.texts.rows.map rowText))
      (c.rows.flatMap fun r => r.flatMap fun e => e.literals.map Value.spelling)
      (d.rows.flatMap fun r => r.flatMap fun e => e.literals.map Value.spelling) := by
    rw [texts, texts, map, map, List.map_map, List.map_map]
    exact .optionalList " VALUES " rfl (h.rows.imp row)
  have source := AlignedClause.optional " " rfl h.source
  have head : Aligned Closed ("INSERT INTO ".toList ++ c.texts.targetText)
      ("INSERT INTO ".toList ++ d.texts.targetText) ([] : List Spelling) [] := by
    rw [targetText_eq h.table]
    exact .refl _ []
  have hs' := h.suits hs
  have one : ∀ c : ClauseSet, c.Suits .insert → c.texts.rows = [] ∨ c.texts.source = none :=
    fun c hs => hs.2.2.2.2.2.2.imp (congrArg (List.map _)) (congrArg (Option.map _))
  rw [marks_insert hs, marks_insert hs']
  show Aligned _ c.texts.insertText d.texts.insertText _ _
  unfold insertText
  rw [rowsText_eq (one c hs), rowsText_eq (one d hs'), ← append_assoc _ (optionalList _ _),
    ← append_assoc _ (optionalList _ _)]
  exact (((head.clause columns).clause rows).clause source).clause (alike_returning h.returning)

end Clauses

theorem alike_of_same :
    (∀ a b : Expr, a.same b = true →
      a.isUnary = b.isUnary ∧ (a.Named (fun _ => True) → a.Alike b)) ∧
    ∀ s t : Statement, s.same t = true → s.Named (fun _ => True) → s.Alike t := by
  -- An operand is put in parentheses on both sides or on neither. A tree that is not regular may
  -- have literals that it does not write.
  apply same_induction
  case column => exact fun _ _ _ _ => ⟨rfl, fun _ => .refl _ _⟩
  case literal =>
    intro v w type h
    refine ⟨rfl, fun _ => ?_⟩
    rw [Expr.Alike, Expr.sqlText_literal, Expr.sqlText_literal, Expr.literals_literal,
      Expr.literals_literal]
    exact Value.aligned_literalText h
  case unary =>
    intro op a b h
    exact ⟨rfl, fun hr => Expr.alike_unary op (h.2 hr.of_unary.2)⟩
  case binary =>
    intro op a b a' b' type ha hb
    refine ⟨rfl, fun hr => ?_⟩
    obtain ⟨-, hl, hr⟩ := hr.of_binary
    exact Expr.alike_binary op (ha.2 hl) (hb.2 hr) ha.1 hb.1
  case call =>
    intro function as bs type h
    refine ⟨rfl, fun hr => Expr.alike_call function (forall₂_imp_mem h fun a ha b hab => ?_)⟩
    exact hab.2 (hr.of_call.2 a ha)
  case caseWhen =>
    intro as bs a b type h ho
    refine ⟨rfl, fun hr => ?_⟩
    obtain ⟨hb, hl⟩ := hr.of_caseWhen
    refine Expr.alike_caseWhen (forall₂_imp_mem h fun x hx y hxy => ?_)
      (rel_imp_mem ho fun x hx y hxy => hxy.2 (hl x hx))
    exact ⟨hxy.1.2 (hb x hx).1, hxy.2.2 (hb x hx).2⟩
  case subquery =>
    intro s t type h
    exact ⟨rfl, fun hr => Expr.alike_subquery (h hr.of_subquery.2)⟩
  case statement =>
    intro s t kind _ h hr
    have related : s.clauses.Rel Expr.Alike Statement.Alike t.clauses :=
      h.imp (fun e he e' hee => hee.2 (hr.exprs e he)) fun u hu u' huu => huu (hr.source u hu).2
    have suits := hr.regular.suits
    rw [Statement.Alike, Statement.sqlText_eq, Statement.sqlText_eq, Statement.map_literals,
      Statement.map_literals, ← kind]
    cases hk : s.kind with
    | select => exact Clauses.alike_select related (hk ▸ suits)
    | insert => exact Clauses.alike_insert related (hk ▸ suits)
    | update => exact Clauses.alike_update related (hk ▸ suits)
    | delete => exact Clauses.alike_delete related (hk ▸ suits)

/-- Equal trees that can be built have the same SQL exactly if their literals are spelled alike:
decimals with the same scale and sign, JSON documents with the same doubles. -/
theorem toSql_eq_iff_of_same (v w : Value) (a b : Expr) (s t : Statement) :
    (v == w → (v.literal = w.literal ↔ v.spelling = w.spelling)) ∧
    (a.Buildable → a == b →
      (a.toSql = b.toSql ↔ a.literals.map Value.spelling = b.literals.map Value.spelling)) ∧
    (s.Buildable → s == t →
      (s.toSql = t.toSql ↔ s.literals.map Value.spelling = t.literals.map Value.spelling)) := by
  have closed : Closed [] := nofun
  refine ⟨fun h => ?_, fun ha h => ?_, fun hs h => ?_⟩
  · rw [Value.literal, Value.literal, String.ofList_inj,
      (Value.aligned_literalText h).eq_iff closed, List.singleton_inj]
  · rw [Expr.toSql, Expr.toSql, String.ofList_inj]
    exact ((alike_of_same.1 a b h).2 ⟨ha.regular, fun _ _ => trivial⟩).eq_iff closed
  · rw [Statement.toSql, Statement.toSql, String.ofList_inj]
    exact (alike_of_same.2 s t h ⟨hs.regular, fun _ _ => trivial⟩).eq_iff closed

/-- The number one with one zero behind the point equals the number one with two of them, and is
written differently. -/
theorem toSql_eq_iff_of_same_trailing_zero : ∃ v w : Value,
    ((v == w) = true ∧ v.literal ≠ w.literal) ∧
    (Expr.ofValue v == Expr.ofValue w) = true ∧
    (Expr.ofValue v).toSql ≠ (Expr.ofValue w).toSql ∧
    (((selectAs .record).projectMany [Expr.ofValue v]).statement ==
      ((selectAs .record).projectMany [Expr.ofValue w]).statement) = true ∧
    ((selectAs .record).projectMany [Expr.ofValue v]).statement.toSql ≠
      ((selectAs .record).projectMany [Expr.ofValue w]).statement.toSql := by
  let v := Value.decimal { negative := false, magnitude := 10, scale := 1 }
  let w := Value.decimal { negative := false, magnitude := 100, scale := 2 }
  have hv : (Expr.ofValue v).Buildable := .ofValue v
  have hs : Statement.Buildable ((selectAs .record).projectMany [Expr.ofValue v]).statement :=
    .select (.projectMany (.selectAs _) (List.forall_mem_singleton.mpr hv))
  have values : (v == w) = true := by decide +kernel
  have exprs : (Expr.ofValue v == Expr.ofValue w) = true := by decide +kernel
  have statements : (((selectAs .record).projectMany [Expr.ofValue v]).statement ==
      ((selectAs .record).projectMany [Expr.ofValue w]).statement) = true := by decide +kernel
  obtain ⟨literal, expr, statement⟩ := toSql_eq_iff_of_same v w (Expr.ofValue v) (Expr.ofValue w)
    ((selectAs .record).projectMany [Expr.ofValue v]).statement
    ((selectAs .record).projectMany [Expr.ofValue w]).statement
  refine ⟨v, w, ⟨values, ?_⟩, exprs, ?_, statements, ?_⟩
  · rw [Ne, literal values]
    decide +kernel
  · rw [Ne, expr hv exprs]
    decide +kernel
  · rw [Ne, statement hs statements]
    decide +kernel

end TypedSql
