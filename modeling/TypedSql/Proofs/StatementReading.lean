import TypedSql.Proofs.ExprReading

/-!
Statements are read back as their shape, clause by clause. What may follow a clause is the keyword
of a later clause or what may follow the whole statement, so a reader never takes a clause for a
part of the one before it.
-/

namespace TypedSql

open Text Reader

namespace Starts

variable {words : List String} {rest : List Char}

theorem optionalList (h : Starts words rest) (keyword : String) (texts : List (List Char)) :
    Starts (keyword :: words) (Clauses.optionalList keyword texts ++ rest) := by
  rw [Clauses.optionalList]
  split
  · exact h.mono (List.subset_cons_self _ _)
  · rw [List.append_assoc]
    exact of_append List.mem_cons_self _

end Starts

namespace Reads

variable {α ι : Type} {read : Reader α} {n : Nat} {items : List ι} {words : List String}
  {text : ι → List Char} {value : ι → α}

theorem listClause {keyword : String} (hn : items.length ≤ n)
    (hd : distinct ", " words = true) (hk : distinct keyword words = true)
    (hi : ∀ i ∈ items, Reads read (text i) (value i) (Starts (", " :: words))) :
    Reads (Readers.listClause n keyword read) (Clauses.optionalList keyword (items.map text))
      (items.map value) (Starts words) := by
  cases items with
  | nil => exact (clause_none fun _ h => h.excludes hk).map
  | cons i items =>
    exact (clause_some (commas (List.cons_ne_nil i items) hn hd hi)).map

theorem names {names : List String} (hn : names.length ≤ n) (hne : names ≠ [])
    (hd : distinct ", " words = true) (h : ∀ s ∈ names, IsName s.toList)
    (hw : (", " :: words).all (fun w => w.toList.head?.any isDelimiter) = true) :
    Reads (Reader.commas n Reader.name) (commaSeparated (names.map String.toList)) names
      (Starts words) := by
  have each : ∀ s ∈ names, Reads Reader.name s.toList (id s) (Starts (", " :: words)) :=
    fun s hs => (name (h s hs)).weaken fun _ hr => hr.delimited hw
  have := commas hne hn hd each
  rwa [List.map_id] at this

end Reads

/-! ### What follows each clause -/

namespace Follow

def offset : List String := [")", " RETURNING "]

def limit : List String := " OFFSET " :: offset

def orderBy : List String := " LIMIT " :: limit

def having : List String := " ORDER BY " :: orderBy

def groupBy : List String := " HAVING " :: having

def filter : List String := " GROUP BY " :: groupBy

def joins : List String := " WHERE " :: filter

def join : List String := " INNER JOIN " :: " LEFT JOIN " :: " RIGHT JOIN " :: joins

def projection : List String := " FROM " :: join

end Follow

/-- No list in the clauses is longer than the given number. -/
structure Clauses.Within {ε σ : Type} (n : Nat) (c : Clauses ε σ) : Prop where
  projection : c.projection.length ≤ n
  joins : c.joins.length ≤ n
  groupBy : c.groupBy.length ≤ n
  orderBy : c.orderBy.length ≤ n
  columns : (c.columns.getD []).length ≤ n
  rows : c.rows.length ≤ n
  row : ∀ r ∈ c.rows, r.length ≤ n
  assignments : c.assignments.length ≤ n
  returning : c.returning.length ≤ n

/-- The readers of the parts of a statement read what the parts write. -/
structure Clauses.PartsRead (parts : Readers) (n : Nat) (c : ClauseSet) : Prop where
  exprs : ∀ e ∈ c.exprs, e.IsRead parts n
  /-- No expression starts like the list of all columns. -/
  opens : ∀ e ∈ c.projection, ∀ rest, ¬ "*".toList <+: e.sqlText ++ rest
  source : ∀ t ∈ c.source, Reads parts.statement t.sqlText t.erase (Starts Follow.offset)
  sourceStart : ∀ t ∈ c.source, "SELECT ".toList <+: t.sqlText
  names : Identifiers c.ownNames
  within : c.Within n

namespace Clauses.PartsRead

variable {parts : Readers} {n : Nat} {c : ClauseSet} (h : c.PartsRead parts n)

include h

theorem isName {role : NameRole} {name : String} (hm : ⟨role, name⟩ ∈ c.ownNames)
    (hr : role ≠ .function) : IsName name.toList :=
  isName_of_isIdentifier (h.names ⟨role, name⟩ hm) hr

theorem readTable {t : Table} (ht : ∀ m ∈ t.names, m ∈ c.ownNames) :
    Reads Reader.table (tableText t) t AfterTable := by
  refine Reads.table (h.isName (ht ⟨.table, t.name⟩ List.mem_cons_self) (by decide)) fun a ha => ?_
  have hm : ⟨.tableAlias, a⟩ ∈ t.names :=
    List.mem_cons_of_mem _ (List.mem_map.mpr ⟨a, Option.mem_toList.mpr ha, rfl⟩)
  exact h.isName (ht _ hm) (by decide)

/-! ### Queries -/

theorem readProjection : Reads (parts.projection n)
    (if c.texts.projection.isEmpty then ['*'] else commaSeparated c.texts.projection)
    (c.projection.map Expr.erase) (Starts Follow.projection) := by
  have hn := h.within.projection
  cases hp : c.projection with
  | nil =>
    rw [texts, map, hp]
    exact (Reads.accept (F := fun _ => True) "*").bind Reads.pure fun _ _ => trivial
  | cons e es =>
    rw [texts, map, hp]
    rw [hp] at hn
    refine Reads.refuse_bind (fun rest _ => ?_) ?_
    · show ¬ _ <+: commaSeparated ((e :: es).map Expr.sqlText) ++ rest
      rw [List.map_cons, commaSeparated_cons, List.append_assoc]
      exact h.opens e (hp ▸ List.mem_cons_self) _
    · refine Reads.commas (List.cons_ne_nil e es) hn (by decide) fun x hx => ?_
      exact (h.exprs x (mem_exprs.mpr (.inl (hp ▸ hx)))).starts (by decide)

theorem readFrom : Reads (Reader.clause " FROM " Reader.table)
    (optional " FROM " (c.texts.table.map tableText)) c.table (Starts Follow.join) := by
  have each : ∀ t ∈ c.table, Reads Reader.table (tableText t) (id t) (Starts Follow.join) := by
    intro t ht
    have table := h.readTable fun m hm => mem_ownNames.mpr (.inl ⟨t, ht, hm⟩)
    exact table.weaken fun _ hr => hr.afterTable (by decide)
  have clause : Reads (Reader.clause " FROM " Reader.table)
      (optional " FROM " (c.table.map tableText)) (c.table.map id) (Starts Follow.join) :=
    Reads.clause each fun _ hr => hr.excludes (by decide)
  rwa [Option.map_id] at clause

theorem readJoin {j : Join Expr} (hj : j ∈ c.joins) : Reads (parts.join n)
    (joinText ⟨j.kind, j.table, j.on.sqlText⟩) (some ⟨j.kind, j.table, j.on.erase⟩)
    (Starts Follow.join) := by
  have table := h.readTable fun m hm => mem_ownNames.mpr (.inr (.inl ⟨j, hj, hm⟩))
  have on : Reads (parts.expr n) j.on.sqlText j.on.erase (Starts Follow.join) :=
    (h.exprs j.on (mem_exprs.mpr (.inr (.inl ⟨j, hj, rfl⟩)))).starts (by decide)
  have joined : Reads (Readers.join.joined parts n j.kind)
      (tableText j.table ++ (" ON ".toList ++ j.on.sqlText)) ⟨j.kind, j.table, j.on.erase⟩
      (Starts Follow.join) := by
    refine table.bind ((Reads.expect (F := fun _ => True) " ON ").bind on.map
      fun _ _ => trivial) fun rest _ => ?_
    have start : Starts [" ON "] (" ON ".toList ++ j.on.sqlText ++ rest) := by
      rw [List.append_assoc]
      exact Starts.of_append List.mem_cons_self _
    exact start.afterTable (by decide)
  have text : joinText ⟨j.kind, j.table, j.on.sqlText⟩ = (" " ++ j.kind.keyword ++ " ").toList ++
      (tableText j.table ++ (" ON ".toList ++ j.on.sqlText)) := by
    simp [joinText]
  rw [text]
  cases hk : j.kind with
  | inner =>
    rw [hk] at joined
    exact (Reads.accept (F := fun _ => True) " INNER JOIN ").bind joined.map fun _ _ => trivial
  | left =>
    rw [hk] at joined
    refine Reads.refuse_bind
      (fun _ _ => Starts.excludes_append " LEFT JOIN " (by decide)) ?_
    exact (Reads.accept (F := fun _ => True) " LEFT JOIN ").bind joined.map fun _ _ => trivial
  | right =>
    rw [hk] at joined
    refine Reads.refuse_bind
      (fun _ _ => Starts.excludes_append " RIGHT JOIN " (by decide)) ?_
    refine Reads.refuse_bind
      (fun _ _ => Starts.excludes_append " RIGHT JOIN " (by decide)) ?_
    exact (Reads.accept (F := fun _ => True) " RIGHT JOIN ").bind joined.map fun _ _ => trivial

theorem readJoins : Reads (Reader.many n (parts.join n)) (c.texts.joins.flatMap joinText)
    (c.joins.map fun j => ⟨j.kind, j.table, j.on.erase⟩) (Starts Follow.joins) := by
  have none : Reads (parts.join n) [] none (Starts Follow.joins) :=
    Reads.refuse_bind (fun _ hr => hr.excludes (by decide))
      (Reads.refuse_bind (fun _ hr => hr.excludes (by decide))
        (Reads.refuse_bind (fun _ hr => hr.excludes (by decide)) Reads.pure))
  rw [texts, map, List.flatMap_map]
  refine Reads.many h.within.joins (fun j hj => h.readJoin hj) none
    (fun _ hr => hr.mono fun _ hm => ?_) fun j _ rest => ?_
  · exact List.mem_cons_of_mem _ (List.mem_cons_of_mem _ (List.mem_cons_of_mem _ hm))
  · have text : joinText ⟨j.kind, j.table, j.on.sqlText⟩ ++ rest =
        (" " ++ j.kind.keyword ++ " ").toList ++
          (tableText j.table ++ (" ON ".toList ++ j.on.sqlText) ++ rest) := by
      simp [joinText]
    rw [text]
    cases j.kind <;> exact Starts.of_append (by decide) _

theorem readWhere {words : List String} (hc : closing words = true)
    (hd : distinct " WHERE " words = true) :
    Reads (Reader.clause " WHERE " (parts.expr n)) c.texts.whereText (c.filter.map Expr.erase)
      (Starts words) :=
  Reads.clause (fun e he => (h.exprs e (mem_exprs.mpr (.inr (.inr (.inl he))))).starts hc)
    fun _ hr => hr.excludes hd

theorem readGroupBy : Reads (Readers.listClause n " GROUP BY " (parts.expr n))
    (optionalList " GROUP BY " c.texts.groupBy) (c.groupBy.map Expr.erase)
    (Starts Follow.groupBy) :=
  Reads.listClause h.within.groupBy (by decide) (by decide) fun e he =>
    (h.exprs e (mem_exprs.mpr (.inr (.inr (.inr (.inl he)))))).starts (by decide)

theorem readHaving : Reads (Reader.clause " HAVING " (parts.expr n))
    (optional " HAVING " c.texts.having) (c.having.map Expr.erase) (Starts Follow.having) :=
  Reads.clause (fun e he =>
    (h.exprs e (mem_exprs.mpr (.inr (.inr (.inr (.inr (.inl he))))))).starts (by decide))
    fun _ hr => hr.excludes (by decide)

theorem readOrderBy : Reads (Readers.listClause n " ORDER BY " (parts.orderItem n))
    (optionalList " ORDER BY " (c.texts.orderBy.map orderText))
    (c.orderBy.map fun o => ⟨o.expr.erase, o.direction⟩) (Starts Follow.orderBy) := by
  rw [texts, map, List.map_map]
  refine Reads.listClause h.within.orderBy (by decide) (by decide) fun o ho => ?_
  have expr : Reads (parts.expr n) o.expr.sqlText o.expr.erase (Starts [" ASC", " DESC"]) :=
    (h.exprs o.expr (mem_exprs.mpr (by grind))).starts (by decide)
  refine expr.bind (Reads.direction o.direction).map fun rest _ => ?_
  cases o.direction with
  | ascending => exact .inr ⟨" ASC", by decide, List.prefix_append _ _⟩
  | descending => exact .inr ⟨" DESC", by decide, List.prefix_append _ _⟩

omit h in
theorem readNumber {keyword : String} {number : Option Nat} {words : List String}
    (hw : words.all (fun w => w.toList.head?.any isDelimiter) = true)
    (hd : distinct keyword words = true) :
    Reads (Reader.clause keyword Reader.number) (optional keyword (number.map digits)) number
      (Starts words) := by
  have clause : Reads (Reader.clause keyword Reader.number) (optional keyword (number.map digits))
      (number.map id) (Starts words) :=
    Reads.clause (fun i _ => (Reads.number i).weaken fun _ hr => hr.delimited hw)
      fun _ hr => hr.excludes hd
  rwa [Option.map_id] at clause

omit h in
theorem starts_joins {rest : List Char} (hr : Starts Follow.joins rest) :
    Starts Follow.join (c.texts.joins.flatMap joinText ++ rest) := by
  cases c.texts.joins with
  | nil => exact hr.mono fun _ hm =>
      List.mem_cons_of_mem _ (List.mem_cons_of_mem _ (List.mem_cons_of_mem _ hm))
  | cons j js =>
    have text : (j :: js).flatMap joinText ++ rest = (" " ++ j.kind.keyword ++ " ").toList ++
        (tableText j.table ++ (" ON ".toList ++ (j.on ++ (js.flatMap joinText ++ rest)))) := by
      simp [joinText]
    rw [text]
    cases j.kind with
    | inner => exact .inr ⟨" INNER JOIN ", by decide, List.prefix_append _ _⟩
    | left => exact .inr ⟨" LEFT JOIN ", by decide, List.prefix_append _ _⟩
    | right => exact .inr ⟨" RIGHT JOIN ", by decide, List.prefix_append _ _⟩

omit h in
theorem map_select (hs : c.Suits .select) : c.map Expr.erase Statement.erase =
    { table := c.table, projection := c.projection.map Expr.erase
      joins := c.joins.map fun j => ⟨j.kind, j.table, j.on.erase⟩
      filter := c.filter.map Expr.erase, groupBy := c.groupBy.map Expr.erase
      having := c.having.map Expr.erase
      orderBy := c.orderBy.map fun o => ⟨o.expr.erase, o.direction⟩
      limit := c.limit, offset := c.offset } := by
  obtain ⟨hc, hr, hsrc, ha, hret⟩ := hs
  simp [map, hc, hr, hsrc, ha, hret]

theorem readSelect (hs : c.Suits .select) : Reads (parts.nextStatement n) (c.texts.text .select)
    ⟨.select, c.map Expr.erase Statement.erase⟩ (Starts Follow.offset) := by
  have filter : Reads (Reader.clause " WHERE " (parts.expr n)) c.texts.whereText
      (c.filter.map Expr.erase) (Starts Follow.filter) := h.readWhere (by decide) (by decide)
  have limit : Reads (Reader.clause " LIMIT " Reader.number)
      (optional " LIMIT " (c.limit.map digits)) c.limit (Starts Follow.limit) :=
    readNumber (by decide) (by decide)
  have offset : Reads (Reader.clause " OFFSET " Reader.number)
      (optional " OFFSET " (c.offset.map digits)) c.offset (Starts Follow.offset) :=
    readNumber (by decide) (by decide)
  have whole : Reads (parts.select n)
      ((if c.texts.projection.isEmpty then ['*'] else commaSeparated c.texts.projection) ++
        (optional " FROM " (c.texts.table.map tableText) ++
        (c.texts.joins.flatMap joinText ++
        (c.texts.whereText ++
        (optionalList " GROUP BY " c.texts.groupBy ++
        (optional " HAVING " c.texts.having ++
        (optionalList " ORDER BY " (c.texts.orderBy.map orderText) ++
        (optional " LIMIT " (c.limit.map digits) ++
        optional " OFFSET " (c.offset.map digits)))))))))
      ⟨.select, c.map Expr.erase Statement.erase⟩ (Starts Follow.offset) := by
    rw [map_select hs]
    -- What follows each clause, from the last one on.
    have f₁ : ∀ rest, Starts Follow.offset rest →
        Starts Follow.limit (optional " OFFSET " (c.offset.map digits) ++ rest) :=
      fun rest hr => hr.optional _ _
    have f₂ := fun rest hr => (f₁ rest hr).optional " LIMIT " (c.limit.map digits)
    have f₃ := fun rest hr =>
      (f₂ rest hr).optionalList " ORDER BY " (c.texts.orderBy.map orderText)
    have f₄ := fun rest hr => (f₃ rest hr).optional " HAVING " c.texts.having
    have f₅ := fun rest hr => (f₄ rest hr).optionalList " GROUP BY " c.texts.groupBy
    have f₆ := fun rest hr => (f₅ rest hr).optional " WHERE " c.texts.filter
    have f₇ := fun rest hr => starts_joins (c := c) (f₆ rest hr)
    have f₈ := fun rest hr => (f₇ rest hr).optional " FROM " (c.texts.table.map tableText)
    refine h.readProjection.bind (h.readFrom.bind (h.readJoins.bind (filter.bind
      (h.readGroupBy.bind (h.readHaving.bind (h.readOrderBy.bind (limit.bind offset.map
      f₁) ?_) ?_) ?_) ?_) ?_) ?_) ?_
    all_goals
      intro rest hr
      simp only [List.append_assoc]
    · exact f₂ rest hr
    · exact f₃ rest hr
    · exact f₄ rest hr
    · exact f₅ rest hr
    · exact f₆ rest hr
    · exact f₇ rest hr
    · exact f₈ rest hr
  show Reads _ c.texts.selectText _ _
  unfold selectText
  simp only [List.append_assoc]
  exact (Reads.accept (F := fun _ => True) "SELECT ").bind whole fun _ _ => trivial

/-! ### Statements that change rows -/

theorem readTarget {table : String} (ht : c.table = some { name := table })
    {words : List String} (hw : words.all (fun w => w.toList.head?.any isDelimiter) = true) :
    Reads Reader.name c.texts.targetText table (Starts words) := by
  have target : c.texts.targetText = table.toList := by
    rw [targetText, texts, map, ht]
    rfl
  have hm : ⟨.table, table⟩ ∈ c.ownNames :=
    mem_ownNames.mpr (.inl ⟨_, ht, List.mem_cons_self⟩)
  rw [target]
  exact (Reads.name (h.isName hm (by decide))).weaken fun _ hr => hr.delimited hw

theorem readReturning : Reads (Readers.listClause n " RETURNING " Reader.name)
    c.texts.returningText c.returning (Starts []) := by
  have each : ∀ s ∈ c.returning, Reads Reader.name s.toList (id s) (Starts [", "]) := by
    intro s hs
    have hm : ⟨.returningColumn, s⟩ ∈ c.ownNames :=
      mem_ownNames.mpr (.inr (.inr (.inr (.inr ⟨s, hs, rfl⟩))))
    exact (Reads.name (h.isName hm (by decide))).weaken fun _ hr => hr.delimited (by decide)
  have list : Reads (Readers.listClause n " RETURNING " Reader.name)
      (optionalList " RETURNING " (c.returning.map String.toList)) (c.returning.map id)
      (Starts []) := Reads.listClause h.within.returning (by decide) (by decide) each
  rwa [List.map_id] at list

omit h in
/-- A reader of statements that start with other words gives way to the next. -/
theorem skip {keyword : String} (other : String) {next : Bool → Reader StatementShape}
    {text : List Char} {x : StatementShape} {F : List Char → Prop}
    (hd : distinct keyword [other] = true) (h : Reads (next false) (other.toList ++ text) x F) :
    Reads (Reader.accept keyword >>= next) (other.toList ++ text) x F :=
  Reads.refuse_bind (fun _ _ => Starts.excludes_append other hd) h

theorem readAssignments : Reads (parts.assignments n)
    (commaSeparated (c.texts.assignments.map assignmentText))
    (c.assignments.map fun a => ⟨a.column, a.value.erase⟩)
    (Starts [" WHERE ", " RETURNING "]) := by
  have each : ∀ a ∈ c.assignments, Reads (parts.assignment n)
      (assignmentText ⟨a.column, a.value.sqlText⟩) ⟨a.column, a.value.erase⟩
      (Starts [", ", " WHERE ", " RETURNING "]) := by
    intro a ha
    have hm : ⟨.setColumn, a.column⟩ ∈ c.ownNames :=
      mem_ownNames.mpr (.inr (.inr (.inr (.inl ⟨a, ha, rfl⟩))))
    have value : Reads (parts.expr n) a.value.sqlText a.value.erase
        (Starts [", ", " WHERE ", " RETURNING "]) :=
      (h.exprs a.value (mem_exprs.mpr (by grind))).starts (by decide)
    rw [assignmentText, List.append_assoc]
    refine (Reads.name (h.isName hm (by decide))).bind
      ((Reads.expect (F := fun _ => True) " = ").bind value.map fun _ _ => trivial)
      fun rest _ => ?_
    rintro _ ⟨rfl⟩
    rfl
  rw [texts, map, List.map_map]
  cases ha : c.assignments with
  | nil =>
    intro rest hr
    refine if_neg ?_
    have head : ∀ d ∈ rest.head?, isDelimiter d = true := hr.head (by decide)
    cases rest with
    | nil => exact Bool.false_ne_true
    | cons d rest =>
      have hd := head d rfl
      simp only [isDelimiter, Bool.or_eq_true, beq_iff_eq] at hd
      rcases hd with ((rfl | rfl) | rfl) | rfl <;> exact Bool.false_ne_true
  | cons a as =>
    have list : Reads (Reader.commas n (parts.assignment n))
        (commaSeparated ((a :: as).map (assignmentText ∘ fun a => ⟨a.column, a.value.sqlText⟩)))
        ((a :: as).map fun a => ⟨a.column, a.value.erase⟩) (Starts [" WHERE ", " RETURNING "]) :=
      Reads.commas (List.cons_ne_nil a as) (ha ▸ h.within.assignments) (by decide) fun b hb =>
        each b (ha ▸ hb)
    intro rest hr
    refine (if_pos ?_).trans (list rest hr)
    have hm : ⟨.setColumn, a.column⟩ ∈ c.ownNames :=
      mem_ownNames.mpr (.inr (.inr (.inr (.inl ⟨a, ha ▸ List.mem_cons_self, rfl⟩))))
    have name := h.isName hm (by decide)
    obtain ⟨d, ds, hd, -⟩ := name.isWord.head
    have first := name.head
    rw [List.map_cons, commaSeparated_cons]
    simp only [Function.comp_apply, assignmentText, hd, List.cons_append, List.head?_cons]
    rwa [hd] at first

omit h in
theorem map_update (hs : c.Suits .update) {table : String} (ht : c.table = some { name := table }) :
    c.map Expr.erase Statement.erase =
      { table := some { name := table }, filter := c.filter.map Expr.erase
        assignments := c.assignments.map fun a => ⟨a.column, a.value.erase⟩
        returning := c.returning } := by
  obtain ⟨-, ⟨hp, hj, hg, hh, ho, hl, hof⟩, hc, hr, hsrc⟩ := hs
  simp [map, ht, hp, hj, hg, hh, ho, hl, hof, hc, hr, hsrc]

theorem readUpdate (hs : c.Suits .update) : Reads (parts.nextStatement n) (c.texts.text .update)
    ⟨.update, c.map Expr.erase Statement.erase⟩ (Starts []) := by
  obtain ⟨table, ht⟩ := hs.1
  have target : Reads Reader.name c.texts.targetText table (Starts [" SET "]) :=
    h.readTarget ht (by decide)
  have filter : Reads (Reader.clause " WHERE " (parts.expr n)) c.texts.whereText
      (c.filter.map Expr.erase) (Starts [" RETURNING "]) := h.readWhere (by decide) (by decide)
  have whole : Reads (parts.update n)
      (c.texts.targetText ++ (" SET ".toList ++
        (commaSeparated (c.texts.assignments.map assignmentText) ++
          (c.texts.whereText ++ c.texts.returningText))))
      ⟨.update, c.map Expr.erase Statement.erase⟩ (Starts []) := by
    have f₁ : ∀ rest, Starts [] rest → Starts [" RETURNING "] (c.texts.returningText ++ rest) :=
      fun rest hr => hr.optionalList _ _
    have f₂ := fun rest hr => (f₁ rest hr).optional " WHERE " c.texts.filter
    rw [map_update hs ht]
    refine target.bind ((Reads.expect (F := fun _ => True) " SET ").bind
      (h.readAssignments.bind (filter.bind h.readReturning.map f₁) fun rest hr => ?_)
      fun _ _ => trivial) fun rest _ => ?_
    · rw [List.append_assoc]
      exact f₂ rest hr
    · rw [List.append_assoc]
      exact Starts.of_append List.mem_cons_self _
  show Reads _ c.texts.updateText _ _
  unfold updateText
  simp only [List.append_assoc]
  refine skip "UPDATE " (by decide) (skip "UPDATE " (by decide) ?_)
  exact (Reads.accept (F := fun _ => True) "UPDATE ").bind whole fun _ _ => trivial

omit h in
theorem map_delete (hs : c.Suits .delete) {table : String} (ht : c.table = some { name := table }) :
    c.map Expr.erase Statement.erase =
      { table := some { name := table }, filter := c.filter.map Expr.erase
        returning := c.returning } := by
  obtain ⟨-, ⟨hp, hj, hg, hh, ho, hl, hof⟩, hc, hr, hsrc, ha⟩ := hs
  simp [map, ht, hp, hj, hg, hh, ho, hl, hof, hc, hr, hsrc, ha]

theorem readDelete (hs : c.Suits .delete) : Reads (parts.nextStatement n) (c.texts.text .delete)
    ⟨.delete, c.map Expr.erase Statement.erase⟩ (Starts []) := by
  obtain ⟨table, ht⟩ := hs.1
  have target : Reads Reader.name c.texts.targetText table (Starts [" WHERE ", " RETURNING "]) :=
    h.readTarget ht (by decide)
  have filter : Reads (Reader.clause " WHERE " (parts.expr n)) c.texts.whereText
      (c.filter.map Expr.erase) (Starts [" RETURNING "]) := h.readWhere (by decide) (by decide)
  have whole : Reads (parts.delete n)
      (c.texts.targetText ++ (c.texts.whereText ++ c.texts.returningText))
      ⟨.delete, c.map Expr.erase Statement.erase⟩ (Starts []) := by
    have f₁ : ∀ rest, Starts [] rest → Starts [" RETURNING "] (c.texts.returningText ++ rest) :=
      fun rest hr => hr.optionalList _ _
    have f₂ := fun rest hr => (f₁ rest hr).optional " WHERE " c.texts.filter
    rw [map_delete hs ht]
    refine target.bind (filter.bind h.readReturning.map f₁) fun rest hr => ?_
    rw [List.append_assoc]
    exact f₂ rest hr
  show Reads _ c.texts.deleteText _ _
  unfold deleteText
  simp only [List.append_assoc]
  refine skip "DELETE FROM " (by decide)
    (skip "DELETE FROM " (by decide) (skip "DELETE FROM " (by decide) ?_))
  exact (Reads.expect (F := fun _ => True) "DELETE FROM ").bind whole fun _ _ => trivial

/-! Inserts -/

omit h in
theorem columnsText_eq : c.texts.columnsText = optional " ("
    (c.columns.map fun names => commaSeparated (names.map String.toList) ++ [')']) := by
  rw [columnsText, texts, map]
  cases c.columns with
  | none => rfl
  | some names => exact List.append_assoc _ _ _

theorem readColumns (hc : c.columns ≠ some []) :
    Reads (Reader.clause " (" (Readers.columnList n)) c.texts.columnsText c.columns
      (Starts [" VALUES ", " SELECT ", " RETURNING "]) := by
  have each : ∀ names ∈ c.columns, Reads (Readers.columnList n)
      (commaSeparated (names.map String.toList) ++ [')']) (id names)
      (Starts [" VALUES ", " SELECT ", " RETURNING "]) := by
    intro names hn
    have hm : ∀ s ∈ names, ⟨.insertColumn, s⟩ ∈ c.ownNames := fun s hs =>
      mem_ownNames.mpr (.inr (.inr (.inl ⟨s, by rw [Option.mem_def.mp hn]; exact hs, rfl⟩)))
    have hlen : names.length ≤ n := by
      have := h.within.columns
      rwa [Option.mem_def.mp hn] at this
    have list : Reads (Reader.commas n Reader.name) (commaSeparated (names.map String.toList))
        names (Starts [")"]) :=
      Reads.names hlen (fun he => hc (he ▸ hn)) (by decide)
        (fun s hs => h.isName (hm s hs) (by decide)) (by decide)
    exact list.bind (Reads.expect ")").map fun rest _ => Starts.of_append List.mem_cons_self rest
  have clause : Reads (Reader.clause " (" (Readers.columnList n))
      (optional " (" (c.columns.map fun names => commaSeparated (names.map String.toList) ++ [')']))
      (c.columns.map id) (Starts [" VALUES ", " SELECT ", " RETURNING "]) :=
    Reads.clause each fun _ hr => hr.excludes (by decide)
  rw [columnsText_eq]
  rwa [Option.map_id] at clause

theorem readRows (hr : [] ∉ c.rows) : Reads (Readers.listClause n " VALUES " (parts.row n))
    (optionalList " VALUES " (c.texts.rows.map rowText)) (c.rows.map (·.map Expr.erase))
    (Starts [" SELECT ", " RETURNING "]) := by
  rw [texts, map, List.map_map]
  refine Reads.listClause h.within.rows (by decide) (by decide) fun r hm => ?_
  have list : Reads (Reader.commas n (parts.expr n)) (commaSeparated (r.map Expr.sqlText))
      (r.map Expr.erase) (Starts [")"]) :=
    Reads.commas (fun he => hr (he ▸ hm)) (h.within.row r hm) (by decide) fun e he =>
      (h.exprs e (mem_exprs.mpr (by grind))).starts (by decide)
  refine (Reads.expect (F := fun _ => True) "(").bind (list.bind (Reads.expect ")").map
    fun rest _ => ?_) fun _ _ => trivial
  exact Starts.of_append List.mem_cons_self rest

theorem readSource : Reads parts.source (optional " " c.texts.source)
    (c.source.map Statement.erase) (Starts [" RETURNING "]) := by
  rw [texts, map]
  cases hsrc : c.source with
  | none =>
    refine Reads.ahead_bind false (fun rest hr => ?_) Reads.pure
    rw [Bool.eq_false_iff]
    exact fun hp => hr.excludes (by decide) (List.isPrefixOf_iff_prefix.mp hp)
  | some t =>
    have start := h.sourceStart t hsrc
    refine Reads.ahead_bind true (fun rest _ => ?_) ?_
    · rw [List.isPrefixOf_iff_prefix]
      exact List.cons_prefix_cons.mpr ⟨rfl, start.trans (List.prefix_append _ _)⟩
    · have inner := Reads.weaken (h.source t hsrc) fun rest (hr : Starts [" RETURNING "] rest) =>
        hr.mono (List.subset_cons_self ")" _)
      exact (Reads.expect (F := fun _ => True) " ").bind inner.map fun _ _ => trivial

theorem starts_source {rest : List Char} (hr : Starts [" RETURNING "] rest) :
    Starts [" SELECT ", " RETURNING "] (optional " " c.texts.source ++ rest) := by
  rw [texts, map]
  cases hsrc : c.source with
  | none => exact hr.mono (List.subset_cons_self _ _)
  | some t =>
    have start := h.sourceStart t hsrc
    refine .inr ⟨" SELECT ", List.mem_cons_self, ?_⟩
    exact List.cons_prefix_cons.mpr ⟨rfl, start.trans (List.prefix_append _ _)⟩

omit h in
theorem map_insert (hs : c.Suits .insert) {table : String} (ht : c.table = some { name := table }) :
    c.map Expr.erase Statement.erase =
      { table := some { name := table }, columns := c.columns
        rows := c.rows.map (·.map Expr.erase), source := c.source.map Statement.erase
        returning := c.returning } := by
  obtain ⟨-, ⟨hp, hj, hg, hh, ho, hl, hof⟩, hf, ha, -, -, -⟩ := hs
  simp [map, ht, hp, hj, hg, hh, ho, hl, hof, hf, ha]

theorem readInsert (hs : c.Suits .insert) : Reads (parts.nextStatement n) (c.texts.text .insert)
    ⟨.insert, c.map Expr.erase Statement.erase⟩ (Starts []) := by
  obtain ⟨table, ht⟩ := hs.1
  obtain ⟨-, -, -, -, hc, hne, hrs⟩ := id hs
  have target : Reads Reader.name c.texts.targetText table
      (Starts [" (", " VALUES ", " SELECT ", " RETURNING "]) := h.readTarget ht (by decide)
  have whole : Reads (parts.insert n)
      (c.texts.targetText ++ (c.texts.columnsText ++
        (optionalList " VALUES " (c.texts.rows.map rowText) ++
          (optional " " c.texts.source ++ c.texts.returningText))))
      ⟨.insert, c.map Expr.erase Statement.erase⟩ (Starts []) := by
    have f₁ : ∀ rest, Starts [] rest → Starts [" RETURNING "] (c.texts.returningText ++ rest) :=
      fun rest hr => hr.optionalList _ _
    have f₂ := fun rest hr => h.starts_source (f₁ rest hr)
    have f₃ := fun rest hr => (f₂ rest hr).optionalList " VALUES " (c.texts.rows.map rowText)
    have f₄ := fun rest hr => (f₃ rest hr).optional " ("
      (c.columns.map fun names => commaSeparated (names.map String.toList) ++ [')'])
    rw [map_insert hs ht]
    refine target.bind ((h.readColumns hc).bind ((h.readRows hne).bind
      (h.readSource.bind h.readReturning.map f₁) ?_) ?_) ?_
    all_goals
      intro rest hr
      simp only [List.append_assoc]
    · exact f₂ rest hr
    · exact f₃ rest hr
    · rw [columnsText_eq]
      exact f₄ rest hr
  show Reads _ c.texts.insertText _ _
  unfold insertText
  rw [rowsText_eq (hrs.imp (congrArg (List.map _)) (congrArg (Option.map _)))]
  simp only [List.append_assoc]
  refine skip "INSERT INTO " (by decide) ?_
  exact (Reads.accept (F := fun _ => True) "INSERT INTO ").bind whole fun _ _ => trivial

end Clauses.PartsRead

end TypedSql
