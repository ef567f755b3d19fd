import TypedSql.Proofs.Named
import TypedSql.Proofs.Pieces

/-!
The SQL of a tree contains the payloads of its quoted literals, whatever they are, as long as the
names in the tree have no character that opens a string, starts a comment or ends a statement.
-/

namespace TypedSql

open Text

/-! ### The payloads of a tree in terms of those of its parts -/

namespace Expr

variable (type : SqlType)

theorem payloads_literal (value : Value) :
    (Expr.literal value type).payloads = value.payload?.toList := by
  rw [payloads, literals_literal]
  cases h : value.payload? <;> simp [h]

theorem payloads_binary (op : Operator) (left right : Expr) :
    (Expr.binary op left right type).payloads = left.payloads ++ right.payloads := by
  rw [payloads, literals_binary, List.filterMap_append]
  rfl

theorem payloads_call (function : String) (arguments : List Expr) :
    (Expr.call function arguments type).payloads = arguments.flatMap payloads := by
  rw [payloads, literals_call, List.filterMap_flatMap]
  rfl

theorem payloads_caseWhen (branches : List (Expr × Expr)) (otherwise : Option Expr) :
    (Expr.caseWhen branches otherwise type).payloads =
      branches.flatMap (fun b => b.1.payloads ++ b.2.payloads) ++
        otherwise.toList.flatMap payloads := by
  rw [payloads, literals_caseWhen, List.filterMap_append, List.filterMap_flatMap,
    List.filterMap_flatMap]
  simp only [List.filterMap_append]
  rfl

end Expr

theorem Statement.payloads_eq (s : Statement) :
    s.payloads = (s.clauses.map Expr.payloads Statement.payloads).collect := by
  rw [payloads, literals_eq, Clauses.collect_map, Clauses.collect_map]
  simp only [List.filterMap_append, List.filterMap_flatMap]
  rfl

/-! ### Pieces of a statement -/

/-- The names of a tree have no character that means something outside of them. -/
def HarmlessNames (names : List Mention) : Prop :=
  ∀ m ∈ names, m.name.toList.all isHarmless = true

instance : DecidablePred HarmlessNames := fun names =>
  inferInstanceAs (Decidable (∀ m ∈ names, m.name.toList.all isHarmless = true))

theorem HarmlessNames.optional {role : NameRole} {name : Option String}
    (h : HarmlessNames (Mention.optional role name)) :
    ∀ n ∈ name, n.toList.all isHarmless = true :=
  fun n hn => h ⟨role, n⟩ (List.mem_map.mpr ⟨n, Option.mem_toList.mpr hn, rfl⟩)

theorem fits_optional {ι : Type} {keyword : String} {item : Option ι} {text : ι → List Char}
    {payloads : ι → List (List Char)} (hk : Fits Free keyword.toList [] Seat)
    (h : ∀ i ∈ item, Fits Seat (text i) (payloads i) Free) :
    Fits Free (Clauses.optional keyword (item.map text)) (item.toList.flatMap payloads) Free := by
  cases item with
  | none => exact Fits.nil fun _ => id
  | some i => simpa [Clauses.optional] using hk.append (h i rfl)

theorem fits_optionalList {ι : Type} {keyword : String} {items : List ι} {text : ι → List Char}
    {payloads : ι → List (List Char)} (hk : Fits Free keyword.toList [] Seat)
    (h : ∀ i ∈ items, Fits Seat (text i) (payloads i) Free) :
    Fits Free (Clauses.optionalList keyword (items.map text)) (items.flatMap payloads) Free := by
  cases items with
  | nil => exact Fits.nil fun _ => id
  | cons i items => exact hk.append (Fits.commaSeparated h)

theorem fits_names {names : List String} (h : ∀ n ∈ names, n.toList.all isHarmless = true) :
    Fits Seat (commaSeparated (names.map String.toList)) [] Free := by
  have : Fits Seat (commaSeparated (names.map String.toList)) (names.flatMap fun _ => []) Free :=
    Fits.commaSeparated fun n hn => (Fits.fixed (h n hn)).seated
  rwa [List.flatMap_eq_nil_iff.mpr fun _ _ => rfl] at this

theorem fits_tableText {t : Table} (h : HarmlessNames t.names) :
    Fits Free (Clauses.tableText t) [] Free := by
  have name : Fits Free t.name.toList [] Free :=
    Fits.fixed (h _ List.mem_cons_self)
  have aliasChars := HarmlessNames.optional fun m hm => h m (List.mem_cons_of_mem _ hm)
  have aliasText : Fits Free (Clauses.optional " " (t.aliasName.map String.toList))
      (t.aliasName.toList.flatMap fun _ => []) Free :=
    fits_optional (Fits.word (by decide) rfl (by decide)) fun a ha =>
      (Fits.fixed (aliasChars a ha)).seated
  rw [List.flatMap_eq_nil_iff.mpr fun _ _ => rfl] at aliasText
  exact name.append aliasText

/-! ### Trees -/

namespace Expr

variable {e : Expr}

theorem fits_operandText (h : Fits Seat e.sqlText e.payloads Free) :
    Fits Seat e.operandText e.payloads Free := by
  rw [operandText]
  split
  · exact h.parentheses.seated
  · exact h

theorem fits_column {table column : String} {aliasName : Option String} {type : SqlType}
    (h : HarmlessNames (Expr.column table column aliasName type).names) :
    Fits Seat (Expr.column table column aliasName type).sqlText [] Free := by
  rw [names_column] at h
  have tableName : Fits Free table.toList [] Free := Fits.fixed (h _ List.mem_cons_self)
  have point : Fits Free ".".toList [] Free := Fits.word (by decide) rfl (by decide)
  have columnName : Fits Free column.toList [] Free :=
    Fits.fixed (h _ (List.mem_cons_of_mem _ List.mem_cons_self))
  have aliasChars := HarmlessNames.optional fun m hm =>
    h m (List.mem_cons_of_mem _ (List.mem_cons_of_mem _ hm))
  have aliasText : Fits Free (Clauses.optional " AS " (aliasName.map String.toList))
      (aliasName.toList.flatMap fun _ => []) Free :=
    fits_optional (Fits.word (by decide) rfl (by decide)) fun a ha =>
      (Fits.fixed (aliasChars a ha)).seated
  rw [List.flatMap_eq_nil_iff.mpr fun _ _ => rfl] at aliasText
  rw [sqlText_column]
  exact (tableName.append (point.append (columnName.append aliasText))).seated

theorem fits_unary {op : Operator} (ho : op.isUnary = true)
    (h : Fits Seat e.sqlText e.payloads Free) :
    Fits Seat (Expr.unary op e).sqlText e.payloads Free := by
  have symbol : Fits Free (' ' :: op.symbol.toList) [] Free := by
    cases op with
    | isNull => exact Fits.fixed (by decide)
    | isNotNull => exact Fits.fixed (by decide)
    | _ => cases ho
  rw [sqlText_unary, ← List.append_nil e.payloads]
  exact h.append symbol

theorem fits_symbol (op : Operator) :
    Fits Free (' ' :: (op.symbol.toList ++ [' '])) [] Seat := by
  -- A minus and a slash have spaces on both sides, so no comment starts with them.
  have mark : ∀ c, Follows ' ' c → Follows c ' ' → c ≠ '\'' →
      Fits Free [' ', c, ' '] [] Seat := by
    intro c hb ha hc p hp
    have space : Follows p ' ' := by simp [Follows]
    exact ⟨' ', .inl rfl,
      .plain (by decide) space (.plain hc hb (.plain (by decide) ha (.nil ' ')))⟩
  show Fits Free ((' ' :: op.symbol.toList) ++ [' ']) [] Seat
  cases op with
  | sub => exact mark '-' (by simp [Follows]) (by simp [Follows]) (by decide)
  | div => exact mark '/' (by simp [Follows]) (by simp [Follows]) (by decide)
  | _ => exact Fits.harmless_concat (List.all_eq_true.mp (by decide)) (by decide) (by decide)

theorem fits_binary {op : Operator} {l r : Expr} {type : SqlType}
    (hl : Fits Seat l.sqlText l.payloads Free) (hr : Fits Seat r.sqlText r.payloads Free) :
    Fits Seat (Expr.binary op l r type).sqlText (l.payloads ++ r.payloads) Free := by
  have operands := (fits_operandText hl).append ((fits_symbol op).append (fits_operandText hr))
  rw [sqlText_binary]
  simpa using operands.parentheses.seated

theorem fits_call {function : String} {arguments : List Expr} {type : SqlType}
    (hf : function.toList.all isHarmless = true)
    (h : ∀ e ∈ arguments, Fits Seat e.sqlText e.payloads Free) :
    Fits Seat (Expr.call function arguments type).sqlText (arguments.flatMap payloads) Free := by
  rw [sqlText_call]
  exact ((Fits.fixed hf).append (Fits.commaSeparated h).parentheses).seated

theorem fits_caseWhen {branches : List (Expr × Expr)} {otherwise : Option Expr} {type : SqlType}
    (hb : ∀ b ∈ branches, Fits Seat b.1.sqlText b.1.payloads Free ∧
      Fits Seat b.2.sqlText b.2.payloads Free)
    (ho : ∀ e ∈ otherwise, Fits Seat e.sqlText e.payloads Free) :
    Fits Seat (Expr.caseWhen branches otherwise type).sqlText
      (branches.flatMap (fun b => b.1.payloads ++ b.2.payloads) ++
        otherwise.toList.flatMap payloads) Free := by
  have opening : Fits Free "CASE".toList [] Free := Fits.word (by decide) rfl (by decide)
  have when : Fits Free " WHEN ".toList [] Seat := Fits.word (by decide) rfl (by decide)
  have «then» : Fits Free " THEN ".toList [] Seat := Fits.word (by decide) rfl (by decide)
  have ending : Fits Free " END".toList [] Free := Fits.word (by decide) rfl (by decide)
  have all : Fits Free (branches.flatMap fun b => " WHEN ".toList ++ b.1.sqlText ++
      " THEN ".toList ++ b.2.sqlText)
      (branches.flatMap fun b => b.1.payloads ++ b.2.payloads) Free := by
    refine Fits.flatMap fun b hm => ?_
    have := ((when.append (hb b hm).1).append «then»).append (hb b hm).2
    simpa using this
  have last : Fits Free (Clauses.optional " ELSE " (otherwise.map sqlText))
      (otherwise.toList.flatMap payloads) Free :=
    fits_optional (Fits.word (by decide) rfl (by decide)) ho
  rw [sqlText_caseWhen]
  simpa using (((opening.append all).append last).append ending).seated

end Expr

/-- Clauses whose parts are pieces and whose own names are harmless. -/
structure Clauses.FitParts (c : ClauseSet) : Prop where
  exprs : ∀ e ∈ c.exprs, Fits Seat e.sqlText e.payloads Free
  source : ∀ t ∈ c.source, Fits Seat t.sqlText t.payloads Free
  names : HarmlessNames c.ownNames

namespace Clauses.FitParts

variable {c : ClauseSet} (h : c.FitParts)

include h

theorem projection : Fits Seat
    (if c.texts.projection.isEmpty then ['*'] else commaSeparated c.texts.projection)
    (c.projection.flatMap Expr.payloads) Free := by
  have items : ∀ e ∈ c.projection, Fits Seat e.sqlText e.payloads Free :=
    fun e he => h.exprs e (mem_exprs.mpr (.inl he))
  split
  · next hn =>
    rw [List.map_eq_nil_iff.mp (List.isEmpty_iff.mp hn)]
    exact (Fits.fixed (by decide)).seated
  · exact Fits.commaSeparated items

theorem fromText : Fits Free (optional " FROM " (c.texts.table.map tableText)) [] Free := by
  have keyword : Fits Free " FROM ".toList [] Seat := Fits.word (by decide) rfl (by decide)
  have table : ∀ t ∈ c.table, Fits Seat (tableText t) [] Free := fun t ht => by
    refine (fits_tableText fun m hm => h.names m ?_).seated
    simp only [ownNames, List.mem_append, List.mem_flatMap, Option.mem_toList]
    exact .inl (.inl (.inl (.inl ⟨t, ht, hm⟩)))
  have := fits_optional keyword table
  rwa [List.flatMap_eq_nil_iff.mpr fun _ _ => rfl] at this

theorem joins : Fits Free (c.texts.joins.flatMap joinText)
    (c.joins.flatMap fun j => j.on.payloads) Free := by
  rw [texts, map, List.flatMap_map]
  refine Fits.flatMap fun j hj => ?_
  have keyword : Fits Free (' ' :: j.kind.keyword.toList ++ [' ']) [] Free := by
    cases j.kind <;> exact Fits.fixed (by decide)
  have table : Fits Free (tableText j.table) [] Free := by
    refine fits_tableText fun m hm => h.names m ?_
    simp only [ownNames, List.mem_append, List.mem_flatMap]
    exact .inl (.inl (.inl (.inr ⟨j, hj, hm⟩)))
  have on : Fits Free " ON ".toList [] Seat := Fits.word (by decide) rfl (by decide)
  have condition := h.exprs j.on (mem_exprs.mpr (.inr (.inl ⟨j, hj, rfl⟩)))
  simpa [joinText] using ((keyword.append table).append on).append condition

theorem whereText : Fits Free c.texts.whereText (c.filter.toList.flatMap Expr.payloads) Free :=
  fits_optional (Fits.word (by decide) rfl (by decide)) fun e he =>
    h.exprs e (mem_exprs.mpr (.inr (.inr (.inl he))))

theorem groupBy : Fits Free (optionalList " GROUP BY " c.texts.groupBy)
    (c.groupBy.flatMap Expr.payloads) Free :=
  fits_optionalList (Fits.word (by decide) rfl (by decide)) fun e he =>
    h.exprs e (mem_exprs.mpr (.inr (.inr (.inr (.inl he)))))

theorem having : Fits Free (optional " HAVING " c.texts.having)
    (c.having.toList.flatMap Expr.payloads) Free :=
  fits_optional (Fits.word (by decide) rfl (by decide)) fun e he =>
    h.exprs e (mem_exprs.mpr (.inr (.inr (.inr (.inr (.inl he))))))

theorem orderBy : Fits Free (optionalList " ORDER BY " (c.texts.orderBy.map orderText))
    (c.orderBy.flatMap fun o => o.expr.payloads) Free := by
  rw [texts, map, List.map_map]
  refine fits_optionalList (Fits.word (by decide) rfl (by decide)) fun o ho => ?_
  have expr := h.exprs o.expr
    (mem_exprs.mpr (.inr (.inr (.inr (.inr (.inr (.inl ⟨o, ho, rfl⟩)))))))
  have direction : Fits Free (' ' :: o.direction.keyword.toList) [] Free := by
    cases o.direction <;> exact Fits.fixed (by decide)
  have := expr.append direction
  rwa [List.append_nil] at this

omit h in
theorem count {keyword : String} {n : Option Nat} (hk : Fits Free keyword.toList [] Seat) :
    Fits Free (optional keyword (n.map digits)) [] Free := by
  have number : ∀ i ∈ n, Fits Seat (digits i) [] Free := fun i _ =>
    Fits.digits.seated
  have := fits_optional hk number
  rwa [List.flatMap_eq_nil_iff.mpr fun _ _ => rfl] at this

theorem target : Fits Free c.texts.targetText [] Free := by
  rw [targetText, texts, map]
  cases ht : c.table with
  | none => exact Fits.nil fun _ => id
  | some t =>
    refine Fits.fixed (h.names ⟨.table, t.name⟩ ?_)
    simp [ownNames, ht, Table.names]

theorem columnsText : Fits Free c.texts.columnsText [] Free := by
  rw [Clauses.columnsText, texts, map]
  cases hc : c.columns with
  | none => exact Fits.nil fun _ => id
  | some names =>
    have opening : Fits Free " (".toList [] Seat := Fits.word (by decide) rfl (by decide)
    have closing : Fits Free [')'] [] Free := Fits.fixed (by decide)
    have items : ∀ n ∈ names, n.toList.all isHarmless = true := fun n hn =>
      h.names ⟨.insertColumn, n⟩ (by simp [ownNames, hc, hn])
    exact (opening.append (fits_names items)).append closing

theorem returningText : Fits Free c.texts.returningText [] Free := by
  have keyword : Fits Free " RETURNING ".toList [] Seat := Fits.word (by decide) rfl (by decide)
  have items : ∀ n ∈ c.returning, Fits Seat n.toList [] Free := fun n hn =>
    (Fits.fixed (h.names ⟨.returningColumn, n⟩ (by simp [ownNames, hn]))).seated
  have := fits_optionalList keyword items
  rwa [List.flatMap_eq_nil_iff.mpr fun _ _ => rfl] at this

theorem rows : Fits Seat (commaSeparated (c.texts.rows.map rowText))
    (c.rows.flatten.flatMap Expr.payloads) Free := by
  rw [texts, map, List.map_map]
  have : Fits Seat (commaSeparated (c.rows.map (rowText ∘ (·.map Expr.sqlText))))
      (c.rows.flatMap fun r => r.flatMap Expr.payloads) Free := by
    refine Fits.commaSeparated fun r hr => ?_
    refine (Fits.parentheses (Fits.commaSeparated fun e he => ?_)).seated
    exact h.exprs e (mem_exprs.mpr (by grind))
  rwa [List.flatten_eq_flatMap, List.flatMap_assoc]

theorem assignments : Fits Seat (commaSeparated (c.texts.assignments.map assignmentText))
    (c.assignments.flatMap fun a => a.value.payloads) Free := by
  rw [texts, map, List.map_map]
  refine Fits.commaSeparated fun a ha => ?_
  have column : Fits Free a.column.toList [] Free :=
    Fits.fixed (h.names ⟨.setColumn, a.column⟩ (by simp only [ownNames]; grind))
  have equals : Fits Free " = ".toList [] Seat := Fits.word (by decide) rfl (by decide)
  have value := h.exprs a.value (mem_exprs.mpr (by grind))
  exact ((column.append equals).append value).seated

theorem rowsText (hr : c.rows = [] ∨ c.source = none) : Fits Free c.texts.rowsText
    (c.rows.flatten.flatMap Expr.payloads ++ c.source.toList.flatMap Statement.payloads) Free := by
  rw [Clauses.rowsText]
  split
  · next hn =>
    have hn : c.rows = [] := List.map_eq_nil_iff.mp (List.isEmpty_iff.mp hn)
    rw [hn]
    exact fits_optional (Fits.word (by decide) rfl (by decide)) h.source
  · next hn =>
    have hn : c.source = none := hr.resolve_left fun he => hn (by rw [texts, map, he]; rfl)
    have keyword : Fits Free " VALUES ".toList [] Seat := Fits.word (by decide) rfl (by decide)
    rw [hn, Option.toList_none, List.flatMap_nil, List.append_nil]
    exact keyword.append h.rows

/-- The text of a statement of each kind is a piece, in whose strings the payloads stand in the
order of `Clauses.collect`. -/
theorem text {kind : StatementKind} (hs : c.Suits kind) :
    Fits Seat (c.texts.text kind) (c.map Expr.payloads Statement.payloads).collect Free := by
  rw [collect_map]
  cases kind with
  | select =>
    obtain ⟨-, hr, hsrc, ha, -⟩ := hs
    have keyword : Fits Free "SELECT ".toList [] Seat := Fits.word (by decide) rfl (by decide)
    have limit : Fits Free (optional " LIMIT " (c.limit.map digits)) [] Free :=
      count (Fits.word (by decide) rfl (by decide))
    have offset : Fits Free (optional " OFFSET " (c.offset.map digits)) [] Free :=
      count (Fits.word (by decide) rfl (by decide))
    have whole := ((((((((keyword.append h.projection).append h.fromText).append h.joins).append
      h.whereText).append h.groupBy).append h.having).append h.orderBy).append limit).append offset
    refine whole.seated.congr ?_
    simp [hr, hsrc, ha]
  | insert =>
    obtain ⟨-, ⟨hp, hj, hg, hh, ho, -, -⟩, hf, ha, -, -, hrs⟩ := hs
    have keyword : Fits Free "INSERT INTO ".toList [] Seat :=
      Fits.word (by decide) rfl (by decide)
    have whole := ((((keyword.weaken (fun _ => id) fun _ => Seat.free).append h.target).append
      h.columnsText).append (h.rowsText hrs)).append h.returningText
    refine whole.seated.congr ?_
    simp [hp, hj, hf, hg, hh, ho, ha]
  | update =>
    obtain ⟨-, ⟨hp, hj, hg, hh, ho, -, -⟩, -, hr, hsrc⟩ := hs
    have keyword : Fits Free "UPDATE ".toList [] Free := Fits.word (by decide) rfl (by decide)
    have setWord : Fits Free " SET ".toList [] Seat := Fits.word (by decide) rfl (by decide)
    have whole := ((((keyword.append h.target).append setWord).append h.assignments).append
      h.whereText).append h.returningText
    refine whole.seated.congr ?_
    simp [hp, hj, hg, hh, ho, hr, hsrc]
  | delete =>
    obtain ⟨-, ⟨hp, hj, hg, hh, ho, -, -⟩, -, hr, hsrc, ha⟩ := hs
    have keyword : Fits Free "DELETE FROM ".toList [] Free :=
      Fits.word (by decide) rfl (by decide)
    have whole := ((keyword.append h.target).append h.whereText).append h.returningText
    refine whole.seated.congr ?_
    simp [hp, hj, hg, hh, ho, hr, hsrc, ha]

end Clauses.FitParts

/-! ### Trees -/

theorem fits_named :
    (∀ e : Expr, e.Named (fun m => m.name.toList.all isHarmless = true) →
      Fits Seat e.sqlText e.payloads Free) ∧
    ∀ s : Statement, s.Named (fun m => m.name.toList.all isHarmless = true) →
      Fits Seat s.sqlText s.payloads Free := by
  apply named_induction
  case column => exact fun _ _ _ _ h => Expr.fits_column h.names
  case literal =>
    intro value type
    rw [Expr.sqlText_literal, Expr.payloads_literal]
    exact value.fits_literalText
  case unary => exact fun _ _ ho _ h => Expr.fits_unary ho h
  case binary =>
    intro op left right type _ _ _ hl hr
    rw [Expr.payloads_binary]
    exact Expr.fits_binary hl hr
  case call =>
    intro function arguments type hf h
    rw [Expr.payloads_call]
    exact Expr.fits_call hf fun e he => (h e he).2
  case caseWhen =>
    intro branches otherwise type hb ho
    rw [Expr.payloads_caseWhen]
    exact Expr.fits_caseWhen (fun b h => ⟨(hb b h).1.2, (hb b h).2.2⟩) fun e he => (ho e he).2
  case subquery =>
    intro statement type _ h
    rw [Expr.sqlText_subquery, Expr.payloads, Expr.literals_subquery]
    exact h.parentheses.seated
  case statement =>
    intro s h exprs source
    have parts : s.clauses.FitParts := ⟨exprs, source, h.ownNames⟩
    rw [Statement.sqlText_eq, Statement.payloads_eq]
    exact parts.text h.regular.suits

/-- The text of a tree that can be built contains the payloads of its quoted literals in the order
in which the literals are written. -/
theorem literals_contained :
    (∀ s : Statement, s.Buildable → HarmlessNames s.names →
      Contains s.toSql.toList s.payloads) ∧
    ∀ e : Expr, e.Buildable → HarmlessNames e.names → Contains e.toSql.toList e.payloads := by
  constructor
  · intro s hb hn
    -- The start of a text counts as behind a space.
    obtain ⟨q, -, hr⟩ := fits_named.2 s ⟨hb.regular, hn⟩ ' ' (.inl rfl)
    rw [Statement.toSql, String.toList_ofList]
    exact hr.contains
  · intro e hb hn
    obtain ⟨q, -, hr⟩ := fits_named.1 e ⟨hb.regular, hn⟩ ' ' (.inl rfl)
    rw [Expr.toSql, String.toList_ofList]
    exact hr.contains

/-- A payload made to break out of its string stays in it, in a text as well as in a JSON document.
Values of all other types that are written with quotes stand beside it, and two numbers, which are
written without. -/
theorem literals_contained_injection :
    let text := "SELECT '''; DROP TABLE users; --', '\"it''s\"', -7, '2024-02-29', " ++
      "'23:59:60.500', '-0044-03-15T08:05:00', '2024-02-29T08:05:00Z', " ++
      "'67e55044-10b1-426f-9247-bb680e5fe0c8', 'NaN', 'Infinity', '-Infinity', -1.5 " ++
      "FROM users WHERE (users.name = '''; DROP TABLE users; --')"
    let payloads := ["'; DROP TABLE users; --", "\"it's\"", "2024-02-29", "23:59:60.500",
      "-0044-03-15T08:05:00", "2024-02-29T08:05:00Z", "67e55044-10b1-426f-9247-bb680e5fe0c8",
      "NaN", "Infinity", "-Infinity", "'; DROP TABLE users; --"]
    Contains text.toList (payloads.map String.toList) ∧
      Contains "'''; DROP TABLE users; --'".toList ["'; DROP TABLE users; --".toList] := by
  intro text payloads
  let payload := Typed.literal .text (.text "'; DROP TABLE users; --") (.inl rfl)
  let leapDay : Date := { year := 2024, month := 2, day := 29 }
  let ides : Date := { year := -44, month := 3, day := 15 }
  let leapSecond : Time := { hour := 23, minute := 59, second := 59, nanosecond := 1500000000 }
  let morning : Time := { hour := 8, minute := 5, second := 0, nanosecond := 0 }
  let others : List Value := [.json (.string "it's"), .smallInt (-7), .date leapDay,
    .time leapSecond, .timestamp ⟨ides, morning⟩, .timestampTz ⟨leapDay, morning⟩,
    .uuid ⟨0x67e5504410b1426f9247bb680e5fe0c8⟩, .double ⟨0x7ff8000000000000⟩,
    .double ⟨0x7ff0000000000000⟩, .double ⟨0xfff0000000000000⟩, .double ⟨0xbff8000000000000⟩]
  let query := ((select.fromTable ⟨"users", none⟩).filter
    (Typed.predicate .eq (Typed.column .text "users" "name") payload)).projectMany
      (payload.expr :: others.map Expr.ofValue)
  have hp : payload.expr.Buildable := .literal .text _ (.inl rfl)
  have values : ∀ e ∈ others.map Expr.ofValue, e.Buildable := fun e he => by
    obtain ⟨v, -, rfl⟩ := List.mem_map.mp he
    exact .ofValue v
  have hq : query.Buildable :=
    .projectMany (.filter (.fromTable _ (.selectAs _))
      (.comparison rfl (.column .text "users" "name") hp)) (List.forall_mem_cons.mpr ⟨hp, values⟩)
  have statement := literals_contained.1 _ (.select hq) (by decide +kernel)
  have statementText : query.statement.toSql = text := by decide +kernel
  have statementPayloads : query.statement.payloads = payloads.map String.toList := by
    decide +kernel
  rw [statementText, statementPayloads] at statement
  have expr := literals_contained.2 _ hp (by decide +kernel)
  have exprText : payload.expr.toSql = "'''; DROP TABLE users; --'" := by decide +kernel
  have exprPayloads : payload.expr.payloads = ["'; DROP TABLE users; --".toList] := by
    decide +kernel
  rw [exprText, exprPayloads] at expr
  exact ⟨statement, expr⟩

end TypedSql
