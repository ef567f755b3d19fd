import TypedSql.Proofs.Operation
import TypedSql.Proofs.Rendering

/-!
The first row of a query. The query is asked for one row in the place of as many as it was limited
to, if it was limited. So it gets the first of its rows, or none if it has none; only a query that
was limited to no rows at all gets a row that is not among its own.
-/

namespace TypedSql

/-! ### Backends that honour limits -/

/-- In the given state the backend answers every query, with the rows that belong to its SQL. -/
def Backend.Answers {σ : Type} (b : Backend σ) (s : σ) (rows : String → List Record) : Prop :=
  ∀ sql, ((b.query sql).runFrom s).1 = some (.ok (rows sql))

namespace Select

variable {row : SqlType}

/-- The query with that many rows at most, or with all its rows. -/
def withLimit (q : Select row) (limit : Option Nat) : Select row :=
  q.mapClauses fun c => { c with limit }

/-- The rows of the query under a limit are the first of its rows without one. -/
def HonoursLimit (rows : String → List Record) (q : Select row) : Prop :=
  ∀ k, rows (q.withLimit (some k)).statement.toSql =
    (rows (q.withLimit none).statement.toSql).take k

theorem withLimit_own (q : Select row) : q.withLimit q.statement.clauses.limit = q := by
  obtain ⟨⟨kind, resultType, c⟩, isSelect, hasRowType⟩ := q
  rfl

/-- What is asked for the first row is answered with the first of the query's own rows. -/
theorem rows_first {q : Select row} {rows : String → List Record} (h : HonoursLimit rows q)
    (hl : q.statement.clauses.limit ≠ some 0) :
    rows q.first.statement.toSql = (rows q.statement.toSql).take 1 := by
  have first : rows q.first.statement.toSql =
      (rows (q.withLimit none).statement.toSql).take 1 := h 1
  have own := q.withLimit_own
  cases hk : q.statement.clauses.limit with
  | none =>
    rw [hk] at own
    rw [first, own]
  | some k =>
    rw [hk] at own
    have limited := h k
    rw [own] at limited
    have positive : k ≠ 0 := fun h0 => hl (h0 ▸ hk)
    rw [first, limited, List.take_take]
    congr 1
    omega

/-- Two limits are written in two ways. -/
theorem limit_of_toSql (q : Select row) {k l : Option Nat}
    (h : (q.withLimit k).statement.toSql = (q.withLimit l).statement.toSql) : k = l := by
  have texts := String.ofList_injective h
  rw [Statement.sqlText_eq, Statement.sqlText_eq, (q.withLimit _).isSelect,
    (q.withLimit _).isSelect] at texts
  change Clauses.selectText _ = Clauses.selectText _ at texts
  unfold Clauses.selectText at texts
  -- All but the limit is written the same.
  have limits : Clauses.optional " LIMIT " (k.map Text.digits) =
      Clauses.optional " LIMIT " (l.map Text.digits) :=
    List.append_cancel_left (List.append_cancel_right texts)
  cases k with
  | none =>
    cases l with
    | none => rfl
    | some l => cases limits
  | some k =>
    cases l with
    | none => cases limits
    | some l =>
      have numbers : Text.digits k = Text.digits l := List.append_cancel_left limits
      rw [← Text.digitsValue_digits k, numbers, Text.digitsValue_digits]

/-- The rows of the query where there is one row, which is left out only if no rows are wanted. -/
def oneRow (q : Select row) (r : Record) (sql : String) : List Record :=
  if sql = (q.withLimit (some 0)).statement.toSql then [] else [r]

theorem oneRow_withLimit (q : Select row) (r : Record) (limit : Option Nat) :
    q.oneRow r (q.withLimit limit).statement.toSql = if limit = some 0 then [] else [r] := by
  unfold oneRow
  by_cases h : limit = some 0
  · rw [h, if_pos rfl, if_pos rfl]
  · rw [if_neg h, if_neg fun he => h (q.limit_of_toSql he)]

theorem honoursLimit_oneRow (q : Select row) (r : Record) : q.HonoursLimit (q.oneRow r) := by
  intro k
  rw [oneRow_withLimit, oneRow_withLimit, if_neg (show none ≠ some 0 by simp)]
  cases k with
  | zero => rfl
  | succ k => simp

end Select

/-! ### Reading the rows -/

/-- Rows that can all be read one by one can be read together, and the first of them is the first
of what is read. -/
theorem head?_of_mapM {α : Type} {read : Record → SqlResult α} {rows : List Record}
    (h : ∀ r ∈ rows, ∃ a, read r = .ok a) :
    ∃ found, rows.mapM read = .ok found ∧
      ((rows.take 1).mapM read).map List.head? = .ok found.head? := by
  induction rows with
  | nil => exact ⟨[], rfl, rfl⟩
  | cons r rs ih =>
    rw [List.forall_mem_cons] at h
    obtain ⟨a, hr⟩ := h.1
    obtain ⟨found, hf, -⟩ := ih h.2
    refine ⟨a :: found, ?_, ?_⟩
    · rw [List.mapM_cons, hr, hf]
      rfl
    · rw [List.take_succ_cons, List.take_zero, List.mapM_cons, hr]
      rfl

namespace Backend

variable {σ α : Type} {b : Backend σ} {s : σ} {rows : String → List Record} {row : SqlType}
  {q : Select row} {read : Record → SqlResult α}

theorem answer_readAll (hb : b.Answers s rows) (hv : q.statement.validate = .ok ()) :
    ((b.readAll q read).runFrom s).1 = some ((rows q.statement.toSql).mapM read) := by
  rw [readAll_eq, hv]
  show (((readPlan q.statement read).run b).runFrom s).1 = _
  rw [readPlan, Plan.run, Session.runFrom_bind_ofResult, hb]
  rfl

theorem answer_readFirst (hb : b.Answers s rows) (hv : q.statement.validate = .ok ()) :
    ((b.readFirst q read).runFrom s).1 =
      some (((rows q.first.statement.toSql).mapM read).map List.head?) := by
  rw [readFirst_eq, hv]
  show ((((readPlan q.first.statement read).andThen _).run b).runFrom s).1 = _
  rw [readPlan, Plan.andThen, Plan.run, Session.runFrom_bind_ofResult, hb]
  rfl

end Backend

/-! ### Main result -/

/-- Let the backend answer each query with rows that honour the limit of the given one, which passes
the check and whose rows can be read, whatever they are read as. Reading the first row then finds
the first of what reading all of them finds, and finds none exactly if there are none, unless the
query is limited to no rows. In that case it has none, and the first row that it would have without
the limit is found in spite of it. -/
theorem readFirst_eq_head? {σ α : Type} {b : Backend σ} {s s' : σ} {rows : String → List Record}
    {row : SqlType} {q : Select row} {read : Record → SqlResult α}
    (valid : q.statement.validate = .ok ()) (answers : b.Answers s rows)
    (answers' : b.Answers s' rows) (honours : q.HonoursLimit rows)
    (readable : ∀ r ∈ rows q.statement.toSql, ∃ a, read r = .ok a) :
    ∃ found, ((b.readAll q read).runFrom s).1 = some (.ok found) ∧
      (q.statement.clauses.limit ≠ some 0 →
        ((b.readFirst q read).runFrom s').1 = some (.ok found.head?) ∧
        (((b.readFirst q read).runFrom s').1 = some (.ok none) ↔ found = [])) ∧
      (q.statement.clauses.limit = some 0 → found = [] ∧
        ∀ r ∈ (rows (q.withLimit none).statement.toSql).head?, ∀ a, read r = .ok a →
          ((b.readFirst q read).runFrom s').1 = some (.ok (some a))) := by
  obtain ⟨found, all, first⟩ := head?_of_mapM readable
  rw [Backend.answer_readAll answers valid, Backend.answer_readFirst answers' valid]
  refine ⟨found, congrArg some all, fun hl => ?_, fun hl => ⟨?_, fun r hr a ha => ?_⟩⟩
  · rw [Select.rows_first honours hl, first]
    exact ⟨rfl, by simp⟩
  · have none := honours 0
    rw [← hl, q.withLimit_own, List.take_zero] at none
    rw [none] at all
    exact (Except.ok.inj all).symm
  · have one : rows q.first.statement.toSql = [r] := by
      refine (honours 1).trans ?_
      rw [List.take_one, hr]
      rfl
    rw [one, List.mapM_cons, ha]
    rfl

/-- A query for two users where there is one. -/
theorem readFirst_eq_head?_two :
    let q := (select.fromTable ⟨"users", none⟩).withLimit (some 2)
    let rows := q.oneRow [.text "ann"]
    let b : Backend Unit := ⟨fun sql => pure (rows sql), fun _ => pure 0⟩
    let type := RowType.columns [.required .text]
    q.statement.validate = .ok () ∧ b.Answers () rows ∧ q.HonoursLimit rows ∧
      (∀ r ∈ rows q.statement.toSql, ∃ r', Record.decode type r = .ok r') ∧
      ∃ found, ((b.fetchAll q type).runFrom ()).1 = some (.ok found) ∧
        ((b.fetchFirst q type).runFrom ()).1 = some (.ok found.head?) := by
  intro q rows b type
  have valid : q.statement.validate = .ok () := rfl
  have answers : b.Answers () rows := fun sql => rfl
  have honours : q.HonoursLimit rows := q.honoursLimit_oneRow _
  have readable : ∀ r ∈ rows q.statement.toSql, ∃ r', Record.decode type r = .ok r' := by
    intro r hr
    rw [show rows q.statement.toSql = [[.text "ann"]] from q.oneRow_withLimit _ (some 2),
      List.mem_singleton] at hr
    exact ⟨[.text "ann"], by rw [hr]; rfl⟩
  obtain ⟨found, all, first, -⟩ := readFirst_eq_head? valid answers answers honours readable
  have limited : q.statement.clauses.limit ≠ some 0 := by
    show some 2 ≠ some 0
    decide
  exact ⟨valid, answers, honours, readable, found, all, (first limited).1⟩

/-- The same query limited to no rows: it has none, and its first row is found. -/
theorem readFirst_ne_head?_none :
    let q := (select.fromTable ⟨"users", none⟩).withLimit (some 0)
    let rows := q.oneRow [.text "ann"]
    let b : Backend Unit := ⟨fun sql => pure (rows sql), fun _ => pure 0⟩
    let type := RowType.columns [.required .text]
    (select.fromTable ⟨"users", none⟩).limit 0 = .ok q ∧
      q.statement.validate = .ok () ∧ b.Answers () rows ∧ q.HonoursLimit rows ∧
      (∀ sql, ∀ r ∈ rows sql, ∃ r', Record.decode type r = .ok r') ∧
      ((b.fetchAll q type).runFrom ()).1 = some (.ok []) ∧
      ((b.fetchFirst q type).runFrom ()).1 = some (.ok (some [.text "ann"])) := by
  intro q rows b type
  have valid : q.statement.validate = .ok () := rfl
  have answers : b.Answers () rows := fun sql => rfl
  have readable : ∀ sql, ∀ r ∈ rows sql, ∃ r', Record.decode type r = .ok r' := by
    intro sql r hr
    have : r = [.text "ann"] := by
      by_cases h : sql = (q.withLimit (some 0)).statement.toSql <;>
        simp_all [rows, Select.oneRow]
    exact ⟨[.text "ann"], by rw [this]; rfl⟩
  refine ⟨rfl, valid, answers, q.honoursLimit_oneRow _, readable, ?_, ?_⟩
  · have none : rows q.statement.toSql = [] := q.oneRow_withLimit _ (some 0)
    rw [Backend.fetchAll, Backend.answer_readAll answers valid, none]
    rfl
  · have one : rows q.first.statement.toSql = [[.text "ann"]] := q.oneRow_withLimit _ (some 1)
    rw [Backend.fetchFirst, Backend.answer_readFirst answers valid, one]
    rfl

end TypedSql
