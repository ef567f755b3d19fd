import Mathlib.Data.List.Forall2
import TypedSql.Proofs.Operation

/-!
What operations make of the rows of an answer, whatever the rows are read as. They are read one by
one, and the first that cannot be read decides; how many there are is looked at behind that. So an
unreadable row wins over a wrong number of rows, and no row is handed out beside an error. A count
is in the first column of the first row, and the other rows are not looked at.
-/

namespace TypedSql

/-! ### Rows one by one -/

section Reading

variable {α β : Type} {read : α → SqlResult β} {items : List α}

theorem mapM_eq_ok_iff {found : List β} :
    items.mapM read = .ok found ↔ List.Forall₂ (fun x y => read x = .ok y) items found := by
  induction items generalizing found with
  | nil =>
    rw [List.forall₂_nil_left_iff]
    exact ⟨fun h => (Except.ok.inj h).symm, fun h => h ▸ rfl⟩
  | cons x xs ih =>
    rw [List.mapM_cons, bind_eq_ok_iff, List.forall₂_cons_left_iff]
    constructor
    · rintro ⟨y, hy, h⟩
      obtain ⟨ys, hys, h⟩ := bind_eq_ok_iff.mp h
      exact ⟨y, ys, hy, ih.mp hys, (Except.ok.inj h).symm⟩
    · rintro ⟨y, ys, hy, hys, rfl⟩
      exact ⟨y, hy, bind_eq_ok_iff.mpr ⟨ys, ih.mpr hys, rfl⟩⟩

theorem exists_of_forall₂ {R : α → β → Prop} {found : List β} (h : List.Forall₂ R items found) :
    ∀ x ∈ items, ∃ y, R x y := by
  induction h with
  | nil => exact nofun
  | cons hxy _ ih => exact List.forall_mem_cons.mpr ⟨⟨_, hxy⟩, ih⟩

/-- An item that cannot be read, behind items that can. -/
def FirstUnreadable (read : α → SqlResult β) (items : List α) (e : SqlError) : Prop :=
  ∃ before x after, items = before ++ x :: after ∧ (∀ x' ∈ before, ∃ y, read x' = .ok y) ∧
    read x = .error e

theorem firstUnreadable_cons_iff {x : α} {e : SqlError} :
    FirstUnreadable read (x :: items) e ↔
      read x = .error e ∨ (∃ y, read x = .ok y) ∧ FirstUnreadable read items e :=
  exists_split_cons_iff

theorem mapM_eq_error_iff {e : SqlError} :
    items.mapM read = .error e ↔ FirstUnreadable read items e := by
  induction items with
  | nil =>
    refine ⟨fun h => (nomatch h), ?_⟩
    rintro ⟨before, x, after, split, -⟩
    exact absurd split.symm (by simp)
  | cons x xs ih =>
    rw [List.mapM_cons, bind_eq_error_iff, firstUnreadable_cons_iff, ← ih]
    -- Only reading the rest can fail now; putting the first item in front of it cannot.
    have rest (y : β) : (do let ys ← xs.mapM read; pure (y :: ys)) = Except.error e ↔
        xs.mapM read = .error e :=
      bind_eq_error_iff.trans ⟨fun h => h.elim id nofun, .inl⟩
    simp only [rest, exists_and_right]

/-- What comes of reading items one by one: all that they are read as, in their order, if all can be
read, and else the error of the first that cannot. -/
structure ReadsAll (read : α → SqlResult β) (items : List α) (result : SqlResult (List β)) :
    Prop where
  ok : ∀ found, result = .ok found ↔ List.Forall₂ (fun x y => read x = .ok y) items found
  error : ∀ e, result = .error e ↔ FirstUnreadable read items e
  readable : (∃ found, result = .ok found) ↔ ∀ x ∈ items, ∃ y, read x = .ok y

theorem readsAll_mapM (read : α → SqlResult β) (items : List α) :
    ReadsAll read items (items.mapM read) where
  ok _ := mapM_eq_ok_iff
  error _ := mapM_eq_error_iff
  readable := by
    constructor
    · rintro ⟨found, h⟩
      exact exists_of_forall₂ (mapM_eq_ok_iff.mp h)
    · intro readable
      cases h : items.mapM read with
      | ok found => exact ⟨found, rfl⟩
      | error e =>
        obtain ⟨before, x, after, rfl, -, fails⟩ := mapM_eq_error_iff.mp h
        obtain ⟨y, reads⟩ := readable x (List.mem_append_right _ List.mem_cons_self)
        rw [fails] at reads
        cases reads

end Reading

/-! ### The number of rows -/

/-- What is found in rows where there may be one at most and where there must be exactly one, given
what comes of reading them all. -/
structure FindsOne {α : Type} (read : Record → SqlResult α) (rows : List Record)
    (all : SqlResult (List α)) (optional : SqlResult (Option α)) (one : SqlResult α) : Prop where
  unreadable : ∀ e, all = .error e → optional = .error e ∧ one = .error e
  noRow : rows = [] → optional = .ok none ∧ one = .error (.notFound .expectedRow)
  oneRow : ∀ r a, rows = [r] → read r = .ok a → optional = .ok (some a) ∧ one = .ok a
  manyRows : ∀ found, all = .ok found → 2 ≤ rows.length →
    optional = .error (.tooManyRows 1 rows.length) ∧ one = .error (.tooManyRows 1 rows.length)
  alike : rows ≠ [] → one.map some = optional

namespace Backend

variable {σ α : Type} {b : Backend σ} {s s' : σ} {rows : List Record}

theorem findsOne_mapM (read : Record → SqlResult α) (rows : List Record) :
    FindsOne read rows (rows.mapM read) ((rows.mapM read).bind atMostOne)
      (((rows.mapM read).bind atMostOne).bind exactlyOne) where
  unreadable e h := by
    rw [h]
    exact ⟨rfl, rfl⟩
  noRow h := by
    rw [h]
    exact ⟨rfl, rfl⟩
  oneRow r a h ha := by
    rw [h, List.mapM_cons, ha]
    exact ⟨rfl, rfl⟩
  manyRows found h hn := by
    have length := (mapM_eq_ok_iff.mp h).length_eq
    rw [length] at hn ⊢
    rw [h]
    match found, hn with
    | _ :: _ :: _, _ => exact ⟨rfl, rfl⟩
  alike hr := by
    cases h : rows.mapM read with
    | error e => rfl
    | ok found =>
      match found, mapM_eq_ok_iff.mp h with
      | [], reads => exact absurd (List.forall₂_nil_right_iff.mp reads) hr
      | [_], _ => rfl
      | _ :: _ :: _, _ => rfl

/-- Behind a gate that lets it pass, a query is answered with the given rows and read. -/
theorem runFrom_behind {gate : SqlResult Unit} {sql : String} (read : List Record → SqlResult α)
    (passes : gate = .ok ()) (answer : (b.query sql).runFrom s = (some (.ok rows), s')) :
    ((Plan.query sql read).runBehind gate b).runFrom s = (some (read rows), s') := by
  rw [passes]
  show ((Plan.query sql read).run b).runFrom s = _
  rw [Plan.run, Session.runFrom_bind_ofResult, answer]
  rfl

end Backend

/-- Let a backend answer with rows. Whatever they are to be read as: fetching all of them gives what
they are read as, in their order, or the error of the first that cannot be read. That error wins
where one row at most or exactly one is wanted; the number of rows counts only if there is none.
What an insert returns is read like the rows of a query. A count is read from the first column of
the first row, and the other rows are not looked at. -/
theorem rows_of_answer {σ α : Type} (b : Backend σ) (s s' : σ) (rows : List Record)
    (read : Record → SqlResult α) :
    (∀ {row : SqlType} (q : Select row), q.statement.validate = .ok () →
      (b.query q.statement.toSql).runFrom s = (some (.ok rows), s') →
      ∃ all optional one, ReadsAll read rows all ∧ FindsOne read rows all optional one ∧
        (b.readAll q read).runFrom s = (some all, s') ∧
        (b.readOptional q read).runFrom s = (some optional, s') ∧
        (b.readOne q read).runFrom s = (some one, s')) ∧
    (∀ q : Insert, q.statement.validate = .ok () → q.statement.clauses.returning ≠ [] →
      (b.query q.statement.toSql).runFrom s = (some (.ok rows), s') →
      ∃ all, ReadsAll read rows all ∧ (b.readReturning q read).runFrom s = (some all, s')) ∧
    ∀ {row : SqlType} (q : Select row), q.statement.validate = .ok () →
      (b.query ("SELECT COUNT(*) FROM (" ++ q.statement.toSql ++ ") AS count_query")).runFrom s =
        (some (.ok rows), s') →
      (rows = [] → (b.fetchCount q).runFrom s = (some (.error (.notFound .countRow)), s')) ∧
      ∀ r rest, rows = r :: rest →
        (b.fetchCount q).runFrom s = (some (Record.readAt Value.decodeInt64 r 0), s') := by
  refine ⟨fun q valid answer => ?_, fun q valid returns answer => ?_, fun q valid answer => ?_⟩
  · refine ⟨_, _, _, readsAll_mapM read rows, Backend.findsOne_mapM read rows, ?_, ?_, ?_⟩
    · rw [b.readAll_eq]
      exact Backend.runFrom_behind _ valid answer
    · rw [b.readOptional_eq]
      exact Backend.runFrom_behind _ valid answer
    · rw [b.readOne_eq]
      exact Backend.runFrom_behind _ valid answer
  · refine ⟨_, readsAll_mapM read rows, ?_⟩
    rw [b.readReturning_eq, valid]
    exact Backend.runFrom_behind _ (if_neg returns) answer
  · have counted : (b.fetchCount q).runFrom s = (some (Backend.countOf rows), s') := by
      rw [b.fetchCount_eq]
      exact Backend.runFrom_behind _ valid answer
    refine ⟨fun h => ?_, fun r rest h => ?_⟩
    · rw [counted, h]
      rfl
    · rw [counted, h]
      rfl

/-- Three rows, read as texts, of which the second is `NULL` and the third has no column: one row is
wanted, and the error is that of the second row and not that there are too many. It is the same for
the rows that an insert returns; a count is none, since the first row has a text in its place. -/
theorem rows_of_answer_unreadable :
    let rows : List Record := [[.text "ann"], [.null], []]
    let b : Backend Nat := ⟨fun _ n => (some (.ok rows), n + 1), fun _ => pure 0⟩
    let users := select.fromTable ⟨"users", none⟩
    let added := (insertInto "users").returning ["name"]
    let type := RowType.columns [.required .text]
    let fault := SqlError.decode "0" (.unexpectedNull .text)
    users.statement.validate = .ok () ∧ added.statement.validate = .ok () ∧
      (b.fetchOne users type).runFrom 0 = (some (.error fault), 1) ∧
      (b.insertReturning added type).runFrom 0 = (some (.error fault), 1) ∧
      (b.fetchCount users).runFrom 0 =
        (some (.error (.decode "0" (.wrongType .bigInt .text))), 1) := by
  intro rows b users added type fault
  obtain ⟨queries, inserts, counts⟩ := rows_of_answer b 0 1 rows (Record.decode type)
  have first : FirstUnreadable (Record.decode type) rows fault := by
    refine ⟨[[.text "ann"]], [.null], [[]], rfl, fun r hr => ?_, rfl⟩
    rw [List.mem_singleton.mp hr]
    exact ⟨[.text "ann"], rfl⟩
  obtain ⟨all, optional, one, reads, finds, -, -, fetched⟩ := queries users rfl rfl
  obtain ⟨returned, readsReturned, inserted⟩ := inserts added rfl (by decide) rfl
  refine ⟨rfl, rfl, ?_, ?_, (counts users rfl rfl).2 _ _ rfl⟩
  · rw [(finds.unreadable _ ((reads.error _).mpr first)).2] at fetched
    exact fetched
  · rw [(readsReturned.error _).mpr first] at inserted
    exact inserted

end TypedSql
