import Mathlib
import TypedSql.Proofs.Checks
import TypedSql.Tree.Sql

/-!
The pages of a query. A page is asked for by its number, counted from one, and by how many rows a
page has; these and the number of rows before the page are 64-bit numbers, and nothing in between
leaves their range. The pages of one length lie side by side: up to the end of any of them, each row
is on exactly one page.
-/

namespace TypedSql

/-! ### 64-bit numbers -/

theorem toInt_sub_one {n : Int64} (h : 1 ≤ n.toInt) : (n - 1).toInt = n.toInt - 1 := by
  have most := n.toInt_lt
  rw [Int64.toInt_sub, Int64.toInt_one]
  exact Int.bmod_eq_of_le (by omega) (by omega)

/-- A product is found if and only if it is the exact one. -/
theorem product?_eq_some_iff {a b c : Int64} :
    product? a b = some c ↔ c.toInt = a.toInt * b.toInt := by
  unfold product?
  dsimp only
  split
  · next inRange =>
    rw [Int64.toInt_minValue, Int64.toInt_maxValue] at inRange
    have unwrapped : (a * b).toInt = a.toInt * b.toInt := by
      rw [Int64.toInt_mul]
      exact Int.bmod_eq_of_le (by omega) (by omega)
    rw [Option.some.injEq, ← unwrapped, Int64.toInt_inj]
    exact eq_comm
  · next outside =>
    refine ⟨nofun, fun h => absurd ?_ outside⟩
    rw [← h]
    exact ⟨c.minValue_le_toInt, c.toInt_le⟩

namespace Select

variable {row : SqlType} {q : Select row} {page perPage : Int64}

/-! ### One page -/

/-- Whether a page can be asked for: pages are counted from one and are not empty, and the number of
rows before the page is a 64-bit number. -/
def IsPage (page perPage : Int64) : Prop :=
  1 ≤ page.toInt ∧ 1 ≤ perPage.toInt ∧ (page.toInt - 1) * perPage.toInt ≤ 2 ^ 63 - 1

instance (page perPage : Int64) : Decidable (IsPage page perPage) :=
  inferInstanceAs (Decidable (_ ∧ _))

/-- The query for the rows of a page. -/
def onPage (q : Select row) (page perPage : Int) : Select row :=
  q.mapClauses fun c =>
    { c with limit := some perPage.toNat, offset := some ((page - 1) * perPage).toNat }

theorem toInt_mul_of_isPage (h : IsPage page perPage) :
    ((page - 1) * perPage).toInt = (page.toInt - 1) * perPage.toInt := by
  obtain ⟨counted, some_row, room⟩ := h
  have least : 0 ≤ (page.toInt - 1) * perPage.toInt :=
    Int.mul_nonneg (by omega) (by omega)
  rw [Int64.toInt_mul, toInt_sub_one counted]
  exact Int.bmod_eq_of_le (by omega) (by omega)

theorem paginate_of_isPage (h : IsPage page perPage) :
    q.paginate page perPage = .ok (q.onPage page.toInt perPage.toInt) := by
  have skipped := toInt_mul_of_isPage h
  have found : product? (page - 1) perPage = some ((page - 1) * perPage) :=
    product?_eq_some_iff.mpr (by rw [skipped, toInt_sub_one h.1])
  obtain ⟨counted, some_row, -⟩ := h
  have least : 0 ≤ ((page - 1) * perPage).toInt :=
    skipped ▸ Int.mul_nonneg (by omega) (by omega)
  rw [paginate, if_neg (by simpa [Int64.lt_iff_toInt_lt] using counted),
    if_neg (by simpa [Int64.lt_iff_toInt_lt] using some_row), found]
  dsimp only
  rw [limit, nonNegative_eq_ok (by omega : 0 ≤ perPage.toInt)]
  show offset _ _ = _
  rw [offset, nonNegative_eq_ok least, skipped]
  rfl

theorem paginate_of_not_isPage (h : ¬ IsPage page perPage) :
    ∃ fault, q.paginate page perPage = .error (.invalidArgument fault) := by
  unfold paginate
  split
  · exact ⟨_, rfl⟩
  · next counted =>
    split
    · exact ⟨_, rfl⟩
    · next some_row =>
      rw [Int64.lt_iff_toInt_lt, Int64.toInt_one, Int.not_lt] at counted some_row
      cases found : product? (page - 1) perPage with
      | none => exact ⟨_, rfl⟩
      | some skipped =>
        have product := product?_eq_some_iff.mp found
        rw [toInt_sub_one counted] at product
        have most := skipped.toInt_lt
        exact absurd ⟨counted, some_row, by omega⟩ h

theorem paginate_eq_ok_iff {q' : Select row} : q.paginate page perPage = .ok q' ↔
    IsPage page perPage ∧ q' = q.onPage page.toInt perPage.toInt := by
  refine ⟨fun h => ?_, fun ⟨h, hq⟩ => hq ▸ paginate_of_isPage h⟩
  by_cases hp : IsPage page perPage
  · rw [paginate_of_isPage hp] at h
    exact ⟨hp, (Except.ok.inj h).symm⟩
  · obtain ⟨fault, refused⟩ := paginate_of_not_isPage (q := q) hp
    rw [refused] at h
    cases h

/-! ### Pages side by side -/

/-- Where the rows that a query asks for begin, among all its rows. -/
def start (q : Select row) : Nat :=
  q.statement.clauses.offset.getD 0

/-- The place behind the rows that a query asks for, if their number is limited. -/
def stop? (q : Select row) : Option Nat :=
  q.statement.clauses.limit.map (q.start + ·)

/-- The places of the rows that a query asks for. -/
def window (q : Select row) : Set Nat :=
  {i | q.start ≤ i ∧ ∀ stop ∈ q.stop?, i < stop}

/-- Queries by page number whose windows lie side by side. -/
structure SideBySide (pages : Int64 → SqlResult (Select row)) : Prop where
  /-- With a page there are all pages before it. -/
  earlier : ∀ {page page' q}, pages page = .ok q → 1 ≤ page' → page' ≤ page →
    ∃ q', pages page' = .ok q'
  first : ∀ {q}, pages 1 = .ok q → q.start = 0
  contiguous : ∀ {page q q'}, pages page = .ok q → pages (page + 1) = .ok q' →
    q.stop? = some q'.start
  disjoint : ∀ {page page' q q'}, pages page = .ok q → pages page' = .ok q' → page ≠ page' →
    Disjoint q.window q'.window
  /-- Each row up to the end of a page is on exactly one page. -/
  covers : ∀ {page q}, pages page = .ok q → ∃ stop, q.stop? = some stop ∧
    ∀ i < stop, ∃! page', ∃ q', pages page' = .ok q' ∧ i ∈ q'.window

theorem IsPage.earlier {page' : Int64} (h : IsPage page perPage) (counted : 1 ≤ page'.toInt)
    (before : page'.toInt ≤ page.toInt) : IsPage page' perPage := by
  obtain ⟨-, some_row, room⟩ := h
  have less : (page'.toInt - 1) * perPage.toInt ≤ (page.toInt - 1) * perPage.toInt :=
    Int.mul_le_mul_of_nonneg_right (by omega) (by omega)
  exact ⟨counted, some_row, by omega⟩

theorem window_onPage {page perPage : Int} (counted : 1 ≤ page) (some_row : 1 ≤ perPage) :
    ∃ start : Nat, (q.onPage page perPage).start = start ∧
      (q.onPage page perPage).stop? = some (start + perPage.toNat) ∧
      (start : Int) = (page - 1) * perPage :=
  ⟨((page - 1) * perPage).toNat, rfl, rfl,
    Int.toNat_of_nonneg (Int.mul_nonneg (by omega) (by omega))⟩

/-- A row is on the page that its place, divided by the length of a page, says. -/
theorem mem_window_onPage {page perPage : Int} (counted : 1 ≤ page) (some_row : 1 ≤ perPage)
    {i : Nat} : i ∈ (q.onPage page perPage).window ↔ (i : Int) / perPage = page - 1 := by
  obtain ⟨start, hstart, hstop, hs⟩ := q.window_onPage counted some_row
  have place : i ∈ (q.onPage page perPage).window ↔ start ≤ i ∧ i < start + perPage.toNat := by
    show _ ≤ i ∧ (∀ stop ∈ _, i < stop) ↔ _
    rw [hstart, hstop]
    simp
  rw [place, Int.ediv_eq_iff_of_pos (by omega), ← hs]
  omega

/-- The number of the page that a row before the end of a page is on. -/
theorem exists_isPage_of_lt {i : Nat} (h : IsPage page perPage)
    (before : (i : Int) < page.toInt * perPage.toInt) :
    ∃ page', IsPage page' perPage ∧ (i : Int) / perPage.toInt = page'.toInt - 1 := by
  have some_row : 0 < perPage.toInt := h.2.1
  have earlier : (i : Int) / perPage.toInt < page.toInt := Int.ediv_lt_of_lt_mul some_row before
  have least : 0 ≤ (i : Int) / perPage.toInt := Int.ediv_nonneg (by omega) (by omega)
  have most := page.toInt_lt
  have number : (Int64.ofInt ((i : Int) / perPage.toInt + 1)).toInt =
      (i : Int) / perPage.toInt + 1 := Int64.toInt_ofInt_of_le (by omega) (by omega)
  exact ⟨Int64.ofInt ((i : Int) / perPage.toInt + 1), h.earlier (by omega) (by omega), by omega⟩

theorem sideBySide_paginate (q : Select row) (perPage : Int64) :
    SideBySide fun page => q.paginate page perPage where
  earlier h counted before := by
    obtain ⟨hp, -⟩ := paginate_eq_ok_iff.mp h
    rw [Int64.le_iff_toInt_le] at counted before
    exact ⟨_, paginate_of_isPage (hp.earlier counted before)⟩
  first h := by
    obtain ⟨hp, rfl⟩ := paginate_eq_ok_iff.mp h
    obtain ⟨start, hstart, -, hs⟩ := q.window_onPage hp.1 hp.2.1
    rw [Int64.toInt_one, Int.sub_self, Int.zero_mul] at hs
    exact hstart.trans (Int.ofNat_eq_zero.mp hs)
  contiguous {page _ _} h h' := by
    obtain ⟨hp, rfl⟩ := paginate_eq_ok_iff.mp h
    obtain ⟨hp', rfl⟩ := paginate_eq_ok_iff.mp h'
    obtain ⟨start, -, hstop, hs⟩ := q.window_onPage hp.1 hp.2.1
    obtain ⟨start', hstart', -, hs'⟩ := q.window_onPage hp'.1 hp'.2.1
    have next : page.toInt = (page + 1).toInt - 1 := by
      rw [← toInt_sub_one hp'.1, Int64.add_sub_cancel]
    rw [← next] at hs'
    rw [hstop, hstart']
    have some_row := hp.2.1
    rw [Int.sub_mul] at hs
    exact congrArg some (by omega)
  disjoint h h' ne := by
    obtain ⟨hp, rfl⟩ := paginate_eq_ok_iff.mp h
    obtain ⟨hp', rfl⟩ := paginate_eq_ok_iff.mp h'
    refine Set.disjoint_left.mpr fun i hi hi' => ne ?_
    rw [mem_window_onPage hp.1 hp.2.1] at hi
    rw [mem_window_onPage hp'.1 hp'.2.1] at hi'
    exact Int64.toInt_inj.mp (by omega)
  covers {page _} h := by
    obtain ⟨hp, rfl⟩ := paginate_eq_ok_iff.mp h
    obtain ⟨start, -, hstop, hs⟩ := q.window_onPage hp.1 hp.2.1
    refine ⟨_, hstop, fun i hi => ?_⟩
    have some_row := hp.2.1
    rw [Int.sub_mul] at hs
    obtain ⟨page', hp', place⟩ := exists_isPage_of_lt hp (i := i) (by omega)
    refine ⟨page', ⟨_, paginate_of_isPage hp', (mem_window_onPage hp'.1 some_row).mpr place⟩, ?_⟩
    rintro other ⟨q', ho, hi⟩
    obtain ⟨hp'', rfl⟩ := paginate_eq_ok_iff.mp ho
    rw [mem_window_onPage hp''.1 some_row] at hi
    exact Int64.toInt_inj.mp (by omega)

end Select

/-- A page is found if and only if its number and its length are positive and the rows before it can
be counted in 64 bits; neither the number of pages before it nor the number of rows in them wraps.
The page has a limit and an offset of its own and all else of the query, everything else is an
invalid argument, and pages of one length lie side by side. -/
theorem pages_of_paginate {row : SqlType} (q : Select row) (perPage : Int64) :
    (∀ page : Int64,
      (1 ≤ page.toInt → (page - 1).toInt = page.toInt - 1) ∧
      (Select.IsPage page perPage →
        ((page - 1) * perPage).toInt = (page.toInt - 1) * perPage.toInt ∧
        q.paginate page perPage = .ok (q.mapClauses fun c =>
          { c with
            limit := some perPage.toInt.toNat
            offset := some ((page.toInt - 1) * perPage.toInt).toNat })) ∧
      (¬ Select.IsPage page perPage →
        ∃ fault, q.paginate page perPage = .error (.invalidArgument fault))) ∧
    Select.SideBySide fun page => q.paginate page perPage :=
  ⟨fun _ => ⟨toInt_sub_one,
    fun h => ⟨Select.toInt_mul_of_isPage h, Select.paginate_of_isPage h⟩,
    Select.paginate_of_not_isPage⟩, q.sideBySide_paginate perPage⟩

/-- With pages of half of all 64-bit numbers there are two pages. The second ends behind the last
row that an offset can name, and the third cannot be asked for. -/
theorem pages_of_paginate_last :
    let users := select.fromTable ⟨"users", none⟩
    let half : Int64 := 4611686018427387904
    (∃ q, users.paginate 2 half = .ok q ∧
      q.statement.toSql =
        "SELECT * FROM users LIMIT 4611686018427387904 OFFSET 4611686018427387904") ∧
    (∃ fault, users.paginate 3 half = .error (.invalidArgument fault)) ∧
    ∃! page, ∃ q, users.paginate page half = .ok q ∧ 9223372036854775807 ∈ q.window := by
  intro users half
  obtain ⟨arithmetic, sideBySide⟩ := pages_of_paginate users half
  have second := ((arithmetic 2).2.1 (by decide)).2
  have third := (arithmetic 3).2.2 (by decide)
  obtain ⟨stop, hstop, covers⟩ := sideBySide.covers second
  refine ⟨⟨_, second, by decide +kernel⟩, third, covers _ ?_⟩
  rw [← Option.some.inj hstop]
  decide

end TypedSql
