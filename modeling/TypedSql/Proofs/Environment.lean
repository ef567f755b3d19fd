import Mathlib.Data.List.Induction
import TypedSql.Proofs.Checks
import TypedSql.Proofs.DigitRuns
import TypedSql.Session.Config

/-!
What the environment may say about time. A variable that is set must spell a number of milliseconds,
in digits with white space around them; then the configuration has that time, and else the first
variable that does not spell one is the error.
-/

namespace TypedSql

/-! ### White space around a text -/

namespace Text

variable {text core before after rest : List Char}

/-- Nothing but white space. -/
def AllBlank (text : List Char) : Prop :=
  ∀ c ∈ text, c.toNat ∈ whiteSpace

/-- No white space at the beginning. -/
def Unindented (text : List Char) : Prop :=
  ∀ c ∈ text.head?, c.toNat ∉ whiteSpace

theorem trimLeft_append (blank : AllBlank before) (h : Unindented rest) :
    trimLeft (before ++ rest) = rest := by
  rw [trimLeft, List.dropWhile_append_of_pos fun c hc => isBlankChar_iff.mpr (blank c hc)]
  cases rest with
  | nil => rfl
  | cons c rest => exact List.dropWhile_cons_of_neg fun hc => h c rfl (isBlankChar_iff.mp hc)

theorem exists_trimLeft (text : List Char) :
    ∃ before, text = before ++ trimLeft text ∧ AllBlank before ∧ Unindented (trimLeft text) := by
  refine ⟨text.takeWhile isBlankChar, List.takeWhile_append_dropWhile.symm,
    fun c hc => isBlankChar_iff.mp (List.all_eq_true.mp List.all_takeWhile c hc), fun c hc => ?_⟩
  have first := List.head?_dropWhile_not isBlankChar text
  rw [← trimLeft, hc] at first
  exact isBlankChar_eq_false_iff.mp first

/-- Trimming takes away the white space on both sides and nothing else. -/
theorem trim_eq_iff : trim text = core ↔ ∃ before after, text = before ++ (core ++ after) ∧
    AllBlank before ∧ AllBlank after ∧ Unindented core ∧ Unindented core.reverse := by
  constructor
  · rintro rfl
    obtain ⟨before, hb, blankBefore, first⟩ := exists_trimLeft text
    obtain ⟨after, ha, blankAfter, last⟩ := exists_trimLeft (trimLeft text).reverse
    have split : trimLeft text = trim text ++ after.reverse := by
      rw [trim, ← List.reverse_append, ← ha, List.reverse_reverse]
    refine ⟨before, after.reverse, split ▸ hb, blankBefore,
      fun c hc => blankAfter c (List.mem_reverse.mp hc), fun c hc => first c ?_, ?_⟩
    · rw [split, List.head?_append, Option.mem_def.mp hc]
      rfl
    · rwa [trim, List.reverse_reverse]
  · rintro ⟨before, after, rfl, blankBefore, blankAfter, first, last⟩
    rw [trim]
    cases core with
    | nil =>
      -- nothing but white space, so where it is parted makes no difference
      have blank : AllBlank (before ++ after) :=
        List.forall_mem_append.mpr ⟨blankBefore, blankAfter⟩
      rw [List.nil_append, ← List.append_nil (before ++ after), trimLeft_append blank first]
      rfl
    | cons c core =>
      have front : Unindented (c :: core ++ after) := first
      have blankBehind : AllBlank after.reverse := fun d hd => blankAfter d (List.mem_reverse.mp hd)
      rw [trimLeft_append blankBefore front, List.reverse_append, trimLeft_append blankBehind last,
        List.reverse_reverse]

end Text

open Text

/-! ### Numbers of milliseconds -/

/-- The digits denote the number, each place worth ten of the next. -/
inductive Denotes : List Char → Nat → Prop
  | nil : Denotes [] 0
  | place {ds : List Char} {n : Nat} {c : Char} : Denotes ds n → c.isDigit = true →
      Denotes (ds ++ [c]) (10 * n + (c.toNat - '0'.toNat))

theorem denotes_iff {ds : List Char} {n : Nat} :
    Denotes ds n ↔ AllDigits ds ∧ digitsValue ds = n := by
  constructor
  · intro h
    induction h with
    | nil => exact ⟨nofun, rfl⟩
    | place _ last ih =>
      exact ⟨ih.1.append (List.forall_mem_singleton.mpr last),
        by rw [digitsValue_concat, ih.2, digitValue]⟩
  · rintro ⟨digit, rfl⟩
    induction ds using List.reverseRecOn with
    | nil => exact .nil
    | append_singleton ds c ih =>
      rw [digitsValue_concat]
      exact .place (ih fun d hd => digit d (List.mem_append_left _ hd)) (digit c (by simp))

theorem readDigits?_eq_some_iff {ds : List Char} {n : Nat} :
    readDigits? ds = some n ↔ ds ≠ [] ∧ Denotes ds n := by
  rw [denotes_iff, readDigits?]
  cases ds with
  | nil => simp
  | cons d ds => simp [AllDigits]

/-- A plus sign in front of digits may be left out. -/
theorem readDigits?_unsigned_iff {cs : List Char} {n : Nat} :
    readDigits? (match cs with | '+' :: ds => ds | ds => ds) = some n ↔
      ∃ sign ds, cs = sign ++ ds ∧ (sign = [] ∨ sign = ['+']) ∧ ds ≠ [] ∧ Denotes ds n := by
  rw [readDigits?_eq_some_iff]
  constructor
  · intro h
    split at h
    · exact ⟨['+'], _, rfl, .inr rfl, h⟩
    · exact ⟨[], _, rfl, .inl rfl, h⟩
  · rintro ⟨sign, ds, rfl, rfl | rfl, h⟩
    · rw [List.nil_append]
      split
      · -- no run of digits begins with a plus sign
        have digit := (denotes_iff.mp h.2).1 '+' List.mem_cons_self
        exact absurd digit (by decide)
      · exact h
    · exact h

namespace Config

variable {raw key : String} {n : Nat} {value : Option String}

/-- The text spells a number of milliseconds below `2 ^ 64`: digits, at least one, with or without a
plus sign in front of them and with any white space around it all. -/
def Spells (raw : String) (n : Nat) : Prop :=
  ∃ before sign ds after, raw.toList = before ++ (sign ++ ds ++ after) ∧ AllBlank before ∧
    AllBlank after ∧ (sign = [] ∨ sign = ['+']) ∧ ds ≠ [] ∧ Denotes ds n ∧ n < 2 ^ 64

theorem milliseconds?_eq_some_iff : milliseconds? raw = some n ↔ Spells raw n := by
  have bounded : ∀ m : Nat, (if m < UInt64.size then some m else none) = some n ↔
      m = n ∧ m < 2 ^ 64 := by
    intro m
    split <;> grind
  constructor
  · intro h
    obtain ⟨m, read, h⟩ := Option.bind_eq_some_iff.mp h
    obtain ⟨rfl, room⟩ := (bounded m).mp h
    obtain ⟨sign, ds, core, plus, hne, denotes⟩ := readDigits?_unsigned_iff.mp read
    obtain ⟨before, after, split, blankBefore, blankAfter, -⟩ := trim_eq_iff.mp core
    exact ⟨before, sign, ds, after, split, blankBefore, blankAfter, plus, hne, denotes, room⟩
  · rintro ⟨before, sign, ds, after, split, blankBefore, blankAfter, plus, hne, denotes, room⟩
    have visible : ∀ c ∈ sign ++ ds, c.toNat ∉ whiteSpace := by
      refine List.forall_mem_append.mpr ⟨?_, fun c hc => isBlankChar_eq_false_iff.mp
        (not_isBlankChar_of_isDigit ((denotes_iff.mp denotes).1 c hc))⟩
      rcases plus with rfl | rfl
      · exact nofun
      · exact List.forall_mem_singleton.mpr (by decide)
    have core : trim raw.toList = sign ++ ds :=
      trim_eq_iff.mpr ⟨before, after, split, blankBefore, blankAfter,
        fun c hc => visible c (List.mem_of_mem_head? hc),
        fun c hc => visible c (List.mem_reverse.mp (List.mem_of_mem_head? hc))⟩
    have read := readDigits?_unsigned_iff.mpr ⟨sign, ds, core, plus, hne, denotes⟩
    exact Option.bind_eq_some_iff.mpr ⟨n, read, (bounded n).mpr ⟨rfl, room⟩⟩

/-! ### Variables -/

/-- What a variable, which may be absent, sets: the milliseconds that it spells, each of a million
nanoseconds. -/
inductive Sets : Option String → Option Duration → Prop
  | absent : Sets none none
  | present {raw : String} {n : Nat} : Spells raw n → Sets (some raw) (some ⟨n * 1000000⟩)

/-- The variable is there and spells no number of milliseconds. -/
def Malformed (value : Option String) (raw : String) : Prop :=
  value = some raw ∧ ∀ n, ¬ Spells raw n

theorem spanOf_eq_ok_iff {span : Option Duration} :
    spanOf key value = .ok span ↔ Sets value span := by
  constructor
  · intro h
    unfold spanOf at h
    split at h
    · exact Except.ok.inj h ▸ .absent
    · split at h
      · next n read => exact Except.ok.inj h ▸ .present (milliseconds?_eq_some_iff.mp read)
      · cases h
  · rintro (_ | spells)
    · rfl
    · rw [spanOf, milliseconds?_eq_some_iff.mpr spells]
      rfl

theorem spanOf_eq_error_iff {e : SqlError} : spanOf key value = .error e ↔
    ∃ raw, Malformed value raw ∧ e = .invalidArgument (.notMilliseconds key raw) := by
  constructor
  · intro h
    unfold spanOf at h
    split at h
    · cases h
    · next raw =>
      split at h
      · cases h
      · next unread =>
        refine ⟨raw, ⟨rfl, fun n spells => ?_⟩, (Except.error.inj h).symm⟩
        rw [milliseconds?_eq_some_iff.mpr spells] at unread
        cases unread
  · rintro ⟨raw, ⟨rfl, spellsNone⟩, rfl⟩
    have unread : milliseconds? raw = none :=
      Option.eq_none_iff_forall_ne_some.mpr fun n read =>
        spellsNone n (milliseconds?_eq_some_iff.mp read)
    rw [spanOf, unread]

theorem exists_sets_iff :
    (∃ span, Sets value span) ↔ ∀ raw, value = some raw → ∃ n, Spells raw n := by
  constructor
  · rintro ⟨_, _ | spells⟩ raw h
    · cases h
    · exact Option.some.inj h ▸ ⟨_, spells⟩
  · intro h
    cases value with
    | none => exact ⟨none, .absent⟩
    | some raw =>
      obtain ⟨n, spells⟩ := h raw rfl
      exact ⟨_, .present spells⟩

theorem exists_sets_iff_not_malformed :
    (∃ span, Sets value span) ↔ ∀ raw, ¬ Malformed value raw := by
  simp only [exists_sets_iff, Malformed, not_and, not_forall, not_not]

theorem ofEnvironment_eq_ok_iff {lookup : String → Option String} {config : Config} :
    ofEnvironment lookup = .ok config ↔ ∃ timeout slow,
      Sets (lookup timeoutVariable) timeout ∧ Sets (lookup slowVariable) slow ∧
      config = { ({} : Config) with queryTimeout := timeout, slowThreshold := slow } := by
  refine bind_eq_ok_iff.trans ⟨?_, ?_⟩
  · rintro ⟨timeout, first, h⟩
    obtain ⟨slow, second, h⟩ := bind_eq_ok_iff.mp h
    exact ⟨timeout, slow, spanOf_eq_ok_iff.mp first, spanOf_eq_ok_iff.mp second,
      (Except.ok.inj h).symm⟩
  · rintro ⟨timeout, slow, first, second, rfl⟩
    exact ⟨timeout, spanOf_eq_ok_iff.mpr first,
      bind_eq_ok_iff.mpr ⟨slow, spanOf_eq_ok_iff.mpr second, rfl⟩⟩

theorem ofEnvironment_eq_error_iff {lookup : String → Option String} {e : SqlError} :
    ofEnvironment lookup = .error e ↔ ∃ key raw, Malformed (lookup key) raw ∧
      (key = timeoutVariable ∨
        key = slowVariable ∧ ∀ raw, ¬ Malformed (lookup timeoutVariable) raw) ∧
      e = .invalidArgument (.notMilliseconds key raw) := by
  refine bind_eq_error_iff.trans ⟨?_, ?_⟩
  · rintro (first | ⟨timeout, sets, h⟩)
    · obtain ⟨raw, malformed, rfl⟩ := spanOf_eq_error_iff.mp first
      exact ⟨_, raw, malformed, .inl rfl, rfl⟩
    · have clean := exists_sets_iff_not_malformed.mp ⟨timeout, spanOf_eq_ok_iff.mp sets⟩
      obtain second | ⟨_, _, h⟩ := bind_eq_error_iff.mp h
      · obtain ⟨raw, malformed, rfl⟩ := spanOf_eq_error_iff.mp second
        exact ⟨_, raw, malformed, .inr ⟨rfl, clean⟩, rfl⟩
      · cases h
  · rintro ⟨key, raw, malformed, rfl | ⟨rfl, clean⟩, rfl⟩
    · exact .inl (spanOf_eq_error_iff.mpr ⟨raw, malformed, rfl⟩)
    · obtain ⟨timeout, sets⟩ := exists_sets_iff_not_malformed.mpr clean
      exact .inr ⟨timeout, spanOf_eq_ok_iff.mpr sets,
        bind_eq_error_iff.mpr (.inl (spanOf_eq_error_iff.mpr ⟨raw, malformed, rfl⟩))⟩

end Config

open Config in
/-- The environment gives a configuration if and only if each of the two variables is absent or
spells a number of milliseconds. The configuration then has exactly these times and is the usual one
in all else. Otherwise the error names the first variable that spells none and shows its text as it
is, white space included. -/
theorem config_of_environment (lookup : String → Option String) :
    ((∃ config, ofEnvironment lookup = .ok config) ↔
      ∀ key ∈ ["SQLFORGE_QUERY_TIMEOUT_MS", "SQLFORGE_SLOW_QUERY_MS"],
        ∀ raw, lookup key = some raw → ∃ n, Spells raw n) ∧
    (∀ config, ofEnvironment lookup = .ok config ↔ ∃ timeout slow,
      Sets (lookup "SQLFORGE_QUERY_TIMEOUT_MS") timeout ∧
      Sets (lookup "SQLFORGE_SLOW_QUERY_MS") slow ∧
      config = { ({} : Config) with queryTimeout := timeout, slowThreshold := slow }) ∧
    ∀ e, ofEnvironment lookup = .error e ↔ ∃ key raw, Malformed (lookup key) raw ∧
      (key = "SQLFORGE_QUERY_TIMEOUT_MS" ∨ key = "SQLFORGE_SLOW_QUERY_MS" ∧
        ∀ raw, ¬ Malformed (lookup "SQLFORGE_QUERY_TIMEOUT_MS") raw) ∧
      e = .invalidArgument (.notMilliseconds key raw) ∧
      e.message =
        "Invalid argument: " ++ (key ++ " must be milliseconds, got " ++ Text.escaped raw) := by
  rw [← timeoutVariable, ← slowVariable]
  refine ⟨?_, fun _ => ofEnvironment_eq_ok_iff, fun e => ?_⟩
  · simp only [List.forall_mem_cons, ← exists_sets_iff, ofEnvironment_eq_ok_iff]
    constructor
    · rintro ⟨_, timeout, slow, first, second, -⟩
      exact ⟨⟨timeout, first⟩, ⟨slow, second⟩, nofun⟩
    · rintro ⟨⟨timeout, first⟩, ⟨slow, second⟩, -⟩
      exact ⟨_, timeout, slow, first, second, rfl⟩
  · rw [ofEnvironment_eq_error_iff]
    constructor
    · rintro ⟨key, raw, malformed, first, rfl⟩
      exact ⟨key, raw, malformed, first, rfl, rfl⟩
    · rintro ⟨key, raw, malformed, first, rfl, -⟩
      exact ⟨key, raw, malformed, first, rfl⟩

open Config in
/-- The greatest number of milliseconds with a plus sign, a zero in front and white space of two
sorts around it; the next number, which is refused; and a plus sign without digits beside it, which
is refused first and shown with its blank. -/
theorem config_of_environment_limit :
    let most := "\u2003+018446744073709551615\n"
    let beyond := "18446744073709551616"
    let given (timeout slow : Option String) (key : String) : Option String :=
      if key = timeoutVariable then timeout else slow
    (∀ key ∈ ["SQLFORGE_QUERY_TIMEOUT_MS", "SQLFORGE_SLOW_QUERY_MS"], ∀ raw,
      given most none key = some raw → ∃ n, Spells raw n) ∧
    ofEnvironment (given most none) =
      .ok { queryTimeout := some ⟨18446744073709551615000000⟩ } ∧
    ofEnvironment (given none beyond) =
      .error (.invalidArgument (.notMilliseconds "SQLFORGE_SLOW_QUERY_MS" beyond)) ∧
    ∃ e, ofEnvironment (given " +" beyond) = .error e ∧ e.message =
      "Invalid argument: SQLFORGE_QUERY_TIMEOUT_MS must be milliseconds, got \" +\"" := by
  intro most beyond given
  obtain ⟨succeeds, reads, -⟩ := config_of_environment (given most none)
  obtain ⟨-, -, second⟩ := config_of_environment (given none beyond)
  obtain ⟨-, -, first⟩ := config_of_environment (given " +" beyond)
  have spells : Spells most 18446744073709551615 :=
    milliseconds?_eq_some_iff.mp (by decide +kernel)
  have malformed {raw : String} (unread : milliseconds? raw = none) : Malformed (some raw) raw :=
    ⟨rfl, fun n h => nomatch unread.symm.trans (milliseconds?_eq_some_iff.mpr h)⟩
  have found := (reads _).mpr ⟨_, _, .present spells, .absent, rfl⟩
  have tooLarge := (second _).mpr ⟨slowVariable, beyond, malformed (by decide +kernel),
    .inr ⟨rfl, fun _ h => nomatch h.1⟩, rfl, rfl⟩
  have unsigned := (first _).mpr ⟨timeoutVariable, " +", malformed (by decide +kernel), .inl rfl,
    rfl, rfl⟩
  exact ⟨succeeds.mp ⟨_, found⟩, found, tooLarge, _, unsigned, by decide +kernel⟩

end TypedSql
