import TypedSql.Text.Quoted

/-!
The scan of a text by the rule of SQL strings, and texts that contain their payloads: the scan ends
outside of strings and reads the payloads in them, no string starts right behind another or in the
middle of a word, and nothing outside of strings starts a comment or ends a statement.
-/

namespace TypedSql.Text

/-- Where a scan stands. Inside of a string it has read part of the contents; behind a quote in a
string it is not known yet whether the quote closes the string or is the first of two. -/
inductive Place where
  | outside
  | inside (read : List Char)
  | behindQuote (read : List Char)
  deriving DecidableEq, Repr

/-- A scan: where it stands, and the contents of the strings that are known to be closed. -/
structure Scan where
  place : Place := .outside
  closed : List (List Char) := []
  deriving DecidableEq, Repr

namespace Scan

def step (s : Scan) (c : Char) : Scan :=
  match s.place with
  | .outside => if c = '\'' then { s with place := .inside [] } else s
  | .inside read =>
    if c = '\'' then { s with place := .behindQuote read }
    else { s with place := .inside (read ++ [c]) }
  | .behindQuote read =>
    if c = '\'' then { s with place := .inside (read ++ ['\'']) }
    else ⟨.outside, s.closed ++ [read]⟩

def run (s : Scan) (text : List Char) : Scan :=
  text.foldl step s

def isInside (s : Scan) : Prop :=
  ∃ read, s.place = .inside read

/-- The contents of the strings read so far, the last of which the end of the text closes. -/
def contents (s : Scan) : List (List Char) :=
  match s.place with
  | .behindQuote read => s.closed ++ [read]
  | _ => s.closed

@[simp] theorem run_nil (s : Scan) : s.run [] = s := rfl

@[simp] theorem run_cons (s : Scan) (c : Char) (text : List Char) :
    s.run (c :: text) = (s.step c).run text := rfl

theorem run_append (s : Scan) (a b : List Char) : s.run (a ++ b) = (s.run a).run b :=
  List.foldl_append

section Steps

variable {closed : List (List Char)} {read : List Char} {c : Char} (hc : c ≠ '\'')

include hc

theorem step_outside : step ⟨.outside, closed⟩ c = ⟨.outside, closed⟩ := by
  simp [step, hc]

theorem step_inside : step ⟨.inside read, closed⟩ c = ⟨.inside (read ++ [c]), closed⟩ := by
  simp [step, hc]

theorem step_behindQuote : step ⟨.behindQuote read, closed⟩ c = ⟨.outside, closed ++ [read]⟩ := by
  simp [step, hc]

end Steps

end Scan

def scan (text : List Char) : Scan :=
  Scan.run {} text

/-- The text holds exactly the given payloads in its strings and lets nothing out of them. -/
structure Contains (text : List Char) (payloads : List (List Char)) : Prop where
  ends : ¬ (scan text).isInside
  contents : (scan text).contents = payloads
  /-- A string opens at the start or behind a space or a parenthesis. -/
  opens : ∀ before after, text = before ++ '\'' :: after → (scan before).place = .outside →
    before.getLast? = none ∨ before.getLast? = some ' ' ∨ before.getLast? = some '('
  /-- Comment marks and semicolons are inside of strings. -/
  hides : ∀ mark ∈ ["--", "/*", ";"], ∀ before after,
    text = before ++ mark.toList ++ after → (scan before).isInside

/-! ### Texts put together from words and strings -/

/-- Whether one character may follow another outside of strings. -/
def Follows (p c : Char) : Prop :=
  if c = '\'' then p = ' ' ∨ p = '('
  else c ≠ ';' ∧ ¬ (p = '-' ∧ c = '-') ∧ ¬ (p = '/' ∧ c = '*')

/-- Behind the character `p` and outside of strings, the text goes on to `q`, every character
following the one before it, with the given payloads in its strings. -/
inductive Runs : Char → List Char → List (List Char) → Char → Prop
  | nil (p : Char) : Runs p [] [] p
  | plain {p c q : Char} {text : List Char} {payloads : List (List Char)} :
      c ≠ '\'' → Follows p c → Runs c text payloads q → Runs p (c :: text) payloads q
  | quoted {p q : Char} {payload text : List Char} {payloads : List (List Char)} :
      Follows p '\'' → Runs '\'' text payloads q →
      Runs p (quote payload ++ text) (payload :: payloads) q

theorem Runs.append {p q r : Char} {a b : List Char} {as bs : List (List Char)}
    (ha : Runs p a as q) (hb : Runs q b bs r) : Runs p (a ++ b) (as ++ bs) r := by
  induction ha with
  | nil => exact hb
  | plain hc hf _ ih => exact .plain hc hf (ih hb)
  | quoted hf _ ih =>
    rw [List.append_assoc]
    exact .quoted hf (ih hb)

theorem Scan.run_doubleQuotes (closed : List (List Char)) (read payload : List Char) :
    Scan.run ⟨.inside read, closed⟩ (doubleQuotes payload) =
      ⟨.inside (read ++ payload), closed⟩ := by
  induction payload generalizing read with
  | nil => rw [doubleQuotes, run_nil, List.append_nil]
  | cons c payload ih =>
    by_cases hc : c = '\''
    · subst hc
      rw [doubleQuotes, if_pos rfl, run_cons, run_cons, List.append_cons]
      exact ih (read ++ ['\''])
    · rw [doubleQuotes, if_neg hc, run_cons, step_inside hc]
      have := ih (read ++ [c])
      rwa [← List.append_cons] at this

/-- A scan that has read to the character `p` and is outside of strings, or behind the quote that
the last string ends with. -/
structure Scan.Reached (s : Scan) (p : Char) (payloads : List (List Char)) : Prop where
  outside : ¬ s.isInside
  contents : s.contents = payloads
  settled : p ≠ '\'' → s.place = .outside

namespace Scan.Reached

variable {s : Scan} {p : Char} {done : List (List Char)}

theorem step (h : s.Reached p done) {c : Char} (hc : c ≠ '\'') : (s.step c).Reached c done := by
  obtain ⟨place, closed⟩ := s
  cases place with
  | outside =>
    rw [step_outside hc]
    exact ⟨h.outside, h.contents, fun _ => rfl⟩
  | inside read => exact absurd ⟨read, rfl⟩ h.outside
  | behindQuote read =>
    rw [step_behindQuote hc]
    refine ⟨?_, h.contents, fun _ => rfl⟩
    rintro ⟨_, h⟩
    cases h

theorem place (h : s.Reached p done) (hp : Follows p '\'') : s.place = .outside :=
  h.settled (by rintro rfl; simp [Follows] at hp)

theorem quoted (h : s.Reached p done) (hp : Follows p '\'') (payload : List Char) :
    (s.run (quote payload)).Reached '\'' (done ++ [payload]) := by
  have hplace := h.place hp
  obtain ⟨_, closed⟩ := s
  obtain rfl := hplace
  have hrun : Scan.run ⟨.outside, closed⟩ (quote payload) = ⟨.behindQuote payload, closed⟩ := by
    rw [quote, run_cons, run_append]
    exact congrArg (Scan.run · ['\'']) (Scan.run_doubleQuotes closed [] payload)
  rw [hrun]
  refine ⟨?_, congrArg (· ++ [payload]) h.contents, fun h => absurd rfl h⟩
  rintro ⟨_, h⟩
  cases h

theorem run {q : Char} {text : List Char} {payloads : List (List Char)}
    (h : s.Reached p done) (ht : Runs p text payloads q) :
    (s.run text).Reached q (done ++ payloads) := by
  induction ht generalizing s done with
  | nil => simpa using h
  | plain hc _ _ ih => exact ih (h.step hc)
  | quoted hf _ ih =>
    rw [run_append, List.append_cons]
    exact ih (h.quoted hf _)

end Scan.Reached

/-- A character of a string, or the quote that closes it, is read inside of the string or is the
second of two quotes. -/
theorem Scan.inside_of_quoted {closed : List (List Char)} {read payload before rest : List Char}
    {c : Char} (h : doubleQuotes payload ++ ['\''] = before ++ c :: rest) :
    (Scan.run ⟨.inside read, closed⟩ before).isInside ∨
      c = '\'' ∧ (Scan.run ⟨.inside read, closed⟩ before).place ≠ .outside := by
  induction payload generalizing before read with
  | nil =>
    cases before with
    | nil => exact .inl ⟨read, rfl⟩
    | cons b before => simp [doubleQuotes] at h
  | cons d payload ih =>
    by_cases hd : d = '\''
    · subst hd
      rw [doubleQuotes, if_pos rfl] at h
      cases before with
      | nil => exact .inl ⟨read, rfl⟩
      | cons b before =>
        cases before with
        | nil =>
          simp only [List.cons_append, List.nil_append, List.cons.injEq] at h
          obtain ⟨rfl, rfl, -⟩ := h
          exact .inr ⟨rfl, Place.noConfusion⟩
        | cons b' before =>
          simp only [List.cons_append, List.cons.injEq] at h
          obtain ⟨rfl, rfl, h⟩ := h
          exact @ih (read ++ ['\'']) before h
    · rw [doubleQuotes, if_neg hd] at h
      cases before with
      | nil => exact .inl ⟨read, rfl⟩
      | cons b before =>
        simp only [List.cons_append, List.cons.injEq] at h
        obtain ⟨rfl, h⟩ := h
        rw [run_cons, step_inside hd]
        exact ih h

/-- A character that a scan meets outside of strings follows the one before it. -/
theorem Runs.follows {s : Scan} {p q c : Char} {text before after : List Char}
    {done payloads : List (List Char)} (hs : s.Reached p done) (ht : Runs p text payloads q)
    (h : text = before ++ c :: after) (ho : ¬ (s.run before).isInside)
    (hc : c = '\'' → (s.run before).place = .outside) :
    Follows (before.getLast?.getD p) c := by
  induction ht generalizing s done before with
  | nil => simp at h
  | @plain p d _ _ _ hd hf _ ih =>
    cases before with
    | nil =>
      obtain ⟨rfl, -⟩ := List.cons.inj h
      exact hf
    | cons b before =>
      simp only [List.cons_append, List.cons.injEq] at h
      obtain ⟨rfl, h⟩ := h
      rw [List.getLast?_cons]
      exact ih (hs.step hd) h ho hc
  | @quoted p _ payload text _ hf _ ih =>
    have beyond : ∀ x, before = quote payload ++ x → text = x ++ c :: after →
        Follows (before.getLast?.getD p) c := by
      rintro x rfl hx
      rw [Scan.run_append] at ho hc
      have := ih (hs.quoted hf payload) hx ho hc
      simpa [quote, List.getLast?_append, List.getLast?_cons] using this
    rcases List.append_eq_append_iff.mp h with ⟨x, hx, h⟩ | ⟨x, hq, h⟩
    · exact beyond x hx h
    cases x with
    | nil => exact beyond [] (by simpa using hq.symm) h.symm
    | cons d x =>
      obtain ⟨rfl, -⟩ := List.cons.inj h
      cases before with
      | nil =>
        obtain ⟨rfl, -⟩ := List.cons.inj hq
        exact hf
      | cons b before =>
        simp only [quote, List.cons_append, List.cons.injEq] at hq
        obtain ⟨rfl, hq⟩ := hq
        have hplace : s.place = .outside := hs.place hf
        obtain ⟨_, closed⟩ := s
        obtain rfl := hplace
        rcases @Scan.inside_of_quoted closed [] _ _ _ _ hq with hin | ⟨rfl, hin⟩
        · exact absurd hin ho
        · exact absurd (hc rfl) hin

/-- A character that is no quote leaves a scan outside of strings if it was not inside of one. -/
theorem Scan.not_isInside_step {s : Scan} {c : Char} (hs : ¬ s.isInside) (hc : c ≠ '\'') :
    ¬ (s.step c).isInside := by
  obtain ⟨place, closed⟩ := s
  cases place with
  | outside => rwa [step_outside hc]
  | inside read => exact absurd ⟨read, rfl⟩ hs
  | behindQuote read =>
    rw [step_behindQuote hc]
    exact nofun

/-- A text that runs from its start contains its payloads. -/
theorem Runs.contains {q : Char} {text : List Char} {payloads : List (List Char)}
    (h : Runs ' ' text payloads q) : Contains text payloads := by
  have start : Scan.Reached {} ' ' [] := ⟨nofun, rfl, fun _ => rfl⟩
  have reached := start.run h
  refine ⟨reached.outside, reached.contents, fun before after ht hp => ?_,
    fun mark hm before after ht => ?_⟩
  · have hf := h.follows start ht (by rintro ⟨_, hi⟩; rw [scan] at hp; rw [hp] at hi; cases hi)
      fun _ => hp
    simp only [Follows, if_true] at hf
    cases hl : before.getLast? with
    | none => exact .inl rfl
    | some p =>
      rw [hl] at hf
      exact .inr (hf.imp (congrArg some) (congrArg some))
  · refine Classical.byContradiction fun ho => ?_
    simp only [List.mem_cons, List.not_mem_nil, or_false] at hm
    -- The second character of a comment mark would follow the first outside of strings.
    have pair : ∀ a b, a ≠ '\'' → b ≠ '\'' → text = before ++ [a, b] ++ after → Follows a b := by
      intro a b ha hb ht
      have ho' := Scan.not_isInside_step ho ha
      rw [List.append_assoc, List.cons_append, List.append_cons] at ht
      have := h.follows start ht (by rwa [Scan.run_append]) fun h => absurd h hb
      simpa using this
    rcases hm with rfl | rfl | rfl
    · have := pair '-' '-' (by decide) (by decide) ht
      simp [Follows] at this
    · have := pair '/' '*' (by decide) (by decide) ht
      simp [Follows] at this
    · have := h.follows start (c := ';') (by simpa using ht) ho fun h => absurd h (by decide)
      simp [Follows] at this

end TypedSql.Text
