import TypedSql.Value.Basic

/-!
The parts that the texts of numbers are put together from: runs of digits with points in them, a
minus sign in front and an exponent behind.
-/

namespace TypedSql

open Text

/-- A run of digits and points, not an empty one. -/
structure IsPlainNumber (w : List Char) : Prop where
  nonempty : w ≠ []
  chars : ∀ c ∈ w, c.isDigit = true ∨ c = '.'

theorem isPlainNumber_digits (n : Nat) : IsPlainNumber (digits n) :=
  ⟨digits_ne_nil n, fun _ h => .inl (isDigit_of_mem_digits h)⟩

theorem isDigit_of_mem_zeros {n : Nat} {c : Char} (h : c ∈ List.replicate n '0') :
    c.isDigit = true := by
  obtain rfl := List.eq_of_mem_replicate h
  rfl

theorem isDigit_of_mem_padded {width n : Nat} {c : Char} (h : c ∈ padded width n) :
    c.isDigit = true := by
  rcases List.mem_append.mp h with h | h
  · exact isDigit_of_mem_zeros h
  · exact isDigit_of_mem_digits h

theorem isPlainNumber_split {ds : List Char} (h : ∀ c ∈ ds, c.isDigit = true) (n : Nat) :
    IsPlainNumber (ds.take n ++ '.' :: ds.drop n) := by
  refine ⟨by simp, fun c hc => ?_⟩
  rcases List.mem_append.mp hc with hc | hc
  · exact .inl (h c (List.mem_of_mem_take hc))
  rcases List.mem_cons.mp hc with rfl | hc
  · exact .inr rfl
  · exact .inl (h c (List.mem_of_mem_drop hc))

/-- The text of a decimal is a plain number, with a minus sign if the decimal has one. -/
theorem Decimal.toText_eq (d : Decimal) : ∃ body, IsPlainNumber body ∧
    d.toText = if d.negative then '-' :: body else body := by
  refine ⟨_, ?_, rfl⟩
  split
  · refine ⟨List.append_ne_nil_of_right_ne_nil _ (digits_ne_nil _), fun c hc => ?_⟩
    exact .inl (isDigit_of_mem_padded hc)
  · exact isPlainNumber_split (fun _ => isDigit_of_mem_padded) _

namespace Double

theorem isPlainNumber_positional {ds : List Char} {whole : Int} (h : ∀ c ∈ ds, c.isDigit = true) :
    IsPlainNumber (positional ds whole) := by
  unfold positional
  split
  · refine ⟨by simp, fun c hc => ?_⟩
    simp only [List.mem_append, List.mem_cons, List.not_mem_nil, or_false] at hc
    rcases hc with ((rfl | rfl) | hc) | hc
    · exact .inl rfl
    · exact .inr rfl
    · exact .inl (isDigit_of_mem_zeros hc)
    · exact .inl (h c hc)
  dsimp only
  split
  · refine ⟨by simp, fun c hc => ?_⟩
    simp only [List.mem_append, List.mem_cons, List.not_mem_nil, or_false] at hc
    rcases hc with (hc | hc) | rfl | rfl
    · exact .inl (h c hc)
    · exact .inl (isDigit_of_mem_zeros hc)
    · exact .inr rfl
    · exact .inl rfl
  · exact isPlainNumber_split h _

theorem exponential_eq {ds : List Char} (exponent : Int) (hne : ds ≠ [])
    (h : ∀ c ∈ ds, c.isDigit = true) : ∃ front, IsPlainNumber front ∧
      exponential [] ds exponent = front ++ 'e' :: signedDigits exponent := by
  unfold exponential
  dsimp only
  refine ⟨_, ⟨?_, fun c hc => ?_⟩, by rw [ite_self, List.nil_append]⟩
  · cases ds with
    | nil => exact absurd rfl hne
    | cons d ds => exact List.cons_ne_nil _ _
  rcases List.mem_append.mp hc with hc | hc
  · exact .inl (h c (List.mem_of_mem_take hc))
  split at hc
  · cases hc
  rcases List.mem_cons.mp hc with rfl | hc
  · exact .inr rfl
  · exact .inl (h c (List.mem_of_mem_drop hc))

/-- The text of a finite double is a plain number with a minus sign or an exponent or both. -/
theorem render_sql_eq (x : Double) : ∃ body,
    (IsPlainNumber body ∨
      ∃ front exponent, IsPlainNumber front ∧ body = front ++ 'e' :: signedDigits exponent) ∧
    x.render .sql = if x.isNegative then '-' :: body else body := by
  have digit : ∀ n, ∀ c ∈ digits n, c.isDigit = true := fun _ _ => isDigit_of_mem_digits
  refine ⟨_, ?_, rfl⟩
  split
  · exact .inl (isPlainNumber_positional (digit _))
  · obtain ⟨front, hf, he⟩ := exponential_eq _ (digits_ne_nil _) (digit _)
    exact .inr ⟨front, _, hf, he⟩

end Double

/-- The literals without quotes: words, whole numbers, decimals and finite doubles. -/
theorem Value.bare_cases {v : Value} {w : List Char} (h : v.form = .bare w) :
    (w = "NULL".toList ∨ w = "true".toList ∨ w = "false".toList) ∨ (∃ i, w = signedDigits i) ∨
      (∃ d : Decimal, w = d.toText) ∨ ∃ x : Double, w = x.render .sql := by
  cases v with
  | null =>
    cases h
    exact .inl (.inl rfl)
  | bool b =>
    cases b <;> cases h
    · exact .inl (.inr (.inr rfl))
    · exact .inl (.inr (.inl rfl))
  | smallInt n | int n | bigInt n =>
    cases h
    exact .inr (.inl ⟨_, rfl⟩)
  | decimal d =>
    cases h
    exact .inr (.inr (.inl ⟨d, rfl⟩))
  | double x =>
    simp only [form, doubleForm] at h
    split at h
    · cases h
      exact .inr (.inr (.inr ⟨x, rfl⟩))
    split at h
    · cases h
    split at h <;> cases h
  | _ => cases h

end TypedSql
