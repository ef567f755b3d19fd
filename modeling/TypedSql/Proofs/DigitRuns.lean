import Mathlib.Algebra.Ring.Nat
import TypedSql.Proofs.Numbers
import TypedSql.Text.Blank
import TypedSql.Text.Hex

/-!
Runs of digits: how long they are, what they denote, and where a reader of digits stops.
-/

namespace TypedSql

open Text

variable {ds es rest : List Char} {width n : Nat}

/-! ### Length and value -/

/-- What may follow a run of digits: anything but one more digit. -/
def EndsDigits (rest : List Char) : Prop :=
  ∀ c ∈ rest.head?, c.isDigit = false

/-- Nothing but digits. -/
def AllDigits (ds : List Char) : Prop :=
  ∀ c ∈ ds, c.isDigit = true

theorem endsDigits_nil : EndsDigits [] := by
  simp [EndsDigits]

theorem endsDigits_cons {c : Char} (h : c.isDigit = false) : EndsDigits (c :: rest) := by
  simpa [EndsDigits] using h

theorem allDigits_digits (n : Nat) : AllDigits (digits n) :=
  fun _ => isDigit_of_mem_digits

theorem allDigits_zeros (n : Nat) : AllDigits (List.replicate n '0') :=
  fun _ => isDigit_of_mem_zeros

theorem allDigits_padded (width n : Nat) : AllDigits (padded width n) :=
  fun _ => isDigit_of_mem_padded

theorem AllDigits.append (hd : AllDigits ds) (he : AllDigits es) : AllDigits (ds ++ es) :=
  fun c hc => (List.mem_append.mp hc).elim (hd c) (he c)

theorem padded_ne_nil (width n : Nat) : padded width n ≠ [] :=
  List.append_ne_nil_of_right_ne_nil _ (digits_ne_nil n)

theorem length_padded (hw : 0 < width) (hn : n < 10 ^ width) : (padded width n).length = width := by
  rw [padded, List.length_leftpad]
  exact Nat.max_eq_left ((Nat.length_toDigits_le_iff (by decide) hw).mpr hn)

theorem digitsValue_append (ds es : List Char) :
    digitsValue (ds ++ es) = 10 ^ es.length * digitsValue ds + digitsValue es := by
  rw [digitsValue, Nat.ofDigitChars_append, Nat.ofDigitChars_eq_ofDigitChars_zero]
  rfl

theorem digitsValue_zeros_append (n : Nat) (ds : List Char) :
    digitsValue (List.replicate n '0' ++ ds) = digitsValue ds := by
  rw [digitsValue, Nat.ofDigitChars_append, Nat.ofDigitChars_replicate_zero, Nat.mul_zero]
  rfl

@[simp] theorem digitsValue_padded (width n : Nat) : digitsValue (padded width n) = n := by
  rw [padded, List.leftpad, digitsValue_zeros_append, digitsValue_digits]

theorem not_isBlankChar_of_isDigit {c : Char} (h : c.isDigit = true) : isBlankChar c = false := by
  simp only [Char.isDigit, Bool.and_eq_true, decide_eq_true_eq, UInt32.le_iff_toNat_le] at h
  have : 48 ≤ c.toNat := h.1
  have : c.toNat ≤ 57 := h.2
  simp only [isBlankChar, Bool.or_eq_false_iff, Bool.and_eq_false_iff, decide_eq_false_iff_not,
    beq_eq_false_iff_ne]
  omega

theorem digitValue_lt {c : Char} (h : c.isDigit = true) : digitValue c < 10 := by
  simp only [Char.isDigit, Bool.and_eq_true, decide_eq_true_eq, UInt32.le_iff_toNat_le] at h
  have : c.toNat ≤ 57 := h.2
  have : '0'.toNat = 48 := rfl
  rw [digitValue]
  omega

theorem digitsValue_singleton (d : Char) : digitsValue [d] = digitValue d := by
  rw [digitsValue, Nat.ofDigitChars_cons, Nat.ofDigitChars_nil, Nat.mul_zero, Nat.zero_add]
  rfl

theorem digitsValue_cons (d : Char) (ds : List Char) :
    digitsValue (d :: ds) = 10 ^ ds.length * digitValue d + digitsValue ds := by
  rw [← List.singleton_append, digitsValue_append, digitsValue_singleton]

theorem digitsValue_concat (ds : List Char) (d : Char) :
    digitsValue (ds ++ [d]) = 10 * digitsValue ds + digitValue d := by
  rw [digitsValue_append, digitsValue_singleton, List.length_singleton, Nat.pow_one]

theorem digitsValue_lt (hd : AllDigits ds) : digitsValue ds < 10 ^ ds.length := by
  induction ds with
  | nil => decide
  | cons d ds ih =>
    have first := digitValue_lt (hd d List.mem_cons_self)
    have others := ih fun c hc => hd c (List.mem_cons_of_mem d hc)
    rw [digitsValue_cons, List.length_cons]
    calc 10 ^ ds.length * digitValue d + digitsValue ds
      _ < 10 ^ ds.length * digitValue d + 10 ^ ds.length := Nat.add_lt_add_left others _
      _ = 10 ^ ds.length * (digitValue d + 1) := by rw [Nat.mul_add_one]
      _ ≤ 10 ^ ds.length * 10 := Nat.mul_le_mul_left _ first

/-- A number other than zero does not begin with a zero. -/
theorem head_digits (hn : n ≠ 0) : ∃ c cs, digits n = c :: cs ∧ c ≠ '0' := by
  cases hd : digits n with
  | nil => exact absurd hd (digits_ne_nil n)
  | cons c cs =>
    refine ⟨c, cs, rfl, ?_⟩
    rintro rfl
    -- a shorter run would denote the same number
    have value : digitsValue cs = n := by
      rw [← digitsValue_digits n, hd]
      exact (digitsValue_zeros_append 1 cs).symm
    cases cs with
    | nil => exact hn value.symm
    | cons d ds =>
      have digit : AllDigits (d :: ds) := fun c hc =>
        allDigits_digits n c (hd ▸ List.mem_cons_of_mem _ hc)
      have short : (digits n).length ≤ (d :: ds).length :=
        (Nat.length_toDigits_le_iff (by decide) (by simp)).mpr (value ▸ digitsValue_lt digit)
      rw [hd] at short
      exact absurd short (Nat.not_succ_le_self _)

/-- The number of digits bounds a number from both sides. -/
theorem length_digits_spec (hn : 0 < n) :
    10 ^ ((digits n).length - 1) ≤ n ∧ n < 10 ^ (digits n).length := by
  have positive : 0 < (digits n).length := Nat.length_toDigits_pos
  refine ⟨?_, (Nat.length_toDigits_le_iff (by decide) positive).mp (Nat.le_refl _)⟩
  obtain h | h := Nat.eq_zero_or_pos ((digits n).length - 1)
  · rw [h]
    exact hn
  · refine Nat.le_of_not_lt fun hl => ?_
    have := (Nat.length_toDigits_le_iff (by decide) h).mpr hl
    change (digits n).length ≤ _ at this
    omega

/-! ### Readers

A reader takes one digit after another into the number read so far. -/

theorem ofDigitChars_cons (d : Char) (ds : List Char) (m : Nat) :
    Nat.ofDigitChars 10 (d :: ds) m = Nat.ofDigitChars 10 ds (10 * m + digitValue d) :=
  Nat.ofDigitChars_cons

/-- The number read so far never decreases. -/
theorem le_ofDigitChars (ds : List Char) (m : Nat) : m ≤ Nat.ofDigitChars 10 ds m := by
  rw [Nat.ofDigitChars_eq_ofDigitChars_zero]
  exact Nat.le_add_right_of_le (Nat.le_mul_of_pos_left _ (Nat.pow_pos (by decide)))

theorem takeWhile_isDigit (hd : AllDigits ds) (hr : EndsDigits rest) :
    (ds ++ rest).takeWhile Char.isDigit = ds := by
  rw [List.takeWhile_append_of_pos hd]
  cases rest with
  | nil => simp
  | cons c rest => simp [hr c rfl]

theorem spanDigits_run (hd : AllDigits ds) (hr : EndsDigits rest) :
    spanDigits (ds ++ rest) = (ds, rest) := by
  refine Prod.ext (takeWhile_isDigit hd hr) ?_
  rw [spanDigits, List.dropWhile_append_of_pos hd]
  cases rest with
  | nil => rfl
  | cons c rest => simp [hr c rfl]

/-! ### Hexadecimal digits -/

/-- The last digits of a number denote its remainder. -/
theorem readHex?_hexPadded (width n : Nat) :
    readHex? (hexPadded width n) = some (n % 16 ^ width) := by
  induction width generalizing n with
  | zero => simp [hexPadded, readHex?, Nat.mod_one]
  | succ width ih =>
    have last := hexValue?_hexDigit (Nat.mod_lt n (show 0 < 16 by decide))
    have front := ih (n / 16)
    rw [readHex?] at front
    rw [hexPadded, readHex?, List.foldlM_append, front]
    show ((hexValue? (hexDigit (n % 16))).map (16 * (n / 16 % 16 ^ width) + ·)).bind _ = _
    rw [last, Nat.pow_succ, Nat.mul_comm (16 ^ width) 16, Nat.mod_mul, Nat.add_comm]
    rfl

end TypedSql
