import TypedSql.Proofs.JsonScanning
import TypedSql.Proofs.ShortestDigits
import TypedSql.Value.Tagged

/-!
What the numbers of a JSON text are read back as. Whole numbers are themselves again. A double is
what its digits give when they are rounded and scaled, which need not be the double they were
written for; one that is not finite is `null`.
-/

namespace TypedSql

open Text Json

/-! ### Decimals with a point and an exponent -/

namespace Json

variable {whole fs tail rest : List Char}

theorem pointed_of_ne_nil (h : fs ≠ []) : pointed fs = '.' :: fs := by
  cases fs with
  | nil => exact absurd rfl h
  | cons c fs => rfl

theorem scanNumber_pointed (negative : Bool) {exponent : Option Int} (hw : AllDigits whole)
    (hf : AllDigits fs) (first : NoLeadingZero whole)
    (hv : digitsValue (whole ++ fs) < UInt64.size) (ht : EndsDigits tail)
    (hp : tail.head? ≠ some '.') (he : scanExponent tail = some (exponent, rest))
    (real : fs ≠ [] ∨ exponent ≠ none) :
    scanNumber negative (whole ++ (pointed fs ++ tail)) =
      (scaled? negative (digitsValue (whole ++ fs)) (exponent.getD 0 - fs.length)).map
        fun x => (.real x, rest) := by
  have value : Nat.ofDigitChars 10 fs (digitsValue whole) = digitsValue (whole ++ fs) :=
    (Nat.ofDigitChars_append 0).symm
  have ends : EndsDigits (pointed fs ++ tail) := by
    cases fs with
    | nil => exact ht
    | cons c fs => exact endsDigits_cons rfl
  have part : digitsValue whole < UInt64.size :=
    Nat.lt_of_le_of_lt (value ▸ le_ofDigitChars fs _) hv
  rw [← value] at hv ⊢
  rw [scanNumber_run hw first part ends, scanNumberRest_real hf hv ht hp he real]

/-- A number with a point and no exponent. -/
theorem scanNumber_fraction (negative : Bool) (hw : AllDigits whole) (hf : AllDigits fs)
    (hne : fs ≠ []) (first : NoLeadingZero whole)
    (hv : digitsValue (whole ++ fs) < UInt64.size) (hr : Closes rest) :
    scanNumber negative (whole ++ '.' :: (fs ++ rest)) =
      (scaled? negative (digitsValue (whole ++ fs)) (-fs.length)).map
        fun x => (.real x, rest) := by
  have h := scanNumber_pointed negative hw hf first hv hr.endsDigits
    (hr.head_ne (by decide)) (scanExponent_closes hr) (.inl hne)
  rw [pointed_of_ne_nil hne, Option.getD_none, Int.zero_sub] at h
  exact h

end Json

/-! ### Doubles -/

namespace Double

/-- The double that the JSON text of a decimal is read as. A whole number that is written without
an exponent has one zero more, behind its point. -/
def Scientific.read? (negative : Bool) (s : Scientific) : Option Double :=
  if 0 ≤ s.exponent ∧ s.exponent + (Text.digits s.digits).length ≤ 16 then
    scaled? negative (s.digits * 10 ^ (s.exponent.natAbs + 1)) (-1)
  else scaled? negative s.digits s.exponent

/-- The double that the JSON text of a finite double is read as. -/
def reread? (x : Double) : Option Double :=
  (x.shortest .even).read? x.isNegative

section Layout

variable {s : Scientific} {negative : Bool} {rest : List Char}

theorem length_digits_pos (n : Nat) : 0 < (digits n).length :=
  Nat.length_toDigits_pos

/-- Below one: a zero, the point, zeros and the digits. -/
theorem scanNumber_below_one (hv : s.digits < 10 ^ 18)
    (hw : s.exponent + (digits s.digits).length ≤ 0) (hr : Closes rest) :
    scanNumber negative (['0', '.'] ++ List.replicate (s.exponent + (digits s.digits).length).natAbs
      '0' ++ digits s.digits ++ rest) = (s.read? negative).map fun x => (.real x, rest) := by
  have := length_digits_pos s.digits
  generalize hk : (s.exponent + (digits s.digits).length).natAbs = k
  have value : digitsValue (['0'] ++ (List.replicate k '0' ++ digits s.digits)) = s.digits := by
    rw [show ['0'] = List.replicate 1 '0' from rfl, digitsValue_zeros_append,
      digitsValue_zeros_append, digitsValue_digits]
  have places : -((List.replicate k '0' ++ digits s.digits).length : Int) = s.exponent := by
    rw [List.length_append, List.length_replicate]
    omega
  have h := scanNumber_fraction negative (allDigits_zeros 1)
    ((allDigits_zeros k).append (allDigits_digits s.digits))
    (List.append_ne_nil_of_right_ne_nil _ (digits_ne_nil _)) (.inl rfl)
    (value.trans_lt (hv.trans (by decide))) hr
  rw [show List.replicate 1 '0' = ['0'] from rfl, value, places] at h
  rw [Scientific.read?, if_neg (by omega), ← h]
  simp

/-- A whole number: its digits, zeros up to the point and one behind it. -/
theorem scanNumber_whole (hz : s.digits = 0 → s.exponent = 0) (he : 0 ≤ s.exponent)
    (hm : s.exponent + (digits s.digits).length ≤ 16) (hr : Closes rest) :
    scanNumber negative (digits s.digits ++ List.replicate s.exponent.natAbs '0' ++ ['.', '0'] ++
      rest) = (s.read? negative).map fun x => (.real x, rest) := by
  generalize hk : s.exponent.natAbs = k
  have value : digitsValue ((digits s.digits ++ List.replicate k '0') ++ ['0']) =
      s.digits * 10 ^ (k + 1) := by
    have zeros : List.replicate k '0' ++ ['0'] = List.replicate (k + 1) '0' :=
      List.replicate_succ'.symm
    have none : digitsValue (List.replicate (k + 1) '0') = 0 := by
      rw [← List.append_nil (List.replicate _ _), digitsValue_zeros_append]
      rfl
    rw [List.append_assoc, zeros, digitsValue_append, none, digitsValue_digits,
      List.length_replicate, Nat.add_zero, Nat.mul_comm]
  have bound : s.digits * 10 ^ (k + 1) < UInt64.size := by
    have few : s.digits < 10 ^ (digits s.digits).length :=
      (Nat.length_toDigits_le_iff (by decide) (length_digits_pos _)).mp (Nat.le_refl _)
    calc s.digits * 10 ^ (k + 1)
      _ ≤ 10 ^ (digits s.digits).length * 10 ^ (k + 1) := Nat.mul_le_mul_right _ few.le
      _ = 10 ^ ((digits s.digits).length + (k + 1)) := (Nat.pow_add _ _ _).symm
      _ ≤ 10 ^ 17 := Nat.pow_le_pow_right (by decide) (by omega)
      _ < UInt64.size := by decide
  have first : NoLeadingZero (digits s.digits ++ List.replicate k '0') := by
    by_cases h0 : s.digits = 0
    · have := hz h0
      obtain rfl : k = 0 := by omega
      exact .inl (by rw [h0]; rfl)
    · obtain ⟨c, cs, h, hc⟩ := head_digits h0
      exact .inr ⟨c, cs ++ List.replicate k '0', by rw [h]; rfl, hc⟩
  have h := scanNumber_fraction negative
    ((allDigits_digits s.digits).append (allDigits_zeros k)) (allDigits_zeros 1)
    (List.cons_ne_nil _ _) first (value.trans_lt bound) hr
  rw [show List.replicate 1 '0' = ['0'] from rfl, value] at h
  rw [Scientific.read?, if_pos ⟨he, hm⟩, hk]
  refine Eq.trans ?_ h
  simp

/-- The point stands among the digits. -/
theorem scanNumber_split (hv : s.digits < 10 ^ 18) {n : Nat} (hn : 0 < n)
    (hl : (n : Int) = s.exponent + (digits s.digits).length) (he : s.exponent < 0)
    (hr : Closes rest) :
    scanNumber negative ((digits s.digits).take n ++ '.' :: (digits s.digits).drop n ++ rest) =
      (s.read? negative).map fun x => (.real x, rest) := by
  have digit := allDigits_digits s.digits
  have value := digitsValue_digits s.digits
  have first := (noLeadingZero_digits s.digits).take hn
  have places : -(((digits s.digits).drop n).length : Int) = s.exponent := by
    rw [List.length_drop]
    omega
  have nonempty : (digits s.digits).drop n ≠ [] := by
    rw [Ne, List.drop_eq_nil_iff]
    omega
  have split := List.take_append_drop n (digits s.digits)
  have h := scanNumber_fraction negative
    (fun c hc => digit c (List.mem_of_mem_take hc)) (fun c hc => digit c (List.mem_of_mem_drop hc))
    nonempty first (by rw [split, value]; exact hv.trans (by decide)) hr
  rw [split, value, places] at h
  rw [Scientific.read?, if_neg (by omega), ← h]
  simp

theorem scanNumber_positional (hz : s.digits = 0 → s.exponent = 0) (hv : s.digits < 10 ^ 18)
    (hm : s.exponent + (digits s.digits).length ≤ 16) (hr : Closes rest) :
    scanNumber negative (positional (digits s.digits) (s.exponent + (digits s.digits).length) ++
      rest) = (s.read? negative).map fun x => (.real x, rest) := by
  unfold positional
  split
  · next h => exact scanNumber_below_one hv h hr
  · next h =>
    dsimp only
    split
    · next h' =>
      have zeros : (s.exponent + (digits s.digits).length).natAbs - (digits s.digits).length =
        s.exponent.natAbs := by omega
      rw [zeros]
      exact scanNumber_whole hz (by omega) hm hr
    · next h' => exact scanNumber_split hv (by omega) (by omega) (by omega) hr

theorem scanNumber_exponential (hv : s.digits < 10 ^ 18)
    (hm : ¬ (0 ≤ s.exponent ∧ s.exponent + (digits s.digits).length ≤ 16)) (hr : Closes rest) :
    scanNumber negative (exponential ['+'] (digits s.digits)
      (s.exponent + (digits s.digits).length - 1) ++ rest) =
        (s.read? negative).map fun x => (.real x, rest) := by
  have digit := allDigits_digits s.digits
  have value := digitsValue_digits s.digits
  have positive := length_digits_pos s.digits
  generalize hexp : s.exponent + ((digits s.digits).length : Int) - 1 = magnitude
  have first := (noLeadingZero_digits s.digits).take Nat.one_pos
  have places : magnitude - ((digits s.digits).drop 1).length = s.exponent := by
    rw [List.length_drop]
    omega
  have split := List.take_append_drop 1 (digits s.digits)
  have h := scanNumber_pointed negative
    (fun c hc => digit c (List.mem_of_mem_take hc)) (fun c hc => digit c (List.mem_of_mem_drop hc))
    first (by rw [split, value]; exact hv.trans (by decide)) (endsDigits_cons rfl)
    (by simp) (scanExponent_signed magnitude hr.endsDigits) (.inr (Option.some_ne_none _))
  rw [split, value, Option.getD_some, places] at h
  rw [Scientific.read?, if_neg hm, ← h]
  show scanNumber negative ((digits s.digits).take 1 ++ pointed ((digits s.digits).drop 1) ++
    'e' :: _ ++ rest) = _
  simp

theorem positional_head {ds : List Char} (hd : AllDigits ds) (hne : ds ≠ []) (whole : Int) :
    ∃ c cs, positional ds whole = c :: cs ∧ c.isDigit = true := by
  obtain ⟨d, ds, rfl⟩ := List.exists_cons_of_ne_nil hne
  have first := hd d List.mem_cons_self
  unfold positional
  split
  · exact ⟨'0', _, rfl, rfl⟩
  · next h =>
    obtain ⟨n, hn⟩ : ∃ n, whole.natAbs = n + 1 := ⟨whole.natAbs - 1, by omega⟩
    rw [hn]
    dsimp only
    split
    · exact ⟨d, _, rfl, first⟩
    · exact ⟨d, _, rfl, first⟩

theorem exponential_head {plus ds : List Char} (hd : AllDigits ds) (hne : ds ≠ []) (e : Int) :
    ∃ c cs, exponential plus ds e = c :: cs ∧ c.isDigit = true := by
  obtain ⟨d, ds, rfl⟩ := List.exists_cons_of_ne_nil hne
  exact ⟨d, _, rfl, hd d List.mem_cons_self⟩

/-- The JSON text of a decimal, without a sign. -/
def Scientific.jsonText (s : Scientific) : List Char :=
  let ds := Text.digits s.digits
  let magnitude := s.exponent + ds.length - 1
  if -5 ≤ magnitude ∧ magnitude ≤ 15 then positional ds (magnitude + 1)
  else exponential ['+'] ds magnitude

theorem render_json (x : Double) : x.render .json =
    if x.isNegative then '-' :: (x.shortest .even).jsonText else (x.shortest .even).jsonText :=
  rfl

theorem Scientific.jsonText_head (s : Scientific) :
    ∃ c cs, s.jsonText = c :: cs ∧ c.isDigit = true := by
  have digit := allDigits_digits s.digits
  have hne := digits_ne_nil s.digits
  unfold jsonText
  dsimp only
  split
  · exact positional_head digit hne _
  · exact exponential_head digit hne _

theorem scanNumber_jsonText (hz : s.digits = 0 → s.exponent = 0) (hv : s.digits < 10 ^ 18)
    (hr : Closes rest) :
    scanNumber negative (s.jsonText ++ rest) = (s.read? negative).map fun x => (.real x, rest) := by
  unfold Scientific.jsonText
  dsimp only
  split
  · rw [Int.sub_add_cancel]
    exact scanNumber_positional hz hv (by omega) hr
  · exact scanNumber_exponential hv (by omega) hr

end Layout

theorem shortest_of_isZero {tie : Tie} {x : Double} (h : x.isZero = true) :
    x.shortest tie = ⟨0, 0⟩ := by
  rw [shortest, if_pos h]

theorem scanNumber_shortest (x : Double) {rest : List Char} (hr : Closes rest) :
    scanNumber x.isNegative ((x.shortest .even).jsonText ++ rest) =
      x.reread?.map fun y => (.real y, rest) := by
  cases hx : x.isZero with
  | true =>
    have zero : x.shortest .even = ⟨0, 0⟩ := shortest_of_isZero hx
    exact scanNumber_jsonText (fun _ => by rw [zero]) (by rw [zero]; decide) hr
  | false =>
    obtain ⟨low, high⟩ := shortest_bounds .even hx
    exact scanNumber_jsonText (fun h => absurd h low.ne') high hr

end Double

/-! ### Numbers -/

/-- What the text of a number is read as. -/
def JsonNumber.reread? : JsonNumber → Option Json
  | natural n => some (.number (.natural n))
  | negative n => some (.number (.ofInt64 n))
  | real x => if x.isFinite then x.reread?.map fun y => .number (.real y) else some .null

namespace Json

theorem scanToken_digit {c : Char} (h : c.isDigit = true) (cs : List Char) :
    scanToken (c :: cs) =
      (scanNumber false (c :: cs)).map fun p => (.scalar (.number p.1), p.2) := by
  unfold scanToken
  split
  all_goals first
    | rfl
    | next he =>
      cases he
      cases h

theorem scanNumber_digits (negative : Bool) {n : Nat} (hn : n < UInt64.size) {rest : List Char}
    (hr : Closes rest) :
    scanNumber negative (digits n ++ rest) =
      if !negative then some (.natural (UInt64.ofNat n), rest)
      else if 0 < n ∧ n ≤ Nat.pow 2 63 then some (.negative (Int64.ofInt (-(n : Int))), rest)
      else some (.real (Double.ofInt n).neg, rest) := by
  have size : digitsValue (digits n) < UInt64.size := by rwa [digitsValue_digits]
  rw [scanNumber_run (allDigits_digits n) (noLeadingZero_digits n) size hr.endsDigits,
    digitsValue_digits, scanNumberRest_whole hr]

theorem scanToken_digits {n : Nat} (hn : n < UInt64.size) {rest : List Char} (hr : Closes rest) :
    scanToken (digits n ++ rest) = some (.scalar (.number (.natural (UInt64.ofNat n))), rest) := by
  have read := scanNumber_digits false hn hr
  obtain ⟨c, cs, hc⟩ := List.exists_cons_of_ne_nil (digits_ne_nil n)
  have digit : c.isDigit = true := allDigits_digits n c (hc ▸ List.mem_cons_self)
  rw [hc, List.cons_append] at read ⊢
  rw [scanToken_digit digit, read]
  rfl

/-- A number of 64 bits that is not negative, as one without a sign. -/
theorem natAbs_toInt {n : Int64} (h : 0 ≤ n.toInt) : n.toInt.natAbs = n.toUInt64.toNat := by
  have unsigned : n.toInt = n.toUInt64.toBitVec.toInt := rfl
  rw [BitVec.toInt_eq_toNat_cond] at unsigned
  have := n.toUInt64.toNat_lt
  change n.toInt = if 2 * n.toUInt64.toNat < 2 ^ 64 then (n.toUInt64.toNat : Int)
    else (n.toUInt64.toNat : Int) - (2 ^ 64 : Nat) at unsigned
  split at unsigned <;> omega

theorem scanToken_numberText (n : JsonNumber) {rest : List Char} (hr : Closes rest) :
    scanToken (numberText n ++ rest) = n.reread?.map fun j => (.scalar j, rest) := by
  cases n with
  | natural n =>
    rw [numberText, scanToken_digits n.toNat_lt hr, UInt64.ofNat_toNat]
    rfl
  | negative n =>
    have low := n.le_toInt
    have high := n.toInt_lt
    rw [numberText, signedDigits, JsonNumber.reread?, JsonNumber.ofInt64]
    by_cases hn : n < 0
    · have hi : n.toInt < 0 := Int64.lt_iff_toInt_lt.mp hn
      rw [if_pos hi, if_pos hn]
      show (scanNumber true (digits n.toInt.natAbs ++ rest)).map _ = _
      have size : n.toInt.natAbs < UInt64.size := by
        rw [show UInt64.size = 18446744073709551616 from rfl]
        omega
      have fits : 0 < n.toInt.natAbs ∧ n.toInt.natAbs ≤ Nat.pow 2 63 := by
        rw [show Nat.pow 2 63 = 9223372036854775808 from rfl]
        omega
      rw [scanNumber_digits true size hr, if_neg (by decide), if_pos fits,
        show -(n.toInt.natAbs : Int) = n.toInt by omega, Int64.ofInt_toInt]
      rfl
    · have hi : ¬ n.toInt < 0 := fun h => hn (Int64.lt_iff_toInt_lt.mpr h)
      have value := natAbs_toInt (Int.not_lt.mp hi)
      rw [if_neg hi, if_neg hn, value, scanToken_digits n.toUInt64.toNat_lt hr,
        UInt64.ofNat_toNat]
      rfl
  | real x =>
    rw [numberText, doubleText, JsonNumber.reread?]
    split
    · have read := x.scanNumber_shortest hr
      rw [Double.render_json]
      cases hx : x.isNegative with
      | true =>
        rw [hx] at read
        show (scanNumber true ((x.shortest .even).jsonText ++ rest)).map _ = _
        rw [read]
        cases x.reread? <;> rfl
      | false =>
        obtain ⟨c, cs, text, hc⟩ := (x.shortest .even).jsonText_head
        rw [hx, text] at read
        rw [if_neg Bool.false_ne_true, text, List.cons_append, scanToken_digit hc,
          ← List.cons_append, read]
        cases x.reread? <;> rfl
    · rfl

theorem not_isSpace_of_isDigit {c : Char} (h : c.isDigit = true) : isSpace c = false := by
  rw [isSpace, Bool.or_eq_false_iff, Bool.or_eq_false_iff, Bool.or_eq_false_iff]
  refine ⟨⟨⟨?_, ?_⟩, ?_⟩, ?_⟩
  all_goals
    rw [beq_eq_false_iff_ne]
    rintro rfl
    cases h

/-- No number begins with white space. -/
theorem numberText_head (n : JsonNumber) :
    ∃ c cs, numberText n = c :: cs ∧ isSpace c = false := by
  have digits_head : ∀ n, ∃ c cs, digits n = c :: cs ∧ isSpace c = false := by
    intro n
    obtain ⟨c, cs, hc⟩ := List.exists_cons_of_ne_nil (digits_ne_nil n)
    exact ⟨c, cs, hc, not_isSpace_of_isDigit (allDigits_digits n c (hc ▸ List.mem_cons_self))⟩
  cases n with
  | natural n => exact digits_head n.toNat
  | negative n =>
    rw [numberText, signedDigits]
    split
    · exact ⟨'-', _, rfl, rfl⟩
    · exact digits_head _
  | real x =>
    rw [numberText, doubleText]
    split
    · rw [Double.render_json]
      split
      · exact ⟨'-', _, rfl, rfl⟩
      · obtain ⟨c, cs, text, hc⟩ := (x.shortest .even).jsonText_head
        exact ⟨c, cs, text, not_isSpace_of_isDigit hc⟩
    · exact ⟨'n', _, rfl, rfl⟩

end Json

end TypedSql
