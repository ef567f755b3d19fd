import TypedSql.Json.Printer
import TypedSql.Json.Token
import TypedSql.Proofs.DigitRuns

/-!
The strings and numbers of a JSON text are read back: a string character by character, a number
from the runs of digits in it and what its exponent says.
-/

namespace TypedSql.Json

open Text

/-! ### Strings -/

theorem charOf?_toNat (c : Char) : charOf? c.toNat = some c := by
  have valid : c.toNat.isValidChar := c.valid
  rw [charOf?, dif_pos valid]
  rfl

/-- A control is written with four hexadecimal digits. -/
theorem scanString_control {c : Char} (h : c.toNat < 0x20) (cs : List Char) :
    scanString ('\\' :: 'u' :: (hexPadded 4 c.toNat ++ cs)) =
      (scanString cs).map fun p => (c :: p.1, p.2) := by
  have digits : hexPadded 4 c.toNat = [hexDigit (c.toNat / 16 / 16 / 16 % 16),
      hexDigit (c.toNat / 16 / 16 % 16), hexDigit (c.toNat / 16 % 16), hexDigit (c.toNat % 16)] :=
    rfl
  have value := readHex?_hexPadded 4 c.toNat
  rw [Nat.mod_eq_of_lt (Nat.lt_trans h (by decide))] at value
  rw [digits] at value ⊢
  show scanString ('\\' :: 'u' :: _ :: _ :: _ :: _ :: cs) = _
  rw [scanString, value]
  have low : ¬ (0xd800 ≤ c.toNat && c.toNat ≤ 0xdbff) = true := by
    simp only [Bool.and_eq_true, decide_eq_true_eq]
    omega
  simp only [Option.bind_eq_bind, Option.bind_some, charOf?_toNat]
  rw [if_neg low]
  cases scanString cs <;> rfl

/-- A character that has a letter of its own. -/
theorem scanString_simple {letter c d : Char} (h : c = d) (hl : letter ≠ 'u')
    (hd : simpleEscape? letter = some d) (cs : List Char) :
    scanString ('\\' :: letter :: cs) = (scanString cs).map fun p => (c :: p.1, p.2) := by
  rw [scanString, hd, h]
  · cases scanString cs <;> rfl
  · intro a b c d cs h
    exact absurd h hl

theorem scanString_plain {c : Char} (hq : c ≠ '"') (hb : c ≠ '\\') (hc : ¬ c.toNat < 0x20)
    (cs : List Char) : scanString (c :: cs) = (scanString cs).map fun p => (c :: p.1, p.2) := by
  rw [scanString, if_neg (not_or.mpr ⟨hb, hc⟩)]
  · exact hq
  · intro a b c d cs h
    exact absurd h hb
  · intro a b h
    exact absurd h hb

theorem scanString_escapeChar (c : Char) (cs : List Char) :
    scanString (escapeChar c ++ cs) = (scanString cs).map fun p => (c :: p.1, p.2) := by
  unfold escapeChar
  split
  · next h => exact scanString_simple h (by decide) rfl cs
  next quote =>
  split
  · next h => exact scanString_simple h (by decide) rfl cs
  next backslash =>
  split
  · next h => exact scanString_simple h (by decide) rfl cs
  split
  · next h => exact scanString_simple h (by decide) rfl cs
  split
  · next h => exact scanString_simple h (by decide) rfl cs
  split
  · next h => exact scanString_simple h (by decide) rfl cs
  split
  · next h => exact scanString_simple h (by decide) rfl cs
  split
  · next h => exact scanString_control h cs
  · next h => exact scanString_plain quote backslash h cs

/-- A string is read up to its closing quote. -/
theorem scanString_escaped (s : List Char) (rest : List Char) :
    scanString (s.flatMap escapeChar ++ '"' :: rest) = some (s, rest) := by
  induction s with
  | nil => rw [List.flatMap_nil, List.nil_append, scanString]
  | cons c s ih => rw [List.flatMap_cons, List.append_assoc, scanString_escapeChar, ih]; rfl

/-! ### Numbers -/

/-- What may follow a number in a document. -/
def Closes (rest : List Char) : Prop :=
  ∀ c ∈ rest.head?, c = ',' ∨ c = ']' ∨ c = '\x7d'

variable {ds fs tail rest : List Char} {m : Nat} {negative : Bool}

theorem Closes.endsDigits (h : Closes rest) : EndsDigits rest := by
  intro c hc
  rcases h c hc with rfl | rfl | rfl <;> rfl

theorem Closes.head_ne (h : Closes rest) {c : Char} (hc : c ∉ [',', ']', '\x7d']) :
    rest.head? ≠ some c := by
  intro he
  rcases h c he with rfl | rfl | rfl <;> simp at hc

/-- A run of digits that fits is taken as a whole. -/
theorem takeSignificand_run (hd : AllDigits ds) (hm : Nat.ofDigitChars 10 ds m < UInt64.size)
    (hr : EndsDigits rest) :
    takeSignificand m (ds ++ rest) = (Nat.ofDigitChars 10 ds m, rest) := by
  induction ds generalizing m with
  | nil =>
    cases rest with
    | nil => rfl
    | cons c rest => simp [takeSignificand, hr c rfl]
  | cons d ds ih =>
    rw [ofDigitChars_cons] at hm ⊢
    have fits : (d.isDigit && decide (10 * m + digitValue d < UInt64.size)) = true := by
      rw [hd d List.mem_cons_self, Bool.true_and, decide_eq_true_eq]
      exact Nat.lt_of_le_of_lt (le_ofDigitChars ds _) hm
    rw [List.cons_append, takeSignificand, if_pos fits]
    exact ih (fun c hc => hd c (List.mem_cons_of_mem d hc)) hm

/-- No zero stands in front of other digits. -/
def NoLeadingZero (ds : List Char) : Prop :=
  ds = ['0'] ∨ ∃ c cs, ds = c :: cs ∧ c ≠ '0'

theorem noLeadingZero_digits (n : Nat) : NoLeadingZero (digits n) := by
  obtain rfl | h := Nat.eq_zero_or_pos n
  · exact .inl rfl
  · exact .inr (head_digits (Nat.ne_of_gt h))

theorem NoLeadingZero.take {n : Nat} (h : NoLeadingZero ds) (hn : 0 < n) :
    NoLeadingZero (ds.take n) := by
  obtain ⟨k, rfl⟩ := Nat.exists_eq_add_one_of_ne_zero (Nat.ne_of_gt hn)
  rcases h with rfl | ⟨c, cs, rfl, hc⟩
  · exact .inl (by rw [List.take_succ_cons, List.take_nil])
  · exact .inr ⟨c, cs.take k, rfl, hc⟩

/-- The digits in front of a point, an exponent or the end of a number. -/
theorem scanNumber_run (hd : AllDigits ds) (hz : NoLeadingZero ds)
    (hv : digitsValue ds < UInt64.size) (hr : EndsDigits rest) :
    scanNumber negative (ds ++ rest) = scanNumberRest negative (digitsValue ds) rest := by
  have take := takeSignificand_run (m := 0) hd hv hr
  rcases hz with rfl | ⟨c, cs, rfl, hc⟩
  · cases rest with
    | nil => rfl
    | cons c rest =>
      show (if c.isDigit then none else scanNumberRest negative 0 (c :: rest)) = _
      rw [hr c rfl]
      rfl
  · rw [List.cons_append, scanNumber, ← List.cons_append, take, if_pos (hd c List.mem_cons_self)]
    · rfl
    · intro d rest h
      exact absurd h hc

/-- A fraction behind its point, or nothing where there is none. -/
def pointed (fs : List Char) : List Char :=
  match fs with
  | [] => []
  | fs => '.' :: fs

theorem scanNumberRest_whole (hr : Closes rest) : scanNumberRest negative m rest =
    if !negative then some (.natural (UInt64.ofNat m), rest)
    else if 0 < m ∧ m ≤ Nat.pow 2 63 then some (.negative (Int64.ofInt (-(m : Int))), rest)
    else some (.real (Double.ofInt m).neg, rest) := by
  cases rest with
  | nil => cases negative <;> rfl
  | cons c rest =>
    rcases hr c rfl with rfl | rfl | rfl <;> cases negative <;> rfl

theorem scanNumberRest_real {exponent : Option Int} (hd : AllDigits fs)
    (hv : Nat.ofDigitChars 10 fs m < UInt64.size) (ht : EndsDigits tail)
    (hp : tail.head? ≠ some '.') (he : scanExponent tail = some (exponent, rest))
    (real : fs ≠ [] ∨ exponent ≠ none) :
    scanNumberRest negative m (pointed fs ++ tail) =
      (scaled? negative (Nat.ofDigitChars 10 fs m) (exponent.getD 0 - fs.length)).map
        fun x => (.real x, rest) := by
  cases fs with
  | nil =>
    have none_dropped : spanDigits tail = ([], tail) := spanDigits_run hd ht
    obtain ⟨e, rfl⟩ := Option.ne_none_iff_exists'.mp (real.resolve_left fun h => h rfl)
    rw [pointed, List.nil_append, scanNumberRest, none_dropped]
    simp only [Option.bind_eq_bind]
    split
    · exact absurd rfl hp
    · simp only [Option.bind_some, he, List.length_nil, Option.getD_some, Option.map_eq_bind]
      rw [show ((0 : Nat) : Int) + e = e - (0 : Nat) by omega]
      rfl
  | cons d ds =>
    have none_dropped : spanDigits ('.' :: (d :: ds ++ tail)) = ([], '.' :: (d :: ds ++ tail)) :=
      rfl
    have all := spanDigits_run hd ht
    have unused := takeSignificand_run hd hv endsDigits_nil
    rw [List.append_nil] at unused
    show scanNumberRest negative m ('.' :: (d :: ds ++ tail)) = _
    rw [scanNumberRest, none_dropped]
    simp only [Option.bind_eq_bind, all, unused, List.isEmpty_cons, Bool.false_eq_true, if_false,
      Option.bind_some, he, List.length_nil, Nat.sub_zero, Option.map_eq_bind]
    cases exponent with
    | none => rfl
    | some e =>
      have places : ((0 : Nat) : Int) - (d :: ds).length + e = e - (d :: ds).length := by omega
      show (scaled? negative _ (((0 : Nat) : Int) - (d :: ds).length + e)).bind _ = _
      rw [places]
      rfl

theorem scanExponent_closes (hr : Closes rest) : scanExponent rest = some (none, rest) := by
  cases rest with
  | nil => rfl
  | cons c rest => rcases hr c rfl with rfl | rfl | rfl <;> rfl

theorem scanExponent_signed (e : Int) (hr : EndsDigits rest) :
    scanExponent ('e' :: ((if e < 0 then [] else ['+']) ++ signedDigits e ++ rest)) =
      some (some e, rest) := by
  have run := spanDigits_run (allDigits_digits e.natAbs) hr
  have value := digitsValue_digits e.natAbs
  have hne := digits_ne_nil e.natAbs
  unfold signedDigits
  generalize digits e.natAbs = ds at run value hne
  by_cases h : e < 0
  · rw [if_pos h, if_pos h, List.nil_append, List.cons_append, scanExponent, if_pos (.inl rfl)]
    obtain ⟨d, ds, rfl⟩ := List.exists_cons_of_ne_nil hne
    simp only [run, value, if_true]
    congr 3
    omega
  · rw [if_neg h, if_neg h, List.singleton_append, List.cons_append, scanExponent,
      if_pos (.inl rfl)]
    obtain ⟨d, ds, rfl⟩ := List.exists_cons_of_ne_nil hne
    simp only [run, value, Bool.false_eq_true, if_false]
    congr 3
    omega

end TypedSql.Json
