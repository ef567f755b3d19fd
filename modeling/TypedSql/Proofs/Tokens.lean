import TypedSql.Proofs.Words

/-!
What the readers of single words, strings, operators and tables read, and what may follow each of
them.
-/

namespace TypedSql

open Text Reader

/-! ### What follows -/

/-- No character follows that could belong to a word. -/
def Delimited (rest : List Char) : Prop :=
  ∀ c ∈ rest.head?, isDelimiter c = true

/-- Whether a character may stand behind an operand. -/
def isCloser (c : Char) : Bool :=
  c == ' ' || c == ',' || c == ')'

theorem isCloser_iff {c : Char} : isCloser c = true ↔ c = ' ' ∨ c = ',' ∨ c = ')' := by
  simp [isCloser, or_assoc]

/-- What may follow a literal: the end, or a character that belongs to no number and no string. -/
def Closed (rest : List Char) : Prop :=
  ∀ c ∈ rest.head?, isCloser c = true

theorem Closed.head_ne {rest : List Char} (h : Closed rest) {d : Char} (hd : isCloser d = false) :
    ∀ c ∈ rest.head?, c ≠ d := by
  rintro c hc rfl
  exact Bool.false_ne_true (hd.symm.trans (h c hc))

theorem Closed.delimited {rest : List Char} (h : Closed rest) : Delimited rest := by
  intro c hc
  rcases isCloser_iff.mp (h c hc) with rfl | rfl | rfl <;> rfl

/-- What may follow an operand: no alias besides. -/
structure AfterOperand (rest : List Char) : Prop where
  head : Closed rest
  no_alias : ¬ " AS ".toList <+: rest

/-- What may follow an expression: no operator that would take it as its only operand. -/
structure AfterExpr (rest : List Char) : Prop extends AfterOperand rest where
  no_isNull : ¬ " IS NULL".toList <+: rest
  no_isNotNull : ¬ " IS NOT NULL".toList <+: rest

def closing (words : List String) : Bool :=
  words.all (fun w => w.toList.head?.any isCloser) && distinct " AS " words &&
    distinct " IS NULL" words && distinct " IS NOT NULL" words

theorem Starts.afterExpr {words : List String} {rest : List Char} (hc : closing words = true)
    (h : Starts words rest) : AfterExpr rest := by
  simp only [closing, Bool.and_eq_true] at hc
  obtain ⟨⟨⟨hw, ha⟩, hn⟩, hnn⟩ := hc
  exact ⟨⟨h.head hw, h.excludes ha⟩, h.excludes hn, h.excludes hnn⟩

theorem Starts.delimited {words : List String} {rest : List Char}
    (hw : words.all (fun w => w.toList.head?.any isDelimiter) = true) (h : Starts words rest) :
    Delimited rest :=
  h.head hw

/-- What may follow a table: no name that would be its alias. -/
structure AfterTable (rest : List Char) : Prop where
  delimited : Delimited rest
  no_name : ∀ c tail, rest = ' ' :: c :: tail → isNameHead c = false

def endsTable (word : String) : Bool :=
  match word.toList with
  | [] => false
  | [c] => isDelimiter c && c != ' '
  | c :: d :: _ => isDelimiter c && (c != ' ' || !isNameHead d)

theorem Starts.afterTable {words : List String} {rest : List Char}
    (hw : words.all endsTable = true) (h : Starts words rest) : AfterTable rest := by
  rcases h with rfl | ⟨w, hm, tail, rfl⟩
  · exact ⟨nofun, nofun⟩
  have hw := List.all_eq_true.mp hw w hm
  rw [endsTable] at hw
  split at hw
  · cases hw
  · next c h =>
    simp only [Bool.and_eq_true, bne_iff_ne] at hw
    rw [h]
    exact ⟨fun _ hc => Option.some.inj hc ▸ hw.1, fun _ _ h => absurd (List.cons.inj h).1 hw.2⟩
  · next c d _ h =>
    simp only [Bool.and_eq_true, Bool.or_eq_true, bne_iff_ne, Bool.not_eq_true'] at hw
    rw [h]
    refine ⟨fun _ hc => Option.some.inj hc ▸ hw.1, fun e _ h => ?_⟩
    simp only [List.cons_append, List.cons.injEq] at h
    obtain ⟨rfl, rfl, -⟩ := h
    exact hw.2.resolve_left fun h => h rfl

/-- A text that does not start with the first character of a word does not start with the word. -/
theorem excludes_of_head {w : String} {text : List Char} {c : Char}
    (hw : w.toList.head? = some c) (h : ∀ d ∈ text.head?, d ≠ c) : ¬ w.toList <+: text := by
  rintro ⟨tail, rfl⟩
  rw [List.head?_append, hw] at h
  exact h c rfl rfl

namespace Reads

/-! ### Words and numbers -/

theorem word {w : List Char} (h : ∀ c ∈ w, isWordChar c = true) :
    Reads word w w Delimited := by
  intro rest hr
  have hw : ∀ c ∈ w, (!isDelimiter c) = true := fun c hc => by
    rw [not_isDelimiter_of_isWordChar (h c hc)]
    rfl
  have htake : rest.takeWhile (!isDelimiter ·) = [] := by
    cases rest with
    | nil => rfl
    | cons c rest => simp [hr c rfl]
  have hdrop : rest.dropWhile (!isDelimiter ·) = rest := by
    cases rest with
    | nil => rfl
    | cons c rest => simp [hr c rfl]
  rw [Reader.word, List.takeWhile_append_of_pos hw, List.dropWhile_append_of_pos hw, htake, hdrop,
    List.append_nil]

theorem name {s : String} (h : IsName s.toList) : Reads name s.toList s Delimited := by
  have := Reads.map (f := String.ofList) (word h.isWord.chars)
  rwa [String.ofList_toList] at this

theorem number (n : Nat) : Reads number (digits n) n Delimited := by
  intro rest hr
  have hd : ∀ c ∈ digits n, c.isDigit = true := fun _ => isDigit_of_mem_digits
  have hrest : ∀ c ∈ rest.head?, c.isDigit = false := fun c hc => by
    have := hr c hc
    simp only [isDelimiter, Bool.or_eq_true, beq_iff_eq] at this
    rcases this with ((rfl | rfl) | rfl) | rfl <;> rfl
  have htake : rest.takeWhile Char.isDigit = [] := by
    cases rest with
    | nil => rfl
    | cons c rest => simp [hrest c rfl]
  have hdrop : rest.dropWhile Char.isDigit = rest := by
    cases rest with
    | nil => rfl
    | cons c rest => simp [hrest c rfl]
  rw [Reader.number, List.takeWhile_append_of_pos hd, List.dropWhile_append_of_pos hd, htake, hdrop,
    List.append_nil, digitsValue_digits]

/-- A string is read up to its closing quote when no quote follows. -/
theorem payload (p : List Char) :
    Reads payload (doubleQuotes p ++ ['\'']) p (fun rest => ∀ c ∈ rest.head?, c ≠ '\'') := by
  intro rest hr
  induction p with
  | nil =>
    show Reader.payload ('\'' :: rest) = _
    rw [Reader.payload]
    rintro text rfl
    exact hr _ rfl rfl
  | cons c p ih =>
    by_cases hc : c = '\''
    · subst hc
      rw [doubleQuotes, if_pos rfl]
      show Reader.payload ('\'' :: '\'' :: (doubleQuotes p ++ ['\''] ++ rest)) = _
      rw [Reader.payload, ih]
      rfl
    · rw [doubleQuotes, if_neg hc]
      show Reader.payload (c :: (doubleQuotes p ++ ['\''] ++ rest)) = _
      rw [Reader.payload, ih]
      · rfl
      · exact fun _ h _ => hc h
      · exact hc

/-! ### Operators -/

theorem binaryOp {op : Operator} (ho : op.isUnary = false) {F : List Char → Prop} :
    Reads binaryOp (' ' :: (op.symbol.toList ++ [' '])) op F := by
  intro rest _
  cases op with
  | isNull => cases ho
  | isNotNull => cases ho
  | _ => rfl

theorem suffix {op : Operator} (ho : op.isUnary = true) {F : List Char → Prop} :
    Reads suffix (' ' :: op.symbol.toList) (some op) F := by
  intro rest _
  cases op with
  | isNull => rfl
  | isNotNull => rfl
  | _ => cases ho

theorem no_suffix : Reads Reader.suffix [] none AfterExpr :=
  (refuse fun _ h => h.no_isNull).bind
    ((refuse fun _ h => h.no_isNotNull).bind pure fun _ h => h) fun _ h => h

theorem direction (d : Direction) {F : List Char → Prop} :
    Reads direction (' ' :: d.keyword.toList) d F := by
  intro rest _
  cases d <;> rfl

/-! ### Tables -/

theorem no_tableAlias : Reads tableAlias [] none AfterTable := by
  intro rest hr
  show tableAlias rest = _
  unfold tableAlias
  split
  · next c text => exact if_neg (by rw [hr.no_name c text rfl]; decide)
  · rfl

theorem tableAlias {a : String} (h : IsName a.toList) :
    Reads tableAlias (' ' :: a.toList) (some a) AfterTable := by
  intro rest hr
  have hn := name h rest hr.delimited
  cases ha : a.toList with
  | nil => exact absurd ha h.isWord.nonempty
  | cons c cs =>
    have hc : isNameHead c = true := by
      have := h.head
      rwa [ha] at this
    rw [ha] at hn
    show (if isNameHead c then _ else _) = _
    rw [if_pos hc]
    exact congrArg (Option.map fun p => (some p.1, p.2)) hn

theorem table {t : Table} (hn : IsName t.name.toList) (ha : ∀ a ∈ t.aliasName, IsName a.toList) :
    Reads table (Clauses.tableText t) t AfterTable := by
  obtain ⟨n, aliasName⟩ := t
  cases aliasName with
  | none => exact (name hn).bind (map no_tableAlias) fun _ h => h.delimited
  | some a =>
    refine (name hn).bind (map (tableAlias (ha a rfl))) fun rest _ c hc => ?_
    obtain rfl := Option.some.inj hc
    rfl

end Reads

end TypedSql
