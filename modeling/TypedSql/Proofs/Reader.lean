import TypedSql.Proofs.Rendering

/-!
Readers that take a value off the front of a text, and the law that relates a reader to the text it
reads: the value comes back and the rest of the text is left, for every rest that may follow.
-/

namespace TypedSql

/-- A reader gives a value and the rest of the text, or fails. -/
def Reader (α : Type) :=
  List Char → Option (α × List Char)

instance : Monad Reader where
  pure x := fun text => some (x, text)
  bind read next := fun text => (read text).bind fun p => next p.1 p.2

namespace Reader

/-- What is left of a text behind a prefix. -/
def after? : List Char → List Char → Option (List Char)
  | [], text => some text
  | _ :: _, [] => none
  | c :: front, d :: text => if c = d then after? front text else none

def expect (word : String) : Reader Unit :=
  fun text => (after? word.toList text).map ((), ·)

/-- Reads a fixed text if it comes next. -/
def accept (word : String) : Reader Bool :=
  fun text => match after? word.toList text with
    | some rest => some (true, rest)
    | none => some (false, text)

/-- Whether a fixed text comes next. -/
def ahead (word : String) : Reader Bool :=
  fun text => some (word.toList.isPrefixOf text, text)

/-- Reads an item behind a keyword, if the keyword comes next. -/
def clause {α : Type} (keyword : String) (item : Reader α) : Reader (Option α) := do
  if ← accept keyword then
    let x ← item
    return some x
  else
    return none

/-- Reads items until there is none, at most the given number of them. -/
def many {α : Type} : Nat → Reader (Option α) → Reader (List α)
  | 0, _ => pure []
  | n + 1, item => do
    match ← item with
    | none => return []
    | some x =>
      let xs ← many n item
      return x :: xs

/-- Reads a list with commas in it. -/
def commas {α : Type} (n : Nat) (item : Reader α) : Reader (List α) := do
  let x ← item
  let xs ← many n (clause ", " item)
  return x :: xs

end Reader

/-- The reader takes the value off the text whenever what follows allows it. -/
def Reads {α : Type} (read : Reader α) (text : List Char) (value : α)
    (follow : List Char → Prop) : Prop :=
  ∀ rest, follow rest → read (text ++ rest) = some (value, rest)

/-- The rest of a text is empty or starts with one of the words. -/
def Starts (words : List String) (rest : List Char) : Prop :=
  rest = [] ∨ ∃ w ∈ words, w.toList <+: rest

/-- Whether no text starts with the word and with one of the others. -/
def distinct (word : String) (others : List String) : Bool :=
  !word.toList.isEmpty && others.all fun w =>
    !word.toList.isPrefixOf w.toList && !w.toList.isPrefixOf word.toList

namespace Starts

variable {words : List String} {rest : List Char}

theorem excludes (h : Starts words rest) {word : String} (hd : distinct word words = true) :
    ¬ word.toList <+: rest := by
  simp only [distinct, Bool.and_eq_true, Bool.not_eq_true', List.isEmpty_eq_false_iff,
    List.all_eq_true] at hd
  intro hp
  rcases h with rfl | ⟨w, hw, hr⟩
  · exact hd.1 (List.prefix_nil.mp hp)
  · obtain ⟨h₁, h₂⟩ := hd.2 w hw
    rcases List.prefix_or_prefix_of_prefix hp hr with h | h
    · exact Bool.false_ne_true (h₁.symm.trans (List.isPrefixOf_iff_prefix.mpr h))
    · exact Bool.false_ne_true (h₂.symm.trans (List.isPrefixOf_iff_prefix.mpr h))

theorem mono (h : Starts words rest) {others : List String} (hs : words ⊆ others) :
    Starts others rest := by
  rcases h with rfl | ⟨w, hw, hr⟩
  · exact .inl rfl
  · exact .inr ⟨w, hs hw, hr⟩

theorem of_append {word : String} (hw : word ∈ words) (text : List Char) :
    Starts words (word.toList ++ text) :=
  .inr ⟨word, hw, List.prefix_append _ _⟩

/-- A text that starts with one word does not start with another. -/
theorem excludes_append {word : String} (other : String) {text rest : List Char}
    (hd : distinct word [other] = true) : ¬ word.toList <+: other.toList ++ text ++ rest := by
  rw [List.append_assoc]
  exact (of_append List.mem_cons_self _).excludes hd

/-- What follows an optional clause starts with the keyword of the clause or as before. -/
theorem optional (h : Starts words rest) (keyword : String) (text : Option (List Char)) :
    Starts (keyword :: words) (Clauses.optional keyword text ++ rest) := by
  cases text with
  | none => exact h.mono (List.subset_cons_self _ _)
  | some text =>
    rw [Clauses.optional, List.append_assoc]
    exact of_append List.mem_cons_self _

theorem head (h : Starts words rest) {test : Char → Bool}
    (hw : words.all (fun w => w.toList.head?.any test) = true) :
    ∀ c ∈ rest.head?, test c = true := by
  intro c hc
  rcases h with rfl | ⟨w, hm, tail, rfl⟩
  · cases hc
  · have hp := List.all_eq_true.mp hw w hm
    cases hd : w.toList.head? with
    | none =>
      rw [hd] at hp
      cases hp
    | some d =>
      rw [hd] at hp
      rw [List.head?_append, hd, Option.some_or] at hc
      exact Option.some.inj hc ▸ hp

end Starts

namespace Reader

variable {front text : List Char}

theorem after?_append (front text : List Char) : after? front (front ++ text) = some text := by
  induction front with
  | nil => cases text <;> rfl
  | cons c front ih => rwa [List.cons_append, after?, if_pos rfl]

theorem after?_eq_none (h : ¬ front <+: text) : after? front text = none := by
  induction front generalizing text with
  | nil => exact absurd (List.nil_prefix) h
  | cons c front ih =>
    cases text with
    | nil => rfl
    | cons d text =>
      rw [after?]
      split
      · next hc => exact ih fun hp => h (List.cons_prefix_cons.mpr ⟨hc, hp⟩)
      · rfl

end Reader

namespace Reads

open Reader

variable {α β : Type} {read : Reader α} {a b : List Char} {x : α} {y : β}
  {F G : List Char → Prop}

theorem weaken (h : Reads read a x F) (hf : ∀ rest, G rest → F rest) : Reads read a x G :=
  fun rest hg => h rest (hf rest hg)

theorem pure : Reads (Pure.pure x) [] x F :=
  fun _ _ => rfl

/-- One reader behind another: what follows the first is the text of the second and its rest. -/
theorem bind {next : α → Reader β} (ha : Reads read a x F) (hb : Reads (next x) b y G)
    (hf : ∀ rest, G rest → F (b ++ rest)) : Reads (read >>= next) (a ++ b) y G := by
  intro rest hg
  show (read (a ++ b ++ rest)).bind _ = _
  rw [List.append_assoc, ha _ (hf rest hg)]
  exact hb rest hg

theorem map {f : α → β} (h : Reads read a x F) :
    Reads (read >>= fun x => Pure.pure (f x)) a (f x) F := by
  rw [← List.append_nil a]
  exact h.bind pure fun _ hf => hf

theorem expect (word : String) : Reads (expect word) word.toList () F := by
  intro rest _
  rw [Reader.expect, after?_append]
  rfl

theorem accept (word : String) : Reads (accept word) word.toList true F := by
  intro rest _
  rw [Reader.accept, after?_append]

theorem refuse {word : String} (h : ∀ rest, F rest → ¬ word.toList <+: rest) :
    Reads (Reader.accept word) [] false F := by
  intro rest hf
  rw [List.nil_append, Reader.accept, after?_eq_none (h rest hf)]

theorem refuse_bind {word : String} {next : Bool → Reader β}
    (h : ∀ rest, F rest → ¬ word.toList <+: b ++ rest) (hb : Reads (next false) b y F) :
    Reads (Reader.accept word >>= next) b y F := by
  have none : Reads (Reader.accept word) [] false fun rest => ¬ word.toList <+: rest :=
    refuse fun _ hp => hp
  exact none.bind hb h

theorem ahead_bind {word : String} {next : Bool → Reader β} (seen : Bool)
    (h : ∀ rest, F rest → word.toList.isPrefixOf (b ++ rest) = seen)
    (hb : Reads (next seen) b y F) : Reads (ahead word >>= next) b y F := by
  intro rest hf
  show next (word.toList.isPrefixOf (b ++ rest)) (b ++ rest) = _
  rw [h rest hf]
  exact hb rest hf

theorem clause_some {keyword : String} (h : Reads read a x F) :
    Reads (clause keyword read) (keyword.toList ++ a) (some x) F :=
  (accept (F := fun _ => True) keyword).bind (map h) fun _ _ => trivial

theorem clause_none {keyword : String} (h : ∀ rest, F rest → ¬ keyword.toList <+: rest) :
    Reads (clause keyword read) [] none F :=
  (refuse h).bind pure fun _ hf => hf

theorem clause {ι : Type} {keyword : String} {item : Option ι} {text : ι → List Char}
    {value : ι → α} (h : ∀ i ∈ item, Reads read (text i) (value i) F)
    (hk : ∀ rest, F rest → ¬ keyword.toList <+: rest) :
    Reads (Reader.clause keyword read) (Clauses.optional keyword (item.map text))
      (item.map value) F := by
  cases item with
  | none => exact clause_none hk
  | some i => exact clause_some (h i rfl)

/-- Items one behind another, up to where none follows. -/
theorem many {ι : Type} {n : Nat} {items : List ι} {item : Reader (Option α)}
    {text : ι → List Char} {value : ι → α} (hn : items.length ≤ n)
    (hi : ∀ i ∈ items, Reads item (text i) (some (value i)) G) (he : Reads item [] none F)
    (hf : ∀ rest, F rest → G rest) (hg : ∀ i ∈ items, ∀ rest, G (text i ++ rest)) :
    Reads (many n item) (items.flatMap text) (items.map value) F := by
  induction items generalizing n with
  | nil =>
    cases n with
    | zero => exact pure
    | succ n => exact he.bind pure fun _ hf => hf
  | cons i items ih =>
    cases n with
    | zero => cases hn
    | succ n =>
      have others := ih (Nat.le_of_succ_le_succ hn)
        (fun j hj => hi j (List.mem_cons_of_mem i hj))
        fun j hj => hg j (List.mem_cons_of_mem i hj)
      refine (hi i List.mem_cons_self).bind (map others) fun rest h => ?_
      cases items with
      | nil => exact hf rest h
      | cons j items =>
        rw [List.map_cons, List.flatten_cons, List.append_assoc]
        exact hg j (List.mem_cons_of_mem i List.mem_cons_self) _

/-- A list that is not empty, when each item may be followed by a comma or by what follows the
list. -/
theorem commas {ι : Type} {n : Nat} {items : List ι} {words : List String} {text : ι → List Char}
    {value : ι → α} (hne : items ≠ []) (hn : items.length ≤ n) (hd : distinct ", " words = true)
    (hi : ∀ i ∈ items, Reads read (text i) (value i) (Starts (", " :: words))) :
    Reads (commas n read) (commaSeparated (items.map text)) (items.map value)
      (Starts words) := by
  have weaker : ∀ rest, Starts words rest → Starts (", " :: words) rest :=
    fun _ h => h.mono (List.subset_cons_self _ _)
  cases items with
  | nil => exact absurd rfl hne
  | cons i items =>
    have others : Reads (Reader.many n (Reader.clause ", " read))
        (items.flatMap fun j => ", ".toList ++ text j) (items.map value) (Starts words) := by
      refine many (Nat.le_of_succ_le hn) (fun j hj => ?_) ?_ weaker fun j _ rest => ?_
      · exact clause_some (hi j (List.mem_cons_of_mem i hj))
      · exact clause_none fun _ h => h.excludes hd
      · rw [List.append_assoc]
        exact Starts.of_append List.mem_cons_self _
    rw [List.map_cons, commaSeparated_cons, List.flatMap_map]
    refine (hi i List.mem_cons_self).bind (map others) fun rest h => ?_
    cases items with
    | nil => exact weaker rest h
    | cons j items =>
      rw [List.flatMap_cons, List.append_assoc, List.append_assoc]
      exact Starts.of_append List.mem_cons_self _

end Reads

end TypedSql
