import TypedSql.Json.Parser
import TypedSql.Proofs.JsonNumbers

/-!
What a JSON text is read back as. The machine that reads a document comes out of its text with the
document, number by number as `JsonNumber.reread?` has it, unless more arrays and objects would
be open at once than it allows.
-/

namespace TypedSql.Json

open Text

mutual

/-- What the text of a document is read as where so many more arrays and objects may be opened. -/
def reread? (room : Nat) : Json → Option Json
  | null => some null
  | bool b => some (bool b)
  | number n => n.reread?
  | string s => some (string s)
  | array items => if room = 0 then none else (rereadItems? (room - 1) items).map array
  | object fields => if room = 0 then none else (rereadFields? (room - 1) fields).map object

def rereadItems? (room : Nat) : List Json → Option (List Json)
  | [] => some []
  | j :: js => (reread? room j).bind fun j' => (rereadItems? room js).map (j' :: ·)

def rereadFields? (room : Nat) : List (String × Json) → Option (List (String × Json))
  | [] => some []
  | (k, j) :: fields =>
    (reread? room j).bind fun j' => (rereadFields? room fields).map ((k, j') :: ·)

end

/-! ### Runs -/

/-- The machine after the tokens of a text, of which there are so many at most. -/
def readFrom (steps : Nat) (state : ParseState) (cs : List Char) : Option ParseState :=
  (tokensWithin steps cs).bind fun ts => ts.foldlM step state

theorem readFrom_nil (steps : Nat) (state : ParseState) : readFrom steps state [] = some state := by
  cases steps <;> rfl

/-- One token and then the rest. That a later token may be missing does not depend on what the
machine makes of this one. -/
theorem readFrom_cons {steps : Nat} {state : ParseState} {c : Char} {cs : List Char}
    (hc : isSpace c = false) : readFrom (steps + 1) state (c :: cs) =
      (scanToken (c :: cs)).bind fun p => (step state p.1).bind fun s => readFrom steps s p.2 := by
  rw [readFrom, tokensWithin, List.dropWhile_cons_of_neg (by simp [hc])]
  show ((scanToken (c :: cs)).bind fun p =>
    (tokensWithin steps p.2).bind fun ts => some (p.1 :: ts)).bind _ = _
  cases scanToken (c :: cs) with
  | none => rfl
  | some p =>
    simp only [readFrom, Option.bind_some]
    cases tokensWithin steps p.2 with
    | none => cases step state p.1 <;> rfl
    | some ts => rfl

theorem readFrom_token {steps : Nat} {state next : ParseState} {c : Char} {cs rest : List Char}
    {token : Token} (hc : isSpace c = false) (ht : scanToken (c :: cs) = some (token, rest))
    (hs : step state token = some next) :
    readFrom (steps + 1) state (c :: cs) = readFrom steps next rest := by
  rw [readFrom_cons hc, ht, Option.bind_some, hs, Option.bind_some]

/-! ### Documents -/

variable {stack : List Frame} {rest : List Char} {steps : Nat}

/-- The machine waits for a document. -/
def Awaits (expect : Expectation) : Prop :=
  expect = .value ∨ expect = .valueOrClose

theorem Awaits.step {expect : Expectation} (h : Awaits expect) {token : Token}
    (ht : token ≠ .closeArray) : step ⟨expect, stack⟩ token = stepValue token stack := by
  rcases h with rfl | rfl
  · rfl
  · cases token <;> first | rfl | exact absurd rfl ht

theorem scanToken_string (s : String) : scanToken (stringText s ++ rest) =
    some (.string s, rest) := by
  have text : stringText s ++ rest = '"' :: (s.toList.flatMap escapeChar ++ '"' :: rest) := by
    simp [stringText]
  rw [text, scanToken, scanString_escaped, Option.map_some]
  dsimp only
  rw [String.ofList_toList]

/-- The text of a document takes the machine to the document that it is read as. -/
def ReadsBack (j : Json) : Prop :=
  ∃ k ≤ j.toText.length, ∀ {expect stack rest steps}, Awaits expect → Closes rest →
    readFrom (k + steps) ⟨expect, stack⟩ (j.toText ++ rest) =
      (j.reread? (maxDepth - stack.length)).bind fun j' => readFrom steps ⟨.after j', stack⟩ rest

/-- The items of an array and its end, behind those that are there already. -/
def ItemsReadBack (items : List Json) : Prop :=
  ∃ k ≤ (itemsText items).length + 1, ∀ {expect stack rest steps front}, Awaits expect →
    readFrom (k + steps) ⟨expect, .array front :: stack⟩ (itemsText items ++ ']' :: rest) =
      (rereadItems? (maxDepth - stack.length - 1) items).bind fun items' =>
        readFrom steps ⟨.after (array (front.reverse ++ items')), stack⟩ rest

/-- The machine waits for a key. -/
def AwaitsKey (front : List (String × Json)) (state : ParseState) (stack : List Frame) : Prop :=
  ∀ key, step state (.string key) = some ⟨.colon front key, stack⟩

/-- The fields of an object and its end, behind those that are there already. -/
def FieldsReadBack (fields : List (String × Json)) : Prop :=
  ∃ k ≤ (fieldsText fields).length + 1, ∀ {state stack rest steps front},
    AwaitsKey front state stack →
    readFrom (k + steps) state (fieldsText fields ++ '\x7d' :: rest) =
      (rereadFields? (maxDepth - stack.length - 1) fields).bind fun fields' =>
        readFrom steps ⟨.after (object (front.reverse ++ fields')), stack⟩ rest

/-- One token that is a document, whatever may be open. -/
theorem readsBack_token {j : Json} {c : Char} {cs : List Char} (token : Json → Token)
    (result : Option Json) (text : j.toText = c :: cs) (hc : isSpace c = false)
    (hresult : ∀ room, j.reread? room = result)
    (hs : ∀ j' ∈ result, ∀ stack, stepValue (token j') stack = some ⟨.after j', stack⟩)
    (hscan : ∀ rest, Closes rest → scanToken (j.toText ++ rest) =
      result.map fun j' => (token j', rest)) : ReadsBack j := by
  refine ⟨1, by simp [text], fun {expect stack rest steps} he hr => ?_⟩
  have scan := hscan rest hr
  rw [text, List.cons_append] at scan ⊢
  rw [Nat.add_comm, readFrom_cons hc, scan, hresult]
  cases result with
  | none => rfl
  | some j' =>
    have other : token j' ≠ .closeArray := by
      intro h
      have := hs j' rfl []
      rw [h] at this
      cases this
    simp only [Option.map_some, Option.bind_some]
    rw [he.step other, hs j' rfl, Option.bind_some]

theorem readsBack_number (n : JsonNumber) : ReadsBack (number n) := by
  obtain ⟨c, cs, text, hc⟩ := numberText_head n
  refine readsBack_token .scalar n.reread? text hc (fun _ => rfl) (fun _ _ _ => rfl) ?_
  exact fun _ hr => scanToken_numberText n hr

/-- A bracket opens an array or object where there is room for one more. -/
theorem readFrom_open {expect : Expectation} {c : Char} {cs : List Char} {token : Token}
    {next : ParseState} (he : Awaits expect) (hc : isSpace c = false) (ht : token ≠ .closeArray)
    (hscan : scanToken (c :: cs) = some (token, cs))
    (hs : stepValue token stack = if stack.length < maxDepth then some next else none) :
    readFrom (steps + 1) ⟨expect, stack⟩ (c :: cs) =
      if maxDepth - stack.length = 0 then none else readFrom steps next cs := by
  rw [readFrom_cons hc, hscan, Option.bind_some, he.step ht, hs]
  split
  · rw [if_neg (by omega), Option.bind_some]
  · rw [if_pos (by omega), Option.bind_none]

theorem closes_cons {c : Char} (h : c = ',' ∨ c = ']' ∨ c = '\x7d') : Closes (c :: rest) := by
  intro d hd
  cases hd
  exact h

theorem room_below (frame : Frame) (stack : List Frame) :
    maxDepth - (frame :: stack).length = maxDepth - stack.length - 1 :=
  Nat.sub_add_eq _ _ _

/-! ### Arrays -/

theorem readsBack_array {items : List Json} (hi : items ≠ [] → ItemsReadBack items) :
    ReadsBack (array items) := by
  cases items with
  | nil =>
    refine ⟨2, by simp [toText, itemsText], fun {expect stack rest steps} he hr => ?_⟩
    show readFrom (2 + steps) _ ('[' :: ']' :: rest) = _
    rw [show 2 + steps = steps + 1 + 1 by omega, readFrom_open he rfl (by simp) rfl rfl, reread?]
    split
    · rfl
    · rw [readFrom_token rfl rfl rfl]
      rfl
  | cons j js =>
    obtain ⟨k, hk, read⟩ := hi (List.cons_ne_nil j js)
    refine ⟨k + 1, ?_, fun {expect stack rest steps} he hr => ?_⟩
    · rw [toText, List.length_cons, List.length_append]
      exact Nat.succ_le_succ hk
    · have text : (array (j :: js)).toText ++ rest =
        '[' :: (itemsText (j :: js) ++ ']' :: rest) := by simp [toText]
      rw [text, Nat.add_right_comm, readFrom_open he rfl (by simp) rfl rfl, reread?,
        read (.inr rfl)]
      split
      · rfl
      · rw [Option.bind_map]
        rfl

theorem itemsReadBack_cons {j : Json} {js : List Json} (hj : ReadsBack j)
    (hjs : js ≠ [] → ItemsReadBack js) : ItemsReadBack (j :: js) := by
  obtain ⟨k, hk, read⟩ := hj
  cases js with
  | nil =>
    refine ⟨k + 1, by simpa [itemsText] using hk, fun {expect stack rest steps front} he => ?_⟩
    rw [itemsText, Nat.add_assoc, read he (closes_cons (by simp)), room_below, rereadItems?,
      rereadItems?]
    cases j.reread? (maxDepth - stack.length - 1) with
    | none => rfl
    | some j' =>
      rw [Option.bind_some, Nat.add_comm, readFrom_token rfl rfl rfl, List.reverse_cons]
      rfl
  | cons i js =>
    obtain ⟨l, hl, others⟩ := hjs (List.cons_ne_nil i js)
    refine ⟨k + (l + 1), ?_, fun {expect stack rest steps front} he => ?_⟩
    · simp only [itemsText, List.length_append, List.length_cons] at hl ⊢
      omega
    · have text : itemsText (j :: i :: js) ++ ']' :: rest =
          j.toText ++ ',' :: (itemsText (i :: js) ++ ']' :: rest) := by
        simp [itemsText]
      rw [text, Nat.add_assoc, read he (closes_cons (by simp)), room_below, rereadItems?]
      cases j.reread? (maxDepth - stack.length - 1) with
      | none => rfl
      | some j' =>
        rw [Option.bind_some, Option.bind_some, Nat.add_right_comm, readFrom_token rfl rfl rfl,
          others (.inl rfl), Option.bind_map, List.reverse_cons]
        simp only [List.append_assoc, List.singleton_append]
        rfl

/-! ### Objects -/

theorem readsBack_object {fields : List (String × Json)}
    (hf : fields ≠ [] → FieldsReadBack fields) : ReadsBack (object fields) := by
  cases fields with
  | nil =>
    refine ⟨2, by simp [toText, fieldsText], fun {expect stack rest steps} he hr => ?_⟩
    show readFrom (2 + steps) _ ('\x7b' :: '\x7d' :: rest) = _
    rw [show 2 + steps = steps + 1 + 1 by omega, readFrom_open he rfl (by simp) rfl rfl, reread?]
    split
    · rfl
    · rw [readFrom_token rfl rfl rfl]
      rfl
  | cons field fields =>
    obtain ⟨k, hk, read⟩ := hf (List.cons_ne_nil field fields)
    refine ⟨k + 1, ?_, fun {expect stack rest steps} he hr => ?_⟩
    · rw [toText, List.length_cons, List.length_append]
      exact Nat.succ_le_succ hk
    · have text : (object (field :: fields)).toText ++ rest =
        '\x7b' :: (fieldsText (field :: fields) ++ '\x7d' :: rest) := by simp [toText]
      have waits : AwaitsKey [] ⟨.keyOrClose, .object [] "" :: stack⟩ stack := fun _ => rfl
      rw [text, Nat.add_right_comm, readFrom_open he rfl (by simp) rfl rfl, reread?, read waits]
      split
      · rfl
      · rw [Option.bind_map]
        rfl

/-- A key and its colon. -/
theorem readFrom_key {front : List (String × Json)} {state : ParseState} (key : String)
    (h : AwaitsKey front state stack) {cs : List Char} :
    readFrom (steps + 2) state (stringText key ++ ':' :: cs) =
      readFrom steps ⟨.value, .object front key :: stack⟩ cs := by
  have scan := @scanToken_string (':' :: cs) key
  rw [stringText, List.cons_append] at scan ⊢
  rw [readFrom_token rfl scan (h key), readFrom_token rfl rfl rfl]

theorem fieldsReadBack_cons {key : String} {j : Json} {fields : List (String × Json)}
    (hj : ReadsBack j) (hf : fields ≠ [] → FieldsReadBack fields) :
    FieldsReadBack ((key, j) :: fields) := by
  obtain ⟨k, hk, read⟩ := hj
  have quotes : 2 ≤ (stringText key).length := by simp [stringText]
  cases fields with
  | nil =>
    refine ⟨k + 3, ?_, fun {state stack rest steps front} he => ?_⟩
    · simp only [fieldsText, List.length_append, List.length_cons]
      omega
    · have text : fieldsText [(key, j)] ++ '\x7d' :: rest =
          stringText key ++ ':' :: (j.toText ++ '\x7d' :: rest) := by
        simp [fieldsText]
      rw [text, show k + 3 + steps = k + (steps + 1) + 2 by omega, readFrom_key key he,
        read (.inl rfl) (closes_cons (by simp)), room_below, rereadFields?, rereadFields?]
      cases j.reread? (maxDepth - stack.length - 1) with
      | none => rfl
      | some j' =>
        rw [Option.bind_some, readFrom_token rfl rfl rfl, List.reverse_cons]
        rfl
  | cons field fields =>
    obtain ⟨l, hl, others⟩ := hf (List.cons_ne_nil field fields)
    refine ⟨k + l + 3, ?_, fun {state stack rest steps front} he => ?_⟩
    · simp only [fieldsText, List.length_append, List.length_cons] at hl ⊢
      omega
    · have text : fieldsText ((key, j) :: field :: fields) ++ '\x7d' :: rest =
          stringText key ++ ':' :: (j.toText ++ ',' :: (fieldsText (field :: fields) ++
            '\x7d' :: rest)) := by
        simp [fieldsText]
      rw [text, show k + l + 3 + steps = k + (l + steps + 1) + 2 by omega, readFrom_key key he,
        read (.inl rfl) (closes_cons (by simp)), room_below, rereadFields?]
      cases j.reread? (maxDepth - stack.length - 1) with
      | none => rfl
      | some j' =>
        rw [Option.bind_some, Option.bind_some, readFrom_token rfl rfl rfl,
          others fun _ => rfl, Option.bind_map, List.reverse_cons]
        simp only [List.append_assoc, List.singleton_append]
        rfl

/-! ### The text as a whole -/

mutual

theorem readsBack (j : Json) : ReadsBack j := by
  cases j with
  | null =>
    exact readsBack_token .scalar (some null) rfl rfl (fun _ => rfl) (by rintro _ ⟨⟩ _; rfl)
      fun _ _ => rfl
  | bool b =>
    cases b <;> exact readsBack_token .scalar (some (bool _)) rfl rfl (fun _ => rfl)
      (by rintro _ ⟨⟩ _; rfl) fun _ _ => rfl
  | number n => exact readsBack_number n
  | string s =>
    exact readsBack_token (fun _ => .string s) (some (string s)) rfl rfl (fun _ => rfl)
      (by rintro _ ⟨⟩ _; rfl) fun _ _ => scanToken_string s
  | array items => exact readsBack_array fun hne => itemsReadBack items hne
  | object fields => exact readsBack_object fun hne => fieldsReadBack fields hne

theorem itemsReadBack (items : List Json) (hne : items ≠ []) : ItemsReadBack items := by
  match items, hne with
  | j :: js, _ => exact itemsReadBack_cons (readsBack j) fun h => itemsReadBack js h

theorem fieldsReadBack (fields : List (String × Json)) (hne : fields ≠ []) :
    FieldsReadBack fields := by
  match fields, hne with
  | (key, j) :: fields, _ =>
    exact fieldsReadBack_cons (readsBack j) fun h => fieldsReadBack fields h

end

/-- A text is read as the document that its numbers give, if not too many arrays and objects are
open at once. -/
theorem ofRawText?_toText (j : Json) : ofRawText? j.toText = j.reread? maxDepth := by
  obtain ⟨k, hk, read⟩ := readsBack j
  have ends : Closes [] := fun c hc => by cases hc
  have run : readFrom j.toText.length ⟨.value, []⟩ j.toText =
      (j.reread? maxDepth).bind fun j' => some ⟨.after j', []⟩ := by
    have h := @read .value [] [] (j.toText.length - k) (.inl rfl) ends
    simp only [List.append_nil, readFrom_nil, Nat.add_sub_cancel' hk] at h
    exact h
  show (tokensWithin j.toText.length j.toText).bind (fun ts =>
    (ts.foldlM step ⟨.value, []⟩).bind ParseState.result?) = _
  rw [← Option.bind_assoc]
  change (readFrom j.toText.length ⟨.value, []⟩ j.toText).bind _ = _
  rw [run]
  cases j.reread? maxDepth <;> rfl

end TypedSql.Json
