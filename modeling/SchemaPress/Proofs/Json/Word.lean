import SchemaPress.Proofs.Json.Narrowing
import SchemaPress.Proofs.Json.Number

/-!
# Words and numbers are read back

A value that is neither a text nor a container is written as a word: `null`, a truth value, a number.
The reader makes the same value of the word (`value_write_plain`), so no two such values are written
alike (`eq_of_write_plain`).
-/

namespace SchemaPress.Json

/-- **A value that is written as a word.** Doubles are in the form that tells them apart. -/
inductive Plain : Json → Prop where
  | null : Plain .null
  | bool (value : Bool) : Plain (.bool value)
  | int (value : Integer) : Plain (.int value)
  | double {value : Double} (h : value.Canonical) : Plain (.double value)

/-! ### Words -/

theorem afterWord_append (word rest : List Char) : afterWord word (word ++ rest) = some rest := by
  induction word with
  | nil => rfl
  | cons c word ih =>
    rw [List.cons_append, afterWord, if_pos rfl]
    exact ih

/-- **A word is found** behind those that the text does not start with. -/
theorem word?_eq {before after : List (List Char × Raw)} {word rest : List Char} {value : Raw}
    (hwords : words = before ++ (word, value) :: after) (hne : word ≠ [])
    (hbefore : ∀ other ∈ before, afterWord other.1 (word ++ rest) = none) :
    ∃ hlt, word? (word ++ rest) = some (value, ⟨rest, hlt⟩) := by
  have hlt : rest.length < (word ++ rest).length := by
    have := List.length_pos_of_ne_nil hne
    simp only [List.length_append]
    omega
  refine ⟨hlt, ?_⟩
  unfold word?
  rw [hwords, List.findSome?_append, List.findSome?_eq_none_iff.2, Option.none_or,
    List.findSome?_cons]
  · simp only [afterWord_append, hlt, dif_pos]
  · intro other hother
    simp only [hbefore other hother]

/-- What starts with no word is none. -/
theorem word?_eq_none {s : List Char} (h : ∀ word ∈ words, afterWord word.1 s = none) :
    word? s = none := by
  unfold word?
  refine List.findSome?_eq_none_iff.2 fun word hword => ?_
  simp only [h word hword]

/-- The first character of a number is a digit, behind a minus if there is one. -/
theorem exists_digit_of_number? {s : List Char} {found : Numeral × Shorter s}
    (h : number? s = some found) :
    ∃ c rest, c.isDigit = true ∧ (s = c :: rest ∨ s = '-' :: c :: rest) := by
  have first {negative : Bool} {t : List Char} {found : Numeral × Shorter t}
      (h : magnitude? negative t = some found) : ∃ c rest, c.isDigit = true ∧ t = c :: rest := by
    unfold magnitude? at h
    split at h
    · cases h
    · next c rest =>
      split at h
      · next hzero =>
        subst hzero
        exact ⟨'0', rest, rfl, rfl⟩
      · split at h
        · next hdigit => exact ⟨c, rest, hdigit, rfl⟩
        · cases h
  unfold number? at h
  split at h
  · next r =>
    cases hread : magnitude? true r with
    | none => rw [hread] at h; cases h
    | some read =>
      obtain ⟨c, rest, hc, rfl⟩ := first hread
      exact ⟨c, rest, hc, .inr rfl⟩
  · obtain ⟨c, rest, hc, rfl⟩ := first h
    exact ⟨c, rest, hc, .inl rfl⟩

/-- No word starts with a digit. -/
theorem word?_eq_none_of_number? {s : List Char} {found : Numeral × Shorter s}
    (h : number? s = some found) : word? s = none := by
  obtain ⟨c, rest, hc, hs⟩ := exists_digit_of_number? h
  have hne {d : Char} (hd : d.isDigit = false) : d ≠ c := by
    rintro rfl
    rw [hc] at hd
    cases hd
  have clash {d : Char} {word : List Char} (hd : d.isDigit = false) :
      afterWord (d :: word) (c :: rest) = none := by
    rw [afterWord, if_neg (hne hd)]
  refine word?_eq_none fun word hword => ?_
  rcases hs with rfl | rfl
  · simp only [words, List.mem_cons, List.not_mem_nil, or_false] at hword
    rcases hword with rfl | rfl | rfl | rfl | rfl | rfl <;> exact clash rfl
  · simp only [words, List.mem_cons, List.not_mem_nil, or_false] at hword
    rcases hword with rfl | rfl | rfl | rfl | rfl | rfl
    · rfl
    · rfl
    · rfl
    · rfl
    · rfl
    · exact clash (d := 'I') rfl

/-! ### Values -/

/-- What opens a text or a container. -/
def Opens (s : List Char) : Prop :=
  ∃ c rest, s = c :: rest ∧ (c = '"' ∨ c = '[' ∨ c = '\x7b')

theorem not_opens_cons {c : Char} (h : c ≠ '"' ∧ c ≠ '[' ∧ c ≠ '\x7b') (rest : List Char) :
    ¬ Opens (c :: rest) := by
  rintro ⟨d, others, heq, hd⟩
  rw [← (List.cons.inj heq).1] at hd
  rcases hd with hd | hd | hd
  · exact h.1 hd
  · exact h.2.1 hd
  · exact h.2.2 hd

theorem value_of_word? {s : List Char} (hs : ¬ Opens s) {found : Raw × Shorter s}
    (h : word? s = some found) : value s = .ok found := by
  rw [value, h]
  · rintro r rfl
    exact hs ⟨_, _, rfl, .inl rfl⟩
  · rintro r rfl
    exact hs ⟨_, _, rfl, .inr (.inl rfl)⟩
  · rintro r rfl
    exact hs ⟨_, _, rfl, .inr (.inr rfl)⟩

/-- Where a number stands, it is all that is read: an integer that is too long is no value. -/
theorem value_of_number? {s : List Char} {found : Numeral × Shorter s} (h : number? s = some found) :
    value s = found.1.value?.elim (.error .tooLong) fun read => .ok (read, found.2) := by
  obtain ⟨c, rest, hc, hs⟩ := exists_digit_of_number? h
  have hopens : ¬ Opens s := by
    rintro ⟨d, others, rfl, hd⟩
    have hd : d.isDigit = false ∧ d ≠ '-' := by
      rcases hd with rfl | rfl | rfl <;> exact ⟨rfl, by decide⟩
    rcases hs with heq | heq
    · rw [(List.cons.inj heq).1, hc] at hd
      cases hd.1
    · exact hd.2 (List.cons.inj heq).1
  rw [value, word?_eq_none_of_number? h, h]
  · cases hread : found.1.value? <;> simp only [hread, Option.elim]
  · rintro r rfl
    exact hopens ⟨_, _, rfl, .inl rfl⟩
  · rintro r rfl
    exact hopens ⟨_, _, rfl, .inr (.inl rfl)⟩
  · rintro r rfl
    exact hopens ⟨_, _, rfl, .inr (.inr rfl)⟩

/-- **A word is read back** as the value it is written for. -/
theorem value_write_plain {v : Json} (h : Plain v) (style : Style) (level : Nat) {rest : List Char}
    (hrest : EndsNumber rest) :
    ∃ hlt, value (v.write style level ++ rest) = .ok (v.toRaw, ⟨rest, hlt⟩) := by
  have word (before : List (List Char × Raw)) {after : List (List Char × Raw)} {c : Char}
      {chars : List Char} {v : Raw}
      (hwords : words = before ++ (c :: chars, v) :: after)
      (hfirst : c ≠ '"' ∧ c ≠ '[' ∧ c ≠ '\x7b')
      (hbefore : (before.all fun other => (afterWord other.1 (c :: chars ++ rest)).isNone) = true) :
      ∃ hlt, value (c :: chars ++ rest) = .ok (v, ⟨rest, hlt⟩) := by
    obtain ⟨hlt, h⟩ := word?_eq hwords (List.cons_ne_nil c chars) fun other hother =>
      Option.isNone_iff_eq_none.1 (List.all_eq_true.1 hbefore other hother)
    exact ⟨hlt, value_of_word? (not_opens_cons hfirst _) h⟩
  have number {chars : List Char} {numeral : Numeral} {v : Raw}
      (h : ∃ hlt, number? (chars ++ rest) = some (numeral, ⟨rest, hlt⟩))
      (hv : numeral.value? = some v) : ∃ hlt, value (chars ++ rest) = .ok (v, ⟨rest, hlt⟩) := by
    obtain ⟨hlt, h⟩ := h
    exact ⟨hlt, by rw [value_of_number? h, hv]; rfl⟩
  cases h with
  | null => exact word [] rfl (by decide) rfl
  | bool b =>
    cases b with
    | true => exact word (words.take 1) rfl (by decide) rfl
    | false => exact word (words.take 2) rfl (by decide) rfl
  | int n =>
    rw [Json.write]
    exact number (number?_int n.value hrest) (congrArg (Option.map Raw.int) n.ofInt?_value)
  | @double x hx =>
    rw [Json.write]
    cases x with
    | nan => exact word (words.take 3) rfl (by decide) rfl
    | infinity negative =>
      cases negative with
      | false => exact word (words.take 4) rfl (by decide) rfl
      | true => exact word (words.take 5) rfl (by decide) rfl
    | finite negative mantissa exponent => exact number (number?_double hx _ _ hrest) rfl

/-- **No two values are written as one word.** -/
theorem eq_of_write_plain {v w : Json} (hv : Plain v) (hw : Plain w) {style : Style} {level : Nat}
    (h : v.write style level = w.write style level) : v = w := by
  obtain ⟨hlt, hread⟩ := value_write_plain hv style level endsNumber_nil
  obtain ⟨hlt', hread'⟩ := value_write_plain hw style level endsNumber_nil
  -- one text is read in one way
  have heq : (value (v.write style level ++ [])).map (fun found => found.1) =
      (value (w.write style level ++ [])).map (fun found => found.1) := by rw [h]
  rw [hread, hread'] at heq
  exact toRaw_inj (Except.ok.inj heq)

end SchemaPress.Json
