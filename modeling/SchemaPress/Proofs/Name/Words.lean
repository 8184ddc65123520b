import SchemaPress.Proofs.Name.Characters

/-!
# The words of a text

A word is of one kind: capitals, small letters, which may have one capital in front, or digits (`Uniform`). A text
is cut into such words and loses neither a letter nor a digit (`uniform_of_mem_wordsOf`, `flatten_wordsOf`).

The words are cut out from the right: a character joins the word behind it or starts one of its own, and the kinds
of two characters, for capitals of three, decide which (`Joins`). From the left they are what the pattern
`[A-Z]+(?![a-z])|[A-Z]?[a-z]+|[0-9]+` finds (`finds_iff`). There the choice is made by trying: a run of capitals is
taken as far as it goes, its last one is given back where a small letter follows, and the next part of the pattern is
tried where nothing is left of it. Both choices are the same, one character after the other: one that joins the text
behind it is taken with what the pattern takes there, and any other one is taken alone
(`FrontPattern.head?_ways_of_joins`, `FrontPattern.head?_ways_of_not_joins`).

Snake case is a normal form. Words of one kind are found again where a separator stands between them
(`wordsOf_intercalate`): nothing joins a separator, and each character of such a word joins those behind it. Small
letters and capitals leave a word of one kind, so a name in snake case has the words of its text in small letters,
and snake case takes no more of a text than these (`snakeCase_congr`).
-/

namespace SchemaPress.Text

open Name (isAlphanum_of_isUpper isAlphanum_of_isLower isAlphanum_of_isDigit toList_snakeCase)

/-! ### Kinds of characters

A letter or a digit is of one kind, and the kinds exclude each other.
-/

theorem isUpper_or_isLower_or_isDigit {c : Char} (h : c.isAlphanum = true) :
    c.isUpper = true ∨ c.isLower = true ∨ c.isDigit = true := by
  simpa [Char.isAlphanum, Char.isAlpha, or_assoc] using h

theorem only_upper {c : Char} (h : c.isUpper = true) : c.isLower = false ∧ c.isDigit = false :=
  ⟨Bool.eq_false_iff.2 (Char.not_isLower_of_isUpper h),
    Bool.eq_false_iff.2 fun hdigit => not_isUpper_of_isDigit hdigit h⟩

theorem only_lower {c : Char} (h : c.isLower = true) : c.isUpper = false ∧ c.isDigit = false :=
  ⟨Bool.eq_false_iff.2 (Char.not_isUpper_of_isLower h),
    Bool.eq_false_iff.2 fun hdigit => not_isLower_of_isDigit hdigit h⟩

theorem only_digit {c : Char} (h : c.isDigit = true) : c.isUpper = false ∧ c.isLower = false :=
  ⟨Bool.eq_false_iff.2 (not_isUpper_of_isDigit h), Bool.eq_false_iff.2 (not_isLower_of_isDigit h)⟩

/-! ### Kinds of words -/

/-- Characters of one kind, at least one of them. -/
def IsRun (kind : Char → Bool) (word : List Char) : Prop :=
  word ≠ [] ∧ ∀ c ∈ word, kind c = true

section Run

variable {kind : Char → Bool} {c d : Char} {word rest : List Char}

theorem isRun_singleton : IsRun kind [c] ↔ kind c = true := by
  simp [IsRun]

theorem isRun_cons : IsRun kind (c :: d :: rest) ↔ kind c = true ∧ IsRun kind (d :: rest) := by
  simp [IsRun]

theorem IsRun.head (h : IsRun kind (c :: rest)) : kind c = true :=
  h.2 c List.mem_cons_self

theorem IsRun.map {other : Char → Bool} (h : IsRun kind word) {f : Char → Char}
    (hf : ∀ c, kind c = true → other (f c) = true) : IsRun other (word.map f) := by
  refine ⟨by simpa using h.1, fun c hc => ?_⟩
  obtain ⟨d, hd, rfl⟩ := List.mem_map.1 hc
  exact hf d (h.2 d hd)

theorem IsRun.mono {other : Char → Bool} (h : IsRun kind word)
    (hkind : ∀ c, kind c = true → other c = true) : IsRun other word :=
  ⟨h.1, fun c hc => hkind c (h.2 c hc)⟩

end Run

/-- **Words of one kind**: capitals, small letters, which may have one capital in front, or digits. -/
inductive Uniform : List Char → Prop
  | capitals {word : List Char} (h : IsRun Char.isUpper word) : Uniform word
  | small {word : List Char} (h : IsRun Char.isLower word) : Uniform word
  | capitalized {c : Char} {word : List Char} (hc : c.isUpper = true)
      (h : IsRun Char.isLower word) : Uniform (c :: word)
  | digits {word : List Char} (h : IsRun Char.isDigit word) : Uniform word

theorem uniform_singleton {c : Char} (hc : c.isAlphanum = true) : Uniform [c] := by
  obtain hupper | hlower | hdigit := isUpper_or_isLower_or_isDigit hc
  · exact .capitals (isRun_singleton.2 hupper)
  · exact .small (isRun_singleton.2 hlower)
  · exact .digits (isRun_singleton.2 hdigit)

theorem Uniform.letters_or_digits {word : List Char} (h : Uniform word) :
    IsRun Char.isAlpha word ∨ IsRun Char.isDigit word := by
  have hupper (c : Char) (hc : c.isUpper = true) : c.isAlpha = true := by simp [Char.isAlpha, hc]
  have hlower (c : Char) (hc : c.isLower = true) : c.isAlpha = true := by simp [Char.isAlpha, hc]
  cases h with
  | capitals h => exact .inl (h.mono hupper)
  | small h => exact .inl (h.mono hlower)
  | capitalized hc h =>
    exact .inl ⟨List.cons_ne_nil _ _, List.forall_mem_cons.2 ⟨hupper _ hc, (h.mono hlower).2⟩⟩
  | digits h => exact .inr h

theorem Uniform.isWord {word : List Char} (h : Uniform word) : IsWord word := by
  obtain hletters | hdigits := h.letters_or_digits
  · exact hletters.mono fun c hc => by simp [Char.isAlphanum, hc]
  · exact hdigits.mono fun _ => isAlphanum_of_isDigit

/-! ### What joins a word -/

/-- **What joins the text behind it**: a digit joins digits, a small letter joins small letters, and a capital joins
small letters or another capital that has no small letter behind it. -/
inductive Joins (c : Char) : List Char → Prop
  | digit {d : Char} {rest : List Char} (hc : c.isDigit = true) (hd : d.isDigit = true) : Joins c (d :: rest)
  | small {d : Char} {rest : List Char} (hc : c.isLower = true) (hd : d.isLower = true) : Joins c (d :: rest)
  | front {d : Char} {rest : List Char} (hc : c.isUpper = true) (hd : d.isLower = true) : Joins c (d :: rest)
  | capital {d : Char} {rest : List Char} (hc : c.isUpper = true) (hd : d.isUpper = true)
      (hrest : rest.head?.any Char.isLower = false) : Joins c (d :: rest)

section Joins

variable {c : Char} {text : List Char}

theorem Joins.isAlphanum (h : Joins c text) : c.isAlphanum = true := by
  cases h with
  | digit hc => exact isAlphanum_of_isDigit hc
  | small hc => exact isAlphanum_of_isLower hc
  | front hc => exact isAlphanum_of_isUpper hc
  | capital hc => exact isAlphanum_of_isUpper hc

theorem Joins.ne_nil (h : Joins c text) : text ≠ [] := by
  rintro rfl
  cases h

theorem joins_digit (hc : c.isDigit = true) : Joins c text ↔ text.head?.any Char.isDigit = true := by
  have honly := only_digit hc
  constructor
  · intro h
    cases h <;> simp_all
  · intro h
    cases text with
    | nil => cases h
    | cons d rest => exact .digit hc h

theorem joins_small (hc : c.isLower = true) : Joins c text ↔ text.head?.any Char.isLower = true := by
  have honly := only_lower hc
  constructor
  · intro h
    cases h <;> simp_all
  · intro h
    cases text with
    | nil => cases h
    | cons d rest => exact .small hc h

theorem joins_capital (hc : c.isUpper = true) :
    Joins c text ↔ text.head?.any Char.isLower = true ∨
      (text.head?.any Char.isUpper = true ∧ text.tail.head?.any Char.isLower = false) := by
  have honly := only_upper hc
  constructor
  · intro h
    cases h <;> simp_all
  · intro h
    cases text with
    | nil => simp at h
    | cons d rest =>
      obtain hd | ⟨hd, hrest⟩ := h
      · exact .front hc hd
      · exact .capital hc hd hrest

theorem joinsWord_iff (hc : c.isAlphanum = true) (word : List Char) :
    joinsWord c word = true ↔ Joins c word := by
  cases word with
  | nil => exact ⟨nofun, nofun⟩
  | cons d rest =>
    obtain hupper | hlower | hdigit := isUpper_or_isLower_or_isDigit hc
    · rw [joins_capital hupper]
      simp [joinsWord, only_upper hupper]
    · rw [joins_small hlower]
      simp [joinsWord, only_lower hlower, hlower]
    · rw [joins_digit hdigit]
      simp [joinsWord, hdigit]

/-- What joins a word of one kind leaves it one. -/
theorem Joins.uniform {word : List Char} (h : Joins c word) (hword : Uniform word) : Uniform (c :: word) := by
  cases hword with
  | capitals hrun =>
    cases h with
    | capital hc => exact .capitals (isRun_cons.2 ⟨hc, hrun⟩)
    -- what joins no capital does not join these
    | _ => simp_all [only_upper hrun.head]
  | small hrun =>
    cases h with
    | small hc => exact .small (isRun_cons.2 ⟨hc, hrun⟩)
    | front hc => exact .capitalized hc hrun
    | _ => simp_all [only_lower hrun.head]
  | capitalized hd hrun =>
    -- a capital in front of small letters is theirs, so nothing joins it
    obtain ⟨e, others, rfl⟩ := List.exists_cons_of_ne_nil hrun.1
    cases h with
    | capital _ _ hrest => exact absurd (hrest.symm.trans hrun.head) Bool.false_ne_true
    | _ => simp_all [only_upper hd]
  | digits hrun =>
    cases h with
    | digit hc => exact .digits (isRun_cons.2 ⟨hc, hrun⟩)
    | _ => simp_all [only_digit hrun.head]

/-- In a word of one kind each character joins those behind it. -/
theorem Uniform.tail {d : Char} {rest : List Char} (h : Uniform (c :: d :: rest)) :
    Joins c (d :: rest) ∧ Uniform (d :: rest) := by
  cases h with
  | capitals h =>
    obtain ⟨hc, hrest⟩ := isRun_cons.1 h
    refine ⟨.capital hc hrest.head ?_, .capitals hrest⟩
    cases rest with
    | nil => rfl
    | cons e others => exact (only_upper (isRun_cons.1 hrest).2.head).1
  | small h =>
    obtain ⟨hc, hrest⟩ := isRun_cons.1 h
    exact ⟨.small hc hrest.head, .small hrest⟩
  | capitalized hc h => exact ⟨.front hc h.head, .small h⟩
  | digits h =>
    obtain ⟨hc, hrest⟩ := isRun_cons.1 h
    exact ⟨.digit hc hrest.head, .digits hrest⟩

end Joins

/-! ### Cutting -/

/-- A text cut into words. -/
def cut (text : List Char) : WordCut :=
  text.foldr WordCut.push ⟨[], []⟩

theorem wordsOf_eq (text : List Char) : wordsOf text = (cut text).words := rfl

theorem words_of_nil {parts : WordCut} (h : parts.current = []) : parts.words = parts.later :=
  if_pos (by simpa using h)

theorem words_of_ne_nil {parts : WordCut} (h : parts.current ≠ []) :
    parts.words = parts.current :: parts.later :=
  if_neg (by simpa using h)

/-- **One more character in front** stands apart from the words, joins the first one or is one of its own. -/
theorem cut_cons_cases (c : Char) (rest : List Char) :
    (c.isAlphanum = false ∧ cut (c :: rest) = ⟨[], wordsOf rest⟩) ∨
    (Joins c (cut rest).current ∧ cut (c :: rest) = ⟨c :: (cut rest).current, (cut rest).later⟩) ∨
    (c.isAlphanum = true ∧ ¬ Joins c (cut rest).current ∧ cut (c :: rest) = ⟨[c], wordsOf rest⟩) := by
  have hcons : cut (c :: rest) = (cut rest).push c := rfl
  rw [hcons, WordCut.push, wordsOf_eq]
  cases hc : c.isAlphanum with
  | false => exact .inl ⟨rfl, rfl⟩
  | true =>
    have hword := joinsWord_iff hc (cut rest).current
    by_cases hjoins : Joins c (cut rest).current
    · exact .inr (.inl ⟨hjoins, by simp [hword.2 hjoins]⟩)
    · exact .inr (.inr ⟨rfl, hjoins, by simp [mt hword.1 hjoins]⟩)

theorem cut_cons_of_not_isAlphanum {c : Char} (hc : c.isAlphanum = false) (rest : List Char) :
    cut (c :: rest) = ⟨[], wordsOf rest⟩ := by
  obtain ⟨-, hcut⟩ | ⟨hjoins, -⟩ | ⟨hno, -, -⟩ := cut_cons_cases c rest
  · exact hcut
  · exact absurd (hc.symm.trans hjoins.isAlphanum) Bool.false_ne_true
  · exact absurd (hc.symm.trans hno) Bool.false_ne_true

theorem flatten_words (parts : WordCut) : parts.words.flatten = parts.current ++ parts.later.flatten := by
  by_cases h : parts.current = []
  · rw [words_of_nil h, h, List.nil_append]
  · rw [words_of_ne_nil h, List.flatten_cons]

/-- **The words hold the letters and digits of a text**, in their order. -/
theorem flatten_wordsOf (text : List Char) : (wordsOf text).flatten = text.filter Char.isAlphanum := by
  induction text with
  | nil => rfl
  | cons c rest ih =>
    rw [wordsOf_eq, flatten_words]
    obtain ⟨hc, hcut⟩ | ⟨hjoins, hcut⟩ | ⟨hc, -, hcut⟩ := cut_cons_cases c rest
    · rw [hcut, List.filter_cons_of_neg (by simp [hc]), ← ih]
      rfl
    · rw [hcut, List.filter_cons_of_pos hjoins.isAlphanum, ← ih, wordsOf_eq, flatten_words]
      rfl
    · rw [hcut, List.filter_cons_of_pos hc, ← ih]
      rfl

/-- **Every word is of one kind.** -/
theorem uniform_of_mem_wordsOf {text : List Char} : ∀ word ∈ wordsOf text, Uniform word := by
  induction text with
  | nil => exact nofun
  | cons c rest ih =>
    rw [wordsOf_eq]
    obtain ⟨-, hcut⟩ | ⟨hjoins, hcut⟩ | ⟨hc, -, hcut⟩ := cut_cons_cases c rest
    · rw [hcut, words_of_nil rfl]
      exact ih
    · rw [wordsOf_eq, words_of_ne_nil hjoins.ne_nil] at ih
      obtain ⟨hcurrent, hlater⟩ := List.forall_mem_cons.1 ih
      rw [hcut, words_of_ne_nil (List.cons_ne_nil _ _)]
      exact List.forall_mem_cons.2 ⟨hjoins.uniform hcurrent, hlater⟩
    · rw [hcut, words_of_ne_nil (List.cons_ne_nil _ _)]
      exact List.forall_mem_cons.2 ⟨uniform_singleton hc, ih⟩

/-! ### The first word and the text -/

theorem head?_current (text : List Char) :
    (cut text).current.head? = text.head?.filter Char.isAlphanum := by
  cases text with
  | nil => rfl
  | cons c rest =>
    obtain ⟨hc, hcut⟩ | ⟨hjoins, hcut⟩ | ⟨hc, -, hcut⟩ := cut_cons_cases c rest
    · simp [hcut, hc, Option.filter]
    · simp [hcut, hjoins.isAlphanum, Option.filter]
    · simp [hcut, hc, Option.filter]

/-- The kind of the first character of the first word can be read off the text. -/
theorem any_head?_current {kind : Char → Bool} (hkind : ∀ c, kind c = true → c.isAlphanum = true)
    (text : List Char) : (cut text).current.head?.any kind = text.head?.any kind := by
  rw [head?_current]
  cases text with
  | nil => rfl
  | cons c rest =>
    cases hc : c.isAlphanum with
    | false =>
      have hno : kind c = false := Bool.eq_false_iff.2 fun h => Bool.eq_false_iff.1 hc (hkind c h)
      simp [Option.filter, hc, hno]
    | true => simp [Option.filter, hc]

/-- Whether a small letter stands behind a capital at the front of the first word can be read off the text too. -/
theorem any_head?_tail_current {c : Char} (hc : c.isUpper = true) (rest : List Char) :
    (cut (c :: rest)).current.tail.head?.any Char.isLower = rest.head?.any Char.isLower := by
  rw [← any_head?_current (fun _ => isAlphanum_of_isLower) rest]
  obtain ⟨hno, -⟩ | ⟨-, hcut⟩ | ⟨-, hapart, hcut⟩ := cut_cons_cases c rest
  · exact absurd (hno.symm.trans (isAlphanum_of_isUpper hc)) Bool.false_ne_true
  · rw [hcut]
    rfl
  · rw [joins_capital hc, not_or] at hapart
    rw [hcut, Bool.eq_false_iff.2 hapart.1]
    rfl

/-- **What joins the first word can be read off the text.** -/
theorem joins_current_iff (c : Char) (rest : List Char) : Joins c (cut rest).current ↔ Joins c rest := by
  by_cases hc : c.isAlphanum = true
  · obtain hupper | hlower | hdigit := isUpper_or_isLower_or_isDigit hc
    · rw [joins_capital hupper, joins_capital hupper, any_head?_current fun _ => isAlphanum_of_isUpper,
        any_head?_current fun _ => isAlphanum_of_isLower]
      refine or_congr_right (and_congr_right fun hfront => ?_)
      cases rest with
      | nil => cases hfront
      | cons d others =>
        rw [any_head?_tail_current hfront]
        rfl
    · rw [joins_small hlower, joins_small hlower, any_head?_current fun _ => isAlphanum_of_isLower]
    · rw [joins_digit hdigit, joins_digit hdigit, any_head?_current fun _ => isAlphanum_of_isDigit]
  · exact ⟨fun h => absurd h.isAlphanum hc, fun h => absurd h.isAlphanum hc⟩

/-! ### Patterns -/

/-- A way in which a pattern fits the front of a text: what it takes and what it leaves. -/
structure Way where
  /-- What is taken. -/
  taken : List Char
  /-- What is left. -/
  rest : List Char

/-- A way that takes one more character in front. -/
def Way.push (c : Char) (way : Way) : Way :=
  ⟨c :: way.taken, way.rest⟩

theorem head?_map_push {c : Char} {found others : List Way} (h : found ≠ []) :
    (found.map (Way.push c) ++ others).head? = found.head?.map (Way.push c) := by
  rw [List.head?_append_of_ne_nil _ (by simpa using h), List.head?_map]

/-- A pattern for the front of a text. -/
inductive FrontPattern where
  /-- Characters of a kind, at least one. -/
  | many (kind : Char → Bool)
  /-- A character of a kind, or nothing. -/
  | maybe (kind : Char → Bool)
  /-- Nothing, where no character of a kind follows. -/
  | notBefore (kind : Char → Bool)
  /-- One pattern behind the other. -/
  | both (first second : FrontPattern)
  /-- One of two patterns. -/
  | either (first second : FrontPattern)

namespace FrontPattern

/-- The runs of a kind at the front of a text, the longest one first. -/
def runs (kind : Char → Bool) : List Char → List Way
  | [] => []
  | c :: rest => if kind c then (runs kind rest).map (Way.push c) ++ [⟨[c], rest⟩] else []

/-- **The ways in which a pattern fits**, in the order in which they are tried: as many characters as there are, and
the first of two patterns, come first. -/
def ways : FrontPattern → List Char → List Way
  | many kind, text => runs kind text
  | maybe _, [] => [⟨[], []⟩]
  | maybe kind, c :: rest => if kind c then [⟨[c], rest⟩, ⟨[], c :: rest⟩] else [⟨[], c :: rest⟩]
  | notBefore kind, text => if text.head?.any kind then [] else [⟨[], text⟩]
  | both first second, text =>
    (first.ways text).flatMap fun front =>
      (second.ways front.rest).map fun back => ⟨front.taken ++ back.taken, back.rest⟩
  | either first second, text => first.ways text ++ second.ways text

theorem runs_append {kind : Char → Bool} {text : List Char} {way : Way} (h : way ∈ runs kind text) :
    way.taken ++ way.rest = text := by
  induction text generalizing way with
  | nil => cases h
  | cons c rest ih =>
    unfold runs at h
    split at h
    · rcases List.mem_append.1 h with h | h
      · obtain ⟨shorter, hshorter, rfl⟩ := List.mem_map.1 h
        exact congrArg (c :: ·) (ih hshorter)
      · obtain rfl := List.mem_singleton.1 h
        rfl
    · cases h

/-- **A way parts the text**: what is taken and what is left, one behind the other, are the text. -/
theorem taken_append_rest {pattern : FrontPattern} {text : List Char} {way : Way}
    (h : way ∈ pattern.ways text) : way.taken ++ way.rest = text := by
  induction pattern generalizing text way with
  | many kind => exact runs_append h
  | maybe kind =>
    cases text with
    | nil =>
      obtain rfl := List.mem_singleton.1 h
      rfl
    | cons c rest =>
      unfold ways at h
      split at h
      · rcases List.mem_cons.1 h with rfl | h
        · rfl
        · obtain rfl := List.mem_singleton.1 h
          rfl
      · obtain rfl := List.mem_singleton.1 h
        rfl
  | notBefore kind =>
    unfold ways at h
    split at h
    · cases h
    · obtain rfl := List.mem_singleton.1 h
      rfl
  | both first second ihfirst ihsecond =>
    obtain ⟨front, hfront, h⟩ := List.mem_flatMap.1 h
    obtain ⟨back, hback, rfl⟩ := List.mem_map.1 h
    change (front.taken ++ back.taken) ++ back.rest = text
    rw [List.append_assoc, ihsecond hback, ihfirst hfront]
  | either first second ihfirst ihsecond =>
    rcases List.mem_append.1 h with h | h
    · exact ihfirst h
    · exact ihsecond h

/-- **What a pattern finds in a text**, from left to right: the first way counts where there is one, and a character
is passed over where there is none. -/
inductive Finds (pattern : FrontPattern) : List Char → List (List Char) → Prop
  | done : Finds pattern [] []
  | passed {c : Char} {rest : List Char} {found : List (List Char)} (hnone : pattern.ways (c :: rest) = [])
      (h : Finds pattern rest found) : Finds pattern (c :: rest) found
  | taken {c : Char} {rest : List Char} {way : Way} {found : List (List Char)}
      (hway : (pattern.ways (c :: rest)).head? = some way) (hsome : way.taken ≠ [])
      (h : Finds pattern way.rest found) : Finds pattern (c :: rest) (way.taken :: found)

theorem Finds.unique {pattern : FrontPattern} {text : List Char} {found other : List (List Char)}
    (h : pattern.Finds text found) (h' : pattern.Finds text other) : found = other := by
  induction h generalizing other with
  | done =>
    cases h'
    rfl
  | passed hnone _ ih =>
    cases h' with
    | passed _ h' => exact ih h'
    | taken hway => simp [hnone] at hway
  | taken hway _ _ ih =>
    cases h' with
    | passed hnone => simp [hnone] at hway
    | taken hway' _ h' =>
      obtain rfl := Option.some.inj (hway.symm.trans hway')
      rw [ih h']

/-! ### The pattern for words -/

/-- Capitals that no small letter follows: `[A-Z]+(?![a-z])`. -/
def capitals : FrontPattern :=
  both (many Char.isUpper) (notBefore Char.isLower)

/-- Small letters that may have a capital in front: `[A-Z]?[a-z]+`. -/
def small : FrontPattern :=
  both (maybe Char.isUpper) (many Char.isLower)

/-- **The pattern for words**: `[A-Z]+(?![a-z])|[A-Z]?[a-z]+|[0-9]+`. -/
def word : FrontPattern :=
  either capitals (either small (many Char.isDigit))

section Ways

variable {kind : Char → Bool} {c : Char} {text rest : List Char}

theorem runs_of_head (h : text.head?.any kind = false) : runs kind text = [] := by
  cases text with
  | nil => rfl
  | cons d others => exact if_neg (Bool.eq_false_iff.1 h)

theorem runs_cons (hc : kind c = true) :
    runs kind (c :: rest) = (runs kind rest).map (Way.push c) ++ [⟨[c], rest⟩] :=
  if_pos hc

theorem runs_ne_nil (hc : kind c = true) : runs kind (c :: rest) ≠ [] := by
  simp [runs_cons hc]

theorem ways_capitals_of_head (h : text.head?.any Char.isUpper = false) : capitals.ways text = [] := by
  simp [capitals, ways, runs_of_head h]

theorem ways_capitals_cons (hc : c.isUpper = true) :
    capitals.ways (c :: rest) = (capitals.ways rest).map (Way.push c) ++
      if rest.head?.any Char.isLower then [] else [⟨[c], rest⟩] := by
  simp only [capitals, ways, runs_cons hc, List.flatMap_append, List.flatMap_map, List.map_flatMap, List.map_map]
  congr 1
  rw [List.flatMap_singleton]
  split <;> simp

/-- A capital that small letters follow is theirs. -/
theorem ways_capitals_of_small (hc : c.isUpper = true) (hrest : rest.head?.any Char.isLower = true) :
    capitals.ways (c :: rest) = [] := by
  have hupper : rest.head?.any Char.isUpper = false := by
    cases rest with
    | nil => rfl
    | cons d others => exact (only_lower hrest).1
  rw [ways_capitals_cons hc, ways_capitals_of_head hupper, if_pos hrest]
  rfl

theorem ways_small_of_isUpper (hc : c.isUpper = true) :
    small.ways (c :: rest) = (runs Char.isLower rest).map (Way.push c) := by
  have hrest : runs Char.isLower (c :: rest) = [] := runs_of_head (only_upper hc).1
  simp only [small, ways, hc, if_pos, List.flatMap_cons, List.flatMap_nil, hrest, List.map_nil, List.append_nil]
  rfl

theorem ways_small_of_head (h : text.head?.any Char.isUpper = false) :
    small.ways text = runs Char.isLower text := by
  have hmaybe : (maybe Char.isUpper).ways text = [⟨[], text⟩] := by
    cases text with
    | nil => rfl
    | cons d others => exact if_neg (Bool.eq_false_iff.1 h)
  rw [small, ways, hmaybe]
  simp [ways]

/-! The kind of the first character leaves one or two parts of the pattern. -/

theorem ways_word_of_isUpper (hc : c.isUpper = true) :
    word.ways (c :: rest) = capitals.ways (c :: rest) ++ small.ways (c :: rest) := by
  have hdigits : runs Char.isDigit (c :: rest) = [] := runs_of_head (only_upper hc).2
  rw [word, ways, ways, ways, hdigits, List.append_nil]

theorem ways_word_of_isLower (hc : c.isLower = true) :
    word.ways (c :: rest) = runs Char.isLower (c :: rest) := by
  have hupper : (c :: rest).head?.any Char.isUpper = false := (only_lower hc).1
  have hdigits : runs Char.isDigit (c :: rest) = [] := runs_of_head (only_lower hc).2
  rw [word, ways, ways, ways, hdigits, ways_capitals_of_head hupper, ways_small_of_head hupper,
    List.append_nil, List.nil_append]

theorem ways_word_of_isDigit (hc : c.isDigit = true) :
    word.ways (c :: rest) = runs Char.isDigit (c :: rest) := by
  have hupper : (c :: rest).head?.any Char.isUpper = false := (only_digit hc).1
  have hlower : runs Char.isLower (c :: rest) = [] := runs_of_head (only_digit hc).2
  rw [word, ways, ways, ways, ways_capitals_of_head hupper, ways_small_of_head hupper, hlower,
    List.nil_append, List.nil_append]

theorem ways_word_of_not_isAlphanum (hc : c.isAlphanum = false) : word.ways (c :: rest) = [] := by
  simp only [Char.isAlphanum, Char.isAlpha, Bool.or_eq_false_iff] at hc
  obtain ⟨⟨hupper, hlower⟩, hdigit⟩ := hc
  have hfront : (c :: rest).head?.any Char.isUpper = false := hupper
  have hsmall : runs Char.isLower (c :: rest) = [] := runs_of_head hlower
  have hdigits : runs Char.isDigit (c :: rest) = [] := runs_of_head hdigit
  rw [word, ways, ways, ways, ways_capitals_of_head hfront, ways_small_of_head hfront, hsmall, hdigits]
  rfl

/-- **A character that joins the text behind it** is taken with what is taken there. -/
theorem head?_ways_of_joins (h : Joins c rest) :
    (word.ways (c :: rest)).head? = (word.ways rest).head?.map (Way.push c) := by
  cases h with
  | digit hc hd =>
    rw [ways_word_of_isDigit hc, ways_word_of_isDigit hd, runs_cons hc, head?_map_push (runs_ne_nil hd)]
  | small hc hd =>
    rw [ways_word_of_isLower hc, ways_word_of_isLower hd, runs_cons hc, head?_map_push (runs_ne_nil hd)]
  | @front d others hc hd =>
    -- the small letter refuses the capital alone
    have hnone : capitals.ways (c :: d :: others) = [] := ways_capitals_of_small hc hd
    rw [ways_word_of_isUpper hc, ways_word_of_isLower hd, hnone, ways_small_of_isUpper hc, List.nil_append,
      List.head?_map]
  | @capital d others hc hd hrest =>
    have hsome : capitals.ways (d :: others) ≠ [] := by simp [ways_capitals_cons hd, hrest]
    rw [ways_word_of_isUpper hc, ways_word_of_isUpper hd, ways_capitals_cons hc, List.append_assoc,
      head?_map_push hsome, List.head?_append_of_ne_nil _ hsome]

/-- **Any other letter or digit** is taken alone. -/
theorem head?_ways_of_not_joins (hc : c.isAlphanum = true) (h : ¬ Joins c rest) :
    (word.ways (c :: rest)).head? = some ⟨[c], rest⟩ := by
  obtain hupper | hlower | hdigit := isUpper_or_isLower_or_isDigit hc
  · rw [joins_capital hupper, not_or, not_and] at h
    obtain ⟨hlower, hcapital⟩ := h
    -- no capitals behind it can be taken: the only one there belongs to small letters
    have hnone : capitals.ways rest = [] := by
      cases rest with
      | nil => exact ways_capitals_of_head rfl
      | cons d others =>
        cases hd : d.isUpper with
        | false => exact ways_capitals_of_head hd
        | true => exact ways_capitals_of_small hd (Bool.eq_true_of_not_eq_false (hcapital hd))
    rw [ways_word_of_isUpper hupper, ways_capitals_cons hupper, hnone, if_neg hlower]
    rfl
  · have hnone : runs Char.isLower rest = [] :=
      runs_of_head (Bool.eq_false_iff.2 (mt (joins_small hlower).2 h))
    rw [ways_word_of_isLower hlower, runs_cons hlower, hnone]
    rfl
  · have hnone : runs Char.isDigit rest = [] :=
      runs_of_head (Bool.eq_false_iff.2 (mt (joins_digit hdigit).2 h))
    rw [ways_word_of_isDigit hdigit, runs_cons hdigit, hnone]
    rfl

end Ways

end FrontPattern

/-- **The first word is what the pattern takes**, and the other words are those of what it leaves. -/
theorem exists_way {text : List Char} (h : (cut text).current ≠ []) :
    ∃ rest, (FrontPattern.word.ways text).head? = some ⟨(cut text).current, rest⟩ ∧
      (cut text).later = wordsOf rest := by
  induction text with
  | nil => exact absurd rfl h
  | cons c rest ih =>
    obtain ⟨-, hcut⟩ | ⟨hjoins, hcut⟩ | ⟨hc, hapart, hcut⟩ := cut_cons_cases c rest
    · rw [hcut] at h
      exact absurd rfl h
    · -- the word grows by the character, and so does what is taken
      obtain ⟨after, hway, hlater⟩ := ih hjoins.ne_nil
      refine ⟨after, ?_, by rw [hcut, hlater]⟩
      rw [FrontPattern.head?_ways_of_joins ((joins_current_iff c rest).1 hjoins), hway, hcut]
      rfl
    · refine ⟨rest, ?_, by rw [hcut]⟩
      rw [FrontPattern.head?_ways_of_not_joins hc (mt (joins_current_iff c rest).2 hapart), hcut]

/-- The pattern finds the words, by the length of the text: what a word leaves is shorter. -/
theorem finds_wordsOf : ∀ text : List Char, FrontPattern.word.Finds text (wordsOf text)
  | [] => .done
  | c :: rest => by
    cases hc : c.isAlphanum with
    | false =>
      rw [wordsOf_eq, cut_cons_of_not_isAlphanum hc]
      exact .passed (FrontPattern.ways_word_of_not_isAlphanum hc) (finds_wordsOf rest)
    | true =>
      have hsome : (cut (c :: rest)).current ≠ [] := by
        rw [Ne, ← List.head?_eq_none_iff, head?_current]
        simp [Option.filter, hc]
      obtain ⟨after, hway, hlater⟩ := exists_way hsome
      have hshorter : after.length ≤ rest.length := by
        have hparts : (cut (c :: rest)).current ++ after = c :: rest :=
          FrontPattern.taken_append_rest (List.mem_of_head? hway)
        have htaken := List.length_pos_of_ne_nil hsome
        have hlength := congrArg List.length hparts
        rw [List.length_append, List.length_cons] at hlength
        omega
      rw [wordsOf_eq, words_of_ne_nil hsome, hlater]
      exact .taken hway hsome (finds_wordsOf after)
termination_by text => text.length

/-- **The words of a text are what the pattern for words finds in it.** -/
theorem finds_iff {text : List Char} {found : List (List Char)} :
    FrontPattern.word.Finds text found ↔ found = wordsOf text :=
  ⟨fun h => h.unique (finds_wordsOf text), fun h => h ▸ finds_wordsOf text⟩

/-! ### Words that are joined again -/

/-- **A word of one kind is found as it is** in front of what no word opens. -/
theorem cut_append {word rest : List Char} (h : Uniform word) (hrest : (cut rest).current = []) :
    cut (word ++ rest) = ⟨word, wordsOf rest⟩ := by
  induction word with
  | nil => exact absurd rfl h.isWord.1
  | cons c word ih =>
    have hc : c.isAlphanum = true := h.isWord.2 c List.mem_cons_self
    have hcases := cut_cons_cases c (word ++ rest)
    rw [List.cons_append]
    cases word with
    | nil =>
      -- behind the last character stands nothing that it could join
      rw [List.nil_append, hrest] at hcases
      obtain ⟨hno, -⟩ | ⟨hjoins, -⟩ | ⟨-, -, hcut⟩ := hcases
      · exact absurd (hno.symm.trans hc) Bool.false_ne_true
      · exact absurd rfl hjoins.ne_nil
      · exact hcut
    | cons d others =>
      obtain ⟨hjoins, hword⟩ := h.tail
      rw [ih hword] at hcases
      obtain ⟨hno, -⟩ | ⟨-, hcut⟩ | ⟨-, hapart, -⟩ := hcases
      · exact absurd (hno.symm.trans hc) Bool.false_ne_true
      · exact hcut
      · exact absurd hjoins hapart

/-- **Words of one kind with a separator between them are found again**, by the number of them. -/
theorem wordsOf_intercalate {mark : Char} (hmark : mark.isAlphanum = false) :
    ∀ {words : List (List Char)}, (∀ word ∈ words, Uniform word) →
      wordsOf ([mark].intercalate words) = words
  | [], _ => rfl
  | [word], h => by
    have hword : Uniform word := h word List.mem_cons_self
    have hcut : cut (word ++ []) = ⟨word, []⟩ := cut_append hword rfl
    rw [List.append_nil] at hcut
    rw [List.intercalate_singleton, wordsOf_eq, hcut, words_of_ne_nil hword.isWord.1]
  | word :: next :: rest, h => by
    obtain ⟨hword, hothers⟩ := List.forall_mem_cons.1 h
    have hmarked := cut_cons_of_not_isAlphanum hmark ([mark].intercalate (next :: rest))
    have hwords : wordsOf (mark :: [mark].intercalate (next :: rest)) = next :: rest := by
      rw [wordsOf_eq, hmarked, words_of_nil rfl, wordsOf_intercalate hmark hothers]
    have hcut := cut_append hword (congrArg WordCut.current hmarked)
    rw [List.intercalate_cons_cons, List.append_assoc, List.singleton_append, wordsOf_eq, hcut,
      words_of_ne_nil hword.isWord.1, hwords]

/-! ### Small letters and capitals -/

/-- A word of one kind is one in small letters. -/
theorem Uniform.lower {word : List Char} (h : Uniform word) : Uniform (lowerWord word) := by
  obtain hletters | hdigits := h.letters_or_digits
  · exact .small (hletters.map fun c hc => by rwa [Char.isLower_toLower_eq_isAlpha])
  · refine .digits (hdigits.map fun c hc => ?_)
    rwa [Char.toLower_eq_of_not_isUpper (not_isUpper_of_isDigit hc)]

/-- A word of one kind is one in capitals. -/
theorem Uniform.upper {word : List Char} (h : Uniform word) : Uniform (word.map Char.toUpper) := by
  obtain hletters | hdigits := h.letters_or_digits
  · exact .capitals (hletters.map fun c hc => by rwa [Char.isUpper_toUpper_eq_isAlpha])
  · refine .digits (hdigits.map fun c hc => ?_)
    rwa [Char.toUpper_eq_of_not_isLower (not_isLower_of_isDigit hc)]

theorem lowerWord_lowerWord (word : List Char) : lowerWord (lowerWord word) = lowerWord word := by
  simp [lowerWord]

theorem lowerWord_map_toUpper (word : List Char) : lowerWord (word.map Char.toUpper) = lowerWord word := by
  simp [lowerWord]

/-! ### Words of names -/

/-- **A name in snake case has the words of the text in small letters.** -/
theorem wordsOf_snakeCase (text : String) :
    wordsOf (snakeCase text).toList = (wordsOf text.toList).map lowerWord := by
  rw [toList_snakeCase]
  refine wordsOf_intercalate (by decide) fun word hword => ?_
  obtain ⟨letters, hletters, rfl⟩ := List.mem_map.1 hword
  exact (uniform_of_mem_wordsOf letters hletters).lower

theorem map_intercalate (f : Char → Char) (mark : List Char) : ∀ words : List (List Char),
    (mark.intercalate words).map f = (mark.map f).intercalate (words.map (List.map f))
  | [] => rfl
  | [word] => by simp
  | word :: next :: rest => by
    have hrest := map_intercalate f mark (next :: rest)
    simp only [List.map_cons] at hrest ⊢
    rw [List.intercalate_cons_cons, List.intercalate_cons_cons, List.map_append, List.map_append, hrest]

/-- **In capitals it has them in capitals.** -/
theorem wordsOf_upperSnakeCase (text : String) :
    wordsOf (upperSnakeCase text).toList =
      (wordsOf text.toList).map fun word => (lowerWord word).map Char.toUpper := by
  have hmark : ['_'].map Char.toUpper = ['_'] := by decide
  rw [upperSnakeCase, String.toList_ofList, toList_snakeCase, map_intercalate, hmark, List.map_map]
  refine wordsOf_intercalate (by decide) fun word hword => ?_
  obtain ⟨letters, hletters, rfl⟩ := List.mem_map.1 hword
  exact (uniform_of_mem_wordsOf letters hletters).lower.upper

/-! ### The normal form -/

/-- The words in small letters are all that snake case takes of a text. -/
theorem snakeCase_congr {text other : String}
    (h : (wordsOf text.toList).map lowerWord = (wordsOf other.toList).map lowerWord) :
    snakeCase text = snakeCase other := by
  rw [← String.toList_inj, toList_snakeCase, toList_snakeCase, h]

theorem snakeCase_snakeCase (text : String) : snakeCase (snakeCase text) = snakeCase text := by
  refine snakeCase_congr ?_
  rw [wordsOf_snakeCase, List.map_map]
  exact List.map_congr_left fun word _ => lowerWord_lowerWord word

theorem snakeCase_upperSnakeCase (text : String) : snakeCase (upperSnakeCase text) = snakeCase text := by
  refine snakeCase_congr ?_
  rw [wordsOf_upperSnakeCase, List.map_map]
  refine List.map_congr_left fun word _ => ?_
  exact (lowerWord_map_toUpper (lowerWord word)).trans (lowerWord_lowerWord word)

theorem map_toList_splitWords (text : String) : (splitWords text).map String.toList = wordsOf text.toList := by
  rw [splitWords, List.map_map]
  exact (List.map_congr_left fun word _ => String.toList_ofList).trans (List.map_id _)

theorem toLower_ofList (word : List Char) : (String.ofList word).toLower = String.ofList (lowerWord word) := by
  rw [← String.toList_inj, String.toLower, String.toList_map, String.toList_ofList, String.toList_ofList, lowerWord]

/-- **Splitting a text into words loses nothing, and snake case is a normal form.** The words are what the pattern
for words finds from left to right; one behind the other they are the letters and digits of the text; and each is of
one kind. A name in snake case is split into the same words in small letters, so snake case leaves it as it is, and
gives it back from capitals. -/
theorem splitWords_normal (text : String) :
    (∀ found, FrontPattern.word.Finds text.toList found ↔ found = (splitWords text).map String.toList) ∧
    String.join (splitWords text) = String.ofList (text.toList.filter Char.isAlphanum) ∧
    (∀ word ∈ splitWords text, Uniform word.toList) ∧
    splitWords (snakeCase text) = (splitWords text).map String.toLower ∧
    snakeCase (snakeCase text) = snakeCase text ∧
    snakeCase (upperSnakeCase text) = snakeCase text := by
  refine ⟨fun found => ?_, ?_, fun word hword => ?_, ?_, snakeCase_snakeCase text, snakeCase_upperSnakeCase text⟩
  · rw [map_toList_splitWords]
    exact finds_iff
  · rw [← String.toList_inj, String.toList_join, String.toList_ofList, ← flatten_wordsOf, ← map_toList_splitWords,
      List.flatMap_def]
  · have hletters : word.toList ∈ wordsOf text.toList := by
      rw [← map_toList_splitWords]
      exact List.mem_map_of_mem hword
    exact uniform_of_mem_wordsOf _ hletters
  · rw [splitWords, wordsOf_snakeCase, splitWords, List.map_map, List.map_map]
    exact List.map_congr_left fun word _ => (toLower_ofList word).symm

example : splitWords (snakeCase "XMLHttp2") = ["xml", "http", "2"] := by decide

end SchemaPress.Text
