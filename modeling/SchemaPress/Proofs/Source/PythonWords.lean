import SchemaPress.Proofs.Decimal.Shortest
import SchemaPress.Proofs.Json.Number
import SchemaPress.Proofs.Source.Lines
import SchemaPress.Source.Python
import SchemaPress.SourceCheck.Lexer

/-!
# Words in lines of Python

What a line of Python evaluates are the words in it that are no part of a text, a number or a comment
(`words?`). The parts of a generated line are read one after the other, each up to where it stops: a word or
a number goes on as long as there are characters for it, and a text up to its own closing quotes. So each kind
of part comes with the words that it gives in front of anything that stops it (`Reads`), and a line that is
put together from parts has the words of all of them (`Reads.append`).

Texts and docstrings give no words, whatever characters they are made of, and neither do numbers
(`reads_literal`, `reads_docstring`). The only words in a value are `None`, `True` and `False`, and `nan` and
`inf` for what is no finite number.
-/

namespace SchemaPress.Source.Python

open SourceCheck (isWordChar isWordStart quotedLength? textLength)

/-! ### Words -/

/-- **The words of a line** that are no part of a text, a number or a comment; none if a text is not closed in
it. -/
def words? : List Char → Option (List String)
  | [] => some []
  | c :: rest =>
    if c = '#' then some []
    else
      match quotedLength? (c :: rest) with
      -- the length counts the first character and both quotes
      | some (_, some length) => words? (rest.drop (length - 1))
      | some (_, none) => none
      | none =>
        if c.isDigit then words? (rest.dropWhile fun d => isWordChar d || d == '.')
        else if isWordStart c then
          (words? (rest.dropWhile isWordChar)).map (String.ofList (c :: rest.takeWhile isWordChar) :: ·)
        else words? rest
termination_by s => s.length
decreasing_by
  · simp only [List.length_drop, List.length_cons]
    omega
  · exact Nat.lt_succ_of_le (List.length_dropWhile_le _ _)
  · exact Nat.lt_succ_of_le (List.length_dropWhile_le _ _)
  · exact Nat.lt_succ_self _

/-- A character that neither goes on with a word or a number nor opens a text. -/
def Parts (c : Char) : Prop :=
  isWordChar c = false ∧ c ≠ '.' ∧ c ≠ '"' ∧ c ≠ '\''

instance (c : Char) : Decidable (Parts c) :=
  inferInstanceAs (Decidable (_ ∧ _))

/-- What ends a word, a number or a text in front of it. -/
def Stops (rest : List Char) : Prop :=
  ∀ c ∈ rest.head?, Parts c

theorem stops_cons {c : Char} (h : Parts c) (rest : List Char) : Stops (c :: rest) :=
  fun _ hc => Option.some.inj hc ▸ h

/-- **The words of a part of a line**, in front of anything that stops it. -/
structure Reads (part : List Char) (names : List String) : Prop where
  line : '\n' ∉ part
  words : ∀ rest, Stops rest → words? (part ++ rest) = (words? rest).map (names ++ ·)

/-- **Marks between parts**, which have no words and need not be stopped. -/
structure Skips (part : List Char) : Prop where
  line : '\n' ∉ part
  words : ∀ rest, words? (part ++ rest) = words? rest

theorem not_mem_append {part other : List Char} (h : '\n' ∉ part) (h' : '\n' ∉ other) :
    '\n' ∉ part ++ other := by
  rw [List.mem_append, not_or]
  exact ⟨h, h'⟩

theorem Skips.append {part other : List Char} (h : Skips part) (h' : Skips other) :
    Skips (part ++ other) where
  line := not_mem_append h.line h'.line
  words rest := by rw [List.append_assoc, h.words, h'.words]

theorem Skips.reads {part other : List Char} {names : List String} (h : Skips part)
    (h' : Reads other names) : Reads (part ++ other) names where
  line := not_mem_append h.line h'.line
  words rest hrest := by rw [List.append_assoc, h.words, h'.words rest hrest]

theorem Reads.nil : Reads [] [] where
  line := nofun
  words _ _ := by simp

theorem Skips.self {part : List Char} (h : Skips part) : Reads part [] where
  line := h.line
  words rest _ := by simp [h.words rest]

/-- Parts behind each other, where the second one stops the first. -/
theorem Reads.append {part other : List Char} {names others : List String} (h : Reads part names)
    (h' : Reads other others) (hne : other ≠ []) (hstop : Stops other) :
    Reads (part ++ other) (names ++ others) where
  line := not_mem_append h.line h'.line
  words rest hrest := by
    -- what stops the first part is the second one, which is not empty, and not what is behind both
    have hstops : Stops (other ++ rest) := by
      obtain ⟨c, tail, rfl⟩ := List.exists_cons_of_ne_nil hne
      exact stops_cons (hstop c rfl) _
    rw [List.append_assoc, h.words _ hstops, h'.words rest hrest, Option.map_map]
    simp [Function.comp_def]

/-- A whole line. -/
theorem Reads.words?_eq {line : List Char} {names : List String} (h : Reads line names) :
    words? line = some names := by
  have hline := h.words [] nofun
  rw [List.append_nil, words?] at hline
  simpa using hline

/-! ### Marks, names and numbers -/

/-- What is behind the letters in front decides whether a text begins. -/
theorem quotedLength?_eq_none {s : List Char}
    (h : ∀ c ∈ (s.dropWhile Char.isAlpha).head?, c ≠ '"' ∧ c ≠ '\'') : quotedLength? s = none := by
  have hdrop : s.drop (s.takeWhile Char.isAlpha).length = s.dropWhile Char.isAlpha :=
    calc s.drop (s.takeWhile Char.isAlpha).length
        = (s.takeWhile Char.isAlpha ++ s.dropWhile Char.isAlpha).drop
            (s.takeWhile Char.isAlpha).length := by rw [List.takeWhile_append_dropWhile]
      _ = s.dropWhile Char.isAlpha := List.drop_left
  unfold quotedLength?
  simp only [hdrop]
  cases hrest : s.dropWhile Char.isAlpha with
  | nil => rfl
  | cons c rest =>
    obtain ⟨hdouble, hsingle⟩ := h c (by rw [hrest]; rfl)
    simp [hdouble, hsingle]

/-- A character that has no words of its own. -/
def IsMark (c : Char) : Prop :=
  c ≠ '#' ∧ c ≠ '"' ∧ c ≠ '\'' ∧ c ≠ '\n' ∧ isWordChar c = false

instance (c : Char) : Decidable (IsMark c) :=
  inferInstanceAs (Decidable (_ ∧ _))

theorem isWordChar_of_isWordStart {c : Char} (h : isWordStart c = true) : isWordChar c = true := by
  unfold isWordStart at h
  unfold isWordChar Char.isAlphanum
  rw [Bool.or_eq_true, Bool.or_eq_true] at h
  rcases h with (h | h) | h
  · rw [h]; rfl
  · rw [h]; simp
  · rw [h]; simp

theorem not_isDigit_of_isWordStart {c : Char} (h : isWordStart c = true) : ¬ c.isDigit = true := by
  intro hdigit
  -- the codes of digits are below those of all letters, and the underscore is between these
  simp only [isWordStart, Char.isAlpha, Char.isUpper, Char.isLower, Char.isDigit, Bool.or_eq_true,
    Bool.and_eq_true, decide_eq_true_eq, beq_iff_eq, UInt32.le_iff_toNat_le, ge_iff_le] at h hdigit
  have hcode : c.toNat = c.val.toNat := rfl
  have h9 : '9'.val.toNat = 57 := rfl
  have hA : 'A'.val.toNat = 65 := rfl
  have ha : 'a'.val.toNat = 97 := rfl
  rcases h with (h | rfl) | h
  · omega
  · exact absurd hdigit.2 (by decide)
  · omega

theorem isWordChar_of_isAlphanum {c : Char} (h : c.isAlphanum = true) : isWordChar c = true := by
  unfold isWordChar
  rw [h]
  rfl

theorem isWordChar_of_isDigit {c : Char} (h : c.isDigit = true) : isWordChar c = true :=
  isWordChar_of_isAlphanum (by simp [Char.isAlphanum, h])

theorem ne_quote_of_isWordChar {c : Char} (h : isWordChar c = true) :
    c ≠ '"' ∧ c ≠ '\'' ∧ c ≠ '#' := by
  refine ⟨?_, ?_, ?_⟩ <;> (rintro rfl; exact absurd h (by decide))

theorem newline_not_mem {part : List Char} (h : ∀ c ∈ part, isWordChar c = true ∨ c = '.') :
    '\n' ∉ part :=
  fun hmem => absurd (h _ hmem) (by decide)

theorem skips_mark {c : Char} (h : IsMark c) : Skips [c] := by
  obtain ⟨hcomment, hdouble, hsingle, hline, hword⟩ := h
  have halpha : ¬ c.isAlpha = true := fun halpha => by
    rw [isWordChar_of_isAlphanum (by simp [Char.isAlphanum, halpha])] at hword
    cases hword
  have hdigit : ¬ c.isDigit = true := fun hdigit => by
    rw [isWordChar_of_isDigit hdigit] at hword
    cases hword
  have hstart : ¬ isWordStart c = true := fun hstart => by
    rw [isWordChar_of_isWordStart hstart] at hword
    cases hword
  refine ⟨by simpa using hline.symm, fun rest => ?_⟩
  have hquoted : quotedLength? (c :: rest) = none := by
    refine quotedLength?_eq_none fun d hd => ?_
    rw [List.dropWhile_cons_of_neg halpha] at hd
    obtain rfl := Option.some.inj hd
    exact ⟨hdouble, hsingle⟩
  rw [List.singleton_append, words?, if_neg hcomment, hquoted]
  simp only
  rw [if_neg hdigit, if_neg hstart]

theorem skips_marks {part : List Char} (h : (part.all fun c => decide (IsMark c)) = true) : Skips part := by
  induction part with
  | nil => exact ⟨nofun, fun _ => rfl⟩
  | cons c rest ih =>
    rw [List.all_cons, Bool.and_eq_true, decide_eq_true_eq] at h
    exact (skips_mark h.1).append (ih h.2)

/-- What goes on for as long as characters of a kind do ends where it is stopped. -/
theorem span_append {α : Type} {p : α → Bool} {part rest : List α} (h : ∀ c ∈ part, p c = true)
    (hrest : ∀ c ∈ rest.head?, p c = false) :
    (part ++ rest).takeWhile p = part ∧ (part ++ rest).dropWhile p = rest := by
  have hnone : rest.takeWhile p = [] ∧ rest.dropWhile p = rest := by
    cases rest with
    | nil => exact ⟨rfl, rfl⟩
    | cons c others =>
      have hc : ¬ p c = true := by rw [hrest c rfl]; exact Bool.false_ne_true
      exact ⟨List.takeWhile_cons_of_neg hc, List.dropWhile_cons_of_neg hc⟩
  rw [List.takeWhile_append_of_pos h, List.dropWhile_append_of_pos h, hnone.1, hnone.2, List.append_nil]
  exact ⟨rfl, rfl⟩

theorem mem_head_dropWhile {p : Char → Bool} {part rest : List Char}
    (hrest : ∀ c ∈ rest.head?, p c = false) {d : Char} (hd : d ∈ ((part ++ rest).dropWhile p).head?) :
    d ∈ part ∨ d ∈ rest.head? := by
  induction part with
  | nil =>
    have hnone : rest.dropWhile p = rest := (span_append (List.forall_mem_nil _) hrest).2
    rw [List.nil_append, hnone] at hd
    exact .inr hd
  | cons c others ih =>
    rw [List.cons_append] at hd
    by_cases hc : p c = true
    · rw [List.dropWhile_cons_of_pos hc] at hd
      exact (ih hd).imp_left (List.mem_cons_of_mem _)
    · rw [List.dropWhile_cons_of_neg hc] at hd
      obtain rfl := Option.some.inj hd
      exact .inl List.mem_cons_self

/-- No text begins in a name or a number. -/
theorem quotedLength?_of_word {c : Char} {part rest : List Char} (hc : isWordChar c = true)
    (h : ∀ d ∈ part, isWordChar d = true ∨ d = '.') (hrest : Stops rest) :
    quotedLength? (c :: part ++ rest) = none := by
  refine quotedLength?_eq_none fun d hd => ?_
  have halpha (e : Char) (he : e ∈ rest.head?) : e.isAlpha = false := by
    by_contra hno
    have hword := isWordChar_of_isAlphanum (c := e) (by simp_all [Char.isAlphanum])
    rw [(hrest e he).1] at hword
    cases hword
  -- what is behind the letters belongs to the word, or else it is what stops it
  rcases mem_head_dropWhile halpha hd with hmem | hmem
  · rcases List.mem_cons.1 hmem with rfl | hmem
    · exact ⟨(ne_quote_of_isWordChar hc).1, (ne_quote_of_isWordChar hc).2.1⟩
    · rcases h d hmem with hd | rfl
      · exact ⟨(ne_quote_of_isWordChar hd).1, (ne_quote_of_isWordChar hd).2.1⟩
      · decide
  · exact (hrest d hmem).2.2

/-- A text that is a word as a whole. -/
def IsWord (name : String) : Prop :=
  ∃ c rest, name.toList = c :: rest ∧ isWordStart c = true ∧ ∀ d ∈ rest, isWordChar d = true

/-- **A name is one word.** -/
theorem reads_name {name : String} (h : IsWord name) : Reads name.toList [name] := by
  obtain ⟨c, part, hchars, hc, hpart⟩ := h
  have hword := isWordChar_of_isWordStart hc
  refine ⟨?_, fun rest hrest => ?_⟩
  · rw [hchars]
    exact newline_not_mem (List.forall_mem_cons.2 ⟨.inl hword, fun d hd => .inl (hpart d hd)⟩)
  have hdigit : ¬ c.isDigit = true := not_isDigit_of_isWordStart hc
  obtain ⟨htake, hdrop⟩ := span_append hpart fun d hd => (hrest d hd).1
  rw [hchars, List.cons_append, words?, if_neg (ne_quote_of_isWordChar hword).2.2, ← List.cons_append,
    quotedLength?_of_word hword (fun d hd => .inl (hpart d hd)) hrest]
  simp only
  rw [if_neg hdigit, if_pos hc, htake, hdrop, ← hchars, String.ofList_toList]
  rfl

/-- **A number has no words.** -/
theorem reads_number {c : Char} {part : List Char} (hc : c.isDigit = true)
    (h : ∀ d ∈ part, isWordChar d = true ∨ d = '.') : Reads (c :: part) [] := by
  have hword := isWordChar_of_isDigit hc
  refine ⟨newline_not_mem (List.forall_mem_cons.2 ⟨.inl hword, h⟩), fun rest hrest => ?_⟩
  have hpart (d : Char) (hd : d ∈ part) : (isWordChar d || d == '.') = true := by
    rcases h d hd with hd | rfl
    · rw [hd, Bool.true_or]
    · rfl
  have hspan := span_append hpart fun d (hd : d ∈ rest.head?) => by
    obtain ⟨hchar, hpoint, -⟩ := hrest d hd
    simp [hchar, hpoint]
  rw [List.cons_append, words?, if_neg (ne_quote_of_isWordChar hword).2.2, ← List.cons_append,
    quotedLength?_of_word hword h hrest]
  simp only
  rw [if_pos hc, hspan.2]
  simp

/-- Digits and points, in any order, have no words. -/
theorem reads_digits {part : List Char} (h : ∀ c ∈ part, c.isDigit = true ∨ c = '.') :
    Reads part [] := by
  induction part with
  | nil => exact .nil
  | cons c rest ih =>
    have hrest : ∀ d ∈ rest, d.isDigit = true ∨ d = '.' := fun d hd => h d (List.mem_cons_of_mem _ hd)
    rcases h c List.mem_cons_self with hc | rfl
    · exact reads_number hc fun d hd => (hrest d hd).imp_left isWordChar_of_isDigit
    · exact (skips_mark (by decide)).reads (ih hrest)

/-! ### Texts -/

section Texts

variable {mark : Char} {triple : Bool}

/-- What a text goes on behind. -/
def Passes (mark : Char) (triple : Bool) (part : List Char) : Prop :=
  ∀ rest, textLength mark triple (part ++ rest) = (textLength mark triple rest).map (· + part.length)

theorem Passes.nil : Passes mark triple [] := by
  intro rest
  simp

theorem Passes.append {part other : List Char} (h : Passes mark triple part)
    (h' : Passes mark triple other) : Passes mark triple (part ++ other) := by
  intro rest
  rw [List.append_assoc, h, h', Option.map_map]
  simp [Function.comp_def, Nat.add_comm, Nat.add_left_comm]

theorem Passes.escape (c : Char) : Passes mark triple ['\\', c] := by
  intro rest
  rfl

/-- A character that says nothing in a text. -/
theorem Passes.self {c : Char} (hmark : c ≠ mark) (hback : c ≠ '\\')
    (hline : c ≠ '\n' ∨ triple = true) : Passes mark triple [c] := by
  intro rest
  -- a line break ends a text only between single quotes
  have hline' : ¬ (c == '\n' && !triple) = true := by
    rcases hline with hline | hline
    · simp [hline]
    · simp [hline]
  rw [List.singleton_append, textLength, if_neg (by simpa using hmark), if_neg hline']
  · rfl
  · exact fun _ _ heq _ => hback heq

theorem Passes.of_forall {part : List Char}
    (h : ∀ c ∈ part, c ≠ mark ∧ c ≠ '\\' ∧ c ≠ '\n') : Passes mark triple part := by
  induction part with
  | nil => exact .nil
  | cons c rest ih =>
    obtain ⟨hmark, hback, hline⟩ := h c List.mem_cons_self
    exact (Passes.self hmark hback (.inl hline)).append
      (ih fun other hother => h other (List.mem_cons_of_mem _ hother))

theorem Passes.flatMap {write : Char → List Char} {chars : List Char}
    (h : ∀ c ∈ chars, Passes mark triple (write c)) : Passes mark triple (chars.flatMap write) := by
  induction chars with
  | nil => exact .nil
  | cons c rest ih =>
    rw [List.flatMap_cons]
    exact (h c List.mem_cons_self).append (ih fun other hother => h other (List.mem_cons_of_mem _ hother))

end Texts

/-- Digits of any base up to sixteen are digits or letters. -/
theorem isAlphanum_of_mem_toDigits {n : Nat} {c : Char} (h : c ∈ Nat.toDigits 16 n) :
    c.isAlphanum = true := by
  have hdigit : ∀ d < 16, d.digitChar.isAlphanum = true := by decide
  -- by induction on the number, which loses its last digit in each step
  induction n using Nat.strongRecOn with
  | ind n ih =>
    rw [Nat.toDigits_eq_if (by decide)] at h
    split at h
    · next hlt => exact List.mem_singleton.1 h ▸ hdigit n hlt
    · rcases List.mem_append.1 h with h | h
      · exact ih (n / 16) (by omega) h
      · exact List.mem_singleton.1 h ▸ hdigit (n % 16) (Nat.mod_lt n (by decide))

theorem isAlphanum_of_mem_hexDigits {count n : Nat} {c : Char} (h : c ∈ Text.hexDigits count n) :
    c.isAlphanum = true := by
  rcases List.mem_append.1 h with h | h
  · rw [List.eq_of_mem_replicate h]
    rfl
  · exact isAlphanum_of_mem_toDigits h

/-- An escaped character never ends a text. -/
theorem passes_literalEscape {mark : Char} (hmark : mark = '"' ∨ mark = '\'') (c : Char) :
    Passes mark false (Text.literalEscape mark c) := by
  have hdigits (count : Nat) : Passes mark false (Text.hexDigits count c.toNat) := by
    refine .of_forall fun d hd => ?_
    have halnum := isAlphanum_of_mem_hexDigits hd
    refine ⟨?_, ?_, ?_⟩
    · rintro rfl
      rcases hmark with rfl | rfl <;> exact absurd halnum (by decide)
    · rintro rfl
      exact absurd halnum (by decide)
    · rintro rfl
      exact absurd halnum (by decide)
  unfold Text.literalEscape
  split_ifs with hplain _ hline _ _ _ _
  · exact .escape c
  · exact .escape 't'
  · exact .escape 'n'
  · exact .escape 'r'
  · simp only [Bool.or_eq_true, decide_eq_true_eq, not_or] at hplain
    exact .self hplain.1 hplain.2 (.inl hline)
  · exact (Passes.escape 'x').append (hdigits 2)
  · exact (Passes.escape 'u').append (hdigits 4)
  · exact (Passes.escape 'U').append (hdigits 8)

theorem newline_not_mem_literalEscape {mark : Char} (hmark : mark = '"' ∨ mark = '\'') (c : Char) :
    '\n' ∉ Text.literalEscape mark c := by
  have hbreak : '\n' ≠ mark := by rcases hmark with rfl | rfl <;> decide
  have hdigits (count : Nat) : '\n' ∉ Text.hexDigits count c.toNat :=
    fun hmem => absurd (isAlphanum_of_mem_hexDigits hmem) (by decide)
  unfold Text.literalEscape
  split_ifs with hplain _ hline _ _ _ _
  · rcases Bool.or_eq_true .. ▸ hplain with heq | heq
    all_goals
      rw [decide_eq_true_eq] at heq
      subst heq
      simp [hbreak]
  · decide
  · decide
  · decide
  · simpa using Ne.symm hline
  · simp [hdigits]
  · simp [hdigits]
  · simp [hdigits]

/-- A text does not end where it goes on. -/
theorem Passes.head_ne {mark : Char} (hback : mark ≠ '\\') {part : List Char}
    (h : Passes mark false part) : part.head? ≠ some mark := by
  intro hhead
  obtain ⟨tail, rfl⟩ := List.head?_eq_some_iff.1 hhead
  -- the text would end at its first character, and also behind the mark that follows the part
  have hend := h [mark]
  have hone (rest : List Char) : textLength mark false (mark :: rest) = some 1 := by
    rw [textLength, if_pos (by simp)]
    · simp
    · exact fun _ _ heq _ => hback heq
  rw [List.cons_append, hone, hone] at hend
  simp at hend

/-- A text that is stopped behind its closing mark does not open with three marks. -/
theorem Passes.take_ne {mark : Char} (hmark : mark = '"' ∨ mark = '\'') {body rest : List Char}
    (h : Passes mark false body) (hrest : Stops rest) : (body ++ (mark :: rest)).take 2 ≠ [mark, mark] := by
  intro heq
  cases body with
  | nil =>
    cases rest with
    | nil => cases heq
    | cons c others =>
      have hc : c = mark := by simpa using heq
      obtain ⟨-, -, hdouble, hsingle⟩ := hrest c rfl
      rcases hmark with rfl | rfl
      · exact hdouble hc
      · exact hsingle hc
  | cons c others =>
    refine h.head_ne (by rcases hmark with rfl | rfl <;> decide) ?_
    have hhead := congrArg List.head? heq
    simpa using hhead

/-- **A text in quotes has no words.** -/
theorem reads_quoted {mark : Char} (hmark : mark = '"' ∨ mark = '\'') {body : List Char}
    (h : Passes mark false body) (hline : '\n' ∉ body) : Reads (mark :: body ++ [mark]) [] := by
  have hback : mark ≠ '\\' := by rcases hmark with rfl | rfl <;> decide
  have hcomment : mark ≠ '#' := by rcases hmark with rfl | rfl <;> decide
  have halpha : ¬ mark.isAlpha = true := by rcases hmark with rfl | rfl <;> decide
  have hcond : ((mark == '"' || mark == '\'') && true) = true := by
    rcases hmark with rfl | rfl <;> rfl
  refine ⟨?_, fun rest hrest => ?_⟩
  · have hbreak : '\n' ≠ mark := by rcases hmark with rfl | rfl <;> decide
    simp [hbreak, hline]
  have hlength : textLength mark false (body ++ (mark :: rest)) = some (body.length + 1) := by
    rw [h, textLength, if_pos (by simp)]
    · simp [Nat.add_comm]
    · exact fun _ _ heq _ => hback heq
  have htriple := h.take_ne hmark hrest
  have hquoted : quotedLength? (mark :: (body ++ (mark :: rest))) =
      some (false, some (body.length + 2)) := by
    unfold quotedLength?
    rw [List.takeWhile_cons_of_neg halpha]
    simp only [List.length_nil, List.drop_zero, List.isEmpty_nil, Bool.true_or, hcond, if_true, htriple,
      if_false, hlength, Option.map_some]
  have hdrop : (body ++ (mark :: rest)).drop (body.length + 2 - 1) = rest := by
    rw [List.drop_append]
    simp
  rw [List.cons_append, List.cons_append, List.append_assoc, List.singleton_append, words?,
    if_neg hcomment, hquoted]
  simp only [hdrop]
  simp

/-- **The literal of a text has no words.** -/
theorem reads_textLiteral (text : String) : Reads (Text.literal text).toList [] := by
  have hmark : Text.literalMark text.toList = '"' ∨ Text.literalMark text.toList = '\'' := by
    unfold Text.literalMark
    split
    · exact .inl rfl
    · exact .inr rfl
  unfold Text.literal
  simp only [String.toList_ofList]
  refine reads_quoted hmark (.flatMap fun c _ => passes_literalEscape hmark c) fun hmem => ?_
  obtain ⟨c, -, hc⟩ := List.mem_flatMap.1 hmem
  exact newline_not_mem_literalEscape hmark c hc

theorem isLine_docstring {description : String} (h : IsLine description) :
    IsLine (docstring description) := by
  unfold IsLine docstring
  rw [String.toList_ofList]
  intro hmem
  obtain ⟨c, hc, hmem⟩ := List.mem_flatMap.1 hmem
  have heq : c = '\n' := by
    split at hmem
    · simpa [eq_comm] using hmem
    · exact (List.mem_singleton.1 hmem).symm
  exact h (heq ▸ hc)

/-- **A docstring has no words.** -/
theorem reads_docstring {description : String} (h : IsLine description) :
    Reads ("\"\"\"" ++ docstring description ++ "\"\"\"").toList [] := by
  have hbreak := isLine_docstring h
  have hbody : Passes '"' true (docstring description).toList := by
    unfold docstring
    rw [String.toList_ofList]
    refine .flatMap fun c _ => ?_
    split
    · exact .escape c
    · next hplain =>
      simp only [Bool.or_eq_true, decide_eq_true_eq, not_or] at hplain
      exact .self hplain.2 hplain.1 (.inr rfl)
  generalize docstring description = text at hbody hbreak
  refine ⟨IsLine.append (IsLine.append (by decide) hbreak) (by decide), fun rest _ => ?_⟩
  have hlength : textLength '"' true (text.toList ++ ('"' :: '"' :: '"' :: rest)) =
      some (text.toList.length + 3) := by
    rw [hbody]
    simp [textLength, Nat.add_comm]
  have hquoted : quotedLength? ('"' :: '"' :: '"' :: (text.toList ++ ('"' :: '"' :: '"' :: rest))) =
      some (true, some (text.toList.length + 6)) := by
    unfold quotedLength?
    rw [List.takeWhile_cons_of_neg (by decide)]
    simp [hlength]
  have hdrop : ('"' :: '"' :: (text.toList ++ ('"' :: '"' :: '"' :: rest))).drop
      (text.toList.length + 6 - 1) = rest := by
    rw [show text.toList.length + 6 - 1 = text.toList.length + 3 + 1 + 1 by omega, List.drop_succ_cons,
      List.drop_succ_cons, List.drop_append]
    simp
  have hline : ("\"\"\"" ++ text ++ "\"\"\"").toList ++ rest =
      '"' :: '"' :: '"' :: (text.toList ++ ('"' :: '"' :: '"' :: rest)) := by
    simp only [String.toList_append, List.append_assoc]
    rfl
  rw [hline, words?, if_neg (by decide), hquoted]
  simp only [hdrop]
  simp

/-! ### Numbers -/

/-- A number up to the letter in front of its exponent, which belongs to it. -/
theorem reads_mantissa {first : Char} {others : List Char} (hfirst : first.isDigit = true)
    (h : ∀ c ∈ others, c.isDigit = true) :
    Reads (first :: ((if (first :: others).length ≤ 1 then [] else '.' :: (first :: others).drop 1) ++
      ['e'])) [] := by
  refine reads_number hfirst fun c hc => ?_
  rcases List.mem_append.1 hc with hc | hc
  · split at hc
    · cases hc
    · rcases List.mem_cons.1 hc with rfl | hc
      · exact .inr rfl
      · exact .inl (isWordChar_of_isDigit (h c hc))
  · obtain rfl := List.mem_singleton.1 hc
    exact .inl rfl

/-- An exponent: what is behind its sign is another number. -/
theorem reads_exponent {sign : Char} (h : sign = '-' ∨ sign = '+') (count n : Nat) :
    Reads ([sign] ++ (List.replicate count '0' ++ Nat.toDigits 10 n)) [] := by
  refine (skips_mark (by rcases h with rfl | rfl <;> decide)).reads (reads_digits fun c hc => ?_)
  rcases List.mem_append.1 hc with hc | hc
  · exact .inl (Json.allDigits_replicate _ c hc)
  · exact .inl (Json.allDigits_toDigits _ c hc)

theorem reads_decimal {d : Double.Decimal} (h : 0 < d.digits) : Reads d.text [] := by
  have hdigits (c : Char) (hc : c ∈ d.trimmedDigits) : c.isDigit = true := d.allDigits_trimmedDigits c hc
  unfold Double.Decimal.text
  simp only
  split
  · refine reads_digits fun c hc => ?_
    split_ifs at hc
    all_goals
      simp only [List.mem_append, List.mem_cons, List.not_mem_nil, or_false] at hc
    -- the point is in front of all digits, behind them, or between them
    · rcases hc with ((rfl | rfl) | hc) | hc
      · exact .inl rfl
      · exact .inr rfl
      · exact .inl (Json.allDigits_replicate _ c hc)
      · exact .inl (hdigits c hc)
    · rcases hc with (hc | hc) | rfl | rfl
      · exact .inl (hdigits c hc)
      · exact .inl (Json.allDigits_replicate _ c hc)
      · exact .inr rfl
      · exact .inl rfl
    · rcases hc with (hc | rfl) | hc
      · exact .inl (hdigits c (List.mem_of_mem_take hc))
      · exact .inr rfl
      · exact .inl (hdigits c (List.mem_of_mem_drop hc))
  · -- there is an exponent, and its sign stops the number in front of it
    obtain ⟨first, others, heq, -⟩ := Double.Decimal.exists_trimmedDigits_cons h
    rw [heq] at hdigits ⊢
    obtain ⟨hfirst, hothers⟩ := List.forall_mem_cons.1 hdigits
    generalize hmagnitude : (if d.point - 1 < 0 then '-' else '+') = sign
    have hsign : sign = '-' ∨ sign = '+' := by
      rw [← hmagnitude]
      split <;> simp
    have hall := (reads_mantissa hfirst hothers).append
      (reads_exponent hsign (2 - (Nat.toDigits 10 (d.point - 1).natAbs).length) (d.point - 1).natAbs)
      (by simp) (stops_cons (by rcases hsign with rfl | rfl <;> decide) _)
    simpa using hall

/-- The words of a double: none, if it is a finite one. -/
def doubleWords : Double → List String
  | .nan => ["nan"]
  | .infinity _ => ["inf"]
  | .finite _ _ _ => []

theorem skips_sign (negative : Bool) : Skips (if negative then ['-'] else []) := by
  cases negative
  · exact skips_marks rfl
  · exact skips_mark (by decide)

theorem reads_double (value : Double) : Reads (value.text "nan" "inf") (doubleWords value) := by
  have hzero : Reads ['0', '.', '0'] [] :=
    reads_number rfl (List.forall_mem_cons.2 ⟨.inr rfl, List.forall_mem_singleton.2 (.inl rfl)⟩)
  cases value with
  | nan => exact reads_name ⟨'n', ['a', 'n'], rfl, rfl, List.all_eq_true.1 rfl⟩
  | infinity negative =>
    exact (skips_sign negative).reads (reads_name ⟨'i', ['n', 'f'], rfl, rfl, List.all_eq_true.1 rfl⟩)
  | finite negative mantissa exponent =>
    refine (skips_sign negative).reads ?_
    split
    · exact hzero
    · -- nothing is known of the mantissa and the exponent, so there may be no digits for them
      rcases Double.pos_or_eq_of_shortest mantissa exponent with hpos | heq
      · exact reads_decimal hpos
      · have htext : Double.Decimal.text ⟨0, 0⟩ = ['0', '.', '0'] := by decide +kernel
        rw [heq, htext]
        exact hzero

theorem reads_int (value : Int) : Reads (toString value).toList [] := by
  rw [Json.toList_toString_int]
  have hdigits : Reads (Nat.toDigits 10 value.natAbs) [] :=
    reads_digits fun c hc => .inl (Json.allDigits_toDigits _ c hc)
  unfold Json.signed
  split
  · exact (skips_mark (by decide)).reads hdigits
  · exact hdigits

/-! ### Values -/

mutual
/-- The words of a value. -/
def literalWords : Json → List String
  | .null => ["None"]
  | .bool true => ["True"]
  | .bool false => ["False"]
  | .int _ => []
  | .double value => doubleWords value
  | .str _ => []
  | .arr items => (itemWords items).flatten
  | .obj members => (memberWords members).flatten

/-- The words of each item. -/
def itemWords : List Json → List (List String)
  | [] => []
  | item :: rest => literalWords item :: itemWords rest

/-- The words of each member. -/
def memberWords : List (String × Json) → List (List String)
  | [] => []
  | (_, value) :: rest => literalWords value :: memberWords rest
end

/-- What is between two parts of a list. -/
theorem reads_comma {part other : List Char} {names others : List String} (h : Reads part names)
    (h' : Reads other others) : Reads (part ++ [',', ' '] ++ other) (names ++ others) := by
  rw [List.append_assoc]
  exact h.append ((skips_marks (by decide)).reads h') (by simp) (stops_cons (by decide) _)

/-- A mark behind a part. -/
theorem Reads.closed {part : List Char} {names : List String} (h : Reads part names) {mark : Char}
    (hmark : IsMark mark) (hparts : Parts mark) : Reads (part ++ [mark]) names := by
  have hall := h.append (skips_mark hmark).self (List.cons_ne_nil _ _) (stops_cons hparts [])
  rwa [List.append_nil] at hall

/-- Parts in brackets. -/
theorem reads_bracket {part : List Char} {names : List String} (h : Reads part names) {left right : Char}
    (hleft : IsMark left) (hright : IsMark right) (hparts : Parts right) :
    Reads ([left] ++ part ++ [right]) names :=
  ((skips_mark hleft).reads h).closed hright hparts

/-- Parts of a list, each with its words. -/
theorem reads_intercalate {parts : List String} {namess : List (List String)}
    (h : List.Forall₂ (fun part names => Reads part.toList names) parts namess) :
    Reads (", ".intercalate parts).toList namess.flatten := by
  rw [String.toList_intercalate]
  change Reads ([',', ' '].intercalate _) _
  induction h with
  | nil => exact .nil
  | @cons part names parts namess hfirst hothers ih =>
    cases hothers with
    | nil => simpa using hfirst
    | cons hsecond hothers =>
      rw [List.map_cons, List.map_cons, List.intercalate_cons_cons]
      exact reads_comma hfirst ih

mutual
/-- **The words of a value**, as it stands in a line. -/
theorem reads_literal : (value : Json) → Reads value.literal.toList (literalWords value)
  | .null => reads_name ⟨'N', ['o', 'n', 'e'], rfl, rfl, List.all_eq_true.1 rfl⟩
  | .bool true => reads_name ⟨'T', ['r', 'u', 'e'], rfl, rfl, List.all_eq_true.1 rfl⟩
  | .bool false => reads_name ⟨'F', ['a', 'l', 's', 'e'], rfl, rfl, List.all_eq_true.1 rfl⟩
  | .int value => reads_int value.value
  | .double value => by
    rw [Json.literal, String.toList_ofList]
    exact reads_double value
  | .str text => reads_textLiteral text
  | .arr items => by
    rw [Json.literal, String.toList_append, String.toList_append]
    exact reads_bracket (reads_intercalate (reads_items items)) (by decide) (by decide) (by decide)
  | .obj members => by
    rw [Json.literal, String.toList_append, String.toList_append]
    exact reads_bracket (reads_intercalate (reads_members members)) (by decide) (by decide) (by decide)

theorem reads_items : (items : List Json) →
    List.Forall₂ (fun part names => Reads part.toList names) (Json.itemLiterals items) (itemWords items)
  | [] => .nil
  | item :: rest => .cons (reads_literal item) (reads_items rest)

theorem reads_members : (members : List (String × Json)) →
    List.Forall₂ (fun part names => Reads part.toList names) (Json.memberLiterals members)
      (memberWords members)
  | [] => .nil
  | (name, value) :: rest => by
    refine .cons ?_ (reads_members rest)
    rw [String.toList_append, String.toList_append, List.append_assoc]
    exact (reads_textLiteral name).append ((skips_marks (by decide)).reads (reads_literal value)) (by simp)
      (stops_cons (by decide) _)
end

end SchemaPress.Source.Python
