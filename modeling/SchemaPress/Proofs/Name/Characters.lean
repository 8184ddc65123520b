import SchemaPress.Proofs.Name.Legal
import SchemaPress.Proofs.Text.Pieces

/-!
# Characters of names

Whatever a title holds, the names that artifacts and their constants get from it consist of letters,
digits and underscores of ASCII (`Name.IsPlain`). So none of them can be mistaken for a path or reach
into what stands beside it in a generated source. Names of members open with a capital letter besides
(`Name.IsMember`).

Names that are made of small words have small letters, digits and single underscores between the words:
no underscore stands in front or behind (`Name.IsSnake`). A counter behind such a name keeps it one, so
an underscore that is put in front of it or behind it tells the result from every such name.
-/

namespace SchemaPress

namespace Name

/-! ### Letters and digits -/

theorem isAlphanum_of_isUpper {c : Char} (h : c.isUpper = true) : c.isAlphanum = true := by
  simp [Char.isAlphanum, Char.isAlpha, h]

theorem isAlphanum_of_isLower {c : Char} (h : c.isLower = true) : c.isAlphanum = true := by
  simp [Char.isAlphanum, Char.isAlpha, h]

theorem isAlphanum_of_isDigit {c : Char} (h : c.isDigit = true) : c.isAlphanum = true := by
  simp [Char.isAlphanum, h]

/-! ### Plain names -/

/-- **Letters, digits and underscores.** -/
def IsPlain (name : List Char) : Prop :=
  ∀ c ∈ name, c.isAlphanum = true ∨ c = '_'

theorem IsPlain.not_mem {name : List Char} (h : IsPlain name) {c : Char}
    (halnum : c.isAlphanum = false) (hlow : c ≠ '_') : c ∉ name := by
  intro hmem
  rcases h c hmem with hc | hc
  · rw [halnum] at hc
    cases hc
  · exact hlow hc

theorem IsPlain.append {name other : List Char} (h : IsPlain name) (h' : IsPlain other) :
    IsPlain (name ++ other) :=
  fun c hc => (List.mem_append.1 hc).elim (h c) (h' c)

theorem isPlain_of_legal {name : String} (h : Legal name) : IsPlain name.toList := by
  obtain ⟨c, rest, hchars, hupper, hrest⟩ := h.shape
  rw [hchars]
  exact List.forall_mem_cons.2 ⟨.inl (isAlphanum_of_isUpper hupper), fun d hd => .inl (hrest d hd)⟩

/-- A legal name is none of those that are reserved or open without a capital letter. -/
theorem Legal.not_mem {name : String} (h : Legal name) {names : List String}
    (hnames : ∀ other ∈ names, other ∈ Keyword.typeNames ∨ other.toList.head?.any Char.isUpper = false) :
    name ∉ names := by
  obtain ⟨c, rest, hchars, hupper, -⟩ := h.shape
  intro hmem
  rcases hnames name hmem with htaken | hlower
  · exact h.free htaken
  · rw [hchars] at hlower
    exact absurd (hlower.symm.trans hupper) Bool.false_ne_true

/-! ### Numbers behind names -/

theorem isAlphanum_of_mem_toString {n : Nat} {c : Char} (h : c ∈ (toString n).toList) :
    c.isAlphanum = true := by
  rw [Nat.toString_eq_repr, Nat.toList_repr] at h
  simp [Char.isAlphanum, Nat.isDigit_of_mem_toDigits (by decide) (by decide) h]

theorem isPlain_toString (n : Nat) : IsPlain (toString n).toList :=
  fun _ hc => .inl (isAlphanum_of_mem_toString hc)

/-! ### Capital letters in front -/

/-- **A capital letter, then characters of this kind.** -/
def IsMember (follows : Char → Bool) (name : String) : Prop :=
  ∃ c rest, name.toList = c :: rest ∧ c.isUpper = true ∧ ∀ d ∈ rest, follows d = true

section Member

variable {follows : Char → Bool} {name : String}

theorem IsMember.append (h : IsMember follows name) {tail : String}
    (htail : ∀ c ∈ tail.toList, follows c = true) : IsMember follows (name ++ tail) := by
  obtain ⟨c, rest, hchars, hupper, hrest⟩ := h
  refine ⟨c, rest ++ tail.toList, ?_, hupper, fun d hd => ?_⟩
  · rw [String.toList_append, hchars, List.cons_append]
  · exact (List.mem_append.1 hd).elim (hrest d) (htail d)

/-- A counter keeps a name in shape if digits may follow. -/
theorem IsMember.fresh (h : IsMember follows name) (hdigit : ∀ c, c.isDigit = true → follows c = true)
    (taken : List String) : IsMember follows (fresh taken name) := by
  rcases fresh_cases taken name with heq | ⟨n, heq⟩
  · rw [heq]
    exact h
  · rw [heq]
    refine h.append fun c hc => hdigit c ?_
    rw [Nat.toString_eq_repr, Nat.toList_repr] at hc
    exact Nat.isDigit_of_mem_toDigits (by decide) (by decide) hc

/-- A name with a word in front of a digit, where the name is in shape unless a digit is in front of it. -/
theorem isMember_shieldDigit {lead : String} (hlead : IsMember follows lead)
    (hchars : ∀ c ∈ name.toList, follows c = true)
    (hname : startsWithDigit name = false → IsMember follows name) :
    IsMember follows (shieldDigit lead name) := by
  unfold shieldDigit
  split
  · exact hlead.append hchars
  · next hdigit => exact hname (Bool.eq_false_iff.2 hdigit)

/-- A name in shape needs no word in front. -/
theorem IsMember.shieldDigit_eq (h : IsMember follows name) (lead : String) : shieldDigit lead name = name := by
  obtain ⟨c, rest, hchars, hupper, -⟩ := h
  refine if_neg fun hstarts => ?_
  obtain ⟨d, others, hcons, hdigit⟩ := startsWithDigit_iff.1 hstarts
  obtain rfl : c = d := (List.cons.inj (hchars.symm.trans hcons)).1
  exact Text.not_isUpper_of_isDigit hdigit hupper

end Member

/-- Capitalized words are in shape unless a digit is in front of them. -/
theorem isMember_of_capitalized {name : String} (h : Text.Capitalized name.toList)
    (hdigit : startsWithDigit name = false) : IsMember Char.isAlphanum name := by
  obtain ⟨c, rest, hchars, hfirst, hrest⟩ := h
  rcases hfirst with hupper | hc
  · exact ⟨c, rest, hchars, hupper, hrest⟩
  · rw [startsWithDigit_iff.2 ⟨c, rest, hchars, hc⟩] at hdigit
    cases hdigit

theorem isMember_of_legal {name : String} (h : Legal name) : IsMember Char.isAlphanum name :=
  h.shape

/-! ### Cases of words -/

theorem isPlain_lowerWord {word : List Char} (h : Text.IsWord word) :
    IsPlain (Text.lowerWord word) := by
  intro c hc
  obtain ⟨letter, hletter, rfl⟩ := List.mem_map.1 hc
  exact .inl (Text.isAlphanum_toLower (h.2 letter hletter))

theorem isPlain_capitalized {words : List (List Char)} (h : ∀ word ∈ words, Text.IsWord word) :
    IsPlain (words.map Text.capitalizeWord).flatten := by
  intro c hc
  obtain ⟨part, hpart, hc⟩ := List.mem_flatten.1 hc
  obtain ⟨word, hword, rfl⟩ := List.mem_map.1 hpart
  exact .inl ((Text.capitalized_capitalizeWord (h word hword)).isAlphanum hc)

theorem isPlain_pascalCase (text : String) : IsPlain (Text.pascalCase text).toList := by
  unfold Text.pascalCase
  rw [String.toList_ofList]
  exact isPlain_capitalized fun word hword => Text.isWord_of_mem_wordsOf hword

theorem isPlain_camelCase (text : String) : IsPlain (Text.camelCase text).toList := by
  have hwords (word : List Char) (hword : word ∈ Text.wordsOf text.toList) : Text.IsWord word :=
    Text.isWord_of_mem_wordsOf hword
  unfold Text.camelCase
  split
  · exact nofun
  · next word rest heq =>
    rw [heq] at hwords
    rw [String.toList_ofList]
    exact (isPlain_lowerWord (hwords word List.mem_cons_self)).append
      (isPlain_capitalized fun other hother => hwords other (List.mem_cons_of_mem _ hother))

/-- The characters of a name in snake case. -/
theorem toList_snakeCase (text : String) :
    (Text.snakeCase text).toList = ['_'].intercalate ((Text.wordsOf text.toList).map Text.lowerWord) := by
  unfold Text.snakeCase
  rw [String.toList_intercalate, List.map_map]
  congr 1
  exact List.map_congr_left fun word _ => String.toList_ofList

theorem isPlain_snakeCase (text : String) : IsPlain (Text.snakeCase text).toList := by
  intro c hc
  by_contra hno
  -- neither the underscores between the words nor the words have the character
  rw [toList_snakeCase] at hc
  refine Text.not_mem_intercalate ?_ (fun piece hpiece hmem => hno ?_) hc
  · intro hmem
    exact hno (.inr (List.mem_singleton.1 hmem))
  · obtain ⟨letters, hletters, rfl⟩ := List.mem_map.1 hpiece
    exact isPlain_lowerWord (Text.isWord_of_mem_wordsOf hletters) c hmem

theorem isPlain_upperSnakeCase (text : String) : IsPlain (Text.upperSnakeCase text).toList := by
  unfold Text.upperSnakeCase
  rw [String.toList_ofList]
  intro c hc
  obtain ⟨d, hd, rfl⟩ := List.mem_map.1 hc
  rcases isPlain_snakeCase text d hd with halnum | rfl
  · refine .inl ?_
    rcases Text.isUpper_or_isDigit_toUpper halnum with hupper | hdigit
    · exact isAlphanum_of_isUpper hupper
    · exact isAlphanum_of_isDigit hdigit
  · exact .inr (by decide)

/-! ### Names of packages and constants -/

theorem isPlain_package (title : String) (keywords : List String) :
    IsPlain (package title keywords).toList := by
  have hname : IsPlain (orElse (Text.snakeCase title) "schema").toList := by
    unfold orElse
    split
    · simp [IsPlain]
    · exact isPlain_snakeCase title
  have hshield : IsPlain (shieldDigit "schema_" (orElse (Text.snakeCase title) "schema")).toList := by
    unfold shieldDigit
    split
    · rw [String.toList_append]
      exact .append (by simp [IsPlain]) hname
    · exact hname
  unfold package
  simp only
  split
  · rw [String.toList_append]
    exact hshield.append (by simp [IsPlain])
  · exact hshield

theorem isPlain_goRawConstant (title : String) : IsPlain (goRawConstant title).toList := by
  unfold goRawConstant
  rw [String.toList_append]
  exact .append (by simp [IsPlain]) (isPlain_pascalCase title)

theorem isPlain_typeScriptConstant (title : String) :
    IsPlain (typeScriptConstant title).toList := by
  have hname := isPlain_camelCase title
  unfold typeScriptConstant escape
  split
  · simp [IsPlain]
  · split
    · rw [String.toList_append]
      exact .append (by simp [IsPlain]) hname
    · exact hname

/-! ### Names in snake case -/

/-- A character of a name in snake case. -/
def IsSnakeChar (c : Char) : Prop :=
  c.isLower = true ∨ c.isDigit = true ∨ c = '_'

/-- **Names in snake case**: small letters, digits and underscores, but no underscore at either end. -/
structure IsSnake (name : List Char) : Prop where
  ne_nil : name ≠ []
  chars : ∀ c ∈ name, IsSnakeChar c
  head : name.head? ≠ some '_'
  last : name.getLast? ≠ some '_'

/-- Names that are joined by an underscore. -/
theorem IsSnake.join {name other : List Char} (h : IsSnake name) (h' : IsSnake other) :
    IsSnake (name ++ '_' :: other) where
  ne_nil := by simp
  chars := by
    intro c hc
    rcases List.mem_append.1 hc with hc | hc
    · exact h.chars c hc
    · rcases List.mem_cons.1 hc with rfl | hc
      · exact .inr (.inr rfl)
      · exact h'.chars c hc
  head := by
    rw [List.head?_append_of_ne_nil _ h.ne_nil]
    exact h.head
  last := by
    have hne : '_' :: other ≠ [] := List.cons_ne_nil _ _
    rw [List.getLast?_append_of_ne_nil _ hne, List.getLast?_cons]
    obtain ⟨last, hlast⟩ := List.getLast?_isSome.2 h'.ne_nil |> Option.isSome_iff_exists.1
    have hother := h'.last
    rw [hlast] at hother ⊢
    exact hother

/-- A name of letters and digits alone. -/
theorem isSnake_of_solid {name : List Char} (hne : name ≠ [])
    (h : ∀ c ∈ name, c.isLower = true ∨ c.isDigit = true) : IsSnake name := by
  have hno : '_' ∉ name := fun hmem => by
    rcases h '_' hmem with hlower | hdigit
    · exact absurd hlower (by decide)
    · exact absurd hdigit (by decide)
  refine ⟨hne, fun c hc => ?_, fun heq => ?_, fun heq => ?_⟩
  · exact (h c hc).imp_right .inl
  · exact hno (List.mem_of_head? heq)
  · exact hno (List.mem_of_getLast? heq)

/-! ### Small words -/

theorem isLower_or_isDigit_toLower {c : Char} (h : c.isAlphanum = true) :
    c.toLower.isLower = true ∨ c.toLower.isDigit = true := by
  rcases Bool.or_eq_true .. ▸ h with halpha | hdigit
  · exact .inl (by simp [halpha])
  · rw [Char.toLower_eq_of_not_isUpper (Text.not_isUpper_of_isDigit hdigit)]
    exact .inr hdigit

theorem isSnake_lowerWord {word : List Char} (h : Text.IsWord word) :
    IsSnake (Text.lowerWord word) := by
  refine isSnake_of_solid (by simpa [Text.lowerWord] using h.1) fun c hc => ?_
  obtain ⟨letter, hletter, rfl⟩ := List.mem_map.1 hc
  exact isLower_or_isDigit_toLower (h.2 letter hletter)

/-- Words that are joined by underscores, by the number of them. -/
theorem isSnake_intercalate : ∀ {words : List (List Char)}, words ≠ [] →
    (∀ word ∈ words, IsSnake word) → IsSnake (['_'].intercalate words)
  | [], hne, _ => absurd rfl hne
  | [word], _, h => by
    rw [List.intercalate_singleton]
    exact h word List.mem_cons_self
  | word :: next :: rest, _, h => by
    rw [List.intercalate_cons_cons, List.append_assoc]
    exact (h word List.mem_cons_self).join
      (isSnake_intercalate nofun fun other hother => h other (List.mem_cons_of_mem _ hother))

/-- **`snakeCase` gives a name in snake case**, or nothing for a text without words. -/
theorem isSnake_snakeCase {text : String} (hne : (Text.snakeCase text).isEmpty = false) :
    IsSnake (Text.snakeCase text).toList := by
  have hwords : Text.wordsOf text.toList ≠ [] := by
    intro hnil
    rw [Text.snakeCase, hnil] at hne
    cases hne
  rw [toList_snakeCase]
  refine isSnake_intercalate (by simpa using hwords) fun word hword => ?_
  obtain ⟨letters, hletters, rfl⟩ := List.mem_map.1 hword
  exact isSnake_lowerWord (Text.isWord_of_mem_wordsOf hletters)

/-! ### Counters -/

/-- A counter behind a name in snake case. -/
theorem IsSnake.append_toString {base : String} (h : IsSnake base.toList) (n : Nat) :
    IsSnake (base ++ toString n).toList := by
  have hdigits (c : Char) (hc : c ∈ (toString n).toList) : c.isDigit = true := by
    rw [Nat.toString_eq_repr, Nat.toList_repr] at hc
    exact Nat.isDigit_of_mem_toDigits (by decide) (by decide) hc
  have hne : (toString n).toList ≠ [] := by
    rw [Nat.toString_eq_repr, Nat.toList_repr]
    exact Nat.toDigits_ne_nil
  rw [String.toList_append]
  refine ⟨by simp [h.ne_nil], fun c hc => ?_, ?_, fun heq => ?_⟩
  · rcases List.mem_append.1 hc with hc | hc
    · exact h.chars c hc
    · exact .inr (.inl (hdigits c hc))
  · rw [List.head?_append_of_ne_nil _ h.ne_nil]
    exact h.head
  · rw [List.getLast?_append_of_ne_nil _ hne] at heq
    exact absurd (hdigits '_' (List.mem_of_getLast? heq)) (by decide)

/-- **A fresh name for one in snake case is in snake case.** -/
theorem IsSnake.fresh {base : String} (h : IsSnake base.toList) (taken : List String) :
    IsSnake (fresh taken base).toList := by
  rcases fresh_cases taken base with heq | ⟨n, heq⟩
  · rw [heq]
    exact h
  · rw [heq]
    exact h.append_toString n

end Name

end SchemaPress
