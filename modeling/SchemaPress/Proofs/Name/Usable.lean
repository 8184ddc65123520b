import SchemaPress.Proofs.Name.Characters

/-!
# Names made of titles can be used

A title becomes the name of a constant in TypeScript, of a package in Go and of a crate in Rust. Each of them
is an identifier: a letter or an underscore, then letters, digits and underscores (`Usable`). What the words
of a title do not give is mended, and no mend needs another one: a title without words gets a name that is no
keyword, what is put in front of a digit is no digit, and no keyword has an underscore at the end where one is
put.

Words of its own list are what each kind of name is kept from. The list for crates lacks the words that stand
for steps of a path, so of these two are names of crates (`crate_mem_rustPath_iff`).
-/

namespace SchemaPress.Name

open Text

/-- **Usable names**: a letter or an underscore, then letters, digits and underscores, and none of the words
that are taken. -/
structure Usable (words : List String) (name : String) : Prop where
  shape : ∃ c rest, name.toList = c :: rest ∧ (c.isAlpha = true ∨ c = '_') ∧ IsPlain rest
  free : name ∉ words

/-- A plain name without a digit in front. -/
theorem usable_of_isPlain {words : List String} {name : String} (h : IsPlain name.toList)
    (hsome : name ≠ "") (hdigit : startsWithDigit name = false) (hfree : name ∉ words) :
    Usable words name := by
  obtain ⟨c, rest, hchars⟩ : ∃ c rest, name.toList = c :: rest :=
    List.exists_cons_of_ne_nil fun hnil => hsome (String.toList_eq_nil_iff.1 hnil)
  rw [hchars] at h
  refine ⟨⟨c, rest, hchars, ?_, fun d hd => h d (List.mem_cons_of_mem _ hd)⟩, hfree⟩
  rcases h c List.mem_cons_self with halnum | hlow
  · rcases Bool.or_eq_true_iff.1 halnum with halpha | hc
    · exact .inl halpha
    · rw [startsWithDigit_iff.2 ⟨c, rest, hchars, hc⟩] at hdigit
      cases hdigit
  · exact .inr hlow

/-! ### Names of constants -/

/-- **What is escaped can be used**, unless a reserved word opens with an underscore. -/
theorem usable_escape {words : List String} {name fallback : String} (h : IsPlain name.toList)
    (hwords : ∀ word ∈ words, word.toList.head? ≠ some '_') (hfallback : Usable words fallback) :
    Usable words (escape name words fallback) := by
  unfold escape
  split
  · exact hfallback
  · next c rest hchars =>
    split
    · have hfront : ("_" ++ name).toList = '_' :: name.toList := by
        rw [String.toList_append]
        rfl
      refine ⟨⟨'_', name.toList, hfront, .inr rfl, h⟩, fun hmem => hwords _ hmem ?_⟩
      rw [hfront]
      rfl
    · next hno =>
      obtain ⟨hdigit, hfree⟩ : Text.isDigit c = false ∧ name ∉ words := by simpa using hno
      refine usable_of_isPlain h ?_ ?_ hfree
      · rintro rfl
        cases hchars
      · refine Bool.eq_false_iff.2 fun hstarts => ?_
        obtain ⟨d, others, hcons, hd⟩ := startsWithDigit_iff.1 hstarts
        obtain rfl : c = d := (List.cons.inj (hchars.symm.trans hcons)).1
        exact Bool.false_ne_true (hdigit.symm.trans (isDigit_of_isDigit hd))

/-! ### Names of packages -/

/-- **What a package asks for**: the words of the title, or `schema` where these are none, or both if a digit
would be in front. -/
inductive Packages (title : String) : String → Prop where
  | none (hempty : snakeCase title = "") : Packages title "schema"
  | digit (hdigit : startsWithDigit (snakeCase title) = true) : Packages title ("schema_" ++ snakeCase title)
  | words (hsome : snakeCase title ≠ "") (hdigit : startsWithDigit (snakeCase title) = false) :
      Packages title (snakeCase title)

/-- A package has the name that it asks for, with an underscore behind a keyword. -/
theorem package_cases (title : String) (keywords : List String) :
    ∃ base, Packages title base ∧
      ((base ∈ keywords ∧ package title keywords = base ++ "_") ∨
       (base ∉ keywords ∧ package title keywords = base)) := by
  refine ⟨shieldDigit "schema_" (orElse (snakeCase title) "schema"), ?_, ?_⟩
  · by_cases hempty : snakeCase title = ""
    · rw [hempty]
      exact .none hempty
    · rw [orElse, if_neg (by simpa using hempty), shieldDigit]
      cases hdigit : startsWithDigit (snakeCase title) with
      | true => exact .digit hdigit
      | false => exact .words hempty hdigit
  · unfold package
    simp only [List.contains_eq_mem, decide_eq_true_eq]
    split
    · next hmem => exact .inl ⟨hmem, rfl⟩
    · next hno => exact .inr ⟨hno, rfl⟩

/-- Words that need no mend are the name of the package. -/
theorem package_of_words {title : String} {keywords : List String} (hsome : snakeCase title ≠ "")
    (hdigit : startsWithDigit (snakeCase title) = false) (hfree : snakeCase title ∉ keywords) :
    package title keywords = snakeCase title := by
  obtain ⟨base, hbase, hname⟩ := package_cases title keywords
  have hwords : base = snakeCase title := by
    cases hbase with
    | none hempty => exact absurd hempty hsome
    | digit hstarts => exact absurd (hdigit.symm.trans hstarts) Bool.false_ne_true
    | words => rfl
  subst hwords
  obtain ⟨hmem, -⟩ | ⟨-, heq⟩ := hname
  · exact absurd hmem hfree
  · exact heq

/-- What is put in front of a name, if it can be used itself. -/
theorem Usable.append {words : List String} {front name : String} (h : Usable words front)
    (hname : IsPlain name.toList) (hfree : front ++ name ∉ words) : Usable words (front ++ name) := by
  obtain ⟨c, rest, hchars, hc, hrest⟩ := h.shape
  refine ⟨⟨c, rest ++ name.toList, ?_, hc, hrest.append hname⟩, hfree⟩
  rw [String.toList_append, hchars, List.cons_append]

theorem Packages.usable {title base : String} (h : Packages title base) : Usable [] base := by
  have hplain : IsPlain "schema".toList := by simp [IsPlain]
  cases h with
  | none => exact usable_of_isPlain hplain (by decide) rfl List.not_mem_nil
  | digit =>
    have hfront : Usable [] "schema_" :=
      usable_of_isPlain (by simp [IsPlain]) (by decide) rfl List.not_mem_nil
    exact hfront.append (isPlain_snakeCase title) List.not_mem_nil
  | words hsome hdigit => exact usable_of_isPlain (isPlain_snakeCase title) hsome hdigit List.not_mem_nil

/-- An underscore is the last character of what has one behind it. -/
theorem getLast?_append_underscore (base : String) : (base ++ "_").toList.getLast? = some '_' := by
  rw [String.toList_append, List.getLast?_append_of_ne_nil _ (by decide)]
  rfl

/-- **A name of a package can be used**, unless a keyword ends in an underscore. -/
theorem usable_package (title : String) {keywords : List String}
    (hkeywords : ∀ word ∈ keywords, word.toList.getLast? ≠ some '_') :
    Usable keywords (package title keywords) := by
  obtain ⟨base, hbase, ⟨-, heq⟩ | ⟨hfree, heq⟩⟩ := package_cases title keywords
  · have hunderscore : IsPlain "_".toList := by simp [IsPlain]
    have hmended := hbase.usable.append hunderscore List.not_mem_nil
    rw [heq]
    exact ⟨hmended.shape, fun hmem => hkeywords _ hmem (getLast?_append_underscore base)⟩
  · rw [heq]
    exact ⟨hbase.usable.shape, hfree⟩

/-! ### Steps of a path -/

/-- The words of a title that are a step of a path without being a keyword. -/
theorem snakeCase_mem_rustPath {title : String} (hpath : snakeCase title ∈ Keyword.rustPath)
    (hfree : snakeCase title ∉ Keyword.rust) : snakeCase title = "self" ∨ snakeCase title = "super" := by
  have hchars : ∀ c ∈ (snakeCase title).toList, IsSnakeChar c := by
    cases hempty : (snakeCase title).isEmpty with
    | true =>
      rw [String.isEmpty_iff.1 hempty]
      exact nofun
    | false => exact (isSnake_snakeCase hempty).chars
  simp only [Keyword.rustPath, List.mem_cons, List.not_mem_nil, or_false] at hpath
  obtain heq | heq | heq | heq := hpath
  · exact .inl heq
  · exact .inr heq
  · rw [heq] at hfree
    exact absurd (by decide : "crate" ∈ Keyword.rust) hfree
  · -- the words of a title lose their capital letters
    rw [heq] at hchars
    have hcapital : IsSnakeChar 'S' := hchars 'S' List.mem_cons_self
    rcases hcapital with hlower | hdigit | hlow
    · exact absurd hlower (by decide)
    · exact absurd hdigit (by decide)
    · exact absurd hlow (by decide)

/-- **Two names of crates are steps of a path**, those of titles whose only word is `self` or `super`. The
other two steps are a keyword, which is mended, and a word with a capital letter. -/
theorem crate_mem_rustPath_iff (title : String) :
    crate title ∈ Keyword.rustPath ↔ snakeCase title = "self" ∨ snakeCase title = "super" := by
  constructor
  · intro hmem
    -- no step of a path has an underscore in it, so nothing has been put to the words
    have hno : ∀ word ∈ Keyword.rustPath, '_' ∉ word.toList := by decide +kernel
    have hplain : '_' ∉ (crate title).toList := hno _ hmem
    unfold crate at hmem hplain
    obtain ⟨base, hbase, ⟨-, heq⟩ | ⟨hfree, heq⟩⟩ := package_cases title Keyword.rust
    · rw [heq] at hplain
      exact absurd (List.mem_of_getLast? (getLast?_append_underscore base)) hplain
    · rw [heq] at hmem hplain
      cases hbase with
      | none => exact absurd hmem (by decide)
      | digit =>
        rw [String.toList_append] at hplain
        exact absurd (List.mem_append_left _ (by decide)) hplain
      | words => exact snakeCase_mem_rustPath hmem hfree
  · intro hwords
    have hsteps : ∀ word ∈ ["self", "super"], word ≠ "" ∧ startsWithDigit word = false ∧
        word ∉ Keyword.rust ∧ word ∈ Keyword.rustPath := by decide +kernel
    obtain ⟨hsome, hdigit, hfree, hpath⟩ := hsteps (snakeCase title) (by simpa using hwords)
    have hname : crate title = snakeCase title := package_of_words hsome hdigit hfree
    rw [hname]
    exact hpath

/-- **Names made of titles can be used**: the constant of a TypeScript module, the package of a Go source and
the crate of a Rust source are identifiers and none of the reserved words. Only the steps of a path are not
kept from crates: a crate can be used beside them as well unless the title has no word but `self` or `super`,
and its name is that step then. -/
theorem usable_names (title : String) :
    Usable Keyword.typeScript (typeScriptConstant title) ∧
    Usable Keyword.go (goPackage title) ∧
    Usable Keyword.rust (crate title) ∧
    (Usable (Keyword.rust ++ Keyword.rustPath) (crate title) ↔
      snakeCase title ≠ "self" ∧ snakeCase title ≠ "super") := by
  have hcrate : Usable Keyword.rust (crate title) := usable_package title (by decide +kernel)
  refine ⟨?_, usable_package title (by decide +kernel), hcrate, ?_⟩
  · have hfallback : Usable Keyword.typeScript "schema" :=
      usable_of_isPlain (by simp [IsPlain]) (by decide) rfl (by decide)
    exact usable_escape (isPlain_camelCase title) (by decide +kernel) hfallback
  · have hsteps := crate_mem_rustPath_iff title
    constructor
    · intro h
      have hno : crate title ∉ Keyword.rustPath := fun hmem => h.free (List.mem_append_right _ hmem)
      exact not_or.1 fun hword => hno (hsteps.2 hword)
    · intro hword
      have hno : crate title ∉ Keyword.rustPath := fun hmem => not_or.2 hword (hsteps.1 hmem)
      exact ⟨hcrate.shape, fun hmem => (List.mem_append.1 hmem).elim hcrate.free hno⟩

end SchemaPress.Name
