import Mathlib
import SchemaPress.Proofs.Name.Fresh

/-!
# Type names are legal in every target language

A legal type name opens with a capital letter, goes on with letters and digits of ASCII, and is none
of the reserved names (`Name.Legal`).

* `Name.legal_ofType` — what `Name.ofType` makes of a text is legal, unless the text has no word in it.
  Each of its mends leaves a legal name: a digit in front is put behind `Type`, and a reserved name
  that gets `Type` behind it is no other reserved name.
* `Name.Legal.fresh` — a counter keeps a name legal, because no reserved name has a digit in it.

What is known of the capitals and small letters of ASCII comes with no single module of Mathlib, so all
of it is imported.
-/

namespace SchemaPress

namespace Text

/-! ### Words -/

/-- A word: letters and digits of ASCII, at least one of them. -/
def IsWord (word : List Char) : Prop :=
  word ≠ [] ∧ ∀ c ∈ word, c.isAlphanum = true

/-- All words of a cut text are words; the one at the front may be missing. -/
structure WordCut.Sound (cut : WordCut) : Prop where
  current : ∀ c ∈ cut.current, c.isAlphanum = true
  later : ∀ word ∈ cut.later, IsWord word

namespace WordCut.Sound

variable {cut : WordCut} (h : cut.Sound)

include h

theorem words : ∀ word ∈ cut.words, IsWord word := by
  unfold WordCut.words
  split
  · exact h.later
  · next hne =>
    intro word hword
    rcases List.mem_cons.1 hword with rfl | hword
    · exact ⟨by simpa using hne, h.current⟩
    · exact h.later word hword

theorem push (c : Char) : (cut.push c).Sound := by
  unfold WordCut.push
  split
  · exact ⟨nofun, h.words⟩
  · next hc =>
    have hc : c.isAlphanum = true := by simpa using hc
    split
    · refine ⟨fun d hd => ?_, h.later⟩
      rcases List.mem_cons.1 hd with rfl | hd
      · exact hc
      · exact h.current d hd
    · exact ⟨List.forall_mem_singleton.2 hc, h.words⟩

end WordCut.Sound

/-- **What a text is cut into are words.** -/
theorem isWord_of_mem_wordsOf {text word : List Char} (h : word ∈ wordsOf text) : IsWord word := by
  have hcut : (text.foldr WordCut.push ⟨[], []⟩).Sound := by
    clear h
    induction text with
    | nil => exact ⟨nofun, nofun⟩
    | cons c rest ih => exact ih.push c
  exact hcut.words word h

/-- No digit is a capital letter. -/
theorem not_isUpper_of_isDigit {c : Char} (h : c.isDigit = true) : ¬ c.isUpper = true := by
  intro hupper
  simp only [Char.isUpper, Char.isDigit, Bool.and_eq_true, decide_eq_true_eq,
    UInt32.le_iff_toNat_le, ge_iff_le] at hupper h
  have h9 : '9'.val.toNat = 57 := rfl
  have hA : 'A'.val.toNat = 65 := rfl
  omega

/-- No digit is a small letter. -/
theorem not_isLower_of_isDigit {c : Char} (h : c.isDigit = true) : ¬ c.isLower = true := by
  intro hlower
  simp only [Char.isLower, Char.isDigit, Bool.and_eq_true, decide_eq_true_eq,
    UInt32.le_iff_toNat_le, ge_iff_le] at hlower h
  have h9 : '9'.val.toNat = 57 := rfl
  have ha : 'a'.val.toNat = 97 := rfl
  omega

theorem isAlphanum_toLower {c : Char} (h : c.isAlphanum = true) :
    c.toLower.isAlphanum = true := by
  rcases Bool.or_eq_true .. ▸ h with halpha | hdigit
  · simp [Char.isAlphanum, halpha]
  · -- a digit is no capital letter, so it stays as it is
    rw [Char.toLower_eq_of_not_isUpper (not_isUpper_of_isDigit hdigit)]
    exact h

/-- The first character of a capitalized word. -/
theorem isUpper_or_isDigit_toUpper {c : Char} (h : c.isAlphanum = true) :
    c.toUpper.isUpper = true ∨ c.toUpper.isDigit = true := by
  rcases Bool.or_eq_true .. ▸ h with halpha | hdigit
  · exact .inl (by simp [halpha])
  · rw [Char.toUpper_eq_of_not_isLower (not_isLower_of_isDigit hdigit)]
    exact .inr hdigit

/-- **Characters of a name in capitalized words**: a capital letter or a digit first, then letters and
digits. -/
def Capitalized (name : List Char) : Prop :=
  ∃ c rest, name = c :: rest ∧ (c.isUpper = true ∨ c.isDigit = true) ∧
    ∀ d ∈ rest, d.isAlphanum = true

theorem Capitalized.isAlphanum {name : List Char} (h : Capitalized name) {c : Char}
    (hc : c ∈ name) : c.isAlphanum = true := by
  obtain ⟨first, rest, rfl, hfirst, hrest⟩ := h
  rcases List.mem_cons.1 hc with rfl | hc
  · rcases hfirst with hupper | hdigit
    · simp [Char.isAlphanum, Char.isAlpha, hupper]
    · simp [Char.isAlphanum, hdigit]
  · exact hrest c hc

theorem Capitalized.append {name tail : List Char} (h : Capitalized name)
    (htail : ∀ c ∈ tail, c.isAlphanum = true) : Capitalized (name ++ tail) := by
  obtain ⟨first, rest, rfl, hfirst, hrest⟩ := h
  refine ⟨first, rest ++ tail, rfl, hfirst, fun c hc => ?_⟩
  rcases List.mem_append.1 hc with hc | hc
  · exact hrest c hc
  · exact htail c hc

theorem capitalized_capitalizeWord {word : List Char} (h : IsWord word) :
    Capitalized (capitalizeWord word) := by
  obtain ⟨c, rest, rfl⟩ := List.exists_cons_of_ne_nil h.1
  refine ⟨c.toUpper, rest.map Char.toLower, rfl,
    isUpper_or_isDigit_toUpper (h.2 c List.mem_cons_self), fun d hd => ?_⟩
  obtain ⟨e, he, rfl⟩ := List.mem_map.1 hd
  exact isAlphanum_toLower (h.2 e (List.mem_cons_of_mem _ he))

theorem capitalized_flatten {words : List (List Char)} (hne : words ≠ [])
    (h : ∀ word ∈ words, IsWord word) : Capitalized (words.map capitalizeWord).flatten := by
  obtain ⟨word, rest, rfl⟩ := List.exists_cons_of_ne_nil hne
  refine (capitalized_capitalizeWord (h word List.mem_cons_self)).append fun c hc => ?_
  obtain ⟨other, hother, hc⟩ := List.mem_flatten.1 hc
  obtain ⟨later, hlater, rfl⟩ := List.mem_map.1 hother
  exact (capitalized_capitalizeWord (h later (List.mem_cons_of_mem _ hlater))).isAlphanum hc

/-- `pascalCase` gives capitalized words, or nothing for a text without words. -/
theorem capitalized_pascalCase {text : String} (hne : pascalCase text ≠ "") :
    Capitalized (pascalCase text).toList := by
  rw [pascalCase, String.toList_ofList]
  refine capitalized_flatten (fun hnil => hne ?_) fun word hword => isWord_of_mem_wordsOf hword
  rw [pascalCase, hnil]
  rfl

end Text

namespace Name

/-! ### Legal names -/

/-- **Legal type names**: a capital letter, then letters and digits, and no reserved name. -/
structure Legal (name : String) : Prop where
  shape : ∃ c rest, name.toList = c :: rest ∧ c.isUpper = true ∧ ∀ d ∈ rest, d.isAlphanum = true
  free : name ∉ Keyword.typeNames

/-- No reserved name has a digit in it. -/
theorem typeNames_no_digit :
    Keyword.typeNames.all (fun name => name.toList.all fun c => !c.isDigit) = true := by
  decide +kernel

/-- A name with a digit in it is no reserved name. -/
theorem not_mem_typeNames_of_digit {name : String} {c : Char} (hc : c ∈ name.toList)
    (hdigit : c.isDigit = true) : name ∉ Keyword.typeNames := by
  intro hname
  have hno := List.all_eq_true.1 (List.all_eq_true.1 typeNames_no_digit name hname) c hc
  rw [hdigit] at hno
  cases hno

/-- A reserved name with `Type` behind it is no reserved name. -/
theorem append_type_not_mem_typeNames :
    ∀ name ∈ Keyword.typeNames, name ++ "Type" ∉ Keyword.typeNames := by
  decide +kernel

theorem startsWithDigit_iff {name : String} :
    startsWithDigit name = true ↔ ∃ c rest, name.toList = c :: rest ∧ c.isDigit = true := by
  unfold startsWithDigit
  cases name.toList with
  | nil => simp
  | cons c rest => simp

/-- **What is made of a text is legal**, or empty. -/
theorem legal_ofType {text : String} (hne : (ofType text).isEmpty = false) : Legal (ofType text) := by
  have hpascal : Text.pascalCase text ≠ "" := by
    intro hnil
    rw [ofType, hnil] at hne
    revert hne
    decide +kernel
  have hcapitalized := Text.capitalized_pascalCase hpascal
  unfold ofType
  simp only
  split
  · next hdigit =>
    obtain ⟨c, rest, hchars, hc⟩ := startsWithDigit_iff.1 hdigit
    have htoList : ("Type" ++ Text.pascalCase text).toList =
        'T' :: ('y' :: 'p' :: 'e' :: (Text.pascalCase text).toList) := by
      rw [String.toList_append]
      rfl
    refine ⟨⟨'T', _, htoList, rfl, fun d hd => ?_⟩, ?_⟩
    · simp only [List.mem_cons] at hd
      rcases hd with rfl | rfl | rfl | hd
      · rfl
      · rfl
      · rfl
      · exact hcapitalized.isAlphanum hd
    · refine not_mem_typeNames_of_digit (c := c) ?_ hc
      rw [htoList, hchars]
      simp
  · next hdigit =>
    -- without a digit in front, capitalized words open with a capital letter
    obtain ⟨c, rest, hchars, hfirst, hrest⟩ := hcapitalized
    have hupper : c.isUpper = true := by
      rcases hfirst with hupper | hc
      · exact hupper
      · exact absurd (startsWithDigit_iff.2 ⟨c, rest, hchars, hc⟩) hdigit
    split
    · next hreserved =>
      have hmem : Text.pascalCase text ∈ Keyword.typeNames := by simpa using hreserved
      refine ⟨⟨c, rest ++ "Type".toList, ?_, hupper, fun d hd => ?_⟩,
        append_type_not_mem_typeNames _ hmem⟩
      · rw [String.toList_append, hchars]
        rfl
      · rcases List.mem_append.1 hd with hd | hd
        · exact hrest d hd
        · exact List.all_eq_true.1 (rfl : "Type".toList.all Char.isAlphanum = true) d hd
    · next hfree => exact ⟨⟨c, rest, hchars, hupper, hrest⟩, by simpa using hfree⟩

theorem legal_type : Legal "Type" where
  shape := ⟨'T', ['y', 'p', 'e'], rfl, rfl, fun d hd => List.all_eq_true.1 rfl d hd⟩
  free := by decide +kernel

/-- A counter behind a legal name. -/
theorem Legal.append_toString {base : String} (h : Legal base) (n : Nat) :
    Legal (base ++ toString n) := by
  obtain ⟨c, rest, hchars, hupper, hrest⟩ := h.shape
  have hdigits : (toString n).toList = Nat.toDigits 10 n := by
    rw [Nat.toString_eq_repr, Nat.toList_repr]
  have htoList : (base ++ toString n).toList = c :: (rest ++ Nat.toDigits 10 n) := by
    rw [String.toList_append, hchars, hdigits]
    rfl
  refine ⟨⟨c, _, htoList, hupper, fun d hd => ?_⟩, ?_⟩
  · rcases List.mem_append.1 hd with hd | hd
    · exact hrest d hd
    · simp [Char.isAlphanum, Nat.isDigit_of_mem_toDigits (by decide) (by decide) hd]
  · obtain ⟨d, hd⟩ := List.exists_mem_of_ne_nil _ (Nat.toDigits_ne_nil (n := n) (b := 10))
    refine not_mem_typeNames_of_digit (c := d) ?_
      (Nat.isDigit_of_mem_toDigits (by decide) (by decide) hd)
    rw [htoList]
    exact List.mem_cons_of_mem _ (List.mem_append_right _ hd)

/-- **A fresh name for a legal one is legal.** -/
theorem Legal.fresh {base : String} (h : Legal base) (taken : List String) :
    Legal (fresh taken base) := by
  rcases fresh_cases taken base with heq | ⟨n, heq⟩
  · rw [heq]
    exact h
  · rw [heq]
    exact h.append_toString n

end Name

end SchemaPress
