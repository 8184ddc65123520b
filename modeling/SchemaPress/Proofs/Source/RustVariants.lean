import SchemaPress.Proofs.Name.Characters
import SchemaPress.Proofs.Text.RustLiteral
import SchemaPress.Source.Rust

/-!
# Variants of Rust enums

An enum of texts has a variant for each value, whose name is made of the words of the value, and is described
to serde by the value itself wherever the two differ (`VariantText`). Names are told apart by counters, so no
two variants have the same name. Each of them is a capital letter that letters and digits follow
(`names_variantTexts`).

Of the keywords of Rust that leaves one, which has a capital letter in front, and nothing keeps a variant
from it: a value whose only word is `self` is the one that gives a keyword (`variantName_eq_self_iff`). So an
enum is well formed if and only if no value is such a word, and serde knows each of its variants by exactly
the value (`block_variants`).
-/

namespace SchemaPress.Source.Rust

open Name

/-! ### Names of variants -/

/-- Words that Rust keeps for itself without giving them a meaning, or gives one in some places only. -/
def reservedWords : List String :=
  ["abstract", "become", "box", "do", "final", "gen", "macro", "override", "priv", "try", "typeof", "unsized",
   "virtual", "yield"]

/-- The keywords of Rust. -/
def keywords : List String :=
  Keyword.rust ++ Keyword.rustPath ++ reservedWords

/-- **A capital letter, then letters and digits.** -/
def IsVariantName (name : String) : Prop :=
  ∃ c rest, name.toList = c :: rest ∧ c.isUpper = true ∧ ∀ d ∈ rest, d.isAlphanum = true

/-- The name that a value asks for, before it is told apart from other ones. -/
def variantBase (index : Nat) (value : String) : String :=
  shieldDigit "V" (orElse (Text.pascalCase value) ("Value" ++ toString index))

theorem variantName_eq (index : Nat) (value : String) (taken : List String) :
    variantName index value taken = fresh taken (variantBase index value) := rfl

/-- Of the keywords, one has a capital letter in front. -/
theorem eq_self_of_mem_keywords {name : String} (h : IsVariantName name) (hmem : name ∈ keywords) :
    name = "Self" := by
  have hlower : keywords.all (fun word => word == "Self" || word.toList.head?.any (! ·.isUpper)) = true := by
    decide +kernel
  obtain ⟨c, rest, hchars, hupper, -⟩ := h
  rcases Bool.or_eq_true_iff.1 (List.all_eq_true.1 hlower name hmem) with heq | hhead
  · exact beq_iff_eq.1 heq
  · rw [hchars] at hhead
    change (!c.isUpper) = true at hhead
    rw [hupper] at hhead
    cases hhead

/-- **A name of that shape is a keyword just if it is this one.** -/
theorem mem_keywords_iff {name : String} (h : IsVariantName name) : name ∈ keywords ↔ name = "Self" := by
  refine ⟨eq_self_of_mem_keywords h, ?_⟩
  rintro rfl
  decide

theorem IsVariantName.append {base tail : String} (h : IsVariantName base)
    (htail : ∀ c ∈ tail.toList, c.isAlphanum = true) : IsVariantName (base ++ tail) :=
  IsMember.append h htail

/-- A counter keeps a name in shape. -/
theorem IsVariantName.fresh {base : String} (h : IsVariantName base) (taken : List String) :
    IsVariantName (fresh taken base) :=
  IsMember.fresh h (fun _ => isAlphanum_of_isDigit) taken

/-- The three ways to a name for a value. -/
inductive Asks (index : Nat) (value : String) : String → Prop where
  /-- A value without words is counted. -/
  | counted (hempty : Text.pascalCase value = "") : Asks index value ("Value" ++ toString index)
  /-- Words that open with a digit get a letter in front. -/
  | digit (hdigit : startsWithDigit (Text.pascalCase value) = true) :
      Asks index value ("V" ++ Text.pascalCase value)
  /-- All other words are a name. -/
  | words (hsome : Text.pascalCase value ≠ "") (hdigit : startsWithDigit (Text.pascalCase value) = false) :
      Asks index value (Text.pascalCase value)

theorem asks_variantBase (index : Nat) (value : String) : Asks index value (variantBase index value) := by
  unfold variantBase
  by_cases hempty : Text.pascalCase value = ""
  · have hchoice : orElse (Text.pascalCase value) ("Value" ++ toString index) = "Value" ++ toString index :=
      if_pos (by rw [hempty]; rfl)
    have hletter : startsWithDigit ("Value" ++ toString index) = false := by
      unfold startsWithDigit
      rw [String.toList_append]
      rfl
    rw [hchoice, shieldDigit, hletter]
    exact .counted hempty
  · have hchoice : orElse (Text.pascalCase value) ("Value" ++ toString index) = Text.pascalCase value :=
      if_neg (by simpa using hempty)
    rw [hchoice, shieldDigit]
    cases hdigit : startsWithDigit (Text.pascalCase value) with
    | true => exact .digit hdigit
    | false => exact .words hempty hdigit

/-- What a value asks for has the shape of a name. -/
theorem isVariantName_variantBase (index : Nat) (value : String) :
    IsVariantName (variantBase index value) := by
  have hasks := asks_variantBase index value
  generalize variantBase index value = base at hasks
  cases hasks with
  | counted hempty =>
    have hvalue : IsVariantName "Value" :=
      ⟨'V', ['a', 'l', 'u', 'e'], rfl, rfl, fun _ hd => List.all_eq_true.1 rfl _ hd⟩
    exact hvalue.append fun c hc => isAlphanum_of_mem_toString hc
  | digit hdigit =>
    have hletter : IsVariantName "V" := ⟨'V', [], rfl, rfl, nofun⟩
    have hsome : Text.pascalCase value ≠ "" := by
      intro hempty
      rw [hempty] at hdigit
      cases hdigit
    exact hletter.append fun c hc => (Text.capitalized_pascalCase hsome).isAlphanum hc
  | words hsome hdigit =>
    obtain ⟨c, rest, hchars, hfirst, hrest⟩ := Text.capitalized_pascalCase hsome
    rcases hfirst with hupper | hc
    · exact ⟨c, rest, hchars, hupper, hrest⟩
    · rw [startsWithDigit_iff.2 ⟨c, rest, hchars, hc⟩] at hdigit
      cases hdigit

/-- Only the word itself asks for the keyword. -/
theorem variantBase_eq_self_iff (index : Nat) (value : String) :
    variantBase index value = "Self" ↔ Text.pascalCase value = "Self" := by
  -- what gets something in front opens with another letter
  have hfront {c : Char} {text : List Char} {name : String} (hname : name.toList = c :: text)
      (hc : c ≠ 'S') : name ≠ "Self" := by
    rintro rfl
    exact hc (List.cons.inj hname).1.symm
  have hasks := asks_variantBase index value
  generalize variantBase index value = base at hasks
  cases hasks with
  | counted hempty =>
    rw [hempty]
    have hchars : ("Value" ++ toString index).toList = 'V' :: ("alue".toList ++ (toString index).toList) := by
      rw [String.toList_append]
      rfl
    exact iff_of_false (hfront hchars (by decide)) (by decide)
  | digit hdigit =>
    obtain ⟨c, rest, hchars, hc⟩ := startsWithDigit_iff.1 hdigit
    have hletter : ("V" ++ Text.pascalCase value).toList = 'V' :: (Text.pascalCase value).toList := by
      rw [String.toList_append]
      rfl
    refine iff_of_false (hfront hletter (by decide)) (hfront hchars ?_)
    rintro rfl
    cases hc
  | words => exact Iff.rfl

/-- A counter never makes the keyword. -/
theorem append_toString_ne_self (base : String) (n : Nat) : base ++ toString n ≠ "Self" := by
  intro heq
  have hlast := congrArg (fun text : String => text.toList.getLast?) heq
  simp only [String.toList_append] at hlast
  obtain ⟨c, hc⟩ : ∃ c, c ∈ (toString n).toList.getLast? := by
    have hne : (toString n).toList ≠ [] := by
      rw [Nat.toString_eq_repr, Nat.toList_repr]
      exact Nat.toDigits_ne_nil
    exact ⟨_, List.getLast?_eq_some_getLast hne⟩
  have hdigit : c.isDigit = true := by
    have hmem := List.mem_of_getLast? hc
    rw [Nat.toString_eq_repr, Nat.toList_repr] at hmem
    exact Nat.isDigit_of_mem_toDigits (by decide) (by decide) hmem
  rw [List.getLast?_append, Option.mem_def.1 hc] at hlast
  obtain rfl : c = 'f' := Option.some.inj hlast
  cases hdigit

/-- **The keyword is the name of the first value that asks for it**, and of no other one. -/
theorem variantName_eq_self_iff {index : Nat} {value : String} {taken : List String}
    (hfree : "Self" ∉ taken) :
    variantName index value taken = "Self" ↔ Text.pascalCase value = "Self" := by
  rw [variantName_eq, ← variantBase_eq_self_iff index]
  constructor
  · intro hname
    rcases fresh_cases taken (variantBase index value) with heq | ⟨n, heq⟩
    · rw [← heq]
      exact hname
    · exact absurd (heq.symm.trans hname) (append_toString_ne_self _ n)
  · intro hbase
    rw [hbase]
    exact if_neg (by simpa using hfree)

/-! ### Variants -/

/-- A variant of an enum as it is written. -/
structure VariantText where
  /-- The name. -/
  name : String
  /-- The literal of the value that serde is told, if it is told one. -/
  rename : Option String

namespace VariantText

/-- The lines of a variant. -/
def lines (text : VariantText) : List String :=
  (text.rename.map fun literal => "    #[serde(rename = " ++ literal ++ ")]").toList ++
    ["    " ++ text.name ++ ","]

/-- **The text that serde knows a variant by**: what the literal denotes that it is told, and the name of the
variant if it is told none. -/
def serdeName? (text : VariantText) : Option String :=
  match text.rename with
  | some literal => Text.rustUnquote? literal.toList
  | none => some text.name

end VariantText

/-- The variant of this name for a value. -/
def variantText (name value : String) : VariantText where
  name := name
  rename := if name = value then none else some (Text.rustQuote value)

/-- The variants for values, from the one of this index on. -/
def variantTexts (index : Nat) (taken : List String) : List String → List VariantText
  | [] => []
  | value :: rest =>
    let name := variantName index value taken
    variantText name value :: variantTexts (index + 1) (name :: taken) rest

theorem variantLines_eq (index : Nat) (taken : List String) (values : List String) :
    variantLines index taken values = (variantTexts index taken values).flatMap VariantText.lines := by
  induction values generalizing index taken with
  | nil => rfl
  | cons value rest ih =>
    rw [variantLines, variantTexts, List.flatMap_cons, ih]
    unfold VariantText.lines variantText
    by_cases heq : variantName index value taken = value
    · simp only [if_pos heq]
      rfl
    · simp only [if_neg heq]
      rfl

/-- **A variant is known by its value**, whatever its name is. -/
theorem serdeName?_variantText (name value : String) : (variantText name value).serdeName? = some value := by
  unfold VariantText.serdeName? variantText
  by_cases heq : name = value
  · rw [if_pos heq]
    exact congrArg some heq
  · rw [if_neg heq]
    exact Text.rustUnquote?_rustQuote value

theorem serdeNames_variantTexts (index : Nat) (taken : List String) (values : List String) :
    List.Forall₂ (fun text value => text.serdeName? = some value) (variantTexts index taken values)
      values := by
  induction values generalizing index taken with
  | nil => exact .nil
  | cons value rest ih => exact .cons (serdeName?_variantText _ value) (ih _ _)

/-- Names of variants are made one after the other. -/
theorem issued_variantTexts (index : Nat) (taken : List String) (values : List String) :
    Issued IsVariantName taken ((variantTexts index taken values).map VariantText.name) := by
  induction values generalizing index taken with
  | nil => exact .nil
  | cons value rest ih => exact .cons (isVariantName_variantBase index value) (ih _ _)

/-- **Names of variants are distinct**, and have the shape that types and variants have in Rust. -/
theorem names_variantTexts (index : Nat) (taken : List String) (values : List String) :
    ((variantTexts index taken values).map VariantText.name).Nodup ∧
      ∀ text ∈ variantTexts index taken values, IsVariantName text.name := by
  have hissued := issued_variantTexts index taken values
  have hfresh (base : String) (hbase : IsVariantName base) (taken : List String) :
      IsVariantName (fresh taken base) := hbase.fresh taken
  exact ⟨hissued.nodup, fun text htext => hissued.forall_mem hfresh _ (List.mem_map_of_mem htext)⟩

/-- The keyword is a name as soon as a value asks for it. -/
theorem exists_self_iff (index : Nat) {taken : List String} (values : List String)
    (hfree : "Self" ∉ taken) :
    (∃ text ∈ variantTexts index taken values, text.name = "Self") ↔
      ∃ value ∈ values, Text.pascalCase value = "Self" := by
  induction values generalizing index taken with
  | nil => exact iff_of_false (by rintro ⟨_, h, -⟩; cases h) (by rintro ⟨_, h, -⟩; cases h)
  | cons value rest ih =>
    rw [variantTexts, List.exists_mem_cons_iff, List.exists_mem_cons_iff]
    have hfirst : (variantText (variantName index value taken) value).name = "Self" ↔
        Text.pascalCase value = "Self" := variantName_eq_self_iff hfree
    by_cases hvalue : Text.pascalCase value = "Self"
    · exact iff_of_true (.inl (hfirst.2 hvalue)) (.inl hvalue)
    · -- the keyword is still free behind a value that does not ask for it
      have hname : variantName index value taken ≠ "Self" := fun h => hvalue (hfirst.1 h)
      have hstill : "Self" ∉ variantName index value taken :: taken := by
        intro hmem
        rcases List.mem_cons.1 hmem with heq | hmem
        · exact hname heq.symm
        · exact hfree hmem
      rw [hfirst, ih (index + 1) hstill]

theorem texts?_map_str (values : List String) : texts? (values.map Json.str) = some values := by
  unfold texts?
  induction values with
  | nil => rfl
  | cons value rest ih => rw [List.map_cons, List.mapM_cons, ih]; rfl

/-- **Enums of texts are well formed, but for one word.** An enum of texts, whatever these are and however
often they repeat, is declared with a variant for each of them. No two variants have the same name, each name
is a capital letter that letters and digits follow, and serde knows each variant by exactly its value. No
name is a keyword, if and only if no value has `Self` for its words. -/
theorem block_variants {declaration : Declaration} {values : List String}
    (hshape : declaration.shape = .enum (values.map Json.str)) (hvalues : values ≠ []) :
    ∃ texts : List VariantText,
      block declaration = .ok (linesIf declaration.description ["/// " ++ declaration.description] ++
        ["#[derive(Serialize, Deserialize, Clone, Debug, PartialEq, Eq, Hash)]",
          "pub enum " ++ declaration.name ++ " \x7b"] ++
        texts.flatMap VariantText.lines ++ ["\x7d"]) ∧
      (texts.map VariantText.name).Nodup ∧
      (∀ text ∈ texts, IsVariantName text.name) ∧
      List.Forall₂ (fun text value => text.serdeName? = some value) texts values ∧
      ((∀ text ∈ texts, text.name ∉ keywords) ↔ ∀ value ∈ values, Text.pascalCase value ≠ "Self") := by
  obtain ⟨value, rest, rfl⟩ := List.exists_cons_of_ne_nil hvalues
  obtain ⟨hnodup, hnames⟩ := names_variantTexts 0 [] (value :: rest)
  refine ⟨variantTexts 0 [] (value :: rest), ?_, hnodup, hnames,
    serdeNames_variantTexts 0 [] _, ?_⟩
  · unfold block
    rw [hshape]
    simp only [texts?_map_str, variantLines_eq]
    rfl
  · have hself := exists_self_iff 0 (value :: rest) List.not_mem_nil
    constructor
    · intro hlegal other hother heq
      obtain ⟨text, htext, hname⟩ := hself.2 ⟨other, hother, heq⟩
      exact hlegal text htext ((mem_keywords_iff (hnames text htext)).2 hname)
    · intro hvalues text htext hmem
      obtain ⟨other, hother, heq⟩ := hself.1 ⟨text, htext, (mem_keywords_iff (hnames text htext)).1 hmem⟩
      exact hvalues other hother heq

/-- Values that repeat, that differ in case, that have no words, that open with a digit, and that ask for the
keyword. -/
def awkwardValues : List String :=
  ["red", "Red", "red", "", "value 3", "1st", "self", "SELF", "a\"\u0001"]

/-- An enum of these values. -/
def awkwardEnum : Declaration := ⟨"Awkward", "", .enum (awkwardValues.map Json.str)⟩

theorem block_variants_awkward :
    awkwardValues ≠ [] ∧
    ∃ texts : List VariantText,
      block awkwardEnum = .ok (["#[derive(Serialize, Deserialize, Clone, Debug, PartialEq, Eq, Hash)]",
          "pub enum Awkward \x7b"] ++ texts.flatMap VariantText.lines ++ ["\x7d"]) ∧
      (texts.map VariantText.name).Nodup ∧
      (∀ text ∈ texts, IsVariantName text.name) ∧
      List.Forall₂ (fun text value => text.serdeName? = some value) texts awkwardValues ∧
      ((∀ text ∈ texts, text.name ∉ keywords) ↔
        ∀ value ∈ awkwardValues, Text.pascalCase value ≠ "Self") := by
  have hshape : awkwardEnum.shape = .enum (awkwardValues.map Json.str) := rfl
  have hvalues : awkwardValues ≠ [] := List.cons_ne_nil _ _
  exact ⟨hvalues, block_variants hshape hvalues⟩

/-- The names of these variants. -/
example : (variantTexts 0 [] awkwardValues).map VariantText.name =
    ["Red", "Red2", "Red3", "Value3", "Value32", "V1St", "Self", "Self2", "A"] := by
  decide +kernel

end SchemaPress.Source.Rust
