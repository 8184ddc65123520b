import SchemaPress.Proofs.Source.PythonStatements
import SchemaPress.Proofs.Source.Rendering
import SchemaPress.Proofs.Text.StringLiteral

/-!
# Keys of Python typed dictionaries

A typed dictionary is written in one of two ways (`Form`): as a class whose attributes are the keys, or as a
call with a literal for each key. What Python takes for a key differs between the two (`Form.key?`). A literal
denotes its text. An attribute is a word, but Python writes some words its own way inside a class: a private
name is put behind the name of the class (`mangled`), and one word may not be bound at all.

The form is chosen once for all keys of a dictionary: it is a class just where each of them is an identifier
and no keyword. That leaves private names in classes, so the keys of a dictionary are the names of its
properties except for these (`block_dictionaryKeys`).
-/

namespace SchemaPress.Source.Python

open SourceCheck (isWordChar isWordStart)

/-! ### Private names -/

/-- A text of ASCII characters. -/
def IsAscii (text : String) : Prop :=
  ∀ c ∈ text.toList, c.toNat < 0x80

/-- **Private names of a class**: two underscores in front and not behind, unless the class is named by
underscores only. -/
def IsPrivate (owner name : String) : Prop :=
  ['_', '_'] <+: name.toList ∧ ¬ ['_', '_'] <:+ name.toList ∧ owner.toList.dropWhile (· == '_') ≠ []

instance (owner name : String) : Decidable (IsPrivate owner name) :=
  inferInstanceAs (Decidable (_ ∧ _ ∧ _))

/-- A name as it is meant inside a class: a private one gets the name of the class in front. -/
def mangled (owner name : String) : String :=
  if IsPrivate owner name then String.ofList ('_' :: owner.toList.dropWhile (· == '_')) ++ name else name

/-- Nothing else becomes of a name. -/
theorem mangled_eq_iff {owner name : String} : mangled owner name = name ↔ ¬ IsPrivate owner name := by
  unfold mangled
  split
  · next hprivate =>
    refine ⟨fun heq => ?_, fun h => absurd hprivate h⟩
    -- a private name grows
    have hlength := congrArg (fun text : String => text.toList.length) heq
    simp only [String.toList_append, String.toList_ofList, List.length_append, List.length_cons] at hlength
    omega
  · next hprivate => exact ⟨fun _ => hprivate, fun _ => rfl⟩

/-! ### Keys -/

/-- The two ways to write a typed dictionary. -/
inductive Form where
  /-- A class whose attributes are the keys. -/
  | attributes
  /-- A call with a literal for each key. -/
  | literals
deriving DecidableEq, Repr

/-- The key that Python makes of the attribute which a text starts with, in the class `owner`, and what stands
behind it. Keywords and the one reserved word are refused, and so is what goes on beyond ASCII. -/
def attributeKey? (owner : String) : List Char → Option (String × List Char)
  | [] => none
  | c :: rest =>
    let word := c :: rest.takeWhile isWordChar
    if !isWordStart c || word.any (0x80 ≤ ·.toNat) then none
    else if String.ofList word ∈ "__debug__" :: Keyword.python then none
    else some (mangled owner (String.ofList word), rest.dropWhile isWordChar)

/-- **The key that a text starts with**, in a dictionary of this name and form, and what stands behind it. -/
def Form.key? (form : Form) (owner : String) (text : List Char) : Option (String × List Char) :=
  match form with
  | .attributes => attributeKey? owner text
  | .literals => Text.pythonString? text

/-- **A written key that stands for a name**, in front of the colon that each key has behind it. -/
def Form.Denotes (form : Form) (owner written name : String) : Prop :=
  ∀ rest, form.key? owner (written.toList ++ ':' :: rest) = some (name, ':' :: rest)

/-- **Names that an attribute leaves alone.** -/
def Kept (owner name : String) : Prop :=
  ¬ IsPrivate owner name ∧ name ≠ "__debug__"

variable {owner name : String}

/-- An attribute is the whole of a name, as Python writes that. -/
theorem attributeKey?_append (hword : IsWord name) (hascii : IsAscii name) (hkeyword : name ∉ Keyword.python)
    (rest : List Char) :
    attributeKey? owner (name.toList ++ ':' :: rest) =
      if name = "__debug__" then none else some (mangled owner name, ':' :: rest) := by
  obtain ⟨c, part, hchars, hc, hpart⟩ := hword
  have hstop : ∀ d ∈ (':' :: rest).head?, isWordChar d = false := by
    intro d hd
    rw [← Option.some.inj hd]
    rfl
  obtain ⟨htake, hdrop⟩ := span_append hpart hstop
  have hname : String.ofList (c :: part) = name := by rw [← hchars, String.ofList_toList]
  have hshort : (c :: part).any (fun d => decide (0x80 ≤ d.toNat)) = false := by
    rw [List.any_eq_false]
    intro d hd hle
    have hlt := hascii d (hchars ▸ hd)
    have hge := of_decide_eq_true hle
    omega
  have hreserved : name ∈ "__debug__" :: Keyword.python ↔ name = "__debug__" := by
    rw [List.mem_cons]
    exact or_iff_left hkeyword
  rw [hchars, List.cons_append, attributeKey?]
  simp only [htake, hdrop, hname, hc, hshort, hreserved, Bool.not_true, Bool.or_self, Bool.false_eq_true,
    if_false]

/-- **A name that stands as an attribute is kept** just where Python leaves it alone. -/
theorem denotes_attribute_iff (hword : IsWord name) (hascii : IsAscii name)
    (hkeyword : name ∉ Keyword.python) : Form.attributes.Denotes owner name name ↔ Kept owner name := by
  have hread (rest : List Char) : Form.attributes.key? owner (name.toList ++ ':' :: rest) =
      if name = "__debug__" then none else some (mangled owner name, ':' :: rest) :=
    attributeKey?_append hword hascii hkeyword rest
  unfold Kept
  constructor
  · intro hdenotes
    have hkey := hdenotes []
    rw [hread] at hkey
    split at hkey
    · cases hkey
    · next hdebug =>
      have hmangled : mangled owner name = name := congrArg Prod.fst (Option.some.inj hkey)
      exact ⟨mangled_eq_iff.1 hmangled, hdebug⟩
  · rintro ⟨hprivate, hdebug⟩ rest
    rw [hread, if_neg hdebug, mangled_eq_iff.2 hprivate]

/-- **A literal is a key of its text**, whatever that is. -/
theorem denotes_literal (owner name : String) :
    Form.literals.Denotes owner (Text.literal name) name := by
  intro rest
  change Text.pythonString? ((Text.literal name).toList ++ ':' :: rest) = some (name, ':' :: rest)
  exact Text.pythonString?_literal name (by simp)

/-! ### The form of a dictionary -/

/-- What may stand as an attribute, of ASCII names: identifiers that are no keywords. -/
theorem isAttribute_iff (hascii : IsAscii name) :
    isAttribute name = true ↔ IsWord name ∧ name ∉ Keyword.python := by
  constructor
  · intro h
    refine ⟨isWord_of_isAttribute h, ?_⟩
    have hkeyword := (Bool.and_eq_true_iff.1 h).2
    simpa using hkeyword
  · rintro ⟨⟨c, part, hchars, hc, hpart⟩, hkeyword⟩
    have hstart : Text.startsIdentifier c = true := by
      have hlt := hascii c (hchars ▸ List.mem_cons_self)
      unfold isWordStart at hc
      unfold Text.startsIdentifier
      rw [if_pos hlt]
      simpa [Nat.not_le.2 hlt] using hc
    have hcontinues : part.all Text.continuesIdentifier = true := by
      rw [List.all_eq_true]
      intro d hd
      have hlt := hascii d (hchars ▸ List.mem_cons_of_mem _ hd)
      have hword := hpart d hd
      unfold isWordChar at hword
      unfold Text.continuesIdentifier
      rw [if_pos hlt]
      simpa [Nat.not_le.2 hlt] using hword
    unfold isAttribute Text.isIdentifier
    rw [hchars]
    simp [hstart, hcontinues, hkeyword]

/-- Properties of which some key has to be quoted. -/
theorem exists_not_isAttribute {fields : List Field} (h : needsQuotes fields = .ok true) :
    ∃ field ∈ fields, ∃ name, field.name = .text name ∧ isAttribute name = false := by
  induction fields with
  | nil => cases h
  | cons field rest ih =>
    unfold needsQuotes at h
    split at h
    · next name hname =>
      split at h
      · obtain ⟨other, hother, hquoted⟩ := ih h
        exact ⟨other, List.mem_cons_of_mem _ hother, hquoted⟩
      · next hattribute => exact ⟨field, List.mem_cons_self, name, hname, by simpa using hattribute⟩
    · cases h

/-! ### Dictionaries -/

/-- A property of a typed dictionary as it is written. -/
structure EntryText where
  /-- The key. -/
  key : String
  /-- The type. -/
  type : String

/-- A typed dictionary as it is written. -/
structure DictionaryText where
  /-- Its name. -/
  name : String
  /-- What the schema says about it, as it stands in a comment or a docstring. -/
  description : String
  /-- The way it is written. -/
  form : Form
  /-- Its properties. -/
  entries : List EntryText

namespace DictionaryText

/-- The lines of a typed dictionary. -/
def lines (text : DictionaryText) : List String :=
  match text.form with
  | .attributes =>
    ["class " ++ text.name ++ "(TypedDict):"] ++
      linesIf text.description ["    \"\"\"" ++ text.description ++ "\"\"\"", ""] ++
      text.entries.map fun entry => "    " ++ entry.key ++ ": " ++ entry.type
  | .literals =>
    linesIf text.description ["# " ++ text.description] ++
      [text.name ++ " = TypedDict(", "    \"" ++ text.name ++ "\",", "    \x7b"] ++
      (text.entries.map fun entry => "        " ++ entry.key ++ ": " ++ entry.type ++ ",") ++
      ["    \x7d,", ")"]

/-- **What is kept of a property**: its type, and its name unless the dictionary is a class that does not
leave that alone. -/
structure Keeps (text : DictionaryText) (entry : EntryText) (field : Field) : Prop where
  key : ∃ name, field.name = .text name ∧
    (text.form.Denotes text.name entry.key name ↔ (text.form = .attributes → Kept text.name name))
  type : entry.type = fieldType field

end DictionaryText

/-- The entry of a property. -/
def entryText (form : Form) (field : Field) : EntryText where
  key := match form with
    | .attributes => field.name.display
    | .literals => field.name.toJson.literal
  type := fieldType field

/-- The dictionary of properties in one of the two forms. -/
def dictionaryText (declaration : Declaration) (fields : List Field) (form : Form) : DictionaryText where
  name := declaration.name
  description := docstring declaration.description
  form := form
  entries := fields.map (entryText form)

/-- The keys decide which form a dictionary has. -/
theorem dictionaryLines_eq {fields : List Field} {quotes : Bool} (declaration : Declaration)
    (hquotes : needsQuotes fields = .ok quotes) :
    dictionaryLines declaration.name (docstring declaration.description) fields = .ok
      (dictionaryText declaration fields (if quotes then .literals else .attributes)).lines := by
  unfold dictionaryLines
  rw [ok_bind hquotes]
  cases quotes with
  | true =>
    change Except.ok _ = Except.ok (_ ++ ((fields.map (entryText .literals)).map _) ++ _)
    rw [List.map_map]
    rfl
  | false =>
    change Except.ok _ = Except.ok (_ ++ (fields.map (entryText .attributes)).map _)
    rw [List.map_map]
    rfl

/-- **No key has to be quoted** just if every name is an identifier and no keyword. -/
theorem needsQuotes_eq_false_iff {fields : List Field} {quotes : Bool}
    (hnames : ∀ field ∈ fields, ∃ name, field.name = .text name ∧ IsAscii name)
    (hquotes : needsQuotes fields = .ok quotes) :
    quotes = false ↔
      ∀ field ∈ fields, ∃ name, field.name = .text name ∧ IsWord name ∧ name ∉ Keyword.python := by
  cases quotes with
  | true =>
    -- a key that has to be quoted is no identifier or a keyword
    refine ⟨nofun, fun hall => ?_⟩
    obtain ⟨field, hfield, name, hname, hquoted⟩ := exists_not_isAttribute hquotes
    obtain ⟨other, hother, hword⟩ := hall field hfield
    obtain ⟨another, hanother, hascii⟩ := hnames field hfield
    obtain rfl : other = name := PropertyName.text.inj (hother.symm.trans hname)
    obtain rfl : another = other := PropertyName.text.inj (hanother.symm.trans hother)
    rw [(isAttribute_iff hascii).2 hword] at hquoted
    cases hquoted
  | false =>
    refine ⟨fun _ field hfield => ?_, fun _ => rfl⟩
    obtain ⟨name, hname, hattribute⟩ := forall_isAttribute hquotes field hfield
    obtain ⟨other, hother, hascii⟩ := hnames field hfield
    obtain rfl : other = name := PropertyName.text.inj (hother.symm.trans hname)
    exact ⟨other, hother, (isAttribute_iff hascii).1 hattribute⟩

/-- The literal of a name is always read as that name. -/
theorem keeps_literals (declaration : Declaration) (fields : List Field) {field : Field} {name : String}
    (hname : field.name = .text name) :
    (dictionaryText declaration fields .literals).Keeps (entryText .literals field) field := by
  refine ⟨⟨name, hname, fun _ h => (by cases h), fun _ => ?_⟩, rfl⟩
  have hkey : (entryText .literals field).key = Text.literal name := by
    unfold entryText
    rw [hname]
    rfl
  rw [hkey]
  exact denotes_literal _ _

/-- A name that stands in a class is read as itself just if the class leaves it alone. -/
theorem keeps_attributes (declaration : Declaration) (fields : List Field) {field : Field} {name : String}
    (hname : field.name = .text name) (hword : IsWord name) (hascii : IsAscii name)
    (hkeyword : name ∉ Keyword.python) :
    (dictionaryText declaration fields .attributes).Keeps (entryText .attributes field) field := by
  refine ⟨⟨name, hname, ?_⟩, rfl⟩
  have hkey : (entryText .attributes field).key = name := by
    unfold entryText
    rw [hname]
    rfl
  change Form.attributes.Denotes declaration.name (entryText .attributes field).key name ↔ _
  rw [hkey, denotes_attribute_iff hword hascii hkeyword]
  exact ⟨fun hkept _ => hkept, fun hkept => hkept rfl⟩

/-- **The keys of a typed dictionary are the names of its properties.** An object type whose properties are
named by ASCII texts is declared as a typed dictionary with an entry for each property. It is a class if and
only if every name is an identifier and no keyword. The key of each property is exactly its name, if and only
if the dictionary is no class or the class leaves that name alone. -/
theorem block_dictionaryKeys {declaration : Declaration} {fields : List Field}
    (hshape : declaration.shape = .object fields)
    (hnames : ∀ field ∈ fields, ∃ name, field.name = .text name ∧ IsAscii name) :
    ∃ text : DictionaryText,
      block declaration = .ok (text.lines, usesOf declaration.shape) ∧
      text.name = declaration.name ∧ text.description = docstring declaration.description ∧
      (text.form = .attributes ↔
        ∀ field ∈ fields, ∃ name, field.name = .text name ∧ IsWord name ∧ name ∉ Keyword.python) ∧
      List.Forall₂ text.Keeps text.entries fields := by
  have htexts : ∀ field ∈ fields, ∃ name, field.name = .text name := fun field hfield =>
    (hnames field hfield).imp fun _ h => h.1
  obtain ⟨quotes, hquotes⟩ := exists_needsQuotes htexts
  have hwords := needsQuotes_eq_false_iff hnames hquotes
  have hblock : block declaration = .ok
      ((dictionaryText declaration fields (if quotes then .literals else .attributes)).lines,
        usesOf declaration.shape) := by
    unfold block
    rw [hshape]
    exact ok_bind (dictionaryLines_eq declaration hquotes)
  refine ⟨_, hblock, rfl, rfl, ?_, List.forall₂_map_left_iff.2 (List.forall₂_same.2 fun field hfield => ?_)⟩
  · rw [← hwords]
    cases quotes with
    | true => exact ⟨nofun, nofun⟩
    | false => exact ⟨fun _ => rfl, fun _ => rfl⟩
  · obtain ⟨name, hname, hascii⟩ := hnames field hfield
    cases quotes with
    | true => exact keeps_literals declaration fields hname
    | false =>
      obtain ⟨other, hother, hword, hkeyword⟩ := hwords.1 rfl field hfield
      obtain rfl : other = name := PropertyName.text.inj (hother.symm.trans hname)
      exact keeps_attributes declaration fields hname hword hascii hkeyword

/-- Properties named by a word, a private name, what that is mangled to in a class `T`, the same with
underscores behind, and the word that may not be bound. -/
def awkwardFields : List Field :=
  ["a", "__a", "_T__a", "__a__", "__debug__"].map fun name => ⟨.text name, .primitive .string, true, ""⟩

/-- A dictionary of these properties. -/
def awkward : Declaration := ⟨"T", "", .object awkwardFields⟩

theorem block_dictionaryKeys_awkward :
    (∀ field ∈ awkwardFields, ∃ name, field.name = .text name ∧ IsAscii name) ∧
    ∃ text : DictionaryText,
      block awkward = .ok (text.lines, usesOf awkward.shape) ∧
      text.name = "T" ∧ text.description = "" ∧
      (text.form = .attributes ↔ ∀ field ∈ awkwardFields,
        ∃ name, field.name = .text name ∧ IsWord name ∧ name ∉ Keyword.python) ∧
      List.Forall₂ text.Keeps text.entries awkwardFields := by
  have hall : ["a", "__a", "_T__a", "__a__", "__debug__"].all
      (fun name => name.toList.all (·.toNat < 0x80)) = true := by
    decide +kernel
  have hnames : ∀ field ∈ awkwardFields, ∃ name, field.name = .text name ∧ IsAscii name := by
    intro field hfield
    obtain ⟨name, hname, rfl⟩ := List.mem_map.1 hfield
    refine ⟨name, rfl, fun c hc => ?_⟩
    exact of_decide_eq_true (List.all_eq_true.1 (List.all_eq_true.1 hall name hname) c hc)
  have hshape : awkward.shape = .object awkwardFields := rfl
  exact ⟨hnames, block_dictionaryKeys hshape hnames⟩

/-- All of these names are identifiers, so they stand in a class; two of them are not left alone there, and
one of the two becomes the key of another property. A keyword among the names makes it a call. -/
example :
    ((block awkward).toOption.map Prod.fst = some ["class T(TypedDict):", "    a: str", "    __a: str",
      "    _T__a: str", "    __a__: str", "    __debug__: str"]) ∧
    ["a", "__a", "_T__a", "__a__", "__debug__"].map (fun name => attributeKey? "T" (name ++ ": str").toList) =
      [some ("a", ": str".toList), some ("_T__a", ": str".toList), some ("_T__a", ": str".toList),
        some ("__a__", ": str".toList), none] ∧
    ((block ⟨"T", "", .object (awkwardFields ++ [⟨.text "in", .any, true, ""⟩])⟩).toOption.map
      fun written => written.1.drop 4) = some ["        '__a': str,", "        '_T__a': str,",
      "        '__a__': str,", "        '__debug__': str,", "        'in': Any,", "    \x7d,", ")"] := by
  decide +kernel

end SchemaPress.Source.Python
