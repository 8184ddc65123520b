import SchemaPress.Proofs.Name.Characters
import SchemaPress.Proofs.Name.Fresh
import SchemaPress.Proofs.Text.RustLiteral
import SchemaPress.Source.Rust

/-!
# Fields of Rust structs

Every field of a struct has an identifier that is made of the words of a property name, and is
described to serde by the name itself wherever the two differ (`FieldText`). The identifiers are apart
because they are made from fresh names in snake case (`Name.IsSnake`), and what is done to such a name
afterwards can be told from all other ones: only a name that starts with a digit gets an underscore in
front, only a step of a path gets one behind, and the mark of a raw identifier does not belong to its
name (`identifierName_injective`).

So fields are declared once each, under legal identifiers, and each of them is read and written under
the name of its property (`block_fields`).
-/

namespace SchemaPress.Source.Rust

open Name

/-! ### Identifiers -/

/-- The characters that an identifier of a field may have: a small letter or an underscore first, then
small letters, digits and underscores. -/
def IsFieldName (name : String) : Prop :=
  ∃ c rest, name.toList = c :: rest ∧ (c.isLower = true ∨ c = '_') ∧ ∀ d ∈ rest, IsSnakeChar d

/-- **Legal identifiers of fields**: no keyword stands bare, and no step of a path is one even behind the
mark of a raw identifier. -/
inductive LegalIdentifier : String → Prop where
  | bare {name : String} (hshape : IsFieldName name) (hsome : name ≠ "_")
      (hword : name ∉ Keyword.rust) (hpath : name ∉ Keyword.rustPath) : LegalIdentifier name
  | raw {name : String} (hshape : IsFieldName name) (hsome : name ≠ "_")
      (hpath : name ∉ Keyword.rustPath) : LegalIdentifier ("r#" ++ name)

/-- **What becomes of a name in snake case**: one of the four ways to make it an identifier. -/
inductive Identifies (base : String) : String → String → Prop where
  | digit (hdigit : startsWithDigit base = true) : Identifies base ("_" ++ base) ("_" ++ base)
  | path (hpath : base ∈ Keyword.rustPath) : Identifies base (base ++ "_") (base ++ "_")
  | word (hdigit : startsWithDigit base = false) (hpath : base ∉ Keyword.rustPath)
      (hword : base ∈ Keyword.rust) : Identifies base ("r#" ++ base) base
  | plain (hdigit : startsWithDigit base = false) (hpath : base ∉ Keyword.rustPath)
      (hword : base ∉ Keyword.rust) : Identifies base base base

/-- No reserved word starts with an underscore. -/
theorem head_keyword : ∀ word ∈ Keyword.rust ++ Keyword.rustPath, word.toList.head? ≠ some '_' := by
  decide +kernel

/-- A step of a path with an underscore behind it is a word of its own. -/
theorem path_append_not_mem :
    ∀ word ∈ Keyword.rustPath, word ++ "_" ∉ Keyword.rust ∧ word ++ "_" ∉ Keyword.rustPath := by
  decide +kernel

theorem path_not_digit : ∀ word ∈ Keyword.rustPath, startsWithDigit word = false := by
  decide +kernel

/-- A name that starts with an underscore is no reserved word. -/
theorem not_mem_of_head {name : String} (h : name.toList.head? = some '_') :
    name ∉ Keyword.rust ∧ name ∉ Keyword.rustPath := by
  constructor
  · intro hmem
    exact head_keyword name (List.mem_append_left _ hmem) h
  · intro hmem
    exact head_keyword name (List.mem_append_right _ hmem) h

theorem head_append (base : String) : ("_" ++ base).toList.head? = some '_' := by
  rw [String.toList_append]
  rfl

/-- An identifier without the mark of raw ones is its own name. -/
theorem identifierName_of_not_mem {identifier : String} (h : '#' ∉ identifier.toList) :
    identifierName identifier = identifier := by
  unfold identifierName
  split
  · next rest heq =>
    rw [heq] at h
    exact absurd (List.mem_cons_of_mem _ List.mem_cons_self) h
  · rfl

theorem identifierName_raw (name : String) : identifierName ("r#" ++ name) = name := by
  unfold identifierName
  rw [String.toList_append]
  change String.ofList name.toList = name
  exact String.ofList_toList

section Base

variable {base : String} (h : IsSnake base.toList)

include h

theorem mark_not_mem : '#' ∉ base.toList := by
  intro hmem
  rcases h.chars '#' hmem with hlower | hdigit | heq
  · exact absurd hlower (by decide)
  · exact absurd hdigit (by decide)
  · exact absurd heq (by decide)

/-- **The identifier of a name in snake case**, with the name that it stands for. -/
theorem identifies_identifier : Identifies base (identifier base) (identifierName (identifier base)) := by
  have hmark := mark_not_mem h
  unfold identifier shieldDigit
  by_cases hdigit : startsWithDigit base = true
  · -- a name with an underscore in front is no reserved word
    obtain ⟨hword, hpath⟩ := not_mem_of_head (head_append base)
    have hname : '#' ∉ ("_" ++ base).toList := by
      rw [String.toList_append]
      simpa using hmark
    simp only [if_pos hdigit, List.contains_eq_mem, decide_eq_true_eq, if_neg hpath, if_neg hword]
    rw [identifierName_of_not_mem hname]
    exact .digit hdigit
  · have hdigit' : startsWithDigit base = false := by simpa using hdigit
    simp only [if_neg hdigit, List.contains_eq_mem, decide_eq_true_eq]
    by_cases hpath : base ∈ Keyword.rustPath
    · have hname : '#' ∉ (base ++ "_").toList := by
        rw [String.toList_append]
        simpa using hmark
      rw [if_pos hpath, identifierName_of_not_mem hname]
      exact .path hpath
    · rw [if_neg hpath]
      by_cases hword : base ∈ Keyword.rust
      · rw [if_pos hword, identifierName_raw]
        exact .word hdigit' hpath hword
      · rw [if_neg hword, identifierName_of_not_mem hmark]
        exact .plain hdigit' hpath hword

/-- A name in snake case without a digit in front can be the name of a field. -/
theorem isFieldName_base (hdigit : startsWithDigit base = false) : IsFieldName base := by
  obtain ⟨c, rest, hchars⟩ := List.exists_cons_of_ne_nil h.ne_nil
  refine ⟨c, rest, hchars, ?_, fun d hd => h.chars d (hchars ▸ List.mem_cons_of_mem _ hd)⟩
  rcases h.chars c (hchars ▸ List.mem_cons_self) with hlower | hc | heq
  · exact .inl hlower
  · rw [startsWithDigit_iff.2 ⟨c, rest, hchars, hc⟩] at hdigit
    cases hdigit
  · exact .inr heq

theorem base_ne_underscore : base ≠ "_" := by
  rintro rfl
  exact h.head rfl

/-- **Identifiers of fields are legal.** -/
theorem legal_identifier : LegalIdentifier (identifier base) := by
  obtain ⟨c, rest, hchars⟩ := List.exists_cons_of_ne_nil h.ne_nil
  have hlong (name : String) (hname : 1 < name.toList.length) : name ≠ "_" := by
    rintro rfl
    exact absurd hname (by decide)
  have hcases := identifies_identifier h
  generalize identifierName (identifier base) = name at hcases
  generalize identifier base = ident at hcases ⊢
  cases hcases with
  | digit hdigit =>
    obtain ⟨hword, hpath⟩ := not_mem_of_head (head_append base)
    refine .bare ⟨'_', base.toList, ?_, .inr rfl, h.chars⟩ (hlong _ ?_) hword hpath
    · rw [String.toList_append]
      rfl
    · rw [String.toList_append, hchars]
      simp
  | path hpath =>
    obtain ⟨hword, hstep⟩ := path_append_not_mem base hpath
    obtain ⟨d, others, hd, hfirst, hothers⟩ := isFieldName_base h (path_not_digit base hpath)
    refine .bare ⟨d, others ++ ['_'], ?_, hfirst, fun e he => ?_⟩ (hlong _ ?_) hword hstep
    · rw [String.toList_append, hd]
      rfl
    · rcases List.mem_append.1 he with he | he
      · exact hothers e he
      · exact .inr (.inr (List.mem_singleton.1 he))
    · rw [String.toList_append, hchars]
      simp
  | word hdigit hpath hword =>
    exact .raw (isFieldName_base h hdigit) (base_ne_underscore h) hpath
  | plain hdigit hpath hword =>
    exact .bare (isFieldName_base h hdigit) (base_ne_underscore h) hword hpath

end Base

/-! An underscore in front or behind is in no name in snake case. -/

theorem front_ne {base : String} (h : IsSnake base.toList) (other : String) : "_" ++ other ≠ base := by
  intro heq
  refine h.head ?_
  rw [← heq]
  exact head_append other

theorem behind_ne {base : String} (h : IsSnake base.toList) (other : String) : other ++ "_" ≠ base := by
  intro heq
  refine h.last ?_
  rw [← heq, String.toList_append, List.getLast?_append_of_ne_nil _ (by decide)]
  rfl

theorem front_ne_behind {base : String} (h : IsSnake base.toList) (other : String) :
    "_" ++ other ≠ base ++ "_" := by
  intro heq
  refine h.head ?_
  have hhead := head_append other
  rwa [heq, String.toList_append, List.head?_append_of_ne_nil _ h.ne_nil] at hhead

/-- **Names in snake case are told apart by their identifiers**, whether or not these are raw. -/
theorem identifierName_injective {base other : String} (h : IsSnake base.toList)
    (h' : IsSnake other.toList)
    (heq : identifierName (identifier base) = identifierName (identifier other)) : base = other := by
  have hcases := identifies_identifier h
  have hcases' := identifies_identifier h'
  rw [← heq] at hcases'
  generalize identifierName (identifier base) = name at hcases hcases'
  generalize identifier base = ident at hcases
  generalize identifier other = ident' at hcases'
  cases hcases with
  | digit =>
    generalize hname : "_" ++ base = name at hcases'
    cases hcases' with
    | digit => exact String.append_right_inj "_" |>.1 hname
    | path => exact absurd hname (front_ne_behind h' base)
    | word => exact absurd hname (front_ne h' base)
    | plain => exact absurd hname (front_ne h' base)
  | path =>
    generalize hname : base ++ "_" = name at hcases'
    cases hcases' with
    | digit => exact absurd hname.symm (front_ne_behind h other)
    | path => exact String.append_left_inj "_" |>.1 hname
    | word => exact absurd hname (behind_ne h' base)
    | plain => exact absurd hname (behind_ne h' base)
  | word =>
    generalize hname : base = name at hcases'
    cases hcases' with
    | digit => exact absurd hname.symm (front_ne h other)
    | path => exact absurd hname.symm (behind_ne h other)
    | word => rfl
    | plain => rfl
  | plain =>
    generalize hname : base = name at hcases'
    cases hcases' with
    | digit => exact absurd hname.symm (front_ne h other)
    | path => exact absurd hname.symm (behind_ne h other)
    | word => rfl
    | plain => rfl

/-! ### Fields -/

/-- A field of a struct as it is written. -/
structure FieldText where
  /-- The identifier. -/
  identifier : String
  /-- The literal of the name that serde is told, if it is told one. -/
  rename : Option String
  /-- The type. -/
  type : String
  /-- Whether the field may be left out. -/
  optional : Bool
  /-- What the schema says about it. -/
  description : String

namespace FieldText

/-- What serde is told about a field. -/
def attributes (text : FieldText) : String :=
  ", ".intercalate
    ((text.rename.map ("rename = " ++ ·)).toList ++
      if text.optional then ["skip_serializing_if = \"Option::is_none\""] else [])

/-- The lines of a field. -/
def lines (text : FieldText) : List String :=
  linesIf text.description ["    /// " ++ text.description] ++
    linesIf text.attributes ["    #[serde(" ++ text.attributes ++ ")]"] ++
    ["    pub " ++ text.identifier ++ ": " ++ text.type ++ ","]

/-- **The JSON name of a field**: what the literal denotes that serde is told, and the name of the
identifier if it is told none. -/
def jsonName? (text : FieldText) : Option String :=
  match text.rename with
  | some literal => Text.rustUnquote? literal.toList
  | none => some (identifierName text.identifier)

/-- **What a field has to keep of a property**: serde knows it by exactly the name of the property, it is
of the type of the property, an option of it unless the property is required, and it says the same. -/
structure Keeps (text : FieldText) (field : Field) : Prop where
  name : text.jsonName?.map PropertyName.text = some field.name
  type : text.type = if field.required then typeText field.type else "Option<" ++ typeText field.type ++ ">"
  optional : text.optional = !field.required
  description : text.description = field.description

end FieldText

/-- The field for a property, under the identifier of a name in snake case. -/
def fieldText (base name : String) (field : Field) : FieldText where
  identifier := identifier base
  rename := if identifierName (identifier base) = name then none else some (Text.rustQuote name)
  type := if field.required then typeText field.type else "Option<" ++ typeText field.type ++ ">"
  optional := !field.required
  description := field.description

/-- **A field is known by the name of its property**, whatever its identifier is. -/
theorem jsonName?_fieldText (base name : String) (field : Field) :
    (fieldText base name field).jsonName? = some name := by
  unfold FieldText.jsonName? fieldText
  -- serde is told nothing just where the identifier stands for the name
  by_cases heq : identifierName (identifier base) = name
  · rw [if_pos heq]
    exact congrArg some heq
  · rw [if_neg heq]
    exact Text.rustUnquote?_rustQuote name

/-- The lines of the first field, and of those behind it. -/
theorem fieldLines_cons {field : Field} {rest : List Field} {name : String} {taken lines : List String}
    (hname : field.name = .text name)
    (hrest : fieldLines (fresh taken (orElse (Text.snakeCase name) "field") :: taken) rest = .ok lines) :
    fieldLines taken (field :: rest) =
      .ok ((fieldText (fresh taken (orElse (Text.snakeCase name) "field")) name field).lines ++ lines) := by
  have hwords : wordsSource field.name = .ok name := by
    rw [hname]
    rfl
  have htext : textName field.name = .ok name := by
    rw [hname]
    rfl
  generalize hbase : fresh taken (orElse (Text.snakeCase name) "field") = base at hrest
  unfold fieldLines
  rw [hwords, htext]
  change (fieldLines (fresh taken (orElse (Text.snakeCase name) "field") :: taken) rest >>= _) = _
  rw [hbase, hrest]
  unfold FieldText.lines FieldText.attributes fieldText
  -- the two conditions decide which attributes there are
  by_cases heq : identifierName (identifier base) = name
  · cases field.required <;> simp [heq]
  · cases field.required <;> simp [heq]

/-- What a property name gives is a name in snake case. -/
theorem isSnake_fresh (taken : List String) (name : String) :
    IsSnake (fresh taken (orElse (Text.snakeCase name) "field")).toList := by
  refine IsSnake.fresh ?_ taken
  unfold orElse
  split
  · have hfield : "field".toList = ['f', 'i', 'e', 'l', 'd'] := rfl
    rw [hfield]
    refine isSnake_of_solid (List.cons_ne_nil _ _) fun c hc => .inl ?_
    fin_cases hc <;> rfl
  · next hsome => exact isSnake_snakeCase (by simpa using hsome)

/-- **The fields of a struct**, by the properties from the first one on: each gets a fresh name. -/
theorem exists_fieldTexts {fields : List Field}
    (h : ∀ field ∈ fields, ∃ name, field.name = .text name) (taken : List String) :
    ∃ (texts : List FieldText) (bases : List String),
      fieldLines taken fields = .ok (texts.flatMap FieldText.lines) ∧
      List.Forall₂ (fun field text => ∃ base name, field.name = .text name ∧
        text = fieldText base name field) fields texts ∧
      texts.map FieldText.identifier = bases.map identifier ∧
      bases.Nodup ∧ ∀ base ∈ bases, base ∉ taken ∧ IsSnake base.toList := by
  induction fields generalizing taken with
  | nil => exact ⟨[], [], rfl, .nil, rfl, .nil, nofun⟩
  | cons field rest ih =>
    obtain ⟨name, hname⟩ := h field List.mem_cons_self
    generalize hbase : fresh taken (orElse (Text.snakeCase name) "field") = base
    obtain ⟨texts, bases, hlines, hfields, hidentifiers, hnodup, hbases⟩ :=
      ih (fun other hother => h other (List.mem_cons_of_mem _ hother)) (base :: taken)
    have hfree : base ∉ taken := hbase ▸ fresh_not_mem _ _
    have hsnake : IsSnake base.toList := hbase ▸ isSnake_fresh taken name
    refine ⟨fieldText base name field :: texts, base :: bases, ?_,
      .cons ⟨base, name, hname, rfl⟩ hfields, ?_, ?_, ?_⟩
    · rw [fieldLines_cons hname (hbase ▸ hlines), hbase, List.flatMap_cons]
    · rw [List.map_cons, List.map_cons, hidentifiers]
      rfl
    · refine List.nodup_cons.2 ⟨fun hmem => ?_, hnodup⟩
      exact (hbases base hmem).1 List.mem_cons_self
    · intro other hother
      rcases List.mem_cons.1 hother with rfl | hother
      · exact ⟨hfree, hsnake⟩
      · obtain ⟨hnew, hother⟩ := hbases other hother
        exact ⟨fun hmem => hnew (List.mem_cons_of_mem _ hmem), hother⟩

/-- **Struct fields are distinct and keep their names.** An object type whose properties are named by
texts, whatever these are, is declared as a struct with a field for each property. The fields have legal
identifiers, no two of which stand for the same name, and serde knows each of them by exactly the name of
its property. -/
theorem block_fields {declaration : Declaration} {fields : List Field}
    (hshape : declaration.shape = .object fields)
    (hnames : ∀ field ∈ fields, ∃ name, field.name = .text name) :
    ∃ texts : List FieldText,
      block declaration = .ok (linesIf declaration.description ["/// " ++ declaration.description] ++
        ["#[derive(Serialize, Deserialize, Clone, Debug, PartialEq)]",
          "pub struct " ++ declaration.name ++ " \x7b"] ++
        texts.flatMap FieldText.lines ++ ["\x7d"]) ∧
      (texts.map fun text => identifierName text.identifier).Nodup ∧
      (∀ text ∈ texts, LegalIdentifier text.identifier) ∧
      List.Forall₂ FieldText.Keeps texts fields := by
  obtain ⟨texts, bases, hlines, hfields, hidentifiers, hnodup, hbases⟩ := exists_fieldTexts hnames []
  refine ⟨texts, ?_, ?_, ?_, ?_⟩
  · unfold block
    rw [hshape]
    change (fieldLines [] fields >>= _) = _
    rw [hlines]
    rfl
  · have hmap : (texts.map fun text => identifierName text.identifier) =
        bases.map fun base => identifierName (identifier base) := by
      calc (texts.map fun text => identifierName text.identifier)
          = (texts.map FieldText.identifier).map identifierName := by rw [List.map_map]; rfl
        _ = bases.map fun base => identifierName (identifier base) := by
          rw [hidentifiers, List.map_map]
          rfl
    rw [hmap]
    exact List.Nodup.map_on (fun base hbase other hother heq =>
      identifierName_injective (hbases base hbase).2 (hbases other hother).2 heq) hnodup
  · intro text htext
    have hmem : text.identifier ∈ bases.map identifier :=
      hidentifiers ▸ List.mem_map_of_mem htext
    obtain ⟨base, hbase, heq⟩ := List.mem_map.1 hmem
    exact heq ▸ legal_identifier (hbases base hbase).2
  · refine hfields.flip.imp fun text field hfield => ?_
    obtain ⟨base, name, hname, rfl⟩ := hfield
    refine ⟨?_, rfl, rfl, rfl⟩
    rw [jsonName?_fieldText, hname]
    rfl

/-- Properties named by a path keyword, the same with an underscore, a keyword, a number, and a text with a
quote and a control character. -/
def awkwardFields : List Field :=
  ["self", "self_", "type", "1", "a\"\u0001"].map fun name => ⟨.text name, .primitive .string, true, ""⟩

/-- A struct of these properties. -/
def awkward : Declaration := ⟨"Awkward", "", .object awkwardFields⟩

theorem block_fields_awkward :
    (∀ field ∈ awkwardFields, ∃ name, field.name = .text name) ∧
    ∃ texts : List FieldText,
      block awkward = .ok (["#[derive(Serialize, Deserialize, Clone, Debug, PartialEq)]",
        "pub struct Awkward \x7b"] ++ texts.flatMap FieldText.lines ++ ["\x7d"]) ∧
      (texts.map fun text => identifierName text.identifier).Nodup ∧
      (∀ text ∈ texts, LegalIdentifier text.identifier) ∧
      List.Forall₂ FieldText.Keeps texts awkwardFields := by
  have hnames : ∀ field ∈ awkwardFields, ∃ name, field.name = .text name := by
    intro field hfield
    obtain ⟨name, -, rfl⟩ := List.mem_map.1 hfield
    exact ⟨name, rfl⟩
  have hshape : awkward.shape = .object awkwardFields := rfl
  exact ⟨hnames, block_fields hshape hnames⟩

/-- The fields of the struct. -/
example : (fieldLines [] awkwardFields).toOption =
    some ["    #[serde(rename = \"self\")]", "    pub self_: String,",
      "    #[serde(rename = \"self_\")]", "    pub self2: String,",
      "    pub r#type: String,", "    #[serde(rename = \"1\")]", "    pub _1: String,",
      "    #[serde(rename = \"a\\\"\\u\x7b1\x7d\")]", "    pub a: String,"] := by
  decide +kernel

end SchemaPress.Source.Rust
