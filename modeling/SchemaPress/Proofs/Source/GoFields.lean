import SchemaPress.Proofs.Json.Reading
import SchemaPress.Proofs.Name.Characters
import SchemaPress.Proofs.Name.Fresh
import SchemaPress.Proofs.Text.GoLiteral
import SchemaPress.Source.Go

/-!
# Literals and tags of Go sources

A Go source consists of declarations, and these of fields with tags and of constants with values
(`DeclarationText`). Everything that is rendered is such a source, written part by part for the
declarations of the catalog (`texts_of_render`).

A reader of the source meets two kinds of literals. A constant has the JSON of a text, and a tag is a
literal around another one, the value of its only key. Both come back as they were meant, whatever is in
a name or a value (`render_literals`).

The value of a tag has a language of its own, though: a comma ends the key, and a single hyphen stands
for no key at all. Nothing is done about names that say something there, so a field is bound to its
property if and only if the name is neither empty nor has a comma, and is not a required hyphen
(`render_keys`).
-/

namespace SchemaPress.Source.Go

open Json (bind_eq_ok eq_ok_of_toOption)
open Name

/-! ### Texts of declarations -/

/-- A field of a struct as it is written. -/
structure FieldText where
  /-- The identifier. -/
  identifier : String
  /-- The type. -/
  type : String
  /-- The literal of the tag. -/
  tag : String
  /-- What the schema says about it. -/
  description : String

/-- The lines of a field. -/
def FieldText.lines (text : FieldText) : List String :=
  linesIf text.description ["\t// " ++ text.description] ++
    ["\t" ++ text.identifier ++ " " ++ text.type ++ " " ++ text.tag]

/-- A constant as it is written. -/
structure ConstantText where
  /-- The identifier. -/
  identifier : String
  /-- The type. -/
  type : String
  /-- The literal of the value. -/
  literal : String

/-- The line of a constant. -/
def ConstantText.line (text : ConstantText) : String :=
  "\t" ++ text.identifier ++ " " ++ text.type ++ " = " ++ text.literal

/-- What a type is declared as. -/
inductive BodyText where
  /-- A struct of fields. -/
  | struct (fields : List FieldText)
  /-- A type with constants. -/
  | constants (type : String) (constants : List ConstantText)
  /-- Another type. -/
  | type (type : String)

/-- A declaration as it is written. -/
structure DeclarationText where
  /-- The name. -/
  name : String
  /-- What the schema says about it. -/
  description : String
  /-- What it is declared as. -/
  body : BodyText

namespace DeclarationText

/-- The constants of a declaration. -/
def constants (text : DeclarationText) : List ConstantText :=
  match text.body with
  | .constants _ constants => constants
  | _ => []

/-- The lines that declare the type of a declaration as `type`. -/
def defined (text : DeclarationText) (type : String) : List String :=
  linesIf text.description ["// " ++ text.name ++ " " ++ text.description] ++
    ["type " ++ text.name ++ " " ++ type]

/-- The lines of a declaration. -/
def lines (text : DeclarationText) : List String :=
  match text.body with
  | .struct fields => text.defined "struct \x7b" ++ fields.flatMap FieldText.lines ++ ["\x7d"]
  | .constants type constants =>
    text.defined type ++ ["", "const ("] ++ constants.map ConstantText.line ++ [")"]
  | .type type => text.defined type

/-- **A declaration as it is written part by part**, where its fields are related to the properties and
its constants to the values. -/
inductive Parts (field : FieldText → Field → Prop) (constant : ConstantText → Json → Prop) :
    DeclarationText → Declaration → Prop where
  | object {name description : String} {texts : List FieldText} {fields : List Field}
      (hfields : List.Forall₂ field texts fields) :
      Parts field constant ⟨name, description, .struct texts⟩ ⟨name, description, .object fields⟩
  | enum {name description type : String} {texts : List ConstantText} {values : List Json}
      (htype : underlying values = some type) (hvalues : List.Forall₂ constant texts values) :
      Parts field constant ⟨name, description, .constants type texts⟩
        ⟨name, description, .enum values⟩
  | mixed {name description : String} {values : List Json} (htype : underlying values = none) :
      Parts field constant ⟨name, description, .type "interface\x7b\x7d"⟩
        ⟨name, description, .enum values⟩
  | union {name description : String} {variants : List TypeRef} :
      Parts field constant ⟨name, description, .type "interface\x7b\x7d"⟩
        ⟨name, description, .union variants⟩
  | other {name description : String} {type : TypeRef} :
      Parts field constant ⟨name, description, .type (typeText type)⟩ ⟨name, description, .alias type⟩

namespace Parts

variable {field field' : FieldText → Field → Prop} {constant constant' : ConstantText → Json → Prop}
  {text : DeclarationText} {declaration : Declaration}

theorem imp (h : Parts field constant text declaration)
    (hfield : ∀ text part, field text part → field' text part)
    (hconstant : ∀ text value, constant text value → constant' text value) :
    Parts field' constant' text declaration := by
  cases h with
  | object hfields => exact .object (hfields.imp hfield)
  | enum htype hvalues => exact .enum htype (hvalues.imp hconstant)
  | mixed htype => exact .mixed htype
  | union => exact .union
  | other => exact .other

theorem name_eq (h : Parts field constant text declaration) : text.name = declaration.name := by
  cases h <;> rfl

end Parts

end DeclarationText

/-! ### What is rendered -/

/-- The value of the tag of a property. -/
def tagName (field : Field) : String :=
  field.name.display ++ if field.required then "" else ",omitempty"

/-- **How a property is written**: under an identifier of letters and digits, and with a tag. -/
structure FieldText.Writes (text : FieldText) (field : Field) : Prop where
  identifier : Text.Capitalized text.identifier.toList
  type : text.type = fieldType field.type field.required
  tag : text.tag = Text.goTag ("json:" ++ Text.goQuote (tagName field))
  description : text.description = field.description

/-- **How a value is written**: with its JSON, under an identifier that starts with the name of the type. -/
structure ConstantText.Writes (typeName : String) (text : ConstantText) (value : Json) : Prop where
  identifier : ∃ tail : List Char, IsPlain tail ∧ text.identifier.toList = typeName.toList ++ tail
  type : text.type = typeName
  literal : text.literal = value.render .line

theorem capitalized_fresh {base : String} (h : Text.Capitalized base.toList) (taken : List String) :
    Text.Capitalized (fresh taken base).toList := by
  rcases fresh_cases taken base with heq | ⟨n, heq⟩
  · rw [heq]
    exact h
  · rw [heq, String.toList_append]
    exact h.append fun _ hc => isAlphanum_of_mem_toString hc

/-- The identifier of a field consists of letters and digits. -/
theorem capitalized_fieldName (source : String) (taken : List String) :
    Text.Capitalized (fieldName source taken).toList := by
  have hfield : Text.Capitalized "Field".toList :=
    ⟨'F', ['i', 'e', 'l', 'd'], rfl, .inl rfl, fun d hd => List.all_eq_true.1 rfl d hd⟩
  have hbase : Text.Capitalized (orElse (Text.pascalCase source) "Field").toList := by
    unfold orElse
    split
    · exact hfield
    · next hsome => exact Text.capitalized_pascalCase (by simpa using hsome)
  refine capitalized_fresh ?_ taken
  unfold shieldDigit
  split
  · rw [String.toList_append]
    exact hfield.append fun c hc => hbase.isAlphanum hc
  · exact hbase

theorem tagText_eq_ok {field : Field} {tag : String} (h : tagText field.name field.required = .ok tag) :
    tag = tagName field := by
  unfold tagText at h
  unfold tagName
  cases hrequired : field.required with
  | true =>
    rw [hrequired, if_pos rfl] at h
    rw [if_pos rfl, String.append_empty]
    cases hname : field.name with
    | text name =>
      rw [hname] at h
      exact (Except.ok.inj h).symm
    | scalar value =>
      rw [hname] at h
      cases h
  | false =>
    rw [hrequired] at h
    exact (Except.ok.inj h).symm

/-- **The fields of a struct**, one for each property. -/
theorem texts_of_fieldLines {fields : List Field} {taken lines : List String}
    (h : fieldLines taken fields = .ok lines) :
    ∃ texts : List FieldText, lines = texts.flatMap FieldText.lines ∧
      List.Forall₂ FieldText.Writes texts fields := by
  induction fields generalizing taken lines with
  | nil =>
    obtain rfl := Except.ok.inj h
    exact ⟨[], rfl, .nil⟩
  | cons field rest ih =>
    unfold fieldLines at h
    obtain ⟨source, -, h⟩ := bind_eq_ok h
    obtain ⟨tag, htag, h⟩ := bind_eq_ok h
    obtain ⟨others, hothers, h⟩ := bind_eq_ok h
    obtain rfl := tagText_eq_ok htag
    have hname := capitalized_fieldName source taken
    generalize fieldName source taken = name at hname hothers h
    obtain ⟨texts, rfl, hwrites⟩ := ih hothers
    generalize htag : Text.goTag ("json:" ++ Text.goQuote (tagName field)) = tag at h
    refine ⟨⟨name, fieldType field.type field.required, tag, field.description⟩ :: texts, ?_,
      .cons ⟨hname, rfl, htag.symm, rfl⟩ hwrites⟩
    rw [List.flatMap_cons]
    exact (Except.ok.inj h).symm

/-- The identifier of a constant. -/
theorem constantName_eq (typeName : String) (index : Nat) (value : Json) (taken : List String) :
    ∃ tail : List Char, IsPlain tail ∧
      (constantName typeName index value taken).toList = typeName.toList ++ tail := by
  have hvalue : IsPlain (orElse (Text.pascalCase value.display) ("Value" ++ toString index)).toList := by
    unfold orElse
    split
    · rw [String.toList_append]
      exact .append (by simp [IsPlain]) (isPlain_toString index)
    · exact isPlain_pascalCase _
  have hshield : IsPlain
      (shieldDigit "N" (orElse (Text.pascalCase value.display) ("Value" ++ toString index))).toList := by
    unfold shieldDigit
    split
    · rw [String.toList_append]
      exact .append (by simp [IsPlain]) hvalue
    · exact hvalue
  unfold constantName
  generalize shieldDigit "N" _ = tail at hshield
  rcases fresh_cases taken (typeName ++ tail) with heq | ⟨n, heq⟩
  · rw [heq, String.toList_append]
    exact ⟨_, hshield, rfl⟩
  · -- the counter goes to the tail
    rw [heq, String.toList_append, String.toList_append, List.append_assoc]
    exact ⟨_, hshield.append (isPlain_toString n), rfl⟩

/-- **The constants of an enum**, one for each value: they are new and no two of them are the same. -/
theorem texts_of_constantLines (typeName : String) (index : Nat) (taken : List String)
    (values : List Json) :
    ∃ texts : List ConstantText,
      constantLines typeName index taken values =
        (texts.map ConstantText.line, (texts.map ConstantText.identifier).reverse ++ taken) ∧
      List.Forall₂ (ConstantText.Writes typeName) texts values ∧
      (texts.map ConstantText.identifier).Nodup ∧
      ∀ text ∈ texts, text.identifier ∉ taken := by
  induction values generalizing index taken with
  | nil => exact ⟨[], rfl, .nil, List.nodup_nil, nofun⟩
  | cons value rest ih =>
    have hname := constantName_eq typeName index value taken
    have hfree : constantName typeName index value taken ∉ taken := fresh_not_mem _ _
    rw [constantLines]
    generalize constantName typeName index value taken = name at hname hfree
    obtain ⟨texts, hlines, hwrites, hnodup, hnew⟩ := ih (index + 1) (name :: taken)
    refine ⟨⟨name, typeName, value.render .line⟩ :: texts, ?_, .cons ⟨hname, rfl, rfl⟩ hwrites,
      ?_, ?_⟩
    · simp only [hlines, List.map_cons, List.reverse_cons, List.append_assoc, List.singleton_append,
        ConstantText.line]
    · refine List.nodup_cons.2 ⟨fun hmem => ?_, hnodup⟩
      obtain ⟨text, htext, heq⟩ := List.mem_map.1 hmem
      exact hnew text htext (heq ▸ List.mem_cons_self)
    · refine List.forall_mem_cons.2 ⟨hfree, fun text htext hmem => ?_⟩
      exact hnew text htext (List.mem_cons_of_mem _ hmem)

/-- **How a declaration is written**: property by property and value by value. -/
def DeclarationText.Writes (text : DeclarationText) (declaration : Declaration) : Prop :=
  text.Parts FieldText.Writes (ConstantText.Writes declaration.name) declaration

/-- **The text of a declaration.** Its constants are new, and they are in use afterwards. -/
theorem text_of_block {declaration : Declaration} {taken lines taken' : List String}
    (h : block taken declaration = .ok (lines, taken')) :
    ∃ text : DeclarationText, lines = text.lines ∧ text.Writes declaration ∧
      taken' = (text.constants.map ConstantText.identifier).reverse ++ taken ∧
      (text.constants.map ConstantText.identifier).Nodup ∧
      ∀ constant ∈ text.constants, constant.identifier ∉ taken := by
  obtain ⟨name, description, shape⟩ := declaration
  unfold block at h
  cases shape with
  | object fields =>
    obtain ⟨lines, hlines, h⟩ := bind_eq_ok h
    obtain ⟨texts, rfl, hwrites⟩ := texts_of_fieldLines hlines
    obtain ⟨rfl, rfl⟩ := Prod.mk.inj (Except.ok.inj h)
    exact ⟨⟨name, description, .struct texts⟩, rfl, .object hwrites, rfl, List.nodup_nil, nofun⟩
  | enum values =>
    cases htype : underlying values with
    | some type =>
      obtain ⟨texts, hlines, hwrites, hnodup, hnew⟩ := texts_of_constantLines name 0 taken values
      simp only [htype, hlines] at h
      obtain ⟨rfl, rfl⟩ := Prod.mk.inj (Except.ok.inj h)
      exact ⟨⟨name, description, .constants type texts⟩, rfl, .enum htype hwrites, rfl, hnodup, hnew⟩
    | none =>
      simp only [htype] at h
      obtain ⟨rfl, rfl⟩ := Prod.mk.inj (Except.ok.inj h)
      exact ⟨⟨name, description, .type "interface\x7b\x7d"⟩, rfl, .mixed htype, rfl, List.nodup_nil,
        nofun⟩
  | union variants =>
    obtain ⟨rfl, rfl⟩ := Prod.mk.inj (Except.ok.inj h)
    exact ⟨⟨name, description, .type "interface\x7b\x7d"⟩, rfl, .union, rfl, List.nodup_nil, nofun⟩
  | «alias» type =>
    obtain ⟨rfl, rfl⟩ := Prod.mk.inj (Except.ok.inj h)
    exact ⟨⟨name, description, .type (typeText type)⟩, rfl, .other, rfl, List.nodup_nil, nofun⟩

theorem texts_of_blocks {catalog : Catalog} {taken : List String} {written : List (List String)}
    (h : blocks taken catalog = .ok written) :
    ∃ texts : List DeclarationText, written = texts.map DeclarationText.lines ∧
      List.Forall₂ DeclarationText.Writes texts catalog ∧
      ((texts.flatMap DeclarationText.constants).map ConstantText.identifier).Nodup ∧
      ∀ constant ∈ texts.flatMap DeclarationText.constants, constant.identifier ∉ taken := by
  induction catalog generalizing taken written with
  | nil =>
    obtain rfl := Except.ok.inj h
    exact ⟨[], rfl, .nil, List.nodup_nil, nofun⟩
  | cons declaration rest ih =>
    unfold blocks at h
    obtain ⟨⟨lines, taken'⟩, hblock, h⟩ := bind_eq_ok h
    obtain ⟨others, hothers, h⟩ := bind_eq_ok h
    obtain rfl := Except.ok.inj h
    obtain ⟨text, rfl, hwrites, rfl, hnodup, hnew⟩ := text_of_block hblock
    obtain ⟨texts, rfl, hall, hdistinct, hfree⟩ := ih hothers
    refine ⟨text :: texts, rfl, .cons hwrites hall, ?_, ?_⟩
    · rw [List.flatMap_cons, List.map_append]
      refine List.nodup_append'.2 ⟨hnodup, hdistinct, fun name hname hother => ?_⟩
      -- the constants of the first declaration are in use when the others are written
      obtain ⟨constant, hconstant, rfl⟩ := List.mem_map.1 hother
      exact hfree constant hconstant (List.mem_append_left _ (List.mem_reverse.2 hname))
    · intro constant hconstant
      rw [List.flatMap_cons] at hconstant
      rcases List.mem_append.1 hconstant with hmem | hmem
      · exact hnew constant hmem
      · exact fun htaken => hfree constant hmem (List.mem_append_right _ htaken)

/-- **A rendered source consists of a text for each declaration**, and no constant is in two places. -/
theorem texts_of_render {catalog : Catalog} {source : String} (h : render catalog = .ok source) :
    ∃ texts : List DeclarationText, source = assemble (texts.map DeclarationText.lines) ∧
      List.Forall₂ DeclarationText.Writes texts catalog ∧
      ((texts.flatMap DeclarationText.constants).map ConstantText.identifier).Nodup := by
  obtain ⟨written, hblocks, h⟩ := bind_eq_ok h
  obtain ⟨texts, rfl, hwrites, hnodup, -⟩ := texts_of_blocks hblocks
  exact ⟨texts, (Except.ok.inj h).symm, hwrites, hnodup⟩

/-! ### Literals -/

/-- **What the literals of a field denote**: the tag is a literal of the key `json` and of one more literal,
and this one of the name of the property, with what a property that is not required has behind it. -/
structure FieldText.Denotes (text : FieldText) (field : Field) : Prop where
  tag : Text.goLiteral? text.tag.toList = some ("json:" ++ Text.goQuote (tagName field)).toUTF8
  value : Text.goUnquote? (Text.goQuote (tagName field)).toList = some (tagName field).toUTF8

/-- **What the literal of a constant denotes**, if the value is a text: that text. -/
def ConstantText.Denotes (text : ConstantText) (value : Json) : Prop :=
  ∀ content, value = .str content → Text.goUnquote? text.literal.toList = some content.toUTF8

/-- Line breaks of any kind are escaped in a literal. -/
theorem not_mem_goQuote {c : Char} (hc : c = '\n' ∨ c = '\r') (text : String) :
    c ∉ (Text.goQuote text).toList := by
  unfold Text.goQuote
  rw [String.toList_ofList]
  simp only [List.cons_append, List.mem_cons, List.mem_append, List.mem_flatMap, List.not_mem_nil,
    or_false, not_or, not_exists, not_and]
  refine ⟨by rcases hc with rfl | rfl <;> decide, fun d _ => ?_, by rcases hc with rfl | rfl <;> decide⟩
  unfold Text.goEscape
  split
  all_goals try rcases hc with rfl | rfl <;> decide
  next hline hreturn _ =>
    intro hmem
    obtain rfl := List.mem_singleton.1 hmem
    exact hc.elim hline hreturn

theorem FieldText.Writes.denotes {text : FieldText} {field : Field} (h : text.Writes field) :
    text.Denotes field := by
  refine ⟨?_, Text.goUnquote?_goQuote _⟩
  -- so nothing is dropped if the tag is a raw literal
  have hreturn : '\r' ∉ ("json:" ++ Text.goQuote (tagName field)).toList := by
    rw [String.toList_append, List.mem_append, not_or]
    exact ⟨by decide, not_mem_goQuote (.inr rfl) _⟩
  rw [h.tag]
  exact Text.goLiteral?_goTag hreturn

theorem ConstantText.Writes.denotes {typeName : String} {text : ConstantText} {value : Json}
    (h : text.Writes typeName value) : text.Denotes value := by
  rintro content rfl
  rw [h.literal, Json.render, String.toList_ofList, Json.write]
  exact Text.goUnquote?_quote content

/-- **Literals come back as they were meant.** A rendered source consists of declarations in which the
literal of each constant denotes the text that is the value, and the literal of each tag the key and the
literal of exactly the name of the property, whatever characters there are. -/
theorem render_literals {catalog : Catalog} {source : String} (h : render catalog = .ok source) :
    ∃ texts : List DeclarationText, source = assemble (texts.map DeclarationText.lines) ∧
      List.Forall₂ (DeclarationText.Parts FieldText.Denotes ConstantText.Denotes) texts catalog := by
  obtain ⟨texts, hsource, hwrites, -⟩ := texts_of_render h
  exact ⟨texts, hsource, hwrites.imp fun _ _ hdeclaration =>
    hdeclaration.imp (fun _ _ hfield => hfield.denotes) fun _ _ hconstant => hconstant.denotes⟩

/-- Properties with marks and control characters in their names, and an enum of such texts. -/
def marked : Catalog :=
  [⟨"M", "", .object [⟨.text "a\x60\"", .primitive .string, true, ""⟩,
      ⟨.text "\\\r\n", .primitive .string, false, ""⟩]⟩,
    ⟨"E", "", .enum [.str "\"\x60\\", .str "\r\u0001é"]⟩]

/-- The source that is rendered for them. -/
def markedSource : String :=
  "type M struct \x7b\n\tA string \"json:\\\"a\x60\\\\\\\"\\\"\"\n" ++
    "\tField *string \x60json:\"\\\\\\r\\n,omitempty\"\x60\n\x7d\n\n" ++
    "type E string\n\nconst (\n\tEValue0 E = \"\\\"\x60\\\\\"\n\tEValue1 E = \"\\r\\u0001é\"\n)\n"

theorem render_literals_marked :
    render marked = .ok markedSource ∧
    ∃ texts : List DeclarationText, markedSource = assemble (texts.map DeclarationText.lines) ∧
      List.Forall₂ (DeclarationText.Parts FieldText.Denotes ConstantText.Denotes) texts marked := by
  have hrender : render marked = .ok markedSource := eq_ok_of_toOption (by decide +kernel)
  exact ⟨hrender, render_literals hrender⟩

/-! ### Keys -/

/-- A literal of a tag has this text for the key `json`. -/
def HasTag (literal tag : String) : Prop :=
  ∃ quoted : String, Text.goLiteral? literal.toList = some ("json:" ++ quoted).toUTF8 ∧
    Text.goUnquote? quoted.toList = some tag.toUTF8

/-- The JSON key that a tag gives to a field, if the field is not left out: what stands in front of the
first comma, or else the identifier. -/
def jsonKey? (identifier tag : String) : Option String :=
  if tag = "-" then none
  else some (orElse (String.ofList (Text.cutAt ',' tag.toList).1) identifier)

/-- The JSON key of a field as it is written. -/
def FieldText.HasKey (text : FieldText) (key : Option String) : Prop :=
  ∃ tag, HasTag text.tag tag ∧ jsonKey? text.identifier tag = key

/-- **Which fields are bound to their properties.** A property is left out if it is required and its name is
a hyphen. Any other one is read and written under its name if and only if this has no comma and is not
empty. -/
structure FieldText.Binds (text : FieldText) (field : Field) : Prop where
  omitted : ∀ name, field.name = .text name →
    (text.HasKey none ↔ field.required = true ∧ name = "-")
  bound : ∀ name, field.name = .text name →
    (text.HasKey (some name) ↔
      name ≠ "" ∧ ',' ∉ name.toList ∧ ¬ (field.required = true ∧ name = "-"))

theorem HasTag.unique {literal tag other : String} (h : HasTag literal tag) (h' : HasTag literal other) :
    tag = other := by
  obtain ⟨quoted, hliteral, hquoted⟩ := h
  obtain ⟨quoted', hliteral', hquoted'⟩ := h'
  have hboth : "json:" ++ quoted = "json:" ++ quoted' :=
    String.toByteArray_inj.1 (Option.some.inj (hliteral.symm.trans hliteral'))
  obtain rfl := (String.append_right_inj "json:").1 hboth
  exact String.toByteArray_inj.1 (Option.some.inj (hquoted.symm.trans hquoted'))

/-- A field as it is written has one key. -/
theorem FieldText.Denotes.hasKey_iff {text : FieldText} {field : Field} (h : text.Denotes field)
    (key : Option String) : text.HasKey key ↔ jsonKey? text.identifier (tagName field) = key := by
  have htag : HasTag text.tag (tagName field) := ⟨_, h.tag, h.value⟩
  constructor
  · rintro ⟨tag, hother, hkey⟩
    rwa [htag.unique hother]
  · exact fun hkey => ⟨_, htag, hkey⟩

section Key

variable {identifier : String} {field : Field} {name : String} (hname : field.name = .text name)

include hname

/-- What is behind the name of a property is never a hyphen. -/
theorem tagName_eq_hyphen_iff : tagName field = "-" ↔ field.required = true ∧ name = "-" := by
  have hdisplay : field.name.display = name := by rw [hname]; rfl
  unfold tagName
  rw [hdisplay]
  cases field.required with
  | true => rw [if_pos rfl, String.append_empty]; simp
  | false =>
    rw [if_neg Bool.false_ne_true]
    refine iff_of_false (fun heq => ?_) nofun
    have hlength := congrArg String.length heq
    rw [String.length_append] at hlength
    have htail : ",omitempty".length = 10 := by decide +kernel
    have hhyphen : "-".length = 1 := by decide +kernel
    omega

/-- The key ends where the name ends or has a comma. -/
theorem cutAt_tagName : (Text.cutAt ',' (tagName field).toList).1 = (Text.cutAt ',' name.toList).1 := by
  have hdisplay : field.name.display = name := by rw [hname]; rfl
  unfold tagName
  rw [hdisplay]
  cases field.required with
  | true => rw [if_pos rfl, String.append_empty]
  | false =>
    rw [if_neg Bool.false_ne_true, String.toList_append]
    exact Text.cutAt_append name.toList "omitempty".toList

theorem jsonKey?_eq_none_iff :
    jsonKey? identifier (tagName field) = none ↔ field.required = true ∧ name = "-" := by
  rw [← tagName_eq_hyphen_iff hname]
  unfold jsonKey?
  split
  · next heq => exact iff_of_true rfl heq
  · next hne => exact iff_of_false nofun hne

theorem jsonKey?_eq_some_iff (hne : identifier ≠ "") (hcomma : ',' ∉ identifier.toList) :
    jsonKey? identifier (tagName field) = some name ↔
      name ≠ "" ∧ ',' ∉ name.toList ∧ ¬ (field.required = true ∧ name = "-") := by
  rw [← tagName_eq_hyphen_iff hname]
  unfold jsonKey?
  by_cases hhyphen : tagName field = "-"
  · rw [if_pos hhyphen]
    exact iff_of_false nofun fun ⟨_, _, hno⟩ => hno hhyphen
  rw [if_neg hhyphen, cutAt_tagName hname, Option.some.injEq]
  by_cases hmem : ',' ∈ name.toList
  · -- neither what is in front of the comma nor the identifier has a comma
    refine iff_of_false (fun heq => ?_) fun ⟨_, hno, _⟩ => hno hmem
    unfold orElse at heq
    split at heq
    · exact hcomma (heq ▸ hmem)
    · rw [← heq, String.toList_ofList] at hmem
      exact Text.not_mem_cutAt _ (by rwa [← heq] at hmem)
  · rw [Text.cutAt_of_not_mem hmem, String.ofList_toList]
    unfold orElse
    split
    · next hempty =>
      have hnil : name = "" := by simpa using hempty
      exact iff_of_false (fun heq => hne (heq.trans hnil)) fun ⟨hsome, _, _⟩ => hsome hnil
    · next hsome => exact iff_of_true rfl ⟨by simpa using hsome, hmem, hhyphen⟩

end Key

theorem FieldText.Writes.binds {text : FieldText} {field : Field} (h : text.Writes field) :
    text.Binds field := by
  have hne : text.identifier ≠ "" := by
    obtain ⟨c, rest, hchars, -⟩ := h.identifier
    intro heq
    rw [heq] at hchars
    exact absurd hchars nofun
  have hcomma : ',' ∉ text.identifier.toList := fun hmem =>
    absurd (h.identifier.isAlphanum hmem) (by decide)
  refine ⟨fun name hname => ?_, fun name hname => ?_⟩
  · rw [h.denotes.hasKey_iff, jsonKey?_eq_none_iff hname]
  · rw [h.denotes.hasKey_iff, jsonKey?_eq_some_iff hname hne hcomma]

/-- **Fields are bound to their properties, unless a name says something in a tag.** The fields of a rendered
source are read and written under the names of their properties, but for those whose name is empty or has a
comma, which get another key, and for a required hyphen, which is left out. -/
theorem render_keys {catalog : Catalog} {source : String} (h : render catalog = .ok source) :
    ∃ texts : List DeclarationText, source = assemble (texts.map DeclarationText.lines) ∧
      List.Forall₂ (DeclarationText.Parts FieldText.Binds fun _ _ => True) texts catalog := by
  obtain ⟨texts, hsource, hwrites, -⟩ := texts_of_render h
  exact ⟨texts, hsource, hwrites.imp fun _ _ hdeclaration =>
    hdeclaration.imp (fun _ _ hfield => hfield.binds) fun _ _ _ => trivial⟩

/-- A type with one property, which has to be there and is named by a hyphen. -/
def hyphen : Catalog :=
  [⟨"T", "", .object [⟨.text "-", .primitive .string, true, ""⟩]⟩]

/-- The source that is rendered for it. -/
def hyphenSource : String :=
  "type T struct \x7b\n\tField string \x60json:\"-\"\x60\n\x7d\n"

/-- The field of this type is left out. -/
theorem render_keys_hyphen :
    render hyphen = .ok hyphenSource ∧
    ∃ texts : List DeclarationText, hyphenSource = assemble (texts.map DeclarationText.lines) ∧
      ∃ text : FieldText, texts.map DeclarationText.body = [.struct [text]] ∧
        text.HasKey none ∧ ¬ text.HasKey (some "-") := by
  have hrender : render hyphen = .ok hyphenSource := eq_ok_of_toOption (by decide +kernel)
  obtain ⟨texts, hsource, htexts⟩ := render_keys hrender
  refine ⟨hrender, texts, hsource, ?_⟩
  obtain ⟨text, others, hparts, hothers, rfl⟩ := List.forall₂_cons_right_iff.1 htexts
  obtain rfl := List.forall₂_nil_right_iff.1 hothers
  cases hparts with
  | object hfields =>
    obtain ⟨field, rest, hbinds, hrest, rfl⟩ := List.forall₂_cons_right_iff.1 hfields
    obtain rfl := List.forall₂_nil_right_iff.1 hrest
    refine ⟨field, rfl, (hbinds.omitted "-" rfl).2 ⟨rfl, rfl⟩, fun hkey => ?_⟩
    exact ((hbinds.bound "-" rfl).1 hkey).2.2 ⟨rfl, rfl⟩

end SchemaPress.Source.Go
