import SchemaPress.Proofs.Source.GoFields
import SchemaPress.Proofs.Source.RustReferences
import SchemaPress.Source.Python

/-!
# Names of members

The fields of a Go struct, the variants of a Rust union and the members of a Python enum get their names in
one way: something is made of the property, the type or the value that a name is for, and a counter keeps it
apart from the names in front of it (`Name.Issued`). So no two members of a declaration have the same name,
however often the same is asked for, and even where a counter gives what a later member asks for.

A counter does not change the shape of a name either. What is asked for opens with a capital letter, because
a digit in front gets a word put before it and what has no words is replaced by one, and it goes on with the
characters that the language has names of. A variant of a union asks for the name of a type, which is legal
and therefore not `Self`, and a digit behind something does not make it that.
-/

namespace SchemaPress.Source

open Json (bind_eq_ok)
open Name

/-! ### Fields of Go structs -/

namespace Go

/-- The name that a property asks for. -/
def fieldBase (source : String) : String :=
  shieldDigit "Field" (orElse (Text.pascalCase source) "Field")

theorem isMember_fieldBase (source : String) : IsMember Char.isAlphanum (fieldBase source) := by
  have hfield : IsMember Char.isAlphanum "Field" :=
    ⟨'F', ['i', 'e', 'l', 'd'], rfl, rfl, List.all_eq_true.1 rfl⟩
  unfold fieldBase orElse
  split
  · rw [hfield.shieldDigit_eq]
    exact hfield
  · next hsome =>
    have hwords : Text.Capitalized (Text.pascalCase source).toList :=
      Text.capitalized_pascalCase (by simpa using hsome)
    exact isMember_shieldDigit hfield (fun c hc => hwords.isAlphanum hc) (isMember_of_capitalized hwords)

/-- The field for a property under a name. -/
def fieldText (name : String) (field : Field) : FieldText where
  identifier := name
  type := fieldType field.type field.required
  tag := Text.goTag ("json:" ++ Text.goQuote (tagName field))
  description := field.description

theorem writes_fieldText {name : String} (h : Text.Capitalized name.toList) (field : Field) :
    (fieldText name field).Writes field := by
  unfold fieldText
  generalize htag : Text.goTag ("json:" ++ Text.goQuote (tagName field)) = tag
  exact ⟨h, rfl, htag.symm, rfl⟩

theorem tagText_eq {field : Field} {name : String} (h : field.name = .text name) :
    tagText field.name field.required = .ok (tagName field) := by
  unfold tagText tagName
  rw [h]
  cases field.required with
  | true =>
    rw [if_pos rfl, if_pos rfl, String.append_empty]
    rfl
  | false => rfl

/-- **The fields of a struct**, each under a name of its own. -/
theorem exists_fieldTexts {fields : List Field} (h : ∀ field ∈ fields, ∃ name, field.name = .text name)
    (taken : List String) :
    ∃ texts : List FieldText, fieldLines taken fields = .ok (texts.flatMap FieldText.lines) ∧
      List.Forall₂ FieldText.Writes texts fields ∧
      Issued (IsMember Char.isAlphanum) taken (texts.map FieldText.identifier) := by
  induction fields generalizing taken with
  | nil => exact ⟨[], rfl, .nil, .nil⟩
  | cons field rest ih =>
    obtain ⟨name, hname⟩ := h field List.mem_cons_self
    obtain ⟨texts, hlines, hwrites, hissued⟩ :=
      ih (fun other hother => h other (List.mem_cons_of_mem _ hother)) (fieldName name taken :: taken)
    have hwords : wordsSource field.name = .ok name := by
      rw [hname]
      rfl
    have hname' : fieldName name taken = fresh taken (fieldBase name) := rfl
    refine ⟨fieldText (fieldName name taken) field :: texts, ?_,
      .cons (writes_fieldText (capitalized_fieldName name taken) field) hwrites, ?_⟩
    · unfold fieldLines
      rw [ok_bind hwords, ok_bind (tagText_eq hname), ok_bind hlines, List.flatMap_cons, FieldText.lines, fieldText]
      generalize Text.goTag ("json:" ++ Text.goQuote (tagName field)) = tag
      rfl
    · rw [List.map_cons, fieldText]
      simp only
      rw [hname'] at hissued ⊢
      exact .cons (isMember_fieldBase name) hissued

/-- **The struct of an object type** whose properties are named by texts. -/
theorem block_fieldNames (taken : List String) (name description : String) {fields : List Field}
    (h : ∀ field ∈ fields, ∃ key, field.name = .text key) :
    ∃ texts : List FieldText,
      block taken ⟨name, description, .object fields⟩ =
        .ok ((DeclarationText.mk name description (.struct texts)).lines, taken) ∧
      List.Forall₂ FieldText.Writes texts fields ∧
      (texts.map FieldText.identifier).Nodup ∧
      ∀ text ∈ texts, IsMember Char.isAlphanum text.identifier := by
  obtain ⟨texts, hlines, hwrites, hissued⟩ := exists_fieldTexts h []
  refine ⟨texts, ?_, hwrites, hissued.nodup, fun text htext => ?_⟩
  · unfold block
    simp only
    rw [ok_bind hlines]
    rfl
  · have hfresh (base : String) (hbase : IsMember Char.isAlphanum base) (taken : List String) :
        IsMember Char.isAlphanum (fresh taken base) := hbase.fresh (fun _ => isAlphanum_of_isDigit) taken
    exact hissued.forall_mem hfresh _ (List.mem_map_of_mem htext)

end Go

/-! ### Variants of Rust unions -/

namespace Rust

/-- The name of a variant: in shape, and not the keyword that opens with a capital letter. -/
def IsHolder (name : String) : Prop :=
  IsMember Char.isAlphanum name ∧ name ≠ "Self"

theorem IsHolder.fresh {name : String} (h : IsHolder name) (taken : List String) :
    IsHolder (fresh taken name) := by
  refine ⟨h.1.fresh (fun _ => isAlphanum_of_isDigit) taken, ?_⟩
  rcases fresh_cases taken name with heq | ⟨n, heq⟩
  · rw [heq]
    exact h.2
  · rw [heq]
    exact append_toString_ne_self name n

/-- **A legal type gives the name of a variant**, by the number of lists around what is in them. -/
theorem isHolder_of_holderName {type : TypeRef} {base : String} (hlegal : Analysis.LegalUse type)
    (h : holderName type = .ok base) : IsHolder base := by
  induction type generalizing base with
  | primitive type =>
    cases type with
    | null => cases h
    | _ =>
      obtain rfl := Except.ok.inj h
      exact ⟨⟨_, _, rfl, rfl, List.all_eq_true.1 rfl⟩, by decide⟩
  | array items ih =>
    unfold holderName at h
    obtain ⟨inner, hinner, h⟩ := bind_eq_ok h
    obtain rfl := Except.ok.inj h
    have hitems : Analysis.LegalUse items := fun name backEdge hname => hlegal name backEdge (.items hname)
    refine ⟨(ih hitems hinner).1.append (List.all_eq_true.1 rfl), fun heq => ?_⟩
    -- the words end in different letters
    have hlast := congrArg (fun text : String => text.toList.getLast?) heq
    simp only [String.toList_append] at hlast
    rw [List.getLast?_append_of_ne_nil _ (by decide)] at hlast
    exact absurd hlast (by decide)
  | named name backEdge =>
    obtain rfl := Except.ok.inj h
    have hname : Legal name := hlegal name backEdge .self
    exact ⟨isMember_of_legal hname, fun heq => hname.free (heq ▸ by decide)⟩
  | any =>
    obtain rfl := Except.ok.inj h
    exact ⟨⟨'A', ['n', 'y'], rfl, rfl, List.all_eq_true.1 rfl⟩, by decide⟩

/-- **The variants of a union**, each under a name of its own. -/
theorem issued_of_unionLines {variants : List TypeRef} {taken lines : List String}
    (hlegal : ∀ type ∈ variants, Analysis.LegalUse type) (h : unionLines taken variants = .ok lines) :
    ∃ texts : List HolderText, lines = texts.map HolderText.line ∧
      List.Forall₂ HolderText.Writes texts variants ∧ Issued IsHolder taken (texts.map HolderText.name) := by
  induction variants generalizing taken lines with
  | nil =>
    obtain rfl := Except.ok.inj h
    exact ⟨[], rfl, .nil, .nil⟩
  | cons type rest ih =>
    have hrest (other : TypeRef) (hother : other ∈ rest) := hlegal other (List.mem_cons_of_mem _ hother)
    by_cases hnull : type = .primitive .null
    · subst hnull
      rw [unionLines] at h
      obtain ⟨others, hothers, h⟩ := bind_eq_ok h
      obtain rfl := Except.ok.inj h
      obtain ⟨texts, rfl, hwrites, hissued⟩ := ih hrest hothers
      have hbase : IsHolder "Null" := ⟨⟨'N', ['u', 'l', 'l'], rfl, rfl, List.all_eq_true.1 rfl⟩, by decide⟩
      exact ⟨⟨fresh taken "Null", none⟩ :: texts, rfl, .cons .null hwrites, .cons hbase hissued⟩
    · rw [unionLines_cons hnull] at h
      obtain ⟨base, hbase, h⟩ := bind_eq_ok h
      obtain ⟨others, hothers, h⟩ := bind_eq_ok h
      obtain rfl := Except.ok.inj h
      obtain ⟨texts, rfl, hwrites, hissued⟩ := ih hrest hothers
      have hholder := isHolder_of_holderName (hlegal type List.mem_cons_self) hbase
      exact ⟨⟨fresh taken base, some (typeText type)⟩ :: texts, rfl, .cons (.holder hnull hbase) hwrites,
        .cons hholder hissued⟩

/-- **The enum of a union** that an analysis has found, where its catalog is rendered. -/
theorem block_variantNames {schemas : List Json} {catalog : Catalog} {source : String}
    (hanalyze : Analysis.analyze schemas = .ok catalog) (hrender : catalog.render .rust = .ok source)
    {name description : String} {variants : List TypeRef}
    (hmem : ⟨name, description, .union variants⟩ ∈ catalog) :
    ∃ texts : List HolderText,
      block ⟨name, description, .union variants⟩ =
        .ok (DeclarationText.mk name description (.union texts)).lines ∧
      List.Forall₂ HolderText.Writes texts variants ∧
      (texts.map HolderText.name).Nodup ∧
      ∀ text ∈ texts, IsMember Char.isAlphanum text.name ∧ text.name ≠ "Self" := by
  have hlegal : ∀ type ∈ variants, Analysis.LegalUse type := ((legible_of_analyze hanalyze).2 _ hmem).uses
  obtain ⟨blocks, hblocks, -⟩ := bind_eq_ok hrender
  obtain ⟨lines, -, hblock⟩ := exists_of_forall₂ (mapM_eq_ok_iff.1 hblocks) _ hmem
  obtain ⟨written, hlines, -⟩ := bind_eq_ok hblock
  obtain ⟨texts, rfl, hwrites, hissued⟩ := issued_of_unionLines hlegal hlines
  refine ⟨texts, ?_, hwrites, hissued.nodup, fun text htext => ?_⟩
  · unfold block
    simp only
    rw [ok_bind hlines]
    rfl
  · exact hissued.forall_mem (fun base hbase => hbase.fresh) _ (List.mem_map_of_mem htext)

end Rust

/-! ### Members of Python enums -/

namespace Python

/-- A character of a name in capitals. -/
def isCapitals (c : Char) : Bool :=
  c.isUpper || c.isDigit || c == '_'

/-- A member of an enum as it is written. -/
structure MemberText where
  /-- The name. -/
  name : String
  /-- The literal of the value. -/
  literal : String

/-- The line of a member. -/
def MemberText.line (text : MemberText) : String :=
  "    " ++ text.name ++ " = " ++ text.literal

/-- The name that a value asks for. -/
def memberBase (index : Nat) (value : Json) : String :=
  shieldDigit "VALUE_" (orElse (Text.upperSnakeCase value.display) ("VALUE_" ++ toString index))

theorem isCapitals_of_isDigit {c : Char} (h : c.isDigit = true) : isCapitals c = true := by
  simp [isCapitals, h]

theorem isCapitals_toUpper {c : Char} (h : IsSnakeChar c) : isCapitals c.toUpper = true := by
  have halnum (hc : c.isAlphanum = true) : isCapitals c.toUpper = true := by
    rcases Text.isUpper_or_isDigit_toUpper hc with hupper | hdigit
    · simp [isCapitals, hupper]
    · exact isCapitals_of_isDigit hdigit
  rcases h with hlower | hdigit | rfl
  · exact halnum (isAlphanum_of_isLower hlower)
  · exact halnum (isAlphanum_of_isDigit hdigit)
  · decide

/-- The characters of words in capitals. -/
theorem isCapitals_upperSnakeCase {text : String} (h : IsSnake (Text.snakeCase text).toList) :
    ∀ c ∈ (Text.upperSnakeCase text).toList, isCapitals c = true := by
  intro c hc
  rw [Text.upperSnakeCase, String.toList_ofList] at hc
  obtain ⟨d, hd, rfl⟩ := List.mem_map.1 hc
  exact isCapitals_toUpper (h.chars d hd)

/-- Words in capitals are in shape unless a digit is in front of them: no underscore is. -/
theorem isMember_upperSnakeCase {text : String} (h : IsSnake (Text.snakeCase text).toList)
    (hdigit : startsWithDigit (Text.upperSnakeCase text) = false) :
    IsMember isCapitals (Text.upperSnakeCase text) := by
  have hfollows := isCapitals_upperSnakeCase h
  obtain ⟨c, rest, hchars⟩ := List.exists_cons_of_ne_nil h.ne_nil
  have hupper : (Text.upperSnakeCase text).toList = c.toUpper :: rest.map Char.toUpper := by
    rw [Text.upperSnakeCase, String.toList_ofList, hchars, List.map_cons]
  have hhead : c ≠ '_' := by
    rintro rfl
    exact h.head (by rw [hchars]; rfl)
  rw [hupper] at hfollows
  refine ⟨c.toUpper, rest.map Char.toUpper, hupper, ?_, fun d hd => hfollows d (List.mem_cons_of_mem _ hd)⟩
  have halnum : c.isAlphanum = true := by
    rcases h.chars c (hchars ▸ List.mem_cons_self) with hlower | hc | hlow
    · exact isAlphanum_of_isLower hlower
    · exact isAlphanum_of_isDigit hc
    · exact absurd hlow hhead
  rcases Text.isUpper_or_isDigit_toUpper halnum with hc | hc
  · exact hc
  · rw [startsWithDigit_iff.2 ⟨_, _, hupper, hc⟩] at hdigit
    cases hdigit

theorem isMember_memberBase (index : Nat) (value : Json) : IsMember isCapitals (memberBase index value) := by
  have hvalue : IsMember isCapitals "VALUE_" :=
    ⟨'V', ['A', 'L', 'U', 'E', '_'], rfl, rfl, List.all_eq_true.1 rfl⟩
  have hnumber (c : Char) (hc : c ∈ (toString index).toList) : isCapitals c = true := by
    rw [Nat.toString_eq_repr, Nat.toList_repr] at hc
    exact isCapitals_of_isDigit (Nat.isDigit_of_mem_toDigits (by decide) (by decide) hc)
  have hfallback : IsMember isCapitals ("VALUE_" ++ toString index) := hvalue.append hnumber
  unfold memberBase orElse
  split
  · rw [hfallback.shieldDigit_eq]
    exact hfallback
  · next hsome =>
    have hsnake : IsSnake (Text.snakeCase value.display).toList := by
      refine isSnake_snakeCase (Bool.eq_false_iff.2 fun hempty => hsome ?_)
      rw [Text.upperSnakeCase, String.isEmpty_iff.1 hempty]
      rfl
    exact isMember_shieldDigit hvalue (isCapitals_upperSnakeCase hsnake) (isMember_upperSnakeCase hsnake)

/-- **The members of an enum**, each under a name of its own. -/
theorem exists_memberTexts (index : Nat) (taken : List String) (values : List Json) :
    ∃ texts : List MemberText, memberLines index taken values = texts.map MemberText.line ∧
      List.Forall₂ (fun text value => text.literal = value.literal) texts values ∧
      Issued (IsMember isCapitals) taken (texts.map MemberText.name) := by
  induction values generalizing index taken with
  | nil => exact ⟨[], rfl, .nil, .nil⟩
  | cons value rest ih =>
    obtain ⟨texts, hlines, hliterals, hissued⟩ := ih (index + 1) (memberName index value taken :: taken)
    refine ⟨⟨memberName index value taken, value.literal⟩ :: texts, ?_, .cons rfl hliterals, ?_⟩
    · rw [memberLines, hlines]
      rfl
    · exact .cons (isMember_memberBase index value) hissued

/-- **The class of an enum**, whatever its values are. -/
theorem block_memberNames (name description : String) (values : List Json) :
    ∃ texts : List MemberText,
      block ⟨name, description, .enum values⟩ =
        .ok (["class " ++ name ++ "(Enum):"] ++
          linesIf (docstring description) ["    \"\"\"" ++ docstring description ++ "\"\"\"", ""] ++
          (if values.isEmpty then ["    pass"] else texts.map MemberText.line), ⟨[], true⟩) ∧
      List.Forall₂ (fun text value => text.literal = value.literal) texts values ∧
      (texts.map MemberText.name).Nodup ∧
      ∀ text ∈ texts, IsMember isCapitals text.name := by
  obtain ⟨texts, hlines, hliterals, hissued⟩ := exists_memberTexts 0 [] values
  refine ⟨texts, ?_, hliterals, hissued.nodup, fun text htext => ?_⟩
  · rw [← hlines]
    rfl
  · have hfresh (base : String) (hbase : IsMember isCapitals base) (taken : List String) :
        IsMember isCapitals (fresh taken base) := hbase.fresh (fun _ => isCapitals_of_isDigit) taken
    exact hissued.forall_mem hfresh _ (List.mem_map_of_mem htext)

end Python

/-! ### All three -/

/-- **Members of one declaration have distinct names, each of which is in shape.**

* Properties that are named by texts are the fields of a Go struct, and each field is a capital letter with
  letters and digits behind it.
* The types of a union, where an analysis has found it and the catalog is rendered in Rust, are the variants
  of an enum, and each variant is such a name as well, but never `Self`.
* Values of any kind, however often they repeat, are the members of a Python enum, and each member is a
  capital letter with capital letters, digits and underscores behind it. -/
theorem nodup_memberNames :
    (∀ (taken : List String) (name description : String) (fields : List Field),
      (∀ field ∈ fields, ∃ key, field.name = .text key) →
      ∃ texts : List Go.FieldText,
        Go.block taken ⟨name, description, .object fields⟩ =
          .ok ((Go.DeclarationText.mk name description (.struct texts)).lines, taken) ∧
        List.Forall₂ Go.FieldText.Writes texts fields ∧
        (texts.map Go.FieldText.identifier).Nodup ∧
        ∀ text ∈ texts, IsMember Char.isAlphanum text.identifier) ∧
    (∀ (schemas : List Json) (catalog : Catalog) (source : String), Analysis.analyze schemas = .ok catalog →
      catalog.render .rust = .ok source →
      ∀ (name description : String) (variants : List TypeRef),
        ⟨name, description, .union variants⟩ ∈ catalog →
      ∃ texts : List Rust.HolderText,
        Rust.block ⟨name, description, .union variants⟩ =
          .ok (Rust.DeclarationText.mk name description (.union texts)).lines ∧
        List.Forall₂ Rust.HolderText.Writes texts variants ∧
        (texts.map Rust.HolderText.name).Nodup ∧
        ∀ text ∈ texts, IsMember Char.isAlphanum text.name ∧ text.name ≠ "Self") ∧
    (∀ (name description : String) (values : List Json),
      ∃ texts : List Python.MemberText,
        Python.block ⟨name, description, .enum values⟩ =
          .ok (["class " ++ name ++ "(Enum):"] ++
            linesIf (Python.docstring description)
              ["    \"\"\"" ++ Python.docstring description ++ "\"\"\"", ""] ++
            (if values.isEmpty then ["    pass"] else texts.map Python.MemberText.line), ⟨[], true⟩) ∧
        List.Forall₂ (fun text value => text.literal = value.literal) texts values ∧
        (texts.map Python.MemberText.name).Nodup ∧
        ∀ text ∈ texts, IsMember Python.isCapitals text.name) := by
  refine ⟨?_, ?_, Python.block_memberNames⟩
  · intro taken name description fields hnamed
    exact Go.block_fieldNames taken name description hnamed
  · intro schemas catalog source hanalyze hrender name description variants hmem
    exact Rust.block_variantNames hanalyze hrender hmem

/-- A counter may give what a later value asks for. -/
example : Python.memberLines 0 [] [.str "1", .int 1, .str "12", .bool true, .str ""] =
    ["    VALUE_1 = '1'", "    VALUE_12 = 1", "    VALUE_122 = '12'", "    TRUE = True", "    VALUE_4 = ''"] := by
  decide +kernel

/-! ### Members that ask for the same name -/

section Same

open Analysis

/-- `{"title": "Null", "oneOf": [{"type": "null"}, {"$ref": "#"}]}`, once it is dereferenced. -/
def nullMembers : Members :=
  [("title", .str "Null"),
    ("oneOf", .arr [.obj [("type", .str "null")], .obj [("$ref", .str "#"), ("title", .str "Null")]])]

/-- The types that a value of it may have: it is nothing, or again one of these. -/
def nullVariants : List TypeRef :=
  [.primitive .null, .named "Null" true]

/-- Its catalog. -/
def nullCatalog : Catalog :=
  [⟨"Null", "", .union nullVariants⟩]

/-- Its source, with a counter behind the name of the second variant. -/
def nullSource : String :=
  "// Code generated by json_schema_release. DO NOT EDIT.\n\nuse serde::\x7bDeserialize, Serialize\x7d;\n\n" ++
    "#[derive(Serialize, Deserialize, Clone, Debug, PartialEq)]\n#[serde(untagged)]\n" ++
    "pub enum Null \x7b\n    Null,\n    Null2(Box<Null>),\n\x7d\n"

theorem analyze_null : analyze [.obj nullMembers] = .ok nullCatalog := by
  obtain ⟨key, hkey⟩ : ∃ key, Schema.structureText ⟨nullMembers, none⟩ = .ok key := ⟨_, rfl⟩
  have hbase (hint : Json) : baseName (.str "Null") hint = .ok "Null" := by
    unfold baseName
    simp only [show Name.ofType "Null" = "Null" by decide +kernel]
    rfl
  have hnull (hint : Json) (state : State) :
      typeRef (.obj [("type", .str "null")]) hint state = .ok (.primitive .null, state) := by
    have hopen : IsOpen ⟨[("type", .str "null")], none⟩ := ⟨fun ref h => (by cases h), rfl, rfl⟩
    rw [typeRef, schemaRef_open hopen]
    change plainRef _ _ (.str "null") _ = _
    rw [plainRef_eq]
    rfl
  -- the union is being built, so its title names the back edge
  have hedge (hint : Json) (state : State) (hbuilding : state.building = [(.str "Null", "Null")]) :
      typeRef (.obj [("$ref", .str "#"), ("title", .str "Null")]) hint state =
        .ok (.named "Null" true, state) := by
    obtain ⟨declarations, names, known, building⟩ := state
    subst hbuilding
    rw [typeRef, schemaRef_ref rfl]
    rfl
  have hvariants (state : State) (hbuilding : state.building = [(.str "Null", "Null")]) :
      variantsOf "Null" 0
        [.obj [("type", .str "null")], .obj [("$ref", .str "#"), ("title", .str "Null")]] [] state =
        .ok (nullVariants, state) := by
    rw [variantsOf, bind_of_ok (hnull _ _), variantsOf, bind_of_ok (hedge _ _ hbuilding), variantsOf]
    rfl
  have hroot : typeRef (.obj nullMembers) (.str "Null") {} =
      .ok (.named "Null" false, ⟨nullCatalog, ["Null"], [(key, "Null")], []⟩) := by
    have hfresh : Name.fresh ({} : State).names "Null" = "Null" := by decide +kernel
    rw [typeRef, schemaRef_union (fun ref h => by cases h) rfl rfl,
      bind_of_ok (enter_of_base hkey rfl (hbase _)), hfresh]
    change (variantsOf "Null" 0 _ [] >>= _) _ = _
    rw [bind_of_ok (hvariants _ rfl)]
    rfl
  have hdefine : define (.obj nullMembers) (.str "Null") {} =
      .ok ((), ⟨nullCatalog, ["Null"], [(key, "Null")], []⟩) := by
    unfold define
    rw [bind_of_ok hroot]
    rfl
  unfold analyze
  change ((define (.obj nullMembers) (.str "Null") >>= fun _ => pure ()) >>= fun _ =>
    defineRest [.obj nullMembers]) {} >>= _ = _
  rw [bind_of_ok (bind_of_ok hdefine)]
  rfl

/-- Two properties that ask for one field, and one that asks for what a counter gives. -/
def sameFields : List Field :=
  [⟨.text "a", .any, true, ""⟩, ⟨.text "A", .any, true, ""⟩, ⟨.text "a2", .any, false, ""⟩]

/-- Values that ask for one member. -/
def sameValues : List Json :=
  [.bool true, .str "true", .str "TRUE", .bool true]

/-- Counters tell the members apart. -/
theorem nodup_memberNames_same :
    (∀ field ∈ sameFields, ∃ key, field.name = .text key) ∧
    analyze [.obj nullMembers] = .ok nullCatalog ∧ nullCatalog.render .rust = .ok nullSource ∧
    (∃ texts : List Go.FieldText,
      Go.block [] ⟨"Same", "", .object sameFields⟩ =
        .ok ((Go.DeclarationText.mk "Same" "" (.struct texts)).lines, []) ∧
      List.Forall₂ Go.FieldText.Writes texts sameFields ∧
      (texts.map Go.FieldText.identifier).Nodup ∧
      ∀ text ∈ texts, IsMember Char.isAlphanum text.identifier) ∧
    (∃ texts : List Rust.HolderText,
      Rust.block ⟨"Null", "", .union nullVariants⟩ =
        .ok (Rust.DeclarationText.mk "Null" "" (.union texts)).lines ∧
      List.Forall₂ Rust.HolderText.Writes texts nullVariants ∧
      (texts.map Rust.HolderText.name).Nodup ∧
      ∀ text ∈ texts, IsMember Char.isAlphanum text.name ∧ text.name ≠ "Self") ∧
    ∃ texts : List Python.MemberText,
      Python.block ⟨"Same", "", .enum sameValues⟩ =
        .ok (["class Same(Enum):"] ++ texts.map Python.MemberText.line, ⟨[], true⟩) ∧
      (texts.map Python.MemberText.name).Nodup ∧
      ∀ text ∈ texts, IsMember Python.isCapitals text.name := by
  have hnamed : ∀ field ∈ sameFields, ∃ key, field.name = .text key :=
    List.forall_mem_cons.2 ⟨⟨_, rfl⟩, List.forall_mem_cons.2 ⟨⟨_, rfl⟩, List.forall_mem_singleton.2 ⟨_, rfl⟩⟩⟩
  have hrender : nullCatalog.render .rust = .ok nullSource := Json.eq_ok_of_toOption (by decide +kernel)
  obtain ⟨hgo, hrust, hpython⟩ := nodup_memberNames
  obtain ⟨texts, hblock, -, hnodup, hshape⟩ := hpython "Same" "" sameValues
  refine ⟨hnamed, analyze_null, hrender, hgo [] "Same" "" sameFields hnamed, ?_, texts, hblock, hnodup, hshape⟩
  exact hrust _ nullCatalog nullSource analyze_null hrender "Null" "" nullVariants List.mem_cons_self

end Same

end SchemaPress.Source
