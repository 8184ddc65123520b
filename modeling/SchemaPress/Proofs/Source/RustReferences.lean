import SchemaPress.Proofs.Analysis.Aliases
import SchemaPress.Proofs.Files.Task
import SchemaPress.Proofs.Name.Characters
import SchemaPress.Proofs.Source.Lines
import SchemaPress.Proofs.Source.Rendering
import SchemaPress.Proofs.Source.RustFields
import SchemaPress.Proofs.Source.RustVariants

/-!
# References between the declarations of a Rust source

A Rust type has to have a size and an end. Declarations that refer to each other in a circle have no size
unless a box is on the way, and they come to no end if all of them are aliases, since an alias is nothing
but its type.

Which names a type uses, and inside of which generic types, is read off its text (`uses`). On the texts of
the declarations that are rendered (`texts_of_render`) two things can be said about circles.

* Each of them goes through a box. Declarations are in order, back edges apart, and all of those are boxed
  (`not_transGen_holds`).
* Some of them go through aliases alone. A box is no help there: an alias is replaced by its type, and again
  by that of the alias in it, without end. This happens if and only if back edges lead from aliases to
  aliases in a circle (`transGen_unfolds_iff`).

The schemas tell when it does: an alias is made for a schema on the agenda, and refers back to whatever
name is spelled by the title of a back edge that is left of the schema when lists are entered and `allOf` is
folded (`references_of_render`). The smallest of them is a list of itself.
-/

namespace SchemaPress.Source.Rust

open Json (bind_eq_ok)
open Name

/-! ### Uses in the text of a type -/

/-- A use of a name in the text of a type. -/
structure Use where
  /-- The name, with its path. -/
  path : String
  /-- The generic types that it is an argument of, innermost first. -/
  around : List String

/-- Whether a character ends a path. -/
def endsPath (c : Char) : Bool :=
  c == '<' || c == '>' || c == ',' || c == ' '

/-- The use of a path that has been read, unless nothing has. -/
def useOf (around : List String) (path : List Char) : List Use :=
  if path.isEmpty then [] else [⟨String.ofList path, around⟩]

/-- The uses in the rest of a text, inside of these generic types and behind the characters of a path. -/
def usesFrom (around : List String) (path : List Char) : List Char → List Use
  | [] => useOf around path
  | c :: rest =>
    if endsPath c then
      useOf around path ++ usesFrom
        (if c = '<' then String.ofList path :: around else if c = '>' then around.drop 1 else around) [] rest
    else usesFrom around (path ++ [c]) rest

/-- **The uses in the text of a type.** -/
def uses (type : String) : List Use :=
  usesFrom [] [] type.toList

/-- The names of a map of any values, and those around and inside of it. -/
example : (uses "Vec<serde_json::Map<String, Box<A>>>").map (fun use => (use.path, use.around)) =
    [("Vec", []), ("serde_json::Map", ["Vec"]), ("String", ["serde_json::Map", "Vec"]),
      ("Box", ["serde_json::Map", "Vec"]), ("A", ["Box", "serde_json::Map", "Vec"])] := by
  decide +kernel

/-- **A text that is read as these uses** inside of some generic types, in front of anything that ends a path
but does not start the arguments of one. -/
def ReadsUses (around : List String) (text : List Char) (found : List Use) : Prop :=
  ∀ rest : List Char, (∀ c ∈ rest.head?, endsPath c = true ∧ c ≠ '<') →
    usesFrom around [] (text ++ rest) = found ++ usesFrom around [] rest

/-- The characters of a path. -/
def IsPath (path : List Char) : Prop :=
  path ≠ [] ∧ ∀ c ∈ path, endsPath c = false

/-- The names of the types that are there without a declaration. -/
def builtinPaths : List String :=
  ["String", "f64", "i64", "bool", "serde_json::Value", "serde_json::Map", "Vec", "Box", "Option"]

theorem isPath_of_mem_builtinPaths {name : String} (h : name ∈ builtinPaths) : IsPath name.toList := by
  have hall : builtinPaths.all (fun name => !name.toList.isEmpty && name.toList.all (! endsPath ·)) = true := by
    decide +kernel
  obtain ⟨hne, hpath⟩ := Bool.and_eq_true_iff.1 (List.all_eq_true.1 hall name h)
  exact ⟨by simpa using hne, fun c hc => by simpa using List.all_eq_true.1 hpath c hc⟩

/-- None of them is a legal name of a declaration. -/
theorem not_mem_builtinPaths {name : String} (h : Legal name) : name ∉ builtinPaths :=
  h.not_mem (by decide +kernel)

/-- A legal name is a path of its own. -/
theorem isPath_of_legal {name : String} (h : Legal name) : IsPath name.toList := by
  have hplain := isPlain_of_legal h
  obtain ⟨first, rest, hchars, -⟩ := h.shape
  refine ⟨fun hnil => List.cons_ne_nil first rest (hchars.symm.trans hnil), fun c hc => ?_⟩
  have hne (d : Char) (halnum : d.isAlphanum = false) (hlow : d ≠ '_') : (c == d) = false := by
    rw [beq_eq_false_iff_ne]
    rintro rfl
    exact hplain.not_mem halnum hlow hc
  unfold endsPath
  rw [hne '<' rfl (by decide), hne '>' rfl (by decide), hne ',' rfl (by decide), hne ' ' rfl (by decide)]
  rfl

/-- The characters of a path are gathered. -/
theorem usesFrom_append {path : List Char} (h : ∀ c ∈ path, endsPath c = false) (around : List String)
    (start rest : List Char) :
    usesFrom around start (path ++ rest) = usesFrom around (start ++ path) rest := by
  induction path generalizing start with
  | nil => rw [List.nil_append, List.append_nil]
  | cons c path ih =>
    obtain ⟨hc, hpath⟩ := List.forall_mem_cons.1 h
    rw [List.cons_append, usesFrom, hc]
    change usesFrom around (start ++ [c]) (path ++ rest) = _
    rw [ih hpath, List.append_assoc, List.singleton_append]

theorem useOf_path {path : List Char} (h : IsPath path) (around : List String) :
    useOf around path = [⟨String.ofList path, around⟩] := by
  unfold useOf
  rw [if_neg]
  simpa using h.1

theorem readsUses_path {name : String} (h : IsPath name.toList) (around : List String) :
    ReadsUses around name.toList [⟨name, around⟩] := by
  intro rest hrest
  rw [usesFrom_append h.2, List.nil_append]
  cases rest with
  | nil =>
    rw [usesFrom, useOf_path h, String.ofList_toList]
    rfl
  | cons c rest =>
    obtain ⟨hends, hopen⟩ := hrest c rfl
    rw [usesFrom, usesFrom, if_pos hends, if_pos hends, if_neg hopen, if_neg hopen, useOf_path h,
      String.ofList_toList]
    rfl

/-- The argument of a generic type is read inside of it. -/
theorem ReadsUses.generic {name : String} (hname : IsPath name.toList) {around : List String}
    {text : List Char} {found : List Use} (h : ReadsUses (name :: around) text found) :
    ReadsUses around (name.toList ++ '<' :: text ++ ['>']) (⟨name, around⟩ :: found) := by
  intro rest _
  have hclose : ∀ c ∈ ('>' :: rest).head?, endsPath c = true ∧ c ≠ '<' := by
    intro c hc
    obtain rfl := Option.some.inj hc
    decide
  calc usesFrom around [] (name.toList ++ '<' :: text ++ ['>'] ++ rest)
      = usesFrom around [] (name.toList ++ ('<' :: (text ++ '>' :: rest))) := by simp
    _ = usesFrom around name.toList ('<' :: (text ++ '>' :: rest)) := by
      rw [usesFrom_append hname.2, List.nil_append]
    _ = useOf around name.toList ++ usesFrom (String.ofList name.toList :: around) [] (text ++ '>' :: rest) := by
      rw [usesFrom]
      rfl
    _ = ⟨name, around⟩ :: usesFrom (name :: around) [] (text ++ '>' :: rest) := by
      rw [useOf_path hname, String.ofList_toList]
      rfl
    _ = ⟨name, around⟩ :: (found ++ usesFrom (name :: around) [] ('>' :: rest)) := by rw [h _ hclose]
    _ = ⟨name, around⟩ :: found ++ usesFrom around [] rest := rfl

/-- The same for texts, where the name is written with the bracket behind it. -/
theorem ReadsUses.applied {name opening : String} (hname : name ∈ builtinPaths)
    (hopening : opening = name ++ "<") {around : List String} {argument : String} {found : List Use}
    (h : ReadsUses (name :: around) argument.toList found) :
    ReadsUses around (opening ++ argument ++ ">").toList (⟨name, around⟩ :: found) := by
  have htext : (opening ++ argument ++ ">").toList = name.toList ++ '<' :: argument.toList ++ ['>'] := by
    rw [hopening, String.toList_append, String.toList_append, String.toList_append]
    simp
  rw [htext]
  exact h.generic (isPath_of_mem_builtinPaths hname)

/-- Two arguments of a generic type are read one after the other. -/
theorem ReadsUses.pair {around : List String} {first second : List Char} {found more : List Use}
    (h : ReadsUses around first found) (h' : ReadsUses around second more) :
    ReadsUses around (first ++ ',' :: ' ' :: second) (found ++ more) := by
  intro rest hrest
  have hcomma : ∀ c ∈ (',' :: ' ' :: (second ++ rest)).head?, endsPath c = true ∧ c ≠ '<' := by
    intro c hc
    obtain rfl := Option.some.inj hc
    decide
  calc usesFrom around [] (first ++ ',' :: ' ' :: second ++ rest)
      = usesFrom around [] (first ++ (',' :: ' ' :: (second ++ rest))) := by simp
    _ = found ++ usesFrom around [] (',' :: ' ' :: (second ++ rest)) := h _ hcomma
    _ = found ++ usesFrom around [] (second ++ rest) := rfl
    _ = found ++ more ++ usesFrom around [] rest := by rw [h' rest hrest, List.append_assoc]

theorem uses_of_readsUses {type : String} {found : List Use} (h : ReadsUses [] type.toList found) :
    uses type = found := by
  have hread := h [] nofun
  rw [List.append_nil] at hread
  exact hread.trans (List.append_nil _)

/-! ### Uses of a type -/

/-- The uses of a type, inside of these generic types. -/
def typeUses (around : List String) : TypeRef → List Use
  | .primitive .object =>
    ⟨"serde_json::Map", around⟩ :: [⟨"String", "serde_json::Map" :: around⟩] ++
      [⟨"serde_json::Value", "serde_json::Map" :: around⟩]
  | .primitive type => [⟨primitiveType type, around⟩]
  | .array items => ⟨"Vec", around⟩ :: typeUses ("Vec" :: around) items
  | .named name backEdge =>
    if backEdge then ⟨"Box", around⟩ :: [⟨name, "Box" :: around⟩] else [⟨name, around⟩]
  | .any => [⟨"serde_json::Value", around⟩]

/-- **A type is read as what it uses**, by the constructors of types. -/
theorem readsUses_typeText {type : TypeRef} (h : Analysis.LegalUse type) (around : List String) :
    ReadsUses around (typeText type).toList (typeUses around type) := by
  have hbuiltin (name : String) (hname : name ∈ builtinPaths) (around : List String) :
      ReadsUses around name.toList [⟨name, around⟩] :=
    readsUses_path (isPath_of_mem_builtinPaths hname) around
  induction type generalizing around with
  | primitive type =>
    cases type with
    | object =>
      have hkey := hbuiltin "String" (by decide) ("serde_json::Map" :: around)
      have hvalue := hbuiltin "serde_json::Value" (by decide) ("serde_json::Map" :: around)
      exact (hkey.pair hvalue).generic (isPath_of_mem_builtinPaths (by decide))
    | _ => exact hbuiltin _ (by decide) around
  | array items ih =>
    have hitems := ih (fun name backEdge hname => h name backEdge (.items hname)) ("Vec" :: around)
    exact hitems.applied (by decide) rfl
  | named name backEdge =>
    have hname := isPath_of_legal (h name backEdge .self)
    cases backEdge with
    | false => exact readsUses_path hname around
    | true => exact (readsUses_path hname ("Box" :: around)).applied (by decide) rfl
  | any => exact hbuiltin _ (by decide) around

/-- **Types are read off their texts.** -/
theorem uses_typeText {type : TypeRef} (h : Analysis.LegalUse type) : uses (typeText type) = typeUses [] type :=
  uses_of_readsUses (readsUses_typeText h [])

/-- An option uses what its type uses. -/
theorem uses_option {type : TypeRef} (h : Analysis.LegalUse type) :
    uses ("Option<" ++ typeText type ++ ">") = ⟨"Option", []⟩ :: typeUses ["Option"] type :=
  uses_of_readsUses ((readsUses_typeText h ["Option"]).applied (by decide) rfl)

/-- **A declared name in a type** is used by the type, in a box if it is a back edge. -/
theorem within_of_mem_typeUses {type : TypeRef} {around : List String} {use : Use}
    (h : use ∈ typeUses around type) (hlegal : Legal use.path) :
    ∃ backEdge, TypeRef.Within (.named use.path backEdge) type ∧ (backEdge = true → "Box" ∈ use.around) := by
  -- every other name stands for a type of the language
  have hother {name : String} {around : List String} (heq : use = ⟨name, around⟩)
      (hmem : name ∈ builtinPaths) : False := by
    rw [heq] at hlegal
    exact not_mem_builtinPaths hlegal hmem
  induction type generalizing around with
  | primitive type =>
    cases type with
    | object =>
      rcases List.mem_cons.1 h with heq | h
      · exact (hother heq (by decide)).elim
      · rcases List.mem_cons.1 h with heq | h
        · exact (hother heq (by decide)).elim
        · exact (hother (List.mem_singleton.1 h) (by decide)).elim
    | _ => exact (hother (List.mem_singleton.1 h) (by decide)).elim
  | array items ih =>
    rcases List.mem_cons.1 h with heq | h
    · exact (hother heq (by decide)).elim
    · obtain ⟨backEdge, hwithin, hbox⟩ := ih h
      exact ⟨backEdge, .items hwithin, hbox⟩
  | named name backEdge =>
    cases backEdge with
    | false =>
      obtain rfl := List.mem_singleton.1 h
      exact ⟨false, .self, nofun⟩
    | true =>
      rcases List.mem_cons.1 h with heq | h
      · exact (hother heq (by decide)).elim
      · obtain rfl := List.mem_singleton.1 h
        exact ⟨true, .self, fun _ => List.mem_cons_self⟩
  | any => exact (hother (List.mem_singleton.1 h) (by decide)).elim

theorem exists_use_of_within {type : TypeRef} {name : String} {backEdge : Bool}
    (h : TypeRef.Within (.named name backEdge) type) (around : List String) :
    ∃ use ∈ typeUses around type, use.path = name := by
  induction h generalizing around with
  | self =>
    cases backEdge with
    | false => exact ⟨_, List.mem_singleton_self _, rfl⟩
    | true => exact ⟨_, List.mem_cons_of_mem _ (List.mem_singleton_self _), rfl⟩
  | items h ih =>
    obtain ⟨use, huse, hpath⟩ := ih ("Vec" :: around)
    exact ⟨use, List.mem_cons_of_mem _ huse, hpath⟩

/-! ### Declarations as they are written -/

/-- A variant of a union as it is written. -/
structure HolderText where
  /-- The name. -/
  name : String
  /-- The type that it holds, if it holds anything. -/
  type : Option String

/-- The line of a variant. -/
def HolderText.line (text : HolderText) : String :=
  match text.type with
  | some type => "    " ++ text.name ++ "(" ++ type ++ "),"
  | none => "    " ++ text.name ++ ","

/-- What a name is declared as. -/
inductive BodyText where
  /-- A struct of fields. -/
  | struct (fields : List FieldText)
  /-- An enum of texts. -/
  | texts (variants : List VariantText)
  /-- An enum of types. -/
  | union (variants : List HolderText)
  /-- Another name for a type. -/
  | synonym (type : String)

/-- A declaration as it is written. -/
structure DeclarationText where
  /-- The name. -/
  name : String
  /-- What the schema says about it. -/
  description : String
  /-- What it is declared as. -/
  body : BodyText

namespace DeclarationText

/-- The lines of a declaration. -/
def lines (text : DeclarationText) : List String :=
  let header := linesIf text.description ["/// " ++ text.description]
  match text.body with
  | .struct fields =>
    header ++ ["#[derive(Serialize, Deserialize, Clone, Debug, PartialEq)]",
      "pub struct " ++ text.name ++ " \x7b"] ++ fields.flatMap FieldText.lines ++ ["\x7d"]
  | .texts variants =>
    header ++ ["#[derive(Serialize, Deserialize, Clone, Debug, PartialEq, Eq, Hash)]",
      "pub enum " ++ text.name ++ " \x7b"] ++ variants.flatMap VariantText.lines ++ ["\x7d"]
  | .union variants =>
    header ++ ["#[derive(Serialize, Deserialize, Clone, Debug, PartialEq)]", "#[serde(untagged)]",
      "pub enum " ++ text.name ++ " \x7b"] ++ variants.map HolderText.line ++ ["\x7d"]
  | .synonym type => header ++ ["pub type " ++ text.name ++ " = " ++ type ++ ";"]

/-- The types in a declaration. -/
def types (text : DeclarationText) : List String :=
  match text.body with
  | .struct fields => fields.map FieldText.type
  | .texts _ => []
  | .union variants => variants.filterMap HolderText.type
  | .synonym type => [type]

end DeclarationText

/-- **How a variant is written**: it is named after the type that it holds, up to a counter, and holds nothing
if that is `null`. -/
inductive HolderText.Writes : HolderText → TypeRef → Prop where
  | null {taken : List String} : Writes ⟨fresh taken "Null", none⟩ (.primitive .null)
  | holder {type : TypeRef} {base : String} {taken : List String} (hnull : type ≠ .primitive .null)
      (hbase : holderName type = .ok base) : Writes ⟨fresh taken base, some (typeText type)⟩ type

/-- **How a declaration is written**: part by part. -/
inductive DeclarationText.Writes : DeclarationText → Declaration → Prop where
  | object {name description : String} {texts : List FieldText} {fields : List Field}
      (hfields : List.Forall₂ FieldText.Keeps texts fields) :
      Writes ⟨name, description, .struct texts⟩ ⟨name, description, .object fields⟩
  | texts {name description : String} {values : List Json} {value : String} {rest : List String}
      (htexts : texts? values = some (value :: rest)) :
      Writes ⟨name, description, .texts (variantTexts 0 [] (value :: rest))⟩
        ⟨name, description, .enum values⟩
  | values {name description : String} {values : List Json}
      (htexts : ∀ value rest, texts? values ≠ some (value :: rest)) :
      Writes ⟨name, description, .synonym "serde_json::Value"⟩ ⟨name, description, .enum values⟩
  | union {name description : String} {texts : List HolderText} {variants : List TypeRef}
      (hvariants : List.Forall₂ HolderText.Writes texts variants) :
      Writes ⟨name, description, .union texts⟩ ⟨name, description, .union variants⟩
  | synonym {name description : String} {type : TypeRef} :
      Writes ⟨name, description, .synonym (typeText type)⟩ ⟨name, description, .alias type⟩

/-- Fields are written only for properties that are named by texts. -/
theorem texts_of_fieldLines {fields : List Field} {taken lines : List String}
    (h : fieldLines taken fields = .ok lines) : ∀ field ∈ fields, ∃ name, field.name = .text name := by
  induction fields generalizing taken lines with
  | nil => exact nofun
  | cons field rest ih =>
    unfold fieldLines at h
    obtain ⟨source, -, h⟩ := bind_eq_ok h
    obtain ⟨name, hname, h⟩ := bind_eq_ok h
    obtain ⟨others, hothers, -⟩ := bind_eq_ok h
    refine List.forall_mem_cons.2 ⟨?_, ih hothers⟩
    cases hfield : field.name with
    | text name => exact ⟨name, rfl⟩
    | scalar value =>
      rw [hfield] at hname
      cases hname

/-- The field for a property keeps what has to be kept of it. -/
theorem keeps_fieldText (base : String) {name : String} {field : Field} (hname : field.name = .text name) :
    (fieldText base name field).Keeps field where
  name := by
    rw [jsonName?_fieldText, hname]
    rfl
  type := rfl
  optional := rfl
  description := rfl

/-- **The variants of a union**, one for each type. -/
theorem texts_of_unionLines {variants : List TypeRef} {taken lines : List String}
    (h : unionLines taken variants = .ok lines) :
    ∃ texts : List HolderText, lines = texts.map HolderText.line ∧
      List.Forall₂ HolderText.Writes texts variants := by
  induction variants generalizing taken lines with
  | nil =>
    obtain rfl := Except.ok.inj h
    exact ⟨[], rfl, .nil⟩
  | cons type rest ih =>
    by_cases hnull : type = .primitive .null
    · subst hnull
      rw [unionLines] at h
      obtain ⟨others, hothers, h⟩ := bind_eq_ok h
      obtain rfl := Except.ok.inj h
      obtain ⟨texts, rfl, hwrites⟩ := ih hothers
      exact ⟨_ :: texts, rfl, .cons .null hwrites⟩
    · rw [unionLines_cons hnull] at h
      obtain ⟨base, hbase, h⟩ := bind_eq_ok h
      obtain ⟨others, hothers, h⟩ := bind_eq_ok h
      obtain rfl := Except.ok.inj h
      obtain ⟨texts, rfl, hwrites⟩ := ih hothers
      exact ⟨_ :: texts, rfl, .cons (.holder hnull hbase) hwrites⟩

/-- **The text of a declaration.** -/
theorem text_of_block {declaration : Declaration} {lines : List String}
    (h : block declaration = .ok lines) :
    ∃ text : DeclarationText, text.lines = lines ∧ text.Writes declaration := by
  obtain ⟨name, description, shape⟩ := declaration
  unfold block at h
  cases shape with
  | object fields =>
    obtain ⟨written, hlines, h⟩ := bind_eq_ok h
    obtain rfl := Except.ok.inj h
    obtain ⟨texts, bases, hwritten, hfields, -⟩ := exists_fieldTexts (texts_of_fieldLines hlines) []
    obtain rfl := Except.ok.inj (hlines.symm.trans hwritten)
    refine ⟨⟨name, description, .struct texts⟩, rfl, .object (hfields.flip.imp fun text field hfield => ?_)⟩
    obtain ⟨base, own, hname, rfl⟩ := hfield
    exact keeps_fieldText base hname
  | enum values =>
    simp only at h
    split at h
    · next value rest htexts =>
      obtain rfl := Except.ok.inj h
      refine ⟨⟨name, description, .texts (variantTexts 0 [] (value :: rest))⟩, ?_, .texts htexts⟩
      rw [variantLines_eq]
      rfl
    · next hno =>
      obtain rfl := Except.ok.inj h
      exact ⟨⟨name, description, .synonym "serde_json::Value"⟩, rfl, .values hno⟩
  | union variants =>
    obtain ⟨written, hlines, h⟩ := bind_eq_ok h
    obtain rfl := Except.ok.inj h
    obtain ⟨texts, rfl, hwrites⟩ := texts_of_unionLines hlines
    exact ⟨⟨name, description, .union texts⟩, rfl, .union hwrites⟩
  | «alias» type =>
    obtain rfl := Except.ok.inj h
    exact ⟨⟨name, description, .synonym (typeText type)⟩, rfl, .synonym⟩

theorem texts_of_blocks {catalog : Catalog} {blocks : List (List String)}
    (h : List.Forall₂ (fun declaration lines => block declaration = .ok lines) catalog blocks) :
    ∃ texts : List DeclarationText, texts.map DeclarationText.lines = blocks ∧
      List.Forall₂ DeclarationText.Writes texts catalog := by
  induction h with
  | nil => exact ⟨[], rfl, .nil⟩
  | cons hblock _ ih =>
    obtain ⟨text, rfl, hwrites⟩ := text_of_block hblock
    obtain ⟨texts, rfl, hall⟩ := ih
    exact ⟨text :: texts, rfl, .cons hwrites hall⟩

/-- **A Rust source is written declaration by declaration.** -/
theorem texts_of_render {catalog : Catalog} {source : String} (h : render catalog = .ok source) :
    ∃ texts : List DeclarationText,
      source = assemble (["// " ++ notice, "", "use serde::\x7bDeserialize, Serialize\x7d;"] ::
        texts.map DeclarationText.lines) ∧
      List.Forall₂ DeclarationText.Writes texts catalog := by
  unfold render at h
  obtain ⟨blocks, hblocks, h⟩ := bind_eq_ok h
  obtain rfl := Except.ok.inj h
  obtain ⟨texts, rfl, hwrites⟩ := texts_of_blocks (mapM_eq_ok_iff.1 hblocks)
  exact ⟨texts, rfl, hwrites⟩

/-! ### What declarations refer to -/

namespace DeclarationText

variable {text : DeclarationText} {declaration : Declaration} (h : text.Writes declaration)

include h

theorem Writes.name_eq : text.name = declaration.name := by
  cases h <;> rfl

variable (hlegal : ∀ use ∈ declaration.shape.types, Analysis.LegalUse use)

include hlegal

/-- **A declared name in the text of a declaration** is mentioned by the declaration, and in a box if it is
a back edge. -/
theorem Writes.mentions {type : String} (htype : type ∈ text.types) {use : Use} (huse : use ∈ uses type)
    (hpath : Legal use.path) : ∃ backEdge, declaration.Mentions (.named use.path backEdge) ∧
      (backEdge = true → "Box" ∈ use.around) := by
  -- what is used by a type of the declaration is mentioned
  have hmentions {part : TypeRef} {around : List String} (hpart : part ∈ declaration.shape.types)
      (hmem : use ∈ typeUses around part) : ∃ backEdge, declaration.Mentions (.named use.path backEdge) ∧
        (backEdge = true → "Box" ∈ use.around) := by
    obtain ⟨backEdge, hwithin, hbox⟩ := within_of_mem_typeUses hmem hpath
    exact ⟨backEdge, ⟨part, hpart, hwithin⟩, hbox⟩
  cases h with
  | object hfields =>
    obtain ⟨field, hfield, rfl⟩ := List.mem_map.1 htype
    obtain ⟨property, hproperty, hkeeps⟩ := exists_of_forall₂ hfields field hfield
    have hpart : property.type ∈ Shape.types (.object _) := List.mem_map_of_mem hproperty
    rw [hkeeps.type] at huse
    cases hrequired : property.required with
    | true =>
      rw [hrequired, if_pos rfl, uses_typeText (hlegal _ hpart)] at huse
      exact hmentions hpart huse
    | false =>
      rw [hrequired, if_neg nofun, uses_option (hlegal _ hpart)] at huse
      rcases List.mem_cons.1 huse with rfl | huse
      · exact absurd (by decide) (not_mem_builtinPaths hpath)
      · exact hmentions hpart huse
  | texts => cases htype
  | values =>
    obtain rfl := List.mem_singleton.1 htype
    have hany : uses (typeText .any) = typeUses [] .any := uses_typeText fun _ _ hname => by cases hname
    obtain rfl := List.mem_singleton.1 (hany ▸ huse)
    exact absurd (by decide) (not_mem_builtinPaths hpath)
  | union hvariants =>
    obtain ⟨variant, hvariant, hholds⟩ := List.mem_filterMap.1 htype
    obtain ⟨part, hpart, hwrites⟩ := exists_of_forall₂ hvariants variant hvariant
    cases hwrites with
    | null => cases hholds
    | holder =>
      obtain rfl := Option.some.inj hholds
      rw [uses_typeText (hlegal part hpart)] at huse
      exact hmentions hpart huse
  | @synonym _ _ part =>
    obtain rfl := List.mem_singleton.1 htype
    have hpart : part ∈ Shape.types (.alias part) := List.mem_singleton_self _
    rw [uses_typeText (hlegal _ hpart)] at huse
    exact hmentions hpart huse

/-- A synonym that uses a declared name is that of an alias. -/
theorem Writes.isAlias {type : String} (hbody : text.body = .synonym type) {use : Use}
    (huse : use ∈ uses type) (hpath : Legal use.path) :
    declaration.IsAlias ∧ ∃ backEdge, declaration.Mentions (.named use.path backEdge) := by
  have htype : type ∈ text.types := by
    unfold types
    rw [hbody]
    exact List.mem_singleton_self _
  obtain ⟨backEdge, hmentions, -⟩ := h.mentions hlegal htype huse hpath
  refine ⟨?_, backEdge, hmentions⟩
  cases h with
  | values =>
    obtain ⟨part, hpart, -⟩ := hmentions
    cases hpart
  | synonym => exact ⟨_, rfl⟩
  | _ => cases hbody

/-- What an alias mentions is used by the type that it stands for. -/
theorem Writes.exists_use {name : String} {backEdge : Bool} (halias : declaration.IsAlias)
    (hname : declaration.Mentions (.named name backEdge)) :
    ∃ type, text.body = .synonym type ∧ ∃ use ∈ uses type, use.path = name := by
  cases h with
  | @synonym _ _ part =>
    have hpart : part ∈ Shape.types (.alias part) := List.mem_singleton_self _
    obtain ⟨use, huse, hpath⟩ := exists_use_of_within (Declaration.mentions_alias_iff.1 hname) []
    exact ⟨_, rfl, use, (uses_typeText (hlegal _ hpart)).symm ▸ huse, hpath⟩
  | _ =>
    obtain ⟨_, hshape⟩ := halias
    cases hshape

end DeclarationText

/-! ### Circles -/

/-- **A declaration has a value of another one in it**, as far as boxes do not hide that. -/
def Holds (texts : List DeclarationText) (name target : String) : Prop :=
  ∃ text ∈ texts, text.name = name ∧
    ∃ type ∈ text.types, ∃ use ∈ uses type, use.path = target ∧ "Box" ∉ use.around

/-- **An alias stands for a type with this name in it**, boxed or not. -/
def Unfolds (texts : List DeclarationText) (name target : String) : Prop :=
  ∃ text ∈ texts, text.name = name ∧
    ∃ type, text.body = .synonym type ∧ ∃ use ∈ uses type, use.path = target

/-- **An alias refers back** to this name. -/
def RefersBack (catalog : Catalog) (name target : String) : Prop :=
  ∃ declaration ∈ catalog, declaration.name = name ∧ declaration.IsAlias ∧
    declaration.Mentions (.named target true)

/-- On a circle there is a step behind each step. -/
theorem transGen_of_circle {α : Type} {r s : α → α → Prop} (h : ∀ a b c, r a b → r b c → s a b) {a : α}
    (hcircle : Relation.TransGen r a a) : Relation.TransGen s a a := by
  have hpath {b : α} (hsteps : Relation.TransGen r a b) : (∃ c, r b c) → Relation.TransGen s a b := by
    induction hsteps with
    | single hstep =>
      rintro ⟨c, hnext⟩
      exact .single (h _ _ c hstep hnext)
    | tail _ hstep ih =>
      rintro ⟨c, hnext⟩
      exact (ih ⟨_, hstep⟩).tail (h _ _ c hstep hnext)
  obtain ⟨b, hfirst, -⟩ := Relation.TransGen.head'_iff.1 hcircle
  exact hpath hcircle ⟨b, hfirst⟩

/-- In a catalog in order, what is referred to has an earlier name. -/
theorem idxOf_lt {catalog : Catalog} (hordered : catalog.Ordered)
    (hnodup : (catalog.map Declaration.name).Nodup) {declaration : Declaration} (hmem : declaration ∈ catalog)
    {name : String} (hname : declaration.Mentions (.named name false)) :
    (catalog.map Declaration.name).idxOf name < (catalog.map Declaration.name).idxOf declaration.name := by
  have hplace {i : Nat} {declaration : Declaration} (hi : catalog[i]? = some declaration) :
      (catalog.map Declaration.name).idxOf declaration.name = i := by
    obtain ⟨hlt, rfl⟩ := List.getElem?_eq_some_iff.1 hi
    have hidx := hnodup.idxOf_getElem i (by simpa using hlt)
    rwa [List.getElem_map] at hidx
  obtain ⟨i, hi⟩ := List.getElem?_of_mem hmem
  obtain ⟨j, hlt, target, hj, rfl⟩ := hordered.exists_lt hi hname
  rw [hplace hi, hplace hj]
  exact hlt

section Circles

variable {catalog : Catalog} {texts : List DeclarationText}
  (hwrites : List.Forall₂ DeclarationText.Writes texts catalog)
  (hlegible : ∀ declaration ∈ catalog, Legible declaration)

include hwrites hlegible

/-- The names of texts are those of declarations. -/
theorem legal_of_mem {text : DeclarationText} (h : text ∈ texts) : Legal text.name := by
  obtain ⟨declaration, hmem, htext⟩ := exists_of_forall₂ hwrites text h
  rw [htext.name_eq]
  exact (hlegible declaration hmem).name

/-- **Every circle goes through a box.** -/
theorem not_transGen_holds (hordered : catalog.Ordered) (hnodup : (catalog.map Declaration.name).Nodup)
    (name : String) : ¬ Relation.TransGen (Holds texts) name name := by
  intro hcircle
  let place := (catalog.map Declaration.name).idxOf
  have hstep (name target next : String) (h : Holds texts name target) (h' : Holds texts target next) :
      place target < place name := by
    obtain ⟨text, htext, rfl, type, htype, use, huse, rfl, hbox⟩ := h
    obtain ⟨other, hother, hname, -⟩ := h'
    obtain ⟨declaration, hmem, hwritten⟩ := exists_of_forall₂ hwrites text htext
    have hlegal : Legal use.path := hname ▸ legal_of_mem hwrites hlegible hother
    obtain ⟨backEdge, hmentions, hboxed⟩ :=
      hwritten.mentions (hlegible declaration hmem).uses htype huse hlegal
    rw [hwritten.name_eq]
    cases backEdge with
    | false => exact idxOf_lt hordered hnodup hmem hmentions
    | true => exact absurd (hboxed rfl) hbox
  have hlt {target : String} (h : Relation.TransGen (fun a b => place b < place a) name target) :
      place target < place name := by
    induction h with
    | single h => exact h
    | tail _ h ih => exact h.trans ih
  exact lt_irrefl _ (hlt (transGen_of_circle hstep hcircle))

/-- **The circles of aliases are those of their back edges.** No alias that refers to something is referred to
by an alias without a back edge. -/
theorem transGen_unfolds_iff
    (haliases : ∀ declaration ∈ catalog, declaration.IsAlias → ∀ target ∈ catalog, target.IsAlias →
      declaration.Mentions (.named target.name false) → ∀ name backEdge, ¬ target.Mentions (.named name backEdge))
    (name : String) :
    Relation.TransGen (Unfolds texts) name name ↔ Relation.TransGen (RefersBack catalog) name name := by
  -- where the name in an alias is a declared one, the alias is one of the catalog
  have hdeclared {name target next : String} (h : Unfolds texts name target) (h' : Unfolds texts target next) :
      ∃ declaration ∈ catalog, declaration.name = name ∧ declaration.IsAlias ∧
        ∃ backEdge, declaration.Mentions (.named target backEdge) := by
    obtain ⟨text, htext, rfl, type, hbody, use, huse, rfl⟩ := h
    obtain ⟨other, hother, hname, -⟩ := h'
    obtain ⟨declaration, hmem, hwritten⟩ := exists_of_forall₂ hwrites text htext
    have hlegal : Legal use.path := hname ▸ legal_of_mem hwrites hlegible hother
    obtain ⟨halias, hmentions⟩ := hwritten.isAlias (hlegible declaration hmem).uses hbody huse hlegal
    exact ⟨declaration, hmem, hwritten.name_eq.symm, halias, hmentions⟩
  constructor
  · intro hcircle
    -- two more steps tell that the target is an alias that refers to something
    have hnext : Relation.TransGen (fun a b => Unfolds texts a b ∧ ∃ c, Unfolds texts b c) name name :=
      transGen_of_circle (fun a b c h h' => ⟨h, c, h'⟩) hcircle
    refine transGen_of_circle (fun a b c h h' => ?_) hnext
    obtain ⟨declaration, hmem, hname, halias, backEdge, hmentions⟩ := hdeclared h.1 h'.1
    obtain ⟨d, hd⟩ := h'.2
    obtain ⟨target, htarget, rfl, hother, flag, hrefers⟩ := hdeclared h'.1 hd
    cases backEdge with
    | true => exact ⟨declaration, hmem, hname, halias, hmentions⟩
    | false => exact absurd hrefers (haliases declaration hmem halias target htarget hother hmentions _ _)
  · refine Relation.TransGen.mono ?_ name name
    rintro name target ⟨declaration, hmem, rfl, halias, hmentions⟩
    obtain ⟨text, htext, hwritten⟩ := exists_of_forall₂ hwrites.flip declaration hmem
    obtain ⟨type, hbody, use, huse, hpath⟩ :=
      hwritten.exists_use (hlegible declaration hmem).uses halias hmentions
    exact ⟨text, htext, hwritten.name_eq, type, hbody, use, huse, hpath⟩

end Circles

/-- **References between the declarations of a Rust source.** What is rendered for an analysis is a source of
declarations that are written part by part. Each circle of references between them goes through a box, so
none of them has a value of itself in it. Circles through aliases alone are those of back edges from aliases
to aliases, and they are there as soon as these are. Every alias is made for an entry of the agenda, named by
the title of it, and refers back to the names that it spells: those of back edges which are left of it when
lists are entered and every `allOf` is folded, by the titles of these. -/
theorem references_of_render {schemas : List Json} {catalog : Catalog} {source : String}
    (h : Analysis.analyze schemas = .ok catalog) (hsource : render catalog = .ok source) :
    ∃ texts : List DeclarationText,
      source = assemble (["// " ++ notice, "", "use serde::\x7bDeserialize, Serialize\x7d;"] ::
        texts.map DeclarationText.lines) ∧
      List.Forall₂ DeclarationText.Writes texts catalog ∧
      (∀ name, ¬ Relation.TransGen (Holds texts) name name) ∧
      (∀ name, Relation.TransGen (Unfolds texts) name name ↔
        Relation.TransGen (RefersBack catalog) name name) ∧
      ∀ declaration ∈ catalog, declaration.IsAlias →
        ∃ entry ∈ Analysis.agenda schemas, Analysis.AliasOf entry declaration := by
  obtain ⟨texts, hsource, hwrites⟩ := texts_of_render hsource
  obtain ⟨hnodup, hlegible⟩ := legible_of_analyze h
  obtain ⟨hmade, hrests⟩ := Analysis.aliases_of_analyze h
  have hordered := Analysis.ordered_of_analyze h
  exact ⟨texts, hsource, hwrites, not_transGen_holds hwrites hlegible hordered hnodup,
    transGen_unfolds_iff hwrites hlegible hrests, hmade⟩

/-! ### A list of itself -/

section Ring

open Analysis

/-- `{"title": "A", "type": "array", "items": {"$ref": "#"}}`. -/
def ring : Json :=
  .obj [("title", .str "A"), ("type", .str "array"), ("items", .obj [("$ref", .str "#")])]

/-- The members of the schema once it is dereferenced. -/
def ringMembers : Members :=
  [("title", .str "A"), ("type", .str "array"),
    ("items", .obj [("$ref", .str "#"), ("title", .str "A")])]

/-- Its catalog, an alias for lists of itself. -/
def ringCatalog : Catalog :=
  [⟨"A", "", .alias (.array (.named "A" true))⟩]

/-- Its source. -/
def ringSource : String :=
  "// Code generated by json_schema_release. DO NOT EDIT.\n\nuse serde::\x7bDeserialize, Serialize\x7d;\n\n" ++
    "pub type A = Vec<Box<A>>;\n"

theorem analyze_ring : analyze [.obj ringMembers] = .ok ringCatalog := by
  have hbase (hint : Json) : baseName (.str "A") hint = .ok "A" := by
    unfold baseName
    simp only [show Name.ofType "A" = "A" by decide +kernel]
    rfl
  -- nothing is being built around the items, so their title names the back edge
  have hitems (hint : Json) : typeRef (.obj [("$ref", .str "#"), ("title", .str "A")]) hint {} =
      .ok (.named "A" true, {}) := by
    rw [typeRef, schemaRef_ref rfl]
    exact bind_of_ok (backEdgeName_of_none (List.forall_mem_nil _) (hbase _))
  have hlist : typeRef (.obj ringMembers) (.str "A") {} = .ok (.array (.named "A" true), {}) := by
    have hopen : IsOpen ⟨ringMembers, none⟩ := ⟨fun ref h => (by cases h), rfl, rfl⟩
    rw [typeRef, schemaRef_open hopen]
    change plainRef _ _ (.str "array") _ = _
    rw [plainRef_eq]
    exact bind_of_ok (hitems _)
  obtain ⟨key, hkey⟩ : ∃ key, Schema.structureText ⟨ringMembers, none⟩ = .ok key := ⟨_, rfl⟩
  have hdefine : define (.obj ringMembers) (.str "A") {} =
      .ok ((), ⟨ringCatalog, ["A"], [(key, "A")], []⟩) := by
    unfold define
    rw [bind_of_ok hlist]
    simp only
    rw [bind_of_ok (orCrash_of_ok hkey)]
    rw [bind_of_ok (nameOf?_of_lookup (by rfl : _ = none))]
    exact bind_of_ok (reserve_of_base (hbase _) _)
  unfold analyze
  change ((define (.obj ringMembers) (.str "A") >>= fun _ => pure ()) >>= fun _ =>
    defineRest [.obj ringMembers]) {} >>= _ = _
  rw [bind_of_ok (bind_of_ok hdefine)]
  rfl

theorem render_ring : render ringCatalog = .ok ringSource := by
  have htext : (render ringCatalog).toOption = some ringSource := by decide +kernel
  exact Json.eq_ok_of_toOption htext

/-- The alias for lists of itself stands for a type with itself in it. -/
theorem references_of_render_ring :
    (Library.alone ring).dereference = .ok (.obj ringMembers) ∧
    analyze [.obj ringMembers] = .ok ringCatalog ∧ render ringCatalog = .ok ringSource ∧
    ∃ texts : List DeclarationText,
      ringSource = assemble (["// " ++ notice, "", "use serde::\x7bDeserialize, Serialize\x7d;"] ::
        texts.map DeclarationText.lines) ∧
      List.Forall₂ DeclarationText.Writes texts ringCatalog ∧
      (∀ name, ¬ Relation.TransGen (Holds texts) name name) ∧
      Relation.TransGen (Unfolds texts) "A" "A" := by
  obtain ⟨texts, hsource, hwrites, hboxed, hunfolds, -⟩ := references_of_render analyze_ring render_ring
  have hback : RefersBack ringCatalog "A" "A" :=
    ⟨_, List.mem_singleton_self _, rfl, ⟨_, rfl⟩, Declaration.mentions_alias_iff.2 (.items .self)⟩
  exact ⟨by cbv, analyze_ring, render_ring, texts, hsource, hwrites, hboxed, (hunfolds "A").2 (.single hback)⟩

end Ring

end SchemaPress.Source.Rust
