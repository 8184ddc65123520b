import SchemaPress.Proofs.Json.Lines
import SchemaPress.Proofs.Release.Embedding
import SchemaPress.Proofs.Source.GoFields
import SchemaPress.Proofs.Source.Lines
import SchemaPress.Release.Emission

/-!
# Identifiers of Go sources

A Go file declares three kinds of identifiers for its package: the constant that holds the raw schema, the
types, and the constants of the enums. What a file declares is read off its lines (`identifiers`).

Each kind is apart in itself. Types have the names of the catalog, and the constants of all enums are made
one after the other, each apart from those before it. But nothing is done about different kinds: all of
these names are words put together, and a constant that is made of the name of a type and a value may well be
the name of another type, or the name of the raw constant. `nodup_identifiers_iff` says that this is all that
can happen.
-/

namespace SchemaPress.Source.Go

open Name

/-! ### What lines declare -/

/-- The identifier at the front of a line. -/
def identifierAt (line : List Char) : String :=
  String.ofList (line.takeWhile fun c => c.isAlphanum || c == '_')

/-- **The identifiers that lines declare for a package**: one for each type, one for each constant that stands
alone, and those of each list of constants. The flag tells whether the first line is in such a list. -/
def declared : Bool → List (List Char) → List String
  | _, [] => []
  | true, [')'] :: rest => declared false rest
  | true, ('\t' :: constant) :: rest => identifierAt constant :: declared true rest
  | true, _ :: rest => declared true rest
  | false, ('t' :: 'y' :: 'p' :: 'e' :: ' ' :: type) :: rest => identifierAt type :: declared false rest
  | false, ['c', 'o', 'n', 's', 't', ' ', '('] :: rest => declared true rest
  | false, ('c' :: 'o' :: 'n' :: 's' :: 't' :: ' ' :: constant) :: rest =>
    identifierAt constant :: declared false rest
  | false, _ :: rest => declared false rest

/-- The identifiers that a file declares for its package. -/
def identifiers (file : String) : List String :=
  declared false (Text.pieces '\n' file.toList)

theorem identifierAt_append {name : String} (h : IsPlain name.toList) (rest : List Char) :
    identifierAt (name.toList ++ ' ' :: rest) = name := by
  have hname : ∀ c ∈ name.toList, (c.isAlphanum || c == '_') = true := by
    intro c hc
    rcases h c hc with halnum | heq
    · rw [halnum, Bool.true_or]
    · rw [heq]
      rfl
  unfold identifierAt
  rw [List.takeWhile_append_of_pos hname]
  simp [String.ofList_toList]

/-- A line that declares nothing for the package, by its first character. -/
def IsSilent (line : String) : Prop :=
  ∃ c rest, line.toList = c :: rest ∧ c ≠ 't' ∧ c ≠ 'c'

theorem IsSilent.append {line : String} (h : IsSilent line) (other : String) : IsSilent (line ++ other) := by
  obtain ⟨c, rest, hchars, hc⟩ := h
  refine ⟨c, rest ++ other.toList, ?_, hc⟩
  rw [String.toList_append, hchars]
  rfl

theorem declared_silent {lines : List String} (h : ∀ line ∈ lines, IsSilent line)
    (rest : List (List Char)) :
    declared false (lines.map String.toList ++ rest) = declared false rest := by
  induction lines with
  | nil => rfl
  | cons line others ih =>
    obtain ⟨c, chars, hchars, htype, hconst⟩ := h line List.mem_cons_self
    rw [List.map_cons, List.cons_append, hchars, declared]
    · exact ih fun other hother => h other (List.mem_cons_of_mem _ hother)
    · exact fun type heq => htype (List.cons.inj heq).1
    · exact fun heq => hconst (List.cons.inj heq).1
    · exact fun constant heq => hconst (List.cons.inj heq).1

theorem declared_type {name : String} (h : IsPlain name.toList) (type : String) (rest : List (List Char)) :
    declared false (("type " ++ name ++ " " ++ type).toList :: rest) = name :: declared false rest := by
  have hline : ("type " ++ name ++ " " ++ type).toList =
      't' :: 'y' :: 'p' :: 'e' :: ' ' :: (name.toList ++ ' ' :: type.toList) := by
    simp only [String.toList_append, List.append_assoc]
    rfl
  rw [hline]
  change identifierAt (name.toList ++ ' ' :: type.toList) :: declared false rest = _
  rw [identifierAt_append h]

theorem declared_constant {name : String} (h : IsPlain name.toList) (value : String)
    (rest : List (List Char)) :
    declared false (("const " ++ name ++ " = " ++ value).toList :: rest) = name :: declared false rest := by
  have hline : ("const " ++ name ++ " = " ++ value).toList =
      'c' :: 'o' :: 'n' :: 's' :: 't' :: ' ' :: (name.toList ++ ' ' :: ('=' :: ' ' :: value.toList)) := by
    simp only [String.toList_append, List.append_assoc]
    rfl
  rw [hline, declared, identifierAt_append h]
  -- behind the keyword there is more than the mark of a list
  intro heq
  have hlength := congrArg List.length heq
  simp only [List.length_cons, List.length_append, List.length_nil] at hlength
  omega

/-- A list of constants, and what is behind it. -/
theorem declared_constants {texts : List ConstantText}
    (h : ∀ text ∈ texts, IsPlain text.identifier.toList) (rest : List (List Char)) :
    declared true ((texts.map ConstantText.line).map String.toList ++ [')'] :: rest) =
      texts.map ConstantText.identifier ++ declared false rest := by
  induction texts with
  | nil => rfl
  | cons text others ih =>
    have hline : text.line.toList =
        '\t' :: (text.identifier.toList ++ ' ' :: (text.type ++ " = " ++ text.literal).toList) := by
      unfold ConstantText.line
      simp only [String.toList_append, List.append_assoc]
      rfl
    have hothers := ih fun other hother => h other (List.mem_cons_of_mem _ hother)
    rw [List.map_cons, List.map_cons, List.map_cons, hline, List.cons_append]
    change identifierAt (text.identifier.toList ++ ' ' :: _) :: declared true _ = _
    rw [identifierAt_append (h text List.mem_cons_self), hothers]
    rfl

/-! ### What declarations declare -/

/-- The identifiers of a declaration: its name and its constants. -/
def DeclarationText.identifiers (text : DeclarationText) : List String :=
  text.name :: text.constants.map ConstantText.identifier

/-- Descriptions and fields declare nothing for the package. -/
theorem isSilent_fields {fields : List FieldText} :
    ∀ line ∈ fields.flatMap FieldText.lines, IsSilent line := by
  intro line hline
  obtain ⟨field, -, hline⟩ := List.mem_flatMap.1 hline
  have htab : IsSilent "\t" := ⟨'\t', [], rfl, by decide, by decide⟩
  rcases List.mem_append.1 hline with hline | hline
  · have hcomment : IsSilent "\t// " := ⟨'\t', ['/', '/', ' '], rfl, by decide, by decide⟩
    exact forall_mem_linesIf (List.forall_mem_singleton.2 (hcomment.append _)) line hline
  · obtain rfl := List.mem_singleton.1 hline
    exact ((((htab.append _).append _).append _).append _).append _

/-- **The lines of a declaration declare its identifiers**, whatever is behind them. -/
theorem declared_lines {text : DeclarationText} (hname : IsPlain text.name.toList)
    (hconstants : ∀ constant ∈ text.constants, IsPlain constant.identifier.toList)
    (rest : List (List Char)) :
    declared false (text.lines.map String.toList ++ rest) = text.identifiers ++ declared false rest := by
  -- in front of everything else, the name is declared
  have hdefined (type : String) (lines : List String) :
      declared false ((text.defined type ++ lines).map String.toList ++ rest) =
        text.name :: declared false (lines.map String.toList ++ rest) := by
    have hheader : ∀ line ∈ linesIf text.description ["// " ++ text.name ++ " " ++ text.description],
        IsSilent line := by
      have hcomment : IsSilent "// " := ⟨'/', ['/', ' '], rfl, by decide, by decide⟩
      exact forall_mem_linesIf
        (List.forall_mem_singleton.2 (((hcomment.append _).append _).append _))
    unfold DeclarationText.defined
    rw [List.append_assoc, List.map_append, List.append_assoc, declared_silent hheader]
    exact declared_type hname type _
  unfold DeclarationText.lines DeclarationText.identifiers
  unfold DeclarationText.constants at hconstants ⊢
  cases hbody : text.body with
  | struct fields =>
    simp only
    have hclose : IsSilent "\x7d" := ⟨'\x7d', [], rfl, by decide, by decide⟩
    -- fields begin with a tab, and outside a list of constants this declares nothing
    rw [List.append_assoc, hdefined, declared_silent]
    · rfl
    · exact List.forall_mem_append.2 ⟨isSilent_fields, List.forall_mem_singleton.2 hclose⟩
  | constants type constants =>
    rw [hbody] at hconstants
    simp only
    -- the list is opened and closed again
    have hlist : declared false
        ((["", "const ("] ++ constants.map ConstantText.line ++ [")"]).map String.toList ++ rest) =
          declared true ((constants.map ConstantText.line).map String.toList ++ [')'] :: rest) := by
      rw [List.map_append, List.append_assoc]
      rfl
    rw [List.append_assoc, List.append_assoc, ← List.append_assoc ["", "const ("], hdefined, hlist,
      declared_constants hconstants]
    rfl
  | type type =>
    have h := hdefined type []
    rwa [List.append_nil] at h

/-! ### Lines of declarations -/

theorem isLine_typeText {type : TypeRef} (h : Analysis.LegalUse type) : IsLine (typeText type) := by
  induction type with
  | primitive primitive => cases primitive <;> decide
  | array items ih =>
    exact IsLine.append (by decide) (ih fun name backEdge hname => h name backEdge (.items hname))
  | named name backEdge => exact isLine_of_isPlain (isPlain_of_legal (h name backEdge .self))
  | any => decide

theorem isLine_fieldType {type : TypeRef} (h : Analysis.LegalUse type) (required : Bool) :
    IsLine (fieldType type required) := by
  have htext := isLine_typeText h
  unfold fieldType
  split
  · exact IsLine.append (by decide) htext
  · split
    · exact htext
    · exact IsLine.append (by decide) htext

theorem isLine_goTag {tag : String} (h : IsLine tag) : IsLine (Text.goTag tag) := by
  unfold Text.goTag
  split
  · exact not_mem_goQuote (.inl rfl) tag
  · unfold IsLine
    rw [String.toList_ofList]
    simp only [List.cons_append, List.mem_cons, List.mem_append, List.not_mem_nil, or_false, not_or]
    exact ⟨by decide, h, by decide⟩

/-- The type that enum values share. -/
theorem isLine_underlying {values : List Json} {type : String} (h : underlying values = some type) :
    IsLine type := by
  unfold underlying at h
  split at h
  · cases h
  · split at h
    · obtain rfl := Option.some.inj h
      decide
    · split at h
      · obtain rfl := Option.some.inj h
        decide
      · cases h

theorem FieldText.Writes.isLine_lines {text : FieldText} {field : Field} (h : text.Writes field)
    (huse : Analysis.LegalUse field.type) (hunbroken : Text.Unbroken field.description) :
    ∀ line ∈ text.lines, IsLine line := by
  have hidentifier : IsLine text.identifier :=
    fun hmem => absurd (h.identifier.isAlphanum hmem) (by decide)
  have htag : IsLine ("json:" ++ Text.goQuote (tagName field)) :=
    IsLine.append (by decide) (not_mem_goQuote (.inl rfl) _)
  unfold FieldText.lines
  refine List.forall_mem_append.2 ⟨forall_mem_linesIf ?_, ?_⟩
  · rw [h.description]
    exact List.forall_mem_singleton.2 (.append (by decide) (isLine_of_unbroken hunbroken))
  · rw [h.type, h.tag]
    refine List.forall_mem_singleton.2
      (.append (.append (.append (.append (.append ?_ hidentifier) ?_) ?_) ?_) ?_)
    · decide
    · decide
    · exact isLine_fieldType huse _
    · decide
    · exact isLine_goTag htag

theorem ConstantText.Writes.isPlain_identifier {typeName : String} {text : ConstantText} {value : Json}
    (h : text.Writes typeName value) (hname : IsPlain typeName.toList) : IsPlain text.identifier.toList := by
  obtain ⟨tail, htail, heq⟩ := h.identifier
  rw [heq]
  exact hname.append htail

theorem ConstantText.Writes.isLine_line {typeName : String} {text : ConstantText} {value : Json}
    (h : text.Writes typeName value) (hname : IsPlain typeName.toList) : IsLine text.line := by
  have hliteral : IsLine text.literal := by
    unfold IsLine
    rw [h.literal, Json.render, String.toList_ofList]
    exact Json.newline_not_mem_write Json.Style.unbroken_line rfl 0 value
  have hidentifier := isLine_of_isPlain (h.isPlain_identifier hname)
  have htype : IsLine text.type := h.type ▸ isLine_of_isPlain hname
  unfold ConstantText.line
  exact .append (.append (.append (.append (.append (by decide) hidentifier) (by decide)) htype) (by decide))
    hliteral

theorem DeclarationText.isLine_defined {text : DeclarationText} (hname : IsPlain text.name.toList)
    (hdescription : IsLine text.description) {type : String} (htype : IsLine type) :
    ∀ line ∈ text.defined type, IsLine line := by
  have hname := isLine_of_isPlain hname
  unfold DeclarationText.defined
  refine List.forall_mem_append.2 ⟨forall_mem_linesIf ?_, ?_⟩
  · exact List.forall_mem_singleton.2
      (.append (.append (.append (by decide) hname) (by decide)) hdescription)
  · exact List.forall_mem_singleton.2 (.append (.append (.append (by decide) hname) (by decide)) htype)

namespace DeclarationText.Writes

variable {text : DeclarationText} {declaration : Declaration} (h : text.Writes declaration)

include h

theorem isPlain_constants (hname : IsPlain declaration.name.toList) :
    ∀ constant ∈ text.constants, IsPlain constant.identifier.toList := by
  cases h with
  | enum htype hvalues =>
    intro constant hconstant
    obtain ⟨value, -, hwrites⟩ := exists_of_forall₂ hvalues constant hconstant
    exact hwrites.isPlain_identifier hname
  | _ => exact nofun

/-- Each line of a declaration is one. -/
theorem isLine_lines (hlegible : Legible declaration) : ∀ line ∈ text.lines, IsLine line := by
  have hname := isPlain_of_legal hlegible.name
  have hdescription := isLine_of_unbroken hlegible.worded.unbroken
  cases h with
  | object hfields =>
    refine List.forall_mem_append.2 ⟨List.forall_mem_append.2 ⟨?_, fun line hline => ?_⟩, ?_⟩
    · exact isLine_defined hname hdescription (by decide)
    · obtain ⟨field, hfield, hline⟩ := List.mem_flatMap.1 hline
      obtain ⟨property, hproperty, hwrites⟩ := exists_of_forall₂ hfields field hfield
      refine hwrites.isLine_lines (hlegible.uses _ (List.mem_map_of_mem hproperty)) ?_ line hline
      exact (hlegible.worded.fields _ rfl).unbroken property hproperty
    · exact List.forall_mem_singleton.2 (by decide)
  | enum htype hvalues =>
    refine List.forall_mem_append.2 ⟨List.forall_mem_append.2 ⟨List.forall_mem_append.2 ⟨?_, ?_⟩,
      fun line hline => ?_⟩, List.forall_mem_singleton.2 (by decide)⟩
    · exact isLine_defined hname hdescription (isLine_underlying htype)
    · exact List.forall_mem_cons.2 ⟨by decide, List.forall_mem_singleton.2 (by decide)⟩
    · obtain ⟨constant, hconstant, rfl⟩ := List.mem_map.1 hline
      obtain ⟨value, -, hwrites⟩ := exists_of_forall₂ hvalues constant hconstant
      exact hwrites.isLine_line hname
  | mixed htype => exact isLine_defined hname hdescription (by decide)
  | union => exact isLine_defined hname hdescription (by decide)
  | other =>
    exact isLine_defined hname hdescription (isLine_typeText (hlegible.uses _ List.mem_cons_self))

end DeclarationText.Writes

theorem DeclarationText.lines_ne_nil (text : DeclarationText) : text.lines ≠ [] := by
  unfold DeclarationText.lines DeclarationText.defined
  split <;> simp

/-! ### Files -/

/-- The lines of a source declare the identifiers of its declarations. -/
theorem declared_assemble {texts : List DeclarationText} {catalog : Catalog}
    (h : List.Forall₂ DeclarationText.Writes texts catalog)
    (hlegible : ∀ declaration ∈ catalog, Legible declaration) :
    declared false (Text.pieces '\n' (assemble (texts.map DeclarationText.lines)).toList) =
      texts.flatMap DeclarationText.identifiers := by
  have htexts (text : DeclarationText) (htext : text ∈ texts) :
      IsPlain text.name.toList ∧ (∀ constant ∈ text.constants, IsPlain constant.identifier.toList) ∧
      ∀ line ∈ text.lines, IsLine line := by
    obtain ⟨declaration, hd, hwrites⟩ := exists_of_forall₂ h text htext
    have hname := isPlain_of_legal (hlegible declaration hd).name
    exact ⟨hwrites.name_eq ▸ hname, hwrites.isPlain_constants hname,
      hwrites.isLine_lines (hlegible _ hd)⟩
  -- a source without declarations has empty lines only
  by_cases hnil : texts = []
  · rw [hnil]
    decide +kernel
  rw [pieces_assemble (by simpa using hnil), List.flatMap_map]
  · clear hnil h
    induction texts with
    | nil => rfl
    | cons text rest ih =>
      obtain ⟨hname, hconstants, -⟩ := htexts text List.mem_cons_self
      rw [List.flatMap_cons, List.map_append, List.map_append, List.append_assoc,
        declared_lines hname hconstants, List.flatMap_cons]
      exact congrArg _ (ih fun other hother => htexts other (List.mem_cons_of_mem _ hother))
  · intro block hblock
    obtain ⟨text, htext, rfl⟩ := List.mem_map.1 hblock
    exact ⟨text.lines_ne_nil, (htexts text htext).2.2⟩

/-- The lines of a file declare the constant of the raw schema first. -/
theorem identifiers_goSource (title : String) (schema : Json) (source : String) :
    identifiers (Release.goSource title schema source) =
      goRawConstant title :: declared false (Text.pieces '\n' source.toList) := by
  have hcomment : IsSilent "// " := ⟨'/', ['/', ' '], rfl, by decide, by decide⟩
  have hpackage : IsSilent "package " :=
    ⟨'p', ['a', 'c', 'k', 'a', 'g', 'e', ' '], rfl, by decide, by decide⟩
  have hfirst := declared_silent (List.forall_mem_singleton.2 (hcomment.append notice))
  have hthird := declared_silent (List.forall_mem_singleton.2 (hpackage.append (goPackage title)))
  have hempty (rest : List (List Char)) : declared false ("".toList :: rest) = declared false rest := rfl
  simp only [List.map_singleton, List.singleton_append] at hfirst hthird
  unfold identifiers
  rw [Release.pieces_goSource]
  simp only [List.map_cons, List.map_nil, List.cons_append, List.nil_append]
  -- of the lines in front of the source, only the fifth one declares something
  rw [hfirst, hempty, hthird, hempty, declared_constant (isPlain_goRawConstant title), hempty]

theorem map_name_eq {texts : List DeclarationText} {catalog : Catalog}
    (h : List.Forall₂ DeclarationText.Writes texts catalog) :
    texts.map DeclarationText.name = catalog.map Declaration.name := by
  induction h with
  | nil => rfl
  | cons hfirst _ ih => rw [List.map_cons, List.map_cons, hfirst.name_eq, ih]

/-- The identifiers of declarations are their names and the constants. -/
theorem identifiers_perm (texts : List DeclarationText) :
    (texts.flatMap DeclarationText.identifiers).Perm (texts.map DeclarationText.name ++
      (texts.flatMap DeclarationText.constants).map ConstantText.identifier) := by
  rw [List.map_flatMap, List.map_eq_flatMap]
  exact (List.flatMap_append_perm texts (fun text => [text.name])
    fun text => text.constants.map ConstantText.identifier).symm

/-- **Identifiers of a Go file are declared once, or they are of different kinds.** What the file of an
analysis declares are the constant of the raw schema, and for each declaration its name and the constants of
its values. No two types have one name and no two constants of enums. So no identifier is declared twice if
and only if the constant of the raw schema is neither a type nor one of the other constants, and none of
these is a type. -/
theorem nodup_identifiers_iff {schemas : List Json} {catalog : Catalog} {source : String}
    (hanalyze : Analysis.analyze schemas = .ok catalog) (hrender : render catalog = .ok source)
    (title : String) (schema : Json) :
    ∃ texts : List DeclarationText, source = assemble (texts.map DeclarationText.lines) ∧
      List.Forall₂ DeclarationText.Writes texts catalog ∧
      identifiers (Release.goSource title schema source) =
        goRawConstant title :: texts.flatMap DeclarationText.identifiers ∧
      let types := catalog.map Declaration.name
      let constants := (texts.flatMap DeclarationText.constants).map ConstantText.identifier
      types.Nodup ∧ constants.Nodup ∧
      ((identifiers (Release.goSource title schema source)).Nodup ↔
        goRawConstant title ∉ types ∧ goRawConstant title ∉ constants ∧
          types.Disjoint constants) := by
  obtain ⟨htypes, hlegible⟩ := legible_of_analyze hanalyze
  obtain ⟨texts, rfl, hwrites, hconstants⟩ := texts_of_render hrender
  have hidentifiers := identifiers_goSource title schema (assemble (texts.map DeclarationText.lines))
  rw [declared_assemble hwrites hlegible] at hidentifiers
  refine ⟨texts, rfl, hwrites, hidentifiers, htypes, hconstants, ?_⟩
  rw [hidentifiers, List.nodup_cons, (identifiers_perm texts).mem_iff, (identifiers_perm texts).nodup_iff,
    map_name_eq hwrites, List.mem_append, not_or, List.nodup_append']
  simp only [htypes, hconstants, true_and, and_assoc]

/-! ### A constant of the same name as that of the raw schema -/

section Raw

open Analysis

/-- `{"title": "Raw", "enum": ["raw"]}`. -/
def rawMembers : Members :=
  [("title", .str "Raw"), ("enum", .arr [.str "raw"])]

/-- Its catalog. -/
def rawCatalog : Catalog :=
  [⟨"Raw", "", .enum [.str "raw"]⟩]

/-- The source of the catalog. -/
def rawSource : String :=
  "type Raw string\n\nconst (\n\tRawRaw Raw = \"raw\"\n)\n"

theorem analyze_raw : analyze [.obj rawMembers] = .ok rawCatalog := by
  have hkey : Schema.structureText ⟨rawMembers, none⟩ =
      .ok "\x7b\"enum\": [\"raw\"], \"title\": \"Raw\"\x7d" := by cbv
  have hbase : baseName (.str "Raw") (.str "Raw") = .ok "Raw" := by
    rw [baseName_str, if_neg (by decide +kernel)]
    exact congrArg Except.ok (by decide +kernel)
  have hroot : typeRef (.obj rawMembers) (.str "Raw") {} = .ok (.named "Raw" false,
      ⟨rawCatalog, ["Raw"], [("\x7b\"enum\": [\"raw\"], \"title\": \"Raw\"\x7d", "Raw")], []⟩) := by
    rw [typeRef, schemaRef_enum (fun ref h => by cases h) rfl, bind_of_ok (enter_of_base hkey rfl hbase)]
    rfl
  unfold analyze
  change ((define (.obj rawMembers) (.str "Raw") >>= fun _ => pure ()) >>= fun _ =>
    defineRest [.obj rawMembers]) {} >>= _ = _
  have hdefine : define (.obj rawMembers) (.str "Raw") {} = .ok ((),
      ⟨rawCatalog, ["Raw"], [("\x7b\"enum\": [\"raw\"], \"title\": \"Raw\"\x7d", "Raw")], []⟩) := by
    unfold define
    rw [bind_of_ok hroot]
    rfl
  rw [bind_of_ok (bind_of_ok hdefine)]
  rfl

/-- The constant of its value has the name of the constant of the raw schema. -/
theorem nodup_identifiers_raw :
    analyze [.obj rawMembers] = .ok rawCatalog ∧ render rawCatalog = .ok rawSource ∧
    identifiers (Release.goSource "Raw" (.obj rawMembers) rawSource) = ["RawRaw", "Raw", "RawRaw"] ∧
    ∃ texts : List DeclarationText, rawSource = assemble (texts.map DeclarationText.lines) ∧
      (rawCatalog.map Declaration.name).Disjoint
        ((texts.flatMap DeclarationText.constants).map ConstantText.identifier) ∧
      goRawConstant "Raw" ∈ (texts.flatMap DeclarationText.constants).map ConstantText.identifier := by
  have hrender : render rawCatalog = .ok rawSource := Json.eq_ok_of_toOption (by decide +kernel)
  have hraw : goRawConstant "Raw" = "RawRaw" := by decide +kernel
  have hall : identifiers (Release.goSource "Raw" (.obj rawMembers) rawSource) =
      ["RawRaw", "Raw", "RawRaw"] := by
    -- the characters are spelled out first: to find them in a text that is put together takes the kernel long
    unfold identifiers Release.goSource rawSource
    simp only [String.toList_append, String.reduceToList]
    decide +kernel
  obtain ⟨texts, hsource, hwrites, hidentifiers, -, -, hiff⟩ :=
    nodup_identifiers_iff analyze_raw hrender "Raw" (.obj rawMembers)
  refine ⟨analyze_raw, hrender, hall, texts, hsource, ?_⟩
  have hdisjoint : (rawCatalog.map Declaration.name).Disjoint
      ((texts.flatMap DeclarationText.constants).map ConstantText.identifier) := by
    have hpair : texts.flatMap DeclarationText.identifiers = ["Raw", "RawRaw"] :=
      (List.cons.inj (hidentifiers.symm.trans hall)).2
    have hperm := identifiers_perm texts
    rw [hpair, map_name_eq hwrites] at hperm
    exact List.disjoint_of_nodup_append (hperm.nodup_iff.1 (by decide))
  -- the clash is with the constant then, since there is one
  refine ⟨hdisjoint, ?_⟩
  by_contra hconstant
  have hnodup := hiff.2 ⟨by decide +kernel, hconstant, hdisjoint⟩
  rw [hall] at hnodup
  exact absurd hnodup (by decide)

end Raw

end SchemaPress.Source.Go
