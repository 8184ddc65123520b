import SchemaPress.Proofs.Analysis.Log
import SchemaPress.Proofs.Reference.Occurrence

/-!
# Where back edges lead

Dereferencing leaves a back edge where a reference leads to an object around it. All that the
analysis learns about the target is a title, and it takes the back edge to lead to the innermost
declaration under construction with that title; if there is none, it makes a name up from the
title and the reference. Neither need be the declaration of the target: an untitled schema is
declared under a name that no back edge carries, titles repeat, and members beside a reference
replace them.

`backEdges_right_iff` says exactly when it is. The target occurs in the dereferenced schema
wherever it stands (`Occurs`), and an occurrence is declared under the name that the log tells
(`DeclaredAs`). Names and structures determine each other (`Naming`), so an enclosing declaration
is that of an occurrence exactly when both have one structure. A made-up name is right when an
occurrence was given it by chance.
-/

namespace SchemaPress

/-- A schema without files around it. -/
def Library.alone (schema : Json) : Library where
  root := schema
  base := none
  tree := .empty

namespace Analysis

/-! ### Occurrences -/

/-- **Occurrences of a target** in a dereferenced schema: whatever is found where the target
stands, and what the analysis makes of it if that is among the definitions. -/
inductive Occurs (schema result : Json) (target : Target) : Json → Prop where
  | found {path : List Key} {last : Library.Visit} {value : Json}
      (hstands : Library.Stands (.alone schema) (Library.alone schema).rootVisit path last)
      (hkey : last.site.key = target.key) (hvalue : result.at? path = some value) :
      Occurs schema result target value
  | definition {container name : String} {last : Library.Visit} {value : Json}
      (hcontainer : container = "definitions" ∨ container = "$defs")
      (hstands : Library.Stands (.alone schema) (Library.alone schema).rootVisit
        [.name container, .name name] last)
      (hkey : last.site.key = target.key)
      (hvalue : result.at? [.name container, .name name] = some value) :
      Occurs schema result target (titled name value)

/-- **The declaration of a value**, as the log tells it: the one that it was found to have, or the
alias that it was given. -/
inductive DeclaredAs (log : List Event) : Json → String → Prop where
  | typed {members : Members} {name : String}
      (h : .typed ⟨members, none⟩ (.named name false) ∈ log) : DeclaredAs log (.obj members) name
  | aliased {value : Json} {name : String} (h : .aliased value name ∈ log) :
      DeclaredAs log value name

/-- **The structure of a value** that was walked: that of the schema that its declaration is made
for, or its own if it was given an alias. -/
inductive HasStructure (log : List Event) : Json → String → Prop where
  | typed {members : Members} {type : TypeRef} {landed : Schema} {key : String}
      (h : .typed ⟨members, none⟩ type ∈ log) (hlands : Lands ⟨members, none⟩ landed)
      (hkey : landed.structureText = .ok key) : HasStructure log (.obj members) key
  | aliased {value : Json} {name key : String} (h : .aliased value name ∈ log)
      (hkey : aliasKey value = .ok key) : HasStructure log value key

/-- **A back edge points right**: its name is declared, and some occurrence of the target has that
declaration. -/
structure PointsRight (schema result : Json) (log : List Event) (catalog : Catalog)
    (target : Target)
    (name : String) : Prop where
  declared : ∃ declaration ∈ catalog, declaration.name = name
  ofTarget : ∃ value, Occurs schema result target value ∧ DeclaredAs log value name

/-- **The target is met.** The innermost declaration under construction with the title of the back
edge has the structure of an occurrence; or there is none with that title, and the structure of an
occurrence was given the name that is made up. -/
inductive MeetsTarget (schema result : Json) (log : List Event) (known : List (String × String))
    (target : Target) (edge : Schema) (ref : String) (building : List (Json × String)) : Prop where
  | enclosing {frame : Json × String} {key : String} {value : Json}
      (hframe : enclosing? building edge = some frame) (hopened : OpenedFor known frame key)
      (hoccurs : Occurs schema result target value) (hstructure : HasStructure log value key) :
      MeetsTarget schema result log known target edge ref building
  | madeUp {base key : String} {value : Json} (hnone : enclosing? building edge = none)
      (hbase : baseName edge.title (.str (lastPiece ref)) = .ok base) (hknown : (key, base) ∈ known)
      (hoccurs : Occurs schema result target value) (hstructure : HasStructure log value key) :
      MeetsTarget schema result log known target edge ref building

/-! ### Names and structures of values -/

section Names

variable {log : List Event} {known : List (String × String)}

/-- A value is declared under the name that its structure is known under. -/
theorem HasStructure.declaredAs {names : List String} (hnaming : Naming names known)
    (hholds : ∀ event ∈ log, event.Holds known) {value : Json} {key name : String}
    (h : HasStructure log value key) (hname : (key, name) ∈ known) : DeclaredAs log value name := by
  cases h with
  | typed hmem hlands hkey =>
    cases hholds _ hmem with
    | declared hlands' hknown =>
      -- the schema is declared for one schema, whose structure is known under one name
      obtain rfl := hlands.unique hlands'
      obtain ⟨key', hkey', hname'⟩ := hknown
      obtain rfl := Except.ok.inj (hkey.symm.trans hkey')
      obtain rfl := hnaming.single _ _ _ hname hname'
      exact .typed hmem
    | other hno => exact absurd hlands (hno _)
  | aliased hmem hkey =>
    obtain ⟨key', hkey', hname'⟩ := hholds _ hmem
    obtain rfl := Except.ok.inj (hkey.symm.trans hkey')
    obtain rfl := hnaming.single _ _ _ hname hname'
    exact .aliased hmem

/-- A declared value has a structure, which is known under its name. -/
theorem DeclaredAs.hasStructure (hholds : ∀ event ∈ log, event.Holds known) {value : Json}
    {name : String} (h : DeclaredAs log value name) :
    ∃ key, HasStructure log value key ∧ (key, name) ∈ known := by
  cases h with
  | typed hmem =>
    cases hholds _ hmem with
    | declared hlands hknown =>
      obtain ⟨key, hkey, hname⟩ := hknown
      exact ⟨key, .typed hmem hlands hkey, hname⟩
    | other _ htype => exact absurd rfl (htype _)
  | aliased hmem =>
    obtain ⟨key, hkey, hname⟩ := hholds _ hmem
    exact ⟨key, .aliased hmem hkey, hname⟩

/-- **When a back edge points right**, in terms of what was open when it was met. -/
theorem pointsRight_iff {names : List String} {catalog : Catalog} (hnaming : Naming names known)
    (hholds : ∀ event ∈ log, event.Holds known)
    (hdeclared : ∀ key name, (key, name) ∈ known → ∃ declaration ∈ catalog, declaration.name = name)
    {edge : Schema} {ref name : String} {building : List (Json × String)}
    (hmem : .backEdge edge ref building name ∈ log) (schema result : Json) (target : Target) :
    PointsRight schema result log catalog target name ↔
      MeetsTarget schema result log known target edge ref building := by
  obtain ⟨hframes, hname⟩ := hholds _ hmem
  -- the name that was found is known for one structure, that of the frame or one met by chance
  constructor
  · rintro ⟨-, value, hoccurs, hvalue⟩
    obtain ⟨key, hstructure, hknown⟩ := hvalue.hasStructure hholds
    rcases hname with ⟨title, hframe⟩ | ⟨hnone, hbase⟩
    · obtain ⟨key', hopened⟩ := hframes _ (List.mem_of_find?_eq_some hframe)
      obtain rfl := hnaming.structures _ _ _ hopened.1 hknown
      exact .enclosing hframe hopened hoccurs hstructure
    · exact .madeUp hnone hbase hknown hoccurs hstructure
  · rintro (⟨hframe, hopened, hoccurs, hstructure⟩ | ⟨hnone, hbase, hknown, hoccurs, hstructure⟩)
    · rcases hname with ⟨title, hframe'⟩ | ⟨hnone, -⟩
      · obtain rfl := Option.some.inj (hframe.symm.trans hframe')
        exact ⟨hdeclared _ _ hopened.1, _, hoccurs,
          hstructure.declaredAs hnaming hholds hopened.1⟩
      · exact absurd (hframe.symm.trans hnone) nofun
    · rcases hname with ⟨title, hframe⟩ | ⟨-, hbase'⟩
      · exact absurd (hframe.symm.trans hnone) nofun
      · obtain rfl := Except.ok.inj (hbase.symm.trans hbase')
        exact ⟨hdeclared _ _ hknown, _, hoccurs, hstructure.declaredAs hnaming hholds hknown⟩

end Names

/-- **When back edges point right.** Take a schema that is dereferenced and analysed. Whatever
refers back in the catalog was told by the log. Where dereferencing left a back edge, the target
occurs around it; and whenever the analysis meets a back edge with that reference, the name that
it finds is declared if there is an enclosing declaration of its title, and belongs to an
occurrence of the target if and only if the target is met. -/
theorem backEdges_right_iff {schema result : Json} {catalog : Catalog} (hschema : schema.Distinct)
    (hresult : (Library.alone schema).dereference = .ok result)
    (hcatalog : analyze [result] = .ok catalog) :
    ∃ log state, Defines (agenda [result]) {} log state ∧ state.declarations = catalog ∧
      (∀ declaration ∈ catalog, ∀ name, declaration.Mentions (.named name true) → Logged log name) ∧
      ∀ path ref target value, (Library.alone schema).Leaves path ref target →
        result.at? path = some value → value.ref? = some ref ∧
        (∃ before around, before <+: path ∧ result.at? before = some around ∧
          Occurs schema result target around) ∧
        ∀ edge building name, .backEdge edge ref building name ∈ log →
          (enclosing? building edge ≠ none → ∃ declaration ∈ catalog, declaration.name = name) ∧
          (PointsRight schema result log catalog target name ↔
            MeetsTarget schema result log state.known target edge ref building) := by
  obtain ⟨log, state, hdefines, rfl⟩ := defines_of_analyze hcatalog
  have hnaming := hdefines.naming Naming.nil
  obtain ⟨-, hholds⟩ := hdefines.told nofun
  have hdeclared := (hdefines.sorted nofun .nil).1
  refine ⟨log, state, hdefines, rfl, ?_, ?_⟩
  · rintro declaration hd name ⟨use, huse, hwithin⟩
    exact hdefines.refersBack (fun name h => h) nofun declaration hd use huse name hwithin
  · intro path ref target value hleaves hvalue
    refine ⟨hleaves.ref? hschema hresult hvalue, ?_, ?_⟩
    -- the target was open there, and what is open stands around
    · obtain ⟨before, around, hbefore, hstands, hkey⟩ := hleaves.around
      obtain ⟨part, hpart⟩ := Json.at?_of_prefix hbefore hvalue
      exact ⟨before, part, hbefore, hpart, .found hstands hkey hpart⟩
    · intro edge building name hmem
      refine ⟨fun hsome => ?_, pointsRight_iff hnaming hholds hdeclared hmem schema result target⟩
      obtain ⟨hframes, ⟨title, hframe⟩ | ⟨hnone, -⟩⟩ := hholds _ hmem
      · obtain ⟨key, hopened⟩ := hframes _ (List.mem_of_find?_eq_some hframe)
        exact hdeclared _ _ hopened.1
      · exact absurd hnone hsome

/-! ### An untitled schema that refers to itself -/

/-- `{"type": "object", "properties": {"c": {"$ref": "#"}}}`. -/
def untitled : Json :=
  .obj [("type", .str "object"), ("properties", .obj [("c", .obj [("$ref", .str "#")])])]

/-- The members of the schema once it is dereferenced. -/
def untitledMembers : Members :=
  [("type", .str "object"),
    ("properties", .obj [("c", .obj [("$ref", .str "#"), ("title", .str "")])])]

/-- Its catalog: the schema is declared as `Schema`, and the back edge is taken to lead to `Type`.
-/
def untitledCatalog : Catalog :=
  [⟨"Schema", "", .object [⟨.text "c", .named "Type" true, false, ""⟩]⟩]

theorem analyze_untitled : analyze [.obj untitledMembers] = .ok untitledCatalog := by
  -- no declaration under construction has the title `""`, so the name comes from the reference
  have hedge (state : State) (hbuilding : state.building = [(.null, "Schema")]) :
      typeRef (.obj [("$ref", .str "#"), ("title", .str "")]) (.str "Schema c") state =
        .ok (.named "Type" true, state) := by
    -- neither the title nor `#` has a letter to make a name of
    have hbase : baseName (.str "") (.str (lastPiece "#")) = .ok "Type" := by
      rw [show lastPiece "#" = "#" by decide +kernel]
      unfold baseName
      simp only [show Name.ofType "" = "" by decide +kernel,
        show Name.ofType "#" = "" by decide +kernel]
      rfl
    have hname : backEdgeName ⟨[("$ref", .str "#"), ("title", .str "")], none⟩ "#" state =
        .ok ("Type", state) := by
      refine backEdgeName_of_none (fun frame hframe => ?_) hbase
      rw [hbuilding] at hframe
      obtain rfl := List.mem_singleton.1 hframe
      rfl
    rw [typeRef, schemaRef_ref rfl]
    exact bind_of_ok hname
  have hfields (state : State) (hbuilding : state.building = [(.null, "Schema")]) :
      fieldsOf "Schema" [] [(.text "c", .obj [("$ref", .str "#"), ("title", .str "")])] state =
        .ok ([⟨.text "c", .named "Type" true, false, ""⟩], state) := by
    rw [fieldsOf, show "Schema" ++ " " ++ (PropertyName.text "c").display = "Schema c" from rfl,
      bind_of_ok (hedge state hbuilding), fieldsOf]
    rfl
  obtain ⟨key, hkey⟩ : ∃ key, Schema.structureText ⟨untitledMembers, none⟩ = .ok key := ⟨_, rfl⟩
  have hbase : baseName .null (.str "Schema") = .ok "Schema" :=
    baseName_of_hint (fun text heq => by cases heq) (by decide +kernel) (by decide +kernel)
  have hroot : typeRef (.obj untitledMembers) (.str "Schema") {} =
      .ok (.named "Schema" false, ⟨untitledCatalog, ["Schema"], [(key, "Schema")], []⟩) := by
    have hopen : IsOpen ⟨untitledMembers, none⟩ := ⟨fun ref h => (by cases h), rfl, rfl⟩
    rw [typeRef, schemaRef_open hopen]
    change plainRef _ _ (.str "object") _ = _
    rw [plainRef_eq]
    change (enter _ _ >>= _) _ = _
    have hfresh : Name.fresh ({} : State).names "Schema" = "Schema" := by decide +kernel
    rw [bind_of_ok (enter_of_base hkey rfl hbase), hfresh]
    simp only
    rw [bind_of_ok (orCrash_of_ok (rfl : requiredNames ⟨untitledMembers, none⟩ = .ok []))]
    change (fieldsOf "Schema" [] [(.text "c", .obj [("$ref", .str "#"), ("title", .str "")])] >>= _)
      _ = _
    rw [bind_of_ok (hfields _ rfl)]
    rfl
  have hdefine : define (.obj untitledMembers) (.str "Schema") {} =
      .ok ((), ⟨untitledCatalog, ["Schema"], [(key, "Schema")], []⟩) := by
    unfold define
    rw [bind_of_ok hroot]
    rfl
  unfold analyze
  change ((define (.obj untitledMembers) (.str "Schema") >>= fun _ => pure ()) >>= fun _ =>
    defineRest [.obj untitledMembers]) {} >>= _ = _
  rw [bind_of_ok (bind_of_ok hdefine)]
  rfl

theorem distinct_untitled : untitled.Distinct :=
  .cons (by decide) (Json.distinct_str _) (Json.distinct_singleton _ (Json.distinct_singleton _
    (Json.distinct_singleton _ (Json.distinct_str _))))

/-- The reference of an untitled schema leads to an object around it and is left. -/
theorem dereference_untitled : (Library.alone untitled).dereference = .ok (.obj untitledMembers) := by
  let library := Library.alone untitled
  have hrefers : library.Refers "" [("$ref", .str "#")] "#" ⟨"", []⟩ untitled :=
    ⟨rfl, by decide +kernel, rfl⟩
  have hinside (stack : List String) (place : String) : library.followedInside [] stack place = [] := rfl
  unfold Library.dereference
  change library.inline [] [] "" "" (.obj _) = _
  rw [Library.inline_plain rfl, hinside, Library.inlineMembers, Library.inline_leaf (Json.isLeaf_str _),
    Library.inlineMembers, Library.inline_plain rfl, hinside, Library.inlineMembers,
    Library.inlineMembers, Library.inline_refers hrefers (hinside _ _), if_pos (by decide +kernel),
    Library.inlineMembers]
  rfl

/-- The back edge of an untitled schema refers to nothing in the catalog. -/
theorem backEdges_right_iff_untitled :
    (∃ declaration ∈ untitledCatalog, declaration.Mentions (.named "Type" true)) ∧
    (∀ declaration ∈ untitledCatalog, declaration.name ≠ "Type") ∧
    ∃ log state, Defines (agenda [.obj untitledMembers]) {} log state ∧
      state.declarations = untitledCatalog ∧
      (∀ declaration ∈ untitledCatalog, ∀ name,
        declaration.Mentions (.named name true) → Logged log name) ∧
      ∀ path ref target value, (Library.alone untitled).Leaves path ref target →
        (Json.obj untitledMembers).at? path = some value → value.ref? = some ref ∧
        (∃ before around, before <+: path ∧ (Json.obj untitledMembers).at? before = some around ∧
          Occurs untitled (.obj untitledMembers) target around) ∧
        ∀ edge building name, .backEdge edge ref building name ∈ log →
          (enclosing? building edge ≠ none →
            ∃ declaration ∈ untitledCatalog, declaration.name = name) ∧
          (PointsRight untitled (.obj untitledMembers) log untitledCatalog target name ↔
            MeetsTarget untitled (.obj untitledMembers) log state.known target edge ref
              building) := by
  refine ⟨⟨_, List.mem_cons_self, _, List.mem_cons_self, .self⟩, fun declaration hd => ?_, ?_⟩
  · obtain rfl := List.mem_singleton.1 hd
    decide
  · exact backEdges_right_iff distinct_untitled dereference_untitled analyze_untitled

end Analysis

end SchemaPress
