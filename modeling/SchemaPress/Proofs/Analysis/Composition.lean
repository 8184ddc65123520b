import SchemaPress.Proofs.Analysis.Derivation
import SchemaPress.Proofs.Files.Task
import SchemaPress.Proofs.Schema.Composition

/-!
# Objects that are composed by `allOf`

A composed schema is folded, round by round, until no `allOf` is left, and is then an object schema like
any other one (`Schema.Composed.exists_folded`). The object that is declared for it has the properties of
the parts that are laid in, each once, and requires what these parts require (`analyze_composed`).

All parts are laid in where at most one part of each `allOf` has an `allOf` of its own. Of several such
parts, only the first one keeps its parts, and the properties of the others are lost
(`analyze_composed_split`).
-/

namespace SchemaPress

open Schema (Composed Clause IsPart IsLaid Round Overrides partsOf nextParts declared needed)

namespace Analysis

/-- A composed schema is no back edge, no enum and has no alternatives. -/
theorem isOpen_of_clauses {members : Members} (h : ∀ member ∈ members, Clause member.1 member.2) :
    IsOpen ⟨members, none⟩ := by
  have hno {name : String} (hname : name ∉ ["title", "type", "properties", "required", "allOf"]) :
      (Schema.mk members none).has name = false := by
    change members.has name = false
    rw [Members.has_eq_isSome, Schema.get?_of_clauses h hname]
    rfl
  refine ⟨fun ref href => ?_, ?_, ?_⟩
  · have hnone : members.get? "$ref" = none := Schema.get?_of_clauses h (by decide)
    exact absurd (hnone.symm.trans href) nofun
  · rw [hno (by decide), hno (by decide)]
    rfl
  · rw [hno (by decide), hno (by decide)]
    rfl

/-- **Folding to the end.** What is left has no `allOf`, and says what all laid parts say. -/
theorem exists_folded {members : Members} (h : Composed members) :
    ∃ folded, Composed folded ∧ folded.get? "allOf" = none ∧
      (∀ hint, schemaRef ⟨members, none⟩ hint = schemaRef ⟨folded, none⟩ hint) ∧
      Overrides (declared folded) (Schema.composedProperties members) ∧
      needed folded = Schema.composedNames members := by
  induction hheight : (Schema.mk members none).allOfHeight using Nat.strong_induction_on
    generalizing members with
  | _ height ih =>
    cases hget : members.get? "allOf" with
    | none =>
      refine ⟨members, h, hget, fun hint => rfl, ?_, ?_⟩
      · rw [Schema.composedProperties, Schema.laid_of_none declared hget]
        exact .refl _
      · exact (Schema.laid_of_none needed hget).symm
    | some allOf =>
      obtain ⟨merged, hmerge, hmerged, hdeclared, hneeded, hnext⟩ := h.exists_mergeAllOf hget
      have hless : (Schema.mk merged none).allOfHeight < (Schema.mk members none).allOfHeight :=
        Schema.allOfHeight_mergeAllOf_lt hget hmerge
      obtain ⟨folded, hfolded, hnone, hrun, hproperties, hnames⟩ :=
        ih _ (hheight ▸ hless) hmerged rfl
      refine ⟨folded, hfolded, hnone, fun hint => ?_, hproperties.trans ?_, hnames.trans ?_⟩
      · rw [← hrun, schemaRef_open (isOpen_of_clauses h.clauses)]
        have hallOf : (Schema.mk members none).get? "allOf" = some allOf := hget
        simp only [hallOf, hmerge]
      · rw [Schema.composedProperties, Schema.composedProperties, Schema.laid_eq declared hnext,
          Schema.laid_eq_self declared]
        exact hdeclared.union_right _
      · rw [Schema.composedNames, Schema.composedNames, Schema.laid_eq needed hnext,
          Schema.laid_eq_self needed, hneeded]

/-! ### The object -/

/-- The members of an object and the fields that are made of them, for these required names. -/
def IsFieldOf (names : Set String) (member : String × Json) (field : Field) : Prop :=
  field.name = .text member.1 ∧ (field.required = true ↔ member.1 ∈ names)

/-- Fields are made of members, in their order. -/
theorem forall₂_of_fieldsOf {name : String} {texts : List String} {table : Members}
    {fields : List Field} {state state' : State}
    (h : fieldsOf name (texts.map .str) (.ofMembers table) state = .ok (fields, state')) :
    List.Forall₂ (IsFieldOf {text | text ∈ texts}) table fields := by
  induction table generalizing fields state state' with
  | nil =>
    change fieldsOf name (texts.map .str) [] state = _ at h
    rw [fieldsOf] at h
    obtain ⟨rfl, -⟩ := pure_eq_ok h
    exact .nil
  | cons member rest ih =>
    obtain ⟨property, value⟩ := member
    change fieldsOf name _ ((.text property, value) :: PropertyTable.ofMembers rest) state = _ at h
    rw [fieldsOf] at h
    obtain ⟨type, middle, -, h⟩ := bind_eq_ok h
    obtain ⟨others, last, hothers, h⟩ := bind_eq_ok h
    obtain ⟨rfl, rfl⟩ := pure_eq_ok h
    exact .cons ⟨rfl, Schema.holds_texts_iff⟩ (ih hothers)

/-- A value whose type is found wherever it is used. -/
def Analyzable (value : Json) : Prop :=
  ∀ hint state, ∃ result, typeRef value (.str hint) state = .ok result

theorem exists_fieldsOf {table : Members} (h : ∀ member ∈ table, Analyzable member.2) (name : String)
    (required : List Json) (state : State) :
    ∃ result, fieldsOf name required (.ofMembers table) state = .ok result := by
  induction table generalizing state with
  | nil =>
    refine ⟨([], state), ?_⟩
    change fieldsOf name required [] state = _
    rw [fieldsOf]
    rfl
  | cons member rest ih =>
    obtain ⟨property, value⟩ := member
    obtain ⟨⟨type, middle⟩, htype⟩ := h _ List.mem_cons_self
      (name ++ " " ++ (PropertyName.text property).display) state
    obtain ⟨⟨others, last⟩, hothers⟩ := ih (fun other hother => h other (List.mem_cons_of_mem _ hother))
      middle
    change ∃ result, fieldsOf name required ((.text property, value) :: PropertyTable.ofMembers rest)
      state = .ok result
    rw [fieldsOf, bind_of_ok htype, bind_of_ok hothers]
    exact ⟨_, rfl⟩

section Folded

variable {folded : Members} (h : Composed folded)

include h

/-- The names that a composed schema requires are texts. -/
theorem exists_requiredNames :
    ∃ texts : List String, requiredNames ⟨folded, none⟩ = .ok (texts.map .str) ∧
      needed folded = {text | text ∈ texts} := by
  have hall (texts : List String) :
      (texts.map Json.str).all (fun name => (PropertyName.ofJson? name).isSome) = true := by
    rw [List.all_map, List.all_eq_true]
    exact fun text _ => rfl
  unfold requiredNames
  change ∃ texts : List String, (Schema.ownElements (folded.get? "required") >>= fun names =>
    if names.all fun name => (PropertyName.ofJson? name).isSome then return names
    else throw .wrongKind) = .ok (texts.map .str) ∧ _
  cases hget : folded.get? "required" with
  | none => exact ⟨[], rfl, (Schema.needed_of_none hget).trans (by simp)⟩
  | some value =>
    obtain ⟨texts, rfl⟩ := (h.clauses _ (Members.mem_of_get? hget)).exists_required rfl
    refine ⟨texts, ?_, Schema.needed_of_get? hget⟩
    have helements : Schema.ownElements (some (.arr (texts.map .str))) = .ok (texts.map .str) := by
      cases texts <;> rfl
    rw [helements]
    exact if_pos (hall texts)

/-- Properties that are told are those of an object. -/
theorem exists_properties (hsome : (declared folded).Nonempty) :
    ∃ table : Members, folded.get? "properties" = some (.obj table) ∧ table ≠ [] ∧ table.Distinct ∧
      declared folded = Schema.all table := by
  obtain ⟨property, table, hget, hproperty⟩ := hsome
  obtain ⟨other, heq, hdistinct⟩ := (h.clauses _ (Members.mem_of_get? hget)).exists_properties rfl
  cases heq
  exact ⟨table, hget, List.ne_nil_of_mem hproperty, hdistinct, Schema.declared_of_get? hget⟩

/-- **What is left of a composed schema is declared as an object.** -/
theorem schemaRef_folded {table : Members} {texts : List String} (hnone : folded.get? "allOf" = none)
    (hproperties : folded.get? "properties" = some (.obj table)) (hne : table ≠ [])
    (hrequired : requiredNames ⟨folded, none⟩ = .ok (texts.map .str)) (hint : Json) :
    schemaRef ⟨folded, none⟩ hint = enter ⟨folded, none⟩ hint >>= fun
      | .known name => pure (.named name false)
      | .fresh name => fieldsOf name (texts.map .str) (.ofMembers table) >>= fun fields =>
        leave ⟨folded, none⟩ name (.object fields) := by
  have hallOf : (Schema.mk folded none).get? "allOf" = none := hnone
  have hget : (Schema.mk folded none).get? "properties" = some (.obj table) := hproperties
  have htypes : ∃ type, typesOf ⟨folded, none⟩ = .inl type := by
    refine ⟨_, typesOf_other fun types htype => ?_⟩
    have hobject := (h.clauses _ (Members.mem_of_get? htype)).eq_object rfl
    cases hobject
  obtain ⟨type, htype⟩ := htypes
  have hobject : isObjectLike ⟨folded, none⟩ type = true := by
    have hhas : folded.has "properties" = true := by
      rw [Members.has_eq_isSome, hproperties]
      rfl
    unfold isObjectLike Schema.hasProperties
    rw [show (Schema.mk folded none).has "properties" = true from hhas]
    simp
  have hfields : hasFields ⟨folded, none⟩ = true := by
    unfold hasFields
    rw [hget]
    cases table with
    | nil => exact absurd rfl hne
    | cons => rfl
  have htable : propertiesOf ⟨folded, none⟩ = .ok (.ofMembers table) := by
    unfold propertiesOf
    simp only [hget]
  rw [schemaRef_open (isOpen_of_clauses h.clauses)]
  simp only [hallOf, htype]
  rw [plainRef_eq, if_pos hobject, if_pos hfields]
  congr 1
  funext entrance
  cases entrance with
  | known name => rfl
  | fresh name => simp only [hrequired, htable]; rfl

end Folded

/-! ### The analysis -/

theorem exists_baseName (title : Json) (hint : String) :
    ∃ base, baseName title (.str hint) = .ok base := by
  unfold baseName
  cases title with
  | str text =>
    by_cases hempty : (Name.ofType text).isEmpty = true
    · exact ⟨_, if_pos hempty⟩
    · exact ⟨_, if_neg hempty⟩
  | _ => exact ⟨_, if_pos rfl⟩

/-- The hint at a composed schema is a text, since its title is one. -/
theorem exists_rootHint {members : Members} (h : ∀ member ∈ members, Clause member.1 member.2) :
    ∃ hint, rootHint 0 members = .str hint := by
  unfold rootHint
  simp only
  cases htitle : members.get? "title" with
  | none => exact ⟨_, rfl⟩
  | some title =>
    obtain ⟨text, rfl⟩ := (h _ (Members.mem_of_get? htitle)).exists_title rfl
    by_cases htruthy : (Json.str text).isTruthy = true
    · exact ⟨text, if_pos htruthy⟩
    · exact ⟨_, if_neg htruthy⟩

/-- A composed schema comes with no definitions. -/
theorem definitionsOf_of_clauses {members : Members}
    (h : ∀ member ∈ members, Clause member.1 member.2) : definitionsOf (.obj members) = [] := by
  have hdefinitions : Json.get? (.obj members) "definitions" = none :=
    Schema.get?_of_clauses h (by decide)
  have hdefs : Json.get? (.obj members) "$defs" = none := Schema.get?_of_clauses h (by decide)
  unfold definitionsOf
  simp only [List.flatMap_cons, hdefinitions, hdefs]
  rfl

/-- A schema is analysed as soon as it has a declaration, unless it comes with definitions. -/
theorem analyze_of_typeRef {members : Members} (hdefinitions : definitionsOf (.obj members) = [])
    {name : String} {state : State}
    (h : typeRef (.obj members) (rootHint 0 members) {} = .ok (.named name false, state)) :
    analyze [.obj members] = .ok state.declarations := by
  have hdefine : define (.obj members) (rootHint 0 members) {} = .ok ((), state) := by
    unfold define
    rw [bind_of_ok h]
    rfl
  have hrest : defineRest [.obj members] state = .ok ((), state) := by
    unfold defineRest
    rw [List.flatMap_cons, hdefinitions]
    rfl
  unfold analyze
  change ((define (.obj members) (rootHint 0 members) >>= fun _ => pure ()) >>= fun _ =>
    defineRest [.obj members]) {} >>= _ = _
  rw [bind_of_ok (bind_of_ok hdefine)]
  rw [hrest]
  rfl

theorem exists_typeRef_of_analyze {members : Members} {catalog : Catalog}
    (h : analyze [.obj members] = .ok catalog) :
    ∃ type state, typeRef (.obj members) (rootHint 0 members) {} = .ok (type, state) := by
  obtain ⟨last, hrun, -⟩ := run_of_analyze h
  obtain ⟨_, middle, hroots, -⟩ := bind_eq_ok hrun
  obtain ⟨_, next, hdefine, -⟩ := bind_eq_ok hroots
  obtain ⟨type, state, htype, -⟩ := bind_eq_ok hdefine
  exact ⟨type, state, htype⟩

/-- The object that is declared for a composed schema, with its fields. -/
structure Composes (members : Members) (fields : List Field) : Prop where
  nodup : (fields.map Field.name).Nodup
  names : ∀ name, name ∈ fields.map Field.name ↔
    ∃ property ∈ Schema.composedProperties members, name = .text property.1
  required : ∀ field ∈ fields, ∀ name, field.name = .text name →
    (field.required = true ↔ name ∈ Schema.composedNames members)

theorem composes_of_forall₂ {members table : Members} {fields : List Field} {names : Set String}
    (hfields : List.Forall₂ (IsFieldOf names) table fields) (hdistinct : table.Distinct)
    (hoverrides : Overrides (Schema.all table) (Schema.composedProperties members))
    (hnames : names = Schema.composedNames members) : Composes members fields := by
  have hmap : fields.map Field.name = table.map fun member => .text member.1 := by
    clear hdistinct hoverrides
    induction hfields with
    | nil => rfl
    | cons hfirst _ ih => rw [List.map_cons, List.map_cons, hfirst.1, ih]
  refine ⟨?_, fun name => ?_, fun field hfield name hname => ?_⟩
  · have htexts : (table.map fun member => PropertyName.text member.1) =
        (table.map Prod.fst).map PropertyName.text := by
      rw [List.map_map]
      rfl
    rw [hmap, htexts]
    exact List.Nodup.map (fun name other heq => PropertyName.text.inj heq) hdistinct
  · rw [hmap, List.mem_map]
    constructor
    · rintro ⟨member, hmember, rfl⟩
      exact ⟨member, hoverrides.sub hmember, rfl⟩
    · rintro ⟨property, hproperty, rfl⟩
      obtain ⟨value, hvalue⟩ := hoverrides.names property hproperty
      exact ⟨_, hvalue, rfl⟩
  · obtain ⟨member, -, hmember, hrequired⟩ := exists_of_mem_left hfields.flip hfield
    have heq : member.1 = name := PropertyName.text.inj (hmember.symm.trans hname)
    rw [← hnames, ← heq]
    exact hrequired

/-- **Composed schemas are declared with the properties that are laid in.** -/
theorem analyze_composed {members : Members} (h : Composed members)
    (hsome : (Schema.composedProperties members).Nonempty) :
    (∀ catalog, analyze [.obj members] = .ok catalog → ∃ before declaration fields state,
      catalog = before ++ [declaration] ∧ declaration.shape = .object fields ∧
      Composes members fields ∧
      typeRef (.obj members) (rootHint 0 members) {} = .ok (.named declaration.name false, state) ∧
      state.declarations = catalog) ∧
    ((∀ property ∈ Schema.composedProperties members, Analyzable property.2) →
      ∃ catalog, analyze [.obj members] = .ok catalog) ∧
    ((∀ outer, IsPart members outer → ((partsOf outer).filter (·.has "allOf")).length ≤ 1) →
      ∀ part, IsLaid members part ↔ IsPart members part) := by
  obtain ⟨folded, hfolded, hnone, hrun, hoverrides, hneeded⟩ := exists_folded h
  have hsome' : (declared folded).Nonempty := by
    obtain ⟨property, hproperty⟩ := hsome
    obtain ⟨value, hvalue⟩ := hoverrides.names property hproperty
    exact ⟨_, hvalue⟩
  obtain ⟨table, hproperties, hne, hdistinct, hdeclared⟩ := exists_properties hfolded hsome'
  obtain ⟨texts, hrequired, htexts⟩ := exists_requiredNames hfolded
  obtain ⟨hint, hhint⟩ := exists_rootHint h.clauses
  obtain ⟨base, hbase⟩ := exists_baseName (Schema.title ⟨folded, none⟩) hint
  obtain ⟨key, hkey⟩ : ∃ key, Schema.structureText ⟨folded, none⟩ = .ok key := ⟨_, rfl⟩
  -- the walk of the schema is that of what is left of it, which needs a declaration
  have hwalk : typeRef (.obj members) (rootHint 0 members) {} =
      (fieldsOf (Name.fresh [] base) (texts.map .str) (.ofMembers table) >>= fun fields =>
        leave ⟨folded, none⟩ (Name.fresh [] base) (.object fields))
        (State.begin {} key (Name.fresh [] base) (Schema.title ⟨folded, none⟩)) := by
    rw [hhint, typeRef, hrun, schemaRef_folded hfolded hnone hproperties hne hrequired,
      bind_of_ok (enter_of_base hkey rfl hbase)]
  have hdefinitions := definitionsOf_of_clauses h.clauses
  refine ⟨?_, ?_, ?_⟩
  · intro catalog hcatalog
    obtain ⟨type, state, htype⟩ := exists_typeRef_of_analyze hcatalog
    rw [hwalk] at htype
    obtain ⟨fields, middle, hfields, hleave⟩ := bind_eq_ok htype
    obtain ⟨rfl, rfl⟩ := leave_eq_ok hleave
    have hall := analyze_of_typeRef hdefinitions (hwalk.trans htype)
    obtain rfl := Except.ok.inj (hcatalog.symm.trans hall)
    refine ⟨_, _, fields, _, rfl, rfl, ?_, hwalk.trans htype, rfl⟩
    refine composes_of_forall₂ (forall₂_of_fieldsOf hfields) hdistinct ?_ (htexts.symm.trans hneeded)
    rwa [← hdeclared]
  · intro hvalues
    have htable : ∀ member ∈ table, Analyzable member.2 := by
      intro member hmember
      refine hvalues member (hoverrides.sub ?_)
      rw [hdeclared]
      exact hmember
    obtain ⟨⟨fields, middle⟩, hfields⟩ := exists_fieldsOf htable (Name.fresh [] base) (texts.map .str)
      (State.begin {} key (Name.fresh [] base) (Schema.title ⟨folded, none⟩))
    exact ⟨_, analyze_of_typeRef hdefinitions (hwalk.trans (bind_of_ok hfields))⟩
  · exact fun hone part => ⟨IsLaid.isPart, IsPart.isLaid hone⟩

/-! ### Parts that are dropped -/

/-- A part with one property, of texts. -/
def textPart (name : String) : Members :=
  [("properties", .obj [(name, .obj [("type", .str "string")])])]

/-- A part of that part alone. -/
def wrappedPart (name : String) : Members :=
  [("allOf", .arr [.obj (textPart name)])]

/-- A schema of two such parts. -/
def splitSchema : Members :=
  [("title", .str "T"), ("allOf", .arr [.obj (wrappedPart "a"), .obj (wrappedPart "b")])]

theorem composed_splitSchema : Composed splitSchema := by
  have htext (name : String) : Composed (textPart name) := by
    refine .mk (List.nodup_singleton _) ?_ nofun
    exact List.forall_mem_singleton.2 (.properties (List.nodup_singleton _))
  have hwrapped (name : String) : Composed (wrappedPart name) :=
    .mk (List.nodup_singleton _) (List.forall_mem_singleton.2 (.allOf [textPart name]))
      (List.forall_mem_singleton.2 (htext name))
  have hdistinct : splitSchema.Distinct := by
    unfold Members.Distinct
    decide
  refine .mk hdistinct (List.forall_mem_cons.2 ⟨.title "T", ?_⟩)
    (List.forall_mem_cons.2 ⟨hwrapped "a", List.forall_mem_singleton.2 (hwrapped "b")⟩)
  exact List.forall_mem_singleton.2 (.allOf [wrappedPart "a", wrappedPart "b"])

/-- The second round takes the part of the first part, and that is all. -/
theorem round_splitSchema {parts : List Members} (h : Round splitSchema parts) :
    parts = [wrappedPart "a", wrappedPart "b"] ∨ parts = [textPart "a"] ∨ parts = [] := by
  induction h with
  | first => exact .inl rfl
  | next _ ih =>
    rcases ih with rfl | rfl | rfl
    · exact .inr (.inl rfl)
    · exact .inr (.inr rfl)
    · exact .inr (.inr rfl)

theorem composedProperties_splitSchema :
    Schema.composedProperties splitSchema = {("a", .obj [("type", .str "string")])} := by
  have htext : declared (textPart "a") = Schema.all [("a", .obj [("type", .str "string")])] :=
    Schema.declared_of_get? rfl
  ext property
  constructor
  · rintro ⟨part, rfl | ⟨parts, hround, hpart⟩, hproperty⟩
    · rw [Schema.declared_of_none rfl] at hproperty
      exact hproperty.elim
    · rcases round_splitSchema hround with rfl | rfl | rfl
      · have hnone : ∀ part ∈ [wrappedPart "a", wrappedPart "b"], part.get? "properties" = none :=
          List.forall_mem_cons.2 ⟨rfl, List.forall_mem_singleton.2 rfl⟩
        rw [Schema.declared_of_none (hnone part hpart)] at hproperty
        exact hproperty.elim
      · obtain rfl := List.mem_singleton.1 hpart
        rw [htext] at hproperty
        exact List.mem_singleton.1 hproperty
      · cases hpart
  · rintro rfl
    refine ⟨textPart "a", .inr ⟨[textPart "a"], Round.first.next, List.mem_cons_self⟩, ?_⟩
    rw [htext]
    exact List.mem_cons_self

theorem analyzable_text : Analyzable (.obj [("type", .str "string")]) := by
  intro hint state
  have hopen : IsOpen ⟨[("type", .str "string")], none⟩ := ⟨fun ref h => (by cases h), rfl, rfl⟩
  refine ⟨(.primitive .string, state), ?_⟩
  rw [typeRef, schemaRef_open hopen]
  change plainRef _ _ (.str "string") _ = _
  rw [plainRef_eq]
  rfl

/-- The property of the second part is lost. -/
theorem analyze_composed_split :
    Composed splitSchema ∧ (Schema.composedProperties splitSchema).Nonempty ∧
    IsPart splitSchema (textPart "b") ∧
    ∃ before declaration fields, analyze [.obj splitSchema] = .ok (before ++ [declaration]) ∧
      declaration.shape = .object fields ∧ ∀ name, name ∈ fields.map Field.name ↔ name = .text "a" := by
  have hsome : (Schema.composedProperties splitSchema).Nonempty := by
    rw [composedProperties_splitSchema]
    exact Set.singleton_nonempty _
  have hpart : IsPart splitSchema (textPart "b") := by
    have houter : IsPart splitSchema (wrappedPart "b") :=
      .part .self (List.mem_cons_of_mem _ List.mem_cons_self)
    exact .part houter List.mem_cons_self
  obtain ⟨hobject, hruns, -⟩ := analyze_composed composed_splitSchema hsome
  obtain ⟨catalog, hcatalog⟩ := hruns (by
    rw [composedProperties_splitSchema]
    rintro property rfl
    exact analyzable_text)
  obtain ⟨before, declaration, fields, -, rfl, hshape, hfields, -⟩ := hobject catalog hcatalog
  refine ⟨composed_splitSchema, hsome, hpart, before, declaration, fields, hcatalog, hshape, fun name => ?_⟩
  rw [hfields.names, composedProperties_splitSchema]
  constructor
  · rintro ⟨property, rfl, heq⟩
    exact heq
  · exact fun heq => ⟨_, rfl, heq⟩

end Analysis

end SchemaPress
