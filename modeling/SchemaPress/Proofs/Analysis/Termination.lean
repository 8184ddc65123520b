import SchemaPress.Proofs.Analysis.Derivation
import SchemaPress.Proofs.Schema.Folding

/-!
# The analysis comes to an end

The walk is told once more as a single step, in which the types of the schemas that it goes on to are asked
of another walk (`schemaIn`). Which schemas these are is said by `Calls`: an alternative, the schema with its
`allOf` folded in, the schema restricted to one of its types, a property, the items.

Folding can make a schema larger, since the type and the list of required properties are made up, and it can
leave an `allOf` there; a restriction keeps most of the schema. What goes down is the rank, which weighs three
heights: a part is less deep, what is left of `allOf` is lower, and so is one of several types
(`Calls.rank_lt`). So no more schemas are inside each other in a walk than the rank says, and a walk that is
cut off below so many comes to the same whatever it is told there (`agrees_schemaWithin`). For all walks of an
analysis together, the height of the values says how many are enough (`analyze_terminates`). No question that
is asked of a schema on the way is one without an end either (`Schema.Halts`), so an analysis comes to
declarations or to an error.
-/

namespace SchemaPress

namespace Schema

/-! ### Questions about a schema -/

/-- A result that is not that of a task without an end. -/
def Halts {α : Type} (result : Except Crash α) : Prop :=
  result ≠ .error .endless

theorem halts_ok {α : Type} (a : α) : Halts (.ok a) := nofun

theorem halts_error {α : Type} {cause : Crash} (h : cause ≠ .endless) :
    Halts (.error cause : Except Crash α) :=
  fun heq => h (Except.error.inj heq)

theorem halts_wrongKind {α : Type} : Halts (.error .wrongKind : Except Crash α) :=
  halts_error Crash.noConfusion

theorem halts_bind {α β : Type} {x : Except Crash α} {f : α → Except Crash β} (hx : Halts x)
    (hf : ∀ a, Halts (f a)) : Halts (x >>= f) := by
  cases x with
  | error cause => exact halts_error fun heq => hx (congrArg Except.error heq)
  | ok a => exact hf a

theorem halts_ite {α : Type} {c : Prop} [Decidable c] {x y : Except Crash α} (hx : Halts x) (hy : Halts y) :
    Halts (if c then x else y) := by
  split
  · exact hx
  · exact hy

/-! ### Elements and rows -/

theorem halts_elementsOf (value : Json) : Halts (elementsOf value) := by
  unfold elementsOf
  split
  · exact halts_ok _
  · exact halts_wrongKind

theorem halts_ownElements (value : Option Json) : Halts (ownElements value) := by
  unfold ownElements
  split
  · exact halts_ite (halts_elementsOf _) (halts_ok _)
  · exact halts_ok _

theorem halts_rowOf (pair : Json) : Halts (rowOf pair) := by
  unfold rowOf
  split
  · split
    · exact halts_ok _
    · exact halts_wrongKind
  · exact halts_error Crash.noConfusion
  · exact halts_wrongKind

theorem halts_mapM_rowOf (pairs : List Json) : Halts (pairs.mapM rowOf) := by
  induction pairs with
  | nil => exact halts_ok _
  | cons pair rest ih =>
    rw [List.mapM_cons]
    exact halts_bind (halts_rowOf pair) fun row => halts_bind ih fun rows => halts_ok _

theorem halts_rowsOf (value : Json) : Halts (rowsOf value) := by
  unfold rowsOf
  split
  · exact halts_ok _
  · split
    · exact halts_bind (halts_mapM_rowOf _) fun rows => halts_ok _
    · exact halts_wrongKind

theorem halts_ownRows (value : Option Json) : Halts (ownRows value) := by
  unfold ownRows
  split
  · exact halts_ite (halts_rowsOf _) (halts_ok _)
  · exact halts_ok _

/-! ### Folding -/

theorem halts_add (merging : Merging) (name : String) (value : Json) : Halts (merging.add name value) := by
  unfold Merging.add
  split
  · exact halts_bind (halts_rowsOf value) fun rows => halts_ok _
  · split
    · exact halts_bind (halts_elementsOf value) fun elements => halts_ok _
    · exact halts_ok _

theorem halts_addMembers (merging : Merging) (members : Members) : Halts (merging.addMembers members) := by
  induction members generalizing merging with
  | nil => exact halts_ok _
  | cons member rest ih =>
    rw [Merging.addMembers]
    exact halts_bind (halts_add merging member.1 member.2) ih

theorem halts_addParts (merging : Merging) (parts : List Json) : Halts (merging.addParts parts) := by
  induction parts generalizing merging with
  | nil => exact halts_ok _
  | cons part rest ih =>
    cases part with
    | obj members =>
      rw [Merging.addParts]
      exact halts_bind (halts_addMembers merging members) ih
    -- a part that is no object has nothing to lay in
    | _ => exact ih merging

theorem halts_startMerging (schema : Schema) : Halts schema.startMerging := by
  unfold startMerging
  split
  · exact halts_bind (halts_ok _) fun rows => halts_bind (halts_ownElements _) fun required => halts_ok _
  · exact halts_bind (halts_ownRows _) fun rows => halts_bind (halts_ownElements _) fun required => halts_ok _

/-- **Folding comes to an end.** -/
theorem halts_mergeAllOf (schema : Schema) (allOf : Json) : Halts (schema.mergeAllOf allOf) := by
  unfold mergeAllOf
  refine halts_bind (halts_startMerging schema) fun merging => ?_
  refine halts_bind (halts_elementsOf allOf) fun parts => ?_
  exact halts_bind (halts_addParts merging parts) fun merged => halts_ok _

/-! ### Structure, names and parts -/

theorem halts_structureText (schema : Schema) : Halts schema.structureText := by
  unfold structureText
  split
  · exact halts_ok _
  · split
    · exact halts_ok _
    · exact halts_wrongKind

theorem halts_baseName (title hint : Json) : Halts (Analysis.baseName title hint) := by
  unfold Analysis.baseName
  refine halts_ite ?_ (halts_ok _)
  cases hint with
  | str text => exact halts_ok _
  | _ => exact halts_wrongKind

theorem halts_requiredNames (schema : Schema) : Halts (Analysis.requiredNames schema) := by
  unfold Analysis.requiredNames
  refine halts_bind (halts_ownElements _) fun names => ?_
  split
  · exact halts_ok _
  · exact halts_wrongKind

theorem halts_propertiesOf (schema : Schema) : Halts (Analysis.propertiesOf schema) := by
  unfold Analysis.propertiesOf
  split
  · exact halts_ok _
  · split
    · exact halts_ok _
    · exact halts_error Crash.noConfusion

theorem halts_alternatives (schema : Schema) : Halts (Analysis.alternatives schema) := by
  unfold Analysis.alternatives
  split
  · split
    · exact halts_elementsOf _
    · exact halts_ownElements _
  · exact halts_ownElements _

/-! ### Types of folded schemas -/

/-- What folding starts from has the members of the schema. -/
theorem members_of_startMerging {schema : Schema} {merging : Merging}
    (h : schema.startMerging = .ok merging) : merging.members = Members.erase schema.members "allOf" := by
  unfold startMerging at h
  split at h
  all_goals
    obtain ⟨rows, -, h⟩ := Json.bind_eq_ok h
    obtain ⟨required, -, h⟩ := Json.bind_eq_ok h
    obtain rfl := Except.ok.inj h
    rfl

/-- The type after a member has been laid in is that of before or the value of the member. -/
theorem Merging.get?_type_add {merging merging' : Merging} {name : String} {value type : Json}
    (hadd : merging.add name value = .ok merging') (h : merging'.members.get? "type" = some type) :
    merging.members.get? "type" = some type ∨ type = value := by
  rcases Merging.add_eq_ok hadd with ⟨-, rows, -, rfl⟩ | ⟨-, elements, -, rfl⟩ | rfl
  · exact .inl h
  · exact .inl h
  · exact Members.get?_of_get?_putIfAbsent h

/-- The type of a finished schema has been laid in, unless the schema is one of objects by its properties. -/
theorem Merging.get?_type_finish {merging : Merging} {type : Json}
    (h : merging.finish.get? "type" = some type) :
    merging.members.get? "type" = some type ∨ type = .str "object" := by
  have hcomplete : merging.complete.get? "type" = merging.typed.get? "type" := by
    unfold Merging.complete
    split
    · rfl
    · exact Members.get?_put_of_ne (by decide)
  have hfinish : merging.finish.get? "type" = merging.typed.get? "type" := by
    rw [← hcomplete]
    unfold Merging.finish
    split
    · rfl
    · split
      · exact Members.get?_put_of_ne (by decide)
      · exact (Members.get?_erase _ _ _).trans (if_neg (by decide))
  rw [hfinish] at h
  unfold Merging.typed at h
  split at h
  · exact .inl h
  · exact Members.get?_of_get?_putIfAbsent h

/-- How high a schema is: its parts, counted from one, and its type. -/
def extent (schema : Schema) : Nat :=
  max (schema.depth + 1) schema.typeHeight

/-- **Folding makes no type that is higher than the schema**: it comes from a part or is made up. -/
theorem typeHeight_mergeAllOf_le {schema merged : Schema} {allOf : Json}
    (hget : schema.get? "allOf" = some allOf) (h : schema.mergeAllOf allOf = .ok merged) :
    merged.typeHeight ≤ schema.extent := by
  have hdepth : allOf.height ≤ schema.depth := height_le_depth hget rfl
  have start {merging : Merging} (hstart : schema.startMerging = .ok merging) (type : Json)
      (htype : merging.members.get? "type" = some type) : type.height < schema.extent := by
    rw [members_of_startMerging hstart, Members.get?_erase, if_neg (by decide)] at htype
    have hheight : schema.typeHeight = type.height + 1 := by
      unfold typeHeight heightOf
      rw [show schema.get? "type" = some type from htype]
    unfold extent
    omega
  have add {merging merging' : Merging} {name : String} {value : Json}
      (hI : ∀ type, merging.members.get? "type" = some type → type.height < schema.extent)
      (hvalue : value.height < schema.extent) (hadd : merging.add name value = .ok merging') (type : Json)
      (htype : merging'.members.get? "type" = some type) : type.height < schema.extent := by
    rcases Merging.get?_type_add hadd htype with hmem | rfl
    · exact hI type hmem
    · exact hvalue
  have parts (items : List Json) (members : Members) (hitems : allOf = .arr items)
      (hmem : .obj members ∈ items) (member : String × Json) (hmember : member ∈ members) :
      member.2.height < schema.extent := by
    have hpart : Json.height (.obj members) ≤ allOf.height :=
      Json.height_le_of_mem_elements (by rw [hitems]; rfl) hmem
    have hvalue : member.2.height ≤ Json.heightMembers members := Json.height_le_of_mem_members hmember
    rw [Json.height] at hpart
    unfold extent
    omega
  obtain ⟨merging, rfl, hmerging⟩ := folding h start add parts
  unfold typeHeight heightOf
  split
  · next type htype =>
    rcases Merging.get?_type_finish htype with hmem | rfl
    · exact hmerging type hmem
    · show 1 ≤ schema.extent
      unfold extent
      omega
  · exact Nat.zero_le _

end Schema

namespace Analysis

/-! ### One step of the walk -/

section Step

variable (self : Schema → Json → Run TypeRef)

/-- The type of a value: of an object that of the schema, and what is no object says nothing. -/
def valueIn (value hint : Json) : Run TypeRef :=
  match value with
  | .obj members => self ⟨members, none⟩ hint
  | _ => pure .any

/-- The properties of the declaration `name`. -/
def fieldsIn (name : String) (required : List Json) : PropertyTable → Run (List Field)
  | [] => return []
  | (property, value) :: rest => do
    let type ← valueIn self value (.str (name ++ " " ++ property.display))
    let field : Field :=
      ⟨property, type, Schema.holds required property.toJson, descriptionOf value⟩
    return field :: (← fieldsIn name required rest)

/-- The variants that alternatives come down to. -/
def variantsIn (name : String) (index : Nat) (options : List Json) (variants : List TypeRef) :
    Run (List TypeRef) :=
  match options with
  | [] => return variants
  | option :: rest => do
    let variant ← valueIn self option (.str (name ++ " " ++ toString index))
    variantsIn name (index + 1) rest (addVariant variants variant)

/-- The variants that several allowed types come down to. -/
def typeVariantsIn (schema : Schema) (hint : Json) (types : List Json) (variants : List TypeRef) :
    Run (List TypeRef) :=
  match types with
  | [] => return variants
  | type :: rest => do
    let variant ← self (schema.restrict type) hint
    typeVariantsIn schema hint rest (addVariant variants variant)

/-- The type of a schema that allows at most one type and has no alternatives. -/
def plainIn (schema : Schema) (hint type : Json) : Run TypeRef :=
  if isObjectLike schema type then
    if hasFields schema then do
      match ← enter schema hint with
      | .known name => return .named name false
      | .fresh name =>
        let required ← orCrash (requiredNames schema)
        let table ← orCrash (propertiesOf schema)
        leave schema name (.object (← fieldsIn self name required table))
    else return .primitive .object
  else if isArrayLike schema type then
    match itemsOf? schema with
    | some members => do return .array (← self ⟨members, none⟩ (itemHint hint))
    | none => return .array .any
  else
    match type.str?.bind Primitive.ofTypeName? with
    | some primitive => return .primitive primitive
    | none => return .any

/-- The type of a schema that is no back edge, no enum and has no alternatives. -/
def openIn (schema : Schema) (hint : Json) : Run TypeRef :=
  match schema.get? "allOf" with
  | some allOf => do self (← orCrash (schema.mergeAllOf allOf)) hint
  | none =>
    match typesOf schema with
    | .inl type => plainIn self schema hint type
    | .inr types => do
      let key ← orCrash schema.structureText
      match ← nameOf? key with
      | some name => return .named name false
      | none =>
        let variants ← typeVariantsIn self schema hint types []
        let name ← reserve schema.title hint
        learn key name
        declare ⟨name, descriptionOf (.obj schema.members), .union variants⟩
        return .named name false

/-- **One step of the walk**: the type of an object schema, where the types of the schemas that it goes on to
are those that `self` finds. -/
def schemaIn (schema : Schema) (hint : Json) : Run TypeRef :=
  match schema.get? "$ref" with
  | some (.str ref) => do return .named (← backEdgeName schema ref) true
  | _ =>
    if schema.has "enum" || schema.has "const" then do
      match ← enter schema hint with
      | .known name => return .named name false
      | .fresh name =>
        match enumValues schema name with
        | .ok values => leave schema name (.enum values)
        | .error stop => throw stop
    else if schema.has "oneOf" || schema.has "anyOf" then do
      match ← enter schema hint with
      | .known name => return .named name false
      | .fresh name =>
        let options ← orCrash (alternatives schema)
        leave schema name (.union (← variantsIn self name 0 options []))
    else openIn self schema hint

end Step

/-! ### The walk is its own step -/

/-- What is done with a result unless it is a crash. -/
theorem orCrash_bind {α β : Type} (result : Except Crash α) (f : α → Run β) :
    orCrash result >>= f = match result with
      | .ok a => f a
      | .error cause => throw (.crash cause) := by
  cases result with
  | ok a => rfl
  | error cause => rfl

theorem typeRef_eq (value hint : Json) : typeRef value hint = valueIn schemaRef value hint := by
  unfold valueIn
  split
  · rw [typeRef]
  · next hno =>
    rw [typeRef]
    exact hno

theorem fieldsOf_eq (name : String) (required : List Json) (table : PropertyTable) :
    fieldsOf name required table = fieldsIn schemaRef name required table := by
  induction table with
  | nil => rw [fieldsOf]; rfl
  | cons row rest ih =>
    rw [fieldsOf, fieldsIn, typeRef_eq, ih]

theorem variantsOf_eq (name : String) (index : Nat) (options : List Json) (variants : List TypeRef) :
    variantsOf name index options variants = variantsIn schemaRef name index options variants := by
  induction options generalizing index variants with
  | nil => rw [variantsOf]; rfl
  | cons option rest ih =>
    rw [variantsOf, variantsIn, typeRef_eq]
    exact bind_congr fun variant => ih _ _

theorem typeVariantsOf_eq (schema : Schema) (hint : Json) (types : List Json) (variants : List TypeRef) :
    typeVariantsOf schema hint types variants = typeVariantsIn schemaRef schema hint types variants := by
  induction types generalizing variants with
  | nil => rw [typeVariantsOf]; rfl
  | cons type rest ih =>
    rw [typeVariantsOf, typeVariantsIn]
    exact bind_congr fun variant => ih _

theorem plainRef_eq_plainIn (schema : Schema) (hint type : Json) :
    plainRef schema hint type = plainIn schemaRef schema hint type := by
  rw [plainRef_eq]
  unfold plainIn
  congr 1
  · congr 1
    refine bind_congr fun entrance => ?_
    cases entrance with
    | known name => rfl
    | fresh name =>
      refine bind_congr fun required => ?_
      rw [orCrash_bind]
      cases propertiesOf schema with
      | ok table => simp only [fieldsOf_eq]
      | error cause => rfl
  · congr 1
    cases itemsOf? schema with
    | some members =>
      simp only [typeRef_eq]
      rfl
    | none => rfl

/-- **The walk is a step whose schemas are left to the walk.** -/
theorem schemaRef_eq (schema : Schema) (hint : Json) :
    schemaRef schema hint = schemaIn schemaRef schema hint := by
  unfold schemaIn
  split
  · next ref href => rw [schemaRef_ref href]
  · next href =>
    split
    · next henum => exact schemaRef_enum href henum
    · next henum =>
      split
      · next hunion =>
        rw [schemaRef_union href (by simpa using henum) hunion]
        refine bind_congr fun entrance => ?_
        cases entrance with
        | known name => rfl
        | fresh name =>
          simp only
          rw [orCrash_bind]
          cases alternatives schema with
          | ok options => simp only [variantsOf_eq]
          | error cause => rfl
      · next hunion =>
        rw [schemaRef_open (isOpen href henum hunion), openIn]
        cases schema.get? "allOf" with
        | some allOf =>
          simp only
          rw [orCrash_bind]
          cases schema.mergeAllOf allOf with
          | ok merged => rfl
          | error cause => rfl
        | none =>
          cases typesOf schema with
          | inl type => exact plainRef_eq_plainIn ..
          | inr types =>
            refine bind_congr fun key => bind_congr fun found => ?_
            cases found with
            | some name => rfl
            | none => simp only [typeVariantsOf_eq]

/-! ### What a step goes on to -/

/-- **The schemas whose types are asked for in a step.** -/
inductive Calls (schema : Schema) : Schema → Prop where
  /-- An alternative. -/
  | option {options : List Json} {members : Members} (h : alternatives schema = .ok options)
      (hmem : .obj members ∈ options) : Calls schema ⟨members, none⟩
  /-- The schema with its `allOf` folded in. -/
  | merged {allOf : Json} {merged : Schema} (hget : schema.get? "allOf" = some allOf)
      (h : schema.mergeAllOf allOf = .ok merged) : Calls schema merged
  /-- The schema for one of several types. -/
  | restricted {types : List Json} {type : Json} (hget : schema.get? "allOf" = none)
      (h : schema.get? "type" = some (.arr types)) (hmem : type ∈ types) : Calls schema (schema.restrict type)
  /-- A property. -/
  | property {table : PropertyTable} {name : PropertyName} {members : Members}
      (h : propertiesOf schema = .ok table) (hmem : (name, .obj members) ∈ table) :
      Calls schema ⟨members, none⟩
  /-- The items. -/
  | items {members : Members} (h : schema.get? "items" = some (.obj members)) : Calls schema ⟨members, none⟩

/-- What is left to fold and to restrict: the levels of `allOf`, and the types behind them. -/
def slack (schema : Schema) : Nat :=
  if schema.allOfHeight = 0 then schema.typeHeight else schema.allOfHeight + schema.extent

/-- **The rank of a schema**: how deep it is, and for each level how much there is to fold and to restrict
at most. -/
def rank (schema : Schema) : Nat :=
  schema.depth * (2 * schema.extent + 1) + slack schema

theorem slack_le (schema : Schema) : slack schema ≤ 2 * schema.extent := by
  have hallOf : schema.allOfHeight ≤ schema.depth + 1 := by
    unfold Schema.allOfHeight Schema.heightOf
    split
    · next allOf hget => exact Nat.succ_le_succ (Schema.height_le_depth hget rfl)
    · exact Nat.zero_le _
  unfold slack Schema.extent
  split
  · omega
  · omega

/-- A schema that is no deeper, with less to fold and to restrict, is of a smaller rank. -/
theorem rank_lt_of_slack_lt {schema callee : Schema} (hdepth : callee.depth ≤ schema.depth)
    (hextent : callee.extent ≤ schema.extent) (hslack : slack callee < slack schema) :
    rank callee < rank schema := by
  have hmul : callee.depth * (2 * callee.extent + 1) ≤ schema.depth * (2 * schema.extent + 1) :=
    Nat.mul_le_mul hdepth (by omega)
  unfold rank
  omega

/-- The rank of the schema that a value is. -/
theorem rank_lt_of_height_le {members : Members} {height extent : Nat}
    (h : (Json.obj members).height ≤ height) (hextent : height ≤ extent) :
    rank ⟨members, none⟩ < height * (2 * extent + 1) := by
  have hdepth := Schema.depth_lt_height members
  have htype : Schema.typeHeight ⟨members, none⟩ ≤ (Json.obj members).height := by
    unfold Schema.typeHeight Schema.heightOf
    split
    · next type hget =>
      have hvalue : type.height ≤ Json.heightMembers members :=
        Json.height_le_of_mem_members (Members.mem_of_get? hget)
      rw [Json.height]
      omega
    · exact Nat.zero_le _
  have hown : Schema.extent ⟨members, none⟩ ≤ extent := by
    unfold Schema.extent
    omega
  calc rank ⟨members, none⟩
      ≤ Schema.depth ⟨members, none⟩ * (2 * extent + 1) + 2 * extent := by
        refine Nat.add_le_add (Nat.mul_le_mul (Nat.le_refl _) (by omega)) ?_
        exact Nat.le_trans (slack_le _) (Nat.mul_le_mul (Nat.le_refl _) hown)
    _ < (Schema.depth ⟨members, none⟩ + 1) * (2 * extent + 1) := by
        rw [Nat.add_mul, Nat.one_mul]
        omega
    _ ≤ height * (2 * extent + 1) := Nat.mul_le_mul (by omega) (Nat.le_refl _)

/-- The schema of a part of a schema is of a smaller rank. -/
theorem rank_lt_of_part {schema : Schema} {members : Members}
    (h : (Json.obj members).height ≤ schema.depth) : rank ⟨members, none⟩ < rank schema := by
  have hextent : schema.depth ≤ schema.extent := by
    unfold Schema.extent
    omega
  exact Nat.lt_of_lt_of_le (rank_lt_of_height_le h hextent) (Nat.le_add_right _ _)

/-- **A step goes on to schemas of a smaller rank.** -/
theorem Calls.rank_lt {schema callee : Schema} (h : Calls schema callee) : rank callee < rank schema := by
  cases h with
  | option h hmem =>
    exact rank_lt_of_part (Nat.le_trans (Json.height_le_of_mem_items hmem) (height_le_of_alternatives h))
  | merged hget h =>
    have hdepth := Schema.depth_mergeAllOf_le hget h
    have hallOf := Schema.allOfHeight_mergeAllOf_lt hget h
    have htype := Schema.typeHeight_mergeAllOf_le hget h
    have hextent : callee.extent ≤ schema.extent := by
      unfold Schema.extent at *
      omega
    refine rank_lt_of_slack_lt hdepth hextent ?_
    unfold slack
    rw [if_neg (c := schema.allOfHeight = 0) (by omega)]
    split
    · omega
    · omega
  | @restricted types type hget h hmem =>
    have hdepth := Schema.depth_restrict_le schema type
    have hallOf := Schema.allOfHeight_restrict_le schema type
    have hnone : schema.allOfHeight = 0 := by
      unfold Schema.allOfHeight Schema.heightOf
      rw [hget]
    have htypes : schema.typeHeight = Json.heightItems types + 2 := by
      unfold Schema.typeHeight Schema.heightOf
      rw [h]
      simp only [Json.height]
    have htype := Schema.typeHeight_restrict schema type
    have hitem := Json.height_le_of_mem_items hmem
    refine rank_lt_of_slack_lt hdepth ?_ ?_
    · unfold Schema.extent
      omega
    · unfold slack
      rw [if_pos hnone, if_pos (by omega)]
      omega
  | property h hmem =>
    exact rank_lt_of_part
      (Nat.le_trans (PropertyTable.height_le_of_mem hmem) (height_le_of_propertiesOf h))
  | items h => exact rank_lt_of_part (Schema.height_le_depth h rfl)

/-- **The recursion of the walk is well-founded.** -/
theorem wellFounded_calls : WellFounded fun callee schema => Calls schema callee :=
  Subrelation.wf (fun h => h.rank_lt) (measure rank).wf

/-! ### Walks that are cut off -/

/-- **Runs that are the same and come to an end**: they have one answer, which is not that of a task without
an end. -/
structure Agrees {α : Type} (x y : Run α) : Prop where
  eq : x = y
  halts : ∀ state, y state ≠ .error (.crash .endless)

section Agrees

variable {α β : Type} {x y : Run α} {f g : α → Run β}

theorem agrees_pure (a : α) : Agrees (pure a) (pure a) :=
  ⟨rfl, fun _ => nofun⟩

theorem agrees_get : Agrees get get :=
  ⟨rfl, fun _ => nofun⟩

theorem agrees_modify (change : State → State) : Agrees (modify change) (modify change) :=
  ⟨rfl, fun _ => nofun⟩

theorem agrees_throw {stop : Stop AnalysisError} (h : stop ≠ .crash .endless) :
    Agrees (throw stop : Run α) (throw stop) :=
  ⟨rfl, fun _ heq => h (Except.error.inj heq)⟩

/-- One run behind another. -/
theorem Agrees.bind (h : Agrees x y) (hf : ∀ a, Agrees (f a) (g a)) : Agrees (x >>= f) (y >>= g) where
  eq := by rw [h.eq, funext fun a => (hf a).eq]
  halts := by
    intro state heq
    change (y state >>= fun p => g p.1 p.2) = _ at heq
    cases hy : y state with
    | error stop =>
      rw [hy] at heq
      exact h.halts state (hy.trans (congrArg Except.error (Except.error.inj heq)))
    | ok p =>
      rw [hy] at heq
      exact (hf p.1).halts p.2 heq

theorem agrees_orCrash {result : Except Crash α} (h : Schema.Halts result) :
    Agrees (orCrash result) (orCrash result) := by
  cases result with
  | error cause => exact agrees_throw fun heq => h (congrArg Except.error (Stop.crash.inj heq))
  | ok a => exact agrees_pure a

/-- What is done with the answer to a question. -/
theorem agrees_orCrash_bind {result : Except Crash α} (h : Schema.Halts result)
    (hf : ∀ a, result = .ok a → Agrees (f a) (g a)) : Agrees (orCrash result >>= f) (orCrash result >>= g) := by
  cases result with
  | error cause => exact agrees_throw fun heq => h (congrArg Except.error (Stop.crash.inj heq))
  | ok a => exact hf a rfl

end Agrees

theorem agrees_nameOf? (key : String) : Agrees (nameOf? key) (nameOf? key) :=
  agrees_get.bind fun _ => agrees_pure _

theorem agrees_reserve (title hint : Json) : Agrees (reserve title hint) (reserve title hint) := by
  unfold reserve
  refine (agrees_orCrash (Schema.halts_baseName title hint)).bind fun base => ?_
  refine agrees_get.bind fun state => ?_
  exact Agrees.bind ⟨rfl, fun _ => nofun⟩ fun _ => agrees_pure _

theorem agrees_enter (schema : Schema) (hint : Json) : Agrees (enter schema hint) (enter schema hint) := by
  unfold enter
  refine (agrees_orCrash (Schema.halts_structureText schema)).bind fun key => ?_
  refine (agrees_nameOf? key).bind fun found => ?_
  cases found with
  | some name => exact agrees_pure _
  | none =>
    refine (agrees_reserve schema.title hint).bind fun name => ?_
    exact (agrees_modify _).bind fun _ => (agrees_modify _).bind fun _ => agrees_pure _

theorem agrees_leave (schema : Schema) (name : String) (shape : Shape) :
    Agrees (leave schema name shape) (leave schema name shape) :=
  (agrees_modify _).bind fun _ => (agrees_modify _).bind fun _ => agrees_pure _

theorem agrees_backEdgeName (schema : Schema) (ref : String) :
    Agrees (backEdgeName schema ref) (backEdgeName schema ref) := by
  unfold backEdgeName
  refine agrees_get.bind fun state => ?_
  split
  · exact agrees_pure _
  · exact agrees_orCrash (Schema.halts_baseName _ _)

theorem agrees_enumValues (schema : Schema) (name : String) :
    Agrees (match enumValues schema name with
      | .ok values => leave schema name (.enum values)
      | .error stop => throw stop)
      (match enumValues schema name with
      | .ok values => leave schema name (.enum values)
      | .error stop => throw stop) := by
  have hstop {stop : Stop AnalysisError} (hvalues : enumValues schema name = .error stop) :
      stop ≠ .crash .endless := by
    rintro rfl
    unfold enumValues at hvalues
    split at hvalues
    · cases hvalues
    · cases hvalues
    · cases hvalues
  cases hvalues : enumValues schema name with
  | ok values => exact agrees_leave ..
  | error stop => exact agrees_throw (hstop hvalues)

/-! ### One step of two walks -/

section Step

variable {self self' : Schema → Json → Run TypeRef}

theorem agrees_valueIn {value : Json} (hint : Json)
    (h : ∀ members, value = .obj members → ∀ hint, Agrees (self ⟨members, none⟩ hint) (self' ⟨members, none⟩ hint)) :
    Agrees (valueIn self value hint) (valueIn self' value hint) := by
  cases value with
  | obj members => exact h members rfl hint
  | _ => exact agrees_pure _

theorem agrees_fieldsIn (name : String) (required : List Json) {table : PropertyTable}
    (h : ∀ property members, (property, .obj members) ∈ table →
      ∀ hint, Agrees (self ⟨members, none⟩ hint) (self' ⟨members, none⟩ hint)) :
    Agrees (fieldsIn self name required table) (fieldsIn self' name required table) := by
  induction table with
  | nil => exact agrees_pure _
  | cons row rest ih =>
    refine (agrees_valueIn _ fun members heq => ?_).bind fun type => ?_
    · exact h row.1 members (heq ▸ List.mem_cons_self)
    · exact (ih fun property members hmem => h property members (List.mem_cons_of_mem _ hmem)).bind
        fun fields => agrees_pure _

theorem agrees_variantsIn (name : String) (index : Nat) {options : List Json} (variants : List TypeRef)
    (h : ∀ members, .obj members ∈ options →
      ∀ hint, Agrees (self ⟨members, none⟩ hint) (self' ⟨members, none⟩ hint)) :
    Agrees (variantsIn self name index options variants) (variantsIn self' name index options variants) := by
  induction options generalizing index variants with
  | nil => exact agrees_pure _
  | cons option rest ih =>
    refine (agrees_valueIn _ fun members heq => ?_).bind fun variant => ?_
    · exact h members (heq ▸ List.mem_cons_self)
    · exact ih _ _ fun members hmem => h members (List.mem_cons_of_mem _ hmem)

theorem agrees_typeVariantsIn {schema : Schema} (hint : Json) {types : List Json} (variants : List TypeRef)
    (h : ∀ type ∈ types, ∀ hint, Agrees (self (schema.restrict type) hint) (self' (schema.restrict type) hint)) :
    Agrees (typeVariantsIn self schema hint types variants) (typeVariantsIn self' schema hint types variants) := by
  induction types generalizing variants with
  | nil => exact agrees_pure _
  | cons type rest ih =>
    refine (h type List.mem_cons_self hint).bind fun variant => ?_
    exact ih _ fun other hother => h other (List.mem_cons_of_mem _ hother)

variable {schema : Schema}
  (h : ∀ callee, Calls schema callee → ∀ hint, Agrees (self callee hint) (self' callee hint))

include h

theorem agrees_plainIn (hint type : Json) :
    Agrees (plainIn self schema hint type) (plainIn self' schema hint type) := by
  unfold plainIn
  split
  · split
    · refine (agrees_enter schema hint).bind fun entrance => ?_
      cases entrance with
      | known name => exact agrees_pure _
      | fresh name =>
        refine (agrees_orCrash (Schema.halts_requiredNames schema)).bind fun required => ?_
        refine agrees_orCrash_bind (Schema.halts_propertiesOf schema) fun table htable => ?_
        refine (agrees_fieldsIn _ _ fun property members hmem => ?_).bind fun fields => agrees_leave ..
        exact h _ (.property htable hmem)
    · exact agrees_pure _
  · split
    · split
      · next members hitems =>
        exact (h _ (.items (get?_of_itemsOf? hitems)) _).bind fun items => agrees_pure _
      · exact agrees_pure _
    · split
      · exact agrees_pure _
      · exact agrees_pure _

theorem agrees_openIn (hint : Json) : Agrees (openIn self schema hint) (openIn self' schema hint) := by
  unfold openIn
  split
  · next allOf hget =>
    exact agrees_orCrash_bind (Schema.halts_mergeAllOf schema allOf) fun merged hmerged =>
      h merged (.merged hget hmerged) hint
  · next hget =>
    split
    · exact agrees_plainIn h hint _
    · next types htypes =>
      refine (agrees_orCrash (Schema.halts_structureText schema)).bind fun key => ?_
      refine (agrees_nameOf? key).bind fun found => ?_
      cases found with
      | some name => exact agrees_pure _
      | none =>
        refine (agrees_typeVariantsIn _ _ fun type hmem => ?_).bind fun variants => ?_
        · exact h _ (.restricted hget (get?_of_typesOf htypes) hmem)
        · refine (agrees_reserve schema.title hint).bind fun name => ?_
          exact (agrees_modify _).bind fun _ => (agrees_modify _).bind fun _ => agrees_pure _

/-- **A step depends on the schemas that it goes on to only**, and comes to an end if their walks do. -/
theorem agrees_schemaIn (hint : Json) : Agrees (schemaIn self schema hint) (schemaIn self' schema hint) := by
  unfold schemaIn
  split
  · exact (agrees_backEdgeName schema _).bind fun name => agrees_pure _
  · split
    · refine (agrees_enter schema hint).bind fun entrance => ?_
      cases entrance with
      | known name => exact agrees_pure _
      | fresh name => exact agrees_enumValues schema name
    · split
      · refine (agrees_enter schema hint).bind fun entrance => ?_
        cases entrance with
        | known name => exact agrees_pure _
        | fresh name =>
          refine agrees_orCrash_bind (Schema.halts_alternatives schema) fun options hoptions => ?_
          refine (agrees_variantsIn _ _ _ fun members hmem => ?_).bind fun variants => agrees_leave ..
          exact h _ (.option hoptions hmem)
      · exact agrees_openIn h hint

end Step

/-! ### The whole analysis -/

/-- The walk that is cut off below so many schemas inside each other, where `bottom` says what the types
are. -/
def schemaWithin (bottom : Schema → Json → Run TypeRef) : Nat → Schema → Json → Run TypeRef
  | 0 => bottom
  | limit + 1 => schemaIn (schemaWithin bottom limit)

/-- **A walk that is cut off below the rank of its schema is the walk**, whatever it is told there. -/
theorem agrees_schemaWithin (bottom : Schema → Json → Run TypeRef) {limit : Nat} {schema : Schema}
    (h : rank schema < limit) (hint : Json) :
    Agrees (schemaWithin bottom limit schema hint) (schemaRef schema hint) := by
  induction limit generalizing schema hint with
  | zero => exact absurd h (Nat.not_lt_zero _)
  | succ limit ih =>
    rw [schemaRef_eq]
    refine agrees_schemaIn (fun callee hcall hint => ih ?_ hint) hint
    have hrank := hcall.rank_lt
    omega

/-- How many schemas are inside each other at most in the walk over a value of this height. -/
def limitFor (height : Nat) : Nat :=
  height * (2 * height + 1)

theorem limitFor_mono {height height' : Nat} (h : height ≤ height') : limitFor height ≤ limitFor height' :=
  Nat.mul_le_mul h (by omega)

/-- The walk over a value that is cut off far enough below. -/
theorem agrees_walk (bottom : Schema → Json → Run TypeRef) {limit : Nat} {value : Json}
    (h : limitFor value.height ≤ limit) (hint : Json) :
    Agrees (valueIn (schemaWithin bottom limit) value hint) (typeRef value hint) := by
  rw [typeRef_eq]
  refine agrees_valueIn hint fun members heq => agrees_schemaWithin bottom ?_
  subst heq
  exact Nat.lt_of_lt_of_le (rank_lt_of_height_le (Nat.le_refl _) (Nat.le_refl _)) h

/-- What is done with the type of a value: it gets another name if it needs none of its own. -/
def settle (value hint : Json) (type : TypeRef) : Run Unit :=
  match type with
  | .named _ false => return
  | _ => do
    let key ← orCrash (aliasKey value)
    match ← nameOf? key with
    | some _ => return
    | none =>
      let name ← reserve ((value.get? "title").getD .null) hint
      learn key name
      declare ⟨name, descriptionOf value, .alias type⟩

theorem agrees_settle (value hint : Json) (type : TypeRef) :
    Agrees (settle value hint type) (settle value hint type) := by
  have hkey : Schema.Halts (aliasKey value) := by
    unfold aliasKey
    split
    · exact Schema.halts_structureText _
    · exact Schema.halts_ok _
  unfold settle
  split
  · exact agrees_pure _
  · refine (agrees_orCrash hkey).bind fun key => ?_
    refine (agrees_nameOf? key).bind fun found => ?_
    cases found with
    | some name => exact agrees_pure _
    | none =>
      refine (agrees_reserve _ hint).bind fun name => ?_
      exact (agrees_modify _).bind fun _ => agrees_modify _

section Schemas

variable (walk : Json → Json → Run TypeRef)

/-- Makes sure that a schema has a declaration. -/
def defineIn (value hint : Json) : Run Unit :=
  walk value hint >>= settle value hint

/-- Defines the schemas, from the one of this index on. -/
def defineRootsIn (index : Nat) : List Json → Run Unit
  | [] => return
  | .obj members :: rest => do
    defineIn walk (.obj members) (rootHint index members)
    defineRootsIn (index + 1) rest
  | _ :: _ => throw (.error (.notObject index))

/-- Defines what is not used yet of the definitions that come with the schemas. -/
def defineRestIn (schemas : List Json) : Run Unit :=
  (schemas.flatMap definitionsOf).forM fun (name, definition) =>
    defineIn walk (titled name definition) (.str name)

/-- Defines the schemas, then their other definitions. -/
def defineAllIn (schemas : List Json) : Run Unit := do
  defineRootsIn walk 0 schemas
  defineRestIn walk schemas

end Schemas

/-- **The analysis whose walks are cut off** below so many schemas inside each other. -/
def analyzeWithin (bottom : Schema → Json → Run TypeRef) (limit : Nat) (schemas : List Json) :
    Except (Stop AnalysisError) Catalog := do
  let ((), state) ← (defineAllIn (valueIn (schemaWithin bottom limit)) schemas).run {}
  return state.declarations

section Schemas

variable (bottom : Schema → Json → Run TypeRef) {limit : Nat}

theorem agrees_define {value : Json} (h : limitFor value.height ≤ limit) (hint : Json) :
    Agrees (defineIn (valueIn (schemaWithin bottom limit)) value hint) (define value hint) :=
  (agrees_walk bottom h hint).bind (agrees_settle value hint)

theorem agrees_defineRoots (index : Nat) {schemas : List Json}
    (h : limitFor (Json.heightItems schemas) ≤ limit) :
    Agrees (defineRootsIn (valueIn (schemaWithin bottom limit)) index schemas) (defineRoots index schemas) := by
  induction schemas generalizing index with
  | nil => exact agrees_pure _
  | cons schema rest ih =>
    rw [Json.heightItems] at h
    have hrest := Nat.le_trans (limitFor_mono (Nat.le_max_right ..)) h
    cases schema with
    | obj members =>
      have hschema := Nat.le_trans (limitFor_mono (Nat.le_max_left ..)) h
      exact (agrees_define bottom hschema _).bind fun _ => ih (index + 1) hrest
    -- a schema that is no object stops the analysis
    | _ => exact agrees_throw nofun

/-- The definitions that come with a schema are no higher than the schema. -/
theorem height_le_of_definitionsOf {schema definition : Json} {name : String}
    (h : (name, definition) ∈ definitionsOf schema) : (titled name definition).height ≤ schema.height := by
  have hdefinition : definition.height ≤ schema.height := by
    obtain ⟨container, -, hmember⟩ := List.mem_flatMap.1 h
    split at hmember
    · next definitions hget =>
      cases schema with
      | obj members =>
        have hmem := Json.height_le_of_mem_members hmember
        have hdefinitions := Json.height_le_of_mem_members (Members.mem_of_get? hget)
        rw [Json.height] at hdefinitions ⊢
        omega
      | _ => cases hget
    · cases hmember
  suffices htitled : (titled name definition).height ≤ definition.height from Nat.le_trans htitled hdefinition
  unfold titled
  split
  · next members =>
    -- the title that may be added is a text
    refine Nat.succ_le_succ (Json.heightMembers_le fun key value hmem => ?_)
    rcases Members.mem_putIfAbsent hmem with hold | ⟨-, rfl⟩
    · exact Json.height_le_of_mem_members hold
    · exact Nat.zero_le _
  · exact Nat.le_refl _

theorem agrees_defineRest {schemas : List Json} (h : limitFor (Json.heightItems schemas) ≤ limit) :
    Agrees (defineRestIn (valueIn (schemaWithin bottom limit)) schemas) (defineRest schemas) := by
  have hheight : ∀ member ∈ schemas.flatMap definitionsOf,
      limitFor (titled member.1 member.2).height ≤ limit := by
    intro member hmember
    obtain ⟨schema, hschema, hmember⟩ := List.mem_flatMap.1 hmember
    have hle := Nat.le_trans (height_le_of_definitionsOf hmember) (Json.height_le_of_mem_items hschema)
    exact Nat.le_trans (limitFor_mono hle) h
  unfold defineRestIn defineRest
  generalize schemas.flatMap definitionsOf = definitions at hheight
  induction definitions with
  | nil => exact agrees_pure _
  | cons member rest ih =>
    refine (agrees_define bottom (hheight member List.mem_cons_self) _).bind fun _ => ?_
    exact ih fun other hother => hheight other (List.mem_cons_of_mem _ hother)

theorem agrees_defineAll {schemas : List Json} (h : limitFor (Json.heightItems schemas) ≤ limit) :
    Agrees (defineAllIn (valueIn (schemaWithin bottom limit)) schemas)
      (do defineRoots 0 schemas; defineRest schemas) :=
  (agrees_defineRoots bottom 0 h).bind fun _ => agrees_defineRest bottom h

end Schemas

/-- **An analysis that is cut off far enough below is the analysis.** -/
theorem analyzeWithin_eq (bottom : Schema → Json → Run TypeRef) {limit : Nat} {schemas : List Json}
    (h : limitFor (Json.heightItems schemas) ≤ limit) : analyzeWithin bottom limit schemas = analyze schemas := by
  unfold analyzeWithin analyze
  rw [(agrees_defineAll bottom h).eq]

/-- **The analysis comes to an end on all values.** The schemas that a walk goes on to are a well-founded
recursion. No more of them are inside each other than the height of the values says: an analysis that is cut
off below as many, or below more, comes to the same, whatever it would be told there. And what the analysis
comes to are declarations or an error, which is not that of a task without an end. -/
theorem analyze_terminates (schemas : List Json) :
    (WellFounded fun callee schema => Calls schema callee) ∧
    (∀ bottom extra, analyzeWithin bottom (limitFor (Json.heightItems schemas) + extra) schemas =
      analyze schemas) ∧
    analyze schemas ≠ .error (.crash .endless) := by
  refine ⟨wellFounded_calls, fun bottom extra => ?_, fun heq => ?_⟩
  · exact analyzeWithin_eq bottom (Nat.le_add_right _ extra)
  · have hruns := agrees_defineAll (fun _ _ => pure .any) (Nat.le_refl (limitFor (Json.heightItems schemas)))
    unfold analyze at heq
    cases hrun : (do defineRoots 0 schemas; defineRest schemas : Run Unit).run {} with
    | error stop =>
      rw [hrun] at heq
      exact hruns.halts {} (hrun.trans (congrArg Except.error (Except.error.inj heq)))
    | ok result =>
      rw [hrun] at heq
      cases heq

end Analysis

end SchemaPress
