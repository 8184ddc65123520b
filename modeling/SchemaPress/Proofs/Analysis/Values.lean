import SchemaPress.Proofs.Analysis.Inherited

/-!
# Values that schemas list

An enum lists values, and so does a constant. A value is finite if all numbers in it are: neither one that is
not a number nor an infinite one is anywhere in it. `Json.ListsFinite` says that only finite values are listed
by a schema and by the schemas inside it, those of its properties included, even where the properties are a
list of pairs. What is told of a value elsewhere, as in a default, may be any number.

As with proper schemas, this is kept up when an `allOf` is folded in (`Schema.ListsFinite.mergeAllOf`), when a
schema is restricted to one type, and on the way to its parts. The values of an enum are taken from its schema
as they are, so where the schemas of an analysis list finite values only, no others are declared
(`listsFinite_of_analyze`).
-/

namespace SchemaPress

namespace Json

/-- **All numbers in a value are finite.** -/
inductive IsFinite : Json → Prop where
  | null : IsFinite .null
  | bool (value : Bool) : IsFinite (.bool value)
  | int (value : Integer) : IsFinite (.int value)
  | double (negative : Bool) (mantissa exponent : Nat) :
    IsFinite (.double (.finite negative mantissa exponent))
  | str (text : String) : IsFinite (.str text)
  | arr {items : List Json} (h : ∀ item ∈ items, IsFinite item) : IsFinite (.arr items)
  | obj {members : Members} (h : ∀ member ∈ members, IsFinite member.2) : IsFinite (.obj members)

theorem isFinite_arr_iff {items : List Json} :
    IsFinite (.arr items) ↔ ∀ item ∈ items, item.IsFinite := by
  refine ⟨fun h => ?_, .arr⟩
  cases h with
  | arr h => exact h

theorem isFinite_obj_iff {members : Members} :
    IsFinite (.obj members) ↔ ∀ member ∈ members, member.2.IsFinite := by
  refine ⟨fun h => ?_, .obj⟩
  cases h with
  | obj h => exact h

/-- The values that a member of a schema lists. -/
def valuesUnder : String → Json → List Json
  | "enum", .arr values => values
  | "const", value => [value]
  | _, _ => []

/-- The schemas that a member of a schema holds, even if it lists properties as pairs. -/
def partsUnder (keyword : String) (value : Json) : List Json :=
  if keyword = "properties" then
    match Schema.rowsOf value with
    | .ok rows => rows.map Prod.snd
    | .error _ => []
  else schemasUnder keyword value

/-- **Only finite values are listed**, in a schema and in all schemas inside it. What is no object lists
nothing. -/
inductive ListsFinite : Json → Prop where
  | other {value : Json} (h : ∀ members, value ≠ .obj members) : ListsFinite value
  | schema {members : Members}
      (values : ∀ member ∈ members, ∀ value ∈ valuesUnder member.1 member.2, value.IsFinite)
      (inside : ∀ member ∈ members, ∀ part ∈ partsUnder member.1 member.2, ListsFinite part) :
      ListsFinite (.obj members)

/-- What is asked of one member of a schema. -/
structure FiniteUnder (keyword : String) (value : Json) : Prop where
  values : ∀ listed ∈ valuesUnder keyword value, listed.IsFinite
  inside : ∀ part ∈ partsUnder keyword value, part.ListsFinite

theorem listsFinite_obj_iff {members : Members} :
    ListsFinite (.obj members) ↔ ∀ member ∈ members, FiniteUnder member.1 member.2 := by
  constructor
  · intro h member hmember
    cases h with
    | other h => exact absurd rfl (h members)
    | schema values inside => exact ⟨values member hmember, inside member hmember⟩
  · exact fun h => .schema (fun member hmember => (h member hmember).values) fun member hmember =>
      (h member hmember).inside

/-- A member that neither lists values nor holds schemas. -/
theorem finiteUnder_of_none {keyword : String} {value : Json} (hvalues : valuesUnder keyword value = [])
    (hparts : partsUnder keyword value = []) : FiniteUnder keyword value :=
  ⟨fun listed hlisted => by simp [hvalues] at hlisted, fun part hpart => by simp [hparts] at hpart⟩

/-- The properties that a member lists. -/
theorem FiniteUnder.rowsOf {value : Json} {rows : PropertyTable} (h : FiniteUnder "properties" value)
    (hrows : Schema.rowsOf value = .ok rows) : ∀ row ∈ rows, row.2.ListsFinite := by
  intro row hrow
  refine h.inside _ ?_
  rw [partsUnder, if_pos rfl, hrows]
  exact List.mem_map_of_mem hrow

theorem finiteUnder_properties {members : Members} (h : ∀ member ∈ members, member.2.ListsFinite) :
    FiniteUnder "properties" (.obj members) := by
  refine ⟨nofun, fun part hpart => ?_⟩
  obtain ⟨row, hrow, rfl⟩ := List.mem_map.1 hpart
  obtain ⟨member, hmember, rfl⟩ := List.mem_map.1 hrow
  exact h member hmember

end Json

namespace Schema

open Json

/-- **A schema that lists finite values only**, among its members and in its table of properties. -/
structure ListsFinite (schema : Schema) : Prop where
  json : Json.ListsFinite (.obj schema.members)
  table : ∀ table, schema.table = some table → ∀ row ∈ table, row.2.ListsFinite

theorem listsFinite_of_json {members : Members} (h : Json.ListsFinite (.obj members)) :
    ListsFinite ⟨members, none⟩ :=
  ⟨h, nofun⟩

namespace ListsFinite

variable {schema : Schema} (h : schema.ListsFinite)

include h

theorem under {keyword : String} {value : Json} (hvalue : schema.get? keyword = some value) :
    FiniteUnder keyword value :=
  listsFinite_obj_iff.1 h.json _ (Members.mem_of_get? hvalue)

/-- The values of an enum. -/
theorem enumValues {name : String} {values : List Json}
    (hvalues : Analysis.enumValues schema name = .ok values) : ∀ value ∈ values, value.IsFinite := by
  unfold Analysis.enumValues at hvalues
  split at hvalues
  · next listed hget =>
    obtain rfl := Except.ok.inj hvalues
    exact (h.under hget).values
  · cases hvalues
  · obtain rfl := Except.ok.inj hvalues
    refine List.forall_mem_singleton.2 ?_
    cases hget : schema.get? "const" with
    | none => exact .null
    | some value => exact (h.under hget).values value List.mem_cons_self

theorem propertiesOf {table : PropertyTable} (htable : Analysis.propertiesOf schema = .ok table) :
    ∀ row ∈ table, row.2.ListsFinite := by
  unfold Analysis.propertiesOf at htable
  split at htable
  · next rows hrows =>
    obtain rfl := Except.ok.inj htable
    exact h.table rows hrows
  · split at htable
    · next members hget =>
      obtain rfl := Except.ok.inj htable
      exact (h.under hget).rowsOf rfl
    · cases htable

theorem items {members : Members} (hget : schema.get? "items" = some (.obj members)) :
    Json.ListsFinite (.obj members) :=
  (h.under hget).inside _ List.mem_cons_self

theorem alternatives {options : List Json} (hoptions : Analysis.alternatives schema = .ok options) :
    ∀ option ∈ options, option.ListsFinite := by
  intro option hmem
  rcases mem_of_alternatives hoptions hmem with ⟨keyword, hkeyword, value, hget, hunder⟩ | ⟨text, rfl⟩
  · refine (h.under hget).inside _ ?_
    have hne : keyword ≠ "properties" := by
      rintro rfl
      exact absurd hkeyword (by decide)
    rwa [partsUnder, if_neg hne]
  · exact .other nofun

end ListsFinite

/-! ### Folding -/

/-- What is true while parts are laid into a schema that lists finite values only. -/
structure Merging.ListsFinite (merging : Merging) : Prop where
  members : ∀ member ∈ merging.members, FiniteUnder member.1 member.2
  rows : ∀ row ∈ merging.rows, row.2.ListsFinite

theorem ListsFinite.startMerging {schema : Schema} {merging : Merging} (h : schema.ListsFinite)
    (hstart : schema.startMerging = .ok merging) : merging.ListsFinite := by
  have members : ∀ member ∈ Members.erase schema.members "allOf", FiniteUnder member.1 member.2 :=
    fun member hmember => listsFinite_obj_iff.1 h.json member (List.mem_filter.1 hmember).1
  cases htable : schema.table with
  | some table =>
    unfold Schema.startMerging at hstart
    rw [htable] at hstart
    obtain ⟨rows, hrows, hstart⟩ := bind_eq_ok hstart
    obtain ⟨required, -, hstart⟩ := bind_eq_ok hstart
    obtain rfl := Except.ok.inj hrows
    obtain rfl := Except.ok.inj hstart
    exact ⟨members, h.table table htable⟩
  | none =>
    obtain ⟨hrows, -, hmembers⟩ := startMerging_eq_ok htable hstart
    refine ⟨hmembers ▸ members, ?_⟩
    unfold ownRows at hrows
    split at hrows
    · next value hget =>
      split at hrows
      · exact (h.under hget).rowsOf hrows
      · rw [← Except.ok.inj hrows]
        exact nofun
    · rw [← Except.ok.inj hrows]
      exact nofun

theorem Merging.ListsFinite.add {merging merging' : Merging} {name : String} {value : Json}
    (h : merging.ListsFinite) (hvalue : FiniteUnder name value)
    (hadd : merging.add name value = .ok merging') : merging'.ListsFinite := by
  rcases Merging.add_eq_ok hadd with ⟨rfl, rows, hrows, rfl⟩ | ⟨-, -, -, rfl⟩ | rfl
  · refine ⟨h.members, fun ⟨key, v⟩ hrow => ?_⟩
    rcases PropertyTable.mem_putAll hrow with ⟨k, hk⟩ | ⟨k, hk⟩
    · exact h.rows (k, v) hk
    · exact hvalue.rowsOf hrows (k, v) hk
  · exact ⟨h.members, h.rows⟩
  · refine ⟨fun ⟨key, v⟩ hmember => ?_, h.rows⟩
    rcases Members.mem_putIfAbsent hmember with hmember | ⟨rfl, rfl⟩
    · exact h.members _ hmember
    · exact hvalue

/-- Neither the type nor the list of required properties lists values. -/
theorem Merging.ListsFinite.complete {merging : Merging} (h : merging.ListsFinite) :
    ∀ member ∈ merging.complete, FiniteUnder member.1 member.2 := by
  have typed : ∀ member ∈ merging.typed, FiniteUnder member.1 member.2 := by
    intro member hmember
    unfold Merging.typed at hmember
    split at hmember
    · exact h.members member hmember
    · rcases Members.mem_putIfAbsent hmember with hmember | ⟨hname, hvalue⟩
      · exact h.members member hmember
      · rw [hname, hvalue]
        exact finiteUnder_of_none rfl rfl
  intro member hmember
  unfold Merging.complete at hmember
  split at hmember
  · exact typed member hmember
  · rcases Members.mem_put hmember with hmember | ⟨hname, hvalue⟩
    · exact typed member hmember
    · rw [hname, hvalue]
      exact finiteUnder_of_none rfl rfl

theorem Merging.ListsFinite.finish {merging : Merging} (h : merging.ListsFinite) :
    merging.finish.ListsFinite := by
  unfold Merging.finish
  split
  · exact listsFinite_of_json (listsFinite_obj_iff.2 h.complete)
  · split
    · next properties hproperties =>
      refine listsFinite_of_json (listsFinite_obj_iff.2 fun member hmember => ?_)
      rcases Members.mem_put hmember with hmember | ⟨hname, hvalue⟩
      · exact h.complete member hmember
      · rw [hname, hvalue]
        refine finiteUnder_properties fun property hproperty => ?_
        exact h.rows _ (PropertyTable.mem_of_toMembers? hproperties hproperty)
    · refine ⟨listsFinite_obj_iff.2 fun member hmember => ?_, fun table htable => ?_⟩
      · exact h.complete member (List.mem_filter.1 hmember).1
      · obtain rfl := Option.some.inj htable
        exact h.rows

/-- **It stays so when an `allOf` is folded in.** -/
theorem ListsFinite.mergeAllOf {schema merged : Schema} {allOf : Json} (h : schema.ListsFinite)
    (hget : schema.get? "allOf" = some allOf) (hmerge : schema.mergeAllOf allOf = .ok merged) :
    merged.ListsFinite := by
  have hparts (items : List Json) (members : Members) (hitems : allOf = .arr items)
      (hmem : .obj members ∈ items) : ∀ member ∈ members, FiniteUnder member.1 member.2 := by
    subst hitems
    exact listsFinite_obj_iff.1 ((h.under hget).inside _ hmem)
  obtain ⟨merging, rfl, hmerging⟩ := folding hmerge (fun hstart => h.startMerging hstart)
    (fun hmerging hvalue hadd => Merging.ListsFinite.add hmerging hvalue hadd) hparts
  exact hmerging.finish

/-- **It stays so when a schema is restricted to one type.** -/
theorem ListsFinite.restrict {schema : Schema} (h : schema.ListsFinite) (type : Json) :
    (schema.restrict type).ListsFinite := by
  have under : FiniteUnder "type" type := finiteUnder_of_none rfl rfl
  unfold Schema.restrict
  split
  · exact listsFinite_of_json (listsFinite_obj_iff.2 (List.forall_mem_singleton.2 under))
  · refine ⟨listsFinite_obj_iff.2 fun member hmember => ?_, fun table htable => h.table table ?_⟩
    · rcases Members.mem_put hmember with hmember | ⟨hname, hvalue⟩
      · exact listsFinite_obj_iff.1 h.json member (List.mem_filter.1 hmember).1
      · rw [hname, hvalue]
        exact under
    · simp only at htable
      split at htable
      · exact htable
      · cases htable

end Schema

/-! ### Catalogs -/

/-- All values that are declared are finite. -/
def Shape.ListsFinite : Shape → Prop
  | .enum values => ∀ value ∈ values, value.IsFinite
  | _ => True

/-- No declaration of a catalog lists a value that is not finite. -/
def Catalog.ListsFinite (catalog : Catalog) : Prop :=
  ∀ declaration ∈ catalog, declaration.shape.ListsFinite

theorem Catalog.ListsFinite.snoc {catalog : Catalog} (h : catalog.ListsFinite)
    {declaration : Declaration} (hd : declaration.shape.ListsFinite) :
    Catalog.ListsFinite (catalog ++ [declaration]) := by
  intro other hother
  rcases List.mem_append.1 hother with hother | hother
  · exact h other hother
  · obtain rfl := List.mem_singleton.1 hother
    exact hd

namespace Analysis

/-- The schemas of a part of a walk list finite values only. -/
def Task.ListsFinite : Task → Prop
  | .value json _ => json.ListsFinite
  | .schema part _ => part.ListsFinite
  | .plain part _ _ => part.ListsFinite
  | .named _ part _ => part.ListsFinite
  | .body _ part _ => part.ListsFinite
  | .fields _ _ table => ∀ row ∈ table, row.2.ListsFinite
  | .variants _ _ options _ => ∀ option ∈ options, option.ListsFinite
  | .typeVariants part _ _ _ => part.ListsFinite

/-- What a part of a walk answers declares finite values only. -/
def Answer.ListsFinite : Answer → Prop
  | .shape found => found.ListsFinite
  | _ => True

/-- **A walk declares finite values** where its schemas list no others. By induction on the derivation; each
rule goes to parts of a schema, folds an `allOf` into it or restricts it to a type. -/
theorem Derives.listsFinite {task : Task} {state state' : State} {log : List Event} {answer : Answer}
    (h : Derives task state log answer state') :
    task.ListsFinite → state.declarations.ListsFinite →
      state'.declarations.ListsFinite ∧ answer.ListsFinite := by
  induction h with
  | other => exact fun _ hd => ⟨hd, trivial⟩
  | object parts ih => exact fun hm hd => ih (Schema.listsFinite_of_json hm) hd
  | backEdge => exact fun _ hd => ⟨hd, trivial⟩
  | enum href henum parts ih => exact fun hm hd => ⟨(ih hm hd).1, trivial⟩
  | union href henum hunion parts ih => exact fun hm hd => ⟨(ih hm hd).1, trivial⟩
  | allOf hopen hget hmerge parts ih =>
    exact fun hm hd => ⟨(ih (hm.mergeAllOf hget hmerge) hd).1, trivial⟩
  | sole hopen hget htypes parts ih => exact fun hm hd => ⟨(ih hm hd).1, trivial⟩
  | shared => exact fun _ hd => ⟨hd, trivial⟩
  | several hopen hget htypes hkey hnone parts hbase hname ih =>
    exact fun hm hd => ⟨(ih hm hd).1.snoc trivial, trivial⟩
  | record hlike hfields parts ih => exact fun hm hd => ih hm hd
  | list hno hlike hitems parts ih =>
    exact fun hm hd => ⟨(ih (hm.items (get?_of_itemsOf? hitems)) hd).1, trivial⟩
  | leaf => exact fun _ hd => ⟨hd, trivial⟩
  | known => exact fun _ hd => ⟨hd, trivial⟩
  | fresh hkey hnone hbase hname parts ih =>
    intro hm hd
    obtain ⟨hbody, hshape⟩ := ih hm hd
    exact ⟨hbody.snoc hshape, trivial⟩
  | enumBody hvalues => exact fun hm hd => ⟨hd, hm.enumValues hvalues⟩
  | unionBody hoptions parts ih => exact fun hm hd => ⟨(ih (hm.alternatives hoptions) hd).1, trivial⟩
  | objectBody hrequired htable parts ih =>
    exact fun hm hd => ⟨(ih (hm.propertiesOf htable) hd).1, trivial⟩
  | noField => exact fun _ hd => ⟨hd, trivial⟩
  | field first others ihFirst ihOthers =>
    intro hm hd
    obtain ⟨hvalue, hrest⟩ := List.forall_mem_cons.1 hm
    exact ⟨(ihOthers hrest (ihFirst hvalue hd).1).1, trivial⟩
  | noVariant => exact fun _ hd => ⟨hd, trivial⟩
  | variant first others ihFirst ihOthers =>
    intro hm hd
    obtain ⟨hoption, hrest⟩ := List.forall_mem_cons.1 hm
    exact ihOthers hrest (ihFirst hoption hd).1
  | noType => exact fun _ hd => ⟨hd, trivial⟩
  | type first others ihFirst ihOthers =>
    exact fun hm hd => ihOthers hm (ihFirst (hm.restrict _) hd).1

/-- So does an analysis. -/
theorem Defines.listsFinite {agenda : List (Json × Json)} {state state' : State} {log : List Event}
    (h : Defines agenda state log state') :
    (∀ entry ∈ agenda, entry.1.ListsFinite) → state.declarations.ListsFinite →
      state'.declarations.ListsFinite := by
  induction h with
  | done => exact fun _ hd => hd
  | declared walk others ih =>
    intro hagenda hd
    obtain ⟨hentry, hrest⟩ := List.forall_mem_cons.1 hagenda
    exact ih hrest (walk.listsFinite hentry hd).1
  | known walk hkey hname others ih =>
    intro hagenda hd
    obtain ⟨hentry, hrest⟩ := List.forall_mem_cons.1 hagenda
    exact ih hrest (walk.listsFinite hentry hd).1
  | fresh walk hkey hnone hbase hname others ih =>
    intro hagenda hd
    obtain ⟨hentry, hrest⟩ := List.forall_mem_cons.1 hagenda
    exact ih hrest ((walk.listsFinite hentry hd).1.snoc trivial)

/-! ### The agenda -/

/-- A definition lists the same values under its name. -/
theorem listsFinite_titled {name : String} {value : Json} (h : value.ListsFinite) :
    (titled name value).ListsFinite := by
  cases value with
  | obj members =>
    refine Json.listsFinite_obj_iff.2 fun member hmember => ?_
    rcases Members.mem_putIfAbsent hmember with hmember | ⟨hname, hvalue⟩
    · exact Json.listsFinite_obj_iff.1 h member hmember
    · rw [hname, hvalue]
      exact Json.finiteUnder_of_none rfl rfl
  | _ => exact .other nofun

theorem listsFinite_definition {schema : Json} (h : schema.ListsFinite) {definition : String × Json}
    (hmem : definition ∈ definitionsOf schema) : definition.2.ListsFinite := by
  obtain ⟨container, hcontainer, definitions, hget, hin⟩ := mem_definitionsOf hmem
  cases schema with
  | obj members =>
    have hunder := Json.listsFinite_obj_iff.1 h _ (Members.mem_of_get? hget)
    refine hunder.inside _ ?_
    rcases List.mem_cons.1 hcontainer with rfl | hcontainer
    · exact List.mem_map_of_mem hin
    · obtain rfl := List.mem_singleton.1 hcontainer
      exact List.mem_map_of_mem hin
  | _ => cases hget

/-- **Only finite values are declared** where the schemas list no others. -/
theorem listsFinite_of_analyze {schemas : List Json} {catalog : Catalog}
    (h : analyze schemas = .ok catalog) (hfinite : ∀ schema ∈ schemas, schema.ListsFinite) :
    catalog.ListsFinite := by
  obtain ⟨log, state, hdefines, rfl⟩ := defines_of_analyze h
  refine hdefines.listsFinite (fun entry hentry => ?_) nofun
  rcases mem_agenda hentry with hmem | ⟨schema, hschema, definition, hdefinition, heq⟩
  · exact hfinite _ hmem
  · rw [heq]
    exact listsFinite_titled (listsFinite_definition (hfinite schema hschema) hdefinition)

end Analysis

end SchemaPress
