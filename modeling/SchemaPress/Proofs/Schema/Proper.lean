import SchemaPress.Declaration.Analysis
import SchemaPress.Proofs.Schema.Folding

/-!
# Schemas whose properties are objects

A schema tells its properties by an object. `Json.Proper` says that it does, and so does every schema
inside it that can be reached by keywords for schemas (`Json.schemasUnder`). Elsewhere, among the
values of an enum for instance, a member called `properties` may be anything.

A schema that is proper has its properties among its members, never in a table, and it stays so when
an `allOf` is folded in (`Schema.Proper.mergeAllOf`) and when it is restricted to one type
(`Schema.Proper.restrict`). Its parts are proper as well.
-/

namespace SchemaPress

namespace Json

/-- The schemas that a member of a schema holds. -/
def schemasUnder (keyword : String) (value : Json) : List Json :=
  match keyword, value with
  | "properties", .obj members => members.map Prod.snd
  | "definitions", .obj members => members.map Prod.snd
  | "$defs", .obj members => members.map Prod.snd
  | "items", value => [value]
  | "oneOf", .arr options => options
  | "anyOf", .arr options => options
  | "allOf", .arr parts => parts
  | _, _ => []

/-- **Wherever properties are told, they are an object**: in a schema and in all schemas inside it. A
value that is no object tells nothing. -/
inductive Proper : Json → Prop where
  | other {value : Json} (h : ∀ members, value ≠ .obj members) : Proper value
  | schema {members : Members}
      (properties : ∀ value, ("properties", value) ∈ members → value.isObj = true)
      (inside : ∀ member ∈ members, ∀ part ∈ schemasUnder member.1 member.2, Proper part) :
      Proper (.obj members)

/-- What is asked of one member of a schema. -/
structure ProperUnder (keyword : String) (value : Json) : Prop where
  properties : keyword = "properties" → value.isObj = true
  inside : ∀ part ∈ schemasUnder keyword value, part.Proper

/-- A schema is proper if its members are. -/
theorem proper_obj_iff {members : Members} :
    Proper (.obj members) ↔ ∀ member ∈ members, ProperUnder member.1 member.2 := by
  constructor
  · intro h member hmember
    cases h with
    | other h => exact absurd rfl (h members)
    | schema properties inside =>
      obtain ⟨keyword, value⟩ := member
      refine ⟨fun heq => properties value ?_, inside _ hmember⟩
      rw [← heq]
      exact hmember
  · intro h
    exact .schema (fun value hvalue => (h _ hvalue).properties rfl) fun member hmember =>
      (h member hmember).inside

/-- A member that holds no schemas. -/
theorem properUnder_of_none {keyword : String} {value : Json} (hne : keyword ≠ "properties")
    (hnone : schemasUnder keyword value = []) : ProperUnder keyword value :=
  ⟨fun heq => absurd heq hne, fun part hpart => by simp [hnone] at hpart⟩

theorem properUnder_properties {members : Members} :
    ProperUnder "properties" (.obj members) ↔ ∀ member ∈ members, member.2.Proper := by
  constructor
  · exact fun h member hmember => h.inside _ (List.mem_map_of_mem hmember)
  · refine fun h => ⟨fun _ => rfl, fun part hpart => ?_⟩
    obtain ⟨member, hmember, rfl⟩ := List.mem_map.1 hpart
    exact h member hmember

end Json

namespace Schema

open Json

/-- **A proper schema** has its properties among its members and is proper as a JSON value. -/
structure Proper (schema : Schema) : Prop where
  table : schema.table = none
  json : Json.Proper (.obj schema.members)

theorem proper_of_json {members : Members} (h : Json.Proper (.obj members)) :
    Proper ⟨members, none⟩ :=
  ⟨rfl, h⟩

/-- Alternatives are the elements of one of two members. -/
theorem exists_of_alternatives {schema : Schema} {options : List Json}
    (h : Analysis.alternatives schema = .ok options) {option : Json} (hmem : option ∈ options) :
    ∃ keyword ∈ ["oneOf", "anyOf"], ∃ value,
      schema.get? keyword = some value ∧ elementsOf value = .ok options := by
  have own (helements : ownElements (schema.get? "anyOf") = .ok options) :
      ∃ value, schema.get? "anyOf" = some value ∧ elementsOf value = .ok options := by
    unfold ownElements at helements
    split at helements
    · next value hget =>
      split at helements
      · exact ⟨value, hget, helements⟩
      · obtain rfl := Except.ok.inj helements
        cases hmem
    · obtain rfl := Except.ok.inj helements
      cases hmem
  unfold Analysis.alternatives at h
  split at h
  · next value hget =>
    split at h
    · exact ⟨"oneOf", List.mem_cons_self, value, hget, h⟩
    · exact ⟨"anyOf", by simp, own h⟩
  · exact ⟨"anyOf", by simp, own h⟩

/-- An alternative is a schema that the member holds, or it is no container. -/
theorem mem_of_alternatives {schema : Schema} {options : List Json}
    (h : Analysis.alternatives schema = .ok options) {option : Json} (hmem : option ∈ options) :
    (∃ keyword ∈ ["oneOf", "anyOf"], ∃ value,
      schema.get? keyword = some value ∧ option ∈ schemasUnder keyword value) ∨
      ∃ text, option = .str text := by
  obtain ⟨keyword, hkeyword, value, hget, helements⟩ := exists_of_alternatives h hmem
  rcases mem_of_elementsOf helements hmem with ⟨items, rfl, hitem⟩ | hother
  · refine .inl ⟨keyword, hkeyword, _, hget, ?_⟩
    rcases List.mem_cons.1 hkeyword with rfl | hkeyword
    · exact hitem
    · obtain rfl := List.mem_singleton.1 hkeyword
      exact hitem
  · exact .inr hother

namespace Proper

variable {schema : Schema} (h : schema.Proper)

include h

theorem under {keyword : String} {value : Json} (hvalue : schema.get? keyword = some value) :
    ProperUnder keyword value :=
  proper_obj_iff.1 h.json _ (Members.mem_of_get? hvalue)

/-- The properties that are looked at have texts for names, and are proper. -/
theorem propertiesOf {table : PropertyTable} (htable : Analysis.propertiesOf schema = .ok table) :
    table.IsNamed ∧ ∀ row ∈ table, row.2.Proper := by
  unfold Analysis.propertiesOf at htable
  rw [h.table] at htable
  simp only at htable
  split at htable
  · next members hget =>
    obtain rfl := Except.ok.inj htable
    refine ⟨PropertyTable.isNamed_ofMembers members, fun row hrow => ?_⟩
    obtain ⟨member, hmember, rfl⟩ := List.mem_map.1 hrow
    exact properUnder_properties.1 (h.under hget) member hmember
  · cases htable

theorem items {members : Members} (hget : schema.get? "items" = some (.obj members)) :
    Json.Proper (.obj members) :=
  (h.under hget).inside _ List.mem_cons_self

theorem alternatives {options : List Json} (hoptions : Analysis.alternatives schema = .ok options)
    {option : Json} (hmem : option ∈ options) : option.Proper := by
  rcases mem_of_alternatives hoptions hmem with ⟨keyword, -, value, hget, hunder⟩ | ⟨text, rfl⟩
  · exact (h.under hget).inside _ hunder
  · exact .other nofun

end Proper

/-! ### Folding -/

/-- What is true while parts are laid into a proper schema. -/
structure Merging.Proper (merging : Merging) : Prop where
  members : ∀ member ∈ merging.members, ProperUnder member.1 member.2
  names : merging.rows.IsNamed
  rows : ∀ row ∈ merging.rows, row.2.Proper

/-- The properties that a proper member lists. -/
theorem proper_rowsOf {value : Json} {rows : PropertyTable}
    (hvalue : ProperUnder "properties" value) (h : rowsOf value = .ok rows) :
    rows.IsNamed ∧ ∀ row ∈ rows, row.2.Proper := by
  cases value with
  | obj members =>
    obtain rfl := Except.ok.inj h
    refine ⟨PropertyTable.isNamed_ofMembers members, fun row hrow => ?_⟩
    obtain ⟨member, hmember, rfl⟩ := List.mem_map.1 hrow
    exact properUnder_properties.1 hvalue member hmember
  | _ => exact absurd (hvalue.properties rfl) nofun

theorem Proper.startMerging {schema : Schema} {merging : Merging} (h : schema.Proper)
    (hstart : schema.startMerging = .ok merging) : merging.Proper := by
  obtain ⟨hrows, -, hmembers⟩ := startMerging_eq_ok h.table hstart
  have members : ∀ member ∈ merging.members, ProperUnder member.1 member.2 := by
    intro member hmember
    rw [hmembers] at hmember
    exact proper_obj_iff.1 h.json member (List.mem_filter.1 hmember).1
  -- there are rows only where the schema has properties that say something
  have none (hnil : merging.rows = []) : merging.Proper :=
    ⟨members, hnil ▸ nofun, hnil ▸ nofun⟩
  unfold ownRows at hrows
  split at hrows
  · next value hget =>
    split at hrows
    · obtain ⟨hnames, hrows⟩ := proper_rowsOf (h.under hget) hrows
      exact ⟨members, hnames, hrows⟩
    · exact none (Except.ok.inj hrows).symm
  · exact none (Except.ok.inj hrows).symm

theorem Merging.Proper.add {merging merging' : Merging} {name : String} {value : Json}
    (h : merging.Proper) (hvalue : ProperUnder name value)
    (hadd : merging.add name value = .ok merging') : merging'.Proper := by
  rcases Merging.add_eq_ok hadd with ⟨rfl, rows, hrows, rfl⟩ | ⟨-, -, -, rfl⟩ | rfl
  · obtain ⟨hnames, hproper⟩ := proper_rowsOf hvalue hrows
    refine ⟨h.members, h.names.putAll hnames, fun ⟨key, v⟩ hrow => ?_⟩
    rcases PropertyTable.mem_putAll hrow with ⟨k, hk⟩ | ⟨k, hk⟩
    · exact h.rows (k, v) hk
    · exact hproper (k, v) hk
  · exact ⟨h.members, h.names, h.rows⟩
  · refine ⟨fun ⟨key, v⟩ hmember => ?_, h.names, h.rows⟩
    rcases Members.mem_putIfAbsent hmember with hmember | ⟨rfl, rfl⟩
    · exact h.members _ hmember
    · exact hvalue

/-- The type and the list of required properties hold no schemas. -/
theorem Merging.Proper.complete {merging : Merging} (h : merging.Proper) :
    ∀ member ∈ merging.complete, ProperUnder member.1 member.2 := by
  have typed : ∀ member ∈ merging.typed, ProperUnder member.1 member.2 := by
    intro member hmember
    unfold Merging.typed at hmember
    split at hmember
    · exact h.members member hmember
    · rcases Members.mem_putIfAbsent hmember with hmember | ⟨hname, hvalue⟩
      · exact h.members member hmember
      · rw [hname, hvalue]
        exact properUnder_of_none nofun rfl
  intro member hmember
  unfold Merging.complete at hmember
  split at hmember
  · exact typed member hmember
  · rcases Members.mem_put hmember with hmember | ⟨hname, hvalue⟩
    · exact typed member hmember
    · rw [hname, hvalue]
      exact properUnder_of_none nofun rfl

theorem Merging.Proper.finish {merging : Merging} (h : merging.Proper) : merging.finish.Proper := by
  unfold Merging.finish
  split
  · exact proper_of_json (proper_obj_iff.2 h.complete)
  -- names that are texts make an object, so there is no table
  · obtain ⟨members, hmembers, hrows⟩ := h.names.exists_toMembers?
    rw [hmembers]
    refine proper_of_json (proper_obj_iff.2 fun member hmember => ?_)
    rcases Members.mem_put hmember with hmember | ⟨hname, hvalue⟩
    · exact h.complete member hmember
    · rw [hname, hvalue]
      refine properUnder_properties.2 fun property hproperty => ?_
      exact h.rows _ (PropertyTable.mem_of_toMembers? hmembers hproperty)

/-- **A proper schema stays proper when its `allOf` is folded in.** -/
theorem Proper.mergeAllOf {schema merged : Schema} {allOf : Json} (h : schema.Proper)
    (hget : schema.get? "allOf" = some allOf) (hmerge : schema.mergeAllOf allOf = .ok merged) :
    merged.Proper := by
  have hparts (items : List Json) (members : Members) (hitems : allOf = .arr items)
      (hmem : .obj members ∈ items) : ∀ member ∈ members, ProperUnder member.1 member.2 := by
    subst hitems
    exact proper_obj_iff.1 ((h.under hget).inside _ hmem)
  obtain ⟨merging, rfl, hmerging⟩ := folding hmerge (fun hstart => h.startMerging hstart)
    (fun hmerging hvalue hadd => Merging.Proper.add hmerging hvalue hadd) hparts
  exact hmerging.finish

/-- **A proper schema stays proper when it is restricted to one type.** -/
theorem Proper.restrict {schema : Schema} (h : schema.Proper) (type : Json) :
    (schema.restrict type).Proper := by
  have under : ProperUnder "type" type := properUnder_of_none nofun rfl
  unfold Schema.restrict
  split
  · exact proper_of_json (proper_obj_iff.2 (List.forall_mem_singleton.2 under))
  · refine ⟨?_, proper_obj_iff.2 fun member hmember => ?_⟩
    · simp only [h.table, ite_self]
    · rcases Members.mem_put hmember with hmember | ⟨hname, hvalue⟩
      · exact proper_obj_iff.1 h.json member (List.mem_filter.1 hmember).1
      · rw [hname, hvalue]
        exact under

end Schema

end SchemaPress
