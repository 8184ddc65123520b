import SchemaPress.Proofs.Json.Regular
import SchemaPress.Proofs.Schema.Proper

/-!
# Regular schemas

A schema is regular if it is proper and a regular value. Folding an `allOf` puts members into objects
one by one, where a name that is there already is not added again, so a regular schema stays regular
(`Schema.Regular.mergeAllOf`), and so it does when it is restricted to one of its types
(`Schema.Regular.restrict`). Its parts are regular as well.
-/

namespace SchemaPress

namespace PropertyTable

/-- Among texts, two names are the same property if they are equal. -/
theorem put_ofMembers (members : Members) (name : String) (value : Json) :
    (ofMembers members).put (.text name) value = ofMembers (members.put name value) := by
  induction members with
  | nil => rfl
  | cons first rest ih =>
    obtain ⟨key, old⟩ := first
    have hsame : (PropertyName.text key).same (.text name) = (key == name) := rfl
    rw [Members.put_cons]
    simp only [ofMembers, List.map_cons, put, hsame]
    split
    · rfl
    · rw [List.map_cons]
      exact congrArg _ ih

theorem toMembers?_ofMembers (members : Members) :
    (ofMembers members).toMembers? = some members := by
  induction members with
  | nil => rfl
  | cons first rest ih =>
    obtain ⟨key, value⟩ := first
    rw [ofMembers, List.map_cons, toMembers?]
    exact congrArg _ ih

end PropertyTable

namespace Json

/-- The elements of a regular value. -/
theorem Regular.elements {value : Json} (h : value.Regular) {elements : List Json}
    (helements : Schema.elementsOf value = .ok elements) : ∀ element ∈ elements, element.Regular := by
  intro element hmem
  rcases Schema.mem_of_elementsOf helements hmem with ⟨items, rfl, hitem⟩ | ⟨text, rfl⟩
  · exact h.item hitem
  · exact .str text

/-- A table of properties that is an object with regular members. -/
theorem Regular.putAll {properties others : Members} (h : Regular (.obj properties))
    (hothers : ∀ member ∈ others, member.2.Regular) :
    ∃ all : Members, PropertyTable.putAll (.ofMembers properties) (.ofMembers others) =
      PropertyTable.ofMembers all ∧ Regular (.obj all) := by
  induction others generalizing properties with
  | nil => exact ⟨properties, rfl, h⟩
  | cons member rest ih =>
    obtain ⟨name, value⟩ := member
    have hput := ih (h.put name (hothers _ List.mem_cons_self))
      fun member hmember => hothers member (List.mem_cons_of_mem _ hmember)
    rw [← PropertyTable.put_ofMembers] at hput
    exact hput

end Json

namespace Schema

open Json

/-- **A regular schema** is proper, and a regular value. -/
structure Regular (schema : Schema) : Prop where
  proper : schema.Proper
  json : Json.Regular (.obj schema.members)

theorem regular_of_json {members : Members} (h : Json.Proper (.obj members))
    (h' : Json.Regular (.obj members)) : Regular ⟨members, none⟩ :=
  ⟨proper_of_json h, h'⟩

namespace Regular

variable {schema : Schema} (h : schema.Regular)

include h

theorem property {table : PropertyTable} (htable : Analysis.propertiesOf schema = .ok table)
    {name : PropertyName} {members : Members} (hmem : (name, .obj members) ∈ table) :
    Regular ⟨members, none⟩ := by
  refine regular_of_json ((h.proper.propertiesOf htable).2 _ hmem) ?_
  unfold Analysis.propertiesOf at htable
  rw [h.proper.table] at htable
  simp only at htable
  split at htable
  · next properties hget =>
    obtain rfl := Except.ok.inj htable
    obtain ⟨member, hmember, heq⟩ := List.mem_map.1 hmem
    have hvalue := (h.json.get? hget).member hmember
    rwa [(Prod.mk.inj heq).2] at hvalue
  · cases htable

theorem items {members : Members} (hget : schema.get? "items" = some (.obj members)) :
    Regular ⟨members, none⟩ :=
  regular_of_json (h.proper.items hget) (h.json.get? hget)

theorem alternatives {options : List Json} (hoptions : Analysis.alternatives schema = .ok options)
    {members : Members} (hmem : .obj members ∈ options) : Regular ⟨members, none⟩ := by
  obtain ⟨keyword, -, value, hget, helements⟩ := exists_of_alternatives hoptions hmem
  exact regular_of_json (h.proper.alternatives hoptions hmem) ((h.json.get? hget).elements helements _ hmem)

end Regular

/-! ### Folding -/

/-- What is true while parts are laid into a regular schema. -/
structure Merging.Regular (merging : Merging) : Prop where
  proper : merging.Proper
  members : Json.Regular (.obj merging.members)
  required : ∀ element ∈ merging.required, element.Regular
  rows : ∃ properties, merging.rows = .ofMembers properties ∧ Json.Regular (.obj properties)

/-- The properties that a regular member lists. -/
theorem regular_rowsOf {value : Json} {rows : PropertyTable}
    (hproper : ProperUnder "properties" value) (hvalue : value.Regular)
    (h : rowsOf value = .ok rows) :
    ∃ properties, rows = .ofMembers properties ∧ Json.Regular (.obj properties) := by
  cases value with
  | obj members => exact ⟨members, (Except.ok.inj h).symm, hvalue⟩
  | _ => exact absurd (hproper.properties rfl) nofun

theorem Regular.startMerging {schema : Schema} {merging : Merging} (h : schema.Regular)
    (hstart : schema.startMerging = .ok merging) : merging.Regular := by
  obtain ⟨hrows, hrequired, hmembers⟩ := startMerging_eq_ok h.proper.table hstart
  refine ⟨h.proper.startMerging hstart, hmembers ▸ h.json.erase "allOf", ?_, ?_⟩
  · unfold ownElements at hrequired
    split at hrequired
    · next value hget =>
      split at hrequired
      · exact (h.json.get? hget).elements hrequired
      · exact (Except.ok.inj hrequired) ▸ nofun
    · exact (Except.ok.inj hrequired) ▸ nofun
  · unfold ownRows at hrows
    split at hrows
    · next value hget =>
      split at hrows
      · exact regular_rowsOf (h.proper.under hget) (h.json.get? hget) hrows
      · exact ⟨[], (Except.ok.inj hrows).symm, regular_nil⟩
    · exact ⟨[], (Except.ok.inj hrows).symm, regular_nil⟩

/-- What is joined are elements of one list or the other. -/
theorem mem_join {values others : List Json} {element : Json} (h : element ∈ join values others) :
    element ∈ values ∨ element ∈ others := by
  unfold join at h
  induction others generalizing values with
  | nil => exact .inl h
  | cons other rest ih =>
    rw [List.foldl_cons] at h
    rcases ih h with hmem | hmem
    · split at hmem
      · exact .inl hmem
      · rcases List.mem_append.1 hmem with hmem | hmem
        · exact .inl hmem
        · exact .inr (List.mem_singleton.1 hmem ▸ List.mem_cons_self)
    · exact .inr (List.mem_cons_of_mem _ hmem)

theorem Merging.Regular.add {merging merging' : Merging} {name : String} {value : Json}
    (h : merging.Regular) (hproper : ProperUnder name value) (hvalue : value.Regular)
    (hadd : merging.add name value = .ok merging') : merging'.Regular := by
  have hnext := h.proper.add hproper hadd
  rcases Merging.add_eq_ok hadd with ⟨rfl, rows, hrows, rfl⟩ | ⟨-, elements, helements, rfl⟩ | rfl
  · refine ⟨hnext, h.members, h.required, ?_⟩
    obtain ⟨properties, heq, hproperties⟩ := h.rows
    obtain ⟨others, rfl, hothers⟩ := regular_rowsOf hproper hvalue hrows
    change ∃ all, merging.rows.putAll _ = _ ∧ _
    rw [heq]
    exact hproperties.putAll fun member hmember => hothers.member hmember
  · refine ⟨hnext, h.members, fun element hmem => ?_, h.rows⟩
    rcases mem_join hmem with hmem | hmem
    · exact h.required element hmem
    · exact hvalue.elements helements element hmem
  · exact ⟨hnext, h.members.putIfAbsent name hvalue, h.required, h.rows⟩

theorem Merging.Regular.complete {merging : Merging} (h : merging.Regular) :
    Json.Regular (.obj merging.complete) := by
  have typed : Json.Regular (.obj merging.typed) := by
    unfold Merging.typed
    split
    · exact h.members
    · exact h.members.putIfAbsent "type" (.str "object")
  unfold Merging.complete
  split
  · exact typed
  · exact typed.put "required" (.arr h.required)

theorem Merging.Regular.finish {merging : Merging} (h : merging.Regular) :
    merging.finish.Regular := by
  refine ⟨h.proper.finish, ?_⟩
  obtain ⟨properties, heq, hproperties⟩ := h.rows
  unfold Merging.finish
  split
  · exact h.complete
  · rw [heq, PropertyTable.toMembers?_ofMembers]
    exact h.complete.put "properties" hproperties

/-- **A regular schema stays regular when its `allOf` is folded in.** -/
theorem Regular.mergeAllOf {schema merged : Schema} {allOf : Json} (h : schema.Regular)
    (hget : schema.get? "allOf" = some allOf) (hmerge : schema.mergeAllOf allOf = .ok merged) :
    merged.Regular := by
  have hadd {merging merging' : Merging} {name : String} {value : Json} (hmerging : merging.Regular)
      (hvalue : ProperUnder name value ∧ value.Regular)
      (hadd : merging.add name value = .ok merging') : merging'.Regular :=
    hmerging.add hvalue.1 hvalue.2 hadd
  have hparts (items : List Json) (members : Members) (hitems : allOf = .arr items)
      (hmem : .obj members ∈ items) :
      ∀ member ∈ members, ProperUnder member.1 member.2 ∧ member.2.Regular := by
    subst hitems
    intro member hmember
    exact ⟨proper_obj_iff.1 ((h.proper.under hget).inside _ hmem) member hmember,
      ((h.json.get? hget).item hmem).member hmember⟩
  obtain ⟨merging, rfl, hmerging⟩ :=
    folding hmerge (fun hstart => h.startMerging hstart) hadd hparts
  exact hmerging.finish

/-- **A regular schema stays regular when it is restricted to one type.** -/
theorem Regular.restrict {schema : Schema} (h : schema.Regular) {type : Json}
    (htype : type.Regular) : (schema.restrict type).Regular := by
  refine ⟨h.proper.restrict type, ?_⟩
  unfold Schema.restrict
  split
  · exact regular_nil.put "type" htype
  · exact (h.json.sublist List.filter_sublist).put "type" htype

end Schema

end SchemaPress
