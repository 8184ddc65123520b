import SchemaPress.Proofs.Json.Distinct
import SchemaPress.Proofs.Json.Reading
import SchemaPress.Schema.Restrict

/-!
# What folding and restricting leave true

Folding the parts of an `allOf` into a schema lays one member after the other in. What holds of the
schema before and survives each member holds of the schema with everything laid in
(`Schema.folding`), so an invariant of folding is shown by a look at one member.
-/

namespace SchemaPress

namespace PropertyTable

/-- No property has a name that is no text. -/
def IsNamed (table : PropertyTable) : Prop :=
  ∀ row ∈ table, ∃ name, row.1 = .text name

theorem isNamed_ofMembers (members : Members) : IsNamed (ofMembers members) := by
  intro row hrow
  obtain ⟨member, -, rfl⟩ := List.mem_map.1 hrow
  exact ⟨member.1, rfl⟩

/-- Setting a property adds no name but its own. -/
theorem name_mem_put {table : PropertyTable} {name : PropertyName} {value : Json}
    {row : PropertyName × Json} (h : row ∈ table.put name value) :
    row.1 = name ∨ ∃ old ∈ table, row.1 = old.1 := by
  induction table with
  | nil =>
    obtain rfl := List.mem_singleton.1 h
    exact .inl rfl
  | cons first rest ih =>
    simp only [put] at h
    split at h
    · rcases List.mem_cons.1 h with rfl | h
      · exact .inr ⟨first, List.mem_cons_self, rfl⟩
      · exact .inr ⟨row, List.mem_cons_of_mem _ h, rfl⟩
    · rcases List.mem_cons.1 h with rfl | h
      · exact .inr ⟨first, List.mem_cons_self, rfl⟩
      · rcases ih h with heq | ⟨old, hold, heq⟩
        · exact .inl heq
        · exact .inr ⟨old, List.mem_cons_of_mem _ hold, heq⟩

theorem IsNamed.put {table : PropertyTable} (h : table.IsNamed) (name : String) (value : Json) :
    IsNamed (table.put (.text name) value) := by
  intro row hrow
  rcases name_mem_put hrow with heq | ⟨old, hold, heq⟩
  · exact ⟨name, heq⟩
  · rw [heq]
    exact h old hold

theorem IsNamed.putAll {table rows : PropertyTable} (h : table.IsNamed) (hrows : rows.IsNamed) :
    IsNamed (table.putAll rows) := by
  induction rows generalizing table with
  | nil => exact h
  | cons row rest ih =>
    obtain ⟨name, value⟩ := row
    obtain ⟨text, rfl⟩ : ∃ text, name = .text text := hrows _ List.mem_cons_self
    exact ih (h.put text value) fun other hother => hrows other (List.mem_cons_of_mem _ hother)

/-- A table with texts for names is an object. -/
theorem IsNamed.exists_toMembers? {table : PropertyTable} (h : table.IsNamed) :
    ∃ members, table.toMembers? = some members ∧ table = ofMembers members := by
  induction table with
  | nil => exact ⟨[], rfl, rfl⟩
  | cons row rest ih =>
    obtain ⟨name, value⟩ := row
    obtain ⟨text, rfl⟩ : ∃ text, name = .text text := h _ List.mem_cons_self
    obtain ⟨members, hmembers, heq⟩ := ih fun other hother => h other (List.mem_cons_of_mem _ hother)
    refine ⟨(text, value) :: members, ?_, ?_⟩
    · rw [toMembers?, hmembers]
      rfl
    · rw [heq]
      rfl

end PropertyTable

namespace Schema

open Json (bind_eq_ok)

/-- The elements of a value are those of an array, or they are no containers. -/
theorem mem_of_elementsOf {value element : Json} {elements : List Json}
    (h : elementsOf value = .ok elements) (hmem : element ∈ elements) :
    (∃ items, value = .arr items ∧ element ∈ items) ∨ ∃ text, element = .str text := by
  cases value with
  | arr items =>
    obtain rfl := Except.ok.inj h
    exact .inl ⟨items, rfl, hmem⟩
  | str text =>
    obtain rfl := Except.ok.inj h
    obtain ⟨c, -, rfl⟩ := List.mem_map.1 hmem
    exact .inr ⟨_, rfl⟩
  | obj members =>
    obtain rfl := Except.ok.inj h
    obtain ⟨member, -, rfl⟩ := List.mem_map.1 hmem
    exact .inr ⟨_, rfl⟩
  | _ => cases h

section Folding

variable {I : Merging → Prop} {Admits : String → Json → Prop}

/-- Laying members in, one after the other. -/
theorem Merging.addMembers_of_add {members : Members} {merging merging' : Merging}
    (add : ∀ {merging merging' : Merging} {name : String} {value : Json}, I merging →
      Admits name value → merging.add name value = .ok merging' → I merging')
    (hI : I merging) (hmembers : ∀ member ∈ members, Admits member.1 member.2)
    (h : merging.addMembers members = .ok merging') : I merging' := by
  induction members generalizing merging with
  | nil =>
    obtain rfl := Except.ok.inj h
    exact hI
  | cons member rest ih =>
    obtain ⟨next, hnext, h⟩ := bind_eq_ok h
    exact ih (add hI (hmembers _ List.mem_cons_self) hnext)
      (fun other hother => hmembers other (List.mem_cons_of_mem _ hother)) h

/-- Laying parts in, one after the other. -/
theorem Merging.addParts_of_add {parts : List Json} {merging merging' : Merging}
    (add : ∀ {merging merging' : Merging} {name : String} {value : Json}, I merging →
      Admits name value → merging.add name value = .ok merging' → I merging')
    (hI : I merging)
    (hparts : ∀ members, .obj members ∈ parts → ∀ member ∈ members, Admits member.1 member.2)
    (h : merging.addParts parts = .ok merging') : I merging' := by
  induction parts generalizing merging with
  | nil =>
    obtain rfl := Except.ok.inj h
    exact hI
  | cons part rest ih =>
    have hrest (members : Members) (hmem : .obj members ∈ rest) :=
      hparts members (List.mem_cons_of_mem _ hmem)
    cases part with
    | obj members =>
      obtain ⟨next, hnext, h⟩ := bind_eq_ok h
      exact ih (Merging.addMembers_of_add add hI (hparts members List.mem_cons_self) hnext) hrest h
    -- a part that is no object has nothing to lay in
    | _ => exact ih hI hrest h

/-- **An invariant of folding.** What holds before anything is laid in, and still holds after each
member of a part, holds of the schema that is finished. -/
theorem folding {schema merged : Schema} {allOf : Json} (h : schema.mergeAllOf allOf = .ok merged)
    (start : ∀ {merging : Merging}, schema.startMerging = .ok merging → I merging)
    (add : ∀ {merging merging' : Merging} {name : String} {value : Json}, I merging →
      Admits name value → merging.add name value = .ok merging' → I merging')
    (hparts : ∀ items members, allOf = .arr items → .obj members ∈ items →
      ∀ member ∈ members, Admits member.1 member.2) :
    ∃ merging : Merging, merged = merging.finish ∧ I merging := by
  obtain ⟨before, hbefore, h⟩ := bind_eq_ok h
  obtain ⟨parts, hall, h⟩ := bind_eq_ok h
  obtain ⟨merging, hmerging, h⟩ := bind_eq_ok h
  obtain rfl := Except.ok.inj h
  refine ⟨merging, rfl, Merging.addParts_of_add add (start hbefore) ?_ hmerging⟩
  intro members hmem
  rcases mem_of_elementsOf hall hmem with ⟨items, hitems, hmem⟩ | ⟨text, htext⟩
  · exact hparts items members hitems hmem
  · exact absurd htext nofun

/-- What laying a member in does. -/
theorem Merging.add_eq_ok {merging merging' : Merging} {name : String} {value : Json}
    (h : merging.add name value = .ok merging') :
    (name = "properties" ∧ ∃ rows, rowsOf value = .ok rows ∧
      merging' = { merging with rows := merging.rows.putAll rows }) ∨
    (name = "required" ∧ ∃ elements, elementsOf value = .ok elements ∧
      merging' = { merging with required := join merging.required elements }) ∨
    merging' = { merging with members := Members.putIfAbsent merging.members name value } := by
  unfold Merging.add at h
  split at h
  · next hname =>
    obtain ⟨rows, hrows, h⟩ := bind_eq_ok h
    exact .inl ⟨hname, rows, hrows, (Except.ok.inj h).symm⟩
  · split at h
    · next hname =>
      obtain ⟨elements, helements, h⟩ := bind_eq_ok h
      exact .inr (.inl ⟨hname, elements, helements, (Except.ok.inj h).symm⟩)
    · exact .inr (.inr (Except.ok.inj h).symm)

/-- What folding starts from, where the properties are not kept in a table. -/
theorem startMerging_eq_ok {schema : Schema} {merging : Merging} (htable : schema.table = none)
    (h : schema.startMerging = .ok merging) :
    ownRows (schema.get? "properties") = .ok merging.rows ∧
      ownElements (schema.get? "required") = .ok merging.required ∧
      merging.members = Members.erase schema.members "allOf" := by
  unfold startMerging at h
  rw [htable] at h
  obtain ⟨rows, hrows, h⟩ := bind_eq_ok h
  obtain ⟨required, hrequired, h⟩ := bind_eq_ok h
  obtain rfl := Except.ok.inj h
  exact ⟨hrows, hrequired, rfl⟩

end Folding

end Schema

end SchemaPress
