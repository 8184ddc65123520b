import Mathlib.Data.Set.Lattice
import SchemaPress.Proofs.Schema.Regular

/-!
# Schemas that are composed by `allOf`

A composed schema says nothing but a title, that it is of objects, properties, which of them are
required, and an `allOf` of parts that are composed in turn (`Schema.Composed`).

Folding lays all parts of the `allOf` in at once. Of the parts of the parts it keeps those of the first
part that has any, under the `allOf` that is folded next (`Schema.nextParts`); the parts of the other
parts are dropped. So the parts that ever come to be laid in are those of the rounds of folding
(`Schema.IsLaid`). One round is `Schema.Composed.exists_mergeAllOf`.
-/

namespace SchemaPress

namespace Schema

/-! ### What a schema says -/

/-- The parts that a value of `allOf` lists. -/
def partsIn : Option Json → List Members
  | some (.arr items) => items.filterMap fun
    | .obj members => some members
    | _ => none
  | _ => []

/-- The parts of a schema. -/
def partsOf (members : Members) : List Members :=
  partsIn (members.get? "allOf")

/-- The parts that are left for the next round of folding: those of the first part that has an
`allOf`. -/
def nextParts (parts : List Members) : List Members :=
  partsIn (parts.findSome? (·.get? "allOf"))

/-- The properties that a schema itself declares. -/
def declared (members : Members) : Set (String × Json) :=
  {property | ∃ properties, members.get? "properties" = some (.obj properties) ∧ property ∈ properties}

/-- The names of properties that a schema itself requires. -/
def needed (members : Members) : Set String :=
  {name | ∃ items, members.get? "required" = some (.arr items) ∧ Json.str name ∈ items}

/-- What a composed schema may say. -/
inductive Clause : String → Json → Prop where
  | title (text : String) : Clause "title" (.str text)
  | type : Clause "type" (.str "object")
  | properties {properties : Members} (h : properties.Distinct) : Clause "properties" (.obj properties)
  | required (names : List String) : Clause "required" (.arr (names.map .str))
  | allOf (parts : List Members) : Clause "allOf" (.arr (parts.map .obj))

/-- **Composed schemas**, whose parts are composed schemas again. -/
inductive Composed : Members → Prop where
  | mk {members : Members} (distinct : members.Distinct)
      (clauses : ∀ member ∈ members, Clause member.1 member.2)
      (parts : ∀ part ∈ partsOf members, Composed part) : Composed members

namespace Composed

variable {members : Members} (h : Composed members)

include h

theorem distinct : members.Distinct := by
  cases h with
  | mk hdistinct => exact hdistinct

theorem clauses : ∀ member ∈ members, Clause member.1 member.2 := by
  cases h with
  | mk _ hclauses => exact hclauses

theorem parts : ∀ part ∈ partsOf members, Composed part := by
  cases h with
  | mk _ _ hparts => exact hparts

end Composed

/-- **Parts at any depth**, and the schema itself. -/
inductive IsPart (schema : Members) : Members → Prop where
  | self : IsPart schema schema
  | part {outer inner : Members} (h : IsPart schema outer) (hpart : inner ∈ partsOf outer) :
      IsPart schema inner

/-- The parts that are laid in together, round by round. -/
inductive Round (schema : Members) : List Members → Prop where
  | first : Round schema (partsOf schema)
  | next {parts : List Members} (h : Round schema parts) : Round schema (nextParts parts)

/-- **Parts that are laid in** at some time, and the schema itself. -/
def IsLaid (schema part : Members) : Prop :=
  part = schema ∨ ∃ parts, Round schema parts ∧ part ∈ parts

theorem partsIn_arr (parts : List Members) : partsIn (some (.arr (parts.map .obj))) = parts := by
  unfold partsIn
  induction parts with
  | nil => rfl
  | cons part rest ih => exact congrArg (part :: ·) ih

/-! ### Rounds -/

theorem partsOf_of_none {members : Members} (h : members.get? "allOf" = none) : partsOf members = [] := by
  unfold partsOf
  rw [h]
  rfl

/-- The parts of the next round belong to one part of this round, if there are any. -/
theorem exists_of_nextParts (parts : List Members) :
    nextParts parts = [] ∨ ∃ part ∈ parts, nextParts parts = partsOf part := by
  unfold nextParts
  cases hfirst : parts.findSome? (·.get? "allOf") with
  | none => exact .inl rfl
  | some allOf =>
    obtain ⟨part, hpart, hallOf⟩ := List.exists_of_findSome?_eq_some hfirst
    refine .inr ⟨part, hpart, ?_⟩
    unfold partsOf
    rw [hallOf]

/-- A round is a part of the schema, taken apart. -/
theorem Round.exists_isPart {schema : Members} {parts : List Members} (h : Round schema parts) :
    parts = [] ∨ ∃ outer, IsPart schema outer ∧ parts = partsOf outer := by
  induction h with
  | first => exact .inr ⟨schema, .self, rfl⟩
  | @next parts _ ih =>
    rcases exists_of_nextParts parts with hnil | ⟨part, hpart, heq⟩
    · exact .inl hnil
    · rcases ih with rfl | ⟨outer, houter, rfl⟩
      · cases hpart
      · exact .inr ⟨part, .part houter hpart, heq⟩

theorem IsLaid.isPart {schema part : Members} (h : IsLaid schema part) : IsPart schema part := by
  rcases h with rfl | ⟨parts, hround, hpart⟩
  · exact .self
  · rcases hround.exists_isPart with rfl | ⟨outer, houter, rfl⟩
    · cases hpart
    · exact .part houter hpart

/-- Of parts at most one of which has parts, the next round takes these. -/
theorem nextParts_eq {parts : List Members} (h : (parts.filter (·.has "allOf")).length ≤ 1)
    {part : Members} (hpart : part ∈ parts) (hsome : partsOf part ≠ []) :
    nextParts parts = partsOf part := by
  have hhas (other : Members) : other.has "allOf" = (other.get? "allOf").isSome :=
    Members.has_eq_isSome other "allOf"
  have hget : (part.get? "allOf").isSome = true := by
    rw [Option.isSome_iff_ne_none]
    exact fun hnone => hsome (partsOf_of_none hnone)
  unfold nextParts partsOf
  congr 1
  induction parts with
  | nil => cases hpart
  | cons first rest ih =>
    rw [List.findSome?_cons]
    cases hfirst : first.get? "allOf" with
    | some allOf =>
      -- the first part has an `allOf`, so no other one has
      rw [List.filter_cons_of_pos (by rw [hhas, hfirst]; rfl), List.length_cons] at h
      have hnil : rest.filter (·.has "allOf") = [] := List.eq_nil_of_length_eq_zero (by omega)
      rcases List.mem_cons.1 hpart with rfl | hrest
      · exact hfirst.symm
      · have hno := List.filter_eq_nil_iff.1 hnil part hrest
        rw [hhas] at hno
        exact absurd hget hno
    | none =>
      rw [List.filter_cons_of_neg (by rw [hhas, hfirst]; decide)] at h
      rcases List.mem_cons.1 hpart with rfl | hrest
      · rw [hfirst] at hget
        cases hget
      · exact ih h hrest

/-- **Nothing is dropped where at most one part at a time has parts of its own.** -/
theorem IsPart.isLaid {schema part : Members}
    (hone : ∀ outer, IsPart schema outer → ((partsOf outer).filter (·.has "allOf")).length ≤ 1)
    (h : IsPart schema part) : IsLaid schema part := by
  induction h with
  | self => exact .inl rfl
  | @part outer inner houter hpart ih =>
    rcases ih with rfl | ⟨parts, hround, hmem⟩
    · exact .inr ⟨_, .first, hpart⟩
    · refine .inr ⟨_, hround.next, ?_⟩
      rcases hround.exists_isPart with rfl | ⟨whole, hwhole, rfl⟩
      · cases hmem
      · rwa [nextParts_eq (hone whole hwhole) hmem (List.ne_nil_of_mem hpart)]

/-- What is laid into a schema is laid in at the first round or at a later one, which is one of the
schema that the first round leaves. -/
theorem isLaid_iff {schema merged part : Members} (h : partsOf merged = nextParts (partsOf schema)) :
    IsLaid schema part ↔
      part = schema ∨ part ∈ partsOf schema ∨ ∃ parts, Round merged parts ∧ part ∈ parts := by
  have hlater {parts : List Members} (hround : Round merged parts) : Round schema parts := by
    induction hround with
    | first => exact h ▸ Round.first.next
    | next _ ih => exact ih.next
  have hearlier {parts : List Members} (hround : Round schema parts) :
      parts = partsOf schema ∨ Round merged parts := by
    induction hround with
    | first => exact .inl rfl
    | next _ ih =>
      rcases ih with rfl | hround
      · exact .inr (h ▸ .first)
      · exact .inr hround.next
  constructor
  · rintro (heq | ⟨parts, hround, hpart⟩)
    · exact .inl heq
    · rcases hearlier hround with rfl | hround
      · exact .inr (.inl hpart)
      · exact .inr (.inr ⟨parts, hround, hpart⟩)
  · rintro (heq | hpart | ⟨parts, hround, hpart⟩)
    · exact .inl heq
    · exact .inr ⟨_, .first, hpart⟩
    · exact .inr ⟨parts, hlater hround, hpart⟩

/-- Into a schema without `allOf`, nothing is laid. -/
theorem isLaid_of_none {schema part : Members} (h : schema.get? "allOf" = none) :
    IsLaid schema part ↔ part = schema := by
  have hround {parts : List Members} (hround : Round schema parts) : parts = [] := by
    induction hround with
    | first => exact partsOf_of_none h
    | next _ ih =>
      rw [ih]
      rfl
  constructor
  · rintro (heq | ⟨parts, hparts, hpart⟩)
    · exact heq
    · rw [hround hparts] at hpart
      cases hpart
  · exact .inl

/-- The properties that are laid into a schema. -/
def composedProperties (schema : Members) : Set (String × Json) :=
  {property | ∃ part, IsLaid schema part ∧ property ∈ declared part}

/-- The names that are required by what is laid into a schema. -/
def composedNames (schema : Members) : Set String :=
  {name | ∃ part, IsLaid schema part ∧ name ∈ needed part}

section Sets

variable {α : Type} {schema merged : Members}

/-- What the laid parts tell is told at the first round or at a later one. -/
theorem laid_eq (tells : Members → Set α) (h : partsOf merged = nextParts (partsOf schema)) :
    {a | ∃ part, IsLaid schema part ∧ a ∈ tells part} =
      tells schema ∪ {a | ∃ part ∈ partsOf schema, a ∈ tells part} ∪
        {a | ∃ parts, Round merged parts ∧ ∃ part ∈ parts, a ∈ tells part} := by
  ext a
  constructor
  · rintro ⟨part, hlaid, htells⟩
    rcases (isLaid_iff h).1 hlaid with rfl | hpart | ⟨parts, hround, hpart⟩
    · exact .inl (.inl htells)
    · exact .inl (.inr ⟨part, hpart, htells⟩)
    · exact .inr ⟨parts, hround, part, hpart, htells⟩
  · rintro ((htells | ⟨part, hpart, htells⟩) | ⟨parts, hround, part, hpart, htells⟩)
    · exact ⟨schema, .inl rfl, htells⟩
    · exact ⟨part, (isLaid_iff h).2 (.inr (.inl hpart)), htells⟩
    · exact ⟨part, (isLaid_iff h).2 (.inr (.inr ⟨parts, hround, hpart⟩)), htells⟩

theorem laid_eq_self (tells : Members → Set α) :
    {a | ∃ part, IsLaid schema part ∧ a ∈ tells part} =
      tells schema ∪ {a | ∃ parts, Round schema parts ∧ ∃ part ∈ parts, a ∈ tells part} := by
  ext a
  constructor
  · rintro ⟨part, rfl | ⟨parts, hround, hpart⟩, htells⟩
    · exact .inl htells
    · exact .inr ⟨parts, hround, part, hpart, htells⟩
  · rintro (htells | ⟨parts, hround, part, hpart, htells⟩)
    · exact ⟨schema, .inl rfl, htells⟩
    · exact ⟨part, .inr ⟨parts, hround, hpart⟩, htells⟩

theorem laid_of_none (tells : Members → Set α) (h : schema.get? "allOf" = none) :
    {a | ∃ part, IsLaid schema part ∧ a ∈ tells part} = tells schema := by
  ext a
  constructor
  · rintro ⟨part, hlaid, htells⟩
    rwa [(isLaid_of_none h).1 hlaid] at htells
  · exact fun htells => ⟨schema, .inl rfl, htells⟩

end Sets

/-! ### Properties that override others -/

/-- **Properties that are left of all**: each of them is one of these, and none of the names is lost. -/
structure Overrides (left all : Set (String × Json)) : Prop where
  sub : left ⊆ all
  names : ∀ property ∈ all, ∃ value, (property.1, value) ∈ left

theorem Overrides.refl (all : Set (String × Json)) : Overrides all all :=
  ⟨Set.Subset.refl _, fun property h => ⟨property.2, h⟩⟩

theorem Overrides.trans {left middle all : Set (String × Json)} (h : Overrides left middle)
    (h' : Overrides middle all) : Overrides left all := by
  refine ⟨h.sub.trans h'.sub, fun property hproperty => ?_⟩
  obtain ⟨value, hvalue⟩ := h'.names property hproperty
  exact h.names (property.1, value) hvalue

theorem Overrides.union_right {left all : Set (String × Json)} (h : Overrides left all)
    (others : Set (String × Json)) : Overrides (left ∪ others) (all ∪ others) := by
  refine ⟨Set.union_subset_union_left _ h.sub, ?_⟩
  rintro property (hproperty | hproperty)
  · obtain ⟨value, hvalue⟩ := h.names property hproperty
    exact ⟨value, .inl hvalue⟩
  · exact ⟨property.2, .inr hproperty⟩

/-- The members of an object, as a set. -/
def all (members : Members) : Set (String × Json) :=
  {member | member ∈ members}

/-- A member that is put overrides the one of its name. -/
theorem overrides_put (members : Members) (name : String) (value : Json) :
    Overrides (all (members.put name value)) (all members ∪ {(name, value)}) := by
  constructor
  · rintro ⟨key, other⟩ hmember
    rcases Members.mem_put hmember with hmember | ⟨rfl, rfl⟩
    · exact .inl hmember
    · exact .inr rfl
  · intro member hmember
    have hname : member.1 ∈ (members.put name value).map Prod.fst := by
      rw [Members.names_put]
      rcases hmember with hmember | rfl
      · have hkey : member.1 ∈ members.map Prod.fst := List.mem_map_of_mem hmember
        split
        · exact hkey
        · exact List.mem_append_left _ hkey
      · split
        · assumption
        · exact List.mem_append_right _ List.mem_cons_self
    obtain ⟨found, hfound, heq⟩ := List.mem_map.1 hname
    exact ⟨found.2, heq ▸ hfound⟩

/-- Properties that are put one after the other. -/
theorem exists_putAll {properties : Members} (h : properties.Distinct) (others : Members) :
    ∃ result : Members, PropertyTable.putAll (.ofMembers properties) (.ofMembers others) =
        PropertyTable.ofMembers result ∧
      result.Distinct ∧ Overrides (all result) (all properties ∪ all others) := by
  induction others generalizing properties with
  | nil =>
    refine ⟨properties, rfl, h, ?_⟩
    have hnil : all [] = ∅ := Set.eq_empty_of_forall_notMem fun member => List.not_mem_nil
    rw [hnil, Set.union_empty]
    exact .refl _
  | cons other rest ih =>
    obtain ⟨name, value⟩ := other
    obtain ⟨result, hresult, hdistinct, hoverrides⟩ := ih (h.put name value)
    rw [← PropertyTable.put_ofMembers] at hresult
    refine ⟨result, hresult, hdistinct, hoverrides.trans ?_⟩
    have hcons : all properties ∪ all ((name, value) :: rest) =
        all properties ∪ {(name, value)} ∪ all rest := by
      rw [Set.union_assoc]
      congr 1
      ext member
      exact List.mem_cons
    rw [hcons]
    exact (overrides_put properties name value).union_right _

/-- Texts are among others if they are equal to one. -/
theorem holds_texts_iff {names : List String} {name : String} :
    holds (names.map .str) (.str name) = true ↔ name ∈ names := by
  unfold holds
  rw [List.any_map, List.any_eq_true]
  constructor
  · rintro ⟨other, hother, hsame⟩
    have heq : other = name := by simpa [Json.same, Json.eqScalar] using hsame
    exact heq ▸ hother
  · intro hmem
    exact ⟨name, hmem, by simp [Json.same, Json.eqScalar]⟩

/-- Names that are joined. -/
theorem exists_join (names others : List String) :
    ∃ result : List String, join (names.map .str) (others.map .str) = result.map .str ∧
      ∀ name, name ∈ result ↔ name ∈ names ∨ name ∈ others := by
  induction others generalizing names with
  | nil => exact ⟨names, rfl, fun name => by simp⟩
  | cons other rest ih =>
    by_cases hmem : other ∈ names
    · obtain ⟨result, hresult, hnames⟩ := ih names
      refine ⟨result, ?_, fun name => ?_⟩
      · rw [← hresult]
        unfold join
        rw [List.map_cons, List.foldl_cons, if_pos (holds_texts_iff.2 hmem)]
      · rw [hnames, List.mem_cons]
        constructor
        · rintro (h | h)
          · exact .inl h
          · exact .inr (.inr h)
        · rintro (h | rfl | h)
          · exact .inl h
          · exact .inl hmem
          · exact .inr h
    · obtain ⟨result, hresult, hnames⟩ := ih (names ++ [other])
      refine ⟨result, ?_, fun name => ?_⟩
      · rw [← hresult]
        unfold join
        rw [List.map_cons, List.foldl_cons, if_neg fun h => hmem (holds_texts_iff.1 h),
          List.map_append]
        rfl
      · rw [hnames, List.mem_append, List.mem_singleton, List.mem_cons, or_assoc]

/-! ### Clauses -/

namespace Clause

variable {name : String} {value : Json}

theorem exists_title (h : Clause name value) (hname : name = "title") : ∃ text, value = .str text := by
  cases h with
  | title text => exact ⟨text, rfl⟩
  | _ => exact absurd hname (by decide)

theorem eq_object (h : Clause name value) (hname : name = "type") : value = .str "object" := by
  cases h with
  | type => rfl
  | _ => exact absurd hname (by decide)

theorem exists_properties (h : Clause name value) (hname : name = "properties") :
    ∃ properties : Members, value = .obj properties ∧ properties.Distinct := by
  cases h with
  | properties h => exact ⟨_, rfl, h⟩
  | _ => exact absurd hname (by decide)

theorem exists_required (h : Clause name value) (hname : name = "required") :
    ∃ names : List String, value = .arr (names.map .str) := by
  cases h with
  | required names => exact ⟨names, rfl⟩
  | _ => exact absurd hname (by decide)

theorem exists_allOf (h : Clause name value) (hname : name = "allOf") :
    ∃ parts : List Members, value = .arr (parts.map .obj) := by
  cases h with
  | allOf parts => exact ⟨parts, rfl⟩
  | _ => exact absurd hname (by decide)

/-- The names that a composed schema may have members of. -/
theorem name_mem (h : Clause name value) :
    name ∈ ["title", "type", "properties", "required", "allOf"] := by
  cases h <;> decide

end Clause

/-- A composed schema has no member of any other name. -/
theorem get?_of_clauses {members : Members} (h : ∀ member ∈ members, Clause member.1 member.2)
    {name : String} (hname : name ∉ ["title", "type", "properties", "required", "allOf"]) :
    members.get? name = none := by
  cases hget : members.get? name with
  | none => rfl
  | some value => exact absurd (h _ (Members.mem_of_get? hget)).name_mem hname

theorem declared_of_none {members : Members} (h : members.get? "properties" = none) :
    declared members = ∅ := by
  refine Set.eq_empty_of_forall_notMem fun property hproperty => ?_
  obtain ⟨properties, hget, -⟩ := hproperty
  rw [h] at hget
  cases hget

theorem declared_of_get? {members properties : Members}
    (h : members.get? "properties" = some (.obj properties)) : declared members = all properties := by
  ext property
  constructor
  · rintro ⟨others, hget, hproperty⟩
    rw [h] at hget
    cases hget
    exact hproperty
  · exact fun hproperty => ⟨properties, h, hproperty⟩

theorem needed_of_none {members : Members} (h : members.get? "required" = none) :
    needed members = ∅ := by
  refine Set.eq_empty_of_forall_notMem fun name hname => ?_
  obtain ⟨items, hget, -⟩ := hname
  rw [h] at hget
  cases hget

theorem needed_of_get? {members : Members} {names : List String}
    (h : members.get? "required" = some (.arr (names.map .str))) :
    needed members = {name | name ∈ names} := by
  ext name
  have hmem : Json.str name ∈ names.map Json.str ↔ name ∈ names := by
    rw [List.mem_map]
    constructor
    · rintro ⟨other, hother, heq⟩
      cases heq
      exact hother
    · exact fun hname => ⟨name, hname, rfl⟩
  constructor
  · rintro ⟨items, hget, hname⟩
    rw [h] at hget
    cases hget
    exact hmem.1 hname
  · exact fun hname => ⟨_, h, hmem.2 hname⟩

/-- Members of which the same is found say the same. -/
theorem declared_congr {members others : Members}
    (h : members.get? "properties" = others.get? "properties") : declared members = declared others := by
  unfold declared
  rw [h]

theorem needed_congr {members others : Members}
    (h : members.get? "required" = others.get? "required") : needed members = needed others := by
  unfold needed
  rw [h]

/-- What is found behind a first member. -/
theorem get?_cons_eq (name key : String) (value : Json) (rest : Members) :
    Members.get? ((name, value) :: rest) key =
      (Members.get? [(name, value)] key).or (rest.get? key) := by
  by_cases hkey : key = name
  · subst hkey
    rw [Members.get?_cons_self, Members.get?_cons_self]
    rfl
  · rw [Members.get?_cons_of_ne hkey, Members.get?_cons_of_ne hkey]
    rfl

theorem declared_cons {name : String} {value : Json} {rest : Members}
    (h : Members.Distinct ((name, value) :: rest)) :
    declared ((name, value) :: rest) = declared [(name, value)] ∪ declared rest := by
  have hfree := (Members.get?_eq_none_iff rest name).2 (Members.distinct_cons.1 h).1
  by_cases hname : "properties" = name
  · subst hname
    rw [declared_of_none hfree, Set.union_empty]
    refine declared_congr ?_
    rw [Members.get?_cons_self, Members.get?_cons_self]
  · have hnone : Members.get? [(name, value)] "properties" = none := Members.get?_cons_of_ne hname ..
    rw [declared_of_none hnone, Set.empty_union]
    exact declared_congr (Members.get?_cons_of_ne hname ..)

theorem needed_cons {name : String} {value : Json} {rest : Members}
    (h : Members.Distinct ((name, value) :: rest)) :
    needed ((name, value) :: rest) = needed [(name, value)] ∪ needed rest := by
  have hfree := (Members.get?_eq_none_iff rest name).2 (Members.distinct_cons.1 h).1
  by_cases hname : "required" = name
  · subst hname
    rw [needed_of_none hfree, Set.union_empty]
    refine needed_congr ?_
    rw [Members.get?_cons_self, Members.get?_cons_self]
  · have hnone : Members.get? [(name, value)] "required" = none := Members.get?_cons_of_ne hname ..
    rw [needed_of_none hnone, Set.empty_union]
    exact needed_congr (Members.get?_cons_of_ne hname ..)

/-! ### Laying parts in -/

/-- **What a schema tells while parts are laid into it**: properties that override others, the required
names, and the `allOf` that is left. -/
structure Merging.Tells (merging : Merging) (properties : Set (String × Json)) (names : Set String)
    (allOf : Option Json) : Prop where
  rows : ∃ rows : Members, merging.rows = .ofMembers rows ∧ rows.Distinct ∧
    Overrides (all rows) properties
  required : ∃ texts : List String, merging.required = texts.map .str ∧
    {name | name ∈ texts} = names
  distinct : merging.members.Distinct
  clauses : ∀ member ∈ merging.members, Clause member.1 member.2
  declared : declared merging.members ⊆ properties
  needed : needed merging.members ⊆ names
  allOf : merging.members.get? "allOf" = allOf

section Laying

variable {merging : Merging} {properties : Set (String × Json)} {names : Set String}
  {allOf : Option Json}

/-- A clause of a part is taken unless the schema has one of the name. -/
theorem Merging.Tells.putIfAbsent (h : merging.Tells properties names allOf) {name : String}
    {value : Json} (hclause : Clause name value) (hproperties : "properties" ≠ name)
    (hrequired : "required" ≠ name) :
    Merging.Tells { merging with members := merging.members.putIfAbsent name value }
      (properties ∪ Schema.declared [(name, value)]) (names ∪ Schema.needed [(name, value)])
      (allOf.or (Members.get? [(name, value)] "allOf")) := by
  rw [declared_of_none (Members.get?_cons_of_ne hproperties ..), Set.union_empty,
    needed_of_none (Members.get?_cons_of_ne hrequired ..), Set.union_empty]
  refine ⟨h.rows, h.required, h.distinct.putIfAbsent name value, ?_, ?_, ?_, ?_⟩
  · rintro ⟨key, other⟩ hmember
    rcases Members.mem_putIfAbsent hmember with hmember | ⟨rfl, rfl⟩
    · exact h.clauses _ hmember
    · exact hclause
  · rw [declared_congr ((Members.get?_putIfAbsent ..).trans (if_neg hproperties))]
    exact h.declared
  · rw [needed_congr ((Members.get?_putIfAbsent ..).trans (if_neg hrequired))]
    exact h.needed
  · rw [Members.get?_putIfAbsent, ← h.allOf]
    by_cases hname : "allOf" = name
    · subst hname
      rw [if_pos rfl, Members.get?_cons_self]
      cases merging.members.get? "allOf" <;> rfl
    · rw [if_neg hname, Members.get?_cons_of_ne hname, Members.get?_nil, Option.or_none]

/-- **One clause of a part**, by what it is about. -/
theorem Merging.Tells.exists_add (h : merging.Tells properties names allOf) {name : String} {value : Json}
    (hclause : Clause name value) :
    ∃ merging', merging.add name value = .ok merging' ∧
      merging'.Tells (properties ∪ Schema.declared [(name, value)])
        (names ∪ Schema.needed [(name, value)])
        (allOf.or (Members.get? [(name, value)] "allOf")) := by
  cases hclause with
  | title text =>
    exact ⟨_, rfl, h.putIfAbsent (.title text) (by decide) (by decide)⟩
  | type =>
    exact ⟨_, rfl, h.putIfAbsent .type (by decide) (by decide)⟩
  | allOf parts =>
    exact ⟨_, rfl, h.putIfAbsent (.allOf parts) (by decide) (by decide)⟩
  | @properties others hothers =>
    obtain ⟨rows, hrows, hdistinct, hoverrides⟩ := h.rows
    obtain ⟨result, hresult, hdistinct', hoverrides'⟩ := exists_putAll hdistinct others
    refine ⟨{ merging with rows := merging.rows.putAll (.ofMembers others) }, rfl, ?_⟩
    rw [declared_of_get? (Members.get?_cons_self ..),
      needed_of_none (Members.get?_cons_of_ne (by decide) ..), Set.union_empty,
      Members.get?_cons_of_ne (by decide), Members.get?_nil, Option.or_none]
    refine ⟨⟨result, ?_, hdistinct', hoverrides'.trans (hoverrides.union_right _)⟩, h.required,
      h.distinct, h.clauses, h.declared.trans Set.subset_union_left, h.needed, h.allOf⟩
    rw [← hresult, ← hrows]
  | required others =>
    obtain ⟨texts, htexts, hnames⟩ := h.required
    obtain ⟨result, hresult, hmem⟩ := exists_join texts others
    refine ⟨{ merging with required := join merging.required (others.map .str) }, rfl, ?_⟩
    rw [declared_of_none (Members.get?_cons_of_ne (by decide) ..), Set.union_empty,
      needed_of_get? (Members.get?_cons_self ..),
      Members.get?_cons_of_ne (by decide), Members.get?_nil, Option.or_none]
    refine ⟨h.rows, ⟨result, ?_, ?_⟩, h.distinct, h.clauses, h.declared,
      h.needed.trans Set.subset_union_left, h.allOf⟩
    · rw [← hresult, ← htexts]
    · rw [← hnames]
      ext name
      exact hmem name

/-- **One part**, clause by clause. -/
theorem Merging.Tells.exists_addMembers (h : merging.Tells properties names allOf) {part : Members}
    (hdistinct : part.Distinct) (hclauses : ∀ member ∈ part, Clause member.1 member.2) :
    ∃ merging', merging.addMembers part = .ok merging' ∧
      merging'.Tells (properties ∪ Schema.declared part) (names ∪ Schema.needed part)
        (allOf.or (part.get? "allOf")) := by
  induction part generalizing merging properties names allOf with
  | nil =>
    rw [declared_of_none rfl, needed_of_none rfl, Set.union_empty, Set.union_empty,
      Members.get?_nil, Option.or_none]
    exact ⟨merging, rfl, h⟩
  | cons member rest ih =>
    obtain ⟨name, value⟩ := member
    obtain ⟨next, hadd, hnext⟩ := h.exists_add (hclauses _ List.mem_cons_self)
    obtain ⟨last, hrest, hlast⟩ := ih hnext (Members.distinct_cons.1 hdistinct).2
      fun member hmember => hclauses member (List.mem_cons_of_mem _ hmember)
    refine ⟨last, ?_, ?_⟩
    · rw [Merging.addMembers, hadd]
      exact hrest
    · rw [declared_cons hdistinct, needed_cons hdistinct, get?_cons_eq, ← Set.union_assoc,
        ← Set.union_assoc, ← Option.or_assoc]
      exact hlast

/-- **All parts**, one after the other: the first `allOf` in them is the one that is left. -/
theorem Merging.Tells.exists_addParts (h : merging.Tells properties names allOf) {parts : List Members}
    (hparts : ∀ part ∈ parts, Composed part) :
    ∃ merging', merging.addParts (parts.map .obj) = .ok merging' ∧
      merging'.Tells (properties ∪ {property | ∃ part ∈ parts, property ∈ Schema.declared part})
        (names ∪ {name | ∃ part ∈ parts, name ∈ Schema.needed part})
        (allOf.or (parts.findSome? (·.get? "allOf"))) := by
  induction parts generalizing merging properties names allOf with
  | nil =>
    refine ⟨merging, rfl, ?_⟩
    simpa using h
  | cons part rest ih =>
    have hpart := hparts part List.mem_cons_self
    obtain ⟨next, hadd, hnext⟩ := h.exists_addMembers hpart.distinct hpart.clauses
    obtain ⟨last, hrest, hlast⟩ := ih hnext fun other hother =>
      hparts other (List.mem_cons_of_mem _ hother)
    refine ⟨last, ?_, ?_⟩
    · rw [List.map_cons, Merging.addParts, hadd]
      exact hrest
    · have hcons {α : Type} (f : Members → Set α) (others : Set α) :
          others ∪ {a | ∃ other ∈ part :: rest, a ∈ f other} =
            others ∪ f part ∪ {a | ∃ other ∈ rest, a ∈ f other} := by
        ext a
        simp [or_assoc]
      have hfirst : (part :: rest).findSome? (·.get? "allOf") =
          (part.get? "allOf").or (rest.findSome? (·.get? "allOf")) := by
        rw [List.findSome?_cons]
        cases part.get? "allOf" <;> rfl
      rw [hcons, hcons, hfirst, ← Option.or_assoc]
      exact hlast

/-- What a schema tells before anything is laid in. -/
theorem exists_startMerging {members : Members} (hdistinct : members.Distinct)
    (hclauses : ∀ member ∈ members, Clause member.1 member.2) :
    ∃ merging, startMerging ⟨members, none⟩ = .ok merging ∧
      merging.Tells (Schema.declared members) (Schema.needed members) none := by
  obtain ⟨rows, hrows, hrowsDistinct, hdeclared⟩ : ∃ rows : Members,
      ownRows (members.get? "properties") = .ok (PropertyTable.ofMembers rows) ∧ rows.Distinct ∧
        Schema.declared members = all rows := by
    cases hget : members.get? "properties" with
    | none =>
      refine ⟨[], rfl, List.nodup_nil, ?_⟩
      rw [declared_of_none hget]
      exact (Set.eq_empty_of_forall_notMem fun member => List.not_mem_nil).symm
    | some value =>
      obtain ⟨rows, rfl, hrows⟩ := (hclauses _ (Members.mem_of_get? hget)).exists_properties rfl
      refine ⟨rows, ?_, hrows, declared_of_get? hget⟩
      cases rows <;> rfl
  obtain ⟨texts, htexts, hneeded⟩ : ∃ texts : List String,
      ownElements (members.get? "required") = .ok (texts.map .str) ∧
        Schema.needed members = {name | name ∈ texts} := by
    cases hget : members.get? "required" with
    | none =>
      refine ⟨[], rfl, ?_⟩
      rw [needed_of_none hget]
      exact (Set.eq_empty_of_forall_notMem fun name => List.not_mem_nil).symm
    | some value =>
      obtain ⟨texts, rfl⟩ := (hclauses _ (Members.mem_of_get? hget)).exists_required rfl
      refine ⟨texts, ?_, needed_of_get? hget⟩
      cases texts <;> rfl
  refine ⟨⟨members.erase "allOf", .ofMembers rows, texts.map .str⟩, ?_, ?_⟩
  · unfold startMerging
    change (do
      let rows ← ownRows (members.get? "properties")
      let required ← ownElements (members.get? "required")
      pure (⟨members.erase "allOf", rows, required⟩ : Merging)) = _
    rw [hrows, htexts]
    rfl
  · refine ⟨⟨rows, rfl, hrowsDistinct, ?_⟩, ⟨texts, rfl, hneeded.symm⟩, hdistinct.erase _, ?_, ?_, ?_, ?_⟩
    · rw [hdeclared]
      exact .refl _
    · intro member hmember
      exact hclauses member (Members.mem_of_mem_erase hmember).1
    · rw [declared_congr ((Members.get?_erase ..).trans (if_neg (by decide)))]
    · rw [needed_congr ((Members.get?_erase ..).trans (if_neg (by decide)))]
    · exact (Members.get?_erase ..).trans (if_pos rfl)

theorem clauses_put {members : Members} (h : ∀ member ∈ members, Clause member.1 member.2)
    {name : String} {value : Json} (hclause : Clause name value) :
    ∀ member ∈ members.put name value, Clause member.1 member.2 := by
  rintro ⟨key, other⟩ hmember
  rcases Members.mem_put hmember with hmember | ⟨rfl, rfl⟩
  · exact h _ hmember
  · exact hclause

/-- A type is added that composed schemas may have. -/
theorem Merging.Tells.typed (h : merging.Tells properties names allOf) :
    merging.typed.Distinct ∧ (∀ member ∈ merging.typed, Clause member.1 member.2) ∧
      ∀ key, key ≠ "type" → merging.typed.get? key = merging.members.get? key := by
  unfold Merging.typed
  split
  · exact ⟨h.distinct, h.clauses, fun key _ => rfl⟩
  · refine ⟨h.distinct.putIfAbsent .., ?_, fun key hkey => ?_⟩
    · rintro ⟨key, other⟩ hmember
      rcases Members.mem_putIfAbsent hmember with hmember | ⟨rfl, rfl⟩
      · exact h.clauses _ hmember
      · exact .type
    · exact (Members.get?_putIfAbsent ..).trans (if_neg hkey)

/-- All required names are told. -/
theorem Merging.Tells.complete (h : merging.Tells properties names allOf) :
    merging.complete.Distinct ∧ (∀ member ∈ merging.complete, Clause member.1 member.2) ∧
      (∀ key, key ≠ "type" → key ≠ "required" →
        merging.complete.get? key = merging.members.get? key) ∧
      Schema.needed merging.complete = names := by
  obtain ⟨hdistinct, hclauses, hget⟩ := h.typed
  obtain ⟨texts, htexts, hnames⟩ := h.required
  unfold Merging.complete
  rw [htexts]
  cases texts with
  | nil =>
    -- nothing is required, so the schema's own list, if there is one, is empty
    refine ⟨hdistinct, hclauses, fun key hkey _ => hget key hkey, ?_⟩
    have hempty : names = ∅ := by
      rw [← hnames]
      exact Set.eq_empty_of_forall_notMem fun name => List.not_mem_nil
    have hneeded := h.needed
    rw [hempty] at hneeded ⊢
    refine Set.subset_empty_iff.1 (Set.Subset.trans (Eq.subset ?_) hneeded)
    exact needed_congr (hget "required" (by decide))
  | cons text rest =>
    refine ⟨hdistinct.put .., clauses_put hclauses (.required (text :: rest)), fun key hkey hne => ?_, ?_⟩
    · exact (Members.get?_put_of_ne hne).trans (hget key hkey)
    · rw [← hnames]
      exact needed_of_get? (Members.get?_put_self ..)

/-- **The finished schema is composed as well**, of what is told. -/
theorem Merging.Tells.exists_finish (h : merging.Tells properties names allOf) :
    ∃ merged : Members, merging.finish = ⟨merged, none⟩ ∧ merged.Distinct ∧
      (∀ member ∈ merged, Clause member.1 member.2) ∧
      Overrides (Schema.declared merged) properties ∧ Schema.needed merged = names ∧
      merged.get? "allOf" = allOf := by
  obtain ⟨hdistinct, hclauses, hget, hneeded⟩ := h.complete
  obtain ⟨rows, hrows, hrowsDistinct, hoverrides⟩ := h.rows
  have hallOf : merging.complete.get? "allOf" = allOf :=
    (hget "allOf" (by decide) (by decide)).trans h.allOf
  unfold Merging.finish
  rw [hrows, PropertyTable.toMembers?_ofMembers]
  cases rows with
  | nil =>
    refine ⟨_, rfl, hdistinct, hclauses, ?_, hneeded, hallOf⟩
    have hdeclared := h.declared
    rw [← declared_congr (hget "properties" (by decide) (by decide))] at hdeclared
    refine ⟨hdeclared, fun property hproperty => ?_⟩
    obtain ⟨value, hvalue⟩ := hoverrides.names property hproperty
    exact absurd hvalue List.not_mem_nil
  | cons row rest =>
    refine ⟨merging.complete.put "properties" (.obj (row :: rest)), rfl, hdistinct.put ..,
      clauses_put hclauses (.properties hrowsDistinct), ?_, ?_, ?_⟩
    · rw [declared_of_get? (Members.get?_put_self ..)]
      exact hoverrides
    · rw [← hneeded]
      exact needed_congr (Members.get?_put_of_ne (by decide))
    · rw [Members.get?_put_of_ne (by decide), hallOf]

end Laying

/-! ### A round of folding -/

/-- **One round of folding.** The parts of the `allOf` are laid in, and the parts of the first of them that
has parts are left. -/
theorem Composed.exists_mergeAllOf {members : Members} (h : Composed members) {allOf : Json}
    (hget : members.get? "allOf" = some allOf) :
    ∃ merged, mergeAllOf ⟨members, none⟩ allOf = .ok ⟨merged, none⟩ ∧ Composed merged ∧
      Overrides (declared merged)
        (declared members ∪ {property | ∃ part ∈ partsOf members, property ∈ declared part}) ∧
      needed merged = needed members ∪ {name | ∃ part ∈ partsOf members, name ∈ needed part} ∧
      partsOf merged = nextParts (partsOf members) := by
  have hparts := h.parts
  obtain ⟨parts, rfl⟩ := (h.clauses _ (Members.mem_of_get? hget)).exists_allOf rfl
  have hpartsOf : partsOf members = parts := by
    unfold partsOf
    rw [hget, partsIn_arr]
  rw [hpartsOf] at hparts ⊢
  obtain ⟨start, hstart, htells⟩ := exists_startMerging h.distinct h.clauses
  obtain ⟨last, hlast, htells⟩ := htells.exists_addParts hparts
  obtain ⟨merged, hmerged, hdistinct', hclauses', hdeclared, hneeded, hallOf⟩ := htells.exists_finish
  have hnext : partsOf merged = nextParts parts := by
    unfold partsOf nextParts
    rw [hallOf]
    rfl
  refine ⟨merged, ?_, ⟨hdistinct', hclauses', ?_⟩, hdeclared, hneeded, hnext⟩
  · unfold mergeAllOf
    rw [hstart]
    change (start.addParts (parts.map .obj) >>= fun merging => pure merging.finish) = _
    rw [hlast]
    exact congrArg Except.ok hmerged
  · -- what is left are the parts of a part
    rw [hnext]
    rcases exists_of_nextParts parts with hnil | ⟨part, hpart, heq⟩
    · rw [hnil]
      exact List.forall_mem_nil _
    · exact heq ▸ (hparts part hpart).parts

end Schema

end SchemaPress
