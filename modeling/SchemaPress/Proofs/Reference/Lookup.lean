import SchemaPress.Proofs.Files.Task
import SchemaPress.Proofs.Json.Regular
import SchemaPress.Proofs.Reference.Resolution

/-!
# What references can lead to

Whatever `Library.lookup` finds is part of a document (`part_of_lookup`). So it inherits what
holds of all parts: its objects hold each name once, and the references in it are among those of
the document.
-/

namespace SchemaPress

/-- **Parts.** A value, its items and members, theirs, and so on. -/
inductive Json.Part (whole : Json) : Json → Prop where
  | self : Part whole whole
  | item {items : List Json} {value : Json} (h : Part whole (.arr items)) (hitem : value ∈ items) :
      Part whole value
  | member {members : Members} {name : String} {value : Json} (h : Part whole (.obj members))
      (hmember : (name, value) ∈ members) : Part whole value

namespace Json.Part

theorem trans {whole part inner : Json} (h : Part whole part) (h' : Part part inner) :
    Part whole inner := by
  induction h' with
  | self => exact h
  | item _ hitem ih => exact ih.item hitem
  | member _ hmember ih => exact ih.member hmember

theorem distinct {whole part : Json} (h : Part whole part) (hwhole : whole.Distinct) :
    part.Distinct := by
  induction h with
  | self => exact hwhole
  | item _ hitem ih => exact ih.item hitem
  | member _ hmember ih => exact ih.member hmember

/-- A part of an array is the array or part of an item. -/
theorem of_arr {items : List Json} {part : Json} (h : (Json.arr items).Part part) :
    part = .arr items ∨ ∃ item ∈ items, item.Part part := by
  induction h with
  | self => exact .inl rfl
  | item _ hitem ih =>
    rcases ih with heq | ⟨outer, houter, hpart⟩
    · cases heq
      exact .inr ⟨_, hitem, .self⟩
    · exact .inr ⟨outer, houter, hpart.item hitem⟩
  | member _ hmember ih =>
    rcases ih with heq | ⟨outer, houter, hpart⟩
    · cases heq
    · exact .inr ⟨outer, houter, hpart.member hmember⟩

/-- A part of an object is the object or part of a member. -/
theorem of_obj {members : Members} {part : Json} (h : (Json.obj members).Part part) :
    part = .obj members ∨ ∃ member ∈ members, member.2.Part part := by
  induction h with
  | self => exact .inl rfl
  | item _ hitem ih =>
    rcases ih with heq | ⟨outer, houter, hpart⟩
    · cases heq
    · exact .inr ⟨outer, houter, hpart.item hitem⟩
  | member _ hmember ih =>
    rcases ih with heq | ⟨outer, houter, hpart⟩
    · cases heq
      exact .inr ⟨_, hmember, .self⟩
    · exact .inr ⟨outer, houter, hpart.member hmember⟩

end Json.Part

namespace Library

/-! ### References in parts -/

theorem mem_refsInItems {items : List Json} {item : Json} {ref : String} (hitem : item ∈ items)
    (h : ref ∈ refsIn item) : ref ∈ refsInItems items := by
  induction items with
  | nil => cases hitem
  | cons first rest ih =>
    rw [refsInItems]
    rcases List.mem_cons.1 hitem with rfl | hitem
    · exact List.mem_append_left _ h
    · exact List.mem_append_right _ (ih hitem)

theorem mem_refsInMembers_tail {name : String} {value : Json} {rest : Members} {ref : String}
    (h : ref ∈ refsInMembers rest) : ref ∈ refsInMembers ((name, value) :: rest) := by
  cases value with
  | str text =>
    rw [refsInMembers]
    exact List.mem_append_right _ h
  | _ =>
    rw [refsInMembers]
    · exact List.mem_append_right _ h
    · exact nofun

theorem mem_refsInMembers {members : Members} {name : String} {value : Json} {ref : String}
    (hmember : (name, value) ∈ members) (h : ref ∈ refsIn value) : ref ∈ refsInMembers members := by
  induction members with
  | nil => cases hmember
  | cons first rest ih =>
    obtain ⟨key, old⟩ := first
    rcases List.mem_cons.1 hmember with heq | hmember
    · cases heq
      -- a text has no references, and no other value is taken for a reference under its name
      cases value with
      | str text =>
        rw [refsIn] at h
        · cases h
        · exact nofun
        · exact nofun
      | _ =>
        rw [refsInMembers]
        · exact List.mem_append_left _ h
        · exact nofun
    · exact mem_refsInMembers_tail (ih hmember)

/-- The reference that an object stands for is one of its references. -/
theorem mem_refsIn_of_ref? {members : Members} {ref : String} (h : members.ref? = some ref) :
    ref ∈ refsIn (.obj members) := by
  have hmem := Members.mem_of_get? (Members.get?_of_ref? h)
  rw [refsIn]
  -- only membership goes through the induction: the rest alone may stand for no reference
  clear h
  induction members with
  | nil => cases hmem
  | cons first rest ih =>
    obtain ⟨key, old⟩ := first
    rcases List.mem_cons.1 hmem with heq | hmem
    · cases heq
      rw [refsInMembers, if_pos rfl]
      exact List.mem_append_left _ List.mem_cons_self
    · exact mem_refsInMembers_tail (ih hmem)

theorem refsIn_of_part {whole part : Json} (h : whole.Part part) {ref : String}
    (href : ref ∈ refsIn part) : ref ∈ refsIn whole := by
  induction h with
  | self => exact href
  | item _ hitem ih =>
    refine ih ?_
    rw [refsIn]
    exact mem_refsInItems hitem href
  | member _ hmember ih =>
    refine ih ?_
    rw [refsIn]
    exact mem_refsInMembers hmember href

/-! ### Lookups -/

/-- What a token leads to is an item or a member. -/
theorem part_of_step {ref token : String} {value next : Json}
    (h : step ref token value = .ok next) :
    value.Part next := by
  unfold step at h
  split at h
  · split at h
    · split at h
      · next hitem =>
        cases h
        exact .item .self (List.mem_of_getElem? hitem)
      · cases h
    · cases h
    · cases h
  · split at h
    · next hmember =>
      cases h
      exact .member .self (Members.mem_of_get? hmember)
    · cases h
  · cases h

theorem part_of_steps {ref : String} {tokens : List String} {value last : Json}
    (h : tokens.foldlM (fun value token => step ref token value) value = .ok last) :
    value.Part last := by
  induction tokens generalizing value with
  | nil =>
    cases h
    exact .self
  | cons token rest ih =>
    rw [List.foldlM_cons] at h
    obtain ⟨next, hstep, h⟩ := Json.bind_eq_ok h
    exact (part_of_step hstep).trans (ih h)

/-- **What is loaded**: the root of the library, or what a text in its tree says. -/
theorem load_eq_ok_iff {library : Library} {document ref : String} {value : Json} :
    library.load document ref = .ok value ↔ (document = "" ∧ value = library.root) ∨
      (document ≠ "" ∧ ∃ text, library.tree.readText (Path.ofText document) = .ok text ∧
        Json.parse text = .ok value) := by
  unfold load
  by_cases hempty : document = ""
  · subst hempty
    rw [if_pos (show "".isEmpty = true by decide)]
    simp only [Except.ok.injEq, true_and, ne_eq, not_true_eq_false, false_and, or_false]
    exact eq_comm
  · have hne : ¬ document.isEmpty = true := by simpa using hempty
    rw [if_neg hne]
    simp only [hempty, false_and, false_or, ne_eq, not_false_eq_true, true_and]
    constructor
    · intro h
      obtain ⟨text, htext, h⟩ := Json.bind_eq_ok h
      exact ⟨text, Task.ok_of_mapError htext, Task.ok_of_mapError h⟩
    · rintro ⟨text, htext, hparse⟩
      rw [htext, Task.mapError_ok, Task.ok_bind, hparse, Task.mapError_ok]

/-- **What is found is part of a document.** -/
theorem part_of_lookup {library : Library} {target : Target} {ref : String} {found : Json}
    (h : library.lookup target ref = .ok found) :
    ∃ value, library.load target.document ref = .ok value ∧ value.Part found := by
  obtain ⟨value, hload, h⟩ := Json.bind_eq_ok h
  exact ⟨value, hload, part_of_steps h⟩

/-- What is found does not depend on the reference; only errors name it. -/
theorem lookup_eq_ok {library : Library} {target : Target} {ref ref' : String} {found : Json}
    (h : library.lookup target ref = .ok found) : library.lookup target ref' = .ok found := by
  have hload {document : String} {value : Json} (h : library.load document ref = .ok value) :
      library.load document ref' = .ok value :=
    load_eq_ok_iff.2 (load_eq_ok_iff.1 h)
  have hstep {token : String} {value next : Json} (h : step ref token value = .ok next) :
      step ref' token value = .ok next := by
    unfold step at h ⊢
    grind
  have hsteps {tokens : List String} {value : Json}
      (h : tokens.foldlM (fun value token => step ref token value) value = .ok found) :
      tokens.foldlM (fun value token => step ref' token value) value = .ok found := by
    induction tokens generalizing value with
    | nil => exact h
    | cons token rest ih =>
      rw [List.foldlM_cons] at h ⊢
      obtain ⟨next, hnext, h⟩ := Json.bind_eq_ok h
      rw [hstep hnext]
      exact ih h
  obtain ⟨value, hvalue, h⟩ := Json.bind_eq_ok h
  unfold lookup
  rw [hload hvalue]
  exact hsteps h

theorem distinct_load {library : Library} (hroot : library.root.Distinct) {document ref : String}
    {value : Json} (h : library.load document ref = .ok value) : value.Distinct := by
  rcases load_eq_ok_iff.1 h with ⟨-, rfl⟩ | ⟨-, text, -, hparse⟩
  · exact hroot
  · exact Json.distinct_of_parse hparse

theorem distinct_lookup {library : Library} (hroot : library.root.Distinct) {target : Target}
    {ref : String} {found : Json} (h : library.lookup target ref = .ok found) : found.Distinct := by
  obtain ⟨value, hload, hpart⟩ := part_of_lookup h
  exact hpart.distinct (distinct_load hroot hload)

end Library

end SchemaPress
