import SchemaPress.Proofs.Reference.Inlining
import SchemaPress.Proofs.Reference.Termination

/-!
# What stands where in a dereferenced schema

Inlining copies nodes of the documents to where they are referred to. `Stands` says which visit
was made for what is found at a path: from an object with a reference it goes on to the members
beside it and, by the other keys, to the target, as long as the target is not open. A node may
stand at many paths, and at one path a whole chain of references may stand.

* `Stands.resolves`: what is found at a path is what the visit there came to, up to members that
  references on the way laid over it.
* `Leaves`: at this path, a reference was left as a back edge. There is an object with that
  reference in the result (`Leaves.ref?`), and the target stands at the path itself or around it
  (`Leaves.around`).
-/

namespace SchemaPress

namespace Library

variable {library : Library}

/-! ### Parts of items and members -/

/-- Inlined items come from the items. -/
theorem Resolves.item_of_getElem? {stack : List String} {document path : String} {start : Nat}
    {items values : List Json}
    (h : Resolves library (.items stack document path start items) (.ok (.arr values))) {i : Nat}
    {item value : Json} (hitem : items[i]? = some item) (hvalue : values[i]? = some value) :
    Resolves library (.node stack document (path ++ "/" ++ toString (start + i)) item)
      (.ok value) := by
  induction items generalizing start values i with
  | nil => cases hitem
  | cons first rest ih =>
    cases h with
    | item hfirst hothers =>
      cases i with
      | zero =>
        obtain rfl := Option.some.inj hitem
        obtain rfl := Option.some.inj hvalue
        exact hfirst
      | succ i =>
        have hrest := ih hothers hitem hvalue
        rw [Nat.add_assoc, Nat.add_comm 1 i] at hrest
        exact hrest

/-- Inlined members have the names of the members. -/
theorem Resolves.names {stack : List String} {document path : String} {members values : Members}
    (h : Resolves library (.members stack document path members) (.ok (.obj values))) :
    values.map Prod.fst = members.map Prod.fst := by
  induction members generalizing values with
  | nil =>
    cases h
    rfl
  | cons first rest ih =>
    cases h with
    | member hfirst hothers => rw [List.map_cons, List.map_cons, ih hothers]

/-- Inlined members come from the members. -/
theorem Resolves.member_of_get? {stack : List String} {document path : String}
    {members values : Members}
    (h : Resolves library (.members stack document path members) (.ok (.obj values)))
    {name : String} {json value : Json} (hjson : members.get? name = some json)
    (hvalue : values.get? name = some value) :
    Resolves library (.node stack document (path ++ "/" ++ Pointer.escape name) json)
      (.ok value) := by
  induction members generalizing values with
  | nil => cases hjson
  | cons first rest ih =>
    cases h with
    | @member _ _ _ key _ _ _ _ hfirst hothers =>
      by_cases hkey : name = key
      · subst hkey
        rw [Members.get?_cons_self] at hjson hvalue
        obtain rfl := Option.some.inj hjson
        obtain rfl := Option.some.inj hvalue
        exact hfirst
      · rw [Members.get?_cons_of_ne hkey] at hjson hvalue
        exact ih hothers hjson hvalue

/-! ### Places in the result -/

/-- **What stands where.** Inlining the node of a visit puts at a path what the other visit is made
for. -/
inductive Stands (library : Library) : Visit → List Key → Visit → Prop where
  | here {visit : Visit} : Stands library visit [] visit
  | item {stack : List String} {site : Site} {items : List Json} {index : Nat} {value : Json}
      {path : List Key} {last : Visit} (hnode : site.node = .arr items)
      (hitem : items[index]? = some value)
      (rest : Stands library ⟨stack, site.item index value⟩ path last) :
      Stands library ⟨stack, site⟩ (.index index :: path) last
  | member {stack : List String} {site : Site} {members : Members} {name : String} {value : Json}
      {path : List Key} {last : Visit} (hnode : site.node = .obj members)
      (href : members.ref? = none) (hmember : members.get? name = some value)
      (rest : Stands library ⟨site.key :: stack, site.member name value⟩ path last) :
      Stands library ⟨stack, site⟩ (.name name :: path) last
  | beside {stack : List String} {site : Site} {members : Members} {name ref : String}
      {target : Target} {found value : Json} {path : List Key} {last : Visit}
      (hnode : site.node = .obj members)
      (hrefers : library.Refers site.document members ref target found)
      (hnew : target.key ∉ site.key :: stack) (hname : name ≠ "$ref")
      (hmember : members.get? name = some value)
      (rest : Stands library ⟨site.key :: stack, site.member name value⟩ path last) :
      Stands library ⟨stack, site⟩ (.name name :: path) last
  | target {stack : List String} {site : Site} {members : Members} {ref : String} {target : Target}
      {found : Json} {path : List Key} {last : Visit} (hnode : site.node = .obj members)
      (hrefers : library.Refers site.document members ref target found)
      (hnew : target.key ∉ site.key :: stack)
      (hkey : ∀ name rest, path = .name name :: rest → ¬ HasBeside members name)
      (rest : Stands library ⟨site.key :: stack, target.site found⟩ path last) :
      Stands library ⟨stack, site⟩ path last

/-- Something of this spelling stands at the path or around it. -/
def Around (library : Library) (visit : Visit) (path : List Key) (key : String) : Prop :=
  ∃ before around, before <+: path ∧ Stands library visit before around ∧ around.site.key = key

/-- What is open for the parts of an object was open before, or is the object. -/
theorem around_of_mem {stack : List String} {site : Site} {key : String}
    (h : key ∈ site.key :: stack) (path : List Key) :
    key ∈ stack ∨ Around library ⟨stack, site⟩ path key := by
  rcases List.mem_cons.1 h with rfl | h
  · exact .inr ⟨[], _, List.nil_prefix, .here, rfl⟩
  · exact .inl h

/-- **What is open somewhere stands around it**, or was open from the start. By induction on the way
down, where each object that is entered is put on the stack. -/
theorem Stands.opened {visit last : Visit} {path : List Key} (h : Stands library visit path last)
    {key : String} (hkey : key ∈ last.site.key :: last.stack) :
    key ∈ visit.stack ∨ Around library visit path key := by
  induction h with
  | here => exact around_of_mem hkey _
  -- an array opens nothing, an object is around its parts
  | item hnode hitem rest ih =>
    rcases ih hkey with hold | ⟨before, around, hbefore, hstands, heq⟩
    · exact .inl hold
    · exact .inr ⟨_, around, List.cons_prefix_cons.2 ⟨rfl, hbefore⟩, .item hnode hitem hstands, heq⟩
  | member hnode href hmember rest ih =>
    rcases ih hkey with hold | ⟨before, around, hbefore, hstands, heq⟩
    · exact around_of_mem hold _
    · exact .inr ⟨_, around, List.cons_prefix_cons.2 ⟨rfl, hbefore⟩,
        .member hnode href hmember hstands, heq⟩
  | beside hnode hrefers hnew hname hmember rest ih =>
    rcases ih hkey with hold | ⟨before, around, hbefore, hstands, heq⟩
    · exact around_of_mem hold _
    · exact .inr ⟨_, around, List.cons_prefix_cons.2 ⟨rfl, hbefore⟩,
        .beside hnode hrefers hnew hname hmember hstands, heq⟩
  | target hnode hrefers hnew hbeside rest ih =>
    rcases ih hkey with hold | ⟨before, around, hbefore, hstands, heq⟩
    · exact around_of_mem hold _
    · -- the target is entered at the same path, so the way in front of it is the same
      refine .inr ⟨before, around, hbefore, .target hnode hrefers hnew ?_ hstands, heq⟩
      rintro name others rfl
      obtain ⟨others', rfl⟩ := hbefore
      exact hbeside name _ rfl

/-! ### What an object comes to -/

section Objects

variable {stack : List String} {document path ref : String} {members : Members} {target : Target}
  {found result : Json}

/-- An object without a reference comes to its members. -/
theorem Resolves.of_object (href : members.ref? = none)
    (h : Resolves library (.node stack document path (.obj members)) (.ok result)) :
    ∃ values, result = .obj values ∧ Resolves library
      (.members (Target.placeKey document path :: stack) document path members)
      (.ok (.obj values)) := by
  cases h with
  | leaf _ hobj => exact absurd rfl (hobj _)
  | object _ parts =>
    obtain ⟨values, rfl⟩ := parts.members_obj
    exact ⟨values, rfl, parts⟩
  | backEdge hrefers => exact absurd (href.symm.trans hrefers.isRef) nofun
  | targetValue hrefers => exact absurd (href.symm.trans hrefers.isRef) nofun
  | merged hrefers => exact absurd (href.symm.trans hrefers.isRef) nofun

/-- A reference to an open target comes to a back edge. -/
theorem Resolves.of_open (hrefers : library.Refers document members ref target found)
    (hopen : target.key ∈ Target.placeKey document path :: stack)
    (h : Resolves library (.node stack document path (.obj members)) (.ok result)) :
    result = .obj [("$ref", .str ref), ("title", nameOf target found)] := by
  cases h with
  | leaf _ hobj => exact absurd rfl (hobj _)
  | object href => exact absurd (href.symm.trans hrefers.isRef) nofun
  | backEdge hrefers' =>
    obtain ⟨rfl, rfl, rfl⟩ := hrefers.unique hrefers'
    rfl
  | targetValue hrefers' hnew =>
    obtain ⟨-, rfl, -⟩ := hrefers.unique hrefers'
    exact absurd hopen hnew
  | merged hrefers' hnew =>
    obtain ⟨-, rfl, -⟩ := hrefers.unique hrefers'
    exact absurd hopen hnew

/-- Any other reference comes to what its target comes to, with the members beside the reference
laid over it if that is an object. -/
theorem Resolves.of_new (hrefers : library.Refers document members ref target found)
    (hnew : target.key ∉ Target.placeKey document path :: stack)
    (h : Resolves library (.node stack document path (.obj members)) (.ok result)) :
    (Resolves library (.node (Target.placeKey document path :: stack) target.document
        (Pointer.text target.tokens) found) (.ok result) ∧ ∀ members, result ≠ .obj members) ∨
    ∃ inner beside,
      result = .obj (merge (nameOf target found) inner (Members.erase beside "$ref")) ∧
      Resolves library (.node (Target.placeKey document path :: stack) target.document
        (Pointer.text target.tokens) found) (.ok (.obj inner)) ∧
      Resolves library (.members (Target.placeKey document path :: stack) document path members)
        (.ok (.obj beside)) := by
  cases h with
  | leaf _ hobj => exact absurd rfl (hobj _)
  | object href => exact absurd (href.symm.trans hrefers.isRef) nofun
  | backEdge hrefers' hopen =>
    obtain ⟨-, rfl, -⟩ := hrefers.unique hrefers'
    exact absurd hopen hnew
  | targetValue hrefers' _ hinner hvalue =>
    obtain ⟨-, rfl, rfl⟩ := hrefers.unique hrefers'
    exact .inl ⟨hinner, hvalue⟩
  | merged hrefers' _ hinner hbeside =>
    obtain ⟨-, rfl, rfl⟩ := hrefers.unique hrefers'
    exact .inr ⟨_, _, rfl, hinner, hbeside⟩

end Objects

/-- **Titles stay.** An object with a title comes to one with a title, if it comes to an object. -/
theorem Resolves.get?_title_ne_none {stack : List String} {document path : String}
    {members inner : Members} (hdistinct : members.Distinct)
    (htitle : members.get? "title" ≠ none)
    (h : Resolves library (.node stack document path (.obj members)) (.ok (.obj inner))) :
    inner.get? "title" ≠ none := by
  cases h with
  | leaf _ hobj => exact absurd rfl (hobj _)
  | object _ parts => rwa [ne_eq, Members.get?_eq_none_of_names parts.names]
  | backEdge => exact nofun
  | targetValue _ _ _ hvalue => exact absurd rfl (hvalue _)
  | merged _ _ _ beside =>
    obtain ⟨title, htitle⟩ := Option.ne_none_iff_exists'.1 htitle
    obtain ⟨value, hvalue⟩ := Members.exists_get?_of_names beside.names htitle
    rw [get?_merge_beside _ (hdistinct.of_names beside.names) _ (by decide) hvalue]
    exact nofun

/-- So the name that a reference gives is a text, unless its target has a title anyway. -/
theorem nameOf_text_or_titled (target : Target) {stack : List String} {document path : String}
    {found : Json} {inner : Members} (hdistinct : found.Distinct)
    (h : Resolves library (.node stack document path found) (.ok (.obj inner))) :
    nameOf target found = .str target.fallbackName ∨ inner.get? "title" ≠ none := by
  rcases nameOf_cases target found with hname | ⟨members, rfl, htitle⟩
  · exact .inl hname
  · exact .inr (h.get?_title_ne_none hdistinct.names htitle)

/-! ### What is found at a path -/

/-- Where something stands under a name, the inlined object has that name. -/
theorem Stands.get?_ne_none {visit last : Visit} {path : List Key}
    (h : Stands library visit path last) (hroot : library.root.Distinct) :
    visit.site.node.Distinct → ∀ name rest inner, path = .name name :: rest →
      Resolves library visit.call (.ok (.obj inner)) → Members.get? inner name ≠ none := by
  induction h with
  | here => exact fun _ _ _ _ hpath => by cases hpath
  | item => exact fun _ _ _ _ hpath => by cases hpath
  | @member stack site members key value _ _ hnode href hmember rest _ =>
    intro _ name others inner hpath hresolves
    obtain ⟨hkey, -⟩ := List.cons.inj hpath
    obtain rfl := Key.name.inj hkey
    unfold Visit.call at hresolves
    simp only [hnode] at hresolves
    obtain ⟨values, heq, hparts⟩ := hresolves.of_object href
    obtain rfl := Json.obj.inj heq
    rw [ne_eq, Members.get?_eq_none_of_names hparts.names, hmember]
    exact nofun
  | @beside stack site members key ref target found value _ _ hnode hrefers hnew hname hmember
    rest _ =>
    intro hdistinct name others inner hpath hresolves
    obtain ⟨hkey, -⟩ := List.cons.inj hpath
    obtain rfl := Key.name.inj hkey
    unfold Visit.call at hresolves
    simp only [hnode] at hresolves hdistinct
    rcases hresolves.of_new hrefers hnew with ⟨-, hno⟩ | ⟨_, values, heq, -, hbeside⟩
    · exact absurd rfl (hno _)
    · obtain rfl := Json.obj.inj heq
      obtain ⟨part, hpart⟩ := Members.exists_get?_of_names hbeside.names hmember
      rw [get?_merge_beside _ (hdistinct.names.of_names hbeside.names) _ hname hpart]
      exact nofun
  -- the target has the name by induction, and merging keeps it
  | @target stack site members ref target found _ _ hnode hrefers hnew hno rest ih =>
    intro hdistinct name others inner hpath hresolves
    unfold Visit.call at hresolves
    simp only [hnode] at hresolves hdistinct
    rcases hresolves.of_new hrefers hnew with ⟨-, hno⟩ | ⟨_, values, heq, hinner, hbeside⟩
    · exact absurd rfl (hno _)
    · obtain rfl := Json.obj.inj heq
      have hne := ih (distinct_lookup hroot hrefers.isFound) name others _ hpath hinner
      obtain ⟨part, hpart⟩ := Option.ne_none_iff_exists'.1 hne
      have hown := not_beside_of_names hbeside.names (hno name others hpath)
      rw [get?_merge_inner _ (hdistinct.names.of_names hbeside.names) hown hpart]
      exact nofun

/-- **What is found at a path is what the visit there came to**, up to members laid over it: it
stands for the same reference, if any. -/
theorem Stands.resolves {visit last : Visit} {path : List Key} (h : Stands library visit path last)
    (hroot : library.root.Distinct) : visit.site.node.Distinct → ∀ result found,
      Resolves library visit.call (.ok result) → result.at? path = some found →
      ∃ inner, Resolves library last.call (.ok inner) ∧ found.ref? = inner.ref? := by
  induction h with
  | here =>
    intro _ result found hresolves hfound
    obtain rfl := Option.some.inj hfound
    exact ⟨result, hresolves, rfl⟩
  | @item stack site items index item path last hnode hitem rest ih =>
    intro hdistinct result found hresolves hfound
    unfold Visit.call at hresolves
    simp only [hnode] at hresolves hdistinct
    cases hresolves with
    | leaf harr => exact absurd rfl (harr _)
    | array parts =>
      obtain ⟨values, rfl⟩ := parts.items_arr
      rw [Json.at?_cons, Json.at?_index] at hfound
      obtain ⟨value, hvalue, hfound⟩ := Option.bind_eq_some_iff.1 hfound
      have hpart := parts.item_of_getElem? hitem hvalue
      rw [Nat.zero_add] at hpart
      exact ih (hdistinct.item (List.mem_of_getElem? hitem)) value found hpart hfound
  | @member stack site members name json path last hnode href hmember rest ih =>
    intro hdistinct result found hresolves hfound
    unfold Visit.call at hresolves
    simp only [hnode] at hresolves hdistinct
    obtain ⟨values, rfl, hparts⟩ := hresolves.of_object href
    rw [Json.at?_cons, Json.at?_name] at hfound
    obtain ⟨value, hvalue, hfound⟩ := Option.bind_eq_some_iff.1 hfound
    exact ih (hdistinct.member (Members.mem_of_get? hmember)) value found
      (hparts.member_of_get? hmember hvalue) hfound
  | @beside stack site members name ref target found json path last hnode hrefers hnew hname hmember
      rest ih =>
    intro hdistinct result value hresolves hvalue
    unfold Visit.call at hresolves
    simp only [hnode] at hresolves hdistinct
    rcases hresolves.of_new hrefers hnew with ⟨-, hno⟩ | ⟨inner, beside, rfl, -, hbeside⟩
    · cases result with
      | obj members => exact absurd rfl (hno members)
      | _ => cases hvalue
    · obtain ⟨part, hpart⟩ := Members.exists_get?_of_names hbeside.names hmember
      rw [Json.at?_cons, Json.at?_name,
        get?_merge_beside _ (hdistinct.names.of_names hbeside.names) _ hname hpart] at hvalue
      exact ih (hdistinct.member (Members.mem_of_get? hmember)) part value
        (hbeside.member_of_get? hmember hpart) hvalue
  | @target stack site members ref target json path last hnode hrefers hnew hno rest ih =>
    intro hdistinct result found hresolves hfound
    unfold Visit.call at hresolves
    simp only [hnode] at hresolves hdistinct
    have hjson := distinct_lookup hroot hrefers.isFound
    rcases hresolves.of_new hrefers hnew with ⟨hinner, -⟩ | ⟨inner, beside, rfl, hinner, hbeside⟩
    · exact ih hjson result found hinner hfound
    · have hdistinct := hdistinct.names.of_names hbeside.names
      -- at the end of the path stands the merged object, which has the reference of the target
      rcases path with _ | ⟨key, path⟩
      · obtain rfl := Option.some.inj hfound
        obtain ⟨value, hvalue, heq⟩ := ih hjson _ _ hinner rfl
        refine ⟨value, hvalue, ?_⟩
        rw [← heq]
        exact ref?_merge _ hdistinct _
      · cases key with
        | index index => cases hfound
        | name name =>
          -- the target has something under the name, and nothing is laid over it
          have hne := rest.get?_ne_none hroot hjson name path _ rfl hinner
          obtain ⟨part, hpart⟩ := Option.ne_none_iff_exists'.1 hne
          have hown := not_beside_of_names hbeside.names (hno name path rfl)
          rw [Json.at?_cons, Json.at?_name, get?_merge_inner _ hdistinct hown hpart] at hfound
          refine ih hjson _ found hinner ?_
          rw [Json.at?_cons, Json.at?_name, hpart]
          exact hfound

/-! ### Back edges -/

/-- **A back edge is left** at this path: the object there refers to a target that is open. -/
def Leaves (library : Library) (path : List Key) (ref : String) (target : Target) : Prop :=
  ∃ last members found, Stands library library.rootVisit path last ∧
    last.site.node = .obj members ∧
    library.Refers last.site.document members ref target found ∧
    target.key ∈ last.site.key :: last.stack

/-- **The target stands around the back edge.** -/
theorem Leaves.around {path : List Key} {ref : String} {target : Target}
    (h : library.Leaves path ref target) : Around library library.rootVisit path target.key := by
  obtain ⟨last, members, found, hstands, -, -, hopen⟩ := h
  rcases hstands.opened hopen with hold | haround
  · cases hold
  · exact haround

/-- **What is found where a back edge is left** is an object with that reference. -/
theorem Leaves.ref? (hroot : library.root.Distinct) {path : List Key} {ref : String}
    {target : Target} (h : library.Leaves path ref target) {result value : Json}
    (hresult : library.dereference = .ok result) (hvalue : result.at? path = some value) :
    value.ref? = some ref := by
  obtain ⟨last, members, found, hstands, hnode, hrefers, hopen⟩ := h
  have hends : Ends library.dereference := by
    rw [hresult]
    exact nofun
  have hresolves := resolves_of_dereference hends
  rw [hresult] at hresolves
  obtain ⟨inner, hlast, heq⟩ := hstands.resolves hroot hroot result value hresolves hvalue
  rw [heq]
  unfold Visit.call at hlast
  rw [hnode] at hlast
  rw [hlast.of_open hrefers hopen]
  rfl

end Library

end SchemaPress
