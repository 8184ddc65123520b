import SchemaPress.Proofs.Reference.Occurrence

/-!
# Inlining in another context

A node is inlined with a stack of what is open around it, so the same node may come to different values
where it stands and where it is referred to. The stack decides about nothing but back edges. Up to
where one is left, what a node becomes is the same in all contexts (`Becomes.sameAt`); in particular,
two values without back edges are equal (`Resolves.eq_of_whole`).

Values are compared by paths: at a path they are the same on the surface (`Json.SameAt`), that is, up
to what is in their parts. A back edge counts only if it is seen. Members beside a reference may lie
over it, and the value is whole all the same (`Whole`).
-/

namespace SchemaPress

/-! ### Surfaces -/

namespace Json

/-- **The surface of a value**: its kind, with the number of items or the names of members. -/
def surface : Json → Json
  | .arr items => .arr (items.map fun _ => .null)
  | .obj members => .obj (members.map fun (name, _) => (name, .null))
  | value => value

theorem surface_arr_eq {value : Json} {items : List Json} :
    (Json.arr items).surface = value.surface ↔
      ∃ values, value = .arr values ∧ values.length = items.length := by
  constructor
  · intro h
    cases value with
    | arr values =>
      have hlength := congrArg List.length (Json.arr.inj h)
      simp only [List.length_map] at hlength
      exact ⟨values, rfl, hlength.symm⟩
    | _ => cases h
  · rintro ⟨values, rfl, hlength⟩
    simp only [surface, List.map_const', hlength]

theorem surface_obj_eq {value : Json} {members : Members} :
    (Json.obj members).surface = value.surface ↔
      ∃ values, value = .obj values ∧ values.map Prod.fst = members.map Prod.fst := by
  have hsurface (members : Members) : (Json.obj members).surface =
      .obj ((members.map Prod.fst).map fun name => (name, .null)) := by
    rw [List.map_map]
    rfl
  constructor
  · intro h
    cases value with
    | obj values =>
      rw [hsurface, hsurface] at h
      have hnames := congrArg (List.map Prod.fst) (Json.obj.inj h)
      simp only [List.map_map, Function.comp_def] at hnames
      exact ⟨values, rfl, hnames.symm⟩
    | _ => cases h
  · rintro ⟨values, rfl, hnames⟩
    rw [hsurface, hsurface, hnames]

/-- **At a path, two values are the same on the surface**, or both have nothing there. -/
def SameAt (value other : Json) (path : List Key) : Prop :=
  (value.at? path).map surface = (other.at? path).map surface

theorem SameAt.refl (value : Json) (path : List Key) : value.SameAt value path := rfl

/-- Then both have something there, or both have nothing. -/
theorem SameAt.at?_eq_none {value other : Json} {path : List Key} (h : value.SameAt other path) :
    value.at? path = none ↔ other.at? path = none := by
  rw [← Option.map_eq_none_iff (f := surface), show _ = _ from h, Option.map_eq_none_iff]

theorem sameAt_nil {value other : Json} : value.SameAt other [] ↔ value.surface = other.surface := by
  simp [SameAt, at?]

section Parts

variable {value other part part' : Json} {key : Key} {path : List Key}

theorem sameAt_cons (hvalue : value.at? [key] = some part) (hother : other.at? [key] = some part') :
    value.SameAt other (key :: path) ↔ part.SameAt part' path := by
  unfold SameAt
  rw [at?_cons, hvalue, at?_cons other, hother, Option.bind_some, Option.bind_some]

theorem sameAt_of_none (hvalue : value.at? [key] = none) (hother : other.at? [key] = none) :
    value.SameAt other (key :: path) := by
  unfold SameAt
  rw [at?_cons, hvalue, at?_cons other, hother]

/-- Only objects have something under a name. -/
theorem at?_name_of_not_obj (hobj : ∀ members, value ≠ .obj members) {name : String} :
    value.at? [.name name] = none := by
  cases value with
  | obj members => exact absurd rfl (hobj members)
  | _ => rfl

/-- Arrays of one length are compared item by item. -/
theorem sameAt_arr {items others : List Json} (hlength : others.length = items.length)
    (h : ∀ index item other, key = .index index → items[index]? = some item →
      others[index]? = some other → item.SameAt other path) :
    (Json.arr items).SameAt (.arr others) (key :: path) := by
  cases key with
  | name name => exact sameAt_of_none rfl rfl
  | index index =>
    by_cases hlt : index < items.length
    · have hitem := List.getElem?_eq_getElem hlt
      have hother := List.getElem?_eq_getElem (hlength ▸ hlt : index < others.length)
      exact (sameAt_cons (at?_index.trans hitem) (at?_index.trans hother)).2
        (h index _ _ rfl hitem hother)
    · refine sameAt_of_none (at?_index.trans ?_) (at?_index.trans ?_)
      · exact List.getElem?_eq_none (Nat.le_of_not_lt hlt)
      · exact List.getElem?_eq_none (hlength ▸ Nat.le_of_not_lt hlt)

/-- Objects of the same names are compared member by member. -/
theorem sameAt_obj {members others : Members}
    (hnames : others.map Prod.fst = members.map Prod.fst)
    (h : ∀ name value other, key = .name name → members.get? name = some value →
      others.get? name = some other → value.SameAt other path) :
    (Json.obj members).SameAt (.obj others) (key :: path) := by
  cases key with
  | index index => exact sameAt_of_none rfl rfl
  | name name =>
    cases hvalue : members.get? name with
    | none =>
      exact sameAt_of_none (at?_name.trans hvalue)
        (at?_name.trans ((Members.get?_eq_none_of_names hnames name).2 hvalue))
    | some value =>
      obtain ⟨other, hother⟩ := Members.exists_get?_of_names hnames hvalue
      exact (sameAt_cons (at?_name.trans hvalue) (at?_name.trans hother)).2
        (h name value other rfl hvalue hother)

/-- Values of one surface have something behind the same keys. -/
theorem at?_eq_none_of_surface (h : value.surface = other.surface) (hvalue : value.at? [key] = none) :
    other.at? [key] = none := by
  cases other with
  | arr others =>
    obtain ⟨items, rfl, hlength⟩ := surface_arr_eq.1 h.symm
    cases key with
    | name name => rfl
    | index index =>
      rw [at?_index] at hvalue ⊢
      exact List.getElem?_eq_none (hlength ▸ List.getElem?_eq_none_iff.1 hvalue)
  | obj others =>
    obtain ⟨members, rfl, hnames⟩ := surface_obj_eq.1 h.symm
    cases key with
    | index index => rfl
    | name name =>
      rw [at?_name] at hvalue ⊢
      exact (Members.get?_eq_none_of_names hnames name).1 hvalue
  | _ => cases key <;> rfl

end Parts

/-- **Values are equal if they are the same at all paths.** -/
theorem eq_of_sameAt {value other : Json} (hdistinct : value.Distinct)
    (h : ∀ path, value.SameAt other path) : value = other := by
  induction hdistinct generalizing other with
  | @leaf value harr hobj =>
    have hsurface := sameAt_nil.1 (h [])
    cases other with
    | arr items =>
      obtain ⟨values, rfl, -⟩ := surface_arr_eq.1 hsurface.symm
      exact absurd rfl (harr values)
    | obj members =>
      obtain ⟨values, rfl, -⟩ := surface_obj_eq.1 hsurface.symm
      exact absurd rfl (hobj values)
    | _ =>
      cases value with
      | arr items => exact absurd rfl (harr items)
      | obj members => exact absurd rfl (hobj members)
      | _ => exact hsurface
  | @arr items _ ih =>
    obtain ⟨values, rfl, hlength⟩ := surface_arr_eq.1 (sameAt_nil.1 (h []))
    refine congrArg Json.arr (List.ext_getElem hlength.symm fun index hitem hvalue => ?_)
    refine ih _ (List.getElem_mem hitem) fun path => ?_
    exact (sameAt_cons (at?_index.trans (List.getElem?_eq_getElem hitem))
      (at?_index.trans (List.getElem?_eq_getElem hvalue))).1 (h (.index index :: path))
  | @obj members hmembers _ ih =>
    obtain ⟨values, rfl, hnames⟩ := surface_obj_eq.1 (sameAt_nil.1 (h []))
    refine congrArg Json.obj (Members.eq_of_get? hnames hmembers fun name value other hvalue hother => ?_)
    refine ih _ (Members.mem_of_get? hvalue) fun path => ?_
    exact (sameAt_cons (at?_name.trans hvalue) (at?_name.trans hother)).1 (h (.name name :: path))

end Json

namespace Library

variable {library : Library}

/-! ### Merged objects -/

/-- Merged objects have the same names if their parts have. -/
theorem names_merge (name : Json) {inner inner' beside beside' : Members}
    (hinner : inner'.map Prod.fst = inner.map Prod.fst)
    (hbeside : beside'.map Prod.fst = beside.map Prod.fst) :
    (merge name inner' beside').map Prod.fst = (merge name inner beside).map Prod.fst := by
  have hput {members members' : Members} (h : members'.map Prod.fst = members.map Prod.fst) :
      (beside'.foldl (fun members (key, value) => members.put key value) members').map Prod.fst =
        (beside.foldl (fun members (key, value) => members.put key value) members).map Prod.fst := by
    clear hinner
    induction beside generalizing beside' members members' with
    | nil =>
      obtain rfl := List.map_eq_nil_iff.1 hbeside
      exact h
    | cons first rest ih =>
      obtain ⟨first', rest', rfl, hfirst, hrest⟩ := List.map_eq_cons_iff.1 hbeside
      refine ih hrest ?_
      rw [Members.names_put, Members.names_put, h, hfirst]
  refine hput ?_
  split
  · rw [Members.names_putIfAbsent, Members.names_putIfAbsent, Members.names_put, Members.names_put,
      hinner]
  · exact hinner

/-- **Merged objects are the same behind a name** if what is found there is. -/
theorem sameAt_merge (name : Json) {members inner inner' beside beside' : Members} {key : Key}
    {path : List Key} (hdistinct : members.Distinct)
    (hinner : inner'.map Prod.fst = inner.map Prod.fst)
    (hbeside : beside.map Prod.fst = members.map Prod.fst)
    (hbeside' : beside'.map Prod.fst = members.map Prod.fst)
    (hover : ∀ name value other, key = .name name → HasBeside members name →
      beside.get? name = some value → beside'.get? name = some other → value.SameAt other path)
    (hunder : ∀ name value other, key = .name name → ¬ HasBeside members name →
      inner.get? name = some value → inner'.get? name = some other → value.SameAt other path) :
    (Json.obj (merge name inner (beside.erase "$ref"))).SameAt
      (.obj (merge name inner' (beside'.erase "$ref"))) (key :: path) := by
  have hown := hdistinct.of_names hbeside
  have hown' := hdistinct.of_names hbeside'
  refine Json.sameAt_obj (names_merge name hinner ?_) fun text value other hkey hvalue hother => ?_
  · rw [Members.names_erase, Members.names_erase, hbeside, hbeside']
  by_cases hhas : HasBeside members text
  · obtain ⟨json, hjson⟩ := Option.ne_none_iff_exists'.1 hhas.2
    obtain ⟨part, hpart⟩ := Members.exists_get?_of_names hbeside hjson
    obtain ⟨part', hpart'⟩ := Members.exists_get?_of_names hbeside' hjson
    rw [get?_merge_beside name hown inner hhas.1 hpart] at hvalue
    rw [get?_merge_beside name hown' inner' hhas.1 hpart'] at hother
    obtain rfl := Option.some.inj hvalue
    obtain rfl := Option.some.inj hother
    exact hover text _ _ hkey hhas hpart hpart'
  · rw [get?_merge_elsewhere name hown (not_beside_of_names hbeside hhas)] at hvalue
    rw [get?_merge_elsewhere name hown' (not_beside_of_names hbeside' hhas)] at hother
    -- an added title is added to both
    split at hvalue
    · next htitle =>
      rw [if_pos htitle] at hother
      obtain ⟨-, rfl⟩ := htitle
      cases hold : inner.get? "title" with
      | none =>
        rw [hold] at hvalue
        rw [(Members.get?_eq_none_of_names hinner "title").2 hold] at hother
        obtain rfl := Option.some.inj hvalue
        obtain rfl := Option.some.inj hother
        exact .refl _ _
      | some title =>
        obtain ⟨title', hold'⟩ := Members.exists_get?_of_names hinner hold
        rw [hold] at hvalue
        rw [hold'] at hother
        obtain rfl := Option.some.inj hvalue
        obtain rfl := Option.some.inj hother
        exact hunder "title" _ _ hkey hhas hold hold'
    · next htitle =>
      rw [if_neg htitle] at hother
      exact hunder text value other hkey hhas hvalue hother

/-! ### Where back edges are left -/

/-- **A visit leaves a back edge** at this path: the object that stands there refers to a target that is
open. -/
def LeavesAt (library : Library) (visit : Visit) (path : List Key) : Prop :=
  ∃ last members ref target found, Stands library visit path last ∧
    last.site.node = .obj members ∧
    library.Refers last.site.document members ref target found ∧
    target.key ∈ last.site.key :: last.stack

/-- No back edge is left on the way along the path. -/
def Unbroken (library : Library) (visit : Visit) (path : List Key) : Prop :=
  ∀ before, before <+: path → ¬ library.LeavesAt visit before

section Ways

variable {stack : List String} {site : Site} {path : List Key}

theorem Unbroken.nil {visit : Visit} (h : library.Unbroken visit path) : library.Unbroken visit [] :=
  fun before hbefore => h before (List.prefix_nil.1 hbefore ▸ List.nil_prefix)

/-- What a visit of a part leaves is left behind the key of the part. -/
theorem LeavesAt.behind {visit next : Visit} {key : Key}
    (hstands : ∀ before last, Stands library next before last →
      Stands library visit (key :: before) last)
    (h : library.LeavesAt next path) : library.LeavesAt visit (key :: path) := by
  obtain ⟨last, members, ref, target, found, hlast, hrest⟩ := h
  exact ⟨last, members, ref, target, found, hstands path last hlast, hrest⟩

theorem Unbroken.rest {visit next : Visit} {key : Key} (h : library.Unbroken visit (key :: path))
    (hstands : ∀ before last, Stands library next before last →
      Stands library visit (key :: before) last) : library.Unbroken next path :=
  fun before hbefore hleaves =>
    h (key :: before) (List.cons_prefix_cons.2 ⟨rfl, hbefore⟩) (hleaves.behind hstands)

variable {members : Members} {ref : String} {target : Target} {found : Json}
  (hnode : site.node = .obj members)
  (hrefers : library.Refers site.document members ref target found)

include hnode hrefers

theorem Unbroken.not_mem (h : library.Unbroken ⟨stack, site⟩ path) :
    target.key ∉ site.key :: stack :=
  fun hopen => h [] List.nil_prefix ⟨_, _, _, _, _, .here, hnode, hrefers, hopen⟩

theorem Unbroken.followed (h : library.Unbroken ⟨stack, site⟩ path)
    (hnew : target.key ∉ site.key :: stack)
    (hkey : ∀ name rest, path = .name name :: rest → ¬ HasBeside members name) :
    library.Unbroken ⟨site.key :: stack, target.site found⟩ path := by
  rintro before hbefore ⟨last, others, ref', target', found', hlast, hrest⟩
  refine h before hbefore ⟨last, others, ref', target', found', ?_, hrest⟩
  refine .target hnode hrefers hnew (fun name rest heq => ?_) hlast
  subst heq
  obtain ⟨others, rfl⟩ := hbefore
  exact hkey name _ rfl

end Ways

/-! ### The same in every context -/

/-- An array comes to an array, item by item. -/
theorem Resolves.of_array {stack : List String} {document path : String} {items : List Json}
    {result : Json} (h : Resolves library (.node stack document path (.arr items)) (.ok result)) :
    ∃ values : List Json, result = .arr values ∧ values.length = items.length ∧
      ∀ (index : Nat) (item value : Json), items[index]? = some item → values[index]? = some value →
        Resolves library (.node stack document (path ++ "/" ++ toString index) item)
          (.ok value) := by
  cases h with
  | leaf harr => exact absurd rfl (harr _)
  | array parts =>
    obtain ⟨values, rfl, hlength, -⟩ := parts.becomes _ rfl
    refine ⟨values, rfl, hlength, fun index item value hitem hvalue => ?_⟩
    have hpart := parts.item_of_getElem? hitem hvalue
    rw [Nat.zero_add] at hpart
    exact hpart

/-- **Up to back edges, a node becomes the same in every context**, by induction on what it becomes in
one of them. -/
theorem Becomes.sameAt (hroot : library.root.Distinct) {visit : Visit} {value : Json}
    (h : Becomes library visit value) : visit.site.node.Distinct →
    ∀ {stack : List String} {pointer : String} {other : Json} {path : List Key},
      Resolves library (.node stack visit.site.document pointer visit.site.node) (.ok other) →
      library.Unbroken visit path →
      library.Unbroken ⟨stack, ⟨visit.site.document, pointer, visit.site.node⟩⟩ path →
      value.SameAt other path := by
  induction h with
  | @leaf _ site harr hobj =>
    intro _ stack pointer other path hother _ _
    cases hother.becomes _ rfl with
    | leaf => exact .refl _ _
    | array hnode => exact absurd hnode (harr _)
    | object hnode => exact absurd hnode (hobj _)
    | backEdge hnode => exact absurd hnode (hobj _)
    | targetValue hnode => exact absurd hnode (hobj _)
    | merged hnode => exact absurd hnode (hobj _)
  | @array _ site items values hnode hlength hitems ih =>
    intro hdistinct stack pointer other path hother hedges hedges'
    simp only [hnode] at hdistinct hother
    obtain ⟨others, rfl, hlength', hparts⟩ := hother.of_array
    cases path with
    | nil => exact Json.sameAt_nil.2 (Json.surface_arr_eq.2 ⟨_, rfl, hlength'.trans hlength.symm⟩)
    | cons key path =>
      refine Json.sameAt_arr (hlength'.trans hlength.symm) fun index value other hkey hvalue hother => ?_
      subst hkey
      obtain ⟨item, hitem⟩ : ∃ item, items[index]? = some item :=
        ⟨_, List.getElem?_eq_getElem (hlength ▸ (List.getElem?_eq_some_iff.1 hvalue).1)⟩
      refine ih index item value hitem hvalue (hdistinct.item (List.mem_of_getElem? hitem))
        (hparts index item other hitem hother) ?_ ?_
      · exact hedges.rest fun _ _ hstands => .item hnode hitem hstands
      · exact hedges'.rest fun _ _ hstands => .item hnode hitem hstands
  | @object _ site members values hnode href hnames hmembers ih =>
    intro hdistinct stack pointer other path hother hedges hedges'
    simp only [hnode] at hdistinct hother
    obtain ⟨others, rfl, hparts⟩ := hother.of_object href
    have hnames' := hparts.names.trans hnames.symm
    cases path with
    | nil => exact Json.sameAt_nil.2 (Json.surface_obj_eq.2 ⟨_, rfl, hnames'⟩)
    | cons key path =>
      refine Json.sameAt_obj hnames' fun name value other hkey hvalue hother => ?_
      subst hkey
      obtain ⟨json, hjson⟩ := Members.exists_get?_of_names hnames.symm hvalue
      refine ih name json value hjson hvalue (hdistinct.member (Members.mem_of_get? hjson))
        (hparts.member_of_get? hjson hother) ?_ ?_
      · exact hedges.rest fun _ _ hstands => .member hnode href hjson hstands
      · exact hedges'.rest fun _ _ hstands => .member hnode href hjson hstands
  | backEdge hnode hrefers hopen =>
    intro _ _ _ _ _ _ hedges
    exact absurd hopen (hedges.not_mem hnode hrefers)
  | @targetValue _ site members ref target found value hnode hrefers hnew _ hvalue ih =>
    intro _ stack pointer other path hother hedges hedges'
    have hdistinct := distinct_lookup hroot hrefers.isFound
    have hnode' : (Site.mk site.document pointer site.node).node = .obj members := hnode
    have hnew' := hedges'.not_mem hnode' hrefers
    simp only [hnode] at hother
    rcases hother.of_new hrefers hnew' with ⟨hinner, hno⟩ | ⟨inner, beside, rfl, hinner, -⟩
    · -- no member beside the references is laid over what is no object
      by_cases hkey : ∃ name rest, path = .name name :: rest
      · obtain ⟨name, rest, rfl⟩ := hkey
        exact Json.sameAt_of_none (Json.at?_name_of_not_obj hvalue) (Json.at?_name_of_not_obj hno)
      · have hindex (name : String) (rest : List Key) (heq : path = .name name :: rest) :
            ¬ HasBeside members name := absurd ⟨name, rest, heq⟩ hkey
        exact ih hdistinct hinner (hedges.followed hnode hrefers hnew hindex)
          (hedges'.followed hnode' hrefers hnew' hindex)
    · have hsame := ih hdistinct hinner (hedges.nil.followed hnode hrefers hnew nofun)
        (hedges'.nil.followed hnode' hrefers hnew' nofun)
      obtain ⟨members, rfl, -⟩ := Json.surface_obj_eq.1 (Json.sameAt_nil.1 hsame).symm
      exact absurd rfl (hvalue members)
  | @merged _ site members inner beside ref target found hnode hrefers hnew _ hnames hbeside ihInner
      ihBeside =>
    intro hdistinct stack pointer other path hother hedges hedges'
    have hfound := distinct_lookup hroot hrefers.isFound
    have hnode' : (Site.mk site.document pointer site.node).node = .obj members := hnode
    have hnew' := hedges'.not_mem hnode' hrefers
    simp only [hnode] at hdistinct hother
    rcases hother.of_new hrefers hnew' with ⟨hinner, hno⟩ | ⟨inner', beside', rfl, hinner, hparts⟩
    · have hsame := ihInner hfound hinner (hedges.nil.followed hnode hrefers hnew nofun)
        (hedges'.nil.followed hnode' hrefers hnew' nofun)
      obtain ⟨members, rfl, -⟩ := Json.surface_obj_eq.1 (Json.sameAt_nil.1 hsame)
      exact absurd rfl (hno members)
    · have hsame := ihInner hfound hinner (hedges.nil.followed hnode hrefers hnew nofun)
        (hedges'.nil.followed hnode' hrefers hnew' nofun)
      obtain ⟨_, heq, hinnerNames⟩ := Json.surface_obj_eq.1 (Json.sameAt_nil.1 hsame)
      obtain rfl := Json.obj.inj heq
      cases path with
      | nil =>
        refine Json.sameAt_nil.2 (Json.surface_obj_eq.2 ⟨_, rfl, names_merge _ hinnerNames ?_⟩)
        rw [Members.names_erase, Members.names_erase, hnames, hparts.names]
      | cons key path =>
        refine sameAt_merge _ hdistinct.names hinnerNames hnames hparts.names
          (fun name value other hkey hhas hvalue hother => ?_)
          fun name value other hkey hhas hvalue hother => ?_
        · subst hkey
          obtain ⟨json, hjson⟩ := Option.ne_none_iff_exists'.1 hhas.2
          refine ihBeside name json value hjson hvalue (hdistinct.member (Members.mem_of_get? hjson))
            (hparts.member_of_get? hjson hother) ?_ ?_
          · exact hedges.rest fun _ _ => .beside hnode hrefers hnew hhas.1 hjson
          · exact hedges'.rest fun _ _ => .beside hnode' hrefers hnew' hhas.1 hjson
        · subst hkey
          have hkey (text : String) (rest : List Key) (heq : Key.name name :: path = .name text :: rest) :
              ¬ HasBeside members text := by
            obtain ⟨htext, -⟩ := List.cons.inj heq
            obtain rfl := Key.name.inj htext
            exact hhas
          have hsame := ihInner hfound hinner (hedges.followed hnode hrefers hnew hkey)
            (hedges'.followed hnode' hrefers hnew' hkey)
          exact (Json.sameAt_cons (Json.at?_name.trans hvalue) (Json.at?_name.trans hother)).1 hsame

/-! ### Values without back edges -/

/-- **Whole values**: where the visit leaves a back edge, something else lies over it. -/
def Whole (library : Library) (visit : Visit) (value : Json) : Prop :=
  ∀ path, library.LeavesAt visit path → value.at? path = none

/-- No back edge is on the way to what is seen in a whole value. -/
theorem Whole.unbroken {visit : Visit} {value part : Json} {path : List Key}
    (h : library.Whole visit value) (hpart : value.at? path = some part) :
    library.Unbroken visit path := by
  intro before hbefore hleaves
  obtain ⟨outer, houter⟩ := Json.at?_of_prefix hbefore hpart
  exact absurd (houter.symm.trans (h before hleaves)) nofun

theorem Whole.part {visit next : Visit} {value part : Json} {key : Key}
    (h : library.Whole visit value) (hpart : value.at? [key] = some part)
    (hstands : ∀ before last, Stands library next before last →
      Stands library visit (key :: before) last) : library.Whole next part := by
  intro path hleaves
  have hnone := h (key :: path) (hleaves.behind hstands)
  rw [Json.at?_cons, hpart] at hnone
  exact hnone

theorem distinct_nameOf (target : Target) {found : Json} (h : found.Distinct) :
    (nameOf target found).Distinct := by
  unfold nameOf
  split
  · next title htitle =>
    split
    · cases found with
      | obj members => exact h.member (Members.mem_of_get? htitle)
      | _ => cases htitle
    · exact Json.distinct_str _
  · exact Json.distinct_str _

theorem distinct_merge {name : Json} {inner beside : Members} (hname : name.Distinct)
    (hinner : (Json.obj inner).Distinct) (hbeside : ∀ member ∈ beside, member.2.Distinct) :
    (Json.obj (merge name inner beside)).Distinct := by
  unfold merge
  refine List.foldlRecOn (motive := fun members => (Json.obj members).Distinct) beside _ ?_
    fun members hmembers member hmember =>
      Json.distinct_put hmembers member.1 (hbeside member hmember)
  split
  · exact hinner.putIfAbsent "title" hname
  · exact hinner

/-- **What a node becomes holds each name once**, if the schema does. -/
theorem Becomes.distinct (hroot : library.root.Distinct) {visit : Visit} {value : Json}
    (h : Becomes library visit value) : visit.site.node.Distinct → value.Distinct := by
  induction h with
  | leaf => exact id
  | array hnode hlength hitems ih =>
    intro hdistinct
    refine .arr fun value hvalue => ?_
    obtain ⟨index, hindex, rfl⟩ := List.getElem_of_mem hvalue
    have hitem := List.getElem?_eq_getElem (hlength ▸ hindex)
    exact ih index _ _ hitem (List.getElem?_eq_getElem hindex)
      ((hnode ▸ hdistinct).item (List.mem_of_getElem? hitem))
  | object hnode href hnames hmembers ih =>
    intro hdistinct
    rw [hnode] at hdistinct
    have hvalues := hdistinct.names.of_names hnames
    refine .obj hvalues fun ⟨name, value⟩ hmember => ?_
    have hvalue := hvalues.get?_of_mem hmember
    obtain ⟨json, hjson⟩ := Members.exists_get?_of_names hnames.symm hvalue
    exact ih name json value hjson hvalue (hdistinct.member (Members.mem_of_get? hjson))
  | backEdge hnode hrefers =>
    exact fun _ => .cons (by simp) (Json.distinct_str _)
      (Json.distinct_singleton _ (distinct_nameOf _ (distinct_lookup hroot hrefers.isFound)))
  | targetValue hnode hrefers hnew inner hvalue ih =>
    exact fun _ => ih (distinct_lookup hroot hrefers.isFound)
  | merged hnode hrefers hnew hinner hnames hbeside ihInner ihBeside =>
    intro hdistinct
    rw [hnode] at hdistinct
    have hfound := distinct_lookup hroot hrefers.isFound
    refine distinct_merge (distinct_nameOf _ hfound) (ihInner hfound) fun ⟨name, value⟩ hmember => ?_
    have hvalue := (hdistinct.names.of_names hnames).get?_of_mem (List.mem_filter.1 hmember).1
    obtain ⟨json, hjson⟩ := Members.exists_get?_of_names hnames.symm hvalue
    exact ihBeside name json value hjson hvalue (hdistinct.member (Members.mem_of_get? hjson))

/-- **A node becomes one whole value**, whatever is open around it and wherever it is said to stand. -/
theorem Resolves.eq_of_whole (hroot : library.root.Distinct) {stack stack' : List String}
    {document pointer pointer' : String} {node value other : Json} (hdistinct : node.Distinct)
    (h : Resolves library (.node stack document pointer node) (.ok value))
    (h' : Resolves library (.node stack' document pointer' node) (.ok other))
    (hwhole : library.Whole ⟨stack, ⟨document, pointer, node⟩⟩ value)
    (hwhole' : library.Whole ⟨stack', ⟨document, pointer', node⟩⟩ other) : value = other := by
  have hbecomes : Becomes library ⟨stack, ⟨document, pointer, node⟩⟩ value := h.becomes _ rfl
  refine Json.eq_of_sameAt (hbecomes.distinct hroot hdistinct) fun path => ?_
  have hseen {path : List Key} {part part' : Json} (hpart : value.at? path = some part)
      (hpart' : other.at? path = some part') : value.SameAt other path :=
    hbecomes.sameAt hroot hdistinct h' (hwhole.unbroken hpart) (hwhole'.unbroken hpart')
  -- along a path, one value ends where the other one does
  induction path using List.reverseRecOn with
  | nil => exact hseen rfl rfl
  | append_singleton before key ih =>
    cases hbefore : value.at? before with
    | none =>
      unfold Json.SameAt
      rw [Json.at?_append, Json.at?_append, hbefore, ih.at?_eq_none.1 hbefore]
    | some outer =>
      obtain ⟨outer', hbefore'⟩ := Option.ne_none_iff_exists'.1
        fun hnone => absurd (hbefore.symm.trans (ih.at?_eq_none.2 hnone)) nofun
      have hsurface : outer.surface = outer'.surface := by
        unfold Json.SameAt at ih
        rw [hbefore, hbefore'] at ih
        exact Option.some.inj ih
      have hkey : value.at? (before ++ [key]) = outer.at? [key] := by
        rw [Json.at?_append, hbefore, Option.bind_some]
      have hkey' : other.at? (before ++ [key]) = outer'.at? [key] := by
        rw [Json.at?_append, hbefore', Option.bind_some]
      cases hpart : outer.at? [key] with
      | none =>
        have hpart' := Json.at?_eq_none_of_surface hsurface hpart
        unfold Json.SameAt
        rw [hkey, hkey', hpart, hpart']
      | some part =>
        obtain ⟨part', hpart'⟩ := Option.ne_none_iff_exists'.1
          fun hnone => absurd (hpart.symm.trans (Json.at?_eq_none_of_surface hsurface.symm hnone)) nofun
        exact hseen (hkey.trans hpart) (hkey'.trans hpart')

/-- **What is seen where an object stands** in the node is what inlining that object comes to: no
reference leads there, and nothing is laid over it. -/
theorem Resolves.at_position {visit : Visit} {value part : Json} {position : List Key}
    {members : Members} (hdistinct : visit.site.node.Distinct)
    (h : Resolves library visit.call (.ok value)) (hwhole : library.Whole visit value)
    (hnode : visit.site.node.at? position = some (.obj members))
    (hpart : value.at? position = some part) :
    ∃ last : Visit, last.site.document = visit.site.document ∧ last.site.node = .obj members ∧
      Resolves library last.call (.ok part) ∧ library.Whole last part := by
  induction position generalizing visit value with
  | nil =>
    obtain rfl := Option.some.inj hpart
    exact ⟨visit, rfl, Option.some.inj hnode, h, hwhole⟩
  | cons key position ih =>
    obtain ⟨stack, site⟩ := visit
    unfold Visit.call at h
    rw [Json.at?_cons] at hnode hpart
    obtain ⟨next, hnext, hbelow⟩ := Option.bind_eq_some_iff.1 hnode
    obtain ⟨inner, hinner, hseen⟩ := Option.bind_eq_some_iff.1 hpart
    cases hsite : site.node with
    | arr items =>
      simp only [hsite] at hdistinct h hnext
      obtain ⟨values, rfl, -, hitems⟩ := Resolves.of_array h
      cases key with
      | name name => cases hnext
      | index index =>
        have hitem : items[index]? = some next := Json.at?_index.symm.trans hnext
        have hresolves : Resolves library
            (Visit.call ⟨stack, site.item index next⟩) (.ok inner) :=
          hitems index next inner hitem (Json.at?_index.symm.trans hinner)
        have hlast := ih (hdistinct.item (List.mem_of_getElem? hitem)) hresolves
          (hwhole.part hinner fun _ _ => .item hsite hitem) hbelow hseen
        exact hlast
    | obj others =>
      simp only [hsite] at hdistinct h hnext
      cases key with
      | index index => cases hnext
      | name name =>
        have hmember : Members.get? others name = some next := Json.at?_name.symm.trans hnext
        have hinside := hdistinct.member (Members.mem_of_get? hmember)
        cases h with
        | leaf _ hobj => exact absurd rfl (hobj _)
        | object href parts =>
          obtain ⟨values, rfl⟩ := parts.members_obj
          have hresolves : Resolves library
              (Visit.call ⟨site.key :: stack, site.member name next⟩) (.ok inner) :=
            parts.member_of_get? hmember (Json.at?_name.symm.trans hinner)
          have hlast := ih hinside hresolves
            (hwhole.part hinner fun _ _ => .member hsite href hmember) hbelow hseen
          exact hlast
        -- a back edge would be seen, and what is no object has no members
        | backEdge hrefers hopen =>
          exact absurd (hwhole [] ⟨_, _, _, _, _, .here, hsite, hrefers, hopen⟩) nofun
        | targetValue _ _ _ hvalue =>
          exact absurd (hinner.symm.trans (Json.at?_name_of_not_obj hvalue)) nofun
        | merged hrefers hnew _ parts =>
          have hname : name ≠ "$ref" := by
            rintro rfl
            obtain rfl := Option.some.inj (hmember.symm.trans (Members.get?_of_ref? hrefers.isRef))
            exact absurd (Json.at?_text hbelow) nofun
          obtain ⟨other, hother⟩ := Members.exists_get?_of_names parts.names hmember
          have hvalue := Json.at?_name.symm.trans hinner
          rw [get?_merge_beside _ (hdistinct.names.of_names parts.names) _ hname hother] at hvalue
          obtain rfl := Option.some.inj hvalue
          have hresolves : Resolves library
              (Visit.call ⟨site.key :: stack, site.member name next⟩) (.ok other) :=
            parts.member_of_get? hmember hother
          have hlast := ih hinside hresolves
            (hwhole.part hinner fun _ _ => .beside hsite hrefers hnew hname hmember) hbelow hseen
          exact hlast
    | _ =>
      simp only [hsite] at hnext
      cases key <;> cases hnext

/-! ### References alone -/

/-- With nothing laid over it, all of the target is seen in the merged object. -/
theorem at?_eq_none_of_merge {name : Json} {inner : Members} {path : List Key}
    (h : (Json.obj (merge name inner [])).at? path = none) : (Json.obj inner).at? path = none := by
  rcases path with _ | ⟨key, path⟩
  · cases h
  rw [Json.at?_cons] at h ⊢
  cases key with
  | index index => rfl
  | name text =>
    rw [Json.at?_name] at h ⊢
    cases hpart : inner.get? text with
    | none => rfl
    | some part =>
      have hsame : (merge name inner []).get? text = some part :=
        @get?_merge_inner name inner [] List.nodup_nil text (.inr rfl) part hpart
      rw [hsame] at h
      exact h

section Alone

variable {stack : List String} {site : Site} {ref : String} {target : Target} {found : Json}
  (hnode : site.node = .obj [("$ref", .str ref)])
  (hrefers : library.Refers site.document [("$ref", .str ref)] ref target found)

include hnode hrefers

/-- What a target leaves is left by the reference, which has nothing to lay over it. -/
theorem LeavesAt.of_target (hnew : target.key ∉ site.key :: stack) {path : List Key}
    (h : library.LeavesAt ⟨site.key :: stack, target.site found⟩ path) :
    library.LeavesAt ⟨stack, site⟩ path := by
  obtain ⟨last, members, ref', target', found', hlast, hrest⟩ := h
  refine ⟨last, members, ref', target', found', .target hnode hrefers hnew ?_ hlast, hrest⟩
  rintro name rest - ⟨hname, hget⟩
  exact hget (Members.get?_cons_of_ne hname _ _)

/-- **A reference without members beside it** becomes what its target becomes, with the name of the
target for a title if it has none. -/
theorem Resolves.of_alone (hroot : library.root.Distinct) {value : Json} {members : Members}
    {definition : Visit} (hdocument : definition.site.document = target.document)
    (hfound : definition.site.node = found)
    (h : Resolves library (Visit.call ⟨stack, site⟩) (.ok value))
    (hwhole : library.Whole ⟨stack, site⟩ value)
    (hdefinition : Resolves library definition.call (.ok (.obj members)))
    (hwhole' : library.Whole definition (.obj members)) :
    value = .obj (merge (nameOf target found) members []) := by
  obtain ⟨stack', document', pointer', node'⟩ := definition
  obtain rfl : document' = target.document := hdocument
  obtain rfl : node' = found := hfound
  have hdistinct := distinct_lookup hroot hrefers.isFound
  have hnew : target.key ∉ site.key :: stack := fun hopen =>
    absurd (hwhole [] ⟨_, _, _, _, _, .here, hnode, hrefers, hopen⟩) nofun
  unfold Visit.call at h
  simp only [hnode] at h
  rcases h.of_new hrefers hnew with ⟨hinner, hno⟩ | ⟨inner, beside, rfl, hinner, hbeside⟩
  · have hwhole : library.Whole ⟨site.key :: stack, target.site node'⟩ value :=
      fun path hleaves => hwhole path (hleaves.of_target hnode hrefers hnew)
    exact absurd (hinner.eq_of_whole hroot hdistinct hdefinition hwhole hwhole') (hno members)
  · have herase : beside.erase "$ref" = [] := by
      rw [← List.map_eq_nil_iff (f := Prod.fst), Members.names_erase, hbeside.names]
      rfl
    rw [herase]
    -- where the target is seen, so is the merged object
    have hwhole : library.Whole ⟨site.key :: stack, target.site node'⟩ (.obj inner) := by
      intro path hleaves
      have hnone := hwhole path (hleaves.of_target hnode hrefers hnew)
      rw [herase] at hnone
      exact at?_eq_none_of_merge hnone
    obtain rfl := Json.obj.inj (hinner.eq_of_whole hroot hdistinct hdefinition hwhole hwhole')
    rfl

end Alone

end Library

end SchemaPress
