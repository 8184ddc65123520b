import SchemaPress.Proofs.Reference.Documents
import SchemaPress.Proofs.Reference.Walk

/-!
# The visits of an inlining

Inlining goes from a node to its parts and, at a reference, to an arbitrary node of an arbitrary
document. `Enters` says which calls are made from a call, in the order in which they are: items,
members and targets are visited only after everything in front of them has come to a value. All of
them are in the library (`Visits.inLibrary`).

`Call.All` says that the visits with which a part of an inlining starts have some property: what all
visits have that a visit makes, the items or members have that it goes through.
-/

namespace SchemaPress

namespace Library

variable {library : Library}

/-! ### Visits -/

/-- A call of the inlining: the spellings of the objects around a node, and the site of the node. -/
structure Visit where
  stack : List String
  site : Site

/-- The part of an inlining that a visit is. -/
def Visit.call (visit : Visit) : Call :=
  .node visit.stack visit.site.document visit.site.pointer visit.site.node

/-- The visit that inlining starts with. -/
def rootVisit (library : Library) : Visit :=
  ⟨[], library.rootSite⟩

/-- **Visits that a visit makes.** What stands in front must have come to a value. The members
beside a reference are visited together with the reference itself, which is a text and leads
nowhere. -/
inductive Enters (library : Library) : Visit → Visit → Prop where
  | item {stack : List String} {site : Site} {before after : List Json} {item done : Json}
      (hnode : site.node = .arr (before ++ item :: after))
      (hbefore : Resolves library (.items stack site.document site.pointer 0 before) (.ok done)) :
      Enters library ⟨stack, site⟩ ⟨stack, site.item before.length item⟩
  | member {stack : List String} {site : Site} {before after : Members} {name : String}
      {value done : Json} (hnode : site.node = .obj (before ++ (name, value) :: after))
      (href : Members.ref? (before ++ (name, value) :: after) = none)
      (hbefore : Resolves library (.members (site.key :: stack) site.document site.pointer before)
        (.ok done)) :
      Enters library ⟨stack, site⟩ ⟨site.key :: stack, site.member name value⟩
  | target {stack : List String} {site : Site} {members : Members} {ref : String} {target : Target}
      {found : Json} (hnode : site.node = .obj members)
      (hrefers : library.Refers site.document members ref target found)
      (hnew : target.key ∉ site.key :: stack) :
      Enters library ⟨stack, site⟩ ⟨site.key :: stack, target.site found⟩
  | beside {stack : List String} {site : Site} {before after inner : Members} {name ref : String}
      {value found done : Json} {target : Target}
      (hnode : site.node = .obj (before ++ (name, value) :: after))
      (hrefers : library.Refers site.document (before ++ (name, value) :: after) ref target found)
      (hnew : target.key ∉ site.key :: stack)
      (hinner : Resolves library (.node (site.key :: stack) target.document
        (Pointer.text target.tokens) found) (.ok (.obj inner)))
      (hbefore : Resolves library (.members (site.key :: stack) site.document site.pointer before)
        (.ok done)) :
      Enters library ⟨stack, site⟩ ⟨site.key :: stack, site.member name value⟩

/-- The visit to what a reference names. -/
theorem Enters.follow {stack : List String} {document path ref : String} {members : Members}
    {target : Target} {found : Json} (hrefers : library.Refers document members ref target found)
    (hnew : target.key ∉ Target.placeKey document path :: stack) :
    Enters library ⟨stack, ⟨document, path, .obj members⟩⟩
      ⟨Target.placeKey document path :: stack, target.site found⟩ :=
  .target rfl hrefers hnew

/-- The visits of an inlining. -/
inductive Visits (library : Library) : Visit → Prop where
  | root : Visits library library.rootVisit
  | enter {visit next : Visit} (h : Visits library visit) (henter : Enters library visit next) :
      Visits library next

/-- **Follows.** The visit goes on to what its reference names. -/
def Follows (library : Library) (visit : Visit) (target : Target) (found : Json) : Prop :=
  library.Hop visit.site target found ∧ target.key ∉ visit.site.key :: visit.stack

/-! ### The visits that a part of an inlining starts with -/

/-- The visits that a part of an inlining starts with have the property: the node itself, or each of
the items or members, once those in front of it have come to a value. -/
def Call.All (library : Library) (P : Visit → Prop) : Call → Prop
  | .node stack document path json => P ⟨stack, ⟨document, path, json⟩⟩
  | .items stack document path start list => ∀ before item after done,
      list = before ++ item :: after →
        Resolves library (.items stack document path start before) (.ok done) →
          P ⟨stack, ⟨document, path ++ "/" ++ toString (start + before.length), item⟩⟩
  | .members stack document path list => ∀ before name value after done,
      list = before ++ (name, value) :: after →
        Resolves library (.members stack document path before) (.ok done) →
          P ⟨stack, ⟨document, path ++ "/" ++ Pointer.escape name, value⟩⟩

namespace Call.All

variable {P : Visit → Prop} {stack : List String} {document path : String}

theorem first_item {start : Nat} {item : Json} {rest : List Json}
    (h : Call.All library P (.items stack document path start (item :: rest))) :
    P ⟨stack, ⟨document, path ++ "/" ++ toString start, item⟩⟩ :=
  h [] item rest _ rfl .noItem

theorem other_items {start : Nat} {item value : Json} {rest : List Json}
    (h : Call.All library P (.items stack document path start (item :: rest)))
    (hfirst : Resolves library (.node stack document (path ++ "/" ++ toString start) item)
      (.ok value)) :
    Call.All library P (.items stack document path (start + 1) rest) := by
  intro before other after done hrest hbefore
  obtain ⟨values, rfl⟩ := hbefore.items_arr
  have hnext := h (item :: before) other after _ (by rw [hrest]; rfl) (.item hfirst hbefore)
  rw [List.length_cons, Nat.add_comm before.length 1, ← Nat.add_assoc] at hnext
  exact hnext

theorem first_member {name : String} {member : Json} {rest : Members}
    (h : Call.All library P (.members stack document path ((name, member) :: rest))) :
    P ⟨stack, ⟨document, path ++ "/" ++ Pointer.escape name, member⟩⟩ :=
  h [] name member rest _ rfl .noMember

theorem other_members {name : String} {member value : Json} {rest : Members}
    (h : Call.All library P (.members stack document path ((name, member) :: rest)))
    (hfirst : Resolves library (.node stack document (path ++ "/" ++ Pointer.escape name) member)
      (.ok value)) :
    Call.All library P (.members stack document path rest) := by
  intro before key other after done hrest hbefore
  obtain ⟨values, rfl⟩ := hbefore.members_obj
  exact h ((name, member) :: before) key other after _ (by rw [hrest]; rfl) (.member hfirst hbefore)

theorem no_items {start : Nat} : Call.All library P (.items stack document path start []) :=
  fun before item after done hlist => by cases before <;> cases hlist

/-- The items behind the first one count where that comes to a value. -/
theorem cons_items {start : Nat} {item : Json} {rest : List Json}
    (hfirst : P ⟨stack, ⟨document, path ++ "/" ++ toString start, item⟩⟩)
    (hothers : ∀ value, Resolves library (.node stack document (path ++ "/" ++ toString start) item)
      (.ok value) → Call.All library P (.items stack document path (start + 1) rest)) :
    Call.All library P (.items stack document path start (item :: rest)) := by
  intro before other after done hlist hbefore
  cases before with
  | nil =>
    obtain ⟨rfl, -⟩ := List.cons.inj hlist
    exact hfirst
  | cons first front =>
    obtain ⟨rfl, hrest⟩ := List.cons.inj hlist
    cases hbefore with
    | item hvalue hfront =>
      have hnext := hothers _ hvalue front other after _ hrest hfront
      rw [List.length_cons, Nat.add_comm front.length 1, ← Nat.add_assoc]
      exact hnext

theorem no_members : Call.All library P (.members stack document path []) :=
  fun before name value after done hlist => by cases before <;> cases hlist

/-- The members behind the first one count where that comes to a value. -/
theorem cons_members {name : String} {member : Json} {rest : Members}
    (hfirst : P ⟨stack, ⟨document, path ++ "/" ++ Pointer.escape name, member⟩⟩)
    (hothers : ∀ value, Resolves library (.node stack document (path ++ "/" ++ Pointer.escape name)
      member) (.ok value) → Call.All library P (.members stack document path rest)) :
    Call.All library P (.members stack document path ((name, member) :: rest)) := by
  intro before key other after done hlist hbefore
  cases before with
  | nil =>
    obtain ⟨heq, -⟩ := List.cons.inj hlist
    obtain ⟨rfl, rfl⟩ := Prod.mk.inj heq
    exact hfirst
  | cons first front =>
    obtain ⟨rfl, hrest⟩ := List.cons.inj hlist
    cases hbefore with
    | member hvalue hfront => exact hothers _ hvalue front key other after _ hrest hfront

/-- What an array enters are its items. -/
theorem of_array {list : List Json}
    (h : ∀ next, Enters library ⟨stack, ⟨document, path, .arr list⟩⟩ next → P next) :
    Call.All library P (.items stack document path 0 list) := by
  intro before item after done hlist hbefore
  have hnext := h _ (.item (congrArg Json.arr hlist) hbefore)
  rw [Nat.zero_add]
  exact hnext

variable {list : Members}
  (h : ∀ next, Enters library ⟨stack, ⟨document, path, .obj list⟩⟩ next → P next)

include h

/-- What an object without a reference enters are its members. -/
theorem of_object (href : list.ref? = none) :
    Call.All library P (.members (Target.placeKey document path :: stack) document path list) := by
  intro before name value after done hlist hbefore
  subst hlist
  exact h _ (.member rfl href hbefore)

/-- An object with a reference enters the members beside it, once the target has come to an object. -/
theorem of_beside {ref : String} {target : Target} {found : Json} {inner : Members}
    (hrefers : library.Refers document list ref target found)
    (hnew : target.key ∉ Target.placeKey document path :: stack)
    (hinner : Resolves library (.node (Target.placeKey document path :: stack) target.document
      (Pointer.text target.tokens) found) (.ok (.obj inner))) :
    Call.All library P (.members (Target.placeKey document path :: stack) document path list) := by
  intro before name value after done hlist hbefore
  subst hlist
  exact h _ (.beside rfl hrefers hnew hinner hbefore)

end Call.All

/-! ### Where visits are -/

/-- The site is part of a document of the library. -/
structure InLibrary (library : Library) (site : Site) : Prop where
  isDocument : library.IsDocument site.document
  part : ∃ value, (site.document, value) ∈ library.documents ∧ value.Part site.node

theorem InLibrary.inner {site next : Site} (h : library.InLibrary site)
    (hdocument : next.document = site.document) (hpart : site.node.Part next.node) :
    library.InLibrary next := by
  obtain ⟨value, hmem, hvalue⟩ := h.part
  refine ⟨hdocument ▸ h.isDocument, value, ?_, hvalue.trans hpart⟩
  rw [hdocument]
  exact hmem

theorem InLibrary.hop (hbase : ∀ base, library.base = some base → base.Proper) {site : Site}
    {target : Target} {found : Json} (h : library.InLibrary site)
    (hop : library.Hop site target found) : library.InLibrary (target.site found) := by
  obtain ⟨members, ref, -, hrefers⟩ := hop
  -- the target is in a document that is known beforehand, and what is found is part of it
  have hdocument := isDocument_of_target hbase h.isDocument hrefers.isTarget
  obtain ⟨value, hload, hpart⟩ := part_of_lookup hrefers.isFound
  exact ⟨hdocument, value, mem_documents_of_load hdocument hload, hpart⟩

/-- What a reference there names is known. -/
theorem InLibrary.mem_named {site : Site} {target : Target} {found : Json}
    (h : library.InLibrary site) (hop : library.Hop site target found) :
    target ∈ library.named := by
  obtain ⟨members, ref, hnode, hrefers⟩ := hop
  obtain ⟨value, hmem, hpart⟩ := h.part
  rw [hnode] at hpart
  exact Library.mem_named hmem hpart hrefers

theorem InLibrary.items {stack : List String} {site : Site} {before after : List Json}
    (h : library.InLibrary site) (hnode : site.node = .arr (before ++ after)) :
    Call.All library (fun visit => library.InLibrary visit.site)
      (.items stack site.document site.pointer 0 before) := by
  intro front item rest done hlist _
  have hmem : item ∈ before ++ after := List.mem_append_left _ (hlist ▸ by simp)
  exact h.inner rfl (hnode ▸ .item .self hmem)

theorem InLibrary.members {stack : List String} {site : Site} {before after : Members}
    (h : library.InLibrary site) (hnode : site.node = .obj (before ++ after)) :
    Call.All library (fun visit => library.InLibrary visit.site)
      (.members stack site.document site.pointer before) := by
  intro front name value rest done hlist _
  have hmem : (name, value) ∈ before ++ after := List.mem_append_left _ (hlist ▸ by simp)
  exact h.inner rfl (hnode ▸ .member .self hmem)

theorem Enters.part_or_hop {visit next : Visit} (h : Enters library visit next) :
    (next.site.document = visit.site.document ∧ visit.site.node.Part next.site.node) ∨
    ∃ target found, library.Hop visit.site target found ∧ next.site = target.site found := by
  cases h with
  | item hnode =>
    refine .inl ⟨rfl, ?_⟩
    simp only [hnode]
    exact .item .self (List.mem_append_right _ List.mem_cons_self)
  | member hnode =>
    refine .inl ⟨rfl, ?_⟩
    simp only [hnode]
    exact .member .self (List.mem_append_right _ List.mem_cons_self)
  | target hnode hrefers => exact .inr ⟨_, _, ⟨_, _, hnode, hrefers⟩, rfl⟩
  | beside hnode =>
    refine .inl ⟨rfl, ?_⟩
    simp only [hnode]
    exact .member .self (List.mem_append_right _ List.mem_cons_self)

theorem Enters.inLibrary {visit next : Visit} (h : Enters library visit next)
    (hbase : ∀ base, library.base = some base → base.Proper) (hvisit : library.InLibrary visit.site) :
    library.InLibrary next.site := by
  rcases h.part_or_hop with ⟨hdocument, hpart⟩ | ⟨target, found, hop, heq⟩
  · exact hvisit.inner hdocument hpart
  · rw [heq]
    exact hvisit.hop hbase hop

/-- **Every visit is in the library.** -/
theorem Visits.inLibrary (hbase : ∀ base, library.base = some base → base.Proper) {visit : Visit}
    (h : Visits library visit) : library.InLibrary visit.site := by
  induction h with
  | root => exact ⟨.inl rfl, library.root, List.mem_cons_self, .self⟩
  | enter _ henter ih => exact henter.inLibrary hbase ih

end Library

end SchemaPress
