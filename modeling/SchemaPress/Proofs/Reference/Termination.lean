import Mathlib.Logic.Relation
import SchemaPress.Proofs.Reference.Visits

/-!
# Dereferencing terminates

Inlining comes to an end, unless a reference leads to an array (`dereference_terminates`): each call
goes down in the lexicographic order of two numbers, the targets that are not open and the values in
the node (`Visit.measure`). A part of a node has fewer values than the node, and no target is closed on
the way to it. A reference that is followed leads to a target that is not open. If that is an object, it
is open from then on; a scalar is smaller than the object with the reference. Only an array is neither,
since arrays are not opened.

A reference to an array may come to an end all the same, or go round for ever. `Settles` says which: no
chain of visits is endless. Wherever there is a derivation, the visits settle (`Resolves.settled`). And
where visits settle, the walk is not cut off: it is cut off only at a target that it came to before with
the same targets open, and from there on everything would happen once more (`Settles.not_again`). So what
`dereference` leaves out has no result at all (`ends_iff_expands`).
-/

namespace SchemaPress

/-! ### Counting values -/

mutual
/-- The number of values in a value, itself included. -/
def Json.count : Json → Nat
  | .arr items => 1 + countItems items
  | .obj members => 1 + countMembers members
  | _ => 1

/-- The number of values in items. -/
def Json.countItems : List Json → Nat
  | [] => 0
  | item :: rest => item.count + countItems rest

/-- The number of values in members. -/
def Json.countMembers : List (String × Json) → Nat
  | [] => 0
  | (_, value) :: rest => value.count + countMembers rest
end

theorem Json.count_le_items {items : List Json} {item : Json} (h : item ∈ items) :
    item.count ≤ countItems items := by
  induction items with
  | nil => cases h
  | cons first rest ih =>
    rw [countItems]
    rcases List.mem_cons.1 h with rfl | h
    · omega
    · have := ih h
      omega

theorem Json.count_le_members {members : Members} {name : String} {value : Json}
    (h : (name, value) ∈ members) : value.count ≤ countMembers members := by
  induction members with
  | nil => cases h
  | cons first rest ih =>
    obtain ⟨key, old⟩ := first
    rw [countMembers]
    rcases List.mem_cons.1 h with heq | h
    · cases heq
      omega
    · have := ih h
      omega

theorem Json.count_lt_arr {items : List Json} {item : Json} (h : item ∈ items) :
    item.count < (Json.arr items).count := by
  have := count_le_items h
  rw [count]
  omega

theorem Json.count_lt_obj {members : Members} {name : String} {value : Json}
    (h : (name, value) ∈ members) : value.count < (Json.obj members).count := by
  have := count_le_members h
  rw [count]
  omega

theorem Json.count_pos (value : Json) : 0 < value.count := by
  cases value <;> rw [count] <;> first | omega | exact nofun

/-- Neither an array nor an object. -/
def Json.IsLeaf (value : Json) : Prop :=
  (∀ items, value ≠ .arr items) ∧ ∀ members, value ≠ .obj members

theorem Json.isLeaf_or_obj {value : Json} (h : ∀ items, value ≠ .arr items) :
    value.IsLeaf ∨ ∃ members, value = .obj members := by
  cases value with
  | arr items => exact absurd rfl (h items)
  | obj members => exact .inr ⟨members, rfl⟩
  | _ => exact .inl ⟨nofun, nofun⟩

theorem Json.isLeaf_str (text : String) : (Json.str text).IsLeaf :=
  ⟨fun _ heq => Json.noConfusion heq, fun _ heq => Json.noConfusion heq⟩

theorem Json.IsLeaf.count {value : Json} (h : value.IsLeaf) : value.count = 1 := by
  cases value with
  | arr items => exact absurd rfl (h.1 items)
  | obj members => exact absurd rfl (h.2 members)
  | _ => rw [Json.count] <;> exact nofun

theorem Json.IsLeaf.count_le {value : Json} (h : value.IsLeaf) (other : Json) :
    value.count ≤ other.count := by
  rw [h.count]
  exact other.count_pos

namespace Library

variable {library : Library}

theorem inline_leaf {followed : List Target} {stack : List String} {document path : String}
    {node : Json} (h : node.IsLeaf) : library.inline followed stack document path node = .ok node := by
  rw [inline]
  · exact h.1
  · exact h.2

/-! ### The measure -/

/-- The spellings that are open once the visit has begun: an object is opened by visiting it. -/
def Visit.opened (visit : Visit) : List String :=
  if visit.site.node.isObj then visit.site.key :: visit.stack else visit.stack

/-- **The measure of a visit**: the targets that are not open, then the values in the node. -/
def Visit.measure (library : Library) (visit : Visit) : Nat × Nat :=
  (library.targets.countP (· ∉ visit.opened), visit.site.node.count)

theorem opened_arr {stack : List String} {site : Site} {items : List Json}
    (h : site.node = .arr items) : Visit.opened ⟨stack, site⟩ = stack := by
  simp [Visit.opened, h, Json.isObj]

theorem opened_obj {stack : List String} {site : Site} {members : Members}
    (h : site.node = .obj members) : Visit.opened ⟨stack, site⟩ = site.key :: stack := by
  simp [Visit.opened, h, Json.isObj]

theorem stack_subset_opened (visit : Visit) : visit.stack ⊆ visit.opened := by
  unfold Visit.opened
  split
  · exact List.subset_cons_self _ _
  · exact List.Subset.refl _

/-- A visit to a part of the node goes down. -/
theorem measure_lt_of_count {visit next : Visit} (hopened : visit.opened ⊆ next.stack)
    (hcount : next.site.node.count < visit.site.node.count) :
    Prod.Lex (· < ·) (· < ·) (next.measure library) (visit.measure library) := by
  have hle := countP_le (List.Subset.trans hopened (stack_subset_opened next)) library.targets
  -- the first number may go down as well, if the part is an object
  rcases Nat.lt_or_eq_of_le hle with hlt | heq
  · exact .left _ _ hlt
  · unfold Visit.measure
    rw [heq]
    exact .right _ hcount

/-- So does a visit to a member of an object, which is open then. -/
theorem measure_lt_of_member {stack : List String} {site : Site} {members : Members} {name : String}
    {value : Json} (hnode : site.node = .obj members) (hmember : (name, value) ∈ members) :
    Prod.Lex (· < ·) (· < ·) (Visit.measure library ⟨site.key :: stack, site.member name value⟩)
      (Visit.measure library ⟨stack, site⟩) := by
  refine measure_lt_of_count (opened_obj hnode ▸ List.Subset.refl _) ?_
  simp only [hnode]
  exact Json.count_lt_obj hmember

/-- **Every call goes down in the measure**, unless it follows a reference to an array. -/
theorem Enters.measure_lt {visit next : Visit} (hsite : library.InLibrary visit.site)
    (harray : ∀ target found, library.Follows visit target found → ∀ items, found ≠ .arr items)
    (h : Enters library visit next) :
    Prod.Lex (· < ·) (· < ·) (next.measure library) (visit.measure library) := by
  cases h with
  | @item stack site before after item done hnode hbefore =>
    refine measure_lt_of_count (opened_arr hnode ▸ List.Subset.refl _) ?_
    have hmem : item ∈ before ++ item :: after := List.mem_append_right _ List.mem_cons_self
    simp only [hnode]
    exact Json.count_lt_arr hmem
  | member hnode => exact measure_lt_of_member hnode (List.mem_append_right _ List.mem_cons_self)
  | @target stack site members ref target found hnode hrefers hnew =>
    have hop : library.Hop site target found := ⟨_, _, hnode, hrefers⟩
    rcases Json.isLeaf_or_obj (harray target found ⟨hop, hnew⟩) with hleaf | ⟨inner, rfl⟩
    · -- a scalar is smaller than the object with the reference
      refine measure_lt_of_count (opened_obj hnode ▸ List.Subset.refl _) ?_
      have hmem := Members.mem_of_get? (Members.get?_of_ref? hrefers.isRef)
      simp only [hnode]
      exact Nat.lt_of_le_of_lt (hleaf.count_le _) (Json.count_lt_obj hmem)
    · -- an object is open from here on
      have hopened : Visit.opened ⟨site.key :: stack, target.site (.obj inner)⟩ =
          target.key :: site.key :: stack := opened_obj rfl
      refine .left _ _ (countP_lt ?_ (key_mem_targets (hsite.mem_named hop)) ?_ ?_)
      · rw [opened_obj hnode]
        exact stack_subset_opened ⟨_, target.site (.obj inner)⟩
      · rw [opened_obj hnode]
        exact hnew
      · rw [hopened]
        exact List.mem_cons_self
  | beside hnode => exact measure_lt_of_member hnode (List.mem_append_right _ List.mem_cons_self)

/-! ### Visits that settle -/

/-- **Settled visits.** No chain of visits goes on for ever from there. -/
def Settles (library : Library) (visit : Visit) : Prop :=
  Acc (fun next visit => Enters library visit next) visit

theorem Settles.enter {visit next : Visit} (h : library.Settles visit)
    (henter : Enters library visit next) : library.Settles next :=
  Acc.inv h henter

/-- An object with a reference enters nothing unless that names something. -/
theorem Enters.refers {stack : List String} {document path ref : String} {members : Members}
    {next : Visit} (h : Enters library ⟨stack, ⟨document, path, .obj members⟩⟩ next)
    (href : members.ref? = some ref) : ∃ target found, library.Refers document members ref target found := by
  cases h with
  | item hnode => cases hnode
  | member hnode href' =>
    obtain rfl := Json.obj.inj hnode
    exact absurd (href.symm.trans href') nofun
  | target hnode hrefers | beside hnode hrefers =>
    obtain rfl := Json.obj.inj hnode
    obtain rfl := Option.some.inj (href.symm.trans hrefers.isRef)
    exact ⟨_, _, hrefers⟩

/-- From a reference to something that is not open, a visit goes to the target or to the members
beside the reference. -/
theorem Enters.of_refers {stack : List String} {document path ref : String} {members : Members}
    {target : Target} {found : Json} {next : Visit}
    (h : Enters library ⟨stack, ⟨document, path, .obj members⟩⟩ next)
    (hrefers : library.Refers document members ref target found) :
    target.key ∉ Target.placeKey document path :: stack ∧
    (next = ⟨Target.placeKey document path :: stack, target.site found⟩ ∨
      ∃ before name value after inner done, members = before ++ (name, value) :: after ∧
        Resolves library (.node (Target.placeKey document path :: stack) target.document
          (Pointer.text target.tokens) found) (.ok (.obj inner)) ∧
        Resolves library (.members (Target.placeKey document path :: stack) document path before)
          (.ok done) ∧
        next = ⟨Target.placeKey document path :: stack,
          ⟨document, path ++ "/" ++ Pointer.escape name, value⟩⟩) := by
  cases h with
  | item hnode => cases hnode
  | member hnode href =>
    obtain rfl := Json.obj.inj hnode
    exact absurd (href.symm.trans hrefers.isRef) nofun
  | target hnode hrefers' hnew =>
    obtain rfl := Json.obj.inj hnode
    obtain ⟨-, rfl, rfl⟩ := hrefers.unique hrefers'
    exact ⟨hnew, .inl rfl⟩
  | beside hnode hrefers' hnew hinner hbefore =>
    obtain rfl := Json.obj.inj hnode
    obtain ⟨-, rfl, rfl⟩ := hrefers.unique hrefers'
    exact ⟨hnew, .inr ⟨_, _, _, _, _, _, rfl, hinner, hbefore, rfl⟩⟩

/-- **What has a derivation settles**, by induction on it. -/
theorem Resolves.settled {call : Call} {result : Except (Stop ReferenceError) Json}
    (h : Resolves library call result) : call.All library library.Settles := by
  induction h with
  | leaf harr hobj =>
    refine .intro _ fun next henter => ?_
    cases henter with
    | item hnode => exact absurd hnode (harr _)
    | member hnode | target hnode | beside hnode => exact absurd hnode (hobj _)
  | array _ ih =>
    refine .intro _ fun next henter => ?_
    cases henter with
    | item hnode hbefore =>
      have hitem := ih _ _ _ _ (Json.arr.inj hnode) hbefore
      rw [Nat.zero_add] at hitem
      exact hitem
    | member hnode | target hnode | beside hnode => cases hnode
  | object href _ ih =>
    refine .intro _ fun next henter => ?_
    cases henter with
    | item hnode => cases hnode
    | member hnode _ hbefore => exact ih _ _ _ _ _ (Json.obj.inj hnode) hbefore
    | target hnode hrefers | beside hnode hrefers =>
      obtain rfl := Json.obj.inj hnode
      exact absurd (href.symm.trans hrefers.isRef) nofun
  | noTarget href htarget =>
    refine .intro _ fun next henter => ?_
    obtain ⟨target, found, hrefers⟩ := henter.refers href
    exact absurd (htarget.symm.trans hrefers.isTarget) nofun
  | notFound href htarget hfound =>
    refine .intro _ fun next henter => ?_
    obtain ⟨target, found, hrefers⟩ := henter.refers href
    obtain rfl := Except.ok.inj (htarget.symm.trans hrefers.isTarget)
    exact absurd (hfound.symm.trans hrefers.isFound) nofun
  | backEdge hrefers hopen =>
    exact .intro _ fun next henter => absurd hopen (henter.of_refers hrefers).1
  -- the members beside a reference are entered once its target has come to an object
  | targetFails hrefers _ inner ih =>
    refine .intro _ fun next henter => ?_
    obtain ⟨-, rfl | ⟨_, _, _, _, _, _, -, hinner, -, -⟩⟩ := henter.of_refers hrefers
    · exact ih
    · exact absurd (inner.unique hinner) nofun
  | targetValue hrefers _ inner hvalue ih =>
    refine .intro _ fun next henter => ?_
    obtain ⟨-, rfl | ⟨_, _, _, _, _, _, -, hinner, -, -⟩⟩ := henter.of_refers hrefers
    · exact ih
    · exact absurd (Except.ok.inj (inner.unique hinner)) (hvalue _)
  | siblingsFail hrefers _ _ _ ihInner ihBeside | merged hrefers _ _ _ ihInner ihBeside =>
    refine .intro _ fun next henter => ?_
    obtain ⟨-, rfl | ⟨_, _, _, _, _, _, hmembers, -, hbefore, rfl⟩⟩ := henter.of_refers hrefers
    · exact ihInner
    · exact ihBeside _ _ _ _ _ hmembers hbefore
  -- items, and members in the same way: none is visited behind one that fails
  | noItem => exact .no_items
  | itemFails first ih => exact .cons_items ih fun _ hvalue => absurd (first.unique hvalue) nofun
  | itemsFail _ _ ihFirst ihOthers | item _ _ ihFirst ihOthers =>
    exact .cons_items ihFirst fun _ _ => ihOthers
  | noMember => exact .no_members
  | memberFails first ih => exact .cons_members ih fun _ hvalue => absurd (first.unique hvalue) nofun
  | membersFail _ _ ihFirst ihOthers | member _ _ ihFirst ihOthers =>
    exact .cons_members ihFirst fun _ _ => ihOthers

/-! ### The same targets open -/

/-- **The same targets are open.** Nothing else on a stack is ever looked for. -/
def SameOpen (library : Library) (stack stack' : List String) : Prop :=
  ∀ key ∈ library.targets, key ∈ stack ↔ key ∈ stack'

namespace SameOpen

variable {stack stack' stack'' : List String}

theorem refl (stack : List String) : library.SameOpen stack stack :=
  fun _ _ => .rfl

theorem trans (h : library.SameOpen stack stack') (h' : library.SameOpen stack' stack'') :
    library.SameOpen stack stack'' :=
  fun key hkey => (h key hkey).trans (h' key hkey)

theorem cons (h : library.SameOpen stack stack') (place : String) :
    library.SameOpen (place :: stack) (place :: stack') :=
  fun key hkey => by rw [List.mem_cons, List.mem_cons, h key hkey]

/-- An object that is no target, or is open, opens no target. -/
theorem opened {place : String} (h : ¬ (place ∈ library.targets ∧ place ∉ stack)) :
    library.SameOpen stack (place :: stack) := by
  intro key hkey
  refine ⟨List.mem_cons_of_mem _, fun hmem => ?_⟩
  rcases List.mem_cons.1 hmem with rfl | hmem
  · exact Decidable.of_not_not fun hnew => h ⟨hkey, hnew⟩
  · exact hmem

end SameOpen

/-- The part of the inlining with another stack. -/
def Call.restack (stack : List String) : Call → Call
  | .node _ document path json => .node stack document path json
  | .items _ document path index list => .items stack document path index list
  | .members _ document path list => .members stack document path list

/-- The stack of a part of the inlining. -/
def Call.stack : Call → List String
  | .node stack .. => stack
  | .items stack .. => stack
  | .members stack .. => stack

section InLibrary

variable (hbase : ∀ base, library.base = some base → base.Proper)

include hbase

/-- **An inlining comes to the same with another stack**, if the same targets are open, by induction on
its derivation. -/
theorem Resolves.restack {call : Call} {result : Except (Stop ReferenceError) Json}
    (h : Resolves library call result)
    (hin : call.All library fun visit => library.InLibrary visit.site) {stack' : List String}
    (hsame : library.SameOpen call.stack stack') : Resolves library (call.restack stack') result := by
  -- what is looked for on the stack is a target
  have hopen {stack stack' : List String} {document path place ref : String} {members : Members}
      {target : Target} {found : Json} (hsame : library.SameOpen stack stack')
      (hin : library.InLibrary ⟨document, path, .obj members⟩)
      (hrefers : library.Refers document members ref target found) :
      target.key ∈ place :: stack ↔ target.key ∈ place :: stack' :=
    hsame.cons place _ (key_mem_targets (hin.mem_named ⟨_, _, rfl, hrefers⟩))
  induction h generalizing stack' with
  | leaf harr hobj => exact .leaf harr hobj
  | array _ ih => exact .array (ih (.of_array fun _ henter => henter.inLibrary hbase hin) hsame)
  | object href _ ih =>
    exact .object href
      (ih (.of_object (fun _ henter => henter.inLibrary hbase hin) href) (hsame.cons _))
  | noTarget href htarget => exact .noTarget href htarget
  | notFound href htarget hfound => exact .notFound href htarget hfound
  | backEdge hrefers hmem => exact .backEdge hrefers ((hopen hsame hin hrefers).1 hmem)
  | targetFails hrefers hnew _ ih =>
    exact .targetFails hrefers (mt (hopen hsame hin hrefers).2 hnew)
      (ih ((Enters.follow hrefers hnew).inLibrary hbase hin) (hsame.cons _))
  | targetValue hrefers hnew _ hvalue ih =>
    exact .targetValue hrefers (mt (hopen hsame hin hrefers).2 hnew)
      (ih ((Enters.follow hrefers hnew).inLibrary hbase hin) (hsame.cons _)) hvalue
  | siblingsFail hrefers hnew hinner _ ihInner ihBeside =>
    have hmembers := Call.All.of_beside (fun _ henter => henter.inLibrary hbase hin) hrefers hnew hinner
    exact .siblingsFail hrefers (mt (hopen hsame hin hrefers).2 hnew)
      (ihInner ((Enters.follow hrefers hnew).inLibrary hbase hin) (hsame.cons _)) (ihBeside hmembers (hsame.cons _))
  | merged hrefers hnew hinner _ ihInner ihBeside =>
    have hmembers := Call.All.of_beside (fun _ henter => henter.inLibrary hbase hin) hrefers hnew hinner
    exact .merged hrefers (mt (hopen hsame hin hrefers).2 hnew)
      (ihInner ((Enters.follow hrefers hnew).inLibrary hbase hin) (hsame.cons _)) (ihBeside hmembers (hsame.cons _))
  | noItem => exact .noItem
  | itemFails _ ih => exact .itemFails (ih hin.first_item hsame)
  | itemsFail first _ ihFirst ihOthers =>
    exact .itemsFail (ihFirst hin.first_item hsame) (ihOthers (hin.other_items first) hsame)
  | item first _ ihFirst ihOthers =>
    exact .item (ihFirst hin.first_item hsame) (ihOthers (hin.other_items first) hsame)
  | noMember => exact .noMember
  | memberFails _ ih => exact .memberFails (ih hin.first_member hsame)
  | membersFail first _ ihFirst ihOthers =>
    exact .membersFail (ihFirst hin.first_member hsame) (ihOthers (hin.other_members first) hsame)
  | member first _ ihFirst ihOthers =>
    exact .member (ihFirst hin.first_member hsame) (ihOthers (hin.other_members first) hsame)

/-- **A visit makes the same visits with another stack.** -/
theorem Enters.restack {visit next : Visit} (h : Enters library visit next)
    (hin : library.InLibrary visit.site) {stack' : List String}
    (hsame : library.SameOpen visit.stack stack') :
    ∃ again, Enters library ⟨stack', visit.site⟩ ⟨again, next.site⟩ ∧
      library.SameOpen next.stack again := by
  cases h with
  | item hnode hbefore =>
    exact ⟨_, .item hnode (hbefore.restack hbase (hin.items hnode) hsame), hsame⟩
  | member hnode href hbefore =>
    have hmembers := hbefore.restack hbase (hin.members hnode) (hsame.cons _)
    exact ⟨_, .member hnode href hmembers, hsame.cons _⟩
  | target hnode hrefers hnew =>
    have hkey := key_mem_targets (hin.mem_named ⟨_, _, hnode, hrefers⟩)
    exact ⟨_, .target hnode hrefers (mt (hsame.cons _ _ hkey).2 hnew), hsame.cons _⟩
  | @beside stack site _ _ _ _ _ _ _ _ _ hnode hrefers hnew hinner hbefore =>
    have hkey := key_mem_targets (hin.mem_named ⟨_, _, hnode, hrefers⟩)
    have htarget := Enters.inLibrary (@Enters.target library stack site _ _ _ _ hnode hrefers hnew)
      hbase hin
    have htarget := hinner.restack hbase htarget (hsame.cons _)
    have hmembers := hbefore.restack hbase (hin.members hnode) (hsame.cons _)
    exact ⟨_, .beside hnode hrefers (mt (hsame.cons _ _ hkey).2 hnew) htarget hmembers, hsame.cons _⟩

/-- **A visit that settles does not come up again** with the same targets open: from there on it would
come up once more. By induction on the chains of visits that it starts. -/
theorem Settles.not_again {visit next : Visit} (h : library.Settles visit)
    (hin : library.InLibrary visit.site) (hway : Relation.TransGen (Enters library) visit next)
    (hsite : next.site = visit.site) (hsame : library.SameOpen visit.stack next.stack) : False := by
  induction h generalizing next with
  | intro visit _ ih =>
    obtain ⟨first, henter, hrest⟩ := Relation.TransGen.head'_iff.1 hway
    obtain ⟨again, henter', hsame'⟩ := henter.restack hbase hin hsame
    rw [← hsite] at henter'
    exact ih first henter (henter.inLibrary hbase hin) (.tail' hrest henter') rfl hsame'

end InLibrary

/-! ### No walk is cut off before it repeats itself -/

/-- **What was followed** was visited on the way to a visit, with the same targets open. -/
structure Spent (library : Library) (followed : List Target) (visit : Visit) : Prop where
  visits : Visits library visit
  earlier : ∀ target ∈ followed, ∃ ref found earlier, library.lookup target ref = .ok found ∧
    earlier.site = target.site found ∧ Visits library earlier ∧
    Relation.ReflTransGen (Enters library) earlier visit ∧
    library.SameOpen earlier.stack visit.stack

namespace Spent

variable {followed : List Target} {visit next : Visit}

/-- Where no target is opened, everything stays as it is. -/
theorem enter (h : library.Spent followed visit) (henter : Enters library visit next)
    (hsame : library.SameOpen visit.stack next.stack) : library.Spent followed next where
  visits := .enter h.visits henter
  earlier := by
    intro target hmem
    obtain ⟨ref, found, earlier, hfound, hsite, hvisits, hway, hopen⟩ := h.earlier target hmem
    exact ⟨ref, found, earlier, hfound, hsite, hvisits, hway.tail henter, hopen.trans hsame⟩

/-- Behind an object, it is what counts as followed inside. -/
theorem inside (h : library.Spent followed visit) (henter : Enters library visit next)
    (hstack : next.stack = visit.site.key :: visit.stack) :
    library.Spent (library.followedInside followed visit.stack visit.site.key) next := by
  unfold followedInside
  split
  · exact ⟨.enter h.visits henter, nofun⟩
  · split
    · exact ⟨.enter h.visits henter, nofun⟩
    · next hopened => exact h.enter henter (hstack ▸ .opened hopened)

/-- A target is followed from its own visit on. -/
theorem follow {target : Target} {ref : String} {found : Json} {stack : List String}
    (h : library.Spent followed ⟨stack, target.site found⟩)
    (hfound : library.lookup target ref = .ok found) :
    library.Spent (target :: followed) ⟨stack, target.site found⟩ :=
  ⟨h.visits, List.forall_mem_cons.2
    ⟨⟨ref, found, _, hfound, rfl, h.visits, .refl, .refl _⟩, h.earlier⟩⟩

end Spent

section Ends

variable (hbase : ∀ base, library.base = some base → base.Proper)
  (hsettles : ∀ visit, Visits library visit → library.Settles visit)

include hbase hsettles

/-- **A target is not followed again** before another one is opened. -/
theorem Spent.not_mem {followed : List Target} {stack : List String} {site : Site}
    {target : Target} {ref : String} {found : Json} (h : library.Spent followed ⟨stack, site⟩)
    (hfound : library.lookup target ref = .ok found)
    (henter : Enters library ⟨stack, site⟩ ⟨site.key :: stack, target.site found⟩) :
    target ∉ library.followedInside followed stack site.key := by
  intro hmem
  -- nothing was opened in between, so it is the same visit
  have hold : target ∈ followed ∧ library.SameOpen stack (site.key :: stack) := by
    unfold followedInside at hmem
    split at hmem
    · cases hmem
    · split at hmem
      · cases hmem
      · next hopened => exact ⟨hmem, .opened hopened⟩
  obtain ⟨ref', found', earlier, hfound', hsite, hvisits, hway, hopen⟩ := h.earlier target hold.1
  obtain rfl := Except.ok.inj ((lookup_eq_ok hfound').symm.trans hfound)
  exact (hsettles earlier hvisits).not_again hbase (hvisits.inLibrary hbase) (.tail' hway henter)
    hsite.symm (hopen.trans hold.2)

/-- **Where visits settle, no walk is cut off**, by the recursion of the inlining. -/
theorem inlinings_end :
    (∀ followed stack document path node,
      Call.All library (library.Spent followed) (.node stack document path node) →
      Ends (library.inline followed stack document path node)) ∧
    (∀ followed stack document path members,
      Call.All library (library.Spent followed) (.members stack document path members) →
      Ends (library.inlineMembers followed stack document path members)) ∧
    (∀ followed stack document path index items,
      Call.All library (library.Spent followed) (.items stack document path index items) →
      Ends (library.inlineItems followed stack document path index items)) := by
  apply inline.mutual_induct library
    (fun followed stack document path node =>
      Call.All library (library.Spent followed) (.node stack document path node) →
      Ends (library.inline followed stack document path node))
    (fun followed stack document path members =>
      Call.All library (library.Spent followed) (.members stack document path members) →
      Ends (library.inlineMembers followed stack document path members))
    (fun followed stack document path index items =>
      Call.All library (library.Spent followed) (.items stack document path index items) →
      Ends (library.inlineItems followed stack document path index items))
  -- nodes: arrays, references, other objects, scalars
  case case1 =>
    intro followed stack document path items ih hspent
    rw [inline]
    refine ends_bind (ih (.of_array fun next henter => ?_)) fun _ _ => .ok _
    refine Spent.enter hspent henter ?_
    cases henter with
    | item => exact .refl _
    | member hnode | target hnode | beside hnode => cases hnode
  case case2 =>
    intro followed stack document path members place opened inside ref hget ihTarget ihMembers hspent
    have href := Members.ref?_of_get? hget
    cases htarget : library.target document ref with
    | error stop =>
      rw [inline_noTarget href htarget]
      exact (htarget ▸ target_ends document ref : Ends (.error stop : Except _ Target)).error rfl
    | ok target =>
      cases hfound : library.lookup target ref with
      | error stop =>
        rw [inline_notFound href htarget hfound]
        exact (hfound ▸ lookup_ends target ref : Ends (.error stop : Except _ Json)).error rfl
      | ok found =>
        have hrefers : library.Refers document members ref target found := ⟨href, htarget, hfound⟩
        rw [inline_refers hrefers rfl]
        by_cases hopen : target.key ∈ Target.placeKey document path :: stack
        · rw [if_pos hopen]
          exact .ok _
        · have henter := Enters.follow hrefers hopen
          have hnamed : target ∈ library.named :=
            (hspent.visits.inLibrary hbase).mem_named ⟨_, _, rfl, hrefers⟩
          have hmem : target ∈ library.named ∧ target ∉ inside :=
            ⟨hnamed, Spent.not_mem hbase hsettles hspent hfound henter⟩
          rw [if_neg hopen, if_pos hmem]
          have hinside := Spent.inside hspent henter rfl
          have hinner := ihTarget target found hmem (hinside.follow hfound)
          refine ends_afterTarget hinner fun innerMembers hresult => ?_
          have hresolves := (inlinings_resolve library).1 _ _ _ _ _ hinner
          rw [hresult] at hresolves
          refine ihMembers (.of_beside (fun next henter => ?_) hrefers hopen hresolves)
          refine Spent.inside hspent henter ?_
          obtain ⟨-, rfl | ⟨_, _, _, _, _, _, -, -, -, rfl⟩⟩ := henter.of_refers hrefers <;> rfl
  case case3 =>
    intro followed stack document path members place opened inside hget ih hspent
    have href := Members.ref?_eq_none hget
    rw [inline_plain href]
    refine ends_bind (ih (.of_object (fun next henter => ?_) href)) fun _ _ => .ok _
    refine Spent.inside hspent henter ?_
    cases henter with
    | item hnode => cases hnode
    | member | target | beside => rfl
  case case4 =>
    intro followed stack document path node harr hobj _
    rw [inline_leaf ⟨fun items h => harr items h, fun members h => hobj members h⟩]
    exact .ok _
  -- members
  case case5 =>
    intro followed stack document path _
    rw [inlineMembers]
    exact .ok _
  case case6 =>
    intro followed stack document path name member rest ihFirst ihOthers hspent
    rw [inlineMembers]
    have hfirst := ihFirst hspent.first_member
    refine ends_bind hfirst fun value hvalue => ends_bind (ihOthers ?_) fun _ _ => .ok _
    have hresolves := (inlinings_resolve library).1 _ _ _ _ _ hfirst
    rw [hvalue] at hresolves
    exact hspent.other_members hresolves
  -- items
  case case7 =>
    intro followed stack document path index _
    rw [inlineItems]
    exact .ok _
  case case8 =>
    intro followed stack document path index item rest ihFirst ihOthers hspent
    rw [inlineItems]
    have hfirst := ihFirst hspent.first_item
    refine ends_bind hfirst fun value hvalue => ends_bind (ihOthers ?_) fun _ _ => .ok _
    have hresolves := (inlinings_resolve library).1 _ _ _ _ _ hfirst
    rw [hvalue] at hresolves
    exact hspent.other_items hresolves

/-- So the schema comes to a result or an error. -/
theorem dereference_ends : Ends library.dereference :=
  (inlinings_end hbase hsettles).1 _ _ _ _ _ ⟨.root, nofun⟩

end Ends

/-- **The expansion ends**: there is a derivation of what the schema comes to. -/
def Expands (library : Library) : Prop :=
  ∃ result, Resolves library (.node [] "" "" library.root) result

/-- **The walk is cut off only where there is no result.** -/
theorem ends_iff_expands (hbase : ∀ base, library.base = some base → base.Proper) :
    Ends library.dereference ↔ library.Expands := by
  refine ⟨fun h => ⟨_, resolves_of_dereference h⟩, fun ⟨result, h⟩ => ?_⟩
  refine dereference_ends hbase fun visit hvisit => ?_
  induction hvisit with
  | root => exact h.settled
  | enter _ henter ih => exact ih.enter henter

/-- **What has a derivation is what the schema is inlined to.** -/
theorem dereference_of_resolves (hbase : ∀ base, library.base = some base → base.Proper)
    {result : Except (Stop ReferenceError) Json}
    (h : Resolves library (.node [] "" "" library.root) result) : library.dereference = result :=
  (resolves_of_dereference ((ends_iff_expands hbase).2 ⟨result, h⟩)).unique h

/-! ### Schemas without references to arrays -/

/-- **Dereferencing terminates.** If no reference that is followed leads to an array, then the
schema is inlined to a result or an error, however the references run in circles. The measure of
the calls, the targets that are not open and then the values in the node, goes down with every
call. -/
theorem dereference_terminates (hbase : ∀ base, library.base = some base → base.Proper)
    (harray : ∀ visit, Visits library visit → ∀ target found, library.Follows visit target found →
      ∀ items, found ≠ .arr items) :
    Ends library.dereference ∧
    Resolves library (.node [] "" "" library.root) library.dereference ∧
    ∀ visit, Visits library visit → ∀ next, Enters library visit next →
      Prod.Lex (· < ·) (· < ·) (next.measure library) (visit.measure library) := by
  have hlt {visit next : Visit} (hvisit : Visits library visit) (henter : Enters library visit next) :
      Prod.Lex (· < ·) (· < ·) (next.measure library) (visit.measure library) :=
    henter.measure_lt (hvisit.inLibrary hbase) (harray visit hvisit)
  -- there is no endless chain of visits, since each goes down in the measure
  have hsettles (visit : Visit) (hvisit : Visits library visit) : library.Settles visit := by
    have hwf : WellFounded fun next visit : Visit =>
        Prod.Lex (· < ·) (· < ·) (next.measure library) (visit.measure library) :=
      InvImage.wf (Visit.measure library) (Prod.lex Nat.lt_wfRel Nat.lt_wfRel).wf
    induction visit using hwf.induction with
    | _ visit ih =>
      exact .intro _ fun next henter => ih next (hlt hvisit henter) (.enter hvisit henter)
  have hends := dereference_ends hbase hsettles
  exact ⟨hends, resolves_of_dereference hends, fun visit hvisit next henter => hlt hvisit henter⟩

/-- `{"p": {"$ref": "#"}}`, which goes round in a circle. -/
def circle : Library where
  root := .obj [("p", .obj [("$ref", .str "#")])]
  base := none
  tree := .empty

theorem dereference_terminates_circle :
    Ends circle.dereference ∧
    Resolves circle (.node [] "" "" circle.root) circle.dereference ∧
    ∀ visit, Visits circle visit → ∀ next, Enters circle visit next →
      Prod.Lex (· < ·) (· < ·) (next.measure circle) (visit.measure circle) := by
  have hbase : ∀ base, circle.base = some base → base.Proper := nofun
  refine dereference_terminates hbase fun visit hvisit target found hfollows items heq => ?_
  obtain ⟨⟨members, ref, hnode, hrefers⟩, -⟩ := hfollows
  obtain ⟨value, hmem, hpart⟩ := (hvisit.inLibrary hbase).part
  have hdocuments : circle.documents = [("", circle.root)] := rfl
  rw [hdocuments, List.mem_singleton] at hmem
  obtain ⟨hdocument, rfl⟩ := Prod.mk.inj hmem
  rw [hnode] at hpart
  -- there is one reference in the schema, and it leads to the schema
  have href : ref ∈ refsIn circle.root := refsIn_of_part hpart (mem_refsIn_of_ref? hrefers.isRef)
  have hrefs : refsIn circle.root = ["#"] := rfl
  rw [hrefs, List.mem_singleton] at href
  subst href
  have htarget := hrefers.isTarget
  rw [hdocument, show circle.target "" "#" = .ok ⟨"", []⟩ from rfl] at htarget
  obtain rfl := Except.ok.inj htarget
  have hfound := hrefers.isFound
  rw [show circle.lookup ⟨"", []⟩ "#" = .ok circle.root from rfl] at hfound
  obtain rfl := Except.ok.inj hfound
  cases heq

end Library

end SchemaPress
