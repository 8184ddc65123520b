import Mathlib.Logic.Relation
import SchemaPress.Proofs.Reference.Occurrence
import SchemaPress.Proofs.Reference.Position

/-!
# Schemas without cycles

In a schema whose references are local and lead somewhere, positions are linked by two kinds of edges:
down to the parts of a value, and along a reference (`Edge`). If there is no cycle, nothing that is
open or was followed can be met again, since everything that is has an edge path to the position in hand
(`OnTheWay`). So every reference is followed, and inlining comes to a value.

All that is left under `$ref` in it are texts that a schema puts there on purpose: an object whose
`$ref` is no text stands for no reference, and if this member is a reference itself, it may lead to a
text (`Supplies`). A schema without such an object comes to a value without references, and such a
value is inlined to itself (`inlinings_free`).
-/

namespace SchemaPress

/-! ### References left in a value -/

/-- Whatever the objects in a value refer to. -/
def Json.AllRefs (P : String → Prop) (value : Json) : Prop :=
  ∀ members, value.Part (.obj members) → ∀ ref, Members.ref? members = some ref → P ref

/-- **No object in a value stands for a reference.** -/
def Json.Free (value : Json) : Prop :=
  value.AllRefs fun _ => False

namespace Json

variable {P : String → Prop}

theorem allRefs_leaf {value : Json} (harr : ∀ items, value ≠ .arr items)
    (hobj : ∀ members, value ≠ .obj members) : value.AllRefs P := by
  have hpart {part : Json} (h : value.Part part) : part = value := by
    induction h with
    | self => rfl
    | item _ _ ih => exact absurd ih.symm (harr _)
    | member _ _ ih => exact absurd ih.symm (hobj _)
  intro members h
  exact absurd (hpart h).symm (hobj members)

theorem allRefs_arr {items : List Json} : (Json.arr items).AllRefs P ↔ ∀ item ∈ items, item.AllRefs P := by
  constructor
  · exact fun h item hitem members hpart => h members ((Part.item .self hitem).trans hpart)
  · intro h members hpart
    rcases hpart.of_arr with heq | ⟨item, hitem, hpart⟩
    · cases heq
    · exact h item hitem members hpart

theorem allRefs_obj {members : Members} : (Json.obj members).AllRefs P ↔
    (∀ ref, members.ref? = some ref → P ref) ∧ ∀ member ∈ members, member.2.AllRefs P := by
  constructor
  · intro h
    exact ⟨h members .self, fun member hmember others hpart =>
      h others ((Part.member .self hmember).trans hpart)⟩
  · rintro ⟨hown, hmembers⟩ others hpart
    rcases hpart.of_obj with heq | ⟨member, hmember, hpart⟩
    · cases heq
      exact hown
    · exact hmembers member hmember others hpart

end Json

namespace Library

variable {library : Library}

/-! ### Texts that come to stand under `$ref` -/

/-- **A text that the schema puts under `$ref`**: some object has no text there but an object that
stands for a reference, and this reference leads to the text. -/
inductive Supplies (library : Library) : String → Prop where
  | intro {site last : Site} {tokens : List String} {position : List Key} {members : Members}
      {inner : Json} {text : String} (hsits : library.Sits site tokens position)
      (hnode : site.node = .obj members) (hinner : members.get? "$ref" = some inner)
      (href : inner.ref? ≠ none) (hleads : Leads library (site.member "$ref" inner) last)
      (hlast : last.node = .str text) : Supplies library text

/-- What is inlined under the `$ref` of an object that stands for no reference is a text only if the
schema supplies it. -/
theorem supplies_of_members (hroot : library.root.Distinct) {stack : List String} {site : Site}
    {tokens : List String} {position : List Key} (hsits : library.Sits site tokens position)
    {members values : Members} (hnode : site.node = .obj members) (hnone : members.ref? = none)
    (h : Resolves library (.members stack site.document site.pointer members) (.ok (.obj values)))
    {text : String} (htext : values.ref? = some text) : library.Supplies text := by
  have hvalue := Members.get?_of_ref? htext
  obtain ⟨inner, hinner⟩ := Members.exists_get?_of_names h.names.symm hvalue
  have hdistinct : inner.Distinct :=
    (hnode ▸ hsits.locates.isPart.distinct hroot : (Json.obj members).Distinct).member
      (Members.mem_of_get? hinner)
  have hmirror := (h.member_of_get? hinner hvalue).mirrored hroot _ rfl hdistinct
  -- a text mirrors nothing but a chain that ends in it
  cases hmirror with
  | cut href => exact absurd rfl href
  | leaf hleads hlast =>
    refine .intro hsits hnode hinner (fun hno => ?_) hleads hlast
    cases hleads with
    | here =>
      obtain rfl : inner = .str text := hlast
      rw [Members.ref?_of_get? hinner] at hnone
      cases hnone
    | hop hop => exact hop.ref?_ne hno

/-- **References of a merged object** are those of its parts: a name that is no text is not used. -/
theorem allRefs_merge {P : String → Prop} {name : Json} {inner beside : Members}
    (hdistinct : beside.Distinct) (hinner : (Json.obj inner).AllRefs P)
    (hbeside : ∀ member ∈ beside, member.2.AllRefs P)
    (hname : (∃ text, name = .str text) ∨ inner.get? "title" ≠ none) :
    (Json.obj (merge name inner (beside.erase "$ref"))).AllRefs P := by
  obtain ⟨hown, hmembers⟩ := Json.allRefs_obj.1 hinner
  refine Json.allRefs_obj.2 ⟨fun ref href => ?_, fun member hmember => ?_⟩
  · rw [ref?_merge name hdistinct] at href
    exact hown ref href
  · rcases mem_merge hmember with hmem | hmem | ⟨hnone, rfl⟩
    · exact hbeside member (List.mem_filter.1 hmem).1
    · exact hmembers member hmem
    · obtain ⟨text, rfl⟩ := hname.resolve_right fun hne => hne hnone
      exact Json.allRefs_leaf nofun nofun

/-! ### Edges -/

/-- **Edges between positions**: from a value to its items and members, and from an object with a
reference to where the reference leads. -/
inductive Edge (library : Library) : List Key → List Key → Prop where
  | part {position : List Key} {key : Key} {part : Json}
      (h : library.root.at? (position ++ [key]) = some part) :
      Edge library position (position ++ [key])
  | ref {position goal : List Key} {members : Members} {ref : String} {target : Target}
      {found : Json} (hnode : library.root.at? position = some (.obj members))
      (hrefers : library.Refers "" members ref target found)
      (hgoal : library.root.Locates target.tokens goal found) : Edge library position goal

/-- **No cycle.** No way along edges leads back to where it starts. -/
def Acyclic (library : Library) : Prop :=
  ∀ position, ¬ Relation.TransGen library.Edge position position

/-- Every reference of the schema leads somewhere. -/
def Resolvable (library : Library) : Prop :=
  ∀ members, library.root.Part (.obj members) → ∀ ref, Members.ref? members = some ref →
    ∃ target found, library.Refers "" members ref target found

/-- **The spelling was met on the way** to a position: it is that of a position from which edges lead
there. -/
def OnTheWay (library : Library) (position : List Key) (key : String) : Prop :=
  ∃ site tokens earlier, library.Sits site tokens earlier ∧ site.key = key ∧
    Relation.ReflTransGen library.Edge earlier position

theorem OnTheWay.here {site : Site} {tokens : List String} {position : List Key}
    (h : library.Sits site tokens position) : library.OnTheWay position site.key :=
  ⟨site, tokens, position, h, rfl, .refl⟩

theorem OnTheWay.step {position next : List Key} {key : String} (h : library.OnTheWay position key)
    (hedge : library.Edge position next) : library.OnTheWay next key := by
  obtain ⟨site, tokens, earlier, hsits, hkey, hway⟩ := h
  exact ⟨site, tokens, earlier, hsits, hkey, hway.tail hedge⟩

/-- **Without a cycle, nothing comes up twice**: a next position was not met on the way. -/
theorem Acyclic.new (h : library.Acyclic) {position goal : List Key}
    (hedge : library.Edge position goal) {site : Site} {tokens : List String}
    (hsits : library.Sits site tokens goal) : ¬ library.OnTheWay position site.key := by
  rintro ⟨other, others, earlier, hother, hkey, hway⟩
  -- both have one spelling, so they are at one position
  obtain ⟨-, rfl⟩ := hother.of_key hsits hkey
  exact h earlier (Relation.TransGen.tail' hway hedge)

/-! ### Inlining without a cycle -/

/-- Everything that is open or was followed was met on the way to a position. -/
structure Behind (library : Library) (followed : List Target) (stack : List String)
    (position : List Key) : Prop where
  stack : ∀ key ∈ stack, library.OnTheWay position key
  followed : ∀ target ∈ followed, library.OnTheWay position target.key

namespace Behind

variable {followed : List Target} {stack : List String} {position next : List Key}

theorem step (h : library.Behind followed stack position) (hedge : library.Edge position next) :
    library.Behind followed stack next :=
  ⟨fun key hkey => (h.stack key hkey).step hedge,
    fun target hmem => (h.followed target hmem).step hedge⟩

/-- An object is open for its parts. -/
theorem opened (h : library.Behind followed stack position) {site : Site} {tokens : List String}
    (hsits : library.Sits site tokens position) :
    library.Behind (library.followedInside followed stack site.key) (site.key :: stack) position := by
  refine ⟨List.forall_mem_cons.2 ⟨.here hsits, h.stack⟩, fun target hmem => ?_⟩
  unfold followedInside at hmem
  split at hmem
  · cases hmem
  · split at hmem
    · cases hmem
    · exact h.followed target hmem

/-- A target is followed for what is in it. -/
theorem follow (h : library.Behind followed stack position) {target : Target} {found : Json}
    {tokens : List String} (hsits : library.Sits (target.site found) tokens position) :
    library.Behind (target :: followed) stack position :=
  ⟨h.stack, List.forall_mem_cons.2 ⟨.here hsits, h.followed⟩⟩

end Behind

/-- A node at a position comes to a value, with texts under `$ref` only if they are supplied. -/
def NodeSupplied (library : Library) (followed : List Target) (stack : List String)
    (document path : String)
    (node : Json) : Prop :=
  ∀ tokens position, library.Sits ⟨document, path, node⟩ tokens position →
    library.Behind followed stack position →
    ∃ value, library.inline followed stack document path node = .ok value ∧
      value.AllRefs library.Supplies

/-- So do members of an object at a position. -/
def MembersSupplied (library : Library) (followed : List Target) (stack : List String)
    (document path : String)
    (members : List (String × Json)) : Prop :=
  ∀ tokens position, (∀ member ∈ members, library.Sits
      ⟨document, path ++ "/" ++ Pointer.escape member.1, member.2⟩ (tokens ++ [member.1])
      (position ++ [Key.name member.1])) →
    library.Behind followed stack position →
    ∃ values, library.inlineMembers followed stack document path members = .ok values ∧
      ∀ member ∈ values, member.2.AllRefs library.Supplies

/-- So do items of an array at a position, from an index on. -/
def ItemsSupplied (library : Library) (followed : List Target) (stack : List String)
    (document path : String)
    (index : Nat) (items : List Json) : Prop :=
  ∀ tokens position, (∀ i item, items[i]? = some item → library.Sits
      ⟨document, path ++ "/" ++ toString (index + i), item⟩ (tokens ++ [toString (index + i)])
      (position ++ [Key.index (index + i)])) →
    library.Behind followed stack position →
    ∃ values, library.inlineItems followed stack document path index items = .ok values ∧
      ∀ value ∈ values, value.AllRefs library.Supplies

section Walk

variable (hroot : library.root.Distinct) (hlocal : library.LocalOnly)
  (hresolvable : library.Resolvable) (hacyclic : library.Acyclic)

include hroot hlocal hresolvable hacyclic

/-- **Without a cycle, inlining comes to a value**, by the recursion of the inlining: everything behind
a position stays behind on the way down an edge. -/
theorem inlinings_supply :
    (∀ followed stack document path node,
      library.NodeSupplied followed stack document path node) ∧
    (∀ followed stack document path members,
      library.MembersSupplied followed stack document path members) ∧
    (∀ followed stack document path index items,
      library.ItemsSupplied followed stack document path index items) := by
  apply inline.mutual_induct library library.NodeSupplied library.MembersSupplied library.ItemsSupplied
  -- nodes: arrays, references, other objects, scalars
  case case1 =>
    intro followed stack document path items ih tokens position hsits hbehind
    obtain ⟨values, hvalues, hrefs⟩ := ih tokens position (fun i item hitem => by
      rw [Nat.zero_add]
      exact hsits.item rfl hitem) hbehind
    refine ⟨.arr values, ?_, Json.allRefs_arr.2 hrefs⟩
    rw [inline, hvalues]
    rfl
  case case2 =>
    intro followed stack document path members place opened inside ref hget ihTarget ihMembers tokens position
      hsits hbehind
    have hdistinct := hsits.locates.isPart.distinct hroot
    have href := Members.ref?_of_get? hget
    obtain ⟨target, found, hrefers'⟩ := hresolvable members hsits.locates.isPart ref href
    have hrefers : library.Refers document members ref target found := by
      rw [show document = "" from hsits.document]
      exact hrefers'
    obtain ⟨goal, hgoal⟩ := hsits.target hlocal rfl hrefers
    have hedge : library.Edge position goal := .ref hsits.locates.at? hrefers' hgoal.locates
    have hopened : library.Behind inside opened position := hbehind.opened hsits
    -- the target is neither open nor was it followed, for then there was a cycle
    have hnew := hacyclic.new hedge hgoal
    have hopen : target.key ∉ Target.placeKey document path :: stack :=
      fun hmem => hnew (hopened.stack _ hmem)
    have hfollowed : target ∈ library.named ∧ target ∉ inside :=
      ⟨mem_named List.mem_cons_self hsits.locates.isPart hrefers',
        fun hmem => hnew (hopened.followed _ hmem)⟩
    obtain ⟨value, hvalue, hrefs⟩ := ihTarget target found hfollowed _ goal hgoal
      ((hopened.step hedge).follow hgoal)
    rw [inline_refers hrefers rfl, if_neg hopen, if_pos hfollowed, hvalue]
    cases value with
    | obj inner =>
      obtain ⟨beside, hbeside, hmembers⟩ := ihMembers tokens position (fun member hmember =>
        hsits.member rfl (hdistinct.names.get?_of_mem hmember)) hopened
      have hparts := (inlinings_resolve library).2.1 inside opened document path members
        (by rw [hbeside]; exact .ok _)
      have hinner := (inlinings_resolve library).1 (target :: inside) opened target.document
        (Pointer.text target.tokens) found (by rw [hvalue]; exact .ok _)
      rw [hbeside] at hparts
      rw [hvalue] at hinner
      have hname := nameOf_text_or_titled target (distinct_lookup hroot hrefers.isFound) hinner
      refine ⟨_, by rw [hbeside]; rfl, ?_⟩
      exact allRefs_merge (hdistinct.names.of_names hparts.names) hrefs hmembers
        (hname.imp_left fun heq => ⟨_, heq⟩)
    | _ => exact ⟨_, rfl, hrefs⟩
  case case3 =>
    intro followed stack document path members place opened inside href ih tokens position hsits hbehind
    have hdistinct := hsits.locates.isPart.distinct hroot
    obtain ⟨values, hvalues, hmembers⟩ := ih tokens position (fun member hmember =>
      hsits.member rfl (hdistinct.names.get?_of_mem hmember)) (hbehind.opened hsits)
    have hparts := (inlinings_resolve library).2.1 inside opened document path members
      (by rw [hvalues]; exact .ok _)
    rw [hvalues] at hparts
    refine ⟨.obj values, ?_, Json.allRefs_obj.2 ⟨fun text htext => ?_, hmembers⟩⟩
    · rw [inline_plain (Members.ref?_eq_none href), hvalues]
      rfl
    · exact supplies_of_members hroot hsits rfl (Members.ref?_eq_none href) hparts htext
  case case4 =>
    intro followed stack document path node harr hobj tokens position _ _
    have hleaf : node.IsLeaf := ⟨fun items h => harr items h, fun members h => hobj members h⟩
    exact ⟨node, inline_leaf hleaf, Json.allRefs_leaf hleaf.1 hleaf.2⟩
  -- members
  case case5 =>
    intro followed stack document path tokens position _ _
    exact ⟨[], by rw [inlineMembers], fun _ hmem => absurd hmem List.not_mem_nil⟩
  case case6 =>
    intro followed stack document path name member rest ihFirst ihOthers tokens position hsits hbehind
    have hfirst := hsits _ List.mem_cons_self
    obtain ⟨value, hvalue, hrefs⟩ := ihFirst _ _ hfirst (hbehind.step (.part hfirst.locates.at?))
    obtain ⟨values, hvalues, hothers⟩ := ihOthers tokens position
      (fun other hother => hsits other (List.mem_cons_of_mem _ hother)) hbehind
    refine ⟨(name, value) :: values, ?_, List.forall_mem_cons.2 ⟨hrefs, hothers⟩⟩
    rw [inlineMembers, hvalue, hvalues]
    rfl
  -- items
  case case7 =>
    intro followed stack document path index tokens position _ _
    exact ⟨[], by rw [inlineItems], fun _ hmem => absurd hmem List.not_mem_nil⟩
  case case8 =>
    intro followed stack document path index item rest ihFirst ihOthers tokens position hsits hbehind
    have hfirst := hsits 0 item rfl
    obtain ⟨value, hvalue, hrefs⟩ := ihFirst _ _ hfirst (hbehind.step (.part hfirst.locates.at?))
    obtain ⟨values, hvalues, hothers⟩ := ihOthers tokens position (fun i other hother => by
      rw [Nat.add_assoc, Nat.add_comm 1 i]
      exact hsits (i + 1) other hother) hbehind
    refine ⟨value :: values, ?_, List.forall_mem_cons.2 ⟨hrefs, hothers⟩⟩
    rw [inlineItems, hvalue, hvalues]
    rfl

end Walk

/-! ### Values without references -/

/-- **A value without references is inlined to itself**, whatever is open. -/
theorem inlinings_free :
    (∀ followed stack document path node, node.Free →
      library.inline followed stack document path node = .ok node) ∧
    (∀ followed stack document path members, (∀ member ∈ members, member.2.Free) →
      library.inlineMembers followed stack document path members = .ok members) ∧
    (∀ followed stack document path index items, (∀ item ∈ items, item.Free) →
      library.inlineItems followed stack document path index items = .ok items) := by
  apply inline.mutual_induct library
    (fun followed stack document path node => node.Free →
      library.inline followed stack document path node = .ok node)
    (fun followed stack document path members => (∀ member ∈ members, member.2.Free) →
      library.inlineMembers followed stack document path members = .ok members)
    (fun followed stack document path index items => (∀ item ∈ items, item.Free) →
      library.inlineItems followed stack document path index items = .ok items)
  case case1 =>
    intro followed stack document path items ih hfree
    rw [inline, ih (Json.allRefs_arr.1 hfree)]
    rfl
  case case2 =>
    intro followed stack document path members place opened inside ref hget _ _ hfree
    exact ((Json.allRefs_obj.1 hfree).1 ref (Members.ref?_of_get? hget)).elim
  case case3 =>
    intro followed stack document path members place opened inside href ih hfree
    rw [inline_plain (Members.ref?_eq_none href), ih (Json.allRefs_obj.1 hfree).2]
    rfl
  case case4 =>
    intro followed stack document path node harr hobj _
    exact inline_leaf ⟨fun items h => harr items h, fun members h => hobj members h⟩
  case case5 =>
    intro followed stack document path _
    rw [inlineMembers]
  case case6 =>
    intro followed stack document path name member rest ihFirst ihOthers hfree
    obtain ⟨hfirst, hothers⟩ := List.forall_mem_cons.1 hfree
    rw [inlineMembers, ihFirst hfirst, ihOthers hothers]
    rfl
  case case7 =>
    intro followed stack document path index _
    rw [inlineItems]
  case case8 =>
    intro followed stack document path index item rest ihFirst ihOthers hfree
    obtain ⟨hfirst, hothers⟩ := List.forall_mem_cons.1 hfree
    rw [inlineItems, ihFirst hfirst, ihOthers hothers]
    rfl

/-- No object of the schema has under `$ref` an object that stands for a reference itself. -/
def NoRefUnderRef (library : Library) : Prop :=
  ∀ members inner, library.root.Part (.obj members) → Members.get? members "$ref" = some inner →
    inner.ref? = none

/-- **Schemas without cycles become free of references.** If all references of a schema are local and
lead somewhere, and there is no cycle, the schema is inlined to a value. An object of it that has a text
under `$ref` has it from an object of the schema whose `$ref` was no text but a reference to this text;
if there is no such object, the value is free of references. And whatever free value any schema is
inlined to, it is inlined to itself. -/
theorem dereference_acyclic (hroot : library.root.Distinct) :
    (library.LocalOnly → library.Resolvable → library.Acyclic →
      ∃ result, library.dereference = .ok result ∧ result.AllRefs library.Supplies ∧
        (library.NoRefUnderRef → result.Free)) ∧
    ∀ result, library.dereference = .ok result → result.Free →
      ∀ base tree, dereference ⟨result, base, tree⟩ = .ok result := by
  constructor
  · intro hlocal hresolvable hacyclic
    have hbehind : library.Behind [] [] [] := ⟨nofun, nofun⟩
    obtain ⟨result, hresult, hrefs⟩ :=
      (inlinings_supply hroot hlocal hresolvable hacyclic).1 _ _ _ _ _ [] [] .root hbehind
    refine ⟨result, hresult, hrefs, fun hnone members hpart ref href => ?_⟩
    cases hrefs members hpart ref href with
    | intro hsits hnode hinner hreference =>
      exact hreference (hnone _ _ (hnode ▸ hsits.locates.isPart) hinner)
  · intro result _ hfree base tree
    exact inlinings_free.1 _ _ _ _ result hfree

/-! ### A reference in place of the text -/

/-- `{"$ref": {"$ref": "#/x"}, "x": "hello"}`. -/
def nestedLibrary : Library where
  root := .obj [("$ref", .obj [("$ref", .str "#/x")]), ("x", .str "hello")]
  base := none
  tree := .empty

/-- What it is inlined to. -/
def nestedResult : Json :=
  .obj [("$ref", .str "hello"), ("x", .str "hello")]

/-- If edges go up in a rank, there is no cycle. -/
theorem acyclic_of_rank (rank : List Key → Nat)
    (h : ∀ position next, library.Edge position next → rank position < rank next) :
    library.Acyclic := by
  have hway {position next : List Key} (hway : Relation.TransGen library.Edge position next) :
      rank position < rank next := by
    induction hway with
    | single hedge => exact h _ _ hedge
    | tail _ hedge ih => exact Nat.lt_trans ih (h _ _ hedge)
  exact fun position hcycle => Nat.lt_irrefl _ (hway hcycle)

theorem refers_nested {members : Members} (hpart : nestedLibrary.root.Part (.obj members))
    {ref : String} (href : members.ref? = some ref) :
    nestedLibrary.Refers "" members ref ⟨"", ["x"]⟩ (.str "hello") := by
  have hmem : ref ∈ refsIn nestedLibrary.root := refsIn_of_part hpart (mem_refsIn_of_ref? href)
  rw [show refsIn nestedLibrary.root = ["#/x"] from rfl] at hmem
  obtain rfl := List.mem_singleton.1 hmem
  exact ⟨href, by decide +kernel, rfl⟩

/-- The reference in it is under `$ref`. -/
theorem position_nested {position : List Key} {members : Members} {ref : String}
    (hnode : nestedLibrary.root.at? position = some (.obj members))
    (href : members.ref? = some ref) : position = [.name "$ref"] := by
  rcases position with _ | ⟨key, rest⟩
  · obtain rfl := Json.obj.inj (Option.some.inj hnode)
    cases href
  rw [Json.at?_cons] at hnode
  obtain ⟨next, hnext, hrest⟩ := Option.bind_eq_some_iff.1 hnode
  cases key with
  | index number => cases hnext
  | name name =>
    have hmem := Members.mem_of_get? (Json.at?_name.symm.trans hnext)
    rcases List.mem_cons.1 hmem with heq | hmem
    · obtain ⟨rfl, rfl⟩ := Prod.mk.inj heq
      rcases rest with _ | ⟨inner, rest⟩
      · rfl
      -- below the reference there is only its text
      rw [Json.at?_cons] at hrest
      obtain ⟨last, hlast, hrest⟩ := Option.bind_eq_some_iff.1 hrest
      cases inner with
      | index number => cases hlast
      | name name =>
        have hmem := Members.mem_of_get? (Json.at?_name.symm.trans hlast)
        obtain ⟨-, rfl⟩ := Prod.mk.inj (List.mem_singleton.1 hmem)
        cases Json.at?_text hrest
    · obtain ⟨-, rfl⟩ := Prod.mk.inj (List.mem_singleton.1 hmem)
      cases Json.at?_text hrest

/-- Depths of positions, where what the reference leads to counts one more. -/
def nestedRank (position : List Key) : Nat :=
  position.length + if position.head? = some (.name "x") then 1 else 0

theorem acyclic_nested : nestedLibrary.Acyclic := by
  refine acyclic_of_rank nestedRank fun position next hedge => ?_
  cases hedge with
  | @part key =>
    rcases position with _ | ⟨first, rest⟩
    · exact Nat.lt_of_lt_of_le Nat.zero_lt_one (Nat.le_add_right 1 _)
    -- what is longer is under `x` if what stands in front is
    · have hlt : (first :: rest).length < (first :: rest ++ [key]).length := by simp
      exact Nat.add_lt_add_right hlt _
  | ref hnode hrefers hgoal =>
    obtain rfl := position_nested hnode hrefers.isRef
    have hpart := (Json.locates_of_at? hnode).isPart
    obtain ⟨-, rfl, -⟩ := hrefers.unique (refers_nested hpart hrefers.isRef)
    obtain ⟨rfl, -⟩ := hgoal.unique (.member rfl .here)
    decide

theorem localOnly_nested : nestedLibrary.LocalOnly := by
  unfold LocalOnly
  rw [show refsIn nestedLibrary.root = ["#/x"] from rfl]
  exact List.forall_mem_singleton.2 (by decide)

theorem dereference_nested : nestedLibrary.dereference = .ok nestedResult := by
  have hrefers : nestedLibrary.Refers "" [("$ref", .str "#/x")] "#/x" ⟨"", ["x"]⟩ (.str "hello") :=
    ⟨rfl, by decide +kernel, rfl⟩
  have hinside (stack : List String) (place : String) :
      nestedLibrary.followedInside [] stack place = [] := rfl
  -- the object under `$ref` comes to the text that it refers to
  have hinner : nestedLibrary.inline [] [Target.placeKey "" ""] "" ("" ++ "/" ++ Pointer.escape "$ref")
      (.obj [("$ref", .str "#/x")]) = .ok (.str "hello") := by
    rw [inline_refers hrefers (hinside _ _), if_neg (by decide +kernel), if_pos (by decide +kernel),
      inline_leaf (Json.isLeaf_str _)]
    rfl
  unfold dereference
  change nestedLibrary.inline [] [] "" ""
    (.obj [("$ref", .obj [("$ref", .str "#/x")]), ("x", .str "hello")]) = .ok nestedResult
  rw [inline_plain rfl, hinside, inlineMembers, hinner, inlineMembers, inline_leaf (Json.isLeaf_str _), inlineMembers]
  rfl

/-- **A schema without cycles need not become free of references.** -/
theorem dereference_not_free :
    nestedLibrary.LocalOnly ∧ nestedLibrary.Resolvable ∧ nestedLibrary.Acyclic ∧
      nestedLibrary.dereference = .ok nestedResult ∧ ¬ nestedResult.Free := by
  refine ⟨localOnly_nested, fun members hpart ref href => ?_, acyclic_nested, dereference_nested,
    fun hfree => hfree _ .self "hello" rfl⟩
  exact ⟨_, _, refers_nested hpart href⟩

/-- The text in the result is supplied by the schema. -/
theorem dereference_acyclic_nested :
    ∃ result, nestedLibrary.dereference = .ok result ∧ result.AllRefs nestedLibrary.Supplies := by
  have hroot : nestedLibrary.root.Distinct :=
    .cons (by decide) (Json.distinct_singleton _ (Json.distinct_str _))
      (Json.distinct_singleton _ (Json.distinct_str _))
  obtain ⟨result, hresult, hrefs, -⟩ := (dereference_acyclic hroot).1 localOnly_nested
    (fun members hpart ref href => ⟨_, _, refers_nested hpart href⟩) acyclic_nested
  exact ⟨result, hresult, hrefs⟩

end Library

end SchemaPress
