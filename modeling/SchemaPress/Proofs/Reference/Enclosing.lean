import SchemaPress.Proofs.Reference.Occurrence
import SchemaPress.Proofs.Reference.Position

/-!
# References to enclosing objects

A reference is kept as a back edge where its target is open. What is open is told by spellings: the
stack of a visit holds those of the objects that it was made from, one for one (`Trail.stack`). So a
reference is kept exactly if the object itself or one around it was entered under the very tokens
that the reference has.

These objects are at the position of the target, for a spelling stands for one position. The converse
holds as long as references write the indices of items as the walk does (`PlainIndices`). Otherwise
an object may be around the reference under another spelling, and is entered once more.
-/

namespace SchemaPress

namespace Library

variable {library : Library}

/-! ### The way to a visit -/

/-- **Trails**: the visits that a visit was made from, the innermost one first. -/
inductive Trail (library : Library) : List Visit → Visit → Prop where
  | root : Trail library [] library.rootVisit
  | enter {around : List Visit} {visit next : Visit} (h : Trail library around visit)
      (henter : Enters library visit next) : Trail library (visit :: around) next

/-- Every visit has a trail. -/
theorem Visits.trail {visit : Visit} (h : Visits library visit) :
    ∃ around, Trail library around visit := by
  induction h with
  | root => exact ⟨[], .root⟩
  | enter _ henter ih =>
    obtain ⟨around, htrail⟩ := ih
    exact ⟨_, htrail.enter henter⟩

/-- Whoever is on a trail has one. -/
theorem Trail.of_mem {around : List Visit} {visit outer : Visit} (h : Trail library around visit)
    (hmem : outer ∈ visit :: around) : ∃ further, Trail library further outer := by
  induction h with
  | root =>
    obtain rfl := List.mem_singleton.1 hmem
    exact ⟨[], .root⟩
  | enter h henter ih =>
    rcases List.mem_cons.1 hmem with rfl | hmem
    · exact ⟨_, h.enter henter⟩
    · exact ih hmem

/-- **The stack holds the objects on the trail.** -/
theorem Trail.stack {around : List Visit} {visit : Visit} (h : Trail library around visit) :
    visit.stack =
      (around.filter fun outer => outer.site.node.isObj).map fun outer => outer.site.key := by
  induction h with
  | root => rfl
  | enter h henter ih =>
    -- an array passes its stack on, and an object puts its own spelling in front
    cases henter with
    | item hnode => simpa [hnode, Json.isObj] using ih
    | member hnode => simpa [hnode, Json.isObj] using ih
    | target hnode => simpa [hnode, Json.isObj] using ih
    | beside hnode => simpa [hnode, Json.isObj] using ih

/-- What is open for an object is itself or an object on its trail. -/
theorem Trail.mem_opened_iff {around : List Visit} {visit : Visit} (h : Trail library around visit)
    (hobj : visit.site.node.isObj = true) (key : String) :
    key ∈ visit.site.key :: visit.stack ↔
      ∃ outer ∈ visit :: around, outer.site.node.isObj = true ∧ outer.site.key = key := by
  have hopened : visit.site.key :: visit.stack =
      ((visit :: around).filter fun outer => outer.site.node.isObj).map
        fun outer => outer.site.key := by
    rw [h.stack, List.filter_cons, if_pos hobj, List.map_cons]
  rw [hopened]
  simp only [List.mem_map, List.mem_filter, and_assoc]

/-! ### Kept references -/

/-- **The reference is kept**: its object comes to a back edge, and nothing is visited from it. -/
structure Kept (library : Library) (visit : Visit) (ref : String) (target : Target) (found : Json) :
    Prop where
  value : Resolves library visit.call
    (.ok (.obj [("$ref", .str ref), ("title", nameOf target found)]))
  nowhere : ∀ next, ¬ Enters library visit next

section References

variable {visit : Visit} {members : Members} {ref : String} {target : Target} {found : Json}
  (hnode : visit.site.node = .obj members)
  (hrefers : library.Refers visit.site.document members ref target found)

include hnode hrefers

/-- A reference that is not open is followed. -/
theorem enters_target (hnew : target.key ∉ visit.site.key :: visit.stack) :
    Enters library visit ⟨visit.site.key :: visit.stack, target.site found⟩ :=
  .target hnode hrefers hnew

/-- A reference is kept if and only if its target is open. -/
theorem kept_iff_mem :
    library.Kept visit ref target found ↔ target.key ∈ visit.site.key :: visit.stack := by
  constructor
  · intro h
    by_contra hnew
    exact h.nowhere _ (enters_target hnode hrefers hnew)
  · intro hopen
    refine ⟨?_, fun next henter => ?_⟩
    · unfold Visit.call
      rw [hnode]
      exact .backEdge hrefers hopen
    · cases henter with
      | item hnode' => exact absurd (hnode.symm.trans hnode') nofun
      | member hnode' href =>
        obtain rfl := Json.obj.inj (hnode.symm.trans hnode')
        exact absurd (href.symm.trans hrefers.isRef) nofun
      | target hnode' hrefers' hnew =>
        obtain rfl := Json.obj.inj (hnode.symm.trans hnode')
        obtain ⟨-, rfl, -⟩ := hrefers.unique hrefers'
        exact hnew hopen
      | beside hnode' hrefers' hnew =>
        obtain rfl := Json.obj.inj (hnode.symm.trans hnode')
        obtain ⟨-, rfl, -⟩ := hrefers.unique hrefers'
        exact hnew hopen

end References

/-! ### Where visits sit -/

/-- A visit from one that sits in the schema does so as well. -/
theorem Enters.sits (hroot : library.root.Distinct) (hlocal : library.LocalOnly)
    {visit next : Visit} (h : Enters library visit next) {tokens : List String}
    {position : List Key} (hsits : library.Sits visit.site tokens position) :
    (∃ key, library.Sits next.site (tokens ++ [Key.token key]) (position ++ [key])) ∨
    ∃ members ref target found goal, visit.site.node = .obj members ∧
      library.Refers visit.site.document members ref target found ∧
      next.site = target.site found ∧ library.Sits next.site target.tokens goal := by
  have hdistinct := hsits.locates.isPart.distinct hroot
  cases h with
  | @item _ _ before _ _ _ hnode =>
    exact .inl ⟨.index before.length, hsits.item hnode (by simp)⟩
  | @member _ _ _ _ name _ _ hnode =>
    have hnames := (hnode ▸ hdistinct : (Json.obj _).Distinct).names
    exact .inl ⟨.name name, hsits.member hnode
      (hnames.get?_of_mem (List.mem_append_right _ List.mem_cons_self))⟩
  | target hnode hrefers =>
    obtain ⟨goal, hgoal⟩ := hsits.target hlocal hnode hrefers
    exact .inr ⟨_, _, _, _, goal, hnode, hrefers, rfl, hgoal⟩
  | @beside _ _ _ _ _ name _ _ _ _ _ hnode =>
    have hnames := (hnode ▸ hdistinct : (Json.obj _).Distinct).names
    exact .inl ⟨.name name, hsits.member hnode
      (hnames.get?_of_mem (List.mem_append_right _ List.mem_cons_self))⟩

/-- **Every visit is in the schema**, if all references are local. -/
theorem Trail.sits (hroot : library.root.Distinct) (hlocal : library.LocalOnly)
    {around : List Visit} {visit : Visit} (h : Trail library around visit) :
    ∃ tokens position, library.Sits visit.site tokens position := by
  induction h with
  | root => exact ⟨[], [], .root⟩
  | enter h henter ih =>
    obtain ⟨tokens, position, hsits⟩ := ih
    rcases henter.sits hroot hlocal hsits with ⟨key, hnext⟩ | ⟨_, _, _, _, goal, -, -, -, hnext⟩
    · exact ⟨_, _, hnext⟩
    · exact ⟨_, goal, hnext⟩

/-- **Plain references** write the indices of items as the walk down to them does. -/
def PlainIndices (library : Library) : Prop :=
  ∀ members ref target found goal, library.root.Part (.obj members) →
    library.Refers "" members ref target found →
    library.root.Locates target.tokens goal found → target.tokens = goal.map Key.token

/-- If all references are plain, every visit is entered under the one spelling of its position. -/
theorem Trail.sits_plainly (hroot : library.root.Distinct) (hlocal : library.LocalOnly)
    (hplain : library.PlainIndices) {around : List Visit} {visit : Visit}
    (h : Trail library around visit) :
    ∃ position, library.Sits visit.site (position.map Key.token) position := by
  induction h with
  | root => exact ⟨[], .root⟩
  | enter h henter ih =>
    obtain ⟨position, hsits⟩ := ih
    rcases henter.sits hroot hlocal hsits with
      ⟨key, hnext⟩ | ⟨members, ref, target, found, goal, hnode, hrefers, hsite, hnext⟩
    · exact ⟨position ++ [key], by rw [List.map_append]; exact hnext⟩
    · refine ⟨goal, ?_⟩
      have hpart : library.root.Part (.obj members) := hnode ▸ hsits.locates.isPart
      have hlocates := hnext.locates
      rw [hsite] at hlocates
      rw [hsits.document] at hrefers
      rw [← hplain members ref target found goal hpart hrefers hlocates]
      exact hnext

/-! ### References to enclosing objects -/

/-- The object itself or one on its trail was entered under these tokens. -/
def EnclosedAs (library : Library) (around : List Visit) (visit : Visit) (tokens : List String) :
    Prop :=
  ∃ outer ∈ visit :: around, outer.site.node.isObj = true ∧
    ∃ position, library.Sits outer.site tokens position

/-- The object itself or one on its trail is at this position. -/
def EnclosedAt (library : Library) (around : List Visit) (visit : Visit) (position : List Key) :
    Prop :=
  ∃ outer ∈ visit :: around, outer.site.node.isObj = true ∧
    ∃ tokens, library.Sits outer.site tokens position

/-- **A reference is kept exactly when its target encloses it under its own spelling.** Take an object
with a reference that is met while a schema is inlined, and the position that the tokens of the
reference lead to. The reference is kept if and only if the object itself or one around it was entered
under these very tokens; otherwise the target is entered. So whatever is kept refers to the position
of an enclosing object. If references write indices plainly, every reference to the position of an
enclosing object is kept. -/
theorem kept_iff_enclosed (hroot : library.root.Distinct) (hlocal : library.LocalOnly)
    {around : List Visit} {visit : Visit} (htrail : Trail library around visit) {members : Members}
    {ref : String} {target : Target} {found : Json} (hnode : visit.site.node = .obj members)
    (hrefers : library.Refers visit.site.document members ref target found) :
    ∃ goal, library.root.Locates target.tokens goal found ∧
      (library.Kept visit ref target found ↔ library.EnclosedAs around visit target.tokens) ∧
      (¬ library.Kept visit ref target found →
        Enters library visit ⟨visit.site.key :: visit.stack, target.site found⟩) ∧
      (library.Kept visit ref target found → library.EnclosedAt around visit goal) ∧
      (library.PlainIndices →
        (library.Kept visit ref target found ↔ library.EnclosedAt around visit goal)) := by
  obtain ⟨tokens, position, hsits⟩ := htrail.sits hroot hlocal
  obtain ⟨goal, hgoal⟩ := hsits.target hlocal hnode hrefers
  have hopened := htrail.mem_opened_iff (by rw [hnode]; rfl) target.key
  have hsitsOf {outer : Visit} (hmem : outer ∈ visit :: around) :
      ∃ tokens position, library.Sits outer.site tokens position := by
    obtain ⟨further, hfurther⟩ := htrail.of_mem hmem
    exact hfurther.sits hroot hlocal
  have hkept : library.Kept visit ref target found ↔
      library.EnclosedAs around visit target.tokens := by
    rw [kept_iff_mem hnode hrefers, hopened]
    constructor
    · rintro ⟨outer, hmem, hobj, hkey⟩
      obtain ⟨others, place, houter⟩ := hsitsOf hmem
      -- a spelling stands for its tokens
      obtain ⟨rfl, -⟩ := houter.of_key hgoal hkey
      exact ⟨outer, hmem, hobj, place, houter⟩
    · rintro ⟨outer, hmem, hobj, place, houter⟩
      exact ⟨outer, hmem, hobj, houter.key_eq hgoal⟩
  have hat : library.Kept visit ref target found → library.EnclosedAt around visit goal := by
    intro h
    obtain ⟨outer, hmem, hobj, place, houter⟩ := hkept.1 h
    obtain ⟨-, rfl⟩ := houter.of_key hgoal (houter.key_eq hgoal)
    exact ⟨outer, hmem, hobj, _, houter⟩
  refine ⟨goal, hgoal.locates, hkept, fun hnot => ?_, hat, fun hplain => ⟨hat, ?_⟩⟩
  · exact enters_target hnode hrefers fun hmem => hnot ((kept_iff_mem hnode hrefers).2 hmem)
  · rintro ⟨outer, hmem, hobj, others, houter⟩
    -- both the enclosing object and the reference have the plain spelling of the position
    obtain ⟨further, hfurther⟩ := htrail.of_mem hmem
    obtain ⟨place, hplainly⟩ := hfurther.sits_plainly hroot hlocal hplain
    obtain ⟨rfl, rfl⟩ := houter.of_key hplainly rfl
    have hpart : library.root.Part (.obj members) := hnode ▸ hsits.locates.isPart
    rw [hsits.document] at hrefers
    have htokens := hplain members ref target found _ hpart hrefers hgoal.locates
    exact hkept.2 ⟨outer, hmem, hobj, _, htokens ▸ houter⟩

/-- `{"properties": {"x": {"$ref": "#/items/00"}}}`. -/
def paddedItem : Json :=
  .obj [("properties", .obj [("x", .obj [("$ref", .str "#/items/00")])])]

/-- A schema with this item, to which the reference in it leads. -/
def paddedLibrary : Library where
  root := .obj [("items", .arr [paddedItem])]
  base := none
  tree := .empty

/-- The site of the item. -/
def paddedSite : Site :=
  (paddedLibrary.rootSite.member "items" (.arr [paddedItem])).item 0 paddedItem

/-- The site of its properties. -/
def paddedProperties : Site :=
  paddedSite.member "properties" (.obj [("x", .obj [("$ref", .str "#/items/00")])])

/-- The first visit to the reference. -/
def paddedVisit : Visit where
  stack := [paddedProperties.key, paddedSite.key, paddedLibrary.rootSite.key]
  site := paddedProperties.member "x" (.obj [("$ref", .str "#/items/00")])

/-- The visits that it was made from. -/
def paddedTrail : List Visit :=
  [⟨[paddedSite.key, paddedLibrary.rootSite.key], paddedProperties⟩,
    ⟨[paddedLibrary.rootSite.key], paddedSite⟩,
    ⟨[paddedLibrary.rootSite.key], paddedLibrary.rootSite.member "items" (.arr [paddedItem])⟩,
    paddedLibrary.rootVisit]

theorem trail_padded : Trail paddedLibrary paddedTrail paddedVisit := by
  have items := Trail.root.enter
    (@Enters.member paddedLibrary [] paddedLibrary.rootSite [] [] _ _ _ rfl rfl .noMember)
  have item := items.enter (@Enters.item _ _ _ [] [] paddedItem _ rfl .noItem)
  have properties := item.enter (@Enters.member _ _ paddedSite [] [] _ _ _ rfl rfl .noMember)
  exact properties.enter (@Enters.member _ _ paddedProperties [] [] _ _ _ rfl rfl .noMember)

/-- **An item is entered once more** under another spelling of its index: the reference leads to an
enclosing object and is not kept. -/
theorem kept_iff_enclosed_padded :
    ¬ paddedLibrary.Kept paddedVisit "#/items/00" ⟨"", ["items", "00"]⟩ paddedItem ∧
    paddedLibrary.EnclosedAt paddedTrail paddedVisit [.name "items", .index 0] := by
  have hroot : paddedLibrary.root.Distinct := by
    refine Json.distinct_singleton _ (.arr fun item hitem => ?_)
    obtain rfl := List.mem_singleton.1 hitem
    exact Json.distinct_singleton _ (Json.distinct_singleton _
      (Json.distinct_singleton _ (Json.distinct_str _)))
  have hlocal : paddedLibrary.LocalOnly := by
    have hrefs : refsIn paddedLibrary.root = ["#/items/00"] := rfl
    unfold LocalOnly
    rw [hrefs]
    exact List.forall_mem_singleton.2 (by decide)
  have hrefers : paddedLibrary.Refers "" [("$ref", .str "#/items/00")] "#/items/00"
      ⟨"", ["items", "00"]⟩ paddedItem := ⟨rfl, by decide +kernel, rfl⟩
  obtain ⟨goal, -, hkept, -⟩ := kept_iff_enclosed hroot hlocal trail_padded rfl hrefers
  have hitem : paddedLibrary.Sits paddedSite ["items", "0"] [.name "items", .index 0] :=
    (Sits.root.member rfl rfl).item rfl rfl
  have houter : ⟨[paddedLibrary.rootSite.key], paddedSite⟩ ∈ paddedVisit :: paddedTrail :=
    List.mem_cons_of_mem _ (List.mem_cons_of_mem _ List.mem_cons_self)
  refine ⟨fun h => ?_, ⟨_, houter, rfl, _, hitem⟩⟩
  obtain ⟨outer, hmem, -, place, houter⟩ := hkept.1 h
  have hpointer := houter.pointer
  rcases List.mem_cons.1 hmem with rfl | hmem
  · exact absurd hpointer (by decide +kernel)
  · simp only [paddedTrail, List.mem_cons, List.not_mem_nil, or_false] at hmem
    rcases hmem with rfl | rfl | rfl | rfl <;> exact absurd hpointer (by decide +kernel)

end Library

end SchemaPress
