import SchemaPress.Proofs.Reference.Enclosing

/-!
# References that cannot be resolved

Inlining stops for one reason only: it comes to a reference that cannot be resolved. What a visit
comes to is unique (`Resolves.unique`), and a stop is handed from each visit to the one that made it,
so the schema as a whole stops with the first such reference and with nothing else
(`Resolves.exists_visit`, `Visits.stops`).

A reference into the document it stands in goes astray in three ways (`Json.Astray`): its fragment is no
pointer, a token of it leads to nothing, or a token is taken for the index of an item and has no value.
The last one is no `ReferenceError`. It is met with tokens that are made of digits some of which have
no place value, or that are more than 4300, and nothing else about a schema can crash the inlining.
-/

namespace SchemaPress

/-! ### Tokens that lead nowhere -/

/-- The value has nothing under the token: no member of that name, no item with that number, or no
parts at all. -/
def Json.Lacks : Json → String → Prop
  | .arr items, token =>
    Pointer.indexOf items.length token = .name ∨
      ∃ index, Pointer.indexOf items.length token = .index index ∧ items.length ≤ index
  | .obj members, token => Members.get? members token = none
  | _, _ => True

/-- The tokens of a reference, whatever document it leads into. -/
def Pointer.tokens? (ref : String) : Option (List String) :=
  ofFragment? ((Text.cutAt '#' ref.toList).2.getD [])

/-- **Astray.** In a document with this root, the reference leads nowhere, and this is what comes of
it. -/
inductive Json.Astray (root : Json) (ref : String) : Stop ReferenceError → Prop where
  | noPointer (htokens : Pointer.tokens? ref = none) : Astray root ref (.error (.fragment ref))
  | nothing {before after : List String} {token : String} {position : List Key} {value : Json}
      (htokens : Pointer.tokens? ref = some (before ++ token :: after))
      (hbefore : root.Locates before position value) (hlacks : value.Lacks token) :
      Astray root ref (.error (.dangling ref))
  | unreadable {before after : List String} {token : String} {position : List Key}
      {items : List Json} (htokens : Pointer.tokens? ref = some (before ++ token :: after))
      (hbefore : root.Locates before position (.arr items))
      (hindex : Pointer.indexOf items.length token = .unreadable) : Astray root ref (.crash .badValue)

namespace Library

variable {library : Library} {ref : String} {stop : Stop ReferenceError}

theorem step_eq_error_iff {token : String} {value : Json} :
    step ref token value = .error stop ↔
      stop = .error (.dangling ref) ∧ value.Lacks token ∨
      stop = .crash .badValue ∧ ∃ items, value = .arr items ∧
        Pointer.indexOf items.length token = .unreadable := by
  unfold step Json.Lacks
  cases value with
  | arr items =>
    cases hindex : Pointer.indexOf items.length token with
    | name => simp [hindex, @eq_comm _ stop]
    | unreadable => simp [hindex, @eq_comm _ stop]
    | index number =>
      cases hitem : items[number]? with
      | some item => simp [hindex, (List.getElem?_eq_some_iff.1 hitem).1]
      | none => simp [hindex, List.getElem?_eq_none_iff.1 hitem, @eq_comm _ stop]
  | obj members => cases hmember : Members.get? members token <;> simp [hmember, @eq_comm _ stop]
  | _ => simp [@eq_comm _ stop]

/-- A walk by tokens fails at the first of them that fails. -/
theorem steps_eq_error_iff {tokens : List String} {value : Json} :
    tokens.foldlM (fun value token => step ref token value) value = .error stop ↔
      ∃ before token after position inner, tokens = before ++ token :: after ∧
        value.Locates before position inner ∧ step ref token inner = .error stop := by
  constructor
  · intro h
    induction tokens generalizing value with
    | nil => cases h
    | cons token rest ih =>
      rw [List.foldlM_cons] at h
      cases hstep : step ref token value with
      | error cause =>
        rw [hstep] at h
        obtain rfl := Except.error.inj h
        exact ⟨[], token, rest, [], value, rfl, .here, hstep⟩
      | ok next =>
        rw [hstep] at h
        obtain ⟨before, last, after, position, inner, rfl, hbefore, hlast⟩ := ih h
        have hfirst : [token].foldlM (fun value token => step ref token value) value = .ok next := by
          rw [List.foldlM_cons, hstep]
          rfl
        obtain ⟨first, hnext⟩ := locates_of_steps hfirst
        exact ⟨token :: before, last, after, first ++ position, inner, rfl, hnext.append hbefore,
          hlast⟩
  · rintro ⟨before, token, after, position, inner, rfl, hbefore, hstep⟩
    rw [List.foldlM_append, steps_of_locates hbefore]
    change (token :: after).foldlM (fun value token => step ref token value) inner = .error stop
    rw [List.foldlM_cons, hstep]
    rfl

/-! ### Local references -/

theorem target_of_isLocal (hlocal : IsLocal ref) (document : String) :
    library.target document ref =
      match Pointer.tokens? ref with
      | none => .error (.error (.fragment ref))
      | some tokens => .ok ⟨document, tokens⟩ := by
  unfold IsLocal at hlocal
  unfold target Pointer.tokens?
  rcases hcut : Text.cutAt '#' ref.toList with ⟨location, fragment⟩
  rw [hcut] at hlocal
  obtain rfl : location = [] := hlocal
  simp only [isRemote, Bool.false_eq_true, if_false, List.isEmpty_nil, if_true]
  cases Pointer.ofFragment? (fragment.getD []) <;> rfl

/-- **The reference fails**, where it is written in a document: it names nothing, or what it names
is not there. -/
def Fails (library : Library) (document ref : String) (stop : Stop ReferenceError) : Prop :=
  library.target document ref = .error stop ∨
    ∃ target, library.target document ref = .ok target ∧ library.lookup target ref = .error stop

/-- A local reference in the schema fails if and only if it goes astray there. -/
theorem fails_iff_astray (hlocal : IsLocal ref) :
    library.Fails "" ref stop ↔ library.root.Astray ref stop := by
  have htarget := @target_of_isLocal library _ hlocal ""
  have hlookup (tokens : List String) : library.lookup ⟨"", tokens⟩ ref =
      tokens.foldlM (fun value token => step ref token value) library.root := rfl
  unfold Fails
  cases htokens : Pointer.tokens? ref with
  | none =>
    rw [htarget, htokens]
    constructor
    · rintro (h | ⟨target, h, -⟩)
      · obtain rfl := Except.error.inj h
        exact .noPointer htokens
      · cases h
    · rintro (_ | ⟨htokens', -, -⟩ | ⟨htokens', -, -⟩)
      · exact .inl rfl
      · exact absurd (htokens.symm.trans htokens') nofun
      · exact absurd (htokens.symm.trans htokens') nofun
  | some tokens =>
    rw [htarget, htokens]
    constructor
    · rintro (h | ⟨target, h, hfound⟩)
      · cases h
      · obtain rfl := Except.ok.inj h
        rw [hlookup, steps_eq_error_iff] at hfound
        obtain ⟨before, token, after, position, inner, rfl, hbefore, hstep⟩ := hfound
        rcases step_eq_error_iff.1 hstep with ⟨rfl, hlacks⟩ | ⟨rfl, items, rfl, hindex⟩
        · exact .nothing htokens hbefore hlacks
        · exact .unreadable htokens hbefore hindex
    · intro h
      refine .inr ⟨⟨"", tokens⟩, rfl, ?_⟩
      rw [hlookup, steps_eq_error_iff]
      cases h with
      | noPointer htokens' => exact absurd (htokens.symm.trans htokens') nofun
      | nothing htokens' hbefore hlacks =>
        obtain rfl := Option.some.inj (htokens.symm.trans htokens')
        exact ⟨_, _, _, _, _, rfl, hbefore, step_eq_error_iff.2 (.inl ⟨rfl, hlacks⟩)⟩
      | unreadable htokens' hbefore hindex =>
        obtain rfl := Option.some.inj (htokens.symm.trans htokens')
        exact ⟨_, _, _, _, _, rfl, hbefore, step_eq_error_iff.2 (.inr ⟨rfl, _, rfl, hindex⟩)⟩

/-! ### Stops are handed on -/

/-- Where one of the items stops, and those in front of it do not, the items stop. -/
theorem Resolves.items_stop {stack : List String} {document path : String} {start : Nat}
    {before after : List Json} {item done : Json}
    (hbefore : Resolves library (.items stack document path start before) (.ok done))
    (hitem : Resolves library
      (.node stack document (path ++ "/" ++ toString (start + before.length)) item)
      (.error stop)) :
    Resolves library (.items stack document path start (before ++ item :: after)) (.error stop) := by
  induction before generalizing start done with
  | nil => exact .itemFails hitem
  | cons first rest ih =>
    cases hbefore with
    | item hfirst hothers =>
      rw [List.length_cons, Nat.add_comm rest.length 1, ← Nat.add_assoc] at hitem
      exact .itemsFail hfirst (ih hothers hitem)

/-- Where one of the members stops, and those in front of it do not, the members stop. -/
theorem Resolves.members_stop {stack : List String} {document path : String}
    {before after : Members} {name : String} {value done : Json}
    (hbefore : Resolves library (.members stack document path before) (.ok done))
    (hmember : Resolves library (.node stack document (path ++ "/" ++ Pointer.escape name) value)
      (.error stop)) :
    Resolves library (.members stack document path (before ++ (name, value) :: after))
      (.error stop) := by
  induction before generalizing done with
  | nil => exact .memberFails hmember
  | cons first rest ih =>
    cases hbefore with
    | member hfirst hothers => exact .membersFail hfirst (ih hothers)

/-- **What stops a visit stops the one that made it.** -/
theorem Enters.stops {visit next : Visit} (h : Enters library visit next)
    (hnext : Resolves library next.call (.error stop)) :
    Resolves library visit.call (.error stop) := by
  unfold Visit.call at hnext ⊢
  cases h with
  | item hnode hbefore =>
    rw [hnode]
    refine .array (hbefore.items_stop ?_)
    rw [Nat.zero_add]
    exact hnext
  | member hnode href hbefore =>
    rw [hnode]
    exact .object href (hbefore.members_stop hnext)
  | target hnode hrefers hnew =>
    rw [hnode]
    exact .targetFails hrefers hnew hnext
  | beside hnode hrefers hnew hinner hbefore =>
    rw [hnode]
    exact .siblingsFail hrefers hnew hinner (hbefore.members_stop hnext)

/-- So it stops the inlining of the schema. -/
theorem Visits.stops {visit : Visit} (h : Visits library visit)
    (hvisit : Resolves library visit.call (.error stop)) :
    Resolves library library.rootVisit.call (.error stop) := by
  induction h with
  | root => exact hvisit
  | enter _ henter ih => exact ih (henter.stops hvisit)

/-! ### What stops an inlining -/

/-- **A reference stops the inlining**: a visit comes to it, and it fails. -/
def StopsAt (library : Library) (visit : Visit) (ref : String) (stop : Stop ReferenceError) : Prop :=
  Visits library visit ∧ visit.site.node.ref? = some ref ∧
    library.Fails visit.site.document ref stop

/-- **Nothing but a reference stops an inlining**, by induction on the derivation of the stop. -/
theorem Resolves.exists_stopsAt {call : Call} {result : Except (Stop ReferenceError) Json}
    (h : Resolves library call result) (hvisited : call.All library (Visits library))
    (hresult : result = .error stop) : ∃ visit ref, library.StopsAt visit ref stop := by
  induction h with
  | leaf | backEdge | targetValue | merged | noItem | item | noMember | member => cases hresult
  | array _ ih => exact ih (.of_array fun _ => .enter hvisited) hresult
  | object href _ ih => exact ih (.of_object (fun _ => .enter hvisited) href) hresult
  | noTarget href htarget =>
    obtain rfl := Except.error.inj hresult
    exact ⟨_, _, hvisited, href, .inl htarget⟩
  | notFound href htarget hfound =>
    obtain rfl := Except.error.inj hresult
    exact ⟨_, _, hvisited, href, .inr ⟨_, htarget, hfound⟩⟩
  | targetFails hrefers hnew _ ih => exact ih (.enter hvisited (.follow hrefers hnew)) hresult
  | siblingsFail hrefers hnew inner _ _ ihBeside =>
    exact ihBeside (.of_beside (fun _ => .enter hvisited) hrefers hnew inner) hresult
  | itemFails _ ih => exact ih hvisited.first_item hresult
  | itemsFail first _ _ ihOthers => exact ihOthers (hvisited.other_items first) hresult
  | memberFails _ ih => exact ih hvisited.first_member hresult
  | membersFail first _ _ ihOthers => exact ihOthers (hvisited.other_members first) hresult

/-- **A schema cannot be inlined if and only if a visit comes to a reference that fails.** -/
theorem dereference_eq_error_iff (hends : Ends library.dereference) :
    library.dereference = .error stop ↔ ∃ visit ref, library.StopsAt visit ref stop := by
  have hresolves := resolves_of_dereference hends
  constructor
  · exact fun h => hresolves.exists_stopsAt .root h
  · rintro ⟨visit, ref, hvisit, href, hfails⟩
    have hstops : Resolves library visit.call (.error stop) := by
      obtain ⟨stack, document, pointer, node⟩ := visit
      cases node with
      | obj members =>
        rcases hfails with htarget | ⟨target, htarget, hfound⟩
        · exact .noTarget href htarget
        · exact .notFound href htarget hfound
      | _ => cases href
    exact hresolves.unique (hvisit.stops hstops)

/-- **The inlining comes to a reference**: it visits an object that stands for it. -/
def ComesTo (library : Library) (ref : String) : Prop :=
  ∃ visit, Visits library visit ∧ visit.site.node.ref? = some ref

/-- Where all references are local, a reference that the inlining comes to fails if and only if it
goes astray in the schema. -/
theorem exists_stopsAt_iff (hroot : library.root.Distinct) (hlocal : library.LocalOnly) :
    (∃ visit ref, library.StopsAt visit ref stop) ↔
      ∃ ref, library.ComesTo ref ∧ library.root.Astray ref stop := by
  have hfails {visit : Visit} {ref : String} (hvisit : Visits library visit)
      (href : visit.site.node.ref? = some ref) :
      library.Fails visit.site.document ref stop ↔ library.root.Astray ref stop := by
    obtain ⟨around, htrail⟩ := hvisit.trail
    obtain ⟨tokens, position, hsits⟩ := htrail.sits hroot hlocal
    have hmem : ref ∈ refsIn visit.site.node := by
      cases hnode : visit.site.node with
      | obj members =>
        rw [hnode] at href
        exact mem_refsIn_of_ref? href
      | _ =>
        rw [hnode] at href
        cases href
    rw [hsits.document]
    exact fails_iff_astray (hlocal ref (refsIn_of_part hsits.locates.isPart hmem))
  constructor
  · rintro ⟨visit, ref, hvisit, href, h⟩
    exact ⟨ref, ⟨visit, hvisit, href⟩, (hfails hvisit href).1 h⟩
  · rintro ⟨ref, ⟨visit, hvisit, href⟩, h⟩
    exact ⟨visit, ref, hvisit, href, (hfails hvisit href).2 h⟩

/-- **What becomes of references that lead nowhere.** Take a schema all of whose references are local
and whose inlining ends. It stops if and only if it comes to a reference that goes astray, and what
it stops with is said by the way in which that reference does. So it comes to a result or to a
`ReferenceError`, unless it comes to a reference with a token that is taken for the index of an item
and is made of digits without a value or of too many digits. -/
theorem dereference_astray (hroot : library.root.Distinct) (hlocal : library.LocalOnly)
    (hbase : ∀ base, library.base = some base → base.Proper) (hexpands : library.Expands) :
    (∀ stop, library.dereference = .error stop ↔
      ∃ ref, library.ComesTo ref ∧ library.root.Astray ref stop) ∧
    ((∀ ref, library.ComesTo ref → ¬ library.root.Astray ref (.crash .badValue)) →
      (∃ value, library.dereference = .ok value) ∨
      ∃ ref, library.ComesTo ref ∧ (library.dereference = .error (.error (.fragment ref)) ∨
        library.dereference = .error (.error (.dangling ref)))) := by
  have hiff (stop : Stop ReferenceError) : library.dereference = .error stop ↔
      ∃ ref, library.ComesTo ref ∧ library.root.Astray ref stop :=
    (dereference_eq_error_iff ((ends_iff_expands hbase).2 hexpands)).trans (exists_stopsAt_iff hroot hlocal)
  refine ⟨hiff, fun hreadable => ?_⟩
  cases hresult : library.dereference with
  | ok value => exact .inl ⟨value, rfl⟩
  | error stop =>
    obtain ⟨ref, hcomes, hastray⟩ := (hiff stop).1 hresult
    refine .inr ⟨ref, hcomes, ?_⟩
    cases hastray with
    | noPointer => exact .inl rfl
    | nothing => exact .inr rfl
    | unreadable htokens hbefore hindex =>
      exact absurd (.unreadable htokens hbefore hindex) (hreadable ref hcomes)

/-- `{"items": [1], "x": {"$ref": "#/items/²"}}`. -/
def figure : Library where
  root := .obj [("items", .arr [.int 1]), ("x", .obj [("$ref", .str "#/items/²")])]
  base := none
  tree := .empty

/-- **A superscript crashes the inlining.** -/
theorem dereference_astray_figure :
    figure.LocalOnly ∧ figure.dereference = .error (.crash .badValue) := by
  have hroot : figure.root.Distinct := by
    have hitem : (Json.int 1).Distinct := .leaf nofun nofun
    refine .cons (by decide) (.arr fun item hmem => List.mem_singleton.1 hmem ▸ hitem) ?_
    exact Json.distinct_singleton _ (Json.distinct_singleton _ (Json.distinct_str _))
  have hlocal : figure.LocalOnly := by
    unfold LocalOnly
    rw [show refsIn figure.root = ["#/items/²"] from rfl]
    exact List.forall_mem_singleton.2 (by decide)
  have htokens : Pointer.tokens? "#/items/²" = some (["items"] ++ "²" :: []) := by decide +kernel
  have hindex : Pointer.indexOf [Json.int 1].length "²" = .unreadable := rfl
  have hitems : figure.root.Locates ["items"] [.name "items"] (.arr [.int 1]) := .member rfl .here
  -- the walk gets through the array, and the lookup of the reference stops it
  have hexpands : figure.Expands := by
    have htarget : figure.target "" "#/items/²" = .ok ⟨"", ["items", "²"]⟩ := by decide +kernel
    have hfound : figure.lookup ⟨"", ["items", "²"]⟩ "#/items/²" = .error (.crash .badValue) := rfl
    exact ⟨_, .object rfl (.membersFail (.array (.item (.leaf nofun nofun) .noItem))
      (.memberFails (.notFound rfl htarget hfound)))⟩
  have henter := @Enters.member figure [] figure.rootSite [("items", .arr [.int 1])] [] "x"
    (.obj [("$ref", .str "#/items/²")]) _ rfl rfl
    (.member (.array (.item (.leaf nofun nofun) .noItem)) .noMember)
  have hcomes : figure.ComesTo "#/items/²" := ⟨_, .enter .root henter, rfl⟩
  have hastray : figure.root.Astray "#/items/²" (.crash .badValue) :=
    .unreadable htokens hitems hindex
  exact ⟨hlocal, ((dereference_astray hroot hlocal nofun hexpands).1 _).2 ⟨_, hcomes, hastray⟩⟩

end Library

end SchemaPress
