import SchemaPress.Proofs.Analysis.BackEdge
import SchemaPress.Proofs.Analysis.Sharing
import SchemaPress.Proofs.Reference.Position
import SchemaPress.Proofs.Reference.Context

/-!
# A definition and its uses share a declaration

Definitions are inlined where they stand and wherever they are referred to, each time in another
context, and titles are given to them in two places: a reference names its target
(`Library.merge`), and the analysis names a definition (`titled`). As long as no back edge is left,
all of them come to the same value (`definition_declared_once`), and so to one declaration.
-/

namespace SchemaPress

namespace Library

variable {library : Library}

/-- Names lead to the members of objects. -/
theorem steps_of_at? {ref : String} {names : List String} {value part : Json}
    (h : value.at? (names.map .name) = some part) :
    names.foldlM (fun value token => step ref token value) value = .ok part := by
  induction names generalizing value with
  | nil =>
    obtain rfl := Option.some.inj h
    rfl
  | cons name rest ih =>
    rw [List.map_cons, Json.at?_cons] at h
    obtain ⟨next, hnext, hrest⟩ := Option.bind_eq_some_iff.1 h
    cases value with
    | obj members =>
      have hmember : Members.get? members name = some next := Json.at?_name.symm.trans hnext
      rw [List.foldlM_cons]
      simp only [step, hmember]
      exact ih hrest
    | _ => cases hnext

theorem lookup_of_at? (names : List String) {part : Json}
    (h : library.root.at? (names.map .name) = some part) (ref : String) :
    library.lookup ⟨"", names⟩ ref = .ok part :=
  steps_of_at? h

/-- Without a reference in a value, nothing in it is a back edge. -/
theorem whole_of_free (hroot : library.root.Distinct) {result : Json}
    (hresult : library.dereference = .ok result) (hfree : refsIn result = []) :
    library.Whole library.rootVisit result := by
  rintro path ⟨last, members, ref, target, found, hstands, hnode, hrefers, hopen⟩
  cases hvalue : result.at? path with
  | none => rfl
  | some value =>
    have hleaves : library.Leaves path ref target :=
      ⟨last, members, found, hstands, hnode, hrefers, hopen⟩
    have href := hleaves.ref? hroot hresult hvalue
    cases value with
    | obj others =>
      have hmem := refsIn_of_part (Json.locates_of_at? hvalue).isPart (mem_refsIn_of_ref? href)
      rw [hfree] at hmem
      cases hmem
    | _ => cases href

end Library

namespace Analysis

/-- Whoever gives the title, a definition has the same one. -/
theorem merge_eq_titled (target : Target) (found : Json) {name : String} {members : Members}
    (hname : name ≠ "") (hlast : target.tokens.getLast? = some name)
    (h : Library.nameOf target found = .str target.fallbackName ∨ members.get? "title" ≠ none) :
    Json.obj (Library.merge (Library.nameOf target found) members []) = titled name (.obj members) := by
  have hfallback : target.fallbackName = name := by
    unfold Target.fallbackName
    rw [hlast, Option.getD_some, if_neg (by simpa using hname)]
  have hmerge (title : Json) : Library.merge title members [] =
      if title.isTruthy then members.putIfAbsent "title" title else members := rfl
  rw [hmerge, titled]
  rcases h with h | h
  · have htruthy : (Json.str name).isTruthy = true := by simpa [Json.isTruthy] using hname
    rw [h, hfallback, if_pos htruthy]
  -- no title is added to one that is there
  · have hhas : members.has "title" = true := by
      rw [Members.has_eq_isSome]
      exact Option.isSome_iff_ne_none.2 h
    simp only [Members.putIfAbsent, hhas, if_true, ite_self]

/-! ### What is told of an entry of the agenda -/

/-- A schema is told to be of the type that its walk comes to. -/
theorem Derives.typed_mem {schema : Schema} {hint : Json} {type : TypeRef} {state state' : State}
    {log : List Event} (h : Derives (.schema schema hint) state log (.type type) state') :
    .typed schema type ∈ log := by
  cases h with
  | backEdge => exact List.mem_cons_of_mem _ List.mem_cons_self
  | shared => exact List.mem_cons_of_mem _ List.mem_cons_self
  | several => exact List.mem_append_right _ (List.mem_cons_of_mem _ List.mem_cons_self)
  | _ => exact List.mem_append_right _ List.mem_cons_self

/-- **Every object on the agenda is told of.** -/
theorem Defines.typed_mem {agenda : List (Json × Json)} {state state' : State} {log : List Event}
    (h : Defines agenda state log state') {members : Members} {hint : Json}
    (hmem : (.obj members, hint) ∈ agenda) : ∃ type, .typed ⟨members, none⟩ type ∈ log := by
  have hwalk {type : TypeRef} {state state' : State} {log : List Event}
      (h : Derives (.value (.obj members) hint) state log (.type type) state') :
      .typed ⟨members, none⟩ type ∈ log := by
    cases h with
    | other hvalue => exact absurd rfl (hvalue members)
    | object parts => exact parts.typed_mem
  induction h with
  | done => cases hmem
  | declared walk others ih =>
    rcases List.mem_cons.1 hmem with heq | hmem
    · cases heq
      exact ⟨_, List.mem_append_left _ (hwalk walk)⟩
    · exact (ih hmem).imp fun _ h => List.mem_append_right _ h
  | known walk hkey hname others ih =>
    rcases List.mem_cons.1 hmem with heq | hmem
    · cases heq
      exact ⟨_, List.mem_append_left _ (hwalk walk)⟩
    · exact (ih hmem).imp fun _ h => List.mem_append_right _ (List.mem_cons_of_mem _ h)
  | fresh walk hkey hnone hbase hname others ih =>
    rcases List.mem_cons.1 hmem with heq | hmem
    · cases heq
      exact ⟨_, List.mem_append_left _ (hwalk walk)⟩
    · exact (ih hmem).imp fun _ h => List.mem_append_right _ (List.mem_cons_of_mem _ h)

/-- Definitions are on the agenda under their names. -/
theorem mem_agenda_of_definition {schema : Json} {container name : String} {value : Json}
    (hcontainer : container ∈ ["definitions", "$defs"])
    (h : schema.at? [.name container, .name name] = some value) :
    (titled name value, .str name) ∈ agenda [schema] := by
  refine List.mem_append_right _ (List.mem_map.2 ⟨(name, value), ?_, rfl⟩)
  refine List.mem_flatMap.2 ⟨schema, List.mem_singleton_self _, ?_⟩
  refine List.mem_flatMap.2 ⟨container, hcontainer, ?_⟩
  rw [Json.at?_cons] at h
  obtain ⟨definitions, hdefinitions, h⟩ := Option.bind_eq_some_iff.1 h
  cases definitions with
  | obj members =>
    have hget : schema.get? container = some (.obj members) := by
      cases schema with
      | obj outer => exact Json.at?_name.symm.trans hdefinitions
      | _ => cases hdefinitions
    rw [hget]
    exact Members.mem_of_get? (Json.at?_name.symm.trans h)
  | _ => cases h

/-- **One declaration for a schema**: wherever the analysis met the schema, it came to this name, and one
declaration has it. -/
structure DeclaredOnce (log : List Event) (catalog : Catalog) (schema : Schema) (name : String) : Prop where
  met : .typed schema (.named name false) ∈ log
  same : ∀ type, .typed schema type ∈ log → type = .named name false
  single : ∃ declaration ∈ catalog, declaration.name = name ∧
    ∀ other ∈ catalog, other.name = name → other = declaration

/-- A schema that gets a declaration and is met gets one. -/
theorem Defines.declaredOnce {schemas : List Json} {log : List Event} {state : State}
    (h : Defines (agenda schemas) {} log state) {schema landed : Schema} {type : TypeRef}
    (hmet : .typed schema type ∈ log) (hlands : Lands schema landed) :
    ∃ name, DeclaredOnce log state.declarations schema name := by
  have hholds := (h.told nofun).2
  have hnaming := h.naming .nil
  obtain ⟨haccounted, hbuilding⟩ := h.accounted .nil
  have htold (type : TypeRef) (hmem : .typed schema type ∈ log) :
      ∃ name, type = .named name false ∧ IsKnown state.known landed name := by
    cases hholds _ hmem with
    | declared hlands' hknown =>
      obtain rfl := hlands.unique hlands'
      exact ⟨_, rfl, hknown⟩
    | other hno => exact absurd hlands (hno landed)
  obtain ⟨name, rfl, key, hkey, hname⟩ := htold type hmet
  refine ⟨name, hmet, fun type hmem => ?_, ?_⟩
  -- the structure is known under one name
  · obtain ⟨name', rfl, key', hkey', hname'⟩ := htold type hmem
    obtain rfl := Except.ok.inj (hkey.symm.trans hkey')
    rw [hnaming.single _ _ _ hname hname']
  · obtain ⟨declaration, hdeclared, rfl⟩ := (h.sorted nofun .nil).1 _ _ hname
    have hnodup : (state.declarations.map Declaration.name).Nodup := by
      have hnames := haccounted.names
      rw [hbuilding] at hnames
      exact hnames.nodup_iff.1 haccounted.nodup
    exact ⟨declaration, hdeclared, rfl, fun other hother heq =>
      List.inj_on_of_nodup_map hnodup hother hdeclared heq⟩

/-- **A definition and its uses share a declaration.** Take a schema that is dereferenced without a back
edge in the result, and an object among its definitions. A node that is nothing but a reference to it is
inlined to the definition under its name, where the node stands and wherever else it is inlined without
leaving a back edge. If that needs a declaration, it is met, wherever it is met it comes to one name, and
there is one declaration of this name. -/
theorem definition_declared_once {library : Library} (hroot : library.root.Distinct)
    {result : Json} (hresult : library.dereference = .ok result)
    (hwhole : library.Whole library.rootVisit result) {container name : String}
    {definition members : Members} (hcontainer : container ∈ ["definitions", "$defs"])
    (hname : name ≠ "")
    (hdefinition : library.root.at? [.name container, .name name] = some (.obj definition))
    (hmembers : result.at? [.name container, .name name] = some (.obj members)) :
    (∀ ref, library.target "" ref = .ok ⟨"", [container, name]⟩ →
      (∀ position value, library.root.at? position = some (.obj [("$ref", .str ref)]) →
        result.at? position = some value → value = titled name (.obj members)) ∧
      ∀ visit value, visit.site.document = "" → visit.site.node = .obj [("$ref", .str ref)] →
        Library.Resolves library visit.call (.ok value) → library.Whole visit value →
        value = titled name (.obj members)) ∧
    ∀ catalog landed, analyze [result] = .ok catalog →
      Lands ⟨members.putIfAbsent "title" (.str name), none⟩ landed →
      ∃ log state declared, Defines (agenda [result]) {} log state ∧ state.declarations = catalog ∧
        DeclaredOnce log catalog ⟨members.putIfAbsent "title" (.str name), none⟩ declared := by
  have hends : Library.Ends library.dereference := by
    rw [hresult]
    exact nofun
  have hresolves : Library.Resolves library library.rootVisit.call (.ok result) :=
    hresult ▸ Library.resolves_of_dereference hends
  constructor
  · intro ref htarget
    obtain ⟨own, hdocument, hnode, hown, hwholeOwn⟩ :=
      hresolves.at_position hroot hwhole hdefinition hmembers
    have hfound : library.lookup ⟨"", [container, name]⟩ ref = .ok (.obj definition) :=
      Library.lookup_of_at? [container, name] hdefinition ref
    have hrefers : library.Refers "" [("$ref", .str ref)] ref ⟨"", [container, name]⟩
        (.obj definition) := ⟨rfl, htarget, hfound⟩
    have huse (visit : Library.Visit) (value : Json) (hempty : visit.site.document = "")
        (huse : visit.site.node = .obj [("$ref", .str ref)])
        (h : Library.Resolves library visit.call (.ok value))
        (hwholeUse : library.Whole visit value) : value = titled name (.obj members) := by
      rw [← merge_eq_titled ⟨"", [container, name]⟩ (.obj definition) hname rfl]
      · exact Library.Resolves.of_alone huse (hempty ▸ hrefers) hroot hdocument hnode h hwholeUse
          hown hwholeOwn
      -- a name that is no text is the title of the definition, which its value has then
      · unfold Library.Visit.call at hown
        rw [hnode] at hown
        exact Library.nameOf_text_or_titled _ (Library.distinct_lookup hroot hfound) hown
    refine ⟨fun position value hposition hvalue => ?_, huse⟩
    obtain ⟨last, hdocument, hnode, hlast, hwholeLast⟩ :=
      hresolves.at_position hroot hwhole hposition hvalue
    exact huse last value hdocument hnode hlast hwholeLast
  · intro catalog landed hcatalog hlands
    obtain ⟨log, state, hdefines, rfl⟩ := defines_of_analyze hcatalog
    obtain ⟨type, htyped⟩ := hdefines.typed_mem (mem_agenda_of_definition hcontainer hmembers)
    obtain ⟨declared, honce⟩ := hdefines.declaredOnce htyped hlands
    exact ⟨log, state, declared, hdefines, rfl, honce⟩

/-! ### A constant that is defined and used -/

/-- `{"$defs": {"A": {"const": null}}, "items": {"$ref": "#/$defs/A"}}`. -/
def usedSchema : Json :=
  .obj [("$defs", .obj [("A", .obj [("const", .null)])]),
    ("items", .obj [("$ref", .str "#/$defs/A")])]

/-- The members of the schema once it is dereferenced. -/
def usedMembers : Members :=
  [("$defs", .obj [("A", .obj [("const", .null)])]),
    ("items", .obj [("const", .null), ("title", .str "A")])]

/-- Its catalog: the constant is declared once. -/
def usedCatalog : Catalog :=
  [⟨"A", "", .enum [.null]⟩, ⟨"Schema", "", .alias (.array (.named "A" false))⟩]

/-- The structure of the schema once it is dereferenced. -/
def usedText : String :=
  "\x7b\"$defs\": \x7b\"A\": \x7b\"const\": null\x7d\x7d, " ++
    "\"items\": \x7b\"const\": null, \"title\": \"A\"\x7d\x7d"

/-- What is known after the use: the structure of the constant. -/
def usedKnown : List (String × String) :=
  [("\x7b\"const\": null, \"title\": \"A\"\x7d", "A")]

theorem analyze_used : analyze [.obj usedMembers] = .ok usedCatalog := by
  have hkey : Schema.structureText ⟨[("const", .null), ("title", .str "A")], none⟩ =
      .ok "\x7b\"const\": null, \"title\": \"A\"\x7d" := by cbv
  have hroot : Schema.structureText ⟨usedMembers, none⟩ = .ok usedText := by cbv
  have htitle : baseName (.str "A") (.str "Schema Item") = .ok "A" := by
    unfold baseName
    simp only [show Name.ofType "A" = "A" by decide +kernel]
    rfl
  have hbase : baseName .null (.str "Schema") = .ok "Schema" :=
    baseName_of_hint (fun text heq => by cases heq) (by decide +kernel) (by decide +kernel)
  -- the use is met first, as the items of the schema
  have hitems : typeRef (.obj [("const", .null), ("title", .str "A")]) (.str "Schema Item") {} =
      .ok (.named "A" false, ⟨[⟨"A", "", .enum [.null]⟩], ["A"], usedKnown, []⟩) := by
    have hfresh : Name.fresh ({} : State).names "A" = "A" := by decide +kernel
    rw [typeRef, schemaRef_enum (fun ref h => by cases h) rfl,
      bind_of_ok (enter_of_base hkey rfl htitle), hfresh]
    rfl
  have hschema : typeRef (.obj usedMembers) (.str "Schema") {} =
      .ok (.array (.named "A" false), ⟨[⟨"A", "", .enum [.null]⟩], ["A"], usedKnown, []⟩) := by
    have hopen : IsOpen ⟨usedMembers, none⟩ := ⟨fun ref h => (by cases h), rfl, rfl⟩
    rw [typeRef, schemaRef_open hopen]
    change plainRef _ _ .null _ = _
    rw [plainRef_eq]
    change (typeRef _ (itemHint (.str "Schema")) >>= _) _ = _
    rw [show itemHint (.str "Schema") = .str "Schema Item" from rfl, bind_of_ok hitems]
    rfl
  have hdefine : define (.obj usedMembers) (.str "Schema") {} =
      .ok ((), ⟨usedCatalog, ["Schema", "A"], (usedText, "Schema") :: usedKnown, []⟩) := by
    have hfresh : Name.fresh ["A"] "Schema" = "Schema" := by decide +kernel
    unfold define
    rw [bind_of_ok hschema]
    change (orCrash (Schema.structureText ⟨usedMembers, none⟩) >>= _) _ = _
    rw [bind_of_ok (orCrash_of_ok hroot),
      bind_of_ok (nameOf?_of_lookup (show usedKnown.lookup usedText = none by decide))]
    change (reserve .null (.str "Schema") >>= _) _ = _
    rw [bind_of_ok (reserve_of_base hbase _), hfresh]
    rfl
  -- the definition is known by then
  have hrest (state : State) (hknown : state.known = (usedText, "Schema") :: usedKnown) :
      define (.obj [("const", .null), ("title", .str "A")]) (.str "A") state = .ok ((), state) := by
    have htype : typeRef (.obj [("const", .null), ("title", .str "A")]) (.str "A") state =
        .ok (.named "A" false, state) := by
      rw [typeRef, schemaRef_enum (fun ref h => by cases h) rfl,
        bind_of_ok (enter_of_known hkey (show state.known.lookup _ = some "A" by rw [hknown]; decide))]
      rfl
    unfold define
    rw [bind_of_ok htype]
    rfl
  unfold analyze
  change ((define (.obj usedMembers) (.str "Schema") >>= fun _ => pure ()) >>= fun _ =>
    define (.obj [("const", .null), ("title", .str "A")]) (.str "A") >>= fun _ => pure ()) {} >>= _ = _
  rw [bind_of_ok (bind_of_ok hdefine), bind_of_ok (hrest _ rfl)]
  rfl

theorem dereference_used : (Library.alone usedSchema).dereference = .ok (.obj usedMembers) := by
  have hrefers : (Library.alone usedSchema).Refers "" [("$ref", .str "#/$defs/A")] "#/$defs/A"
      ⟨"", ["$defs", "A"]⟩ (.obj [("const", .null)]) := ⟨rfl, by decide +kernel, rfl⟩
  -- the definitions have no reference in them, so they stay as they are
  have hconstant (stack : List String) (path : String) :
      Library.Resolves (Library.alone usedSchema) (.node stack "" path (.obj [("const", .null)]))
        (.ok (.obj [("const", .null)])) := .object rfl (.member (.leaf nofun nofun) .noMember)
  have huse : Library.Resolves (Library.alone usedSchema)
      (.node ["#"] "" "/items" (.obj [("$ref", .str "#/$defs/A")]))
        (.ok (.obj [("const", .null), ("title", .str "A")])) :=
    .merged hrefers (by decide +kernel) (hconstant _ _) (.member (.leaf nofun nofun) .noMember)
  refine Library.dereference_of_resolves (fun base hbase => by cases hbase) ?_
  refine .object rfl (.member (.object rfl (.member (hconstant _ _) .noMember)) (.member ?_ .noMember))
  rw [show Target.placeKey "" "" = "#" by decide +kernel,
    show "" ++ "/" ++ Pointer.escape "items" = "/items" by decide +kernel]
  exact huse

theorem distinct_used : usedSchema.Distinct :=
  .cons (by decide)
    (Json.distinct_singleton _ (Json.distinct_singleton _ (.leaf nofun nofun)))
    (Json.distinct_singleton _ (Json.distinct_singleton _ (Json.distinct_str _)))

/-- The items are the constant under its name, and both are declared as one. -/
theorem definition_declared_once_used :
    (Library.alone usedSchema).dereference = .ok (.obj usedMembers) ∧
    (Json.obj usedMembers).at? [.name "items"] = some (titled "A" (.obj [("const", .null)])) ∧
    ∃ log state declared, Defines (agenda [.obj usedMembers]) {} log state ∧
      state.declarations = usedCatalog ∧
      DeclaredOnce log usedCatalog ⟨[("const", .null), ("title", .str "A")], none⟩ declared := by
  have hwhole : (Library.alone usedSchema).Whole (Library.alone usedSchema).rootVisit
      (.obj usedMembers) := Library.whole_of_free distinct_used dereference_used rfl
  have hdefinition : (Library.alone usedSchema).root.at? [.name "$defs", .name "A"] =
      some (.obj [("const", .null)]) := rfl
  have hmembers : (Json.obj usedMembers).at? [.name "$defs", .name "A"] =
      some (.obj [("const", .null)]) := rfl
  have huse : (Library.alone usedSchema).root.at? [.name "items"] =
      some (.obj [("$ref", .str "#/$defs/A")]) := rfl
  have hitems : (Json.obj usedMembers).at? [.name "items"] =
      some (.obj [("const", .null), ("title", .str "A")]) := rfl
  have hcontainer : "$defs" ∈ ["definitions", "$defs"] := by decide
  obtain ⟨huses, hdeclared⟩ := definition_declared_once distinct_used dereference_used hwhole
    hcontainer (by decide) hdefinition hmembers
  refine ⟨dereference_used, ?_,
    hdeclared usedCatalog _ analyze_used (.enum (fun ref h => by cases h) rfl)⟩
  rw [hitems, (huses "#/$defs/A" (by decide +kernel)).1 _ _ huse hitems]

end Analysis

end SchemaPress
