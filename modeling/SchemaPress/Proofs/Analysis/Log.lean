import SchemaPress.Proofs.Analysis.Naming

/-!
# What the log of a walk tells

The log of a derivation tells which schema came to which type and where a back edge was taken to
lead. What it tells is true of the structures that are known in the end (`Derives.told`,
`Defines.told`): a schema that comes to a declaration has the name that its structure is known
under, and while a back edge is resolved, each declaration being built is that of a schema with
the title on record.

A declaration is not always made for the schema that was walked but for what its `allOf` was
folded to. `Lands` says for which, if any.

The other way round, nothing in a catalog refers back without an entry in the log
(`Defines.refersBack`).
-/

namespace SchemaPress.Analysis

/-! ### Which schemas get a declaration -/

/-- **The schema that a declaration is made for**: the schema itself, or what its `allOf` comes
to. -/
inductive Lands : Schema → Schema → Prop where
  | enum {schema : Schema} (href : ∀ ref, schema.get? "$ref" ≠ some (.str ref))
      (henum : (schema.has "enum" || schema.has "const") = true) : Lands schema schema
  | union {schema : Schema} (href : ∀ ref, schema.get? "$ref" ≠ some (.str ref))
      (henum : (schema.has "enum" || schema.has "const") = false)
      (hunion : (schema.has "oneOf" || schema.has "anyOf") = true) : Lands schema schema
  | allOf {schema merged landed : Schema} {allOf : Json} (hopen : IsOpen schema)
      (hget : schema.get? "allOf" = some allOf) (hmerge : schema.mergeAllOf allOf = .ok merged)
      (rest : Lands merged landed) : Lands schema landed
  | several {schema : Schema} {types : List Json} (hopen : IsOpen schema)
      (hget : schema.get? "allOf" = none) (htypes : typesOf schema = .inr types) :
      Lands schema schema
  | record {schema : Schema} {type : Json} (hopen : IsOpen schema)
      (hget : schema.get? "allOf" = none) (htypes : typesOf schema = .inl type)
      (hlike : isObjectLike schema type = true) (hfields : hasFields schema = true) :
      Lands schema schema

/-- A back edge gets no declaration. -/
theorem Lands.no_ref {schema landed : Schema} (h : Lands schema landed) (ref : String) :
    schema.get? "$ref" ≠ some (.str ref) := by
  cases h with
  | enum href => exact href ref
  | union href => exact href ref
  | allOf hopen => exact hopen.ref ref
  | several hopen => exact hopen.ref ref
  | record hopen => exact hopen.ref ref

/-- Where an `allOf` is folded, the declaration is that of what it comes to. -/
theorem Lands.of_allOf {schema merged landed : Schema} {allOf : Json} (hopen : IsOpen schema)
    (hget : schema.get? "allOf" = some allOf) (hmerge : schema.mergeAllOf allOf = .ok merged)
    (h : Lands schema landed) : Lands merged landed := by
  -- an open schema has its declaration by one of the last three rules
  cases h with
  | enum _ henum => exact absurd (henum.symm.trans hopen.enum) nofun
  | union _ _ hunion => exact absurd (hunion.symm.trans hopen.union) nofun
  | allOf _ hget' hmerge' rest =>
    obtain rfl := Option.some.inj (hget.symm.trans hget')
    obtain rfl := Except.ok.inj (hmerge.symm.trans hmerge')
    exact rest
  | several _ hnone => exact absurd (hget.symm.trans hnone) nofun
  | record _ hnone => exact absurd (hget.symm.trans hnone) nofun

/-- A schema of one type gets a declaration for its properties only. -/
theorem Lands.of_sole {schema landed : Schema} {type : Json} (hopen : IsOpen schema)
    (hget : schema.get? "allOf" = none) (htypes : typesOf schema = .inl type)
    (h : Lands schema landed) :
    (isObjectLike schema type = true ∧ hasFields schema = true) ∧ landed = schema := by
  cases h with
  | enum _ henum => exact absurd (henum.symm.trans hopen.enum) nofun
  | union _ _ hunion => exact absurd (hunion.symm.trans hopen.union) nofun
  | allOf _ hsome => exact absurd (hsome.symm.trans hget) nofun
  | several _ _ htypes' => exact absurd (htypes.symm.trans htypes') nofun
  | record _ _ htypes' hlike hfields =>
    obtain rfl := Sum.inl.inj (htypes.symm.trans htypes')
    exact ⟨⟨hlike, hfields⟩, rfl⟩

/-- A schema gets one declaration. -/
theorem Lands.unique {schema landed landed' : Schema} (h : Lands schema landed)
    (h' : Lands schema landed') : landed = landed' := by
  induction h with
  | enum _ henum =>
    cases h' with
    | allOf hopen => exact absurd (henum.symm.trans hopen.enum) nofun
    | _ => rfl
  | union _ _ hunion =>
    cases h' with
    | allOf hopen => exact absurd (hunion.symm.trans hopen.union) nofun
    | _ => rfl
  | allOf hopen hget hmerge rest ih => exact ih (h'.of_allOf hopen hget hmerge)
  | several _ hget =>
    cases h' with
    | allOf _ hget' => exact absurd (hget'.symm.trans hget) nofun
    | _ => rfl
  | record hopen hget htypes => exact (h'.of_sole hopen hget htypes).2.symm

/-! ### What is true of an entry -/

/-- The structure of a schema is known under this name. -/
def IsKnown (known : List (String × String)) (schema : Schema) (name : String) : Prop :=
  ∃ key, schema.structureText = .ok key ∧ (key, name) ∈ known

/-- **The type of a schema.** A schema with a declaration has the name of that; any other one has a
type that is no declared one, back edges apart. -/
inductive TypeOf (known : List (String × String)) (schema : Schema) : TypeRef → Prop where
  | declared {landed : Schema} {name : String} (hlands : Lands schema landed)
      (hknown : IsKnown known landed name) : TypeOf known schema (.named name false)
  | other {type : TypeRef} (hno : ∀ landed, ¬ Lands schema landed)
      (htype : ∀ name, type ≠ .named name false) : TypeOf known schema type

/-- **What a declaration under construction is for**: a schema of this title and this structure. -/
def OpenedFor (known : List (String × String)) (frame : Json × String) (key : String) : Prop :=
  (key, frame.2) ∈ known ∧
    ∃ schema : Schema, schema.title = frame.1 ∧ schema.structureText = .ok key

/-- The innermost declaration under construction whose title is that of the back edge. -/
def enclosing? (building : List (Json × String)) (edge : Schema) : Option (Json × String) :=
  building.find? fun (title, _) => title.equal edge.title

/-- **What an entry of a log says.** -/
def Event.Holds (known : List (String × String)) : Event → Prop
  | .backEdge edge ref building name =>
      (∀ frame ∈ building, ∃ key, OpenedFor known frame key) ∧
      ((∃ title, enclosing? building edge = some (title, name)) ∨
        (enclosing? building edge = none ∧
          baseName edge.title (.str (lastPiece ref)) = .ok name))
  | .declared schema name => IsKnown known schema name
  | .typed schema type => TypeOf known schema type
  | .aliased value name => ∃ key, aliasKey value = .ok key ∧ (key, name) ∈ known

section Mono

variable {known known' : List (String × String)} (hsub : known ⊆ known')

include hsub

theorem IsKnown.mono {schema : Schema} {name : String} (h : IsKnown known schema name) :
    IsKnown known' schema name := by
  obtain ⟨key, hkey, hmem⟩ := h
  exact ⟨key, hkey, hsub hmem⟩

theorem TypeOf.mono {schema : Schema} {type : TypeRef} (h : TypeOf known schema type) :
    TypeOf known' schema type := by
  cases h with
  | declared hlands hknown => exact .declared hlands (hknown.mono hsub)
  | other hno htype => exact .other hno htype

theorem OpenedFor.mono {frame : Json × String} {key : String} (h : OpenedFor known frame key) :
    OpenedFor known' frame key :=
  ⟨hsub h.1, h.2⟩

/-- What was true stays true. -/
theorem Event.Holds.mono {event : Event} (h : event.Holds known) : event.Holds known' := by
  cases event with
  | backEdge edge ref building name =>
    refine ⟨fun frame hframe => ?_, h.2⟩
    obtain ⟨key, hkey⟩ := h.1 frame hframe
    exact ⟨key, hkey.mono hsub⟩
  | declared schema name => exact IsKnown.mono hsub h
  | typed schema type => exact TypeOf.mono hsub h
  | aliased value name =>
    obtain ⟨key, hkey, hmem⟩ := h
    exact ⟨key, hkey, hsub hmem⟩

end Mono

/-! ### The log is true -/

/-- Each declaration under construction is for a schema of its title. -/
def State.Framed (state : State) : Prop :=
  ∀ frame ∈ state.building, ∃ key, OpenedFor state.known frame key

theorem State.Framed.mono {state state' : State} (h : state.Framed)
    (hsub : state.known ⊆ state'.known) (hbuilding : state'.building = state.building) :
    state'.Framed := by
  intro frame hframe
  rw [hbuilding] at hframe
  obtain ⟨key, hkey⟩ := h frame hframe
  exact ⟨key, hkey.mono hsub⟩

theorem State.Framed.begin {state : State} (h : state.Framed) {schema : Schema} {key : String}
    (hkey : schema.structureText = .ok key) (name : String) :
    (state.begin key name schema.title).Framed := by
  intro frame hframe
  -- the new frame is for the schema that was entered
  rcases List.mem_cons.1 hframe with rfl | hframe
  · exact ⟨key, List.mem_cons_self, schema, rfl, hkey⟩
  · obtain ⟨other, hother⟩ := h frame hframe
    exact ⟨other, hother.mono (List.subset_cons_self _ _)⟩

/-- What an answer says about the schema in question. -/
def Task.Answers (known : List (String × String)) : Task → Answer → Prop
  | .schema part _, .type use => TypeOf known part use
  | .plain part _ sole, .type use =>
      (isObjectLike part sole = true ∧ hasFields part = true ∧
        ∃ name, use = .named name false ∧ IsKnown known part name) ∨
      (¬ (isObjectLike part sole = true ∧ hasFields part = true) ∧ ∀ name, use ≠ .named name false)
  | .named _ part _, .type use => ∃ name, use = .named name false ∧ IsKnown known part name
  | _, _ => True

/-- What is told by a part of a walk. -/
structure Told (task : Task) (state : State) (log : List Event) (answer : Answer) (state' : State) :
    Prop where
  known : state.known ⊆ state'.known
  building : state'.building = state.building
  holds : ∀ event ∈ log, event.Holds state'.known
  answers : task.Answers state'.known answer

/-- A part of a walk tells what its own part tells. -/
theorem Told.inner {task part : Task} {state state' : State} {log : List Event}
    {answer answer' : Answer} (h : Told part state log answer' state')
    (hanswers : task.Answers state'.known answer) : Told task state log answer state' :=
  ⟨h.known, h.building, h.holds, hanswers⟩

/-- A part of a walk that meets nothing tells nothing. -/
theorem Told.nothing {task : Task} {state : State} {answer : Answer}
    (hanswers : task.Answers state.known answer) : Told task state [] answer state :=
  ⟨List.Subset.refl _, rfl, nofun, hanswers⟩

/-- A schema of a known structure. -/
theorem Told.declared (form : Form) {schema : Schema} (hint : Json) {name : String} {state : State}
    (h : IsKnown state.known schema name) :
    Told (.named form schema hint) state [.declared schema name] (.type (.named name false))
      state where
  known := List.Subset.refl _
  building := rfl
  holds := by
    intro event hevent
    obtain rfl := List.mem_singleton.1 hevent
    exact h
  answers := ⟨name, rfl, h⟩

/-- One more entry about the schema that a part of a walk was about. -/
theorem Told.typed {task : Task} {schema : Schema} {hint : Json} {state state' : State}
    {log : List Event} {type : TypeRef} (h : Told task state log (.type type) state')
    (htype : TypeOf state'.known schema type) :
    Told (.schema schema hint) state (log ++ [.typed schema type]) (.type type) state' where
  known := h.known
  building := h.building
  holds := by
    intro event hevent
    rcases List.mem_append.1 hevent with hevent | hevent
    · exact h.holds event hevent
    · obtain rfl := List.mem_singleton.1 hevent
      exact htype
  answers := htype

/-- Parts behind each other. -/
theorem holds_append {known known' : List (String × String)} {log log' : List Event}
    (h : ∀ event ∈ log, event.Holds known) (hsub : known ⊆ known')
    (h' : ∀ event ∈ log', event.Holds known') : ∀ event ∈ log ++ log', event.Holds known' := by
  intro event hevent
  rcases List.mem_append.1 hevent with hevent | hevent
  · exact (h event hevent).mono hsub
  · exact h' event hevent

/-- Two parts of a walk, one behind the other. -/
theorem Told.behind {task first second : Task} {state middle state' : State}
    {log log' : List Event} {answer answer' answer'' : Answer}
    (h : Told first state log answer middle) (h' : Told second middle log' answer' state')
    (hanswers : task.Answers state'.known answer'') :
    Told task state (log ++ log') answer'' state' where
  known := List.Subset.trans h.known h'.known
  building := h'.building.trans h.building
  holds := holds_append h.holds h'.known h'.holds
  answers := hanswers

theorem not_named_of_leaf {schema : Schema} {type : Json} {leaf : TypeRef}
    (h : IsLeaf schema type leaf) :
    ¬ (isObjectLike schema type = true ∧ hasFields schema = true) ∧
      ∀ name, leaf ≠ .named name false := by
  cases h with
  | object _ hfields => exact ⟨fun h => absurd (h.2.symm.trans hfields) nofun, nofun⟩
  | array hno => exact ⟨fun h => absurd (h.1.symm.trans hno) nofun, nofun⟩
  | primitive hno => exact ⟨fun h => absurd (h.1.symm.trans hno) nofun, nofun⟩
  | any hno => exact ⟨fun h => absurd (h.1.symm.trans hno) nofun, nofun⟩

/-- **What a walk tells is true.** -/
theorem Derives.told {task : Task} {state state' : State} {log : List Event} {answer : Answer}
    (h : Derives task state log answer state') :
    state.Framed → Told task state log answer state' := by
  induction h with
  | other => exact fun _ => .nothing trivial
  | object parts ih => exact fun hf => (ih hf).inner trivial
  | @backEdge schema hint ref name state href hname =>
    intro hf
    -- a back edge has no declaration of its own, and its type is not taken for one
    have htype : TypeOf state.known schema (.named name true) :=
      .other (fun landed hlands => hlands.no_ref ref href) nofun
    refine ⟨List.Subset.refl _, rfl, fun event hevent => ?_, htype⟩
    rcases List.mem_cons.1 hevent with rfl | hevent
    · exact ⟨hf, (backEdgeName_eq_ok hname).2⟩
    · obtain rfl := List.mem_singleton.1 hevent
      exact htype
  | enum href henum parts ih =>
    intro hf
    obtain ⟨name, rfl, hknown⟩ := (ih hf).answers
    exact (ih hf).typed (.declared (.enum href henum) hknown)
  | union href henum hunion parts ih =>
    intro hf
    obtain ⟨name, rfl, hknown⟩ := (ih hf).answers
    exact (ih hf).typed (.declared (.union href henum hunion) hknown)
  -- the declaration is that of what the schema was folded to
  | allOf hopen hget hmerge parts ih =>
    intro hf
    refine (ih hf).typed ?_
    cases (ih hf).answers with
    | declared hlands hknown => exact .declared (.allOf hopen hget hmerge hlands) hknown
    | other hno htype => exact .other (fun l hl => hno l (hl.of_allOf hopen hget hmerge)) htype
  | sole hopen hget htypes parts ih =>
    intro hf
    refine (ih hf).typed ?_
    rcases (ih hf).answers with ⟨hlike, hfields, name, rfl, hknown⟩ | ⟨hno, htype⟩
    · exact .declared (.record hopen hget htypes hlike hfields) hknown
    · exact .other (fun l hl => hno (hl.of_sole hopen hget htypes).1) htype
  | @shared schema hint _ _ _ _ hopen hget htypes hkey hname =>
    intro _
    have hknown : IsKnown _ _ _ := ⟨_, hkey, mem_of_lookup hname⟩
    exact (Told.declared .union hint hknown).typed (.declared (.several hopen hget htypes) hknown)
  | @several schema hint types key base name variants state state' log hopen hget htypes hkey hnone
      parts hbase hname ih =>
    intro hf
    -- the entries before were true without the new name, and stay so
    obtain ⟨hknown, hbuilding, hholds, -⟩ := ih hf
    have hnew : state'.known ⊆ (key, name) :: state'.known := List.subset_cons_self _ _
    have hmem : IsKnown ((key, name) :: state'.known) schema name :=
      ⟨key, hkey, List.mem_cons_self⟩
    have htype := TypeOf.declared (.several hopen hget htypes) hmem
    refine ⟨List.Subset.trans hknown hnew, hbuilding,
      holds_append hholds hnew fun event hevent => ?_,
      htype⟩
    rcases List.mem_cons.1 hevent with rfl | hevent
    · exact hmem
    · obtain rfl := List.mem_singleton.1 hevent
      exact htype
  | @record schema hint type answer _ _ _ hlike hfields parts ih =>
    intro hf
    have hparts := ih hf
    refine hparts.inner ?_
    cases answer with
    | type type => exact .inl ⟨hlike, hfields, hparts.answers⟩
    | _ => trivial
  | list hno hlike hitems parts ih =>
    intro hf
    exact (ih hf).inner (.inr ⟨fun h => absurd (h.1.symm.trans hno) nofun, nofun⟩)
  | leaf hleaf => exact fun _ => .nothing (.inr (not_named_of_leaf hleaf))
  | known hkey hname => exact fun _ => .declared _ _ ⟨_, hkey, mem_of_lookup hname⟩
  -- the frame that was put on is taken off again
  | @fresh form schema hint key base name shape state state' log hkey hnone hbase hname parts ih =>
    intro hf
    obtain ⟨hknown, hbuilding, hholds, -⟩ := ih (hf.begin hkey name)
    have hmem : IsKnown state'.known schema name := ⟨key, hkey, hknown List.mem_cons_self⟩
    refine ⟨fun entry hentry => hknown (List.mem_cons_of_mem _ hentry), ?_,
      holds_append hholds (List.Subset.refl _) fun event hevent => ?_, name, rfl, hmem⟩
    · change state'.building.drop 1 = state.building
      rw [hbuilding]
      rfl
    · obtain rfl := List.mem_singleton.1 hevent
      exact hmem
  | enumBody => exact fun _ => .nothing trivial
  | unionBody hoptions parts ih => exact fun hf => (ih hf).inner trivial
  | objectBody hrequired htable parts ih => exact fun hf => (ih hf).inner trivial
  | noField => exact fun _ => .nothing trivial
  | field first others ihFirst ihOthers =>
    intro hf
    have hfirst := ihFirst hf
    exact hfirst.behind (ihOthers (hf.mono hfirst.known hfirst.building)) trivial
  | noVariant => exact fun _ => .nothing trivial
  | variant first others ihFirst ihOthers =>
    intro hf
    have hfirst := ihFirst hf
    exact hfirst.behind (ihOthers (hf.mono hfirst.known hfirst.building)) trivial
  | noType => exact fun _ => .nothing trivial
  | type first others ihFirst ihOthers =>
    intro hf
    have hfirst := ihFirst hf
    exact hfirst.behind (ihOthers (hf.mono hfirst.known hfirst.building)) trivial

/-- **So is what an analysis tells.** -/
theorem Defines.told {agenda : List (Json × Json)} {state state' : State} {log : List Event}
    (h : Defines agenda state log state') : state.Framed →
      state.known ⊆ state'.known ∧ ∀ event ∈ log, event.Holds state'.known := by
  induction h with
  | done => exact fun _ => ⟨List.Subset.refl _, nofun⟩
  | declared walk others ih =>
    intro hf
    have hw := walk.told hf
    obtain ⟨hknown, hholds⟩ := ih (hf.mono hw.known hw.building)
    exact ⟨List.Subset.trans hw.known hknown, holds_append hw.holds hknown hholds⟩
  | known walk hkey hname others ih =>
    intro hf
    have hw := walk.told hf
    obtain ⟨hknown, hholds⟩ := ih (hf.mono hw.known hw.building)
    refine ⟨List.Subset.trans hw.known hknown, holds_append hw.holds hknown fun event hevent => ?_⟩
    rcases List.mem_cons.1 hevent with rfl | hevent
    · exact ⟨_, hkey, hknown (mem_of_lookup hname)⟩
    · exact hholds event hevent
  | @fresh value hint rest type key base name state middle _ _ _ walk hkey hnone hbase hname
    others ih =>
    intro hf
    have hw := walk.told hf
    have hnew : middle.known ⊆ (key, name) :: middle.known := List.subset_cons_self _ _
    obtain ⟨hknown, hholds⟩ := ih (hf.mono (List.Subset.trans hw.known hnew) hw.building)
    have hsub := List.Subset.trans hnew hknown
    refine ⟨List.Subset.trans hw.known hsub, holds_append hw.holds hsub fun event hevent => ?_⟩
    rcases List.mem_cons.1 hevent with rfl | hevent
    · exact ⟨key, hkey, hknown List.mem_cons_self⟩
    · exact hholds event hevent

/-! ### Nothing refers back without an entry -/

/-- The log has a back edge that was taken to lead to this name. -/
def Logged (log : List Event) (name : String) : Prop :=
  ∃ edge ref building, .backEdge edge ref building name ∈ log

theorem Logged.left {log : List Event} {name : String} (h : Logged log name) (log' : List Event) :
    Logged (log ++ log') name := by
  obtain ⟨edge, ref, building, hmem⟩ := h
  exact ⟨edge, ref, building, List.mem_append_left _ hmem⟩

theorem Logged.right {log' : List Event} {name : String} (h : Logged log' name) (log : List Event) :
    Logged (log ++ log') name := by
  obtain ⟨edge, ref, building, hmem⟩ := h
  exact ⟨edge, ref, building, List.mem_append_right _ hmem⟩

/-- All back edges in a use lead to such names. -/
def BackTo (names : String → Prop) (use : TypeRef) : Prop :=
  ∀ name, TypeRef.Within (.named name true) use → names name

/-- All back edges in a catalog lead to such names. -/
def CatalogBackTo (names : String → Prop) (catalog : Catalog) : Prop :=
  ∀ declaration ∈ catalog, ∀ use ∈ declaration.shape.types, BackTo names use

section BackTo

variable {names : String → Prop}

theorem BackTo.array {items : TypeRef} (h : BackTo names items) : BackTo names (.array items) :=
  fun name hname => h name hname.of_array

theorem backTo_named (name : String) : BackTo names (.named name false) :=
  fun _ hother => by cases hother

theorem CatalogBackTo.snoc {catalog : Catalog} (h : CatalogBackTo names catalog)
    {declaration : Declaration} (hd : ∀ use ∈ declaration.shape.types, BackTo names use) :
    CatalogBackTo names (catalog ++ [declaration]) := by
  intro other hother
  rcases List.mem_append.1 hother with hother | hother
  · exact h other hother
  · obtain rfl := List.mem_singleton.1 hother
    exact hd

end BackTo

/-- **A walk refers back only as its log says.** -/
theorem Derives.refersBack {names : String → Prop} {task : Task} {state state' : State}
    {log : List Event} {answer : Answer} (h : Derives task state log answer state') :
    (∀ name, Logged log name → names name) → (∀ use ∈ task.before, BackTo names use) →
      CatalogBackTo names state.declarations →
      (∀ use ∈ answer.types, BackTo names use) ∧ CatalogBackTo names state'.declarations := by
  induction h with
  | other => exact fun _ _ hc => ⟨List.forall_mem_singleton.2 fun _ h => (by cases h), hc⟩
  | object parts ih => exact ih
  | backEdge =>
    intro hlog _ hc
    refine ⟨List.forall_mem_singleton.2 fun name hname => ?_, hc⟩
    cases hname
    exact hlog _ ⟨_, _, _, List.mem_cons_self⟩
  -- the log of a part is in that of the whole, so its names are allowed
  | enum href henum parts ih => exact fun hlog => ih fun name h => hlog name (h.left _)
  | union href henum hunion parts ih => exact fun hlog => ih fun name h => hlog name (h.left _)
  | allOf hopen hget hmerge parts ih => exact fun hlog => ih fun name h => hlog name (h.left _)
  | sole hopen hget htypes parts ih => exact fun hlog => ih fun name h => hlog name (h.left _)
  | shared => exact fun _ _ hc => ⟨List.forall_mem_singleton.2 (backTo_named _), hc⟩
  | several hopen hget htypes hkey hnone parts hbase hname ih =>
    intro hlog _ hc
    obtain ⟨huses, hc'⟩ := ih (fun name h => hlog name (h.left _)) nofun hc
    exact ⟨List.forall_mem_singleton.2 (backTo_named _), hc'.snoc huses⟩
  | record hlike hfields parts ih => exact ih
  | list hno hlike hitems parts ih =>
    intro hlog _ hc
    obtain ⟨huses, hc'⟩ := ih hlog nofun hc
    exact ⟨List.forall_mem_singleton.2 (huses _ List.mem_cons_self).array, hc'⟩
  | leaf hleaf => exact fun _ _ hc => ⟨List.forall_mem_singleton.2 fun name hname =>
      absurd hname (hleaf.not_within name true), hc⟩
  | known => exact fun _ _ hc => ⟨List.forall_mem_singleton.2 (backTo_named _), hc⟩
  | fresh hkey hnone hbase hname parts ih =>
    intro hlog _ hc
    obtain ⟨huses, hc'⟩ := ih (fun name h => hlog name (h.left _)) nofun hc
    exact ⟨List.forall_mem_singleton.2 (backTo_named _), hc'.snoc huses⟩
  | enumBody => exact fun _ _ hc => ⟨nofun, hc⟩
  | unionBody hoptions parts ih => exact fun hlog _ hc => ih hlog nofun hc
  | objectBody hrequired htable parts ih => exact ih
  | noField => exact fun _ _ hc => ⟨nofun, hc⟩
  | field first others ihFirst ihOthers =>
    intro hlog _ hc
    obtain ⟨huses, hc⟩ := ihFirst (fun name h => hlog name (h.left _)) nofun hc
    obtain ⟨huses', hc⟩ := ihOthers (fun name h => hlog name (h.right _)) nofun hc
    refine ⟨fun use huse => ?_, hc⟩
    rcases List.mem_cons.1 huse with rfl | huse
    · exact huses _ List.mem_cons_self
    · exact huses' use huse
  | noVariant => exact fun _ hbefore hc => ⟨hbefore, hc⟩
  | variant first others ihFirst ihOthers =>
    intro hlog hbefore hc
    obtain ⟨huses, hc⟩ := ihFirst (fun name h => hlog name (h.left _)) nofun hc
    exact ihOthers (fun name h => hlog name (h.right _))
      (forall_addVariant hbefore (huses _ List.mem_cons_self)) hc
  | noType => exact fun _ hbefore hc => ⟨hbefore, hc⟩
  | type first others ihFirst ihOthers =>
    intro hlog hbefore hc
    obtain ⟨huses, hc⟩ := ihFirst (fun name h => hlog name (h.left _)) nofun hc
    exact ihOthers (fun name h => hlog name (h.right _))
      (forall_addVariant hbefore (huses _ List.mem_cons_self)) hc

/-- **So does an analysis.** -/
theorem Defines.refersBack {names : String → Prop} {agenda : List (Json × Json)}
    {state state' : State} {log : List Event} (h : Defines agenda state log state') :
    (∀ name, Logged log name → names name) → CatalogBackTo names state.declarations →
      CatalogBackTo names state'.declarations := by
  induction h with
  | done => exact fun _ hc => hc
  | declared walk others ih =>
    intro hlog hc
    obtain ⟨-, hc⟩ := walk.refersBack (fun name h => hlog name (h.left _)) nofun hc
    exact ih (fun name h => hlog name (h.right _)) hc
  | known walk hkey hname others ih =>
    intro hlog hc
    obtain ⟨-, hc⟩ := walk.refersBack (fun name h => hlog name (h.left _)) nofun hc
    exact ih (fun name h => hlog name ((h.right [_]).right _)) hc
  | fresh walk hkey hnone hbase hname others ih =>
    intro hlog hc
    obtain ⟨huses, hc⟩ := walk.refersBack (fun name h => hlog name (h.left _)) nofun hc
    exact ih (fun name h => hlog name ((h.right [_]).right _)) (hc.snoc huses)

end SchemaPress.Analysis
