import SchemaPress.Proofs.Analysis.Inherited
import SchemaPress.Proofs.Analysis.Reservation
import SchemaPress.Proofs.Schema.Regular
import SchemaPress.Proofs.Structure.Reordering

/-!
# Declarations are shared by structure

A schema that needs a declaration gets that of another one if and only if both are the same JSON up
to the order of members (`analyze_shares`). What decides is the structure text, under which a
declaration is known from the moment its name is taken. Names and structure texts determine each other
(`Naming`), and structure texts tell regular values apart up to the order of members
(`Json.render_sorted_eq_iff`). Schemas change on their way, by folding and by restricting, so it has to be
carried along that they are regular (`inherited_regular`).
-/

namespace SchemaPress.Analysis

/-! ### Regular schemas -/

/-- **Being regular is inherited.** -/
theorem inherited_regular : Inherited Schema.Regular where
  names h htable := (h.proper.propertiesOf htable).1
  property h htable hmem := h.property htable hmem
  items h hget := h.items hget
  option h hoptions hmem := h.alternatives hoptions hmem
  folded h hget hmerge := h.mergeAllOf hget hmerge
  restricted h htypes hmem := h.restrict ((h.json.get? (get?_of_typesOf htypes)).item hmem)

/-- A definition is regular under its name as well. -/
theorem regular_titled {name : String} {value : Json} (h : value.Regular) :
    (titled name value).Regular := by
  cases value with
  | obj members => exact h.putIfAbsent "title" (.str name)
  | _ => exact h

theorem regular_definition {schema : Json} (h : schema.Regular) {definition : String × Json}
    (hmem : definition ∈ definitionsOf schema) : definition.2.Regular := by
  obtain ⟨container, -, definitions, hget, hin⟩ := mem_definitionsOf hmem
  cases schema with
  | obj members => exact (h.get? hget).member hin
  | _ => cases hget

theorem regular_agenda {schemas : List Json} (h : ∀ schema ∈ schemas, schema.Regular)
    {entry : Json × Json} (hentry : entry ∈ agenda schemas) : entry.1.Regular := by
  rcases mem_agenda hentry with hmem | ⟨schema, hschema, definition, hdefinition, heq⟩
  · exact h _ hmem
  · rw [heq]
    exact regular_titled (regular_definition (h schema hschema) hdefinition)

/-- Where the schemas are proper and regular, so is everything that is met. -/
theorem Defines.regular {schemas : List Json} {log : List Event} {state : State}
    (h : Defines (agenda schemas) {} log state) (hproper : ∀ schema ∈ schemas, schema.Proper)
    (hregular : ∀ schema ∈ schemas, schema.Regular) :
    ∀ event ∈ log, event.Meets Schema.Regular Json.Regular := by
  refine (h.inherits inherited_regular (fun entry hentry => ?_) nofun).1
  have hvalue := regular_agenda hregular hentry
  refine ⟨hvalue, fun members heq => ?_⟩
  have hschema := proper_agenda hproper hentry
  rw [heq] at hvalue hschema
  exact Schema.regular_of_json hschema hvalue

/-! ### Declarations and the log -/

/-- **What an event tells of a declaration**: what it was asked for, and its name. -/
inductive Event.Tells : Event → Json → String → Prop where
  | declared (schema : Schema) (name : String) :
      Tells (.declared schema name) (.obj schema.members) name
  | aliased (value : Json) (name : String) : Tells (.aliased value name) value name

/-- A log tells of a declaration of this name. -/
def TellsOf (log : List Event) (name : String) : Prop :=
  ∃ event ∈ log, ∃ value, event.Tells value name

theorem TellsOf.left {log : List Event} {name : String} (h : TellsOf log name)
    (log' : List Event) : TellsOf (log ++ log') name := by
  obtain ⟨event, hevent, htells⟩ := h
  exact ⟨event, List.mem_append_left _ hevent, htells⟩

theorem TellsOf.right {log' : List Event} {name : String} (h : TellsOf log' name)
    (log : List Event) : TellsOf (log ++ log') name := by
  obtain ⟨event, hevent, htells⟩ := h
  exact ⟨event, List.mem_append_right _ hevent, htells⟩

/-- What a part of a walk declares is told by its log. -/
def Accords (state : State) (log : List Event) (state' : State) : Prop :=
  ∀ declaration ∈ state'.declarations,
    declaration ∈ state.declarations ∨ TellsOf log declaration.name

theorem Accords.refl (state : State) (log : List Event) : Accords state log state :=
  fun _ hd => .inl hd

theorem Accords.left {state state' : State} {log : List Event} (h : Accords state log state')
    (log' : List Event) : Accords state (log ++ log') state' :=
  fun declaration hd => (h declaration hd).imp_right fun htells => htells.left log'

theorem Accords.trans {state middle state' : State} {log log' : List Event}
    (h : Accords state log middle) (h' : Accords middle log' state') :
    Accords state (log ++ log') state' := by
  intro declaration hd
  rcases h' declaration hd with hd | htells
  · exact h.left log' declaration hd
  · exact .inr (htells.right log)

/-- One more declaration, which the log goes on to tell of. -/
theorem Accords.snoc {state middle state' : State} {log log' : List Event}
    (h : Accords state log middle) {declaration : Declaration}
    (hnext : state'.declarations = middle.declarations ++ [declaration])
    (htells : TellsOf log' declaration.name) : Accords state (log ++ log') state' := by
  refine h.trans fun other hother => ?_
  rw [hnext] at hother
  rcases List.mem_append.1 hother with hother | hother
  · exact .inl hother
  · obtain rfl := List.mem_singleton.1 hother
    exact .inr htells

/-- **A walk declares what its log tells.** -/
theorem Derives.accords {task : Task} {state state' : State} {log : List Event} {answer : Answer}
    (h : Derives task state log answer state') : Accords state log state' := by
  induction h with
  | object parts ih => exact ih
  | enum href henum parts ih => exact ih.left _
  | union href henum hunion parts ih => exact ih.left _
  | allOf hopen hget hmerge parts ih => exact ih.left _
  | sole hopen hget htypes parts ih => exact ih.left _
  | several hopen hget htypes hkey hnone parts hbase hname ih =>
    exact ih.snoc rfl ⟨_, List.mem_cons_self, _, .declared _ _⟩
  | record hlike hfields parts ih => exact ih
  | list hno hlike hitems parts ih => exact ih
  | fresh hkey hnone hbase hname parts ih =>
    exact ih.snoc rfl ⟨_, List.mem_cons_self, _, .declared _ _⟩
  | unionBody hoptions parts ih => exact ih
  | objectBody hrequired htable parts ih => exact ih
  | field first others ihFirst ihOthers => exact ihFirst.trans ihOthers
  | variant first others ihFirst ihOthers => exact ihFirst.trans ihOthers
  | type first others ihFirst ihOthers => exact ihFirst.trans ihOthers
  | _ => exact .refl _ _

/-- **So does an analysis.** -/
theorem Defines.accords {agenda : List (Json × Json)} {state state' : State} {log : List Event}
    (h : Defines agenda state log state') : Accords state log state' := by
  induction h with
  | done => exact .refl _ _
  | declared walk others ih => exact walk.accords.trans ih
  | @known value hint rest type key name state middle state' log log' walk hkey hname others ih =>
    rw [← List.singleton_append, ← List.append_assoc]
    exact (walk.accords.left [.aliased value name]).trans ih
  | @fresh value hint rest type key base name state middle state' log log' walk hkey hnone hbase hname
      others ih =>
    rw [← List.singleton_append, ← List.append_assoc]
    have htells : TellsOf [.aliased value name] name := ⟨_, List.mem_cons_self, _, .aliased _ _⟩
    exact (walk.accords.snoc rfl htells).trans ih

/-! ### Sharing -/

/-- **What is known of an event that tells of a declaration**: the value is regular, and the name
belongs to its sorted text. -/
theorem known_of_tells {known : List (String × String)} {event : Event} {value : Json}
    {name : String} (h : event.Tells value name)
    (hmeets : event.Meets Schema.Regular Json.Regular) (hholds : event.Holds known) :
    value.Regular ∧ (value.render .sorted, name) ∈ known := by
  cases h with
  | declared schema =>
    have hregular : schema.Regular := hmeets
    obtain ⟨key, hkey, hmem⟩ : IsKnown known schema name := hholds
    rw [Schema.structureText_of_none hregular.proper.table] at hkey
    obtain rfl := Except.ok.inj hkey
    exact ⟨hregular.json, hmem⟩
  | aliased =>
    have hregular : value.Regular := hmeets
    obtain ⟨key, hkey, hmem⟩ : ∃ key, aliasKey value = .ok key ∧ (key, name) ∈ known := hholds
    have htext : aliasKey value = .ok (value.render .sorted) := by
      cases value <;> rfl
    obtain rfl := Except.ok.inj (htext.symm.trans hkey)
    exact ⟨hregular, hmem⟩

/-- **Declarations are shared by structure.** A log and the catalog of its analysis: one name is told
for two values if they are the same up to the order of members, and only then; and the names that are
told are the declared ones, each of which is declared once. -/
structure Shares (log : List Event) (catalog : Catalog) : Prop where
  /-- A schema that gets a declaration has all it says among its members. -/
  members : ∀ schema name, .declared schema name ∈ log → schema.table = none
  same : ∀ event ∈ log, ∀ other ∈ log, ∀ value name value' name', event.Tells value name →
    other.Tells value' name' → (name = name' ↔ value.Reordered value')
  once : (catalog.map Declaration.name).Nodup
  declared : ∀ name, name ∈ catalog.map Declaration.name ↔ TellsOf log name

/-- **Deduplication is exactly by structure.** An analysis that succeeds on proper and regular schemas
has a log, and whatever the log tells, two schemas share a declaration if and only if they are the
same JSON up to the order of members. -/
theorem analyze_shares {schemas : List Json} {catalog : Catalog}
    (hproper : ∀ schema ∈ schemas, schema.Proper) (hregular : ∀ schema ∈ schemas, schema.Regular)
    (h : analyze schemas = .ok catalog) :
    (∃ log state, Defines (agenda schemas) {} log state ∧ state.declarations = catalog) ∧
    ∀ log state, Defines (agenda schemas) {} log state → Shares log state.declarations := by
  refine ⟨?_, fun log state hdefines => ?_⟩
  · obtain ⟨state, hrun, rfl⟩ := run_of_analyze h
    obtain ⟨log, hdefines⟩ := defines_of_run hrun
    exact ⟨log, state, hdefines, rfl⟩
  have hmeets := hdefines.regular hproper hregular
  have hholds := (hdefines.told nofun).2
  have hnaming := hdefines.naming .nil
  obtain ⟨haccounted, hbuilding⟩ := hdefines.accounted .nil
  have hnames : state.names.Perm (state.declarations.map Declaration.name) := by
    have hall := haccounted.names
    rw [hbuilding] at hall
    exact hall
  refine ⟨fun schema name hmem => ?_, ?_, hnames.nodup_iff.1 haccounted.nodup, fun name => ?_⟩
  · have hschema : schema.Regular := hmeets _ hmem
    exact hschema.proper.table
  · intro event hevent other hother value name value' name' htells htells'
    obtain ⟨hvalue, hmem⟩ := known_of_tells htells (hmeets event hevent) (hholds event hevent)
    obtain ⟨hvalue', hmem'⟩ := known_of_tells htells' (hmeets other hother) (hholds other hother)
    rw [← Json.render_sorted_eq_iff hvalue hvalue']
    constructor
    · rintro rfl
      exact hnaming.structures _ _ _ hmem hmem'
    · intro htext
      exact hnaming.single _ _ _ hmem (htext ▸ hmem')
  · constructor
    · intro hname
      obtain ⟨declaration, hd, rfl⟩ := List.mem_map.1 hname
      exact (hdefines.accords declaration hd).resolve_left nofun
    · rintro ⟨event, hevent, value, htells⟩
      obtain ⟨-, hmem⟩ := known_of_tells htells (hmeets event hevent) (hholds event hevent)
      exact hnames.mem_iff.1 (hnaming.taken _ _ hmem)

/-! ### Members in another order -/

theorem enter_of_known {schema : Schema} {hint : Json} {key name : String} {state : State}
    (hkey : schema.structureText = .ok key) (hname : state.known.lookup key = some name) :
    enter schema hint state = .ok (.known name, state) := by
  unfold enter
  rw [bind_of_ok (orCrash_of_ok hkey), bind_of_ok (nameOf?_of_lookup hname)]
  rfl

/-- `{"const": null, "default": 1}`. -/
def constantMembers : Members := [("const", .null), ("default", .int 1)]

/-- The catalog of a constant, and of the same constant with its members in another order. -/
def sharedCatalog : Catalog := [⟨"Schema", "", .enum [.null]⟩]

theorem proper_constantMembers : Json.Proper (.obj constantMembers) := by
  refine Json.proper_obj_iff.2 fun member hmember => ?_
  rcases List.mem_cons.1 hmember with rfl | hmember
  · exact Json.properUnder_of_none nofun rfl
  · obtain rfl := List.mem_singleton.1 hmember
    exact Json.properUnder_of_none nofun rfl

theorem regular_constantMembers : Json.Regular (.obj constantMembers) := by
  refine .obj (by unfold Members.Distinct; decide) fun member hmember => ?_
  rcases List.mem_cons.1 hmember with rfl | hmember
  · exact .plain .null
  · obtain rfl := List.mem_singleton.1 hmember
    exact .plain (.int 1)

theorem regular_reverse : Json.Regular (.obj constantMembers.reverse) :=
  (Outline.ofJson_eq_of_reordered (.members (List.reverse_perm _).symm) regular_constantMembers).1

theorem analyze_reordered :
    analyze [.obj constantMembers, .obj constantMembers.reverse] = .ok sharedCatalog := by
  have hkey : Schema.structureText ⟨constantMembers, none⟩ =
      .ok "\x7b\"const\": null, \"default\": 1\x7d" := by cbv
  have hkey' : Schema.structureText ⟨constantMembers.reverse, none⟩ =
      .ok "\x7b\"const\": null, \"default\": 1\x7d" := by
    rw [Schema.structureText_of_none rfl] at hkey ⊢
    rw [← hkey, (Json.render_sorted_eq_iff regular_constantMembers regular_reverse).2
      (.members (List.reverse_perm _).symm)]
  have hbase : baseName .null (.str "Schema") = .ok "Schema" :=
    baseName_of_hint (fun text heq => by cases heq) (by decide +kernel) (by decide +kernel)
  -- the first schema takes the name that is made of its hint
  have hfirst : define (.obj constantMembers) (.str "Schema") {} =
      .ok ((), ⟨sharedCatalog, ["Schema"],
        [("\x7b\"const\": null, \"default\": 1\x7d", "Schema")], []⟩) := by
    have htype : schemaRef ⟨constantMembers, none⟩ (.str "Schema") {} =
        .ok (.named "Schema" false, ⟨sharedCatalog, ["Schema"],
          [("\x7b\"const\": null, \"default\": 1\x7d", "Schema")], []⟩) := by
      rw [schemaRef_enum (fun ref h => by cases h) rfl, bind_of_ok (enter_of_base hkey rfl hbase)]
      rfl
    unfold define
    rw [typeRef, bind_of_ok htype]
    rfl
  -- the second one is known by then
  have hsecond (state : State)
      (hknown : state.known = [("\x7b\"const\": null, \"default\": 1\x7d", "Schema")]) :
      define (.obj constantMembers.reverse) (.str "Schema1") state = .ok ((), state) := by
    have htype : schemaRef ⟨constantMembers.reverse, none⟩ (.str "Schema1") state =
        .ok (.named "Schema" false, state) := by
      rw [schemaRef_enum (fun ref h => by cases h) rfl,
        bind_of_ok (enter_of_known hkey' (by rw [hknown]; rfl))]
      rfl
    unfold define
    rw [typeRef, bind_of_ok htype]
    rfl
  unfold analyze
  change ((define (.obj constantMembers) (.str "Schema") >>= fun _ =>
    define (.obj constantMembers.reverse) (.str "Schema1") >>= fun _ => pure ()) >>= fun _ =>
      defineRest [.obj constantMembers, .obj constantMembers.reverse]) {} >>= _ = _
  rw [bind_of_ok ((bind_of_ok hfirst).trans (bind_of_ok (hsecond _ rfl)))]
  rfl

/-- The members come in two orders, and there is one declaration. -/
theorem analyze_shares_reordered :
    ∃ log state, Defines (agenda [.obj constantMembers, .obj constantMembers.reverse]) {} log state ∧
      state.declarations = sharedCatalog ∧ Shares log sharedCatalog := by
  have hproper : ∀ schema ∈ [Json.obj constantMembers, .obj constantMembers.reverse],
      schema.Proper := by
    refine List.forall_mem_cons.2 ⟨proper_constantMembers, List.forall_mem_singleton.2 ?_⟩
    exact Json.proper_obj_iff.2 fun member hmember =>
      Json.proper_obj_iff.1 proper_constantMembers member (List.mem_reverse.1 hmember)
  have hregular : ∀ schema ∈ [Json.obj constantMembers, .obj constantMembers.reverse],
      schema.Regular := by
    exact List.forall_mem_cons.2 ⟨regular_constantMembers,
      List.forall_mem_singleton.2 regular_reverse⟩
  obtain ⟨⟨log, state, hdefines, hcatalog⟩, hshares⟩ :=
    analyze_shares hproper hregular analyze_reordered
  exact ⟨log, state, hdefines, hcatalog, hcatalog ▸ hshares log state hdefines⟩

end SchemaPress.Analysis
