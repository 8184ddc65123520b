import SchemaPress.Proofs.Analysis.Derivation
import SchemaPress.Proofs.Schema.Proper

/-!
# What all schemas of an analysis have in common

An analysis goes from a schema to the schemas in it, to the schema with its `allOf` folded in, and to
the schema restricted to one of its types. A property of schemas that passes on each of these ways
(`Inherited`) holds of every schema that is met once it holds of those on the agenda
(`Defines.inherits`). Being proper is inherited (`inherited_proper`), so where the schemas are
proper, all properties in the catalog have texts for names.
-/

namespace SchemaPress

/-- No property of an object type has a name that is no text. -/
def Shape.IsNamed : Shape → Prop
  | .object fields => ∀ field ∈ fields, ∃ name, field.name = .text name
  | _ => True

/-- All properties in a catalog have texts for names. -/
def Catalog.IsNamed (catalog : Catalog) : Prop :=
  ∀ declaration ∈ catalog, declaration.shape.IsNamed

theorem Catalog.IsNamed.snoc {catalog : Catalog} (h : catalog.IsNamed) {declaration : Declaration}
    (hd : declaration.shape.IsNamed) : Catalog.IsNamed (catalog ++ [declaration]) := by
  intro other hother
  rcases List.mem_append.1 hother with hother | hother
  · exact h other hother
  · obtain rfl := List.mem_singleton.1 hother
    exact hd

namespace Analysis

/-- **Inherited properties of schemas.** What passes from a schema to those that an analysis goes on
to. The property has to keep names of properties to texts. -/
structure Inherited (Q : Schema → Prop) : Prop where
  names : ∀ {schema : Schema} {table : PropertyTable}, Q schema →
    propertiesOf schema = .ok table → table.IsNamed
  property : ∀ {schema : Schema} {table : PropertyTable} {name : PropertyName} {members : Members},
    Q schema → propertiesOf schema = .ok table → (name, .obj members) ∈ table → Q ⟨members, none⟩
  items : ∀ {schema : Schema} {members : Members}, Q schema →
    schema.get? "items" = some (.obj members) → Q ⟨members, none⟩
  option : ∀ {schema : Schema} {options : List Json} {members : Members}, Q schema →
    alternatives schema = .ok options → .obj members ∈ options → Q ⟨members, none⟩
  folded : ∀ {schema merged : Schema} {allOf : Json}, Q schema → schema.get? "allOf" = some allOf →
    schema.mergeAllOf allOf = .ok merged → Q merged
  restricted : ∀ {schema : Schema} {types : List Json} {type : Json}, Q schema →
    typesOf schema = .inr types → type ∈ types → Q (schema.restrict type)

/-- The schemas of a part of a walk have a property. -/
def Task.Meets (Q : Schema → Prop) : Task → Prop
  | .value json _ => ∀ members, json = .obj members → Q ⟨members, none⟩
  | .schema part _ => Q part
  | .plain part _ _ => Q part
  | .named _ part _ => Q part
  | .body _ part _ => Q part
  | .fields _ _ table =>
    table.IsNamed ∧ ∀ name members, (name, .obj members) ∈ table → Q ⟨members, none⟩
  | .variants _ _ options _ => ∀ members, .obj members ∈ options → Q ⟨members, none⟩
  | .typeVariants part _ types _ => ∀ type ∈ types, Q (part.restrict type)

/-- The schema that was met has a property, or what was only given another name has one. -/
def Event.Meets (Q : Schema → Prop) (V : Json → Prop) : Event → Prop
  | .backEdge schema _ _ _ => Q schema
  | .declared schema _ => Q schema
  | .typed schema _ => Q schema
  | .aliased value _ => V value

/-- The answer has texts for names of properties. -/
def Answer.IsNamed : Answer → Prop
  | .shape found => found.IsNamed
  | .fields found => ∀ field ∈ found, ∃ name, field.name = .text name
  | _ => True

/-- What a part of a walk over schemas of a property leaves behind. -/
structure Inherits (Q : Schema → Prop) (V : Json → Prop) (log : List Event) (answer : Answer)
    (state' : State) : Prop where
  meets : ∀ event ∈ log, event.Meets Q V
  catalog : state'.declarations.IsNamed
  answer : answer.IsNamed

variable {Q : Schema → Prop} {V : Json → Prop}

/-- Parts behind each other. -/
theorem forall_meets_append {log log' : List Event} (h : ∀ event ∈ log, event.Meets Q V)
    (h' : ∀ event ∈ log', event.Meets Q V) : ∀ event ∈ log ++ log', event.Meets Q V :=
  fun event hevent => (List.mem_append.1 hevent).elim (h event) (h' event)

/-- A use of a type has no properties, so a schema of this type is all that is added. -/
theorem Inherits.typed {log : List Event} {answer : Answer} {state' : State}
    (h : Inherits Q V log answer state') {schema : Schema} {type : TypeRef} (hschema : Q schema) :
    Inherits Q V (log ++ [.typed schema type]) (.type type) state' where
  meets := forall_meets_append h.meets (List.forall_mem_singleton.2 hschema)
  catalog := h.catalog
  answer := trivial

/-- **A walk inherits.** By induction on the derivation; each rule goes one of the ways that the
property passes on. -/
theorem Derives.inherits (hQ : Inherited Q) {task : Task} {state state' : State}
    {log : List Event} {answer : Answer} (h : Derives task state log answer state') :
    task.Meets Q → state.declarations.IsNamed → Inherits Q V log answer state' := by
  induction h with
  | other => exact fun _ hd => ⟨nofun, hd, trivial⟩
  | object parts ih => exact fun hm hd => ih (hm _ rfl) hd
  | backEdge =>
    exact fun hm hd => ⟨List.forall_mem_cons.2 ⟨hm, List.forall_mem_singleton.2 hm⟩, hd, trivial⟩
  | enum href henum parts ih => exact fun hm hd => (ih hm hd).typed hm
  | union href henum hunion parts ih => exact fun hm hd => (ih hm hd).typed hm
  | allOf hopen hget hmerge parts ih =>
    exact fun hm hd => (ih (hQ.folded hm hget hmerge) hd).typed hm
  | sole hopen hget htypes parts ih => exact fun hm hd => (ih hm hd).typed hm
  | shared =>
    exact fun hm hd => ⟨List.forall_mem_cons.2 ⟨hm, List.forall_mem_singleton.2 hm⟩, hd, trivial⟩
  | several hopen hget htypes hkey hnone parts hbase hname ih =>
    intro hm hd
    have hparts := ih (fun type htype => hQ.restricted hm htypes htype) hd
    refine ⟨forall_meets_append hparts.meets ?_, hparts.catalog.snoc trivial, trivial⟩
    exact List.forall_mem_cons.2 ⟨hm, List.forall_mem_singleton.2 hm⟩
  | record hlike hfields parts ih => exact ih
  | list hno hlike hitems parts ih =>
    intro hm hd
    have hget := get?_of_itemsOf? hitems
    have hparts := ih (fun members heq => hQ.items hm (heq ▸ hget)) hd
    exact ⟨hparts.meets, hparts.catalog, trivial⟩
  | leaf => exact fun _ hd => ⟨nofun, hd, trivial⟩
  | known => exact fun hm hd => ⟨List.forall_mem_singleton.2 hm, hd, trivial⟩
  | fresh hkey hnone hbase hname parts ih =>
    intro hm hd
    have hparts := ih hm hd
    refine ⟨forall_meets_append hparts.meets ?_, hparts.catalog.snoc hparts.answer, trivial⟩
    exact List.forall_mem_singleton.2 hm
  | enumBody => exact fun _ hd => ⟨nofun, hd, trivial⟩
  | unionBody hoptions parts ih =>
    intro hm hd
    have hparts := ih (fun members hmem => hQ.option hm hoptions hmem) hd
    exact ⟨hparts.meets, hparts.catalog, trivial⟩
  | objectBody hrequired htable parts ih =>
    intro hm hd
    have hparts := ih ⟨hQ.names hm htable, fun name members => hQ.property hm htable⟩ hd
    exact ⟨hparts.meets, hparts.catalog, hparts.answer⟩
  | noField => exact fun _ hd => ⟨nofun, hd, nofun⟩
  | @field _ _ property value rest _ _ _ _ _ _ _ first others ihFirst ihOthers =>
    rintro ⟨hnames, hm⟩ hd
    have hvalue (members : Members) (heq : value = .obj members) :
        (property, .obj members) ∈ (property, value) :: rest := heq ▸ List.mem_cons_self
    have hfirst := ihFirst (fun members heq => hm _ members (hvalue members heq)) hd
    have hothers := ihOthers ⟨fun row hrow => hnames row (List.mem_cons_of_mem _ hrow),
      fun name members hmem => hm name members (List.mem_cons_of_mem _ hmem)⟩ hfirst.catalog
    exact ⟨forall_meets_append hfirst.meets hothers.meets, hothers.catalog,
      List.forall_mem_cons.2 ⟨hnames _ List.mem_cons_self, hothers.answer⟩⟩
  | noVariant => exact fun _ hd => ⟨nofun, hd, trivial⟩
  | @variant _ _ option rest _ _ _ _ _ _ _ _ first others ihFirst ihOthers =>
    intro hm hd
    have hvalue (members : Members) (heq : option = .obj members) : .obj members ∈ option :: rest :=
      heq ▸ List.mem_cons_self
    have hfirst := ihFirst (fun members heq => hm members (hvalue members heq)) hd
    have hothers := ihOthers (fun members hmem => hm members (List.mem_cons_of_mem _ hmem))
      hfirst.catalog
    exact ⟨forall_meets_append hfirst.meets hothers.meets, hothers.catalog, hothers.answer⟩
  | noType => exact fun _ hd => ⟨nofun, hd, trivial⟩
  | type first others ihFirst ihOthers =>
    intro hm hd
    have hfirst := ihFirst (hm _ List.mem_cons_self) hd
    have hothers := ihOthers (fun type htype => hm type (List.mem_cons_of_mem _ htype))
      hfirst.catalog
    exact ⟨forall_meets_append hfirst.meets hothers.meets, hothers.catalog, hothers.answer⟩

/-- What is on the agenda has a property as a value, and as a schema where it is one. -/
def Admits (Q : Schema → Prop) (V : Json → Prop) (entry : Json × Json) : Prop :=
  V entry.1 ∧ ∀ members, entry.1 = .obj members → Q ⟨members, none⟩

/-- **So does an analysis.** -/
theorem Defines.inherits (hQ : Inherited Q) {agenda : List (Json × Json)}
    {state state' : State} {log : List Event} (h : Defines agenda state log state') :
    (∀ entry ∈ agenda, Admits Q V entry) → state.declarations.IsNamed →
    (∀ event ∈ log, event.Meets Q V) ∧ state'.declarations.IsNamed := by
  induction h with
  | done => exact fun _ hd => ⟨nofun, hd⟩
  | declared walk others ih =>
    intro hagenda hd
    have hwalk := walk.inherits hQ (V := V) (hagenda _ List.mem_cons_self).2 hd
    have hothers := ih (fun entry hentry => hagenda entry (List.mem_cons_of_mem _ hentry))
      hwalk.catalog
    exact ⟨forall_meets_append hwalk.meets hothers.1, hothers.2⟩
  | known walk hkey hname others ih =>
    intro hagenda hd
    obtain ⟨hvalue, hschema⟩ := hagenda _ List.mem_cons_self
    have hwalk := walk.inherits hQ (V := V) hschema hd
    have hothers := ih (fun entry hentry => hagenda entry (List.mem_cons_of_mem _ hentry))
      hwalk.catalog
    exact ⟨forall_meets_append hwalk.meets (List.forall_mem_cons.2 ⟨hvalue, hothers.1⟩), hothers.2⟩
  | fresh walk hkey hnone hbase hname others ih =>
    intro hagenda hd
    obtain ⟨hvalue, hschema⟩ := hagenda _ List.mem_cons_self
    have hwalk := walk.inherits hQ (V := V) hschema hd
    have hothers := ih (fun entry hentry => hagenda entry (List.mem_cons_of_mem _ hentry))
      (hwalk.catalog.snoc trivial)
    exact ⟨forall_meets_append hwalk.meets (List.forall_mem_cons.2 ⟨hvalue, hothers.1⟩), hothers.2⟩

/-! ### The agenda -/

theorem mem_rootAgenda {index : Nat} {schemas : List Json} {entry : Json × Json}
    (h : entry ∈ rootAgenda index schemas) : entry.1 ∈ schemas := by
  induction schemas generalizing index with
  | nil => cases h
  | cons schema rest ih =>
    cases schema with
    | obj members =>
      rcases List.mem_cons.1 h with rfl | h
      · exact List.mem_cons_self
      · exact List.mem_cons_of_mem _ (ih h)
    | _ => exact List.mem_cons_of_mem _ (ih h)

/-- The agenda consists of the schemas and of their definitions. -/
theorem mem_agenda {schemas : List Json} {entry : Json × Json} (h : entry ∈ agenda schemas) :
    entry.1 ∈ schemas ∨ ∃ schema ∈ schemas, ∃ definition ∈ definitionsOf schema,
      entry.1 = titled definition.1 definition.2 := by
  rcases List.mem_append.1 h with h | h
  · exact .inl (mem_rootAgenda h)
  · obtain ⟨definition, hmem, rfl⟩ := List.mem_map.1 h
    obtain ⟨schema, hschema, hdefinition⟩ := List.mem_flatMap.1 hmem
    exact .inr ⟨schema, hschema, definition, hdefinition, rfl⟩

/-- The definitions of a schema are in one of two members. -/
theorem mem_definitionsOf {schema : Json} {definition : String × Json}
    (h : definition ∈ definitionsOf schema) :
    ∃ container ∈ ["definitions", "$defs"], ∃ definitions,
      schema.get? container = some (.obj definitions) ∧ definition ∈ definitions := by
  obtain ⟨container, hcontainer, h⟩ := List.mem_flatMap.1 h
  split at h
  · next definitions hget => exact ⟨container, hcontainer, definitions, hget, h⟩
  · cases h

/-! ### Proper schemas -/

/-- **Being proper is inherited.** -/
theorem inherited_proper : Inherited Schema.Proper where
  names h htable := (h.propertiesOf htable).1
  property h htable hmem := Schema.proper_of_json ((h.propertiesOf htable).2 _ hmem)
  items h hget := Schema.proper_of_json (h.items hget)
  option h hoptions hmem := Schema.proper_of_json (h.alternatives hoptions hmem)
  folded h hget hmerge := h.mergeAllOf hget hmerge
  restricted h _ _ := h.restrict _

/-- A definition is proper under its name as well. -/
theorem proper_titled {name : String} {value : Json} (h : value.Proper) :
    (titled name value).Proper := by
  cases value with
  | obj members =>
    refine Json.proper_obj_iff.2 fun member hmember => ?_
    rcases Members.mem_putIfAbsent hmember with hmember | ⟨hname, hvalue⟩
    · exact Json.proper_obj_iff.1 h member hmember
    · rw [hname, hvalue]
      exact Json.properUnder_of_none nofun rfl
  | _ => exact .other nofun

theorem proper_definition {schema : Json} (h : schema.Proper) {definition : String × Json}
    (hmem : definition ∈ definitionsOf schema) : definition.2.Proper := by
  obtain ⟨container, hcontainer, definitions, hget, hin⟩ := mem_definitionsOf hmem
  cases schema with
  | obj members =>
    have hunder := Json.proper_obj_iff.1 h _ (Members.mem_of_get? hget)
    -- both members hold the schemas that are defined in them
    refine hunder.inside _ ?_
    rcases List.mem_cons.1 hcontainer with rfl | hcontainer
    · exact List.mem_map_of_mem hin
    · obtain rfl := List.mem_singleton.1 hcontainer
      exact List.mem_map_of_mem hin
  | _ => cases hget

theorem proper_agenda {schemas : List Json} (h : ∀ schema ∈ schemas, schema.Proper)
    {entry : Json × Json} (hentry : entry ∈ agenda schemas) : entry.1.Proper := by
  rcases mem_agenda hentry with hmem | ⟨schema, hschema, definition, hdefinition, heq⟩
  · exact h _ hmem
  · rw [heq]
    exact proper_titled (proper_definition (h schema hschema) hdefinition)

/-- Where the schemas are proper, so is every schema that is met, and all properties that are
declared have texts for names. -/
theorem Defines.proper {schemas : List Json} {log : List Event} {state : State}
    (h : Defines (agenda schemas) {} log state) (hproper : ∀ schema ∈ schemas, schema.Proper) :
    (∀ event ∈ log, event.Meets Schema.Proper Json.Proper) ∧ state.declarations.IsNamed :=
  h.inherits inherited_proper (fun _ hentry =>
    ⟨proper_agenda hproper hentry, fun _ heq =>
      Schema.proper_of_json (heq ▸ proper_agenda hproper hentry)⟩) nofun

end Analysis

end SchemaPress
