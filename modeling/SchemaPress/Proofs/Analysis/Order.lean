import SchemaPress.Proofs.Analysis.Derivation
import SchemaPress.Proofs.Json.Reading
import SchemaPress.Proofs.Structure.Text

/-!
# Declarations come after those they refer to

A catalog is in order (`Catalog.Ordered`) when each declaration refers, back edges apart, to earlier
declarations only. The catalog of every analysis is in order (`analyze_ordered`).

A name is reserved before the parts of its schema are walked and declared behind them, so what has
to be ruled out is that the walk of those parts meets the structure of a schema that is still
being built. Every schema that is met there is less deep than the one being built: subschemas are
lower, and neither folding nor restriction makes a schema deeper. Since the structure text
determines the depth, it has another structure text.

`Reserved` is the invariant of a walk at depth `bound`: whatever is known but not declared yet is at
least that deep. A walk only adds known structures that it declares (`Extends`), which is why the
invariant of the surrounding walk is not lost in an inner one.
-/

namespace SchemaPress

/-- **Uses inside a use.** A type is used in itself and in lists of whatever it is used in. -/
inductive TypeRef.Within (type : TypeRef) : TypeRef → Prop where
  | self : Within type type
  | items {items : TypeRef} (h : Within type items) : Within type (.array items)

/-- A list uses the declared types that its items use. -/
theorem TypeRef.Within.of_array {name : String} {backEdge : Bool} {items : TypeRef}
    (h : Within (.named name backEdge) (.array items)) : Within (.named name backEdge) items := by
  cases h with
  | items h => exact h

/-- The uses of types that a shape consists of. -/
def Shape.types : Shape → List TypeRef
  | .object fields => fields.map Field.type
  | .enum _ => []
  | .union variants => variants
  | .alias type => [type]

/-- A declaration mentions what is used in a field, a variant or an alias, at any depth of lists. -/
def Declaration.Mentions (declaration : Declaration) (type : TypeRef) : Prop :=
  ∃ use ∈ declaration.shape.types, type.Within use

namespace Catalog

/-- Every declaration that a use refers to, back edges apart, is in the catalog. -/
def Resolves (catalog : Catalog) (use : TypeRef) : Prop :=
  ∀ name, TypeRef.Within (.named name false) use → ∃ declaration ∈ catalog, declaration.name = name

/-- **Order.** A declaration is appended to a catalog that has all it refers to. -/
inductive Ordered : Catalog → Prop where
  | nil : Ordered []
  | snoc {catalog : Catalog} {declaration : Declaration} (h : Ordered catalog)
      (hd : ∀ use ∈ declaration.shape.types, Resolves catalog use) :
      Ordered (catalog ++ [declaration])

theorem Resolves.mono {catalog others : Catalog} {use : TypeRef} (h : catalog.Resolves use)
    (hsub : catalog <+: others) : others.Resolves use := by
  intro name hname
  obtain ⟨declaration, hmem, hd⟩ := h name hname
  exact ⟨declaration, hsub.subset hmem, hd⟩

theorem resolves_array {catalog : Catalog} {items : TypeRef} (h : catalog.Resolves items) :
    catalog.Resolves (.array items) :=
  fun name hname => h name hname.of_array

theorem resolves_named {catalog : Catalog} {name : String}
    (h : ∃ declaration ∈ catalog, declaration.name = name) (backEdge : Bool) :
    catalog.Resolves (.named name backEdge) := by
  intro other hother
  cases hother
  exact h

/-- In an ordered catalog, what the declaration at place `i` refers to is declared at a place before
it. -/
theorem Ordered.exists_lt {catalog : Catalog} (h : catalog.Ordered) {i : Nat}
    {declaration : Declaration} (hi : catalog[i]? = some declaration) {name : String}
    (hname : declaration.Mentions (.named name false)) :
    ∃ j < i, ∃ target, catalog[j]? = some target ∧ target.name = name := by
  induction h with
  | nil => simp at hi
  | snoc h hd ih =>
    rename_i earlier last
    -- the place is that of an earlier declaration, or the last one
    rcases Nat.lt_or_ge i earlier.length with hlt | hge
    · rw [List.getElem?_append_left hlt] at hi
      obtain ⟨j, hj, target, htarget, hn⟩ := ih hi
      refine ⟨j, hj, target, ?_, hn⟩
      rw [List.getElem?_append_left (by omega)]
      exact htarget
    · obtain rfl : i = earlier.length := by
        have := (List.getElem?_eq_some_iff.1 hi).1
        simp only [List.length_append, List.length_singleton] at this
        omega
      rw [List.getElem?_concat_length] at hi
      obtain rfl := Option.some.inj hi
      obtain ⟨use, huse, hwithin⟩ := hname
      obtain ⟨target, hmem, hn⟩ := hd use huse name hwithin
      obtain ⟨j, hj, htarget⟩ := List.getElem_of_mem hmem
      refine ⟨j, hj, target, ?_, hn⟩
      rw [List.getElem?_append_left hj, List.getElem?_eq_getElem hj, htarget]

end Catalog

namespace Analysis

/-! ### What a walk adds to a state -/

/-- A declaration of this name is finished. -/
def State.HasDeclared (state : State) (name : String) : Prop :=
  ∃ declaration ∈ state.declarations, declaration.name = name

/-- **What a walk does to the state around it.** It appends declarations, and whatever structure it
makes known is declared at its end. -/
structure Extends (state state' : State) : Prop where
  declarations : state.declarations <+: state'.declarations
  known : ∀ key name, (key, name) ∈ state'.known →
    (key, name) ∈ state.known ∨ state'.HasDeclared name

theorem State.HasDeclared.mono {state state' : State} {name : String} (h : state.HasDeclared name)
    (hsub : state.declarations <+: state'.declarations) : state'.HasDeclared name := by
  obtain ⟨declaration, hmem, hd⟩ := h
  exact ⟨declaration, hsub.subset hmem, hd⟩

theorem Extends.refl (state : State) : Extends state state :=
  ⟨List.prefix_rfl, fun _ _ h => .inl h⟩

theorem Extends.trans {state middle state' : State} (h : Extends state middle)
    (h' : Extends middle state') : Extends state state' where
  declarations := h.declarations.trans h'.declarations
  known := by
    intro key name hmem
    -- what the first walk declared is still declared
    rcases h'.known key name hmem with hmem | hd
    · exact (h.known key name hmem).imp_right fun hd => hd.mono h'.declarations
    · exact .inr hd

theorem mem_of_lookup {known : List (String × String)} {key name : String}
    (h : known.lookup key = some name) : (key, name) ∈ known := by
  obtain ⟨before, after, rfl, -⟩ := List.lookup_eq_some_iff.1 h
  exact List.mem_append_right _ List.mem_cons_self

/-- **Reserved structures are deep.** Every known structure is declared, or no schema of it is less
deep than `bound`. -/
def Reserved (bound : Nat) (state : State) : Prop :=
  ∀ key name, (key, name) ∈ state.known → state.HasDeclared name ∨
    ∀ schema : Schema, schema.Sound → schema.structureText = .ok key → bound ≤ schema.depth

theorem Reserved.extends {bound : Nat} {state state' : State} (h : Reserved bound state)
    (hext : Extends state state') : Reserved bound state' := by
  intro key name hmem
  rcases hext.known key name hmem with hmem | hd
  · exact (h key name hmem).imp_left fun hd => hd.mono hext.declarations
  · exact .inl hd

/-- What is known of a schema below the bound is declared. -/
theorem Reserved.hasDeclared {bound : Nat} {state : State} {schema : Schema} {key name : String}
    (h : Reserved bound state) (hs : schema.Sound) (hlt : schema.depth < bound)
    (hkey : schema.structureText = .ok key) (hname : state.known.lookup key = some name) :
    state.HasDeclared name := by
  rcases h key name (mem_of_lookup hname) with hd | hdeep
  · exact hd
  · exact absurd (hdeep schema hs hkey) (by omega)

/-- Beginning a declaration reserves its structure, at the depth of the schema. -/
theorem Reserved.begin {bound : Nat} {state : State} {schema : Schema} {key : String}
    (h : Reserved bound state) (hs : schema.Sound) (hle : schema.depth ≤ bound)
    (hkey : schema.structureText = .ok key) (name : String) (title : Json) :
    Reserved schema.depth (state.begin key name title) := by
  intro k n hmem
  rcases List.mem_cons.1 hmem with heq | hmem
  · cases heq
    -- the structure text determines the depth, so the bound holds of every such schema
    refine .inr fun other ho hkey' => ?_
    exact Nat.le_of_eq (Schema.depth_eq_of_structureText hs ho hkey hkey')
  · rcases h k n hmem with hd | hdeep
    · exact .inl hd
    · exact .inr fun other ho hkey' => Nat.le_trans hle (hdeep other ho hkey')

/-- A declaration that was begun is declared by finishing it. -/
theorem Extends.finish {state state' : State} {key name : String} {title : Json}
    (h : Extends (state.begin key name title) state') {declaration : Declaration}
    (hd : declaration.name = name) : Extends state (state'.finish declaration) where
  declarations := h.declarations.trans (List.prefix_append _ _)
  known := by
    intro k n hmem
    rcases h.known k n hmem with hmem | hn
    · rcases List.mem_cons.1 hmem with heq | hmem
      · cases heq
        exact .inr ⟨declaration, List.mem_append_right _ List.mem_cons_self, hd⟩
      · exact .inl hmem
    · exact .inr (hn.mono (List.prefix_append _ _))

theorem Extends.add {state state' : State} (h : Extends state state') (key : String)
    (declaration : Declaration) : Extends state (state'.add key declaration) where
  declarations := h.declarations.trans (List.prefix_append _ _)
  known := by
    intro k n hmem
    rcases List.mem_cons.1 hmem with heq | hmem
    · cases heq
      exact .inr ⟨declaration, List.mem_append_right _ List.mem_cons_self, rfl⟩
    · exact (h.known k n hmem).imp_right fun hn => hn.mono (List.prefix_append _ _)

/-! ### The invariant of a walk -/

/-- Whether all schemas in a part of a walk are less deep than those being built around it. -/
def Task.Below (bound : Nat) : Task → Prop
  | .value json _ => json.height ≤ bound
  | .schema part _ => part.Sound ∧ part.depth < bound
  | .plain part _ _ => part.Sound ∧ part.depth < bound
  | .named _ part _ => part.Sound ∧ part.depth < bound
  | .body _ part _ => part.Sound ∧ part.depth ≤ bound
  | .fields _ _ table => table.height ≤ bound
  | .variants _ _ options _ => Json.heightItems options ≤ bound
  | .typeVariants part _ _ _ => part.Sound ∧ part.depth < bound

/-- The variants that a part of a walk goes on from. -/
def Task.before : Task → List TypeRef
  | .variants _ _ _ before => before
  | .typeVariants _ _ _ before => before
  | _ => []

/-- The uses of types in an answer. -/
def Answer.types : Answer → List TypeRef
  | .type use => [use]
  | .shape declared => declared.types
  | .fields properties => properties.map Field.type
  | .variants uses => uses

/-- What is known at the end of a part of a walk. -/
structure Sorted (state : State) (answer : Answer) (state' : State) : Prop where
  extend : Extends state state'
  ordered : state'.declarations.Ordered
  resolves : ∀ use ∈ answer.types, state'.declarations.Resolves use

theorem mem_addVariant {before : List TypeRef} {variant use : TypeRef}
    (h : use ∈ addVariant before variant) : use ∈ before ∨ use = variant := by
  unfold addVariant at h
  split at h
  · exact .inl h
  · simpa using h

/-- What holds of all variants and of a further one holds of all of them. -/
theorem forall_addVariant {p : TypeRef → Prop} {before : List TypeRef} {variant : TypeRef}
    (h : ∀ use ∈ before, p use) (hv : p variant) : ∀ use ∈ addVariant before variant, p use := by
  intro use huse
  rcases mem_addVariant huse with huse | rfl
  · exact h use huse
  · exact hv

/-- The type of a schema without parts uses no declared one. -/
theorem IsLeaf.not_within {schema : Schema} {type : Json} {leaf : TypeRef}
    (h : IsLeaf schema type leaf) (name : String) (backEdge : Bool) :
    ¬ TypeRef.Within (.named name backEdge) leaf := by
  intro hname
  cases h with
  | object => cases hname
  | array => cases hname.of_array
  | primitive => cases hname
  | any => cases hname

theorem height_le_of_itemsOf? {schema : Schema} {members : Members}
    (h : itemsOf? schema = some members) : (Json.obj members).height ≤ schema.depth :=
  Schema.height_le_depth (get?_of_itemsOf? h) rfl

/-- **A walk keeps the catalog in order.** By induction on the derivation; the bound goes down to
the depth of a schema where its declaration is begun, and stays where a schema is folded or
restricted. -/
theorem Derives.sorted {task : Task} {state state' : State} {log : List Event} {answer : Answer}
    (h : Derives task state log answer state') : ∀ bound, task.Below bound → Reserved bound state →
      state.declarations.Ordered → (∀ use ∈ task.before, state.declarations.Resolves use) →
      Sorted state answer state' := by
  induction h with
  | other hvalue =>
    intro bound _ _ ho _
    refine ⟨.refl _, ho, List.forall_mem_singleton.2 ?_⟩
    exact fun name hname => by cases hname
  | @object members _ _ _ _ _ parts ih =>
    intro bound hbelow hr ho hbefore
    have hlt := Schema.depth_lt_height members
    exact ih bound ⟨Schema.sound_of_members _, Nat.lt_of_lt_of_le hlt hbelow⟩ hr ho hbefore
  | backEdge href hname =>
    -- what refers back is left out of the order
    intro bound _ _ ho _
    refine ⟨.refl _, ho, List.forall_mem_singleton.2 ?_⟩
    exact fun name hname => by cases hname
  | enum href henum parts ih =>
    exact fun bound hbelow hr ho hbefore => ih bound hbelow hr ho hbefore
  | union href henum hunion parts ih =>
    exact fun bound hbelow hr ho hbefore => ih bound hbelow hr ho hbefore
  -- folding makes a schema no deeper
  | allOf hopen hget hmerge parts ih =>
    intro bound hbelow hr ho hbefore
    have hle := Schema.depth_mergeAllOf_le hget hmerge
    have hs := Schema.sound_mergeAllOf hget hmerge
    exact ih bound ⟨hs, Nat.lt_of_le_of_lt hle hbelow.2⟩ hr ho hbefore
  | sole hopen hget htypes parts ih =>
    exact fun bound hbelow hr ho hbefore => ih bound hbelow hr ho hbefore
  | shared hopen hget htypes hkey hname =>
    intro bound hbelow hr ho _
    refine ⟨.refl _, ho, List.forall_mem_singleton.2 ?_⟩
    exact Catalog.resolves_named (hr.hasDeclared hbelow.1 hbelow.2 hkey hname) false
  | several hopen hget htypes hkey hnone parts hbase hname ih =>
    intro bound hbelow hr ho _
    -- the variants are walked first, at the same bound, so nothing is reserved meanwhile
    have hs := ih bound hbelow hr ho (List.forall_mem_nil _)
    refine ⟨hs.extend.add _ _, hs.ordered.snoc hs.resolves, List.forall_mem_singleton.2 ?_⟩
    exact Catalog.resolves_named ⟨_, List.mem_append_right _ List.mem_cons_self, rfl⟩ false
  | record hlike hfields parts ih =>
    exact fun bound hbelow hr ho hbefore => ih bound hbelow hr ho hbefore
  | list hno hlike hitems parts ih =>
    intro bound hbelow hr ho hbefore
    have hle := height_le_of_itemsOf? hitems
    have hs := ih bound (Nat.le_trans hle (Nat.le_of_lt hbelow.2)) hr ho hbefore
    refine ⟨hs.extend, hs.ordered, List.forall_mem_singleton.2 ?_⟩
    exact Catalog.resolves_array (hs.resolves _ List.mem_cons_self)
  | leaf hleaf =>
    intro bound _ _ ho _
    refine ⟨.refl _, ho, List.forall_mem_singleton.2 ?_⟩
    exact fun name hname => absurd hname (hleaf.not_within name false)
  | known hkey hname =>
    intro bound hbelow hr ho _
    refine ⟨.refl _, ho, List.forall_mem_singleton.2 ?_⟩
    exact Catalog.resolves_named (hr.hasDeclared hbelow.1 hbelow.2 hkey hname) false
  | @fresh _ schema _ _ _ name _ _ _ _ hkey hnone hbase hname parts ih =>
    intro bound hbelow hr ho _
    -- the declaration is open while the parts are walked, so the bound is its depth for them
    have hbegin := hr.begin hbelow.1 (Nat.le_of_lt hbelow.2) hkey name schema.title
    have hs := ih schema.depth ⟨hbelow.1, Nat.le_refl _⟩ hbegin ho
      (List.forall_mem_nil _)
    refine ⟨hs.extend.finish rfl, hs.ordered.snoc hs.resolves, List.forall_mem_singleton.2 ?_⟩
    exact Catalog.resolves_named ⟨_, List.mem_append_right _ List.mem_cons_self, rfl⟩ false
  | enumBody hvalues =>
    intro bound _ _ ho _
    exact ⟨.refl _, ho, List.forall_mem_nil _⟩
  | unionBody hoptions parts ih =>
    intro bound hbelow hr ho hbefore
    have hle := height_le_of_alternatives hoptions
    have hs := ih bound (Nat.le_trans hle hbelow.2) hr ho
      (List.forall_mem_nil _)
    exact ⟨hs.extend, hs.ordered, hs.resolves⟩
  | objectBody hrequired htable parts ih =>
    intro bound hbelow hr ho hbefore
    have hle := height_le_of_propertiesOf htable
    have hs := ih bound (Nat.le_trans hle hbelow.2) hr ho hbefore
    exact ⟨hs.extend, hs.ordered, hs.resolves⟩
  | noField => exact fun bound _ _ ho _ => ⟨.refl _, ho, List.forall_mem_nil _⟩
  -- what the first part declared stays declared behind the others
  | field first others ihFirst ihOthers =>
    intro bound hbelow hr ho hbefore
    simp only [Task.Below, PropertyTable.height, Nat.max_le] at hbelow
    have hs := ihFirst bound hbelow.1 hr ho hbefore
    have hs' := ihOthers bound hbelow.2 (hr.extends hs.extend) hs.ordered
      (List.forall_mem_nil _)
    refine ⟨hs.extend.trans hs'.extend, hs'.ordered, fun use huse => ?_⟩
    rcases List.mem_cons.1 huse with rfl | huse
    · exact (hs.resolves _ List.mem_cons_self).mono hs'.extend.declarations
    · exact hs'.resolves use huse
  | noVariant => exact fun bound _ _ ho hbefore => ⟨.refl _, ho, hbefore⟩
  | variant first others ihFirst ihOthers =>
    intro bound hbelow hr ho hbefore
    simp only [Task.Below, Json.heightItems, Nat.max_le] at hbelow
    have hs := ihFirst bound hbelow.1 hr ho (List.forall_mem_nil _)
    have hs' := ihOthers bound hbelow.2 (hr.extends hs.extend) hs.ordered
      (forall_addVariant (fun use huse => (hbefore use huse).mono hs.extend.declarations)
        (hs.resolves _ List.mem_cons_self))
    exact ⟨hs.extend.trans hs'.extend, hs'.ordered, hs'.resolves⟩
  | noType => exact fun bound _ _ ho hbefore => ⟨.refl _, ho, hbefore⟩
  | @type schema _ type _ _ _ _ _ _ _ _ _ first others ihFirst ihOthers =>
    intro bound hbelow hr ho hbefore
    have hle := Schema.depth_restrict_le schema type
    have hfirst := Schema.sound_restrict type hbelow.1
    have hs := ihFirst bound ⟨hfirst, Nat.lt_of_le_of_lt hle hbelow.2⟩ hr ho
      (List.forall_mem_nil _)
    have hs' := ihOthers bound hbelow (hr.extends hs.extend) hs.ordered
      (forall_addVariant (fun use huse => (hbefore use huse).mono hs.extend.declarations)
        (hs.resolves _ List.mem_cons_self))
    exact ⟨hs.extend.trans hs'.extend, hs'.ordered, hs'.resolves⟩

/-! ### The catalog of an analysis -/

/-- Between two walks of an analysis, everything known is declared. -/
def State.Settled (state : State) : Prop :=
  ∀ key name, (key, name) ∈ state.known → state.HasDeclared name

theorem State.Settled.reserved {state : State} (h : state.Settled) (bound : Nat) :
    Reserved bound state :=
  fun key name hmem => .inl (h key name hmem)

theorem State.Settled.extends {state state' : State} (h : state.Settled)
    (hext : Extends state state') : state'.Settled := by
  intro key name hmem
  rcases hext.known key name hmem with hmem | hd
  · exact (h key name hmem).mono hext.declarations
  · exact hd

/-- A walk over an entry of the agenda. -/
theorem Derives.sorted_value {value hint : Json} {type : TypeRef} {state state' : State}
    {log : List Event} (h : Derives (.value value hint) state log (.type type) state')
    (hs : state.Settled) (ho : state.declarations.Ordered) : Sorted state (.type type) state' :=
  h.sorted value.height (Nat.le_refl _) (hs.reserved _) ho
    (List.forall_mem_nil _)

theorem Defines.sorted {agenda : List (Json × Json)} {state state' : State} {log : List Event}
    (h : Defines agenda state log state') (hs : state.Settled) (ho : state.declarations.Ordered) :
    state'.Settled ∧ state'.declarations.Ordered := by
  induction h with
  | done => exact ⟨hs, ho⟩
  | declared walk others ih =>
    have hw := walk.sorted_value hs ho
    exact ih (hs.extends hw.extend) hw.ordered
  | known walk hkey hname others ih =>
    have hw := walk.sorted_value hs ho
    exact ih (hs.extends hw.extend) hw.ordered
  | fresh walk hkey hnone hbase hname others ih =>
    have hw := walk.sorted_value hs ho
    exact ih (hs.extends (hw.extend.add _ _)) (hw.ordered.snoc hw.resolves)

/-- The catalog of an analysis is in order. -/
theorem ordered_of_analyze {schemas : List Json} {catalog : Catalog}
    (h : analyze schemas = .ok catalog) : catalog.Ordered := by
  obtain ⟨log, state, hd, rfl⟩ := defines_of_analyze h
  exact (hd.sorted (fun key name hmem => by cases hmem) .nil).2

/-- **Dependency order.** In the catalog of an analysis, every use of a declared type that is no
back edge refers to an earlier declaration, wherever it stands in its own. -/
theorem analyze_ordered {schemas : List Json} {catalog : Catalog}
    (h : analyze schemas = .ok catalog) {i : Nat} {declaration : Declaration}
    (hi : catalog[i]? = some declaration) {name : String}
    (hname : declaration.Mentions (.named name false)) :
    ∃ j < i, ∃ target, catalog[j]? = some target ∧ target.name = name := by
  obtain ⟨log, state, hd, rfl⟩ := defines_of_analyze h
  have settled : ({} : State).Settled := fun key name hmem => by cases hmem
  exact (hd.sorted settled .nil).2.exists_lt hi hname

/-! ### A list of constants -/

/-- `{"items": {"const": null}}`, whose items need a declaration before the list gets its name. -/
def constantItems : Members := [("items", .obj [("const", .null)])]

/-- The catalog of a list of constants. -/
def constantCatalog : Catalog :=
  [⟨"SchemaItem", "", .enum [.null]⟩, ⟨"Schema", "", .alias (.array (.named "SchemaItem" false))⟩]

theorem analyze_constantItems : analyze [.obj constantItems] = .ok constantCatalog := by
  have hitem : schemaRef ⟨[("const", .null)], none⟩ (.str "Schema Item") {} =
      .ok (.named "SchemaItem" false, ⟨[⟨"SchemaItem", "", .enum [.null]⟩], ["SchemaItem"],
        [("\x7b\"const\": null\x7d", "SchemaItem")], []⟩) := by
    have hkey : Schema.structureText ⟨[("const", .null)], none⟩ =
        .ok "\x7b\"const\": null\x7d" :=
      Json.eq_ok_of_toOption (by decide +kernel)
    have hbase : baseName .null (.str "Schema Item") = .ok "SchemaItem" :=
      baseName_of_hint (fun text heq => by cases heq) (by decide +kernel) (by decide +kernel)
    rw [schemaRef_enum (fun ref h => by cases h) rfl, bind_of_ok (enter_of_base hkey rfl hbase)]
    rfl
  have hlist : typeRef (.obj constantItems) (.str "Schema") {} =
      .ok (.array (.named "SchemaItem" false), ⟨[⟨"SchemaItem", "", .enum [.null]⟩], ["SchemaItem"],
        [("\x7b\"const\": null\x7d", "SchemaItem")], []⟩) := by
    have hopen : IsOpen ⟨constantItems, none⟩ := ⟨fun ref h => (by cases h), rfl, rfl⟩
    rw [typeRef, schemaRef_open hopen]
    change plainRef _ _ .null _ = _
    rw [plainRef_eq]
    change (typeRef _ _ >>= _) _ = _
    rw [typeRef]
    exact bind_of_ok hitem
  have hdefine : define (.obj constantItems) (.str "Schema") {} =
      .ok ((), ⟨constantCatalog, ["Schema", "SchemaItem"],
        [("\x7b\"items\": \x7b\"const\": null\x7d\x7d", "Schema"),
          ("\x7b\"const\": null\x7d", "SchemaItem")], []⟩) := by
    have hkey : Schema.structureText ⟨constantItems, none⟩ =
        .ok "\x7b\"items\": \x7b\"const\": null\x7d\x7d" :=
      Json.eq_ok_of_toOption (by decide +kernel)
    have hbase : baseName .null (.str "Schema") = .ok "Schema" :=
      baseName_of_hint (fun text heq => by cases heq) (by decide +kernel) (by decide +kernel)
    unfold define
    rw [bind_of_ok hlist]
    simp only
    rw [bind_of_ok (orCrash_of_ok hkey)]
    change (nameOf? _ >>= _) _ = _
    rw [bind_of_ok (nameOf?_of_lookup (by rfl : _ = none))]
    exact bind_of_ok (reserve_of_base hbase _)
  unfold analyze
  change ((define (.obj constantItems) (.str "Schema") >>= fun _ => pure ()) >>= fun _ =>
    defineRest [.obj constantItems]) {} >>= _ = _
  rw [bind_of_ok (bind_of_ok hdefine)]
  rfl

theorem analyze_ordered_constantItems :
    ∃ j < 1, ∃ target, constantCatalog[j]? = some target ∧ target.name = "SchemaItem" :=
  analyze_ordered analyze_constantItems (i := 1) rfl ⟨_, List.mem_cons_self, .items .self⟩

end Analysis

end SchemaPress
