import SchemaPress.Proofs.Analysis.Order
import SchemaPress.Proofs.Name.Fresh

/-!
# One name for one structure

In an analysis, structures become known under names. No name is given to two structures and no
structure gets two names (`Naming`), which every walk keeps up (`Derives.naming`).

A name is fresh when it is reserved, and mostly the structure is looked up right before. Only the
union of several allowed types gets its name after its variants were walked, so it has to be ruled
out that one of them had the structure of the union itself. `Task.Reaches` bounds the schemas that
a part of a walk can make known: they are less deep, or they are restrictions, whose type is an
element of the list of types. Since the structure text determines both the depth and the height of
the type, it is another one.
-/

namespace SchemaPress.Analysis

/-! ### Which structures become known -/

/-- Whether schemas are sound in a part of a walk. -/
def Task.IsSound : Task → Prop
  | .schema part _ => part.Sound
  | .plain part _ _ => part.Sound
  | .named _ part _ => part.Sound
  | .body _ part _ => part.Sound
  | .typeVariants part _ _ _ => part.Sound
  | _ => True

/-- Not deeper, and either less deep or of no higher type. -/
def IsBelow (inner schema : Schema) (typeHeight : Nat) : Prop :=
  inner.depth ≤ schema.depth ∧ (inner.depth < schema.depth ∨ inner.typeHeight ≤ typeHeight)

/-- **The schemas that a part of a walk can make known.** -/
def Task.Reaches : Task → Schema → Prop
  | .value json _, inner => inner.depth < json.height
  | .schema part _, inner => inner.depth ≤ part.depth ∧
      (part.get? "allOf" = none → IsBelow inner part part.typeHeight)
  | .plain part _ _, inner => IsBelow inner part part.typeHeight
  | .named _ part _, inner => IsBelow inner part part.typeHeight
  | .body _ part _, inner => inner.depth < part.depth
  | .fields _ _ table, inner => inner.depth < table.height
  | .variants _ _ options _, inner => inner.depth < Json.heightItems options
  | .typeVariants part _ types _, inner => inner.depth ≤ part.depth ∧
      (part.get? "allOf" = none → IsBelow inner part (Json.heightItems types + 1))

/-- What a walk makes known are structures of schemas that it reaches. -/
def Adds (task : Task) (state state' : State) : Prop :=
  ∀ key name, (key, name) ∈ state'.known → (key, name) ∈ state.known ∨
    ∃ inner, task.Reaches inner ∧ inner.Sound ∧ inner.structureText = .ok key

theorem Adds.refl (task : Task) (state : State) : Adds task state state :=
  fun _ _ h => .inl h

/-- A part of a walk reaches what its own part reaches. -/
theorem Adds.imp {task other : Task} {state state' : State} (h : Adds other state state')
    (himp : ∀ inner, other.Reaches inner → task.Reaches inner) : Adds task state state' := by
  intro key name hmem
  rcases h key name hmem with hmem | ⟨inner, hreach, hrest⟩
  · exact .inl hmem
  · exact .inr ⟨inner, himp inner hreach, hrest⟩

theorem Adds.trans {task : Task} {state middle state' : State} (h : Adds task state middle)
    (h' : Adds task middle state') : Adds task state state' := by
  intro key name hmem
  rcases h' key name hmem with hmem | hnew
  · exact h key name hmem
  · exact .inr hnew

/-- One more structure, that of a schema that is reached. -/
theorem Adds.learn {task : Task} {state middle state' : State} {schema : Schema} {key name : String}
    (hbegin : state'.known = (key, name) :: middle.known) (h : Adds task state middle)
    (hreach : task.Reaches schema) (hs : schema.Sound) (hkey : schema.structureText = .ok key) :
    Adds task state state' := by
  intro other n hmem
  rw [hbegin] at hmem
  rcases List.mem_cons.1 hmem with heq | hmem
  · cases heq
    exact .inr ⟨schema, hreach, hs, hkey⟩
  · exact h other n hmem

theorem typeHeight_of_typesOf {schema : Schema} {types : List Json}
    (h : typesOf schema = .inr types) :
    schema.typeHeight = Json.heightItems types + 2 := by
  simp only [Schema.typeHeight, Schema.heightOf, get?_of_typesOf h, Json.height]

/-- Restriction makes no `allOf`. -/
theorem get?_allOf_restrict {schema : Schema} (h : schema.get? "allOf" = none) (type : Json) :
    (schema.restrict type).get? "allOf" = none := by
  have hheight := Schema.allOfHeight_restrict_le schema type
  have hzero : schema.allOfHeight = 0 := by simp only [Schema.allOfHeight, Schema.heightOf, h]
  cases hget : (schema.restrict type).get? "allOf" with
  | none => rfl
  | some value =>
    simp only [Schema.allOfHeight, Schema.heightOf, hget] at hheight hzero
    omega

theorem below_self (schema : Schema) : IsBelow schema schema schema.typeHeight :=
  ⟨Nat.le_refl _, .inr (Nat.le_refl _)⟩

theorem below_of_lt {inner schema : Schema} (h : inner.depth < schema.depth) (typeHeight : Nat) :
    IsBelow inner schema typeHeight :=
  ⟨Nat.le_of_lt h, .inl h⟩

/-- **A walk makes known what it reaches.** -/
theorem Derives.adds {task : Task} {state state' : State} {log : List Event} {answer : Answer}
    (h : Derives task state log answer state') : task.IsSound → Adds task state state' := by
  induction h with
  | other => exact fun _ => .refl _ _
  | @object members _ _ _ _ _ parts ih =>
    intro _
    have hlt := Schema.depth_lt_height members
    exact (ih (Schema.sound_of_members _)).imp fun inner hreach => Nat.lt_of_le_of_lt hreach.1 hlt
  | backEdge => exact fun _ => .refl _ _
  | enum href henum parts ih =>
    exact fun hs => (ih hs).imp fun inner hreach => ⟨hreach.1, fun _ => hreach⟩
  | union href henum hunion parts ih =>
    exact fun hs => (ih hs).imp fun inner hreach => ⟨hreach.1, fun _ => hreach⟩
  -- what is folded has no `allOf` to ask for, so the depth is all there is to show
  | allOf hopen hget hmerge parts ih =>
    intro _
    have hle := Schema.depth_mergeAllOf_le hget hmerge
    refine (ih (Schema.sound_mergeAllOf hget hmerge)).imp fun inner hreach => ?_
    exact ⟨Nat.le_trans hreach.1 hle, fun hnone => absurd (hget.symm.trans hnone) nofun⟩
  | sole hopen hget htypes parts ih =>
    exact fun hs => (ih hs).imp fun inner hreach => ⟨hreach.1, fun _ => hreach⟩
  | shared => exact fun _ => .refl _ _
  -- the variants are restrictions, whose types are lower than the list of types
  | @several schema _ _ _ _ _ _ _ _ _ hopen hget htypes hkey hnone parts hbase hname ih =>
    intro hs
    have hheight := typeHeight_of_typesOf htypes
    refine Adds.learn rfl ((ih hs).imp fun inner hreach => ⟨hreach.1, fun hallOf => ?_⟩)
      ⟨Nat.le_refl _, fun _ => below_self schema⟩ hs hkey
    refine ⟨hreach.1, (hreach.2 hallOf).2.imp_right fun hle => ?_⟩
    omega
  | record hlike hfields parts ih => exact fun hs => ih hs
  | list hno hlike hitems parts ih =>
    intro _
    have hle := height_le_of_itemsOf? hitems
    exact (ih trivial).imp fun inner hreach => below_of_lt (Nat.lt_of_lt_of_le hreach hle) _
  | leaf => exact fun _ => .refl _ _
  | known => exact fun _ => .refl _ _
  | @fresh form schema hint key _ name _ state _ _ hkey hnone hbase hname parts ih =>
    intro hs
    have hbegin : Adds (.named form schema hint) state (state.begin key name schema.title) :=
      Adds.learn rfl (.refl _ _) (below_self schema) hs hkey
    have hparts : Adds (.named form schema hint) (state.begin key name schema.title) _ :=
      (ih hs).imp fun inner hreach => below_of_lt hreach _
    exact hbegin.trans hparts
  | enumBody => exact fun _ => .refl _ _
  | unionBody hoptions parts ih =>
    intro _
    have hle := height_le_of_alternatives hoptions
    exact (ih trivial).imp fun inner hreach => Nat.lt_of_lt_of_le hreach hle
  | objectBody hrequired htable parts ih =>
    intro _
    have hle := height_le_of_propertiesOf htable
    exact (ih trivial).imp fun inner hreach => Nat.lt_of_lt_of_le hreach hle
  | noField => exact fun _ => .refl _ _
  | field first others ihFirst ihOthers =>
    intro _
    refine ((ihFirst trivial).imp fun inner hreach => ?_).trans
      ((ihOthers trivial).imp fun inner hreach => ?_)
    · exact Nat.lt_of_lt_of_le hreach (Nat.le_max_left _ _)
    · exact Nat.lt_of_lt_of_le hreach (Nat.le_max_right _ _)
  | noVariant => exact fun _ => .refl _ _
  | variant first others ihFirst ihOthers =>
    intro _
    refine ((ihFirst trivial).imp fun inner hreach => ?_).trans
      ((ihOthers trivial).imp fun inner hreach => ?_)
    · exact Nat.lt_of_lt_of_le hreach (Nat.le_max_left _ _)
    · exact Nat.lt_of_lt_of_le hreach (Nat.le_max_right _ _)
  | noType => exact fun _ => .refl _ _
  -- a restriction has a type out of the list: less deep, or of a lower type
  | @type schema _ type _ _ _ _ _ _ _ _ _ first others ihFirst ihOthers =>
    intro hs
    have hle := Schema.depth_restrict_le schema type
    have hheight := Schema.typeHeight_restrict schema type
    refine ((ihFirst (Schema.sound_restrict type hs)).imp fun inner hreach => ?_).trans
      ((ihOthers hs).imp fun inner hreach => ?_)
    · refine ⟨Nat.le_trans hreach.1 hle, fun hnone => ?_⟩
      obtain ⟨hdepth, hlt | hlow⟩ := hreach.2 (get?_allOf_restrict hnone type)
      · exact below_of_lt (Nat.lt_of_lt_of_le hlt hle) _
      · refine ⟨Nat.le_trans hdepth hle, .inr ?_⟩
        rw [Json.heightItems]
        omega
    · refine ⟨hreach.1, fun hnone => ?_⟩
      obtain ⟨hdepth, hlow⟩ := hreach.2 hnone
      refine ⟨hdepth, hlow.imp_right fun hlow => ?_⟩
      rw [Json.heightItems]
      omega

theorem not_mem_of_lookup {known : List (String × String)} {key : String}
    (h : known.lookup key = none) (name : String) : (key, name) ∉ known := by
  intro hmem
  have hno := List.lookup_eq_none_iff.1 h _ hmem
  simp at hno

/-- The union of allowed types is not among what its variants make known. -/
theorem not_known_of_several {schema : Schema} {hint : Json} {types : List Json}
    {variants : List TypeRef} {key : String} {state state' : State} {log : List Event}
    (hs : schema.Sound) (hget : schema.get? "allOf" = none) (htypes : typesOf schema = .inr types)
    (hkey : schema.structureText = .ok key) (hnone : state.known.lookup key = none)
    (h : Derives (.typeVariants schema hint types []) state log (.variants variants) state') :
    ∀ name, (key, name) ∉ state'.known := by
  intro name hmem
  rcases h.adds hs key name hmem with hold | ⟨inner, hreach, hinner, hinnerKey⟩
  · exact not_mem_of_lookup hnone name hold
  -- a variant of this structure would be as deep and of a type as high as the union
  · have hdepth := Schema.depth_eq_of_structureText hinner hs hinnerKey hkey
    have hheight := Schema.typeHeight_eq_of_structureText hinnerKey hkey
    have htype := typeHeight_of_typesOf htypes
    rcases (hreach.2 hget).2 with hlt | hle
    · omega
    · omega

/-! ### Names -/

/-- **Names and structures.** Known names are taken, and names and structures determine each
other. -/
structure Naming (names : List String) (known : List (String × String)) : Prop where
  taken : ∀ key name, (key, name) ∈ known → name ∈ names
  structures : ∀ key key' name, (key, name) ∈ known → (key', name) ∈ known → key = key'
  single : ∀ key name name', (key, name) ∈ known → (key, name') ∈ known → name = name'

theorem Naming.nil : Naming [] [] where
  taken := nofun
  structures := nofun
  single := nofun

/-- A fresh name for a new structure. -/
theorem Naming.cons {names : List String} {known : List (String × String)} {key name : String}
    (h : Naming names known) (hkey : ∀ other, (key, other) ∉ known) (hname : name ∉ names) :
    Naming (name :: names) ((key, name) :: known) where
  taken := by
    intro other n hmem
    rcases List.mem_cons.1 hmem with heq | hmem
    · cases heq
      exact List.mem_cons_self
    · exact List.mem_cons_of_mem _ (h.taken other n hmem)
  structures := by
    intro other other' n hmem hmem'
    -- two entries: both new, one of them, or none
    rcases List.mem_cons.1 hmem with heq | hmem <;> rcases List.mem_cons.1 hmem' with heq' | hmem'
    · rw [(Prod.mk.inj heq).1, (Prod.mk.inj heq').1]
    · exact absurd (h.taken _ _ hmem') ((Prod.mk.inj heq).2 ▸ hname)
    · exact absurd (h.taken _ _ hmem) ((Prod.mk.inj heq').2 ▸ hname)
    · exact h.structures _ _ _ hmem hmem'
  single := by
    intro other n n' hmem hmem'
    rcases List.mem_cons.1 hmem with heq | hmem <;> rcases List.mem_cons.1 hmem' with heq' | hmem'
    · rw [(Prod.mk.inj heq).2, (Prod.mk.inj heq').2]
    · exact absurd hmem' ((Prod.mk.inj heq).1 ▸ hkey n')
    · exact absurd hmem ((Prod.mk.inj heq').1 ▸ hkey n)
    · exact h.single _ _ _ hmem hmem'

/-- **A walk keeps names and structures in step.** -/
theorem Derives.naming {task : Task} {state state' : State} {log : List Event} {answer : Answer}
    (h : Derives task state log answer state') : task.IsSound → Naming state.names state.known →
      Naming state'.names state'.known := by
  induction h with
  | @object members _ _ _ _ _ parts ih => exact fun _ hn => ih (Schema.sound_of_members _) hn
  | enum href henum parts ih => exact ih
  | union href henum hunion parts ih => exact ih
  | allOf hopen hget hmerge parts ih =>
    exact fun _ hn => ih (Schema.sound_mergeAllOf hget hmerge) hn
  | sole hopen hget htypes parts ih => exact ih
  | several hopen hget htypes hkey hnone parts hbase hname ih =>
    intro hs hn
    have hnew := not_known_of_several hs hget htypes hkey hnone parts
    exact (ih hs hn).cons hnew (hname ▸ Name.fresh_not_mem _ _)
  | record hlike hfields parts ih => exact ih
  | list hno hlike hitems parts ih => exact fun _ hn => ih trivial hn
  | fresh hkey hnone hbase hname parts ih =>
    exact fun hs hn => ih hs (hn.cons (not_mem_of_lookup hnone) (hname ▸ Name.fresh_not_mem _ _))
  | unionBody hoptions parts ih => exact fun _ hn => ih trivial hn
  | objectBody hrequired htable parts ih => exact fun _ hn => ih trivial hn
  | field first others ihFirst ihOthers => exact fun _ hn => ihOthers trivial (ihFirst trivial hn)
  | variant first others ihFirst ihOthers => exact fun _ hn => ihOthers trivial (ihFirst trivial hn)
  | type first others ihFirst ihOthers =>
    exact fun hs hn => ihOthers hs (ihFirst (Schema.sound_restrict _ hs) hn)
  | _ => exact fun _ hn => hn

/-- **So does an analysis.** -/
theorem Defines.naming {agenda : List (Json × Json)} {state state' : State} {log : List Event}
    (h : Defines agenda state log state') (hn : Naming state.names state.known) :
    Naming state'.names state'.known := by
  induction h with
  | done => exact hn
  | declared walk others ih => exact ih (walk.naming trivial hn)
  | known walk hkey hname others ih => exact ih (walk.naming trivial hn)
  | fresh walk hkey hnone hbase hname others ih =>
    exact ih ((walk.naming trivial hn).cons (not_mem_of_lookup hnone)
      (hname ▸ Name.fresh_not_mem _ _))

end SchemaPress.Analysis
