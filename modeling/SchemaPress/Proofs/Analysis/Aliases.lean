import SchemaPress.Proofs.Analysis.Definitions

/-!
# Aliases

What is on the agenda of an analysis and needs no declaration of its own gets an alias for its type. Such a
type is a list, a back edge, or neither refers to anything. So what an alias refers to is told by the schema
that is left when lists are entered and every `allOf` on the way is folded (`Unwraps`).

* If that is a back edge, it is taken for a declaration of its title, since nothing is being built around
  it (`Spells`). Nothing keeps that declaration from being the alias itself.
* Otherwise it is a schema with a declaration of its own. That one is no alias that refers to anything: a
  structure text tells enums, unions and object types from all other schemas (`IsShaped.of_outline`), and
  the structure of an alias that refers to something is none of these.

So aliases that refer to something are referred to by aliases through back edges only, and the schemas on
the agenda tell where these lead (`aliases_of_analyze`).
-/

namespace SchemaPress

/-- The declaration is another name for a type. -/
def Declaration.IsAlias (declaration : Declaration) : Prop :=
  ∃ type, declaration.shape = .alias type

/-- An alias mentions what its type uses. -/
theorem Declaration.mentions_alias_iff {name description : String} {type use : TypeRef} :
    Mentions ⟨name, description, .alias type⟩ use ↔ use.Within type := by
  constructor
  · rintro ⟨other, hother, hwithin⟩
    obtain rfl := List.mem_singleton.1 hother
    exact hwithin
  · exact fun hwithin => ⟨type, List.mem_singleton_self _, hwithin⟩

namespace Analysis

open Declaration (mentions_alias_iff)
open Schema (outline row?_outline lookup_ofMembers)
open Outline (ofJson ofItems_eq_map row? lookup_arrange)

/-! ### What a structure tells -/

section Outline

variable {schema other : Schema}

theorem ofJson_eq_text_iff {value : Json} {text : String} :
    ofJson value = .text text ↔ value = .str text := by
  cases value with
  | str string =>
    constructor
    · intro h
      exact congrArg Json.str (Outline.text.inj h)
    · intro h
      exact congrArg Outline.text (Json.str.inj h)
  | bool value => cases value <;> exact iff_of_false nofun nofun
  | _ => exact iff_of_false nofun nofun

/-- Values of one outline are the same text, or no texts. -/
theorem str?_eq_of_outline {value value' : Json} (h : ofJson value = ofJson value') :
    value.str? = value'.str? := by
  have hiff (text : String) : value.str? = some text ↔ value'.str? = some text := by
    have hstr (value : Json) : value.str? = some text ↔ ofJson value = .text text := by
      rw [ofJson_eq_text_iff]
      cases value <;> simp [Json.str?]
    rw [hstr, hstr, h]
  exact Option.ext hiff

section Members

variable (h : schema.outline = other.outline)

include h

theorem get?_of_outline (name : String) (hname : name ≠ "properties") :
    (schema.get? name).map ofJson = (other.get? name).map ofJson := by
  rw [← row?_outline schema hname, ← row?_outline other hname, h]

theorem has_of_outline (name : String) (hname : name ≠ "properties") :
    schema.has name = other.has name := by
  have hsome := congrArg Option.isSome (get?_of_outline h name hname)
  rw [Option.isSome_map, Option.isSome_map] at hsome
  change Members.has schema.members name = Members.has other.members name
  rw [Members.has_eq_isSome, Members.has_eq_isSome]
  exact hsome

theorem ref_of_outline {ref : String} (href : schema.get? "$ref" = some (.str ref)) :
    other.get? "$ref" = some (.str ref) := by
  have hget := get?_of_outline h "$ref" (by decide)
  rw [href] at hget
  obtain ⟨value, hvalue, htext⟩ := Option.map_eq_some_iff.1 hget.symm
  rw [hvalue, ofJson_eq_text_iff.1 htext]

/-- Whether there are properties can be seen, whether they are kept in a table or not. -/
theorem hasProperties_of_outline : schema.hasProperties = other.hasProperties := by
  have hrow (schema : Schema) : schema.hasProperties = (schema.outline.row? "properties").isSome := by
    unfold Schema.hasProperties outline
    cases htable : schema.table with
    | none =>
      change Members.has schema.members "properties" = _
      rw [Members.has_eq_isSome, ofJson, row?, lookup_arrange, lookup_ofMembers, Option.isSome_map]
    | some table =>
      rw [row?, lookup_arrange]
      rfl
  rw [hrow, hrow, h]

/-- A schema of one type has the same structure as schemas of one type only, whose types are the same text
or no texts. -/
theorem typesOf_of_outline {type : Json} (htypes : typesOf schema = .inl type) :
    ∃ type', typesOf other = .inl type' ∧ type.str? = type'.str? := by
  have hget := get?_of_outline h "type" (by decide)
  -- lists of one structure are of one length, so both allow a single type or both allow several
  by_cases harr : ∃ types, schema.get? "type" = some (.arr types)
  · obtain ⟨types, hsome⟩ := harr
    rw [hsome] at hget
    obtain ⟨value, hvalue, hlist⟩ := Option.map_eq_some_iff.1 hget.symm
    cases value with
    | arr types' =>
      have hmap : types'.map ofJson = types.map ofJson := by
        rw [← ofItems_eq_map, ← ofItems_eq_map]
        exact Outline.list.inj hlist
      by_cases hsole : ∃ sole, types = [sole]
      · obtain ⟨sole, rfl⟩ := hsole
        obtain ⟨sole', rfl, heq⟩ := List.map_eq_singleton_iff.1 hmap
        rw [typesOf_sole hsome] at htypes
        obtain rfl := Sum.inl.inj htypes
        exact ⟨sole', typesOf_sole hvalue, str?_eq_of_outline heq.symm⟩
      · rw [typesOf_several (fun sole heq => hsole ⟨sole, heq⟩) hsome] at htypes
        cases htypes
    | bool value => cases value <;> cases hlist
    | _ => cases hlist
  · have hno : ∀ types, schema.get? "type" ≠ some (.arr types) := fun types h => harr ⟨types, h⟩
    rw [typesOf_other hno] at htypes
    obtain rfl := Sum.inl.inj htypes
    have hno' : ∀ types, other.get? "type" ≠ some (.arr types) := by
      intro types hsome
      rw [hsome] at hget
      obtain ⟨value, hvalue, hlist⟩ := Option.map_eq_some_iff.1 hget
      cases value with
      | arr types' => exact hno types' hvalue
      | bool value => cases value <;> cases hlist
      | _ => cases hlist
    refine ⟨_, typesOf_other hno', ?_⟩
    cases hschema : schema.get? "type" with
    | none =>
      rw [hschema] at hget
      rw [Option.map_eq_none_iff.1 hget.symm]
    | some value =>
      rw [hschema] at hget
      obtain ⟨value', hvalue', heq⟩ := Option.map_eq_some_iff.1 hget.symm
      rw [hvalue']
      exact str?_eq_of_outline heq.symm

end Members

end Outline

/-! ### Schemas of a shape -/

/-- **Schemas of a shape**: enums, unions and object types, as opposed to back edges, to schemas that have
to be folded first, to lists and to primitives. -/
structure IsShaped (schema : Schema) : Prop where
  ref : ∀ ref, schema.get? "$ref" ≠ some (.str ref)
  shape : (schema.has "enum" || schema.has "const") = true ∨
    (schema.has "oneOf" || schema.has "anyOf") = true ∨
    (schema.get? "allOf" = none ∧ ∀ type, typesOf schema = .inl type → isObjectLike schema type = true)

/-- Declarations are made for schemas of a shape. -/
theorem Lands.isShaped {schema landed : Schema} (h : Lands schema landed) : IsShaped landed := by
  induction h with
  | enum href henum => exact ⟨href, .inl henum⟩
  | union href henum hunion => exact ⟨href, .inr (.inl hunion)⟩
  | allOf hopen hget hmerge rest ih => exact ih
  | several hopen hget htypes =>
    refine ⟨hopen.ref, .inr (.inr ⟨hget, fun type hsole => ?_⟩)⟩
    cases htypes.symm.trans hsole
  | record hopen hget htypes hlike hfields =>
    refine ⟨hopen.ref, .inr (.inr ⟨hget, fun type hsole => ?_⟩)⟩
    obtain rfl := Sum.inl.inj (htypes.symm.trans hsole)
    exact hlike

/-- **The structure text tells schemas of a shape** from all other ones. -/
theorem IsShaped.of_outline {schema other : Schema} (h : IsShaped schema)
    (heq : schema.outline = other.outline) : IsShaped other where
  ref ref href := h.ref ref (ref_of_outline heq.symm href)
  shape := by
    rcases h.shape with henum | hunion | ⟨hget, hsole⟩
    · left
      rw [← has_of_outline heq "enum" (by decide), ← has_of_outline heq "const" (by decide)]
      exact henum
    · right; left
      rw [← has_of_outline heq "oneOf" (by decide), ← has_of_outline heq "anyOf" (by decide)]
      exact hunion
    · right; right
      have hnone := get?_of_outline heq "allOf" (by decide)
      rw [hget] at hnone
      refine ⟨Option.map_eq_none_iff.1 hnone.symm, fun type htype => ?_⟩
      obtain ⟨type', htype', hstr⟩ := typesOf_of_outline heq.symm htype
      have hlike := hsole type' htype'
      unfold isObjectLike at hlike ⊢
      rw [hstr, ← hasProperties_of_outline heq]
      exact hlike

/-- An open schema of a shape has no `allOf`. -/
theorem IsShaped.of_open {schema : Schema} (h : IsShaped schema) (hopen : IsOpen schema) :
    schema.get? "allOf" = none ∧ ∀ type, typesOf schema = .inl type → isObjectLike schema type = true := by
  rcases h.shape with henum | hunion | hrest
  · exact absurd (henum.symm.trans hopen.enum) nofun
  · exact absurd (hunion.symm.trans hopen.union) nofun
  · exact hrest

/-- A schema of a shape gets a declaration for itself, if any. -/
theorem IsShaped.lands {schema landed : Schema} (h : IsShaped schema) (hlands : Lands schema landed) :
    landed = schema := by
  cases hlands with
  | allOf hopen hget => exact absurd (hget.symm.trans (h.of_open hopen).1) nofun
  | _ => rfl

/-- The type of a schema of a shape is a declared one, or that of all objects. -/
theorem IsShaped.type {schema : Schema} (h : IsShaped schema) {hint : Json} {type : TypeRef}
    {state state' : State} {log : List Event}
    (hwalk : Derives (.schema schema hint) state log (.type type) state') :
    (∃ name, type = .named name false) ∨ type = .primitive .object := by
  have hnamed {form : Form} {state state' : State} {log : List Event}
      (hwalk : Derives (.named form schema hint) state log (.type type) state') :
      ∃ name, type = .named name false := by
    cases hwalk with
    | known => exact ⟨_, rfl⟩
    | fresh => exact ⟨_, rfl⟩
  cases hwalk with
  | backEdge href => exact absurd href (h.ref _)
  | enum _ _ parts => exact .inl (hnamed parts)
  | union _ _ _ parts => exact .inl (hnamed parts)
  | allOf hopen hget => exact absurd (hget.symm.trans (h.of_open hopen).1) nofun
  | sole hopen hget htypes parts =>
    have hlike := (h.of_open hopen).2 _ htypes
    cases parts with
    | record _ _ parts => exact .inl (hnamed parts)
    | list hno => exact absurd (hlike.symm.trans hno) nofun
    | leaf hleaf =>
      cases hleaf with
      | object => exact .inr rfl
      | array hno => exact absurd (hlike.symm.trans hno) nofun
      | primitive hno => exact absurd (hlike.symm.trans hno) nofun
      | any hno => exact absurd (hlike.symm.trans hno) nofun
  | shared => exact .inl ⟨_, rfl⟩
  | several => exact .inl ⟨_, rfl⟩

/-! ### Through lists and folds -/

/-- **What is left of a schema** when lists are entered and every `allOf` on the way is folded. -/
inductive Unwraps : Schema → Schema → Prop where
  | here {schema : Schema} : Unwraps schema schema
  | folded {schema merged bottom : Schema} {allOf : Json} (hopen : IsOpen schema)
      (hget : schema.get? "allOf" = some allOf) (hmerge : schema.mergeAllOf allOf = .ok merged)
      (rest : Unwraps merged bottom) : Unwraps schema bottom
  | entered {schema bottom : Schema} {type : Json} {members : Members} (hopen : IsOpen schema)
      (hget : schema.get? "allOf" = none) (htypes : typesOf schema = .inl type)
      (hno : isObjectLike schema type = false) (hlike : isArrayLike schema type = true)
      (hitems : itemsOf? schema = some members) (rest : Unwraps ⟨members, none⟩ bottom) :
      Unwraps schema bottom

/-- **A value spells a name** if it comes down to a back edge that is taken for the declaration of this name
where nothing is being built. -/
def Spells (value : Json) (name : String) : Prop :=
  ∃ members edge ref, value = .obj members ∧ Unwraps ⟨members, none⟩ edge ∧
    edge.get? "$ref" = some (.str ref) ∧ baseName edge.title (.str (lastPiece ref)) = .ok name

/-- What is left of the schemas that a part of a walk is about, unless they get a declaration. -/
def Task.Unwraps : Task → Schema → Prop
  | .value json _, bottom => ∃ members, json = .obj members ∧ Analysis.Unwraps ⟨members, none⟩ bottom
  | .schema part _, bottom => Analysis.Unwraps part bottom
  | .plain part _ type, bottom => isObjectLike part type = false ∧ isArrayLike part type = true ∧
      ∃ members, itemsOf? part = some members ∧ Analysis.Unwraps ⟨members, none⟩ bottom
  | _, _ => False

/-- **A back edge in a type is one that the schema comes down to.** Lists and folds leave the state alone on
the way down, so it is resolved in the state in which the walk began. -/
theorem Derives.exists_edge {task : Task} {state state' : State} {log : List Event} {answer : Answer}
    (h : Derives task state log answer state') :
    ∀ type, answer = .type type → ∀ name, TypeRef.Within (.named name true) type →
      ∃ edge ref, task.Unwraps edge ∧ edge.get? "$ref" = some (.str ref) ∧
        backEdgeName edge ref state = .ok (name, state) := by
  induction h with
  | other =>
    rintro _ ⟨⟩ name hname
    cases hname
  | object parts ih =>
    intro type htype name hname
    obtain ⟨edge, ref, hedge, hrest⟩ := ih type htype name hname
    exact ⟨edge, ref, ⟨_, rfl, hedge⟩, hrest⟩
  | backEdge href hback =>
    rintro _ ⟨⟩ name hname
    cases hname
    exact ⟨_, _, Unwraps.here, href, hback⟩
  -- a declaration of its own is no back edge
  | enum href henum parts ih =>
    rintro _ ⟨⟩ name hname
    obtain ⟨_, _, ⟨⟩, -⟩ := ih _ rfl name hname
  | union href henum hunion parts ih =>
    rintro _ ⟨⟩ name hname
    obtain ⟨_, _, ⟨⟩, -⟩ := ih _ rfl name hname
  | allOf hopen hget hmerge parts ih =>
    rintro _ ⟨⟩ name hname
    obtain ⟨edge, ref, hedge, hrest⟩ := ih _ rfl name hname
    exact ⟨edge, ref, Unwraps.folded hopen hget hmerge hedge, hrest⟩
  | sole hopen hget htypes parts ih =>
    rintro _ ⟨⟩ name hname
    obtain ⟨edge, ref, ⟨hno, hlike, members, hitems, hedge⟩, hrest⟩ := ih _ rfl name hname
    exact ⟨edge, ref, Unwraps.entered hopen hget htypes hno hlike hitems hedge, hrest⟩
  | shared =>
    rintro _ ⟨⟩ name hname
    cases hname
  | several =>
    rintro _ ⟨⟩ name hname
    cases hname
  | record hlike hfields parts ih =>
    intro type htype name hname
    obtain ⟨_, _, ⟨⟩, -⟩ := ih type htype name hname
  | list hno hlike hitems parts ih =>
    rintro _ ⟨⟩ name hname
    obtain ⟨edge, ref, ⟨_, ⟨⟩, hedge⟩, hrest⟩ := ih _ rfl name hname.of_array
    exact ⟨edge, ref, ⟨hno, hlike, _, hitems, hedge⟩, hrest⟩
  | leaf hleaf =>
    rintro _ ⟨⟩ name hname
    exact absurd hname (hleaf.not_within name true)
  | known =>
    rintro _ ⟨⟩ name hname
    cases hname
  | fresh =>
    rintro _ ⟨⟩ name hname
    cases hname
  | variant first others ihFirst ihOthers =>
    intro type htype name hname
    obtain ⟨_, _, ⟨⟩, -⟩ := ihOthers type htype name hname
  | type first others ihFirst ihOthers =>
    intro type htype name hname
    obtain ⟨_, _, ⟨⟩, -⟩ := ihOthers type htype name hname
  | _ =>
    intro type htype
    cases htype

section Inversion

variable {schema : Schema} {hint : Json} {type : TypeRef} {state state' : State} {log : List Event}
  (h : Derives (.schema schema hint) state log (.type type) state')

include h

/-- The walk of a back edge resolves it. -/
theorem Derives.of_ref {ref name : String} (href : schema.get? "$ref" = some (.str ref))
    (hname : backEdgeName schema ref state = .ok (name, state)) : type = .named name true := by
  cases h with
  | backEdge href' hname' =>
    obtain rfl := Json.str.inj (Option.some.inj (href.symm.trans href'))
    rw [(Prod.mk.inj (Except.ok.inj (hname.symm.trans hname'))).1]
  | enum href' => exact absurd href (href' ref)
  | union href' => exact absurd href (href' ref)
  | allOf hopen => exact absurd href (hopen.ref ref)
  | sole hopen => exact absurd href (hopen.ref ref)
  | shared hopen => exact absurd href (hopen.ref ref)
  | several hopen => exact absurd href (hopen.ref ref)

/-- The walk of an `allOf` is that of what it is folded to. -/
theorem Derives.of_folded {merged : Schema} {allOf : Json} (hopen : IsOpen schema)
    (hget : schema.get? "allOf" = some allOf) (hmerge : schema.mergeAllOf allOf = .ok merged) :
    ∃ log, Derives (.schema merged hint) state log (.type type) state' := by
  cases h with
  | backEdge href => exact absurd href (hopen.ref _)
  | enum _ henum => exact absurd (henum.symm.trans hopen.enum) nofun
  | union _ _ hunion => exact absurd (hunion.symm.trans hopen.union) nofun
  | allOf _ hget' hmerge' parts =>
    obtain rfl := Option.some.inj (hget.symm.trans hget')
    obtain rfl := Except.ok.inj (hmerge.symm.trans hmerge')
    exact ⟨_, parts⟩
  | sole _ hnone => exact absurd (hget.symm.trans hnone) nofun
  | shared _ hnone => exact absurd (hget.symm.trans hnone) nofun
  | several _ hnone => exact absurd (hget.symm.trans hnone) nofun

/-- The walk of a list is that of its items. -/
theorem Derives.of_entered {sole : Json} {members : Members} (hopen : IsOpen schema)
    (hget : schema.get? "allOf" = none) (htypes : typesOf schema = .inl sole)
    (hno : isObjectLike schema sole = false) (hlike : isArrayLike schema sole = true)
    (hitems : itemsOf? schema = some members) :
    ∃ log items, type = .array items ∧
      Derives (.schema ⟨members, none⟩ (itemHint hint)) state log (.type items) state' := by
  cases h with
  | backEdge href => exact absurd href (hopen.ref _)
  | enum _ henum => exact absurd (henum.symm.trans hopen.enum) nofun
  | union _ _ hunion => exact absurd (hunion.symm.trans hopen.union) nofun
  | allOf _ hsome => exact absurd (hsome.symm.trans hget) nofun
  | sole _ _ htypes' parts =>
    obtain rfl := Sum.inl.inj (htypes.symm.trans htypes')
    cases parts with
    | record hobject => exact absurd (hobject.symm.trans hno) nofun
    | list _ _ hitems' parts =>
      obtain rfl := Option.some.inj (hitems.symm.trans hitems')
      cases parts with
      | other hvalue => exact absurd rfl (hvalue members)
      | object parts => exact ⟨_, _, rfl, parts⟩
    | leaf hleaf =>
      cases hleaf with
      | object hobject => exact absurd (hobject.symm.trans hno) nofun
      | array _ _ hnone => exact absurd (hitems.symm.trans hnone) nofun
      | primitive _ hnolist => exact absurd (hlike.symm.trans hnolist) nofun
      | any _ hnolist => exact absurd (hlike.symm.trans hnolist) nofun
  | shared _ _ htypes' => exact absurd (htypes.symm.trans htypes') nofun
  | several _ _ htypes' => exact absurd (htypes.symm.trans htypes') nofun

end Inversion

/-- The other way round, what a schema comes down to is in its type. -/
theorem Unwraps.within {schema edge : Schema} (h : Unwraps schema edge) {ref name : String}
    (href : edge.get? "$ref" = some (.str ref)) {hint : Json} {type : TypeRef} {state state' : State}
    {log : List Event} (hwalk : Derives (.schema schema hint) state log (.type type) state')
    (hname : backEdgeName edge ref state = .ok (name, state)) :
    TypeRef.Within (.named name true) type := by
  induction h generalizing hint type log with
  | here =>
    obtain rfl := hwalk.of_ref href hname
    exact .self
  | folded hopen hget hmerge rest ih =>
    obtain ⟨log, hparts⟩ := hwalk.of_folded hopen hget hmerge
    exact ih href hparts hname
  | entered hopen hget htypes hno hlike hitems rest ih =>
    obtain ⟨log, items, rfl, hparts⟩ := hwalk.of_entered hopen hget htypes hno hlike hitems
    exact .items (ih href hparts hname)

/-- **The back edges of a type that stands for itself** are those that the value spells. -/
theorem Derives.within_iff_spells {value hint : Json} {type : TypeRef} {state state' : State}
    {log : List Event} (h : Derives (.value value hint) state log (.type type) state')
    (hbuilding : state.building = []) (name : String) :
    TypeRef.Within (.named name true) type ↔ Spells value name := by
  constructor
  · intro hwithin
    obtain ⟨edge, ref, ⟨members, hvalue, hedge⟩, href, hname⟩ := h.exists_edge type rfl name hwithin
    refine ⟨members, edge, ref, hvalue, hedge, href, ?_⟩
    -- nothing is being built that could be found
    obtain ⟨-, ⟨title, hfound⟩ | ⟨-, hbase⟩⟩ := backEdgeName_eq_ok hname
    · rw [hbuilding] at hfound
      cases hfound
    · exact hbase
  · rintro ⟨members, edge, ref, rfl, hedge, href, hbase⟩
    cases h with
    | other hvalue => exact absurd rfl (hvalue members)
    | object parts =>
      refine hedge.within href parts (backEdgeName_of_none ?_ hbase)
      rw [hbuilding]
      nofun

/-- Any other name in a type is that of a schema on the way. -/
theorem Derives.typed_of_within {task : Task} {state state' : State} {log : List Event} {answer : Answer}
    (h : Derives task state log answer state') :
    ∀ type, answer = .type type → ∀ name, TypeRef.Within (.named name false) type →
      type = .named name false ∨ ∃ schema, .typed schema (.named name false) ∈ log := by
  -- the last entry of the log is about the schema itself
  have hsnoc {schema : Schema} {type : TypeRef} {log : List Event} {name : String}
      (h : type = .named name false ∨ ∃ schema, .typed schema (.named name false) ∈ log) :
      type = .named name false ∨
        ∃ other, .typed other (.named name false) ∈ log ++ [.typed schema type] :=
    h.imp_right fun ⟨earlier, hmem⟩ => ⟨earlier, List.mem_append_left _ hmem⟩
  induction h with
  | other =>
    rintro _ ⟨⟩ name hname
    cases hname
  | object parts ih => exact ih
  | backEdge =>
    rintro _ ⟨⟩ name hname
    cases hname
  | enum href henum parts ih =>
    rintro _ ⟨⟩ name hname
    exact hsnoc (ih _ rfl name hname)
  | union href henum hunion parts ih =>
    rintro _ ⟨⟩ name hname
    exact hsnoc (ih _ rfl name hname)
  | allOf hopen hget hmerge parts ih =>
    rintro _ ⟨⟩ name hname
    exact hsnoc (ih _ rfl name hname)
  | sole hopen hget htypes parts ih =>
    rintro _ ⟨⟩ name hname
    exact hsnoc (ih _ rfl name hname)
  | shared =>
    rintro _ ⟨⟩ name hname
    cases hname
    exact .inl rfl
  | several =>
    rintro _ ⟨⟩ name hname
    cases hname
    exact .inl rfl
  | record hlike hfields parts ih => exact ih
  | list hno hlike hitems parts ih =>
    rintro _ ⟨⟩ name hname
    -- items that are a declared type have an entry of their own
    rcases ih _ rfl name hname.of_array with rfl | hmem
    · cases parts with
      | object parts => exact .inr ⟨_, parts.typed_mem⟩
    · exact .inr hmem
  | leaf hleaf =>
    rintro _ ⟨⟩ name hname
    exact absurd hname (hleaf.not_within name false)
  | known =>
    rintro _ ⟨⟩ name hname
    cases hname
    exact .inl rfl
  | fresh =>
    rintro _ ⟨⟩ name hname
    cases hname
    exact .inl rfl
  | variant first others ihFirst ihOthers =>
    intro type htype name hname
    exact (ihOthers type htype name hname).imp_right fun ⟨schema, hmem⟩ =>
      ⟨schema, List.mem_append_right _ hmem⟩
  | type first others ihFirst ihOthers =>
    intro type htype name hname
    exact (ihOthers type htype name hname).imp_right fun ⟨schema, hmem⟩ =>
      ⟨schema, List.mem_append_right _ hmem⟩
  | _ =>
    intro type htype
    cases htype

/-- **A declaration that a type refers to** is that of a schema of a shape. -/
theorem Derives.known_of_within {value hint : Json} {type : TypeRef} {state state' : State}
    {log : List Event} (h : Derives (.value value hint) state log (.type type) state')
    (hframed : state.Framed) {name : String} (hname : TypeRef.Within (.named name false) type) :
    ∃ schema, IsShaped schema ∧ IsKnown state'.known schema name := by
  obtain ⟨schema, hmem⟩ : ∃ schema, .typed schema (.named name false) ∈ log := by
    rcases h.typed_of_within type rfl name hname with rfl | hmem
    · cases h with
      | object parts => exact ⟨_, parts.typed_mem⟩
    · exact hmem
  cases (h.told hframed).holds _ hmem with
  | declared hlands hknown => exact ⟨_, hlands.isShaped, hknown⟩
  | other _ htype => exact absurd rfl (htype name)

/-! ### Aliases -/

/-- **A walk declares no aliases.** -/
theorem Derives.mem_of_isAlias {task : Task} {state state' : State} {log : List Event} {answer : Answer}
    (h : Derives task state log answer state') :
    (∀ declaration ∈ state'.declarations, declaration.IsAlias →
      declaration ∈ state.declarations) ∧
    ∀ type, answer ≠ .shape (.alias type) := by
  -- what is appended is of another shape
  have hsnoc {declarations : Catalog} {last declaration : Declaration}
      (hmem : declaration ∈ declarations ++ [last]) (halias : declaration.IsAlias)
      (hlast : ∀ type, last.shape ≠ .alias type) : declaration ∈ declarations := by
    rcases List.mem_append.1 hmem with hmem | hmem
    · exact hmem
    · obtain rfl := List.mem_singleton.1 hmem
      obtain ⟨type, htype⟩ := halias
      exact absurd htype (hlast type)
  induction h with
  | object parts ih => exact ih
  | enum href henum parts ih => exact ⟨ih.1, nofun⟩
  | union href henum hunion parts ih => exact ⟨ih.1, nofun⟩
  | allOf hopen hget hmerge parts ih => exact ⟨ih.1, nofun⟩
  | sole hopen hget htypes parts ih => exact ⟨ih.1, nofun⟩
  | several hopen hget htypes hkey hnone parts hbase hname ih =>
    exact ⟨fun declaration hmem halias => ih.1 declaration (hsnoc hmem halias nofun) halias, nofun⟩
  | record hlike hfields parts ih => exact ih
  | list hno hlike hitems parts ih => exact ⟨ih.1, nofun⟩
  | fresh hkey hnone hbase hname parts ih =>
    refine ⟨fun declaration hmem halias => ih.1 declaration (hsnoc hmem halias ?_) halias, nofun⟩
    exact fun type htype => ih.2 type (congrArg Answer.shape htype)
  | unionBody hoptions parts ih => exact ⟨ih.1, nofun⟩
  | objectBody hrequired htable parts ih => exact ⟨ih.1, nofun⟩
  | field first others ihFirst ihOthers =>
    exact ⟨fun declaration hmem halias => ihFirst.1 declaration (ihOthers.1 declaration hmem halias) halias,
      nofun⟩
  | variant first others ihFirst ihOthers =>
    exact ⟨fun declaration hmem halias => ihFirst.1 declaration (ihOthers.1 declaration hmem halias) halias,
      ihOthers.2⟩
  | type first others ihFirst ihOthers =>
    exact ⟨fun declaration hmem halias => ihFirst.1 declaration (ihOthers.1 declaration hmem halias) halias,
      ihOthers.2⟩
  | _ => exact ⟨fun _ hmem _ => hmem, nofun⟩

/-- **What an alias is made for**: an entry of the agenda, whose title or hint it is named by, up to a
counter, and which spells the names that the alias refers back to. -/
structure AliasOf (entry : Json × Json) (declaration : Declaration) : Prop where
  shape : declaration.IsAlias
  description : declaration.description = descriptionOf entry.1
  name : ∃ base taken, baseName ((entry.1.get? "title").getD .null) entry.2 = .ok base ∧
    declaration.name = Name.fresh taken base
  spells : ∀ name, declaration.Mentions (.named name true) ↔ Spells entry.1 name

/-- What is known of an alias: its name is that of its structure. It refers to declarations of schemas of a
shape, and if it refers to anything, it is none of them. -/
structure IsSettled (known : List (String × String)) (entry : Json × Json) (declaration : Declaration) :
    Prop where
  key : ∃ key, aliasKey entry.1 = .ok key ∧ (key, declaration.name) ∈ known
  rests : ∀ name, declaration.Mentions (.named name false) →
    ∃ schema, IsShaped schema ∧ IsKnown known schema name
  unshaped : ∀ name backEdge, declaration.Mentions (.named name backEdge) →
    ∃ members, entry.1 = .obj members ∧ ¬ IsShaped ⟨members, none⟩

theorem IsSettled.mono {known known' : List (String × String)} {entry : Json × Json}
    {declaration : Declaration} (h : IsSettled known entry declaration) (hsub : known ⊆ known') :
    IsSettled known' entry declaration where
  key := by
    obtain ⟨key, hkey, hmem⟩ := h.key
    exact ⟨key, hkey, hsub hmem⟩
  rests := by
    intro name hname
    obtain ⟨schema, hshaped, hknown⟩ := h.rests name hname
    exact ⟨schema, hshaped, hknown.mono hsub⟩
  unshaped := h.unshaped

/-- What is not known after its walk and refers to something has no shape. -/
theorem Derives.not_isShaped {value hint : Json} {type : TypeRef} {key name : String} {backEdge : Bool}
    {state state' : State} {log : List Event}
    (h : Derives (.value value hint) state log (.type type) state') (hframed : state.Framed)
    (hkey : aliasKey value = .ok key) (hnone : state'.known.lookup key = none)
    (hname : TypeRef.Within (.named name backEdge) type) :
    ∃ members, value = .obj members ∧ ¬ IsShaped ⟨members, none⟩ := by
  cases h with
  | other => cases hname
  | object parts =>
    refine ⟨_, rfl, fun hshaped => ?_⟩
    rcases hshaped.type parts with ⟨own, rfl⟩ | rfl
    · -- a declaration of its own would be known now
      cases (parts.told hframed).answers with
      | declared hlands hknown =>
        obtain rfl := hshaped.lands hlands
        obtain ⟨key', hkey', hmem⟩ := hknown
        obtain rfl := Except.ok.inj (hkey.symm.trans hkey')
        exact not_mem_of_lookup hnone own hmem
      | other _ htype => exact htype own rfl
    · cases hname

/-- **Every alias that is added is made for an entry of the agenda.** -/
def Aliased (agenda : List (Json × Json)) (state state' : State) : Prop :=
  ∀ declaration ∈ state'.declarations, declaration.IsAlias → declaration ∈ state.declarations ∨
    ∃ entry ∈ agenda, AliasOf entry declaration ∧ IsSettled state'.known entry declaration

/-- A walk in front adds none. -/
theorem Aliased.walked {entry : Json × Json} {rest : List (Json × Json)} {task : Task}
    {state middle state' : State} {log : List Event} {answer : Answer}
    (h : Aliased rest middle state') (walk : Derives task state log answer middle) :
    Aliased (entry :: rest) state state' := by
  intro declaration hmem halias
  rcases h declaration hmem halias with hmem | ⟨other, hother, hrest⟩
  · exact .inl (walk.mem_of_isAlias.1 declaration hmem halias)
  · exact .inr ⟨other, List.mem_cons_of_mem _ hother, hrest⟩

/-- The alias for the type that a walk comes to. -/
theorem Derives.aliasOf {value hint : Json} {type : TypeRef} {key base name : String}
    {state middle : State} {log : List Event}
    (walk : Derives (.value value hint) state log (.type type) middle) (hframed : state.Framed)
    (hbuilding : state.building = []) (hkey : aliasKey value = .ok key)
    (hnone : middle.known.lookup key = none)
    (hbase : baseName ((value.get? "title").getD .null) hint = .ok base)
    (hname : name = Name.fresh middle.names base) :
    AliasOf (value, hint) ⟨name, descriptionOf value, .alias type⟩ ∧
      IsSettled ((key, name) :: middle.known) (value, hint) ⟨name, descriptionOf value, .alias type⟩ := by
  refine ⟨⟨⟨type, rfl⟩, rfl, ⟨base, _, hbase, hname⟩, fun next => ?_⟩,
    ⟨⟨key, hkey, List.mem_cons_self⟩, fun next hnext => ?_, fun next backEdge hnext => ?_⟩⟩
  · exact mentions_alias_iff.trans (walk.within_iff_spells hbuilding next)
  · obtain ⟨schema, hshaped, hknown⟩ := walk.known_of_within hframed (mentions_alias_iff.1 hnext)
    exact ⟨schema, hshaped, hknown.mono (List.subset_cons_self _ _)⟩
  · exact walk.not_isShaped hframed hkey hnone (mentions_alias_iff.1 hnext)

/-- **Every alias of an analysis** is made for an entry of its agenda. -/
theorem Defines.aliased {agenda : List (Json × Json)} {state state' : State} {log : List Event}
    (h : Defines agenda state log state') (hframed : state.Framed) (hbuilding : state.building = []) :
    Aliased agenda state state' := by
  induction h with
  | done => exact fun declaration hmem _ => .inl hmem
  | declared walk others ih =>
    have hw := walk.told hframed
    exact (ih (hframed.mono hw.known hw.building) (hw.building.trans hbuilding)).walked walk
  | known walk hkey hname others ih =>
    have hw := walk.told hframed
    exact (ih (hframed.mono hw.known hw.building) (hw.building.trans hbuilding)).walked walk
  | @fresh value hint rest type key base name state middle state' _ _ walk hkey hnone hbase hname
    others ih =>
    have hw := walk.told hframed
    have hnew : middle.known ⊆ (key, name) :: middle.known := List.subset_cons_self _ _
    have hframed' : (middle.add key ⟨name, descriptionOf value, .alias type⟩).Framed :=
      hframed.mono (List.Subset.trans hw.known hnew) hw.building
    intro declaration hmem halias
    rcases ih hframed' (hw.building.trans hbuilding) declaration hmem halias with
      hmem | ⟨entry, hentry, hrest⟩
    · rcases List.mem_append.1 hmem with hmem | hmem
      · exact .inl (walk.mem_of_isAlias.1 declaration hmem halias)
      · obtain rfl := List.mem_singleton.1 hmem
        obtain ⟨hof, hsettled⟩ := walk.aliasOf hframed hbuilding hkey hnone hbase hname
        exact .inr ⟨_, List.mem_cons_self, hof, hsettled.mono (others.told hframed').1⟩
    · exact .inr ⟨entry, List.mem_cons_of_mem _ hentry, hrest⟩

/-- **Aliases in the catalog of an analysis.** Each is made for an entry of the agenda. Where one refers to
another one, that is by a back edge, or the other one refers to nothing. -/
theorem aliases_of_analyze {schemas : List Json} {catalog : Catalog} (h : analyze schemas = .ok catalog) :
    (∀ declaration ∈ catalog, declaration.IsAlias →
      ∃ entry ∈ agenda schemas, AliasOf entry declaration) ∧
    ∀ declaration ∈ catalog, declaration.IsAlias →
      ∀ target ∈ catalog, target.IsAlias → declaration.Mentions (.named target.name false) →
        ∀ name backEdge, ¬ target.Mentions (.named name backEdge) := by
  obtain ⟨log, state, hdefines, rfl⟩ := defines_of_analyze h
  have haliases (declaration : Declaration) (hmem : declaration ∈ state.declarations)
      (halias : declaration.IsAlias) :=
    (hdefines.aliased nofun rfl declaration hmem halias).resolve_left nofun
  refine ⟨fun declaration hmem halias => ?_, fun declaration hmem halias target htarget hother hrests => ?_⟩
  · obtain ⟨entry, hentry, hof, -⟩ := haliases declaration hmem halias
    exact ⟨entry, hentry, hof⟩
  · intro name backEdge hname
    obtain ⟨_, -, -, hsettled⟩ := haliases declaration hmem halias
    obtain ⟨entry, -, -, htold⟩ := haliases target htarget hother
    obtain ⟨members, hvalue, hunshaped⟩ := htold.unshaped name backEdge hname
    obtain ⟨schema, hshaped, key, hkey, hknown⟩ := hsettled.rests target.name hrests
    obtain ⟨key', hkey', hknown'⟩ := htold.key
    -- two schemas under one name have one structure, which is that of a schema of a shape
    obtain rfl := (hdefines.naming .nil).structures _ _ _ hknown hknown'
    rw [hvalue] at hkey'
    exact hunshaped (hshaped.of_outline (Schema.outline_eq_of_structureText hkey hkey'))

end Analysis

end SchemaPress
