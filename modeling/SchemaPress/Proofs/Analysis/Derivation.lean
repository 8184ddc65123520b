import SchemaPress.Declaration.Analysis

/-!
# The analysis as a relation between states

A walk of the analysis is a computation in a state monad. Here it is told as a derivation:
`Derives task state log answer state'` says that a part of the walk, begun in `state`, comes to its
answer in `state'`. There is one rule for each way that a part can go, with the states of its own
parts spelled out, so a property of all walks is proved by one induction with a case for each rule
and without a look at the monad.

A derivation also keeps a `log` of what happened, in order: which back edge was met and which name
was found for it, which schema needed a declaration and which one it got, which schema turned out to
be of which type.

* `derives_of_typeRef`: every successful walk has a derivation.
* `defines_of_analyze`: every successful analysis is a sequence of walks over its `agenda`, the
  schemas and then the definitions in them, each of which ends with a declaration.
-/

namespace SchemaPress.Analysis

/-! ### Running a step -/

section Run

variable {α β : Type} {x : Run α} {state state' : State}

/-- A step behind a step. -/
theorem bind_eq_ok {f : α → Run β} {b : β} (h : (x >>= f) state = .ok (b, state')) :
    ∃ a middle, x state = .ok (a, middle) ∧ f a middle = .ok (b, state') := by
  change (x state >>= fun p => f p.1 p.2) = .ok (b, state') at h
  cases hx : x state with
  | error stop => rw [hx] at h; cases h
  | ok p => rw [hx] at h; exact ⟨p.1, p.2, rfl, h⟩

/-- A step that is known to succeed, in front of another one. -/
theorem bind_of_ok {f : α → Run β} {a : α} (h : x state = .ok (a, state')) :
    (x >>= f) state = f a state' := by
  change (x state >>= fun p => f p.1 p.2) = f a state'
  rw [h]
  rfl

theorem pure_eq_ok {a b : α} (h : (pure a : Run α) state = .ok (b, state')) :
    a = b ∧ state = state' := by
  cases h
  exact ⟨rfl, rfl⟩

theorem orCrash_of_ok {result : Except Crash α} {a : α} (h : result = .ok a) :
    orCrash result state = .ok (a, state) := by
  rw [h]
  rfl

theorem orCrash_eq_ok {result : Except Crash α} {a : α}
    (h : orCrash result state = .ok (a, state')) : result = .ok a ∧ state = state' := by
  cases result with
  | error cause => cases h
  | ok value => cases h; exact ⟨rfl, rfl⟩

theorem get_eq_ok {s : State} (h : (get : Run State) state = .ok (s, state')) :
    state = s ∧ state = state' := by
  cases h
  exact ⟨rfl, rfl⟩

theorem throw_eq_ok {stop : Stop AnalysisError} {a : α}
    (h : (throw stop : Run α) state = .ok (a, state')) : False := by
  cases h

end Run

/-! ### What the steps do to the state -/

namespace State

/-- The state after a name was reserved for a schema that is going to be built. -/
def begin (state : State) (key name : String) (title : Json) : State where
  declarations := state.declarations
  names := name :: state.names
  known := (key, name) :: state.known
  building := (title, name) :: state.building

/-- The state after the innermost declaration is finished. -/
def finish (state : State) (declaration : Declaration) : State where
  declarations := state.declarations ++ [declaration]
  names := state.names
  known := state.known
  building := state.building.drop 1

/-- The state after a declaration is added that was not being built. -/
def add (state : State) (key : String) (declaration : Declaration) : State where
  declarations := state.declarations ++ [declaration]
  names := declaration.name :: state.names
  known := (key, declaration.name) :: state.known
  building := state.building

end State

theorem nameOf?_eq_ok {key : String} {found : Option String} {state state' : State}
    (h : nameOf? key state = .ok (found, state')) :
    state.known.lookup key = found ∧ state = state' := by
  cases h
  exact ⟨rfl, rfl⟩

theorem reserve_eq_ok {title hint : Json} {name : String} {state state' : State}
    (h : reserve title hint state = .ok (name, state')) :
    ∃ base, baseName title hint = .ok base ∧ name = Name.fresh state.names base ∧
      state' = { state with names := name :: state.names } := by
  obtain ⟨base, _, hstep, h⟩ := bind_eq_ok h
  obtain ⟨hbase, rfl⟩ := orCrash_eq_ok hstep
  cases h
  exact ⟨base, hbase, rfl, rfl⟩

/-- A schema of a known structure gets the name of that structure; for any other one a name is
reserved, and its declaration begun. -/
theorem enter_eq_ok {schema : Schema} {hint : Json} {entrance : Entrance} {state state' : State}
    (h : enter schema hint state = .ok (entrance, state')) :
    ∃ key, schema.structureText = .ok key ∧
      ((∃ name, state.known.lookup key = some name ∧ entrance = .known name ∧ state = state') ∨
       (∃ base, state.known.lookup key = none ∧ baseName schema.title hint = .ok base ∧
          entrance = .fresh (Name.fresh state.names base) ∧
          state' = state.begin key (Name.fresh state.names base) schema.title)) := by
  obtain ⟨key, _, hstep, h⟩ := bind_eq_ok h
  obtain ⟨hkey, rfl⟩ := orCrash_eq_ok hstep
  obtain ⟨found, _, hstep, h⟩ := bind_eq_ok h
  obtain ⟨rfl, rfl⟩ := nameOf?_eq_ok hstep
  refine ⟨key, hkey, ?_⟩
  -- the lookup decides between the two entrances
  cases hlookup : state.known.lookup key with
  | some name =>
    rw [hlookup] at h
    obtain ⟨rfl, rfl⟩ := pure_eq_ok h
    exact .inl ⟨name, rfl, rfl, rfl⟩
  | none =>
    rw [hlookup] at h
    obtain ⟨name, _, hstep, h⟩ := bind_eq_ok h
    obtain ⟨base, hbase, rfl, rfl⟩ := reserve_eq_ok hstep
    cases h
    exact .inr ⟨base, rfl, hbase, rfl, rfl⟩

theorem nameOf?_of_lookup {key : String} {found : Option String} {state : State}
    (h : state.known.lookup key = found) : nameOf? key state = .ok (found, state) := by
  rw [← h]
  rfl

theorem reserve_of_base {title hint : Json} {base : String} (h : baseName title hint = .ok base)
    (state : State) :
    reserve title hint state = .ok (Name.fresh state.names base,
      { state with names := Name.fresh state.names base :: state.names }) := by
  unfold reserve
  rw [h]
  rfl

theorem enter_of_base {schema : Schema} {hint : Json} {key base : String} {state : State}
    (hkey : schema.structureText = .ok key) (hnone : state.known.lookup key = none)
    (hbase : baseName schema.title hint = .ok base) :
    enter schema hint state = .ok (.fresh (Name.fresh state.names base),
      state.begin key (Name.fresh state.names base) schema.title) := by
  unfold enter
  rw [bind_of_ok (orCrash_of_ok hkey), bind_of_ok (nameOf?_of_lookup hnone)]
  exact bind_of_ok (reserve_of_base hbase state)

/-- Without a title, the hint gives the name. -/
theorem baseName_of_hint {title : Json} {hint name : String} (htitle : ∀ text, title ≠ .str text)
    (hname : Name.ofType hint = name) (hne : name.isEmpty = false) :
    baseName title (.str hint) = .ok name := by
  unfold baseName
  split
  · next text => exact absurd rfl (htitle text)
  · change Except.ok (Name.orElse (Name.ofType hint) "Type") = Except.ok name
    rw [hname, Name.orElse, hne]
    rfl

theorem leave_eq_ok {schema : Schema} {name : String} {shape : Shape} {type : TypeRef}
    {state state' : State} (h : leave schema name shape state = .ok (type, state')) :
    type = .named name false ∧
      state' = state.finish ⟨name, descriptionOf (.obj schema.members), shape⟩ := by
  cases h
  exact ⟨rfl, rfl⟩

/-- The search for the target of a back edge changes nothing. -/
theorem backEdgeName_eq_ok {schema : Schema} {ref name : String} {state state' : State}
    (h : backEdgeName schema ref state = .ok (name, state')) :
    state = state' ∧
      ((∃ title, state.building.find? (fun (title, _) => title.equal schema.title) =
          some (title, name)) ∨
       (state.building.find? (fun (title, _) => title.equal schema.title) = none ∧
          baseName schema.title (.str (lastPiece ref)) = .ok name)) := by
  obtain ⟨_, _, hstep, h⟩ := bind_eq_ok h
  obtain ⟨rfl, rfl⟩ := get_eq_ok hstep
  cases hfind : state.building.find? (fun (title, _) => title.equal schema.title) with
  | some frame =>
    rw [hfind] at h
    obtain ⟨rfl, rfl⟩ := pure_eq_ok h
    exact ⟨rfl, .inl ⟨frame.1, rfl⟩⟩
  | none =>
    rw [hfind] at h
    obtain ⟨hbase, rfl⟩ := orCrash_eq_ok h
    exact ⟨rfl, .inr ⟨rfl, hbase⟩⟩

/-- With no declaration of its title around it, a back edge gets a name made of its title and its
reference. -/
theorem backEdgeName_of_none {schema : Schema} {ref name : String} {state : State}
    (hnone : ∀ frame ∈ state.building, frame.1.equal schema.title = false)
    (hbase : baseName schema.title (.str (lastPiece ref)) = .ok name) :
    backEdgeName schema ref state = .ok (name, state) := by
  have hfind : state.building.find? (fun (title, _) => title.equal schema.title) = none :=
    List.find?_eq_none.2 fun frame hframe => by simp [hnone frame hframe]
  have hget : (get : Run State) state = .ok (state, state) := rfl
  unfold backEdgeName
  rw [bind_of_ok hget]
  simp only [hfind]
  exact orCrash_of_ok hbase

/-! ### Derivations -/

/-- The kinds of schemas that get a declaration before their parts are walked. -/
inductive Form where
  | enum
  | union
  | object

/-- A part of a walk. -/
inductive Task where
  /-- The type of a value. -/
  | value (value hint : Json)
  /-- The type of an object schema. -/
  | schema (schema : Schema) (hint : Json)
  /-- The type of a schema that allows at most one type and has no alternatives. -/
  | plain (schema : Schema) (hint type : Json)
  /-- The type of a schema with a declaration of its own. -/
  | named (form : Form) (schema : Schema) (hint : Json)
  /-- What the declaration of this name declares. -/
  | body (form : Form) (schema : Schema) (name : String)
  /-- The properties of the declaration of this name. -/
  | fields (name : String) (required : List Json) (table : PropertyTable)
  /-- The variants that alternatives come down to. -/
  | variants (name : String) (index : Nat) (options : List Json) (before : List TypeRef)
  /-- The variants that allowed types come down to. -/
  | typeVariants (schema : Schema) (hint : Json) (types : List Json) (before : List TypeRef)

/-- What a part of a walk comes to. -/
inductive Answer where
  | type (type : TypeRef)
  | shape (shape : Shape)
  | fields (fields : List Field)
  | variants (variants : List TypeRef)

/-- What happens in the course of a walk. -/
inductive Event where
  /-- A back edge to `ref` was met while these declarations were being built, innermost first, and
  taken to lead to the declaration of this name. -/
  | backEdge (schema : Schema) (ref : String) (building : List (Json × String)) (name : String)
  /-- A schema that needs a declaration was found to have the one of this name. -/
  | declared (schema : Schema) (name : String)
  /-- A schema was found to be of this type. -/
  | typed (schema : Schema) (type : TypeRef)
  /-- A value that needs no declaration was given another name. -/
  | aliased (value : Json) (name : String)

/-- Whether a schema is no back edge, no enum and has no alternatives. -/
structure IsOpen (schema : Schema) : Prop where
  ref : ∀ ref, schema.get? "$ref" ≠ some (.str ref)
  enum : (schema.has "enum" || schema.has "const") = false
  union : (schema.has "oneOf" || schema.has "anyOf") = false

/-- The one type that a schema allows, or the several. -/
def typesOf (schema : Schema) : Json ⊕ List Json :=
  match schema.get? "type" with
  | some (.arr [type]) => .inl type
  | some (.arr types) => .inr types
  | type => .inl (type.getD .null)

/-- Whether a schema of this type is one of objects. -/
def isObjectLike (schema : Schema) (type : Json) : Bool :=
  type.str? = some "object" || schema.hasProperties

/-- Whether a schema has properties to tell. -/
def hasFields (schema : Schema) : Bool :=
  schema.table.isSome || ((schema.get? "properties").map Json.isTruthy).getD false

/-- Whether a schema of this type is one of arrays. -/
def isArrayLike (schema : Schema) (type : Json) : Bool :=
  type.str? = some "array" || schema.has "items"

/-- The schema of the items, if there is one. -/
def itemsOf? (schema : Schema) : Option Members :=
  match schema.get? "items" with
  | some (.obj members) => some members
  | _ => none

/-- The type of a schema without parts. -/
inductive IsLeaf (schema : Schema) (type : Json) : TypeRef → Prop where
  | object : isObjectLike schema type = true → hasFields schema = false →
      IsLeaf schema type (.primitive .object)
  | array : isObjectLike schema type = false → isArrayLike schema type = true →
      itemsOf? schema = none → IsLeaf schema type (.array .any)
  | primitive {primitive : Primitive} : isObjectLike schema type = false →
      isArrayLike schema type = false →
      type.str?.bind Primitive.ofTypeName? = some primitive →
      IsLeaf schema type (.primitive primitive)
  | any : isObjectLike schema type = false → isArrayLike schema type = false →
      type.str?.bind Primitive.ofTypeName? = none → IsLeaf schema type .any

/-- **Derivations of walks.** -/
inductive Derives : Task → State → List Event → Answer → State → Prop where
  | other {value hint : Json} {state : State} (hvalue : ∀ members, value ≠ .obj members) :
      Derives (.value value hint) state [] (.type .any) state
  | object {members : Members} {hint : Json} {state state' : State} {log : List Event}
      {answer : Answer} (parts : Derives (.schema ⟨members, none⟩ hint) state log answer state') :
      Derives (.value (.obj members) hint) state log answer state'
  | backEdge {schema : Schema} {hint : Json} {ref name : String} {state : State}
      (href : schema.get? "$ref" = some (.str ref))
      (hname : backEdgeName schema ref state = .ok (name, state)) :
      Derives (.schema schema hint) state
        [.backEdge schema ref state.building name, .typed schema (.named name true)]
        (.type (.named name true)) state
  | enum {schema : Schema} {hint : Json} {type : TypeRef} {state state' : State} {log : List Event}
      (href : ∀ ref, schema.get? "$ref" ≠ some (.str ref))
      (henum : (schema.has "enum" || schema.has "const") = true)
      (parts : Derives (.named .enum schema hint) state log (.type type) state') :
      Derives (.schema schema hint) state (log ++ [.typed schema type]) (.type type) state'
  | union {schema : Schema} {hint : Json} {type : TypeRef} {state state' : State} {log : List Event}
      (href : ∀ ref, schema.get? "$ref" ≠ some (.str ref))
      (henum : (schema.has "enum" || schema.has "const") = false)
      (hunion : (schema.has "oneOf" || schema.has "anyOf") = true)
      (parts : Derives (.named .union schema hint) state log (.type type) state') :
      Derives (.schema schema hint) state (log ++ [.typed schema type]) (.type type) state'
  | allOf {schema merged : Schema} {hint allOf : Json} {type : TypeRef} {state state' : State}
      {log : List Event} (hopen : IsOpen schema) (hget : schema.get? "allOf" = some allOf)
      (hmerge : schema.mergeAllOf allOf = .ok merged)
      (parts : Derives (.schema merged hint) state log (.type type) state') :
      Derives (.schema schema hint) state (log ++ [.typed schema type]) (.type type) state'
  | sole {schema : Schema} {hint sole : Json} {type : TypeRef} {state state' : State}
      {log : List Event} (hopen : IsOpen schema) (hget : schema.get? "allOf" = none)
      (htypes : typesOf schema = .inl sole)
      (parts : Derives (.plain schema hint sole) state log (.type type) state') :
      Derives (.schema schema hint) state (log ++ [.typed schema type]) (.type type) state'
  | shared {schema : Schema} {hint : Json} {types : List Json} {key name : String} {state : State}
      (hopen : IsOpen schema) (hget : schema.get? "allOf" = none)
      (htypes : typesOf schema = .inr types) (hkey : schema.structureText = .ok key)
      (hname : state.known.lookup key = some name) :
      Derives (.schema schema hint) state
        [.declared schema name, .typed schema (.named name false)]
        (.type (.named name false)) state
  | several {schema : Schema} {hint : Json} {types : List Json} {key base name : String}
      {variants : List TypeRef} {state state' : State} {log : List Event}
      (hopen : IsOpen schema) (hget : schema.get? "allOf" = none)
      (htypes : typesOf schema = .inr types) (hkey : schema.structureText = .ok key)
      (hnone : state.known.lookup key = none)
      (parts : Derives (.typeVariants schema hint types []) state log (.variants variants) state')
      (hbase : baseName schema.title hint = .ok base)
      (hname : name = Name.fresh state'.names base) :
      Derives (.schema schema hint) state
        (log ++ [.declared schema name, .typed schema (.named name false)])
        (.type (.named name false))
        (state'.add key ⟨name, descriptionOf (.obj schema.members), .union variants⟩)
  | record {schema : Schema} {hint type : Json} {answer : Answer} {state state' : State}
      {log : List Event} (hlike : isObjectLike schema type = true)
      (hfields : hasFields schema = true)
      (parts : Derives (.named .object schema hint) state log answer state') :
      Derives (.plain schema hint type) state log answer state'
  | list {schema : Schema} {hint type : Json} {members : Members} {items : TypeRef}
      {state state' : State} {log : List Event} (hno : isObjectLike schema type = false)
      (hlike : isArrayLike schema type = true) (hitems : itemsOf? schema = some members)
      (parts : Derives (.value (.obj members) (itemHint hint)) state log (.type items) state') :
      Derives (.plain schema hint type) state log (.type (.array items)) state'
  | leaf {schema : Schema} {hint type : Json} {leaf : TypeRef} {state : State}
      (hleaf : IsLeaf schema type leaf) :
      Derives (.plain schema hint type) state [] (.type leaf) state
  | known {form : Form} {schema : Schema} {hint : Json} {key name : String} {state : State}
      (hkey : schema.structureText = .ok key) (hname : state.known.lookup key = some name) :
      Derives (.named form schema hint) state [.declared schema name]
        (.type (.named name false)) state
  | fresh {form : Form} {schema : Schema} {hint : Json} {key base name : String} {shape : Shape}
      {state state' : State} {log : List Event} (hkey : schema.structureText = .ok key)
      (hnone : state.known.lookup key = none) (hbase : baseName schema.title hint = .ok base)
      (hname : name = Name.fresh state.names base)
      (parts : Derives (.body form schema name) (state.begin key name schema.title) log
        (.shape shape) state') :
      Derives (.named form schema hint) state (log ++ [.declared schema name])
        (.type (.named name false))
        (state'.finish ⟨name, descriptionOf (.obj schema.members), shape⟩)
  | enumBody {schema : Schema} {name : String} {values : List Json} {state : State}
      (hvalues : enumValues schema name = .ok values) :
      Derives (.body .enum schema name) state [] (.shape (.enum values)) state
  | unionBody {schema : Schema} {name : String} {options : List Json} {variants : List TypeRef}
      {state state' : State} {log : List Event} (hoptions : alternatives schema = .ok options)
      (parts : Derives (.variants name 0 options []) state log (.variants variants) state') :
      Derives (.body .union schema name) state log (.shape (.union variants)) state'
  | objectBody {schema : Schema} {name : String} {required : List Json} {table : PropertyTable}
      {fields : List Field} {state state' : State} {log : List Event}
      (hrequired : requiredNames schema = .ok required) (htable : propertiesOf schema = .ok table)
      (parts : Derives (.fields name required table) state log (.fields fields) state') :
      Derives (.body .object schema name) state log (.shape (.object fields)) state'
  | noField {name : String} {required : List Json} {state : State} :
      Derives (.fields name required []) state [] (.fields []) state
  | field {name : String} {required : List Json} {property : PropertyName} {value : Json}
      {rest : PropertyTable} {type : TypeRef} {fields : List Field}
      {state middle state' : State} {log log' : List Event}
      (first : Derives (.value value (.str (name ++ " " ++ property.display))) state log
        (.type type) middle)
      (others : Derives (.fields name required rest) middle log' (.fields fields) state') :
      Derives (.fields name required ((property, value) :: rest)) state (log ++ log')
        (.fields (⟨property, type, Schema.holds required property.toJson, descriptionOf value⟩ ::
          fields)) state'
  | noVariant {name : String} {index : Nat} {before : List TypeRef} {state : State} :
      Derives (.variants name index [] before) state [] (.variants before) state
  | variant {name : String} {index : Nat} {option : Json} {rest : List Json}
      {before : List TypeRef} {type : TypeRef} {answer : Answer} {state middle state' : State}
      {log log' : List Event}
      (first : Derives (.value option (.str (name ++ " " ++ toString index))) state log (.type type)
        middle)
      (others : Derives (.variants name (index + 1) rest (addVariant before type)) middle log'
        answer state') :
      Derives (.variants name index (option :: rest) before) state (log ++ log') answer state'
  | noType {schema : Schema} {hint : Json} {before : List TypeRef} {state : State} :
      Derives (.typeVariants schema hint [] before) state [] (.variants before) state
  | type {schema : Schema} {hint type : Json} {rest : List Json} {before : List TypeRef}
      {variant : TypeRef} {answer : Answer} {state middle state' : State} {log log' : List Event}
      (first : Derives (.schema (schema.restrict type) hint) state log (.type variant) middle)
      (others : Derives (.typeVariants schema hint rest (addVariant before variant)) middle log'
        answer state') :
      Derives (.typeVariants schema hint (type :: rest) before) state (log ++ log') answer state'

/-! ### The types of a schema -/

theorem get?_of_itemsOf? {schema : Schema} {members : Members}
    (h : itemsOf? schema = some members) : schema.get? "items" = some (.obj members) := by
  unfold itemsOf? at h
  split at h
  · next others hget =>
    obtain rfl := Option.some.inj h
    exact hget
  · cases h

theorem get?_of_typesOf {schema : Schema} {types : List Json} (h : typesOf schema = .inr types) :
    schema.get? "type" = some (.arr types) := by
  unfold typesOf at h
  split at h
  · cases h
  · next hget =>
    obtain rfl := Sum.inr.inj h
    exact hget
  · cases h

theorem typesOf_sole {schema : Schema} {type : Json}
    (h : schema.get? "type" = some (.arr [type])) : typesOf schema = .inl type := by
  rw [typesOf, h]

theorem typesOf_several {schema : Schema} {types : List Json} (hne : ∀ type, types ≠ [type])
    (h : schema.get? "type" = some (.arr types)) : typesOf schema = .inr types := by
  unfold typesOf
  rw [h]
  split
  · next type heq => exact absurd (by simpa using heq) (hne type)
  · simp_all
  · simp_all

theorem typesOf_other {schema : Schema} (h : ∀ types, schema.get? "type" ≠ some (.arr types)) :
    typesOf schema = .inl ((schema.get? "type").getD .null) := by
  unfold typesOf
  split <;> simp_all

/-! ### The walk, case by case -/

section Cases

variable {schema : Schema} {hint : Json}

theorem schemaRef_ref {ref : String} (href : schema.get? "$ref" = some (.str ref)) :
    schemaRef schema hint = do return .named (← backEdgeName schema ref) true := by
  rw [schemaRef, href]

theorem schemaRef_enum (href : ∀ ref, schema.get? "$ref" ≠ some (.str ref))
    (henum : (schema.has "enum" || schema.has "const") = true) :
    schemaRef schema hint = enter schema hint >>= fun
      | .known name => pure (.named name false)
      | .fresh name =>
        match enumValues schema name with
        | .ok values => leave schema name (.enum values)
        | .error stop => throw stop := by
  rw [schemaRef]
  split
  · next ref h => exact absurd h (href ref)
  · exact (if_pos henum).trans rfl

theorem schemaRef_union (href : ∀ ref, schema.get? "$ref" ≠ some (.str ref))
    (henum : (schema.has "enum" || schema.has "const") = false)
    (hunion : (schema.has "oneOf" || schema.has "anyOf") = true) :
    schemaRef schema hint = enter schema hint >>= fun
      | .known name => pure (.named name false)
      | .fresh name =>
        match alternatives schema with
        | .ok options => variantsOf name 0 options [] >>= fun variants =>
            leave schema name (.union variants)
        | .error cause => throw (.crash cause) := by
  rw [schemaRef]
  split
  · next ref h => exact absurd h (href ref)
  · rw [if_neg (by simp [henum]), if_pos hunion]
    congr 1
    funext entrance
    cases entrance with
    | known name => rfl
    | fresh name =>
      simp only
      split <;> simp_all

theorem schemaRef_open (hopen : IsOpen schema) :
    schemaRef schema hint =
      match schema.get? "allOf" with
      | some allOf =>
        match schema.mergeAllOf allOf with
        | .ok merged => schemaRef merged hint
        | .error cause => throw (.crash cause)
      | none =>
        match typesOf schema with
        | .inl type => plainRef schema hint type
        | .inr types => orCrash schema.structureText >>= fun key => nameOf? key >>= fun
          | some name => pure (.named name false)
          | none => typeVariantsOf schema hint types [] >>= fun variants =>
            reserve schema.title hint >>= fun name => learn key name >>= fun _ =>
            declare ⟨name, descriptionOf (.obj schema.members), .union variants⟩ >>= fun _ =>
            pure (.named name false) := by
  rw [schemaRef]
  split
  · next ref h => exact absurd h (hopen.ref ref)
  rw [if_neg (by simp [hopen.enum]), if_neg (by simp [hopen.union])]
  split
  · next allOf hget =>
    simp only [hget]
    split <;> simp_all
  · next hget =>
    simp only [hget]
    split
    · next type htype => rw [typesOf_sole htype]
    · next types hne htype =>
      have htypes := typesOf_several (fun type heq => hne type heq) htype
      exact htypes ▸ rfl
    · next hone hmany => rw [typesOf_other fun types htype => hmany types htype]

theorem plainRef_eq (type : Json) :
    plainRef schema hint type =
      if isObjectLike schema type then
        if hasFields schema then enter schema hint >>= fun
          | .known name => pure (.named name false)
          | .fresh name => orCrash (requiredNames schema) >>= fun required =>
            match propertiesOf schema with
            | .ok table => fieldsOf name required table >>= fun fields =>
                leave schema name (.object fields)
            | .error cause => throw (.crash cause)
        else pure (.primitive .object)
      else if isArrayLike schema type then
        match itemsOf? schema with
        | some members => typeRef (.obj members) (itemHint hint) >>= fun items =>
            pure (.array items)
        | none => pure (.array .any)
      else
        match type.str?.bind Primitive.ofTypeName? with
        | some primitive => pure (.primitive primitive)
        | none => pure .any := by
  rw [plainRef]
  unfold isObjectLike hasFields isArrayLike itemsOf?
  congr 1
  · congr 2
    funext entrance
    cases entrance with
    | known name => rfl
    | fresh name =>
      simp only
      congr 1
      funext required
      split <;> simp_all
  · congr 1
    split <;> simp_all

end Cases

/-! ### Every walk has a derivation -/

/-- Each successful run of a part of the walk has a derivation. -/
def Derivable {α : Type} (task : Task) (answer : α → Answer) (run : Run α) : Prop :=
  ∀ state a state', run state = .ok (a, state') → ∃ log, Derives task state log (answer a) state'

/-- Schemas with a declaration of their own: looked up, or built in whatever way `build` does it. -/
theorem derivable_named (form : Form) {schema : Schema} {hint : Json} {build : String → Run TypeRef}
    (hbuild : ∀ name state type state', build name state = .ok (type, state') →
      ∃ log shape last, Derives (.body form schema name) state log (.shape shape) last ∧
        leave schema name shape last = .ok (type, state')) :
    Derivable (.named form schema hint) .type (enter schema hint >>= fun
      | .known name => pure (.named name false)
      | .fresh name => build name) := by
  intro state type state' h
  obtain ⟨entrance, middle, henter, h⟩ := bind_eq_ok h
  obtain ⟨key, hkey, ⟨name, hname, rfl, rfl⟩ | ⟨base, hnone, hbase, rfl, rfl⟩⟩ := enter_eq_ok henter
  · obtain ⟨rfl, rfl⟩ := pure_eq_ok h
    exact ⟨_, .known hkey hname⟩
  · obtain ⟨log, shape, last, hbody, hleave⟩ := hbuild _ _ _ _ h
    obtain ⟨rfl, rfl⟩ := leave_eq_ok hleave
    exact ⟨_, .fresh hkey hnone hbase rfl hbody⟩

theorem derivable_enum (schema : Schema) (hint : Json)
    (href : ∀ ref, schema.get? "$ref" ≠ some (.str ref))
    (henum : (schema.has "enum" || schema.has "const") = true) :
    Derivable (.schema schema hint) .type (schemaRef schema hint) := by
  rw [schemaRef_enum href henum]
  intro state type state' h
  obtain ⟨log, hd⟩ := derivable_named .enum (fun name state type state' h => by
    cases hvalues : enumValues schema name with
    | ok values =>
      rw [hvalues] at h
      exact ⟨_, _, _, .enumBody hvalues, h⟩
    | error stop =>
      rw [hvalues] at h
      exact (throw_eq_ok h).elim) _ _ _ h
  exact ⟨_, .enum href henum hd⟩

theorem derivable_union (schema : Schema) (hint : Json)
    (href : ∀ ref, schema.get? "$ref" ≠ some (.str ref))
    (henum : (schema.has "enum" || schema.has "const") = false)
    (hunion : (schema.has "oneOf" || schema.has "anyOf") = true)
    (ih : ∀ name options, alternatives schema = .ok options →
      Derivable (.variants name 0 options []) .variants (variantsOf name 0 options [])) :
    Derivable (.schema schema hint) .type (schemaRef schema hint) := by
  rw [schemaRef_union href henum hunion]
  intro state type state' h
  obtain ⟨log, hd⟩ := derivable_named .union (fun name state type state' h => by
    cases hoptions : alternatives schema with
    | ok options =>
      rw [hoptions] at h
      obtain ⟨variants, last, hvariants, h⟩ := bind_eq_ok h
      obtain ⟨log, hd⟩ := ih name options hoptions _ _ _ hvariants
      exact ⟨_, _, _, .unionBody hoptions hd, h⟩
    | error cause =>
      rw [hoptions] at h
      exact (throw_eq_ok h).elim) _ _ _ h
  exact ⟨_, .union href henum hunion hd⟩

theorem derivable_several {schema : Schema} {hint : Json} {types : List Json}
    (hopen : IsOpen schema) (hget : schema.get? "allOf" = none)
    (htypes : typesOf schema = .inr types)
    (ih : Derivable (.typeVariants schema hint types []) .variants
      (typeVariantsOf schema hint types [])) :
    Derivable (.schema schema hint) .type (schemaRef schema hint) := by
  rw [schemaRef_open hopen]
  simp only [hget, htypes]
  intro state type state' h
  obtain ⟨key, _, hstep, h⟩ := bind_eq_ok h
  obtain ⟨hkey, rfl⟩ := orCrash_eq_ok hstep
  obtain ⟨found, _, hstep, h⟩ := bind_eq_ok h
  obtain ⟨hfound, rfl⟩ := nameOf?_eq_ok hstep
  cases found with
  | some name =>
    obtain ⟨rfl, rfl⟩ := pure_eq_ok h
    exact ⟨_, .shared hopen hget htypes hkey hfound⟩
  | none =>
    -- the variants come first, and the name is reserved in the state behind them
    obtain ⟨variants, middle, hvariants, h⟩ := bind_eq_ok h
    obtain ⟨log, hd⟩ := ih _ _ _ hvariants
    obtain ⟨name, _, hstep, h⟩ := bind_eq_ok h
    obtain ⟨base, hbase, hname, rfl⟩ := reserve_eq_ok hstep
    cases h
    exact ⟨_, .several hopen hget htypes hkey hfound hd hbase hname⟩

/-- A schema of at most one type, by the cases of `plainRef`. -/
theorem derivable_plain (schema : Schema) (hint type : Json)
    (ihFields : isObjectLike schema type = true → hasFields schema = true →
      ∀ name required table, propertiesOf schema = .ok table →
        Derivable (.fields name required table) .fields (fieldsOf name required table))
    (ihItems : isObjectLike schema type = false → isArrayLike schema type = true →
      ∀ members, itemsOf? schema = some members →
        Derivable (.value (.obj members) (itemHint hint)) .type
          (typeRef (.obj members) (itemHint hint))) :
    Derivable (.plain schema hint type) .type (plainRef schema hint type) := by
  rw [plainRef_eq]
  intro state found state' h
  -- an object, an array, or a scalar, asked for in this order
  cases hobject : isObjectLike schema type with
  | true =>
    rw [if_pos hobject] at h
    cases hfields : hasFields schema with
    | true =>
      rw [if_pos hfields] at h
      obtain ⟨log, hd⟩ := derivable_named .object (fun name state type state' h => by
        obtain ⟨required, _, hstep, h⟩ := bind_eq_ok h
        obtain ⟨hrequired, rfl⟩ := orCrash_eq_ok hstep
        cases htable : propertiesOf schema with
        | ok table =>
          rw [htable] at h
          obtain ⟨fields, last, hstep, h⟩ := bind_eq_ok h
          obtain ⟨log, hd⟩ := ihFields hobject hfields name required table htable _ _ _ hstep
          exact ⟨_, _, _, .objectBody hrequired htable hd, h⟩
        | error cause =>
          rw [htable] at h
          exact (throw_eq_ok h).elim) _ _ _ h
      exact ⟨_, .record hobject hfields hd⟩
    | false =>
      rw [if_neg (by simp [hfields])] at h
      obtain ⟨rfl, rfl⟩ := pure_eq_ok h
      exact ⟨_, .leaf (.object hobject hfields)⟩
  | false =>
    rw [if_neg (by simp [hobject])] at h
    cases harray : isArrayLike schema type with
    | true =>
      rw [if_pos harray] at h
      cases hitems : itemsOf? schema with
      | some members =>
        rw [hitems] at h
        obtain ⟨items, _, hstep, h⟩ := bind_eq_ok h
        obtain ⟨log, hd⟩ := ihItems hobject harray members hitems _ _ _ hstep
        obtain ⟨rfl, rfl⟩ := pure_eq_ok h
        exact ⟨_, .list hobject harray hitems hd⟩
      | none =>
        rw [hitems] at h
        obtain ⟨rfl, rfl⟩ := pure_eq_ok h
        exact ⟨_, .leaf (.array hobject harray hitems)⟩
    | false =>
      rw [if_neg (by simp [harray])] at h
      cases hprimitive : type.str?.bind Primitive.ofTypeName? with
      | some primitive =>
        rw [hprimitive] at h
        obtain ⟨rfl, rfl⟩ := pure_eq_ok h
        exact ⟨_, .leaf (.primitive hobject harray hprimitive)⟩
      | none =>
        rw [hprimitive] at h
        obtain ⟨rfl, rfl⟩ := pure_eq_ok h
        exact ⟨_, .leaf (.any hobject harray hprimitive)⟩

/-- A schema of one type, once its `plainRef` is derivable. -/
theorem derivable_sole {schema : Schema} {hint type : Json} (hopen : IsOpen schema)
    (hget : schema.get? "allOf" = none) (htypes : typesOf schema = .inl type)
    (ih : Derivable (.plain schema hint type) .type (plainRef schema hint type)) :
    Derivable (.schema schema hint) .type (schemaRef schema hint) := by
  rw [schemaRef_open hopen]
  simp only [hget, htypes]
  intro state found state' h
  obtain ⟨log, hd⟩ := ih _ _ _ h
  exact ⟨_, .sole hopen hget htypes hd⟩

theorem isOpen {schema : Schema} (href : ∀ ref, schema.get? "$ref" = some (.str ref) → False)
    (henum : ¬(schema.has "enum" || schema.has "const") = true)
    (hunion : ¬(schema.has "oneOf" || schema.has "anyOf") = true) : IsOpen schema :=
  ⟨fun ref h => href ref h, by simpa using henum, by simpa using hunion⟩

/-- **Every walk has a derivation**, by the recursion of the walk itself. -/
theorem walks_derivable :
    (∀ value hint, Derivable (.value value hint) .type (typeRef value hint)) ∧
    (∀ schema hint, Derivable (.schema schema hint) .type (schemaRef schema hint)) ∧
    (∀ schema hint types before, Derivable (.typeVariants schema hint types before) .variants
      (typeVariantsOf schema hint types before)) ∧
    (∀ schema hint type, Derivable (.plain schema hint type) .type (plainRef schema hint type)) ∧
    (∀ name required table, Derivable (.fields name required table) .fields
      (fieldsOf name required table)) ∧
    (∀ name index options before, Derivable (.variants name index options before) .variants
      (variantsOf name index options before)) := by
  apply typeRef.mutual_induct
    (fun value hint => Derivable (.value value hint) .type (typeRef value hint))
    (fun schema hint => Derivable (.schema schema hint) .type (schemaRef schema hint))
    (fun schema hint types before => Derivable (.typeVariants schema hint types before)
      .variants (typeVariantsOf schema hint types before))
    (fun schema hint type => Derivable (.plain schema hint type) .type
      (plainRef schema hint type))
    (fun name required table => Derivable (.fields name required table) .fields
      (fieldsOf name required table))
    (fun name index options before => Derivable (.variants name index options before)
      .variants (variantsOf name index options before))
  -- values: an object is a schema, anything else says nothing
  case case1 =>
    intro hint members ih state type state' h
    rw [typeRef] at h
    obtain ⟨log, hd⟩ := ih _ _ _ h
    exact ⟨log, .object hd⟩
  case case2 =>
    intro value hint hvalue state type state' h
    rw [typeRef] at h
    · obtain ⟨rfl, rfl⟩ := pure_eq_ok h
      exact ⟨_, .other fun members he => hvalue members he⟩
    · exact hvalue
  -- schemas: a back edge, an enum, a union, one with `allOf`, and by the number of types
  case case3 =>
    intro schema hint ref href state type state' h
    rw [schemaRef_ref href] at h
    obtain ⟨name, middle, hname, h⟩ := bind_eq_ok h
    obtain ⟨rfl, rfl⟩ := pure_eq_ok h
    obtain ⟨rfl, -⟩ := backEdgeName_eq_ok hname
    exact ⟨_, .backEdge href hname⟩
  case case4 =>
    intro schema hint henum href
    exact derivable_enum schema hint (fun ref h => href ref h) henum
  case case5 =>
    intro schema hint henum hunion href ih
    exact derivable_union schema hint (fun ref h => href ref h) (by simpa using henum) hunion ih
  case case6 =>
    intro schema hint henum hunion allOf hget merged hmerge href ih
    have hopen := isOpen href henum hunion
    rw [schemaRef_open hopen]
    simp only [hget, hmerge]
    intro state type state' h
    obtain ⟨log, hd⟩ := ih _ _ _ h
    exact ⟨_, .allOf hopen hget hmerge hd⟩
  case case7 =>
    intro schema hint henum hunion allOf hget cause hmerge href
    rw [schemaRef_open (isOpen href henum hunion)]
    simp only [hget, hmerge]
    exact fun state type state' h => (throw_eq_ok h).elim
  case case8 =>
    intro schema hint henum hunion hget type htype href ih
    exact derivable_sole (isOpen href henum hunion) hget (typesOf_sole htype) ih
  case case9 =>
    intro schema hint henum hunion hget types hne htype href ih
    exact derivable_several (isOpen href henum hunion) hget
      (typesOf_several (fun type h => hne type h) htype) ih
  case case10 =>
    intro schema hint henum hunion hget href _ hne ih
    exact derivable_sole (isOpen href henum hunion) hget
      (typesOf_other fun types h => hne types h) ih
  -- the variants that allowed types come down to
  case case11 =>
    intro schema hint before state variants state' h
    rw [typeVariantsOf] at h
    obtain ⟨rfl, rfl⟩ := pure_eq_ok h
    exact ⟨_, .noType⟩
  case case12 =>
    intro schema hint before type rest ih ihRest state variants state' h
    rw [typeVariantsOf] at h
    obtain ⟨variant, middle, hstep, h⟩ := bind_eq_ok h
    obtain ⟨log, hd⟩ := ih _ _ _ hstep
    obtain ⟨log', hd'⟩ := ihRest variant _ _ _ h
    exact ⟨_, .type hd hd'⟩
  -- schemas of at most one type
  case case13 =>
    intro schema hint type hobject hfields ih
    exact derivable_plain schema hint type (fun _ _ => ih) fun h => by
      rw [isObjectLike, hobject] at h
      cases h
  case case14 =>
    intro schema hint type hobject hfields
    exact derivable_plain schema hint type (fun _ h => absurd h hfields) fun h => by
      rw [isObjectLike, hobject] at h
      cases h
  case case15 =>
    intro schema hint type hobject harray members hitems ih
    refine derivable_plain schema hint type (fun h => absurd h hobject) fun _ _ others h => ?_
    rw [itemsOf?, hitems] at h
    obtain rfl := Option.some.inj h
    exact ih
  case case16 =>
    intro schema hint type hobject harray hitems
    refine derivable_plain schema hint type (fun h => absurd h hobject) fun _ _ members h => ?_
    unfold itemsOf? at h
    split at h
    · next members' hget => exact (hitems members' hget).elim
    · cases h
  case case17 =>
    intro schema hint type hobject harray primitive hprimitive
    exact derivable_plain schema hint type (fun h => absurd h hobject) fun _ h => absurd h harray
  case case18 =>
    intro schema hint type hobject harray hprimitive
    exact derivable_plain schema hint type (fun h => absurd h hobject) fun _ h => absurd h harray
  -- properties
  case case19 =>
    intro name required state fields state' h
    rw [fieldsOf] at h
    obtain ⟨rfl, rfl⟩ := pure_eq_ok h
    exact ⟨_, .noField⟩
  case case20 =>
    intro name required property value rest ih ihRest state fields state' h
    rw [fieldsOf] at h
    obtain ⟨type, middle, hstep, h⟩ := bind_eq_ok h
    obtain ⟨log, hd⟩ := ih _ _ _ hstep
    obtain ⟨others, last, hstep, h⟩ := bind_eq_ok h
    obtain ⟨log', hd'⟩ := ihRest _ _ _ hstep
    obtain ⟨rfl, rfl⟩ := pure_eq_ok h
    exact ⟨_, .field hd hd'⟩
  -- alternatives
  case case21 =>
    intro name index before state variants state' h
    rw [variantsOf] at h
    obtain ⟨rfl, rfl⟩ := pure_eq_ok h
    exact ⟨_, .noVariant⟩
  case case22 =>
    intro name index before option rest ih ihRest state variants state' h
    rw [variantsOf] at h
    obtain ⟨variant, middle, hstep, h⟩ := bind_eq_ok h
    obtain ⟨log, hd⟩ := ih _ _ _ hstep
    obtain ⟨log', hd'⟩ := ihRest variant _ _ _ h
    exact ⟨_, .variant hd hd'⟩

theorem derives_of_typeRef {value hint : Json} {type : TypeRef} {state state' : State}
    (h : typeRef value hint state = .ok (type, state')) :
    ∃ log, Derives (.value value hint) state log (.type type) state' :=
  walks_derivable.1 value hint state type state' h

/-! ### The agenda of an analysis -/

/-- The schemas, from the one of this index on, each with its hint. -/
def rootAgenda (index : Nat) : List Json → List (Json × Json)
  | [] => []
  | .obj members :: rest => (.obj members, rootHint index members) :: rootAgenda (index + 1) rest
  | _ :: rest => rootAgenda (index + 1) rest

/-- What an analysis walks over: the schemas, then the definitions in them under their names. -/
def agenda (schemas : List Json) : List (Json × Json) :=
  rootAgenda 0 schemas ++
    (schemas.flatMap definitionsOf).map fun (name, definition) =>
      (titled name definition, .str name)

/-- The structure text of a value that gets an alias. -/
def aliasKey (value : Json) : Except Crash String :=
  match value with
  | .obj members => (Schema.mk members none).structureText
  | value => .ok (value.render .sorted)

/-- **Derivations of analyses.** Each entry of the agenda is walked, and what has no declaration
of its own afterwards gets an alias, unless its structure has one. -/
inductive Defines : List (Json × Json) → State → List Event → State → Prop where
  | done {state : State} : Defines [] state [] state
  | declared {value hint : Json} {rest : List (Json × Json)} {name : String}
      {state middle state' : State} {log log' : List Event}
      (walk : Derives (.value value hint) state log (.type (.named name false)) middle)
      (others : Defines rest middle log' state') :
      Defines ((value, hint) :: rest) state (log ++ log') state'
  | known {value hint : Json} {rest : List (Json × Json)} {type : TypeRef} {key name : String}
      {state middle state' : State} {log log' : List Event}
      (walk : Derives (.value value hint) state log (.type type) middle)
      (hkey : aliasKey value = .ok key) (hname : middle.known.lookup key = some name)
      (others : Defines rest middle log' state') :
      Defines ((value, hint) :: rest) state (log ++ .aliased value name :: log') state'
  | fresh {value hint : Json} {rest : List (Json × Json)} {type : TypeRef} {key base name : String}
      {state middle state' : State} {log log' : List Event}
      (walk : Derives (.value value hint) state log (.type type) middle)
      (hkey : aliasKey value = .ok key) (hnone : middle.known.lookup key = none)
      (hbase : baseName ((value.get? "title").getD .null) hint = .ok base)
      (hname : name = Name.fresh middle.names base)
      (others : Defines rest (middle.add key ⟨name, descriptionOf value, .alias type⟩) log'
        state') :
      Defines ((value, hint) :: rest) state (log ++ .aliased value name :: log') state'

theorem defines_of_define {value hint : Json} {rest : List (Json × Json)} {u : Unit}
    {state middle state' : State} {log' : List Event}
    (h : define value hint state = .ok (u, middle))
    (others : Defines rest middle log' state') :
    ∃ log, Defines ((value, hint) :: rest) state log state' := by
  obtain ⟨type, walked, hstep, h⟩ := bind_eq_ok h
  obtain ⟨log, hd⟩ := derives_of_typeRef hstep
  -- a declared type needs no alias
  split at h
  · obtain ⟨-, rfl⟩ := pure_eq_ok h
    exact ⟨_, .declared hd others⟩
  · obtain ⟨key, _, hstep, h⟩ := bind_eq_ok h
    obtain ⟨hkey, rfl⟩ := orCrash_eq_ok hstep
    obtain ⟨found, _, hstep, h⟩ := bind_eq_ok h
    obtain ⟨hfound, rfl⟩ := nameOf?_eq_ok hstep
    cases found with
    | some name =>
      obtain ⟨-, rfl⟩ := pure_eq_ok h
      exact ⟨_, .known hd hkey hfound others⟩
    | none =>
      obtain ⟨name, _, hstep, h⟩ := bind_eq_ok h
      obtain ⟨base, hbase, hname, rfl⟩ := reserve_eq_ok hstep
      cases h
      exact ⟨_, .fresh hd hkey hfound hbase hname others⟩

theorem defines_of_defineRoots {index : Nat} {schemas : List Json} {rest : List (Json × Json)}
    {u : Unit} {state middle state' : State} {log' : List Event}
    (h : defineRoots index schemas state = .ok (u, middle))
    (others : Defines rest middle log' state') :
    ∃ log, Defines (rootAgenda index schemas ++ rest) state log state' := by
  induction schemas generalizing index state with
  | nil =>
    obtain ⟨-, rfl⟩ := pure_eq_ok h
    exact ⟨_, others⟩
  | cons schema schemas ih =>
    cases schema with
    | obj members =>
      obtain ⟨_, next, hstep, h⟩ := bind_eq_ok h
      obtain ⟨log, hd⟩ := ih h
      exact defines_of_define hstep hd
    -- a schema that is no object stops the analysis
    | _ => exact (throw_eq_ok h).elim

theorem defines_of_forM {definitions : Members} {u : Unit} {state state' : State}
    (h : (definitions.forM fun (name, definition) => define (titled name definition) (.str name))
      state = .ok (u, state')) :
    ∃ log, Defines (definitions.map fun (name, definition) =>
      (titled name definition, .str name)) state log state' := by
  induction definitions generalizing state with
  | nil =>
    obtain ⟨-, rfl⟩ := pure_eq_ok h
    exact ⟨_, .done⟩
  | cons member rest ih =>
    obtain ⟨_, next, hstep, h⟩ := bind_eq_ok h
    obtain ⟨log, hd⟩ := ih h
    exact defines_of_define hstep hd

/-- An analysis that succeeds has come to a last state. -/
theorem run_of_analyze {schemas : List Json} {catalog : Catalog}
    (h : analyze schemas = .ok catalog) :
    ∃ state, (do defineRoots 0 schemas; defineRest schemas : Run Unit).run {} = .ok ((), state) ∧
      state.declarations = catalog := by
  unfold analyze at h
  cases hrun : (do defineRoots 0 schemas; defineRest schemas : Run Unit).run {} with
  | error stop => rw [hrun] at h; cases h
  | ok result =>
    rw [hrun] at h
    obtain ⟨u, state⟩ := result
    cases h
    exact ⟨state, rfl, rfl⟩

theorem defines_of_run {schemas : List Json} {state : State}
    (h : (do defineRoots 0 schemas; defineRest schemas : Run Unit).run {} = .ok ((), state)) :
    ∃ log, Defines (agenda schemas) {} log state := by
  obtain ⟨_, middle, hroots, hrest⟩ := bind_eq_ok h
  -- the definitions are walked last, so their derivation is built first
  obtain ⟨log, hd⟩ := defines_of_forM hrest
  exact defines_of_defineRoots hroots hd

/-- **Every analysis has a derivation** over its agenda, from the empty state. -/
theorem defines_of_analyze {schemas : List Json} {catalog : Catalog}
    (h : analyze schemas = .ok catalog) :
    ∃ log state, Defines (agenda schemas) {} log state ∧ state.declarations = catalog := by
  obtain ⟨state, hrun, hcatalog⟩ := run_of_analyze h
  obtain ⟨log, hd⟩ := defines_of_run hrun
  exact ⟨log, state, hd, hcatalog⟩

end SchemaPress.Analysis
