import SchemaPress.Proofs.Analysis.Order
import SchemaPress.Proofs.Analysis.Values
import SchemaPress.Proofs.Source.PythonStatements

/-!
# Names in Python modules

While a module runs, each of its statements evaluates names and binds names, and a name that is evaluated
before it is bound stops it (`run`). The names that the declarations of an analysis evaluate are built in,
imported or declared (`mem_scope`), and those that are imported are the ones that are evaluated
(`covers_catalogUses`); as each declaration follows those it uses, the modules that are rendered run to their
end (`run_of_render`).
-/

namespace SchemaPress.Source.Python

/-! ### Running -/

/-- **Running statements**: which names are bound then, or the first name that was evaluated without being
bound. -/
def run : List String → List Statement → Except String (List String)
  | scope, [] => .ok scope
  | scope, .imports _ names :: rest => run (scope ++ names) rest
  | scope, .defines name uses :: rest =>
    match uses.find? (!scope.contains ·) with
    | some missing => .error missing
    | none => run (scope ++ [name]) rest

/-- The names that a statement binds. -/
def Statement.binds : Statement → List String
  | .imports _ names => names
  | .defines name _ => [name]

/-- The names that a statement evaluates. -/
def Statement.uses : Statement → List String
  | .imports _ _ => []
  | .defines _ uses => uses

/-- The names that a statement imports from a module. -/
def Statement.importedFrom (module : String) : Statement → List String
  | .imports source names => if source = module then names else []
  | .defines _ _ => []

/-- The name that a statement declares. -/
def Statement.declared? : Statement → Option String
  | .imports _ _ => none
  | .defines name _ => some name

theorem run_append (scope : List String) (statements others : List Statement) :
    run scope (statements ++ others) = run scope statements >>= fun scope => run scope others := by
  induction statements generalizing scope with
  | nil => rfl
  | cons statement rest ih =>
    cases statement with
    | imports module names => exact ih _
    | defines name uses =>
      rw [List.cons_append, run, run]
      split
      · rfl
      · exact ih _

/-! ### Names that are evaluated -/

mutual
/-- Only three words are in values, as long as all numbers in them are finite. -/
theorem mem_literalWords {name : String} : (value : Json) → name ∈ literalWords value →
    name ∈ ["None", "True", "False"] ∨ ¬ value.IsFinite ∧ name ∈ ["nan", "inf"]
  | .null, h => .inl (List.mem_singleton.1 h ▸ by simp)
  | .bool true, h => .inl (List.mem_singleton.1 h ▸ by simp)
  | .bool false, h => .inl (List.mem_singleton.1 h ▸ by simp)
  | .int _, h => nomatch h
  | .double .nan, h => .inr ⟨nofun, List.mem_singleton.1 h ▸ by simp⟩
  | .double (.infinity _), h => .inr ⟨nofun, List.mem_singleton.1 h ▸ by simp⟩
  | .double (.finite _ _ _), h => nomatch h
  | .str _, h => nomatch h
  | .arr items, h => by
    obtain ⟨item, hitem, hname⟩ := mem_itemWords items h
    exact hname.imp_right fun ⟨hno, hmem⟩ =>
      ⟨fun hall => hno (Json.isFinite_arr_iff.1 hall item hitem), hmem⟩
  | .obj members, h => by
    obtain ⟨member, hmember, hname⟩ := mem_memberWords members h
    exact hname.imp_right fun ⟨hno, hmem⟩ =>
      ⟨fun hall => hno (Json.isFinite_obj_iff.1 hall member hmember), hmem⟩

theorem mem_itemWords {name : String} : (items : List Json) → name ∈ (itemWords items).flatten →
    ∃ item ∈ items, name ∈ ["None", "True", "False"] ∨ ¬ item.IsFinite ∧ name ∈ ["nan", "inf"]
  | [], h => nomatch h
  | item :: rest, h => by
    rcases List.mem_append.1 h with h | h
    · exact ⟨item, List.mem_cons_self, mem_literalWords item h⟩
    · obtain ⟨other, hother, hname⟩ := mem_itemWords rest h
      exact ⟨other, List.mem_cons_of_mem _ hother, hname⟩

theorem mem_memberWords {name : String} : (members : List (String × Json)) →
    name ∈ (memberWords members).flatten →
    ∃ member ∈ members, name ∈ ["None", "True", "False"] ∨ ¬ member.2.IsFinite ∧ name ∈ ["nan", "inf"]
  | [], h => nomatch h
  | (key, value) :: rest, h => by
    rcases List.mem_append.1 h with h | h
    · exact ⟨(key, value), List.mem_cons_self, mem_literalWords value h⟩
    · obtain ⟨other, hother, hname⟩ := mem_memberWords rest h
      exact ⟨other, List.mem_cons_of_mem _ hother, hname⟩
end

/-- A legal name is none of those that generated modules use. -/
theorem not_mem_of_legal {name : String} (h : Name.Legal name) :
    name ∉ "Enum" :: (builtins ++ typingNames) :=
  h.not_mem (by decide +kernel)

/-- **Names to import for words**: those of them that are in the module of types. -/
def Covers (names words : List String) : Prop :=
  ∀ name, name ∈ names ↔ name ∈ typingNames ∧ name ∈ words

namespace Covers

theorem nil {words : List String} (h : ∀ word ∈ words, word ∉ typingNames) : Covers [] words :=
  fun name => ⟨nofun, fun ⟨htyping, hword⟩ => absurd htyping (h name hword)⟩

theorem cons {front : String} {names words : List String} (hfront : front ∈ typingNames)
    (h : Covers names words) : Covers (front :: names) (front :: words) := by
  intro name
  rw [List.mem_cons, List.mem_cons, h name]
  constructor
  · rintro (rfl | ⟨htyping, hword⟩)
    · exact ⟨hfront, .inl rfl⟩
    · exact ⟨htyping, .inr hword⟩
  · rintro ⟨htyping, rfl | hword⟩
    · exact .inl rfl
    · exact .inr ⟨htyping, hword⟩

theorem flatMap {α : Type} {names words : α → List String} {items : List α}
    (h : ∀ item ∈ items, Covers (names item) (words item)) :
    Covers (items.flatMap names) (items.flatMap words) := by
  intro name
  rw [List.mem_flatMap, List.mem_flatMap]
  constructor
  · rintro ⟨item, hitem, hname⟩
    obtain ⟨htyping, hword⟩ := (h item hitem name).1 hname
    exact ⟨htyping, item, hitem, hword⟩
  · rintro ⟨htyping, item, hitem, hword⟩
    exact ⟨item, hitem, (h item hitem name).2 ⟨htyping, hword⟩⟩

end Covers

theorem not_mem_typingNames_of_legal {name : String} (h : Name.Legal name) : name ∉ typingNames :=
  fun hmem => not_mem_of_legal h (List.mem_cons_of_mem _ (List.mem_append_right _ hmem))

theorem covers_typeNames {type : TypeRef} (h : Analysis.LegalUse type) :
    Covers (typeNames type) (typeWords type) := by
  induction type with
  | primitive primitive =>
    cases primitive with
    | object =>
      intro name
      simp only [typeNames, typeWords, List.mem_cons, List.not_mem_nil, or_false]
      constructor
      · rintro (rfl | rfl)
        · exact ⟨by simp, .inr (.inr rfl)⟩
        · exact ⟨by simp, .inl rfl⟩
      · rintro ⟨htyping, rfl | rfl | rfl⟩
        · exact .inr rfl
        · exact absurd htyping (by simp)
        · exact .inl rfl
    | _ => exact .nil (List.forall_mem_singleton.2 (by simp))
  | array items ih =>
    exact .cons (by simp) (ih fun name backEdge hname => h name backEdge (.items hname))
  | named name backEdge =>
    unfold typeNames typeWords
    split
    · exact .nil nofun
    · exact .nil (List.forall_mem_singleton.2 (not_mem_typingNames_of_legal (h name backEdge .self)))
  | any => exact .cons (by simp) (.nil nofun)

theorem covers_fieldNames {field : Field} (h : Analysis.LegalUse field.type) :
    Covers (fieldNames field) (fieldWords field) := by
  have htype := covers_typeNames h
  unfold fieldNames fieldWords
  split
  · rwa [List.append_nil]
  · intro name
    rw [List.mem_append, or_comm, ← List.mem_append]
    exact htype.cons (by simp) name

theorem covers_unionNames : ∀ {variants : List TypeRef},
    (∀ variant ∈ variants, Analysis.LegalUse variant) → Covers (unionNames variants) (unionWords variants)
  | [], _ => .cons (by simp) (.nil nofun)
  | [_], h => covers_typeNames (h _ List.mem_cons_self)
  | _ :: _ :: _, h =>
    .cons (by simp) (.flatMap fun variant hvariant => covers_typeNames (h variant hvariant))

/-- **A declaration uses the names that it evaluates**, as far as they are in the module of types. -/
theorem covers_usesOf {shape : Shape} (h : ∀ use ∈ shape.types, Analysis.LegalUse use) :
    Covers (usesOf shape).types (shapeWords shape) := by
  cases shape with
  | object fields =>
    exact .cons (by simp)
      (.flatMap fun field hfield => covers_fieldNames (h _ (List.mem_map_of_mem hfield)))
  | enum values =>
    refine .nil (List.forall_mem_cons.2 ⟨by simp, fun word hword => ?_⟩)
    obtain ⟨value, -, hword⟩ := List.mem_flatMap.1 hword
    have hconstants : ∀ word ∈ ["None", "True", "False"] ++ ["nan", "inf"], word ∉ typingNames := by
      simp
    rcases mem_literalWords value hword with hconstant | ⟨-, hother⟩
    · exact hconstants word (List.mem_append_left _ hconstant)
    · exact hconstants word (List.mem_append_right _ hother)
  | union variants => exact covers_unionNames h
  | «alias» type => exact covers_typeNames (h type List.mem_cons_self)

theorem mem_typeWords {type : TypeRef} {name : String} (h : name ∈ typeWords type) :
    name ∈ builtins ∨ name ∈ typingNames ∨ TypeRef.Within (.named name false) type := by
  induction type with
  | primitive primitive =>
    have hall : ∀ word ∈ ["str", "float", "int", "bool", "None"] ++ ["Dict", "str", "Any"],
        word ∈ builtins ∨ word ∈ typingNames := by
      simp
    have hword : name ∈ ["str", "float", "int", "bool", "None"] ++ ["Dict", "str", "Any"] := by
      cases primitive <;> simp_all [typeWords]
    exact (hall name hword).imp_right .inl
  | array items ih =>
    rcases List.mem_cons.1 h with rfl | h
    · exact .inr (.inl (by simp))
    · exact (ih h).imp_right (.imp_right .items)
  | named other backEdge =>
    cases backEdge with
    | true => cases h
    | false =>
      obtain rfl := List.mem_singleton.1 h
      exact .inr (.inr .self)
  | any =>
    obtain rfl := List.mem_singleton.1 h
    exact .inr (.inl (by simp))

theorem mem_unionWords : ∀ {variants : List TypeRef} {name : String}, name ∈ unionWords variants →
    name ∈ builtins ∨ name ∈ typingNames ∨ ∃ use ∈ variants, TypeRef.Within (.named name false) use
  | [], _, h => .inr (.inl (List.mem_singleton.1 h ▸ by simp))
  | [variant], _, h =>
    (mem_typeWords h).imp_right (.imp_right fun hwithin => ⟨variant, List.mem_cons_self, hwithin⟩)
  | first :: second :: rest, _, h => by
    rcases List.mem_cons.1 h with rfl | h
    · exact .inr (.inl (by simp))
    · obtain ⟨use, huse, h⟩ := List.mem_flatMap.1 h
      exact (mem_typeWords h).imp_right (.imp_right fun hwithin => ⟨use, huse, hwithin⟩)

/-- **A declaration evaluates names that are built in, names to import, and declared names that it mentions**,
as long as it lists finite values only. -/
theorem mem_shapeWords {shape : Shape} (hfinite : shape.ListsFinite) {name : String}
    (h : name ∈ shapeWords shape) :
    name ∈ builtins ∨ name ∈ typingNames ∨ (name = "Enum" ∧ (usesOf shape).enums = true) ∨
      ∃ use ∈ shape.types, TypeRef.Within (.named name false) use := by
  cases shape with
  | object fields =>
    rcases List.mem_cons.1 h with rfl | h
    · exact .inr (.inl (by simp))
    · obtain ⟨field, hfield, h⟩ := List.mem_flatMap.1 h
      have hword : name = "NotRequired" ∨ name ∈ typeWords field.type := by
        unfold fieldWords at h
        split at h
        · exact .inr h
        · exact List.mem_cons.1 h
      rcases hword with rfl | hword
      · exact .inr (.inl (by simp))
      · exact (mem_typeWords hword).imp_right (.imp_right fun hwithin =>
          .inr ⟨field.type, List.mem_map_of_mem hfield, hwithin⟩)
  | enum values =>
    rcases List.mem_cons.1 h with rfl | h
    · exact .inr (.inr (.inl ⟨rfl, rfl⟩))
    · obtain ⟨value, hvalue, h⟩ := List.mem_flatMap.1 h
      have hall : ∀ word ∈ ["None", "True", "False"], word ∈ builtins := by simp
      rcases mem_literalWords value h with hconstant | ⟨hno, -⟩
      · exact .inl (hall name hconstant)
      · exact absurd (hfinite value hvalue) hno
  | union variants => exact (mem_unionWords h).imp_right (.imp_right .inr)
  | «alias» type =>
    exact (mem_typeWords h).imp_right (.imp_right fun hwithin => .inr ⟨type, List.mem_cons_self, hwithin⟩)

/-! ### Runs -/

/-- **Declarations in order run**, in a scope that has all other names that they evaluate. By induction on the
order, where one more declaration evaluates names of the earlier ones. -/
theorem run_declarations {catalog : Catalog} (hordered : catalog.Ordered) {scope : List String}
    (h : ∀ declaration ∈ catalog, ∀ name ∈ shapeWords declaration.shape, name ∈ scope ∨
      ∃ use ∈ declaration.shape.types, TypeRef.Within (.named name false) use) :
    run scope (catalog.map statementOf) = .ok (scope ++ catalog.map Declaration.name) := by
  induction hordered with
  | nil => rw [List.map_nil, List.map_nil, run, List.append_nil]
  | @snoc earlier declaration _ hresolves ih =>
    obtain ⟨hearlier, hlast⟩ := List.forall_mem_append.1 h
    -- what the last declaration mentions is declared before it, and the run has come past that
    have hbound : (shapeWords declaration.shape).find?
        (!(scope ++ earlier.map Declaration.name).contains ·) = none := by
      refine List.find?_eq_none.2 fun name hname => ?_
      have hmem : name ∈ scope ++ earlier.map Declaration.name := by
        rcases hlast declaration List.mem_cons_self name hname with hscope | ⟨use, huse, hwithin⟩
        · exact List.mem_append_left _ hscope
        · obtain ⟨target, htarget, rfl⟩ := hresolves use huse name hwithin
          exact List.mem_append_right _ (List.mem_map_of_mem htarget)
      rw [List.contains_iff_mem.2 hmem]
      exact Bool.false_ne_true
    rw [List.map_append, run_append, ih hearlier, List.map_append, ← List.append_assoc]
    change run (scope ++ earlier.map Declaration.name) [statementOf declaration] = _
    rw [statementOf, run, hbound, List.map_singleton]
    exact run.eq_1 _

/-! ### Imports -/

/-- Imports bind what they import. -/
theorem run_imports (scope : List String) (uses : Uses) :
    run scope (importsOf uses) = .ok (scope ++ (importsOf uses).flatMap Statement.binds) := by
  unfold importsOf
  split <;> split <;> simp [run, Statement.binds]

theorem binds_importsOf (uses : Uses) : (importsOf uses).flatMap Statement.binds =
    (if uses.enums then ["Enum"] else []) ++ uses.sortedTypes := by
  unfold importsOf
  split <;> split <;> simp_all [Statement.binds]

theorem typing_importsOf (uses : Uses) :
    (importsOf uses).flatMap (Statement.importedFrom "typing") = uses.sortedTypes := by
  unfold importsOf
  split <;> split <;> simp_all [Statement.importedFrom]

theorem enum_importsOf (uses : Uses) :
    (importsOf uses).flatMap (Statement.importedFrom "enum") = if uses.enums then ["Enum"] else [] := by
  unfold importsOf
  split <;> split <;> simp_all [Statement.importedFrom]

theorem module_of_mem_importsOf {uses : Uses} {module : String} {names : List String}
    (h : .imports module names ∈ importsOf uses) : module = "typing" ∨ module = "enum" := by
  unfold importsOf at h
  rcases List.mem_append.1 h with h | h
  · split at h
    · cases List.mem_singleton.1 h
      exact .inr rfl
    · cases h
  · split at h
    · cases h
    · cases List.mem_singleton.1 h
      exact .inl rfl

/-- Imports declare nothing and evaluate nothing. -/
theorem silent_importsOf (uses : Uses) : (importsOf uses).filterMap Statement.declared? = [] ∧
    (importsOf uses).flatMap Statement.uses = [] := by
  unfold importsOf
  split <;> split <;> simp [Statement.declared?, Statement.uses]

/-- Declarations bind their names, and import nothing. -/
theorem names_declarations (catalog : Catalog) :
    (catalog.map statementOf).filterMap Statement.declared? = catalog.map Declaration.name ∧
    (catalog.map statementOf).flatMap Statement.binds = catalog.map Declaration.name ∧
    (catalog.map statementOf).flatMap Statement.uses =
      (catalog.flatMap fun declaration => shapeWords declaration.shape) ∧
    ∀ module, (catalog.map statementOf).flatMap (Statement.importedFrom module) = [] := by
  induction catalog with
  | nil => exact ⟨rfl, rfl, rfl, fun _ => rfl⟩
  | cons declaration rest ih =>
    obtain ⟨hdeclared, hbinds, huses, himports⟩ := ih
    refine ⟨?_, ?_, ?_, fun module => ?_⟩
    · exact congrArg (declaration.name :: ·) hdeclared
    · exact congrArg (declaration.name :: ·) hbinds
    · exact congrArg (shapeWords declaration.shape ++ ·) huses
    · exact himports module

/-! ### Modules -/

/-- The base class of enums is used where there are enums. -/
theorem enums_catalogUses {catalog : Catalog} :
    (catalogUses catalog).enums = true ↔
      ∃ declaration ∈ catalog, ∃ values, declaration.shape = .enum values := by
  unfold catalogUses
  rw [List.any_eq_true]
  refine exists_congr fun declaration => and_congr_right fun _ => ?_
  cases declaration.shape <;> simp [usesOf]

theorem covers_catalogUses {catalog : Catalog} (hlegible : ∀ declaration ∈ catalog, Legible declaration) :
    Covers (catalogUses catalog).types (catalog.flatMap fun declaration => shapeWords declaration.shape) :=
  .flatMap fun declaration hd => covers_usesOf (hlegible declaration hd).uses

/-- **All that declarations evaluate is imported, built in or declared.** -/
theorem mem_scope {catalog : Catalog} (hlegible : ∀ declaration ∈ catalog, Legible declaration)
    (hvalues : catalog.ListsFinite) {declaration : Declaration} (hd : declaration ∈ catalog) {name : String}
    (hname : name ∈ shapeWords declaration.shape) :
    name ∈ builtins ++ (importsOf (catalogUses catalog)).flatMap Statement.binds ∨
      ∃ use ∈ declaration.shape.types, TypeRef.Within (.named name false) use := by
  rw [binds_importsOf, List.mem_append, List.mem_append]
  rcases mem_shapeWords (hvalues declaration hd) hname with hbuiltin | htyping | ⟨rfl, henum⟩ | hdeclared
  · exact .inl (.inl hbuiltin)
  · have hused := (covers_catalogUses hlegible name).2
      ⟨htyping, List.mem_flatMap.2 ⟨declaration, hd, hname⟩⟩
    exact .inl (.inr (.inr (mem_sortedTypes.2 hused)))
  · have henums : (catalogUses catalog).enums = true := List.any_eq_true.2 ⟨declaration, hd, henum⟩
    exact .inl (.inr (.inl (by rw [henums]; exact List.mem_cons_self)))
  · exact .inr hdeclared

/-- **No name is bound twice**: neither do imports take names that are built in, nor do declarations take
names of either kind. -/
theorem nodup_scope {catalog : Catalog} {uses : Uses} (htypes : ∀ name ∈ uses.types, name ∈ typingNames)
    (hlegible : ∀ declaration ∈ catalog, Legible declaration)
    (hnames : (catalog.map Declaration.name).Nodup) :
    (builtins ++ ((importsOf uses).flatMap Statement.binds ++ catalog.map Declaration.name)).Nodup := by
  have hall : ("Enum" :: (builtins ++ typingNames)).Nodup := by simp [builtins, typingNames]
  obtain ⟨henum, hknown⟩ := List.nodup_cons.1 hall
  obtain ⟨hbuiltins, -, hapart⟩ := List.nodup_append'.1 hknown
  have htyping (name : String) (hname : name ∈ uses.sortedTypes) : name ∈ typingNames :=
    htypes name (mem_sortedTypes.1 hname)
  have himports : ∀ name ∈ (if uses.enums then ["Enum"] else []) ++ uses.sortedTypes,
      name ∈ "Enum" :: typingNames := by
    intro name hname
    rcases List.mem_append.1 hname with hname | hname
    · split at hname
      · exact List.mem_singleton.1 hname ▸ List.mem_cons_self
      · cases hname
    · exact List.mem_cons_of_mem _ (htyping name hname)
  rw [binds_importsOf, ← List.append_assoc, List.nodup_append', List.nodup_append', List.nodup_append']
  refine ⟨⟨hbuiltins, ⟨?_, nodup_sortedTypes uses, ?_⟩, ?_⟩, hnames, ?_⟩
  · split
    · exact List.nodup_singleton _
    · exact List.nodup_nil
  · intro name hname htype
    split at hname
    · obtain rfl := List.mem_singleton.1 hname
      exact henum (List.mem_append_right _ (htyping _ htype))
    · cases hname
  · intro name hbuiltin himport
    rcases List.mem_cons.1 (himports name himport) with rfl | htype
    · exact henum (List.mem_append_left _ hbuiltin)
    · exact hapart hbuiltin htype
  · intro name hscope hdeclared
    obtain ⟨declaration, hd, rfl⟩ := List.mem_map.1 hdeclared
    refine not_mem_of_legal (hlegible declaration hd).name ?_
    rcases List.mem_append.1 hscope with hbuiltin | himport
    · exact List.mem_cons_of_mem _ (List.mem_append_left _ hbuiltin)
    · rcases List.mem_cons.1 (himports _ himport) with heq | htype
      · exact heq ▸ List.mem_cons_self
      · exact List.mem_cons_of_mem _ (List.mem_append_right _ htype)

/-- **Generated modules run.** The module of an analysis whose schemas list finite values only consists of
imports and a statement for each declaration. Each name is bound when it is evaluated, and none is bound
twice, so what is evaluated is built in, imported, or declared by an earlier statement and never taken by
another. The names imported from the module of types are those of its names that are evaluated, and the base
class of enums is imported if and only if there is an enum. -/
theorem run_of_render {schemas : List Json} {catalog : Catalog} {source : String}
    (hanalyze : Analysis.analyze schemas = .ok catalog) (hfinite : ∀ schema ∈ schemas, schema.ListsFinite)
    (hrender : render catalog = .ok source) :
    ∃ statements, statements? source = some statements ∧
      statements.filterMap Statement.declared? = catalog.map Declaration.name ∧
      run builtins statements = .ok (builtins ++ statements.flatMap Statement.binds) ∧
      (builtins ++ statements.flatMap Statement.binds).Nodup ∧
      (∀ module names, .imports module names ∈ statements → module = "typing" ∨ module = "enum") ∧
      (∀ name, name ∈ statements.flatMap (Statement.importedFrom "typing") ↔
        name ∈ typingNames ∧ name ∈ statements.flatMap Statement.uses) ∧
      (∀ name, name ∈ statements.flatMap (Statement.importedFrom "enum") ↔
        name = "Enum" ∧ ∃ declaration ∈ catalog, ∃ values, declaration.shape = .enum values) := by
  obtain ⟨hnames, hlegible⟩ := legible_of_analyze hanalyze
  have hvalues := Analysis.listsFinite_of_analyze hanalyze hfinite
  have hcovers := covers_catalogUses hlegible
  have htypes (name : String) (hname : name ∈ (catalogUses catalog).types) : name ∈ typingNames :=
    ((hcovers name).1 hname).1
  obtain ⟨hdeclared, hbinds, huses, hforeign⟩ := names_declarations catalog
  obtain ⟨hsilent, hunused⟩ := silent_importsOf (catalogUses catalog)
  refine ⟨_, statements?_of_render hrender hlegible htypes, ?_, ?_, ?_, fun module names himport => ?_,
    fun name => ?_, fun name => ?_⟩
  · rw [List.filterMap_append, hsilent, hdeclared, List.nil_append]
  · rw [run_append, run_imports, List.flatMap_append, hbinds, ← List.append_assoc]
    exact run_declarations (Analysis.ordered_of_analyze hanalyze)
      fun declaration hd name hname => mem_scope hlegible hvalues hd hname
  · rw [List.flatMap_append, hbinds]
    exact nodup_scope htypes hlegible hnames
  · rcases List.mem_append.1 himport with himport | hdefined
    · exact module_of_mem_importsOf himport
    · obtain ⟨declaration, -, heq⟩ := List.mem_map.1 hdefined
      cases heq
  · rw [List.flatMap_append, List.flatMap_append, typing_importsOf, hforeign, List.append_nil, huses,
      hunused, List.nil_append, mem_sortedTypes]
    exact hcovers name
  · rw [List.flatMap_append, enum_importsOf, hforeign, List.append_nil, ← enums_catalogUses]
    cases (catalogUses catalog).enums <;> simp

/-! ### A list of constants -/

section Constants

open Analysis

/-- The module of a list of constants. -/
def constantSource : String :=
  "# Code generated by json_schema_release. DO NOT EDIT.\n" ++
    "from enum import Enum\nfrom typing import List\n\n" ++
    "class SchemaItem(Enum):\n    NONE = None\n\nSchema = List[SchemaItem]\n"

/-- The statements of the module. -/
def constantStatements : List Statement :=
  [.imports "enum" ["Enum"], .imports "typing" ["List"], .defines "SchemaItem" ["Enum", "None"],
    .defines "Schema" ["List", "SchemaItem"]]

/-- The alias evaluates a name that is imported and one that is declared before it. -/
theorem run_of_render_constantItems :
    analyze [.obj constantItems] = .ok constantCatalog ∧ (Json.obj constantItems).ListsFinite ∧
    render constantCatalog = .ok constantSource ∧ statements? constantSource = some constantStatements ∧
    run builtins constantStatements = .ok (builtins ++ ["Enum", "List", "SchemaItem", "Schema"]) ∧
    (builtins ++ ["Enum", "List", "SchemaItem", "Schema"]).Nodup ∧
    "List" ∈ constantStatements.flatMap (Statement.importedFrom "typing") ∧
    "Enum" ∈ constantStatements.flatMap (Statement.importedFrom "enum") := by
  have hconstant : (Json.obj [("const", .null)]).ListsFinite :=
    Json.listsFinite_obj_iff.2 (List.forall_mem_singleton.2 ⟨List.forall_mem_singleton.2 .null, nofun⟩)
  have hfinite : (Json.obj constantItems).ListsFinite :=
    Json.listsFinite_obj_iff.2
      (List.forall_mem_singleton.2 ⟨nofun, List.forall_mem_singleton.2 hconstant⟩)
  have hrender : render constantCatalog = .ok constantSource := Json.eq_ok_of_toOption (by decide +kernel)
  have hstatements : statements? constantSource = some constantStatements := by
    -- the characters are spelled out first: to find them in a text that is put together takes the kernel long
    unfold statements? constantSource
    simp only [String.toList_append, String.reduceToList]
    decide +kernel
  obtain ⟨statements, hread, -, hrun, hnodup, -, htyping, henum⟩ :=
    run_of_render analyze_constantItems (List.forall_mem_singleton.2 hfinite) hrender
  obtain rfl : constantStatements = statements := Option.some.inj (hstatements.symm.trans hread)
  refine ⟨analyze_constantItems, hfinite, hrender, hread, hrun, hnodup, ?_, ?_⟩
  · exact (htyping "List").2 ⟨by simp, by simp [constantStatements, Statement.uses]⟩
  · exact (henum "Enum").2 ⟨rfl, _, List.mem_cons_self, _, rfl⟩

end Constants

end SchemaPress.Source.Python
