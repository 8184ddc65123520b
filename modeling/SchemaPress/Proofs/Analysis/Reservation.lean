import SchemaPress.Proofs.Analysis.BackEdge
import SchemaPress.Proofs.Name.Legal

/-!
# Declared names are unique and legal

A name is reserved before its declaration is built and appended when that is finished, possibly many
walks later. At any moment the reserved names are those of the declarations being built and those of
the finished ones, each once (`State.Accounted`). A walk that begins a declaration finishes it, so
it leaves as many under construction as it found, and when an analysis is over, the reserved names
are the declared ones.

Every reserved name is legal in all target languages (`Name.Legal`), and so is every name that a
use of a type refers to (`LegalUse`): it is a reserved one, or for a back edge that finds no
declaration of its title one that is made up the same way.
-/

namespace SchemaPress.Analysis

/-- Every declared type in a use, back edges included, has a legal name. -/
def LegalUse (use : TypeRef) : Prop :=
  ∀ name backEdge, TypeRef.Within (.named name backEdge) use → Name.Legal name

/-- Every use of a type in a catalog has legal names. -/
def LegalCatalog (catalog : Catalog) : Prop :=
  ∀ declaration ∈ catalog, ∀ use ∈ declaration.shape.types, LegalUse use

theorem LegalUse.array {items : TypeRef} (h : LegalUse items) : LegalUse (.array items) :=
  fun name backEdge hname => h name backEdge hname.of_array

theorem legalUse_named {name : String} (h : Name.Legal name) (backEdge : Bool) :
    LegalUse (.named name backEdge) := by
  intro other _ hother
  cases hother
  exact h

theorem IsLeaf.legalUse {schema : Schema} {type : Json} {leaf : TypeRef}
    (h : IsLeaf schema type leaf) : LegalUse leaf :=
  fun name backEdge hname => absurd hname (h.not_within name backEdge)

theorem LegalCatalog.snoc {catalog : Catalog} (h : LegalCatalog catalog)
    {declaration : Declaration} (hd : ∀ use ∈ declaration.shape.types, LegalUse use) :
    LegalCatalog (catalog ++ [declaration]) := by
  intro other hother
  rcases List.mem_append.1 hother with hother | hother
  · exact h other hother
  · obtain rfl := List.mem_singleton.1 hother
    exact hd

/-- A hint gives a legal name, `Type` if it has no words. -/
theorem legal_of_hint {hint : Json} {name : String}
    (h : baseName .null hint = .ok name) : Name.Legal name := by
  cases hint with
  | str text =>
    have heq : baseName .null (.str text) = .ok (Name.orElse (Name.ofType text) "Type") := rfl
    obtain rfl := Except.ok.inj (heq.symm.trans h)
    unfold Name.orElse
    split
    · exact Name.legal_type
    · next hne => exact Name.legal_ofType (by simpa using hne)
  | _ => exact absurd h nofun

/-- A title without words leaves the name to the hint. -/
theorem baseName_str (text : String) (hint : Json) : baseName (.str text) hint =
    if (Name.ofType text).isEmpty then baseName .null hint else .ok (Name.ofType text) := by
  unfold baseName
  rfl

/-- A name that is made of a title and a hint is legal. -/
theorem legal_baseName {title hint : Json} {name : String} (h : baseName title hint = .ok name) :
    Name.Legal name := by
  cases title with
  | str text =>
    rw [baseName_str] at h
    split at h
    · exact legal_of_hint h
    · next hne =>
      obtain rfl := Except.ok.inj h
      exact Name.legal_ofType (by simpa using hne)
  | _ => exact legal_of_hint h

/-! ### The invariant -/

/-- **All reserved names are accounted for**: each is the name of one declaration, being built or
finished. All of them are legal, and so are the names that declarations refer to. -/
structure State.Accounted (state : State) : Prop where
  names : state.names.Perm
    (state.building.map Prod.snd ++ state.declarations.map Declaration.name)
  nodup : state.names.Nodup
  legal : ∀ name ∈ state.names, Name.Legal name
  known : ∀ key name, (key, name) ∈ state.known → Name.Legal name
  uses : LegalCatalog state.declarations

/-- Before an analysis begins. -/
theorem State.Accounted.nil : ({} : State).Accounted where
  names := .refl _
  nodup := List.nodup_nil
  legal := nofun
  known := nofun
  uses := nofun

namespace State.Accounted

variable {state : State} (h : state.Accounted)

include h

theorem legal_lookup {key name : String} (hname : state.known.lookup key = some name) :
    Name.Legal name :=
  h.known key name (mem_of_lookup hname)

/-- A declaration is begun under a fresh name. -/
theorem begin {base : String} (hbase : Name.Legal base) (key : String) (title : Json) :
    (state.begin key (Name.fresh state.names base) title).Accounted where
  names := h.names.cons _
  nodup := List.nodup_cons.2 ⟨Name.fresh_not_mem _ _, h.nodup⟩
  legal := List.forall_mem_cons.2 ⟨hbase.fresh _, h.legal⟩
  known := by
    intro other name hmem
    rcases List.mem_cons.1 hmem with heq | hmem
    · cases heq
      exact hbase.fresh _
    · exact h.known other name hmem
  uses := h.uses

/-- The innermost declaration is finished: its name moves from those being built to those that are
declared. -/
theorem finish {title : Json} {declaration : Declaration} {building : List (Json × String)}
    (hbuilding : state.building = (title, declaration.name) :: building)
    (huses : ∀ use ∈ declaration.shape.types, LegalUse use) :
    (state.finish declaration).Accounted where
  names := by
    have hnames := h.names
    rw [hbuilding] at hnames
    change state.names.Perm ((state.building.drop 1).map Prod.snd ++
      (state.declarations ++ [declaration]).map Declaration.name)
    rw [hbuilding, List.drop_one, List.tail_cons, List.map_append, List.map_singleton,
      ← List.append_assoc]
    exact hnames.trans (List.perm_append_singleton _ _).symm
  nodup := h.nodup
  legal := h.legal
  known := h.known
  uses := h.uses.snoc huses

/-- A declaration is added that was not being built. -/
theorem add {base : String} (hbase : Name.Legal base) (key : String) {declaration : Declaration}
    (hname : declaration.name = Name.fresh state.names base)
    (huses : ∀ use ∈ declaration.shape.types, LegalUse use) :
    (state.add key declaration).Accounted := by
  -- as if it was begun and finished at once
  have hbegin := h.begin hbase key .null
  rw [← hname] at hbegin
  exact hbegin.finish rfl huses

end State.Accounted

/-- The name that a back edge is taken to lead to is legal. -/
theorem State.Accounted.legal_backEdge {schema : Schema} {ref name : String} {state : State}
    (h : state.Accounted) (hname : backEdgeName schema ref state = .ok (name, state)) :
    Name.Legal name := by
  obtain ⟨-, ⟨title, hframe⟩ | ⟨-, hbase⟩⟩ := backEdgeName_eq_ok hname
  · refine h.legal name (h.names.mem_iff.2 (List.mem_append_left _ ?_))
    exact List.mem_map.2 ⟨(title, name), List.mem_of_find?_eq_some hframe, rfl⟩
  · exact legal_baseName hbase

/-- **What a part of a walk leaves behind**: names that are accounted for, as many declarations under
construction as before, and an answer whose names are legal. -/
structure Accounts (state : State) (answer : Answer) (state' : State) : Prop where
  accounted : state'.Accounted
  building : state'.building = state.building
  legal : ∀ use ∈ answer.types, LegalUse use

theorem Accounts.here {state : State} {answer : Answer} (h : state.Accounted)
    (huses : ∀ use ∈ answer.types, LegalUse use) : Accounts state answer state :=
  ⟨h, rfl, huses⟩

/-- **A walk keeps names accounted for.** By induction on the derivation; a declaration that is begun
in a rule is finished in the same rule. -/
theorem Derives.accounts {task : Task} {state state' : State} {log : List Event} {answer : Answer}
    (h : Derives task state log answer state') :
    state.Accounted → (∀ use ∈ task.before, LegalUse use) → Accounts state answer state' := by
  induction h with
  | other => exact fun ha _ => .here ha (List.forall_mem_singleton.2 fun _ _ hname => by cases hname)
  | object parts ih => exact ih
  | backEdge href hname =>
    exact fun ha _ => .here ha
      (List.forall_mem_singleton.2 (legalUse_named (ha.legal_backEdge hname) true))
  | enum href henum parts ih => exact ih
  | union href henum hunion parts ih => exact ih
  | allOf hopen hget hmerge parts ih => exact ih
  | sole hopen hget htypes parts ih => exact ih
  | shared hopen hget htypes hkey hname =>
    exact fun ha _ => .here ha
      (List.forall_mem_singleton.2 (legalUse_named (ha.legal_lookup hname) false))
  | several hopen hget htypes hkey hnone parts hbase hname ih =>
    intro ha _
    have hparts := ih ha nofun
    have hlegal := legal_baseName hbase
    refine ⟨hparts.accounted.add hlegal _ hname hparts.legal, hparts.building,
      List.forall_mem_singleton.2 (legalUse_named ?_ false)⟩
    exact hname ▸ hlegal.fresh _
  | record hlike hfields parts ih => exact ih
  | list hno hlike hitems parts ih =>
    intro ha _
    have hparts := ih ha nofun
    exact ⟨hparts.accounted, hparts.building,
      List.forall_mem_singleton.2 (hparts.legal _ List.mem_cons_self).array⟩
  | leaf hleaf => exact fun ha _ => .here ha (List.forall_mem_singleton.2 hleaf.legalUse)
  | known hkey hname =>
    exact fun ha _ => .here ha
      (List.forall_mem_singleton.2 (legalUse_named (ha.legal_lookup hname) false))
  | fresh hkey hnone hbase hname parts ih =>
    intro ha _
    subst hname
    have hlegal := legal_baseName hbase
    have hparts := ih (ha.begin hlegal _ _) nofun
    refine ⟨hparts.accounted.finish hparts.building hparts.legal, ?_,
      List.forall_mem_singleton.2 (legalUse_named (hlegal.fresh _) false)⟩
    exact congrArg (List.drop 1) hparts.building
  | enumBody => exact fun ha _ => .here ha nofun
  | unionBody hoptions parts ih =>
    intro ha _
    have hparts := ih ha nofun
    exact ⟨hparts.accounted, hparts.building, hparts.legal⟩
  | objectBody hrequired htable parts ih =>
    intro ha _
    have hparts := ih ha nofun
    exact ⟨hparts.accounted, hparts.building, hparts.legal⟩
  | noField => exact fun ha _ => .here ha nofun
  | field first others ihFirst ihOthers =>
    intro ha _
    have hfirst := ihFirst ha nofun
    have hothers := ihOthers hfirst.accounted nofun
    refine ⟨hothers.accounted, hothers.building.trans hfirst.building, fun use huse => ?_⟩
    rcases List.mem_cons.1 huse with rfl | huse
    · exact hfirst.legal _ List.mem_cons_self
    · exact hothers.legal use huse
  | noVariant => exact fun ha hbefore => .here ha hbefore
  | variant first others ihFirst ihOthers =>
    intro ha hbefore
    have hfirst := ihFirst ha nofun
    have hothers := ihOthers hfirst.accounted
      (forall_addVariant hbefore (hfirst.legal _ List.mem_cons_self))
    exact ⟨hothers.accounted, hothers.building.trans hfirst.building, hothers.legal⟩
  | noType => exact fun ha hbefore => .here ha hbefore
  | type first others ihFirst ihOthers =>
    intro ha hbefore
    have hfirst := ihFirst ha nofun
    have hothers := ihOthers hfirst.accounted
      (forall_addVariant hbefore (hfirst.legal _ List.mem_cons_self))
    exact ⟨hothers.accounted, hothers.building.trans hfirst.building, hothers.legal⟩

/-- **So does an analysis**, and none of its walks leaves a declaration unfinished. -/
theorem Defines.accounted {agenda : List (Json × Json)} {state state' : State} {log : List Event}
    (h : Defines agenda state log state') (ha : state.Accounted) :
    state'.Accounted ∧ state'.building = state.building := by
  induction h with
  | done => exact ⟨ha, rfl⟩
  | declared walk others ih =>
    have hwalk := walk.accounts ha nofun
    exact (ih hwalk.accounted).imp_right fun heq => heq.trans hwalk.building
  | known walk hkey hname others ih =>
    have hwalk := walk.accounts ha nofun
    exact (ih hwalk.accounted).imp_right fun heq => heq.trans hwalk.building
  | fresh walk hkey hnone hbase hname others ih =>
    have hwalk := walk.accounts ha nofun
    refine (ih (hwalk.accounted.add (legal_baseName hbase) _ hname hwalk.legal)).imp_right ?_
    exact fun heq => heq.trans hwalk.building

/-- **Declared names are unique and legal.** An analysis that succeeds has reserved exactly the names
that it declares, each for one declaration. They are legal in all target languages, and so are all
names in uses of types, back edges included. -/
theorem analyze_names {schemas : List Json} {catalog : Catalog}
    (h : analyze schemas = .ok catalog) :
    (catalog.map Declaration.name).Nodup ∧
    (∃ state,
      (do defineRoots 0 schemas; defineRest schemas : Run Unit).run {} = .ok ((), state) ∧
      state.declarations = catalog ∧ state.names.Perm (catalog.map Declaration.name)) ∧
    (∀ declaration ∈ catalog, Name.Legal declaration.name) ∧
    ∀ declaration ∈ catalog, ∀ name backEdge, declaration.Mentions (.named name backEdge) →
      Name.Legal name := by
  obtain ⟨state, hrun, rfl⟩ := run_of_analyze h
  obtain ⟨log, hdefines⟩ := defines_of_run hrun
  obtain ⟨ha, hbuilding⟩ := hdefines.accounted .nil
  -- nothing is being built any more, so the reserved names are the declared ones
  have hnames : state.names.Perm (state.declarations.map Declaration.name) := by
    have hall := ha.names
    rw [hbuilding] at hall
    exact hall
  refine ⟨hnames.nodup_iff.1 ha.nodup, ⟨state, hrun, rfl, hnames⟩, fun declaration hd => ?_, ?_⟩
  · exact ha.legal _ (hnames.mem_iff.2 (List.mem_map_of_mem hd))
  · rintro declaration hd name backEdge ⟨use, huse, hwithin⟩
    exact ha.uses declaration hd use huse name backEdge hwithin

/-- The schema that refers to itself: one name is declared, and the back edge has another one, which
is legal as well. -/
theorem analyze_names_untitled :
    (untitledCatalog.map Declaration.name).Nodup ∧
    (∃ state,
      (do defineRoots 0 [.obj untitledMembers]; defineRest [.obj untitledMembers] : Run Unit).run
        {} = .ok ((), state) ∧
      state.declarations = untitledCatalog ∧
      state.names.Perm (untitledCatalog.map Declaration.name)) ∧
    Name.Legal "Schema" ∧ Name.Legal "Type" := by
  obtain ⟨hnodup, hreserved, hdeclared, hused⟩ := analyze_names analyze_untitled
  refine ⟨hnodup, hreserved, hdeclared _ List.mem_cons_self, ?_⟩
  exact hused _ List.mem_cons_self "Type" true ⟨_, List.mem_cons_self, .self⟩

end SchemaPress.Analysis
