import Mathlib.Data.List.Forall2
import Mathlib.Tactic.ByContra
import SchemaPress.Proofs.Analysis.Derivation
import SchemaPress.Proofs.Text.Pieces
import SchemaPress.Text.Basic

/-!
# Texts in declarations

Besides names of its own making, a declaration takes texts from its schema: what the schema says about
itself and about each property, and the names of the properties. A description may be any text there, but it
is cut into words and put together with single spaces, so it is one line in every language
(`unbroken_descriptionOf`). Names of properties are kept as they are. They may be no texts where a list of
pairs was accepted for an object; but a table can be told from others only if its names can be sorted, so
all of them are texts then or none is (`alike_of_propertiesOf`).

Both hold of every declaration of an analysis (`worded_of_analyze`). What is said about a declaration and its
properties is said by a schema that was met under its name (`described_of_analyze`).
-/

namespace SchemaPress

/-- **One line of single words**: of all blank characters, a text has spaces only. -/
def Text.Unbroken (text : String) : Prop :=
  ∀ c ∈ text.toList, isBlank c = true → c = ' '

theorem Text.Unbroken.not_mem {text : String} (h : Unbroken text) {c : Char} (hblank : isBlank c = true)
    (hspace : c ≠ ' ') : c ∉ text.toList :=
  fun hmem => hspace (h c hmem hblank)

/-- All names are texts, or none is. -/
def PropertyName.Alike (names : List PropertyName) : Prop :=
  (∀ name ∈ names, ∃ text, name = .text text) ∨ ∀ name ∈ names, ∃ value, name = .scalar value

/-- **What an object type takes from its schema**: descriptions of one line, and names of one kind. -/
structure Field.Worded (fields : List Field) : Prop where
  unbroken : ∀ field ∈ fields, Text.Unbroken field.description
  alike : PropertyName.Alike (fields.map Field.name)

/-- What a declaration takes from its schema. -/
structure Declaration.Worded (declaration : Declaration) : Prop where
  unbroken : Text.Unbroken declaration.description
  fields : ∀ fields, declaration.shape = .object fields → Field.Worded fields

/-- What a catalog takes from its schemas. -/
def Catalog.Worded (catalog : Catalog) : Prop :=
  ∀ declaration ∈ catalog, declaration.Worded

theorem Catalog.Worded.snoc {catalog : Catalog} (h : catalog.Worded) {declaration : Declaration}
    (hd : declaration.Worded) : Catalog.Worded (catalog ++ [declaration]) := by
  intro other hother
  rcases List.mem_append.1 hother with hother | hother
  · exact h other hother
  · obtain rfl := List.mem_singleton.1 hother
    exact hd

/-! ### Words of a description -/

namespace Text

theorem not_isBlank_of_mem_foldr (text : List Char) :
    (∀ c ∈ (text.foldr blankStep ([], [])).1, isBlank c = false) ∧
    ∀ word ∈ (text.foldr blankStep ([], [])).2, ∀ c ∈ word, isBlank c = false := by
  induction text with
  | nil => exact ⟨nofun, nofun⟩
  | cons c rest ih =>
    rw [List.foldr_cons]
    generalize rest.foldr blankStep ([], []) = cut at ih
    obtain ⟨current, later⟩ := cut
    obtain ⟨hcurrent, hlater⟩ := ih
    rw [blankStep]
    split
    · -- the word behind a blank is complete
      refine ⟨nofun, fun word hword => ?_⟩
      split at hword
      · exact hlater word hword
      · rcases List.mem_cons.1 hword with rfl | hword
        · exact hcurrent
        · exact hlater word hword
    · next hc => exact ⟨List.forall_mem_cons.2 ⟨by simpa using hc, hcurrent⟩, hlater⟩

/-- No word has a blank character. -/
theorem not_isBlank_of_mem_splitBlank {text word : String} (h : word ∈ splitBlank text) {c : Char}
    (hc : c ∈ word.toList) : isBlank c = false := by
  obtain ⟨run, hrun, rfl⟩ := List.mem_map.1 h
  rw [String.toList_ofList] at hc
  obtain ⟨hcurrent, hlater⟩ := not_isBlank_of_mem_foldr text.toList
  unfold unblankRuns at hrun
  simp only at hrun
  split at hrun
  · exact hlater run hrun c hc
  · rcases List.mem_cons.1 hrun with rfl | hrun
    · exact hcurrent c hc
    · exact hlater run hrun c hc

end Text

namespace Analysis

/-- **A description is one line of single words.** -/
theorem unbroken_descriptionOf (schema : Json) : Text.Unbroken (descriptionOf schema) := by
  unfold descriptionOf
  split
  · intro c hc hblank
    by_contra hspace
    rw [String.toList_intercalate] at hc
    refine Text.not_mem_intercalate ?_ (fun word hword hmem => ?_) hc
    · intro hmem
      exact hspace (List.mem_singleton.1 hmem)
    · obtain ⟨text, htext, rfl⟩ := List.mem_map.1 hword
      rw [Text.not_isBlank_of_mem_splitBlank htext hmem] at hblank
      cases hblank
  · intro c hc
    exact absurd hc List.not_mem_nil

/-! ### Names of properties -/

/-- Names that can be sorted are all texts, or none is. -/
theorem alike_of_sortable {table : PropertyTable} (h : Schema.sortable table = true) :
    PropertyName.Alike (table.map Prod.fst) := by
  unfold Schema.sortable at h
  rw [Bool.or_eq_true, Bool.or_eq_true] at h
  rcases h with (hshort | htexts) | hnumbers
  · match table, of_decide_eq_true hshort with
    | [], _ => exact .inl nofun
    | [(.text name, _)], _ => exact .inl (List.forall_mem_singleton.2 ⟨name, rfl⟩)
    | [(.scalar value, _)], _ => exact .inr (List.forall_mem_singleton.2 ⟨value, rfl⟩)
    | _ :: _ :: _, hle => exact absurd hle (by simp)
  · refine .inl fun name hname => ?_
    obtain ⟨⟨name, value⟩, hrow, rfl⟩ := List.mem_map.1 hname
    have htext := List.all_eq_true.1 htexts _ hrow
    cases name with
    | text text => exact ⟨text, rfl⟩
    | scalar scalar => cases htext
  · refine .inr fun name hname => ?_
    obtain ⟨⟨name, value⟩, hrow, rfl⟩ := List.mem_map.1 hname
    have hnumber := List.all_eq_true.1 hnumbers _ hrow
    cases name with
    | text text => cases hnumber
    | scalar scalar => exact ⟨scalar, rfl⟩

/-- The properties of a schema whose structure can be told. -/
theorem alike_of_propertiesOf {schema : Schema} {key : String} {table : PropertyTable}
    (hkey : schema.structureText = .ok key) (h : propertiesOf schema = .ok table) :
    PropertyName.Alike (table.map Prod.fst) := by
  unfold Schema.structureText at hkey
  unfold propertiesOf at h
  cases htable : schema.table with
  | some rows =>
    simp only [htable] at h hkey
    obtain rfl := Except.ok.inj h
    split at hkey
    · next hsortable => exact alike_of_sortable hsortable
    · cases hkey
  | none =>
    simp only [htable] at h
    split at h
    · -- members of an object have texts for names
      next members hget =>
        obtain rfl := Except.ok.inj h
        refine .inl fun name hname => ?_
        obtain ⟨row, hrow, rfl⟩ := List.mem_map.1 hname
        obtain ⟨member, -, rfl⟩ := List.mem_map.1 hrow
        exact ⟨member.1, rfl⟩
    · cases h

/-! ### Walks -/

/-- A part of a walk is about a schema whose structure can be told. -/
def Task.IsTold : Task → Prop
  | .body _ part _ => ∃ key, part.structureText = .ok key
  | _ => True

/-- What a part of a walk answers about fields: a field for each property, under its name. -/
def Task.Worded : Task → Answer → Prop
  | .fields _ _ table, answer => ∀ fields, answer = .fields fields →
      fields.map Field.name = table.map Prod.fst ∧ ∀ field ∈ fields, Text.Unbroken field.description
  | .body _ _ _, answer => ∀ fields, answer = .shape (.object fields) → Field.Worded fields
  | _, _ => True

/-- **Walks declare what their schemas say.** By induction on the derivation; a declaration is begun only for
a schema whose structure can be told. -/
theorem Derives.worded {task : Task} {state state' : State} {log : List Event} {answer : Answer}
    (h : Derives task state log answer state') :
    task.IsTold → state.declarations.Worded → state'.declarations.Worded ∧ task.Worded answer := by
  induction h with
  | other => exact fun _ hd => ⟨hd, trivial⟩
  | object parts ih => exact fun _ hd => ⟨(ih trivial hd).1, trivial⟩
  | backEdge => exact fun _ hd => ⟨hd, trivial⟩
  | enum href henum parts ih => exact fun _ hd => ⟨(ih trivial hd).1, trivial⟩
  | union href henum hunion parts ih => exact fun _ hd => ⟨(ih trivial hd).1, trivial⟩
  | allOf hopen hget hmerge parts ih => exact fun _ hd => ⟨(ih trivial hd).1, trivial⟩
  | sole hopen hget htypes parts ih => exact fun _ hd => ⟨(ih trivial hd).1, trivial⟩
  | shared => exact fun _ hd => ⟨hd, trivial⟩
  | several hopen hget htypes hkey hnone parts hbase hname ih =>
    exact fun _ hd => ⟨(ih trivial hd).1.snoc ⟨unbroken_descriptionOf _, nofun⟩, trivial⟩
  | record hlike hfields parts ih => exact fun _ hd => ⟨(ih trivial hd).1, trivial⟩
  | list hno hlike hitems parts ih => exact fun _ hd => ⟨(ih trivial hd).1, trivial⟩
  | leaf => exact fun _ hd => ⟨hd, trivial⟩
  | known => exact fun _ hd => ⟨hd, trivial⟩
  | fresh hkey hnone hbase hname parts ih =>
    intro _ hd
    obtain ⟨hbody, hshape⟩ := ih ⟨_, hkey⟩ hd
    refine ⟨hbody.snoc ⟨unbroken_descriptionOf _, fun fields heq => ?_⟩, trivial⟩
    exact hshape fields (congrArg Answer.shape heq)
  | enumBody => exact fun _ hd => ⟨hd, nofun⟩
  | unionBody hoptions parts ih => exact fun _ hd => ⟨(ih trivial hd).1, nofun⟩
  | objectBody hrequired htable parts ih =>
    rintro ⟨key, hkey⟩ hd
    obtain ⟨hparts, hfields⟩ := ih trivial hd
    refine ⟨hparts, fun fields heq => ?_⟩
    cases heq
    obtain ⟨hnames, hunbroken⟩ := hfields _ rfl
    exact ⟨hunbroken, hnames ▸ alike_of_propertiesOf hkey htable⟩
  | noField =>
    intro _ hd
    refine ⟨hd, fun fields heq => ?_⟩
    cases heq
    exact ⟨rfl, nofun⟩
  | field first others ihFirst ihOthers =>
    intro _ hd
    obtain ⟨hothers, hfields⟩ := ihOthers trivial (ihFirst trivial hd).1
    refine ⟨hothers, fun fields heq => ?_⟩
    cases heq
    obtain ⟨hnames, hunbroken⟩ := hfields _ rfl
    exact ⟨congrArg _ hnames, List.forall_mem_cons.2 ⟨unbroken_descriptionOf _, hunbroken⟩⟩
  | noVariant => exact fun _ hd => ⟨hd, trivial⟩
  | variant first others ihFirst ihOthers =>
    exact fun _ hd => ⟨(ihOthers trivial (ihFirst trivial hd).1).1, trivial⟩
  | noType => exact fun _ hd => ⟨hd, trivial⟩
  | type first others ihFirst ihOthers =>
    exact fun _ hd => ⟨(ihOthers trivial (ihFirst trivial hd).1).1, trivial⟩

/-- So does an analysis. -/
theorem Defines.worded {agenda : List (Json × Json)} {state state' : State} {log : List Event}
    (h : Defines agenda state log state') (hd : state.declarations.Worded) :
    state'.declarations.Worded := by
  induction h with
  | done => exact hd
  | declared walk others ih => exact ih (walk.worded trivial hd).1
  | known walk hkey hname others ih => exact ih (walk.worded trivial hd).1
  | fresh walk hkey hnone hbase hname others ih =>
    exact ih ((walk.worded trivial hd).1.snoc ⟨unbroken_descriptionOf _, nofun⟩)

/-- **Texts in the catalog of an analysis**: every description is one line, and the properties of an object
type all have texts for names, or none has. -/
theorem worded_of_analyze {schemas : List Json} {catalog : Catalog}
    (h : analyze schemas = .ok catalog) : catalog.Worded := by
  obtain ⟨log, state, hdefines, rfl⟩ := defines_of_analyze h
  exact hdefines.worded nofun

/-! ### Where descriptions come from -/

/-- The fields for the rows of a table: under their names, and with what the schemas in the rows say. -/
def FieldsDescribed (fields : List Field) (table : PropertyTable) : Prop :=
  List.Forall₂ (fun field row => field.name = row.1 ∧ field.description = descriptionOf row.2) fields table

/-- An object type has the fields for the properties of a schema. -/
def ShapeDescribed (schema : Schema) (shape : Shape) : Prop :=
  ∀ fields, shape = .object fields →
    ∃ table, propertiesOf schema = .ok table ∧ FieldsDescribed fields table

/-- **A declaration tells what a schema says that was met**: the schema that was declared under its name, with
its properties if there are any, or the value that was given its name. -/
inductive Described (log : List Event) (declaration : Declaration) : Prop where
  | declared {schema : Schema} (met : .declared schema declaration.name ∈ log)
      (description : declaration.description = descriptionOf (.obj schema.members))
      (shape : ShapeDescribed schema declaration.shape) : Described log declaration
  | aliased {value : Json} (met : .aliased value declaration.name ∈ log)
      (description : declaration.description = descriptionOf value)
      (shape : ∃ type, declaration.shape = .alias type) : Described log declaration

theorem Described.mono {log log' : List Event} {declaration : Declaration} (h : Described log declaration)
    (hlog : log ⊆ log') : Described log' declaration := by
  cases h with
  | declared met description shape => exact .declared (hlog met) description shape
  | aliased met description shape => exact .aliased (hlog met) description shape

/-- Whatever is new in a state tells what was met on the way. -/
def DescribesNew (log : List Event) (state state' : State) : Prop :=
  ∀ declaration ∈ state'.declarations, declaration ∈ state.declarations ∨ Described log declaration

section

variable {log log' : List Event} {state middle state' : State}

theorem DescribesNew.refl : DescribesNew log state state :=
  fun _ hd => .inl hd

theorem DescribesNew.mono (h : DescribesNew log state state') (hlog : log ⊆ log') :
    DescribesNew log' state state' :=
  fun declaration hd => (h declaration hd).imp_right (·.mono hlog)

theorem DescribesNew.append (h : DescribesNew log state middle) (h' : DescribesNew log' middle state') :
    DescribesNew (log ++ log') state state' := by
  intro declaration hd
  rcases h' declaration hd with hd | hdescribed
  · exact (h.mono (List.subset_append_left log log')) declaration hd
  · exact .inr (hdescribed.mono (List.subset_append_right log log'))

/-- One more declaration, with more that was met. -/
theorem DescribesNew.snoc (h : DescribesNew log state middle) (hlog : log ⊆ log') {declaration : Declaration}
    (hd : Described log' declaration) (hstate : state'.declarations = middle.declarations ++ [declaration]) :
    DescribesNew log' state state' := by
  intro other hother
  rw [hstate] at hother
  rcases List.mem_append.1 hother with hother | hother
  · exact h.mono hlog other hother
  · obtain rfl := List.mem_singleton.1 hother
    exact .inr hd

end

/-- What a part of a walk answers about fields. -/
def Task.Describes : Task → Answer → Prop
  | .fields _ _ table, answer => ∀ fields, answer = .fields fields → FieldsDescribed fields table
  | .body _ part _, answer => ∀ shape, answer = .shape shape → ShapeDescribed part shape
  | _, _ => True

/-- **A walk declares what the schemas say that it meets.** By induction on the derivation; a declaration is
finished right when it is logged. -/
theorem Derives.describes {task : Task} {state state' : State} {log : List Event} {answer : Answer}
    (h : Derives task state log answer state') : DescribesNew log state state' ∧ task.Describes answer := by
  induction h with
  | other => exact ⟨.refl, trivial⟩
  | object parts ih => exact ⟨ih.1, trivial⟩
  | backEdge => exact ⟨.refl, trivial⟩
  | enum href henum parts ih => exact ⟨ih.1.mono (List.subset_append_left ..), trivial⟩
  | union href henum hunion parts ih => exact ⟨ih.1.mono (List.subset_append_left ..), trivial⟩
  | allOf hopen hget hmerge parts ih => exact ⟨ih.1.mono (List.subset_append_left ..), trivial⟩
  | sole hopen hget htypes parts ih => exact ⟨ih.1.mono (List.subset_append_left ..), trivial⟩
  | shared => exact ⟨.refl, trivial⟩
  | several hopen hget htypes hkey hnone parts hbase hname ih =>
    refine ⟨ih.1.snoc (List.subset_append_left ..) ?_ rfl, trivial⟩
    exact .declared (List.mem_append_right _ List.mem_cons_self) rfl nofun
  | record hlike hfields parts ih => exact ⟨ih.1, trivial⟩
  | list hno hlike hitems parts ih => exact ⟨ih.1, trivial⟩
  | leaf => exact ⟨.refl, trivial⟩
  | known => exact ⟨.refl, trivial⟩
  | fresh hkey hnone hbase hname parts ih =>
    -- nothing is declared when a declaration is begun
    obtain ⟨hbody, hshape⟩ := ih
    refine ⟨hbody.snoc (List.subset_append_left ..) ?_ rfl, trivial⟩
    exact .declared (List.mem_append_right _ List.mem_cons_self) rfl (hshape _ rfl)
  | enumBody => exact ⟨.refl, fun shape heq => by cases heq; exact nofun⟩
  | unionBody hoptions parts ih => exact ⟨ih.1, fun shape heq => by cases heq; exact nofun⟩
  | objectBody hrequired htable parts ih =>
    refine ⟨ih.1, fun shape heq fields hfields => ⟨_, htable, ih.2 fields ?_⟩⟩
    cases heq
    cases hfields
    rfl
  | noField => exact ⟨.refl, fun fields heq => by cases heq; exact List.Forall₂.nil⟩
  | field first others ihFirst ihOthers =>
    refine ⟨ihFirst.1.append ihOthers.1, fun fields heq => ?_⟩
    cases heq
    exact List.Forall₂.cons ⟨rfl, rfl⟩ (ihOthers.2 _ rfl)
  | noVariant => exact ⟨.refl, trivial⟩
  | variant first others ihFirst ihOthers => exact ⟨ihFirst.1.append ihOthers.1, trivial⟩
  | noType => exact ⟨.refl, trivial⟩
  | type first others ihFirst ihOthers => exact ⟨ihFirst.1.append ihOthers.1, trivial⟩

/-- So does an analysis, where a root or a definition without a declaration of its own is given one. -/
theorem Defines.describes {agenda : List (Json × Json)} {state state' : State} {log : List Event}
    (h : Defines agenda state log state') : DescribesNew log state state' := by
  induction h with
  | done => exact .refl
  | declared walk others ih => exact walk.describes.1.append ih
  | known walk hkey hname others ih =>
    exact walk.describes.1.append (ih.mono (List.subset_cons_self ..))
  | @fresh value hint rest type key base name state middle state' log log' walk hkey hnone hbase hname others
      ih =>
    have hadded : DescribesNew [.aliased value name] middle
        (middle.add key ⟨name, descriptionOf value, .alias type⟩) :=
      DescribesNew.refl.snoc (List.Subset.refl _) (.aliased List.mem_cons_self rfl ⟨_, rfl⟩) rfl
    exact walk.describes.1.append (hadded.append ih)

/-- **Every declaration of an analysis tells what a schema says** that was met in its course. -/
theorem described_of_analyze {schemas : List Json} {catalog : Catalog} (h : analyze schemas = .ok catalog) :
    ∃ log state, Defines (agenda schemas) {} log state ∧ state.declarations = catalog ∧
      ∀ declaration ∈ catalog, Described log declaration := by
  obtain ⟨log, state, hdefines, rfl⟩ := defines_of_analyze h
  refine ⟨log, state, hdefines, rfl, fun declaration hd => ?_⟩
  exact (hdefines.describes declaration hd).resolve_left List.not_mem_nil

end Analysis

end SchemaPress
