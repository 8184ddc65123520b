import SchemaPress.Proofs.Reference.Resolution

/-!
# Walks over documents

What a schema says at a path can be told without inlining anything, by walking over the documents as
they are: a step from an object that stands for a reference takes a member beside the reference, or
else goes on from what the reference names (`Step`). A reference may name another reference; `Leads`
is where such a chain ends.

Where a chain ends in something else than an object, there is nothing for the members beside the
references to be merged with, and a walk does not see them.
-/

namespace SchemaPress

/-- A step of a path: into an object by name, or into an array by index. -/
inductive Key where
  | name (name : String)
  | index (index : Nat)
deriving DecidableEq

/-- The value at a path. -/
def Json.at? (value : Json) : List Key → Option Json
  | [] => some value
  | .name name :: rest =>
    match value with
    | .obj members => (Members.get? members name).bind (·.at? rest)
    | _ => none
  | .index index :: rest =>
    match value with
    | .arr items => items[index]?.bind (·.at? rest)
    | _ => none

/-- A path is followed from its first key on. -/
theorem Json.at?_cons (value : Json) (key : Key) (rest : List Key) :
    value.at? (key :: rest) = (value.at? [key]).bind (·.at? rest) := by
  cases key with
  | name name =>
    cases value with
    | obj members =>
      simp only [Json.at?]
      cases Members.get? members name <;> rfl
    | _ => rfl
  | index index =>
    cases value with
    | arr items =>
      simp only [Json.at?]
      cases items[index]? <;> rfl
    | _ => rfl

/-- A path is followed part by part. -/
theorem Json.at?_append (value : Json) (before rest : List Key) :
    value.at? (before ++ rest) = (value.at? before).bind (·.at? rest) := by
  induction before generalizing value with
  | nil => rfl
  | cons key before ih =>
    rw [List.cons_append, at?_cons, at?_cons value key before, Option.bind_assoc]
    exact congrArg _ (funext ih)

/-- What stands in front of a path exists if the path does. -/
theorem Json.at?_of_prefix {value found : Json} {before path : List Key} (h : before <+: path)
    (hfound : value.at? path = some found) : ∃ part, value.at? before = some part := by
  obtain ⟨rest, rfl⟩ := h
  rw [Json.at?_append] at hfound
  obtain ⟨part, hpart, -⟩ := Option.bind_eq_some_iff.1 hfound
  exact ⟨part, hpart⟩

/-- A text has no parts. -/
theorem Json.at?_text {text : String} {path : List Key} {part : Json}
    (h : (Json.str text).at? path = some part) : part = .str text := by
  rcases path with _ | ⟨key, rest⟩
  · exact (Option.some.inj h).symm
  · cases key <;> cases h

/-- What an object has under a name. -/
theorem Json.at?_name {members : Members} {name : String} :
    (Json.obj members).at? [.name name] = members.get? name := by
  simp only [Json.at?]
  cases Members.get? members name <;> rfl

/-- What an array has under an index. -/
theorem Json.at?_index {items : List Json} {index : Nat} :
    (Json.arr items).at? [.index index] = items[index]? := by
  simp only [Json.at?]
  cases items[index]? <;> rfl

/-- **Clear paths.** No object on the way, the end included, stands for a reference. -/
def Json.Clear (value : Json) (path : List Key) : Prop :=
  ∀ before, before <+: path → ∀ found, value.at? before = some found → found.ref? = none

theorem Json.Clear.ref? {value : Json} {path : List Key} (h : value.Clear path) :
    value.ref? = none :=
  h [] List.nil_prefix value rfl

theorem Json.Clear.rest {value next : Json} {key : Key} {rest : List Key}
    (h : value.Clear (key :: rest)) (hnext : value.at? [key] = some next) : next.Clear rest := by
  intro before hbefore found hfound
  refine h (key :: before) (List.cons_prefix_cons.2 ⟨rfl, hbefore⟩) found ?_
  rw [Json.at?_cons, hnext]
  exact hfound

/-- A node of a document, with its place. -/
structure Site where
  document : String
  pointer : String
  node : Json

namespace Site

/-- The site of a member. -/
def member (site : Site) (name : String) (value : Json) : Site :=
  ⟨site.document, site.pointer ++ "/" ++ Pointer.escape name, value⟩

/-- The site of an item. -/
def item (site : Site) (index : Nat) (value : Json) : Site :=
  ⟨site.document, site.pointer ++ "/" ++ toString index, value⟩

/-- The spelling of the place of a site. -/
def key (site : Site) : String :=
  Target.placeKey site.document site.pointer

end Site

/-- The site of a target. -/
def Target.site (target : Target) (found : Json) : Site :=
  ⟨target.document, Pointer.text target.tokens, found⟩

namespace Library

variable {library : Library}

/-- The site of the schema itself. -/
def rootSite (library : Library) : Site :=
  ⟨"", "", library.root⟩

/-- **A hop.** The site is an object with a reference, which names this target. -/
def Hop (library : Library) (site : Site) (target : Target) (found : Json) : Prop :=
  ∃ members ref, site.node = .obj members ∧ library.Refers site.document members ref target found

theorem Hop.unique {site : Site} {target target' : Target} {found found' : Json}
    (h : library.Hop site target found) (h' : library.Hop site target' found') :
    target = target' ∧ found = found' := by
  obtain ⟨members, ref, hnode, hrefers⟩ := h
  obtain ⟨members', ref', hnode', hrefers'⟩ := h'
  obtain rfl := Json.obj.inj (hnode.symm.trans hnode')
  exact (hrefers.unique hrefers').2

theorem Hop.ref?_ne {site : Site} {target : Target} {found : Json}
    (h : library.Hop site target found) : site.node.ref? ≠ none := by
  obtain ⟨members, ref, hnode, hrefers⟩ := h
  rw [hnode]
  change Members.ref? members ≠ none
  rw [hrefers.isRef]
  exact nofun

/-- **Chains.** From reference to reference, a site leads to one that is none. -/
inductive Leads (library : Library) : Site → Site → Prop where
  | here {site : Site} (href : site.node.ref? = none) : Leads library site site
  | hop {site last : Site} {target : Target} {found : Json} (hop : library.Hop site target found)
      (rest : Leads library (target.site found) last) : Leads library site last

/-- A chain has one end. -/
theorem Leads.unique {site last last' : Site} (h : library.Leads site last)
    (h' : library.Leads site last') : last = last' := by
  -- a site is a reference or none, so both chains go on or end together
  induction h with
  | here href =>
    cases h' with
    | here => rfl
    | hop hop => exact absurd href hop.ref?_ne
  | hop hop rest ih =>
    cases h' with
    | here href => exact absurd href hop.ref?_ne
    | hop hop' rest' =>
      obtain ⟨rfl, rfl⟩ := hop.unique hop'
      exact ih rest'

/-- Whether an object has a member of this name, other than the reference that it stands for. -/
def HasBeside (members : Members) (name : String) : Prop :=
  name ≠ "$ref" ∧ members.get? name ≠ none

/-- **Steps.** An array leads to its items and an object without a reference to its members. An
object with a reference leads to the members beside the reference, unless the chain ends in no
object; by all other keys it leads where the target leads. -/
inductive Step (library : Library) : Site → Key → Site → Prop where
  | item {site : Site} {items : List Json} {index : Nat} {value : Json}
      (hnode : site.node = .arr items) (hitem : items[index]? = some value) :
      Step library site (.index index) (site.item index value)
  | member {site : Site} {members : Members} {name : String} {value : Json}
      (hnode : site.node = .obj members) (href : members.ref? = none)
      (hmember : members.get? name = some value) :
      Step library site (.name name) (site.member name value)
  | beside {site : Site} {members : Members} {name ref : String} {value : Json}
      (hnode : site.node = .obj members) (href : members.ref? = some ref) (hname : name ≠ "$ref")
      (hmember : members.get? name = some value)
      (hlast : ∀ last, library.Leads site last → last.node.isObj = true) :
      Step library site (.name name) (site.member name value)
  | through {site next : Site} {members : Members} {ref : String} {target : Target} {found : Json}
      {key : Key} (hnode : site.node = .obj members)
      (hrefers : library.Refers site.document members ref target found)
      (hkey : ∀ name, key = .name name → ¬ HasBeside members name)
      (step : Step library (target.site found) key next) : Step library site key next

/-- **A walk** takes one step for each key of a path. -/
inductive Walks (library : Library) : Site → List Key → Site → Prop where
  | nil {site : Site} : Walks library site [] site
  | cons {site next last : Site} {key : Key} {path : List Key} (first : Step library site key next)
      (rest : Walks library next path last) : Walks library site (key :: path) last

/-- A key leads to one site. -/
theorem Step.unique {site next next' : Site} {key : Key} (h : Step library site key next)
    (h' : Step library site key next') : next = next' := by
  -- the rules exclude each other: by the kind of the node, its reference, and what is beside it
  induction h with
  | item hnode hitem =>
    cases h' with
    | item hnode' hitem' =>
      obtain rfl := Json.arr.inj (hnode.symm.trans hnode')
      obtain rfl := Option.some.inj (hitem.symm.trans hitem')
      rfl
    | through hnode' => exact absurd (hnode.symm.trans hnode') nofun
  | member hnode href hmember =>
    cases h' with
    | member hnode' href' hmember' =>
      obtain rfl := Json.obj.inj (hnode.symm.trans hnode')
      obtain rfl := Option.some.inj (hmember.symm.trans hmember')
      rfl
    | beside hnode' href' =>
      obtain rfl := Json.obj.inj (hnode.symm.trans hnode')
      exact absurd (href.symm.trans href') nofun
    | through hnode' hrefers' =>
      obtain rfl := Json.obj.inj (hnode.symm.trans hnode')
      exact absurd (href.symm.trans hrefers'.isRef) nofun
  | beside hnode href hname hmember hlast =>
    cases h' with
    | member hnode' href' =>
      obtain rfl := Json.obj.inj (hnode.symm.trans hnode')
      exact absurd (href.symm.trans href') nofun
    | beside hnode' href' hname' hmember' =>
      obtain rfl := Json.obj.inj (hnode.symm.trans hnode')
      obtain rfl := Option.some.inj (hmember.symm.trans hmember')
      rfl
    | through hnode' hrefers' hkey' =>
      obtain rfl := Json.obj.inj (hnode.symm.trans hnode')
      exact absurd ⟨hname, by rw [hmember]; exact nofun⟩ (hkey' _ rfl)
  | through hnode hrefers hkey step ih =>
    cases h' with
    | item hnode' => exact absurd (hnode.symm.trans hnode') nofun
    | member hnode' href' =>
      obtain rfl := Json.obj.inj (hnode.symm.trans hnode')
      exact absurd (hrefers.isRef.symm.trans href') nofun
    | beside hnode' href' hname' hmember' =>
      obtain rfl := Json.obj.inj (hnode.symm.trans hnode')
      exact absurd ⟨hname', by rw [hmember']; exact nofun⟩ (hkey _ rfl)
    | through hnode' hrefers' hkey' step' =>
      obtain rfl := Json.obj.inj (hnode.symm.trans hnode')
      obtain ⟨-, rfl, rfl⟩ := hrefers.unique hrefers'
      exact ih step'

/-- A path leads to one site. -/
theorem Walks.unique {site last last' : Site} {path : List Key} (h : Walks library site path last)
    (h' : Walks library site path last') : last = last' := by
  induction h with
  | nil => cases h'; rfl
  | cons first rest ih =>
    cases h' with
    | cons first' rest' =>
      obtain rfl := first.unique first'
      exact ih rest'

/-- A step by name from a reference goes to a member beside it or through its target. -/
theorem Step.cases_refers {site next : Site} {name : String} {members : Members} {ref : String}
    {target : Target} {found : Json} (h : Step library site (.name name) next)
    (hnode : site.node = .obj members)
    (hrefers : library.Refers site.document members ref target found) :
    (∃ value, name ≠ "$ref" ∧ members.get? name = some value ∧ next = site.member name value) ∨
    (¬ HasBeside members name ∧ Step library (target.site found) (.name name) next) := by
  cases h with
  | member hnode' href' =>
    obtain rfl := Json.obj.inj (hnode.symm.trans hnode')
    exact absurd (hrefers.isRef.symm.trans href') nofun
  | beside hnode' href' hname hmember =>
    obtain rfl := Json.obj.inj (hnode.symm.trans hnode')
    exact .inl ⟨_, hname, hmember, rfl⟩
  | through hnode' hrefers' hkey step =>
    obtain rfl := Json.obj.inj (hnode.symm.trans hnode')
    obtain ⟨-, rfl, rfl⟩ := hrefers.unique hrefers'
    exact .inr ⟨hkey name rfl, step⟩

section Targets

variable {site : Site} {members : Members} {ref name : String} {target : Target} {found : Json}

/-- By a name that is not beside the reference, a step of the target is one of the reference. -/
theorem Step.of_target {next : Site} (h : Step library (target.site found) (.name name) next)
    (hnode : site.node = .obj members)
    (hrefers : library.Refers site.document members ref target found)
    (hno : ¬ HasBeside members name) : Step library site (.name name) next := by
  refine .through hnode hrefers (fun other heq => ?_) h
  obtain rfl := Key.name.inj heq
  exact hno

/-- By such a name, the reference has no step that the target has not. -/
theorem Step.none_of_target (hnone : ∀ next, ¬ Step library (target.site found) (.name name) next)
    (hnode : site.node = .obj members)
    (hrefers : library.Refers site.document members ref target found)
    (hno : ¬ HasBeside members name) : ∀ next, ¬ Step library site (.name name) next := by
  intro next hstep
  rcases hstep.cases_refers hnode hrefers with ⟨value, hname, hvalue, -⟩ | ⟨-, hstep⟩
  · exact hno ⟨hname, by rw [hvalue]; exact nofun⟩
  · exact hnone next hstep

end Targets

/-! ### Steps and the end of the chain -/

end Library

end SchemaPress
