import SchemaPress.Proofs.Reference.Termination

/-!
# Dereferencing means inlining

What `Library.dereference` returns says at every path what the walk along that path over the
documents says (`dereference_inlines`). Two things are different in the result. An object that was
left as a back edge, or any other one with a text under `$ref`, ends the comparison: behind it a
walk goes on and the result does not. And an object that was inlined may have a title that none of
its sites has: the name that a reference gave to an untitled target (`AddedTitle`).

`Mirrors` is the invariant: a value mirrors a site when they agree in kind and each part of the
value mirrors the site of the same step. Every successful derivation gives a mirror of its node
(`Resolves.mirrored`); the case that matters is that of a reference, where the members of the
inlined target are merged with those beside the reference, just as steps find them.

A derivation goes through lists of items and of members one by one. Here the same is told node by node first:
`Becomes` has a rule for each kind of node that inlining comes to a value on, and the parts of a node are told
by their places. Every derivation of a value is of this form (`Resolves.becomes`), so that an induction over
what nodes become has no case for lists.
-/

namespace SchemaPress

namespace Library

variable {library : Library}

/-! ### What a visit becomes -/

/-- **What a visit becomes**, once it comes to a value. -/
inductive Becomes (library : Library) : Visit → Json → Prop where
  | leaf {stack : List String} {site : Site} (harr : ∀ items, site.node ≠ .arr items)
      (hobj : ∀ members, site.node ≠ .obj members) : Becomes library ⟨stack, site⟩ site.node
  | array {stack : List String} {site : Site} {items values : List Json}
      (hnode : site.node = .arr items) (hlength : values.length = items.length)
      (hitems : ∀ index item value, items[index]? = some item → values[index]? = some value →
        Becomes library ⟨stack, site.item index item⟩ value) :
      Becomes library ⟨stack, site⟩ (.arr values)
  | object {stack : List String} {site : Site} {members values : Members}
      (hnode : site.node = .obj members) (href : members.ref? = none)
      (hnames : values.map Prod.fst = members.map Prod.fst)
      (hmembers : ∀ name json value, members.get? name = some json →
        values.get? name = some value →
        Becomes library ⟨site.key :: stack, site.member name json⟩ value) :
      Becomes library ⟨stack, site⟩ (.obj values)
  | backEdge {stack : List String} {site : Site} {members : Members} {ref : String}
      {target : Target} {found : Json} (hnode : site.node = .obj members)
      (hrefers : library.Refers site.document members ref target found)
      (hopen : target.key ∈ site.key :: stack) :
      Becomes library ⟨stack, site⟩ (.obj [("$ref", .str ref), ("title", nameOf target found)])
  | targetValue {stack : List String} {site : Site} {members : Members} {ref : String}
      {target : Target} {found value : Json} (hnode : site.node = .obj members)
      (hrefers : library.Refers site.document members ref target found)
      (hnew : target.key ∉ site.key :: stack)
      (inner : Becomes library ⟨site.key :: stack, target.site found⟩ value)
      (hvalue : ∀ members, value ≠ .obj members) : Becomes library ⟨stack, site⟩ value
  | merged {stack : List String} {site : Site} {members inner beside : Members} {ref : String}
      {target : Target} {found : Json} (hnode : site.node = .obj members)
      (hrefers : library.Refers site.document members ref target found)
      (hnew : target.key ∉ site.key :: stack)
      (hinner : Becomes library ⟨site.key :: stack, target.site found⟩ (.obj inner))
      (hnames : beside.map Prod.fst = members.map Prod.fst)
      (hbeside : ∀ name json value, members.get? name = some json →
        beside.get? name = some value →
        Becomes library ⟨site.key :: stack, site.member name json⟩ value) :
      Becomes library ⟨stack, site⟩
        (.obj (merge (nameOf target found) inner (beside.erase "$ref")))

/-- What a part of an inlining becomes, by places. -/
def Call.Becomes (library : Library) : Call → Json → Prop
  | .node stack document path json, value => library.Becomes ⟨stack, ⟨document, path, json⟩⟩ value
  | .items stack document path start list, value => ∃ values, value = .arr values ∧
      values.length = list.length ∧ ∀ index json part, list[index]? = some json →
        values[index]? = some part →
        library.Becomes ⟨stack, ⟨document, path ++ "/" ++ toString (start + index), json⟩⟩ part
  | .members stack document path list, value => ∃ values, value = .obj values ∧
      values.map Prod.fst = list.map Prod.fst ∧
      ∀ name json part, Members.get? list name = some json → Members.get? values name = some part →
        library.Becomes ⟨stack, ⟨document, path ++ "/" ++ Pointer.escape name, json⟩⟩ part

/-- **Whatever comes to a value becomes it**, by induction on the derivation. -/
theorem Resolves.becomes {call : Call} {result : Except (Stop ReferenceError) Json}
    (h : Resolves library call result) : ∀ value, result = .ok value → call.Becomes library value := by
  induction h with
  | @leaf stack document path node harr hobj =>
    intro value hresult
    cases hresult
    have hleaf : library.Becomes ⟨stack, ⟨document, path, node⟩⟩ (Site.mk document path node).node :=
      .leaf harr hobj
    exact hleaf
  | @array stack document path items result parts ih =>
    intro value hresult
    obtain ⟨values, rfl, hlength, hitems⟩ := ih value hresult
    refine .array rfl hlength fun index item value hitem hvalue => ?_
    have hpart := hitems index item value hitem hvalue
    rw [Nat.zero_add] at hpart
    exact hpart
  | object href parts ih =>
    intro value hresult
    obtain ⟨values, rfl, hnames, hmembers⟩ := ih value hresult
    exact .object rfl href hnames hmembers
  | backEdge hrefers hopen =>
    intro value hresult
    cases hresult
    exact .backEdge rfl hrefers hopen
  | targetValue hrefers hnew inner hvalue ih =>
    intro value hresult
    cases hresult
    exact .targetValue rfl hrefers hnew (ih _ rfl) hvalue
  | merged hrefers hnew inner beside ihInner ihBeside =>
    intro value hresult
    cases hresult
    obtain ⟨values, heq, hnames, hbeside⟩ := ihBeside _ rfl
    obtain rfl := Json.obj.inj heq
    exact .merged rfl hrefers hnew (ihInner _ rfl) hnames hbeside
  | noItem =>
    intro value hresult
    cases hresult
    exact ⟨[], rfl, rfl, nofun⟩
  | item first others ihFirst ihOthers =>
    intro value hresult
    cases hresult
    obtain ⟨values, heq, hlength, hitems⟩ := ihOthers _ rfl
    obtain rfl := Json.arr.inj heq
    refine ⟨_, rfl, by rw [List.length_cons, hlength, List.length_cons], ?_⟩
    intro index json part hjson hpart
    cases index with
    | zero =>
      obtain rfl := Option.some.inj hjson
      obtain rfl := Option.some.inj hpart
      exact ihFirst _ rfl
    | succ index =>
      -- indices count from the start of the items, which moved on by one
      have hrest := hitems index json part hjson hpart
      rw [Nat.add_assoc, Nat.add_comm 1 index] at hrest
      exact hrest
  | noMember =>
    intro value hresult
    cases hresult
    exact ⟨[], rfl, rfl, nofun⟩
  | @member stack document path name json value rest values first others ihFirst ihOthers =>
    intro result hresult
    cases hresult
    obtain ⟨values', heq, hnames, hmembers⟩ := ihOthers _ rfl
    obtain rfl := Json.obj.inj heq
    refine ⟨_, rfl, by rw [List.map_cons, List.map_cons, hnames], ?_⟩
    intro key json' part hjson hpart
    by_cases hkey : key = name
    · subst hkey
      rw [Members.get?_cons_self] at hjson hpart
      obtain rfl := Option.some.inj hjson
      obtain rfl := Option.some.inj hpart
      exact ihFirst _ rfl
    · rw [Members.get?_cons_of_ne hkey] at hjson hpart
      exact hmembers key json' part hjson hpart
  | _ => exact fun value hresult => by cases hresult

/-! ### Mirrors -/

/-- The names that references give to what they name, along the chain of a site. -/
inductive Names (library : Library) : Site → String → Prop where
  | here {site : Site} {target : Target} {found : Json} (hop : library.Hop site target found) :
      Names library site target.fallbackName
  | later {site : Site} {target : Target} {found : Json} {name : String}
      (hop : library.Hop site target found) (rest : Names library (target.site found) name) :
      Names library site name

/-- **An added title.** The site leads to no title, and a reference in its chain gives this name. -/
structure AddedTitle (library : Library) (site : Site) (value : Json) : Prop where
  untitled : ∀ next, ¬ Step library site (.name "title") next
  named : ∃ name, value = .str name ∧ Names library site name

/-- **Mirrors.** The value agrees with the site, and its parts with the sites of the same steps,
up to objects with a reference. -/
inductive Mirrors (library : Library) : Site → Json → Prop where
  | cut {site : Site} {value : Json} (href : value.ref? ≠ none) : Mirrors library site value
  | leaf {site last : Site} {value : Json} (hleads : library.Leads site last)
      (hnode : last.node = value) (harr : ∀ items, value ≠ .arr items)
      (hobj : ∀ members, value ≠ .obj members) : Mirrors library site value
  | array {site last : Site} {items values : List Json} (hleads : library.Leads site last)
      (hnode : last.node = .arr items) (hlength : values.length = items.length)
      (hitems : ∀ index item value, items[index]? = some item → values[index]? = some value →
        Mirrors library (last.item index item) value) : Mirrors library site (.arr values)
  | object {site last : Site} {members : Members} (hleads : library.Leads site last)
      (hnode : last.node.isObj = true)
      (hmembers : ∀ name value, members.get? name = some value →
        (∃ next, Step library site (.name name) next) ∨
        (name = "title" ∧ AddedTitle library site value))
      (hsteps : ∀ name next, Step library site (.name name) next → members.get? name ≠ none)
      (hparts : ∀ name value next, members.get? name = some value →
        Step library site (.name name) next → Mirrors library next value) :
      Mirrors library site (.obj members)

/-- What a derivation gives of a mirror. -/
def Call.Mirrored (library : Library) : Call → Json → Prop
  | .node _ document path json, result => Mirrors library ⟨document, path, json⟩ result
  | .items _ document path start list, result => ∃ values, result = .arr values ∧
      values.length = list.length ∧ ∀ i json value, list[i]? = some json → values[i]? = some value →
        Mirrors library ⟨document, path ++ "/" ++ toString (start + i), json⟩ value
  | .members _ document path list, result => ∃ values, result = .obj values ∧
      values.map Prod.fst = list.map Prod.fst ∧
      ∀ name json value, Members.get? list name = some json →
        Members.get? values name = some value →
        Mirrors library ⟨document, path ++ "/" ++ Pointer.escape name, json⟩ value

/-! ### Merging -/

/-- What is found in a merged object: members beside the reference first, then those of the target,
then its name. -/
theorem get?_merge (name : Json) (inner : Members) {beside : Members} (hbeside : beside.Distinct)
    (key : String) :
    (merge name inner beside).get? key = (beside.get? key).or
      (if name.isTruthy = true ∧ key = "title" then some ((inner.get? "title").getD name)
        else inner.get? key) := by
  -- the members beside the reference are put last, so they are found first
  unfold merge
  rw [Members.get?_foldl_put hbeside]
  congr 1
  by_cases hname : name.isTruthy = true
  · rw [if_pos hname, Members.get?_putIfAbsent]
    simp [hname]
  · rw [if_neg hname]
    simp [hname]

/-- Members of a merged object are those beside the reference, those of the target, or its name. -/
theorem mem_merge {name : Json} {inner beside : Members} {member : String × Json}
    (h : member ∈ merge name inner beside) :
    member ∈ beside ∨ member ∈ inner ∨ (inner.get? "title" = none ∧ member = ("title", name)) := by
  unfold merge at h
  revert member
  refine List.foldlRecOn (motive := fun members => ∀ {member}, member ∈ members →
    member ∈ beside ∨ member ∈ inner ∨ (inner.get? "title" = none ∧ member = ("title", name)))
    beside _ ?_ fun members ih pair hpair member hmember => ?_
  · intro member hmem
    split at hmem
    · unfold Members.putIfAbsent at hmem
      split at hmem
      · exact .inr (.inl hmem)
      · next hhas =>
        rcases List.mem_append.1 hmem with hmem | hmem
        · exact .inr (.inl hmem)
        · refine .inr (.inr ⟨?_, List.mem_singleton.1 hmem⟩)
          rw [Members.has_eq_isSome] at hhas
          simpa using hhas
    · exact .inr (.inl hmem)
  · rcases Members.mem_put hmember with hmem | ⟨hkey, hvalue⟩
    · exact ih hmem
    · obtain rfl : member = pair := Prod.ext hkey hvalue
      exact .inl hpair

section Merging

variable (name : Json) {inner beside : Members} (hbeside : beside.Distinct) {key : String}

include hbeside

/-- The reference of a merged object is that of the inlined target. -/
theorem ref?_merge (inner : Members) :
    (merge name inner (beside.erase "$ref")).ref? = inner.ref? := by
  refine Members.ref?_congr ?_
  rw [get?_merge _ _ (hbeside.erase _), Members.get?_erase]
  simp

/-- A member beside the reference is found in the merged object. -/
theorem get?_merge_beside (inner : Members) (hkey : key ≠ "$ref") {value : Json}
    (hvalue : beside.get? key = some value) :
    (merge name inner (beside.erase "$ref")).get? key = some value := by
  rw [get?_merge _ _ (hbeside.erase _), Members.get?_erase, if_neg hkey, hvalue]
  rfl

/-- Elsewhere the members of the target are found, and its name. -/
theorem get?_merge_elsewhere (hkey : key = "$ref" ∨ beside.get? key = none) :
    (merge name inner (beside.erase "$ref")).get? key =
      if name.isTruthy = true ∧ key = "title" then some ((inner.get? "title").getD name)
        else inner.get? key := by
  have hnone : (if key = "$ref" then none else beside.get? key) = none := by
    split
    · rfl
    · exact hkey.resolve_left ‹_›
  rw [get?_merge _ _ (hbeside.erase _), Members.get?_erase, hnone]
  rfl

/-- What the target has under such a name is found there. -/
theorem get?_merge_inner (hkey : key = "$ref" ∨ beside.get? key = none) {value : Json}
    (hvalue : inner.get? key = some value) :
    (merge name inner (beside.erase "$ref")).get? key = some value := by
  rw [get?_merge_elsewhere name hbeside hkey]
  split
  · next htitle =>
    obtain ⟨-, rfl⟩ := htitle
    rw [hvalue]
    rfl
  · exact hvalue

end Merging

/-- Without a member beside the reference there is none beside the inlined one. -/
theorem not_beside_of_names {members values : Members}
    (hnames : values.map Prod.fst = members.map Prod.fst) {name : String}
    (hno : ¬ HasBeside members name) : name = "$ref" ∨ values.get? name = none := by
  by_cases hname : name = "$ref"
  · exact .inl hname
  · refine .inr ((Members.get?_eq_none_of_names hnames name).2 ?_)
    exact Decidable.not_not.1 fun hne => hno ⟨hname, hne⟩

/-- A title that a reference is named by is a member of what it names; any other name is made of the
reference. -/
theorem nameOf_cases (target : Target) (found : Json) :
    nameOf target found = .str target.fallbackName ∨
      ∃ members, found = .obj members ∧ Members.get? members "title" ≠ none := by
  unfold nameOf
  split
  · next title htitle =>
    cases found with
    | obj members =>
      refine .inr ⟨members, rfl, ?_⟩
      change List.lookup "title" members ≠ none
      rw [show List.lookup "title" members = some title from htitle]
      exact nofun
    | _ => cases htitle
  · exact .inl rfl

/-- An object with a title leads to one, whether it stands for a reference or not. -/
theorem step_title {site last : Site} {members : Members} (hnode : site.node = .obj members)
    (htitle : members.get? "title" ≠ none) (hleads : library.Leads site last)
    (hlast : last.node.isObj = true) : ∃ next, Step library site (.name "title") next := by
  obtain ⟨title, htitle⟩ := Option.ne_none_iff_exists'.1 htitle
  cases href : members.ref? with
  | none => exact ⟨_, .member hnode href htitle⟩
  -- a title beside the reference counts only where the chain ends in an object
  | some ref =>
    refine ⟨_, .beside hnode href (by decide) htitle fun last' hleads' => ?_⟩
    rw [hleads'.unique hleads]
    exact hlast

/-- What is no object is the same at both ends of a hop. -/
theorem Mirrors.hop {site : Site} {target : Target} {found value : Json}
    (hop : library.Hop site target found) (h : Mirrors library (target.site found) value)
    (hvalue : ∀ members, value ≠ .obj members) : Mirrors library site value := by
  cases h with
  -- only an object can stand for a reference
  | cut href =>
    cases value with
    | obj members => exact absurd rfl (hvalue members)
    | _ => exact absurd rfl href
  | leaf hleads hnode harr hobj => exact .leaf (.hop hop hleads) hnode harr hobj
  | array hleads hnode hlength hitems => exact .array (.hop hop hleads) hnode hlength hitems
  | object => exact absurd rfl (hvalue _)

/-- The member is what a step leads to, or an added title. -/
def Explained (library : Library) (site : Site) (name : String) (value : Json) : Prop :=
  (∃ next, Step library site (.name name) next) ∨ (name = "title" ∧ AddedTitle library site value)

section Merged

variable {site last : Site} {members inner : Members} {ref : String} {target : Target}
  {found : Json} (hnode : site.node = .obj members)
  (hrefers : library.Refers site.document members ref target found)

include hnode hrefers

/-- What explains a member of the target explains it in the merged object. -/
theorem Explained.of_target {name : String} {value : Json} (hno : ¬ HasBeside members name)
    (h : Explained library (target.site found) name value) : Explained library site name value := by
  rcases h with ⟨next, hstep⟩ | ⟨rfl, hadded⟩
  · exact .inl ⟨next, hstep.of_target hnode hrefers hno⟩
  · obtain ⟨text, htext, hname⟩ := hadded.named
    exact .inr ⟨rfl, Step.none_of_target hadded.untitled hnode hrefers hno, text, htext,
      .later ⟨members, ref, hnode, hrefers⟩ hname⟩

/-- The name of an untitled target is an added title: if it were a title of the target, there would
be a step to it. -/
theorem explained_nameOf (hno : ¬ HasBeside members "title")
    (hleads : library.Leads (target.site found) last) (hlast : last.node.isObj = true)
    (hnone : ∀ next, ¬ Step library (target.site found) (.name "title") next) :
    Explained library site "title" (nameOf target found) := by
  rcases nameOf_cases target found with hname | ⟨others, rfl, htitle⟩
  · exact .inr ⟨rfl, Step.none_of_target hnone hnode hrefers hno, _, hname,
      .here ⟨members, ref, hnode, hrefers⟩⟩
  · obtain ⟨next, hstep⟩ := step_title rfl htitle hleads hlast
    exact absurd hstep (hnone next)

end Merged

/-- **A merged object mirrors the reference.** Members beside the reference are where steps look
first; the others are found as in the target, whose mirror says what they are. -/
theorem mirrors_merge {site : Site} {members inner beside : Members} {ref : String}
    {target : Target} {found : Json} (hnode : site.node = .obj members)
    (hmembers : members.Distinct)
    (hrefers : library.Refers site.document members ref target found)
    (hinner : Mirrors library (target.site found) (.obj inner))
    (hnames : beside.map Prod.fst = members.map Prod.fst)
    (hbeside : ∀ name json value, members.get? name = some json → beside.get? name = some value →
      Mirrors library (site.member name json) value) :
    Mirrors library site (.obj (merge (nameOf target found) inner (beside.erase "$ref"))) := by
  have hop : library.Hop site target found := ⟨members, ref, hnode, hrefers⟩
  have hdistinct := Members.Distinct.of_names hnames hmembers
  cases hinner with
  -- the inlined target stands for a reference, and so does the merged object
  | cut href =>
    refine .cut ?_
    change Members.ref? _ ≠ none
    rw [ref?_merge _ hdistinct]
    exact href
  | leaf _ _ _ hobj => exact absurd rfl (hobj _)
  | @object _ last _ hleads hlast hinnerMembers hinnerSteps hinnerParts =>
    have helsewhere {name : String} (hno : ¬ HasBeside members name) :
        (merge (nameOf target found) inner (beside.erase "$ref")).get? name =
          if (nameOf target found).isTruthy = true ∧ name = "title" then
            some ((inner.get? "title").getD (nameOf target found)) else inner.get? name :=
      get?_merge_elsewhere _ hdistinct (not_beside_of_names hnames hno)
    refine .object (.hop hop hleads) hlast ?_ ?_ ?_
    -- members of the merged object
    · intro name value hvalue
      by_cases hb : HasBeside members name
      · obtain ⟨json, hjson⟩ := Option.ne_none_iff_exists'.1 hb.2
        refine .inl ⟨_, .beside hnode hrefers.isRef hb.1 hjson fun last' hleads' => ?_⟩
        rw [hleads'.unique (.hop hop hleads)]
        exact hlast
      · have hold (hin : inner.get? name = some value) : Explained library site name value :=
          Explained.of_target hnode hrefers hb (hinnerMembers name value hin)
        rw [helsewhere hb] at hvalue
        split at hvalue
        · next htitle =>
          obtain ⟨-, rfl⟩ := htitle
          -- the merged object has the title of the target, or its name if there is none
          cases hin : inner.get? "title" with
          | some old =>
            rw [hin] at hvalue
            exact hold (hin.trans hvalue)
          | none =>
            rw [hin] at hvalue
            obtain rfl := Option.some.inj hvalue
            exact explained_nameOf hnode hrefers hb hleads hlast
              fun next hstep => hinnerSteps "title" next hstep hin
        · exact hold hvalue
    -- steps of the reference
    · intro name next hstep
      rcases hstep.cases_refers hnode hrefers with ⟨json, hname, hjson, -⟩ | ⟨hno, hstep⟩
      · obtain ⟨value, hvalue⟩ := Members.exists_get?_of_names hnames hjson
        rw [get?_merge_beside _ hdistinct _ hname hvalue]
        exact nofun
      · obtain ⟨value, hvalue⟩ := Option.ne_none_iff_exists'.1 (hinnerSteps name next hstep)
        rw [get?_merge_inner _ hdistinct (not_beside_of_names hnames hno) hvalue]
        exact nofun
    -- what both have under one name
    · intro name value next hvalue hstep
      rcases hstep.cases_refers hnode hrefers with ⟨json, hname, hjson, rfl⟩ | ⟨hno, hstep⟩
      · obtain ⟨other, hother⟩ := Members.exists_get?_of_names hnames hjson
        rw [get?_merge_beside _ hdistinct _ hname hother] at hvalue
        obtain rfl := Option.some.inj hvalue
        exact hbeside name json other hjson hother
      · obtain ⟨old, hold⟩ := Option.ne_none_iff_exists'.1 (hinnerSteps name next hstep)
        rw [get?_merge_inner _ hdistinct (not_beside_of_names hnames hno) hold] at hvalue
        obtain rfl := Option.some.inj hvalue
        exact hinnerParts name old next hold hstep

/-! ### Every derivation gives a mirror -/

/-- Whether objects hold each name once in a part of an inlining. -/
def Call.Distinct : Call → Prop
  | .node _ _ _ json => json.Distinct
  | .items _ _ _ _ list => ∀ json ∈ list, json.Distinct
  | .members _ _ _ list => (Json.obj list).Distinct

/-- An object without a reference mirrors itself, once its members do. -/
theorem mirrors_object {site : Site} {members values : Members} (hnode : site.node = .obj members)
    (href : members.ref? = none) (hnames : values.map Prod.fst = members.map Prod.fst)
    (hvalues : ∀ name json value, members.get? name = some json → values.get? name = some value →
      Mirrors library (site.member name json) value) : Mirrors library site (.obj values) := by
  have hleads : library.Leads site site := .here (by rw [hnode]; exact href)
  have hown := Members.get?_eq_none_of_names hnames
  have hstep {name : String} {next : Site} (h : Step library site (.name name) next) :
      ∃ json, members.get? name = some json ∧ next = site.member name json := by
    cases h with
    | member hnode' _ hmember =>
      obtain rfl := Json.obj.inj (hnode.symm.trans hnode')
      exact ⟨_, hmember, rfl⟩
    | beside hnode' href' =>
      obtain rfl := Json.obj.inj (hnode.symm.trans hnode')
      exact absurd (href.symm.trans href') nofun
    | through hnode' hrefers' =>
      obtain rfl := Json.obj.inj (hnode.symm.trans hnode')
      exact absurd (href.symm.trans hrefers'.isRef) nofun
  refine .object hleads (by rw [hnode]; rfl) ?_ ?_ ?_
  · intro name value hvalue
    have hne : members.get? name ≠ none := fun hnone => by
      rw [(hown name).2 hnone] at hvalue
      cases hvalue
    obtain ⟨json, hjson⟩ := Option.ne_none_iff_exists'.1 hne
    exact .inl ⟨_, .member hnode href hjson⟩
  · intro name next h hnone
    obtain ⟨json, hjson, -⟩ := hstep h
    exact absurd ((hown name).1 hnone) (by rw [hjson]; exact nofun)
  · intro name value next hvalue h
    obtain ⟨json, hjson, rfl⟩ := hstep h
    exact hvalues name json value hjson hvalue

/-- **What a visit becomes mirrors its site.** -/
theorem Becomes.mirrors (hroot : library.root.Distinct) {visit : Visit} {value : Json}
    (h : Becomes library visit value) :
    visit.site.node.Distinct → Mirrors library visit.site value := by
  induction h with
  | @leaf stack site harr hobj =>
    intro _
    have href : site.node.ref? = none := by
      cases hnode : site.node with
      | obj members => exact absurd hnode (hobj members)
      | _ => rfl
    exact .leaf (.here href) rfl harr hobj
  | array hnode hlength hitems ih =>
    intro hdistinct
    refine .array (.here (by rw [hnode]; rfl)) hnode hlength fun index item value hitem hvalue => ?_
    exact ih index item value hitem hvalue ((hnode ▸ hdistinct).item (List.mem_of_getElem? hitem))
  | object hnode href hnames hmembers ih =>
    intro hdistinct
    refine mirrors_object hnode href hnames fun name json value hjson hvalue => ?_
    exact ih name json value hjson hvalue ((hnode ▸ hdistinct).member (Members.mem_of_get? hjson))
  -- a back edge has a text under `$ref`
  | backEdge => exact fun _ => .cut nofun
  | targetValue hnode hrefers hnew inner hvalue ih =>
    exact fun _ => Mirrors.hop ⟨_, _, hnode, hrefers⟩
      (ih (distinct_lookup hroot hrefers.isFound)) hvalue
  | merged hnode hrefers hnew hinner hnames hbeside ihInner ihBeside =>
    intro hdistinct
    rw [hnode] at hdistinct
    refine mirrors_merge hnode hdistinct.names hrefers
      (ihInner (distinct_lookup hroot hrefers.isFound)) hnames fun name json value hjson hvalue => ?_
    exact ihBeside name json value hjson hvalue (hdistinct.member (Members.mem_of_get? hjson))

/-- **Every result mirrors what it was made of.** -/
theorem Resolves.mirrored (hroot : library.root.Distinct) {call : Call}
    {result : Except (Stop ReferenceError) Json} (h : Resolves library call result) :
    ∀ value, result = .ok value → call.Distinct → call.Mirrored library value := by
  intro value hresult hdistinct
  have hbecomes := h.becomes value hresult
  cases call with
  | node => exact Becomes.mirrors hroot hbecomes hdistinct
  | items =>
    obtain ⟨values, rfl, hlength, hitems⟩ := hbecomes
    refine ⟨values, rfl, hlength, fun index json part hjson hpart => ?_⟩
    exact (hitems index json part hjson hpart).mirrors hroot
      (hdistinct json (List.mem_of_getElem? hjson))
  | members =>
    obtain ⟨values, rfl, hnames, hmembers⟩ := hbecomes
    refine ⟨values, rfl, hnames, fun name json part hjson hpart => ?_⟩
    exact (hmembers name json part hjson hpart).mirrors hroot
      (Json.Distinct.member hdistinct (Members.mem_of_get? hjson))

/-- **The end of a walk and the value at its path.** Both are the same scalar, or both are arrays of
one length, or both are objects, with the same member names up to an added title. -/
inductive Alike (library : Library) : Site → Json → Prop where
  | leaf {site last : Site} {value : Json} (hleads : library.Leads site last)
      (hnode : last.node = value) (harr : ∀ items, value ≠ .arr items)
      (hobj : ∀ members, value ≠ .obj members) : Alike library site value
  | array {site last : Site} {items values : List Json} (hleads : library.Leads site last)
      (hnode : last.node = .arr items) (hlength : values.length = items.length) :
      Alike library site (.arr values)
  | object {site last : Site} {members : Members} (hleads : library.Leads site last)
      (hnode : last.node.isObj = true)
      (hmembers : ∀ name value, members.get? name = some value →
        (∃ next, Step library site (.name name) next) ∨
        (name = "title" ∧ AddedTitle library site value))
      (hsteps : ∀ name next, Step library site (.name name) next → members.get? name ≠ none) :
      Alike library site (.obj members)

theorem Mirrors.alike {site : Site} {value : Json} (h : Mirrors library site value)
    (href : value.ref? = none) : Alike library site value := by
  cases h with
  | cut hcut => exact absurd href hcut
  | leaf hleads hnode harr hobj => exact .leaf hleads hnode harr hobj
  | array hleads hnode hlength => exact .array hleads hnode hlength
  | object hleads hnode hmembers hsteps => exact .object hleads hnode hmembers hsteps

end Library

end SchemaPress
