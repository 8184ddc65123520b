import SchemaPress.Json.Members

/-!
# Objects hold each name once

The members of an object are a list, and nothing in its type keeps two of them from having one name.
`Json.Distinct` says that no object in a value does. Setting members keeps it so.
-/

namespace SchemaPress

namespace Members

/-- No two members have one name. -/
def Distinct (members : Members) : Prop :=
  (members.map Prod.fst).Nodup

theorem distinct_cons {name : String} {value : Json} {members : Members} :
    Distinct ((name, value) :: members) ↔ name ∉ members.map Prod.fst ∧ members.Distinct :=
  List.nodup_cons

theorem names_put (members : Members) (name : String) (value : Json) :
    (members.put name value).map Prod.fst =
      if name ∈ members.map Prod.fst then members.map Prod.fst
      else members.map Prod.fst ++ [name] :=
  names_assign members name value

theorem Distinct.put {members : Members} (h : members.Distinct) (name : String) (value : Json) :
    (members.put name value).Distinct :=
  nodup_assign h name value

theorem has_eq_isSome (members : Members) (name : String) :
    members.has name = (members.get? name).isSome := by
  induction members with
  | nil => rfl
  | cons first rest ih =>
    obtain ⟨key, old⟩ := first
    by_cases hkey : name = key
    · subst hkey
      rw [get?_cons_self]
      simp [has]
    · have hne : (key == name) = false := by simpa using fun heq : key = name => hkey heq.symm
      rw [get?_cons_of_ne hkey, ← ih]
      simp [has, hne]

theorem get?_eq_none_iff (members : Members) (name : String) :
    members.get? name = none ↔ name ∉ members.map Prod.fst := by
  induction members with
  | nil => simp
  | cons first rest ih =>
    obtain ⟨key, old⟩ := first
    by_cases hkey : name = key
    · subst hkey
      simp [get?_cons_self]
    · rw [get?_cons_of_ne hkey, ih]
      simp [hkey]

/-- A member that may be there already makes no more names than one that is put. -/
theorem names_putIfAbsent (members : Members) (name : String) (value : Json) :
    (members.putIfAbsent name value).map Prod.fst = (members.put name value).map Prod.fst := by
  unfold putIfAbsent
  rw [names_put, has_eq_isSome]
  by_cases hmem : name ∈ members.map Prod.fst
  · have hsome : (members.get? name).isSome = true :=
      Option.isSome_iff_ne_none.2 fun hnone => (get?_eq_none_iff members name).1 hnone hmem
    rw [if_pos hmem, if_pos hsome]
  · have hnone := (get?_eq_none_iff members name).2 hmem
    rw [if_neg hmem, hnone, if_neg (by simp), List.map_append]
    rfl

theorem Distinct.putIfAbsent {members : Members} (h : members.Distinct) (name : String)
    (value : Json) : (members.putIfAbsent name value).Distinct := by
  unfold Distinct
  rw [names_putIfAbsent]
  exact h.put name value

/-- Where each name is there once, every member is found. -/
theorem Distinct.get?_of_mem {members : Members} (h : members.Distinct) {name : String}
    {value : Json} (hmem : (name, value) ∈ members) : members.get? name = some value := by
  induction members with
  | nil => cases hmem
  | cons first rest ih =>
    obtain ⟨key, old⟩ := first
    obtain ⟨hkey, hrest⟩ := distinct_cons.1 h
    rcases List.mem_cons.1 hmem with heq | hmem
    · cases heq
      exact get?_cons_self ..
    · have hne : name ≠ key := fun heq => hkey (heq ▸ List.mem_map_of_mem hmem)
      rw [get?_cons_of_ne hne]
      exact ih hrest hmem

/-- What is found after a member was added that may have been there. -/
theorem get?_putIfAbsent (members : Members) (name key : String) (value : Json) :
    (members.putIfAbsent name value).get? key =
      if key = name then some ((members.get? name).getD value) else members.get? key := by
  unfold putIfAbsent
  rw [has_eq_isSome]
  split
  · next hsome =>
    obtain ⟨old, hold⟩ := Option.isSome_iff_exists.1 hsome
    split
    · next heq => rw [heq, hold]; rfl
    · rfl
  · next hnone =>
    have hnone : members.get? name = none := by simpa using hnone
    rw [hnone]
    unfold Members.get?
    rw [List.lookup_append]
    split
    · next heq =>
      subst heq
      have : List.lookup key members = none := hnone
      simp [this]
    · next hne =>
      have hne : (key == name) = false := by simpa using hne
      simp [List.lookup_cons, hne]

/-- What is found once a member has been added where it is missing: it was there, or it is the added value. -/
theorem get?_of_get?_putIfAbsent {members : Members} {name key : String} {value found : Json}
    (h : (members.putIfAbsent name value).get? key = some found) :
    members.get? key = some found ∨ found = value := by
  rw [get?_putIfAbsent] at h
  split at h
  · next heq =>
    subst heq
    cases hget : members.get? key with
    | none =>
      rw [hget] at h
      exact .inr (Option.some.inj h).symm
    | some own =>
      rw [hget] at h
      exact .inl h
  · exact .inl h

/-- Of members that are put one after the other, each is found afterwards. -/
theorem get?_foldl_put {beside : Members} (h : beside.Distinct) (members : Members) (key : String) :
    (beside.foldl (fun members (key, value) => members.put key value) members).get? key =
      (beside.get? key).or (members.get? key) := by
  induction beside generalizing members with
  | nil => rfl
  | cons first rest ih =>
    obtain ⟨name, value⟩ := first
    obtain ⟨hname, hrest⟩ := distinct_cons.1 h
    rw [List.foldl_cons, ih hrest]
    -- `beside` has each name once, so putting the rest does not overwrite the first one
    by_cases hkey : key = name
    · subst hkey
      rw [(get?_eq_none_iff rest key).2 hname, get?_cons_self, get?_put_self]
      rfl
    · rw [get?_cons_of_ne hkey, get?_put_of_ne hkey]

theorem get?_erase (members : Members) (name key : String) :
    (members.erase name).get? key = if key = name then none else members.get? key := by
  have hfilter : (members.erase name).get? key = if key != name then members.get? key else none :=
    get?_filter (p := fun other => other != name)
  rw [hfilter]
  by_cases hkey : key = name <;> simp [hkey]

theorem names_erase (members : Members) (name : String) :
    (members.erase name).map Prod.fst = (members.map Prod.fst).filter (· != name) := by
  unfold erase
  rw [List.filter_map]
  rfl

theorem Distinct.erase {members : Members} (h : members.Distinct) (name : String) :
    (members.erase name).Distinct :=
  List.Nodup.sublist (List.filter_sublist.map Prod.fst) h

/-! ### Members of the same names -/

section SameNames

variable {members values : Members} (hnames : values.map Prod.fst = members.map Prod.fst)

include hnames

theorem get?_eq_none_of_names (name : String) :
    values.get? name = none ↔ members.get? name = none := by
  rw [get?_eq_none_iff, get?_eq_none_iff, hnames]

theorem exists_get?_of_names {name : String} {value : Json} (h : members.get? name = some value) :
    ∃ other, values.get? name = some other := by
  refine Option.ne_none_iff_exists'.1 fun hnone => ?_
  rw [get?_eq_none_of_names hnames, h] at hnone
  cases hnone

theorem Distinct.of_names (h : members.Distinct) : values.Distinct := by
  unfold Members.Distinct
  rw [hnames]
  exact h

/-- Members of the same names are equal if the same is found under each. -/
theorem eq_of_get? (hdistinct : members.Distinct)
    (h : ∀ name value other, members.get? name = some value → values.get? name = some other →
      value = other) : members = values := by
  induction members generalizing values with
  | nil => exact (List.map_eq_nil_iff.1 hnames).symm
  | cons first rest ih =>
    obtain ⟨key, value⟩ := first
    obtain ⟨⟨key', value'⟩, rest', rfl, rfl, hrest⟩ := List.map_eq_cons_iff.1 hnames
    obtain ⟨hkey, hothers⟩ := distinct_cons.1 hdistinct
    obtain rfl := h _ value value' (get?_cons_self ..) (get?_cons_self ..)
    -- what is found in the rest has another name
    rw [ih hrest hothers fun name part other hpart hother => ?_]
    have hne : name ≠ key' := by
      rintro rfl
      exact hkey (List.mem_map.2 ⟨_, mem_of_get? hpart, rfl⟩)
    exact h name part other ((get?_cons_of_ne hne _ _).trans hpart)
      ((get?_cons_of_ne hne _ _).trans hother)

end SameNames

end Members

namespace Json

/-- **No object in a value has two members of one name.** -/
inductive Distinct : Json → Prop where
  | leaf {value : Json} (harr : ∀ items, value ≠ .arr items)
      (hobj : ∀ members, value ≠ .obj members) :
      Distinct value
  | arr {items : List Json} (h : ∀ item ∈ items, Distinct item) : Distinct (.arr items)
  | obj {members : Members} (hnames : members.Distinct)
      (h : ∀ member ∈ members, Distinct member.2) : Distinct (.obj members)

theorem Distinct.item {items : List Json} (h : Distinct (.arr items)) {item : Json}
    (hitem : item ∈ items) : item.Distinct := by
  cases h with
  | leaf harr => exact absurd rfl (harr items)
  | arr h => exact h item hitem

theorem Distinct.names {members : Members} (h : Distinct (.obj members)) : members.Distinct := by
  cases h with
  | leaf _ hobj => exact absurd rfl (hobj members)
  | obj hnames => exact hnames

theorem Distinct.member {members : Members} (h : Distinct (.obj members)) {name : String}
    {value : Json} (hvalue : (name, value) ∈ members) : value.Distinct := by
  cases h with
  | leaf _ hobj => exact absurd rfl (hobj members)
  | obj _ h => exact h _ hvalue

theorem distinct_str (text : String) : (Json.str text).Distinct :=
  .leaf nofun nofun

theorem distinct_nil : (Json.obj []).Distinct :=
  .obj List.nodup_nil fun _ hmember => absurd hmember List.not_mem_nil

/-- A member is put before others that have other names. -/
theorem Distinct.cons {name : String} {value : Json} {members : Members}
    (hname : name ∉ members.map Prod.fst) (h : value.Distinct) (hothers : Distinct (.obj members)) :
    Distinct (.obj ((name, value) :: members)) := by
  refine .obj (Members.distinct_cons.2 ⟨hname, hothers.names⟩) fun member hmember => ?_
  rcases List.mem_cons.1 hmember with rfl | hmember
  · exact h
  · exact hothers.member hmember

theorem distinct_singleton (name : String) {value : Json} (h : value.Distinct) :
    (Json.obj [(name, value)]).Distinct :=
  .cons List.not_mem_nil h distinct_nil

/-! ### Setting members -/

theorem distinct_put {members : Members} (h : Distinct (.obj members)) (name : String)
    {value : Json}
    (hvalue : value.Distinct) : Distinct (.obj (members.put name value)) := by
  refine .obj (h.names.put name value) fun ⟨key, v⟩ hmem => ?_
  rcases Members.mem_put hmem with hmem | ⟨-, rfl⟩
  · exact h.member hmem
  · exact hvalue

theorem Distinct.putIfAbsent {members : Members} (h : Distinct (.obj members)) (name : String)
    {value : Json} (hvalue : value.Distinct) :
    Distinct (.obj (members.putIfAbsent name value)) := by
  refine .obj (h.names.putIfAbsent name value) fun ⟨key, v⟩ hmem => ?_
  rcases Members.mem_putIfAbsent hmem with hmem | ⟨-, rfl⟩
  · exact h.member hmem
  · exact hvalue

end Json

end SchemaPress
