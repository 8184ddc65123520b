import SchemaPress.Json.Basic

/-!
# Laws of object members

What `put`, `putIfAbsent` and `erase` do, said by what is found and what is a member afterwards.
-/

namespace SchemaPress

section Assign

variable {κ ν : Type} [BEq κ] [LawfulBEq κ]

theorem names_assign (members : List (κ × ν)) (name : κ) (value : ν) :
    (assign members name value).map Prod.fst =
      if name ∈ members.map Prod.fst then members.map Prod.fst
      else members.map Prod.fst ++ [name] := by
  induction members with
  | nil => rfl
  | cons first rest ih =>
    obtain ⟨key, old⟩ := first
    by_cases hkey : key = name
    · subst hkey
      simp [assign]
    · have hne : ¬ name = key := fun heq => hkey heq.symm
      simp only [assign, beq_iff_eq, hkey, if_false, List.map_cons, ih, List.mem_cons, hne, false_or]
      split <;> rfl

theorem nodup_assign {members : List (κ × ν)}
    (h : (members.map Prod.fst).Nodup) (name : κ) (value : ν) :
    ((assign members name value).map Prod.fst).Nodup := by
  rw [names_assign]
  split
  · exact h
  · next hno =>
    refine List.nodup_append.2 ⟨h, by simp, fun key hkey other hother => ?_⟩
    obtain rfl := List.mem_singleton.1 hother
    rintro rfl
    exact hno hkey

theorem mem_assign {members : List (κ × ν)} {name : κ} {value : ν}
    {member : κ × ν} (h : member ∈ assign members name value) :
    member ∈ members ∨ member = (name, value) := by
  induction members with
  | nil => exact .inr (List.mem_singleton.1 h)
  | cons first rest ih =>
    obtain ⟨key, old⟩ := first
    unfold assign at h
    split at h
    · next hkey =>
      obtain rfl := eq_of_beq hkey
      rcases List.mem_cons.1 h with rfl | h
      · exact .inr rfl
      · exact .inl (List.mem_cons_of_mem _ h)
    · rcases List.mem_cons.1 h with rfl | h
      · exact .inl List.mem_cons_self
      · exact (ih h).imp_left (List.mem_cons_of_mem _)

theorem assign_append_of_not_mem {members : List (κ × ν)} {name : κ}
    (h : name ∉ members.map Prod.fst) (value : ν) :
    assign members name value = members ++ [(name, value)] := by
  induction members with
  | nil => rfl
  | cons first rest ih =>
    obtain ⟨key, old⟩ := first
    simp only [List.map_cons, List.mem_cons, not_or] at h
    have hne : (key == name) = false := by simpa using fun heq : key = name => h.1 heq.symm
    simp only [assign, hne, ih h.2]
    rfl

theorem assign_assign (members : List (κ × ν)) (name : κ) (value other : ν) :
    assign (assign members name other) name value = assign members name value := by
  induction members with
  | nil => simp [assign]
  | cons first rest ih =>
    obtain ⟨key, old⟩ := first
    by_cases hkey : key = name
    · simp [assign, hkey]
    · simp [assign, hkey, ih]

end Assign

namespace Members

@[simp]
theorem get?_nil (name : String) : get? [] name = none := rfl

theorem get?_cons_self (name : String) (value : Json) (members : Members) :
    get? ((name, value) :: members) name = some value := by
  simp [get?]

theorem get?_cons_of_ne {name key : String} (h : key ≠ name) (value : Json) (members : Members) :
    get? ((name, value) :: members) key = members.get? key := by
  have : (key == name) = false := by simpa using h
  simp [get?, List.lookup_cons, this]

theorem put_cons (key : String) (old : Json) (rest : Members) (name : String) (value : Json) :
    put ((key, old) :: rest) name value =
      if key == name then (key, value) :: rest else (key, old) :: rest.put name value := rfl

theorem get?_put_self (members : Members) (name : String) (value : Json) :
    (members.put name value).get? name = some value := by
  induction members with
  | nil => exact get?_cons_self ..
  | cons first rest ih =>
    obtain ⟨key, old⟩ := first
    rw [put_cons]
    split
    · rename_i h
      obtain rfl : key = name := by simpa using h
      exact get?_cons_self ..
    · rename_i h
      have hne : name ≠ key := fun heq => h (by simp [heq])
      rw [get?_cons_of_ne hne]
      exact ih

theorem get?_put_of_ne {members : Members} {name key : String} {value : Json} (h : key ≠ name) :
    (members.put name value).get? key = members.get? key := by
  induction members with
  | nil => exact get?_cons_of_ne h ..
  | cons first rest ih =>
    obtain ⟨k, old⟩ := first
    rw [put_cons]
    split
    · rename_i hk
      obtain rfl : k = name := by simpa using hk
      rw [get?_cons_of_ne h, get?_cons_of_ne h]
    · by_cases hk : key = k
      · subst hk; rw [get?_cons_self, get?_cons_self]
      · rw [get?_cons_of_ne hk, get?_cons_of_ne hk, ih]

theorem get?_filter {members : Members} {p : String → Bool} {name : String} :
    get? (members.filter fun (key, _) => p key) name =
      if p name then members.get? name else none := by
  induction members with
  | nil => simp
  | cons first rest ih =>
    obtain ⟨key, old⟩ := first
    by_cases hk : name = key
    · subst hk
      by_cases hp : p name
      · simp [hp, get?_cons_self]
      · simpa [hp] using ih
    · rw [get?_cons_of_ne hk, ← ih]
      by_cases hp : p key
      · simp [hp, get?_cons_of_ne hk]
      · simp [hp]

theorem mem_of_get? {members : Members} {name : String} {value : Json}
    (h : members.get? name = some value) : (name, value) ∈ members := by
  induction members with
  | nil => simp at h
  | cons first rest ih =>
    obtain ⟨key, old⟩ := first
    by_cases hk : name = key
    · subst hk
      rw [get?_cons_self] at h
      cases h
      exact List.mem_cons_self
    · rw [get?_cons_of_ne hk] at h
      exact List.mem_cons_of_mem _ (ih h)

theorem mem_put {members : Members} {name key : String} {value v : Json}
    (h : (key, v) ∈ members.put name value) : (key, v) ∈ members ∨ (key = name ∧ v = value) :=
  (mem_assign h).imp_right Prod.mk.inj

theorem mem_putIfAbsent {members : Members} {name key : String} {value v : Json}
    (h : (key, v) ∈ members.putIfAbsent name value) :
    (key, v) ∈ members ∨ (key = name ∧ v = value) := by
  unfold putIfAbsent at h
  split at h
  · exact .inl h
  · rcases List.mem_append.1 h with h | h
    · exact .inl h
    · simp at h; exact .inr h

theorem mem_of_mem_erase {members : Members} {name key : String} {v : Json}
    (h : (key, v) ∈ members.erase name) : (key, v) ∈ members ∧ key ≠ name := by
  simpa [erase] using h

end Members

end SchemaPress
