import SchemaPress.Name

/-!
# Fresh names are free

`Name.fresh` tries the base name and then counters from 2 on, and there is one more name to try than
there are names taken. Since all of them are different (`candidates_nodup`), one is free.

Where names are made one after the other, and each is in use for those behind it (`Issued`), no two of
them are the same, whatever their bases are.
-/

namespace SchemaPress.Name

/-- Counters tell names apart. -/
theorem append_toString_inj {base : String} {i j : Nat}
    (h : base ++ toString i = base ++ toString j) : i = j := by
  have hdigits : toString i = toString j := by
    have hlist := congrArg String.toList h
    rw [String.toList_append, String.toList_append] at hlist
    exact String.toList_inj.1 (List.append_cancel_left hlist)
  -- digits determine the number that they spell
  have hvalue := congrArg (fun text => Nat.ofDigitChars 10 text.toList 0) hdigits
  simpa [Nat.toString_eq_repr, Nat.toList_repr] using hvalue

/-- A counter makes another name of the base. -/
theorem ne_append_toString (base : String) (i : Nat) : base ≠ base ++ toString i := by
  intro h
  have hlength := congrArg String.length h
  have hpos : 0 < (toString i).length := by
    rw [← String.length_toList, Nat.toString_eq_repr, Nat.toList_repr]
    exact Nat.length_toDigits_pos
  rw [String.length_append] at hlength
  omega

/-- The names to try are all different. -/
theorem candidates_nodup (used : Nat) (base : String) : (candidates used base).Nodup := by
  refine List.nodup_cons.2 ⟨fun hmem => ?_, ?_⟩
  · obtain ⟨i, -, heq⟩ := List.mem_map.1 hmem
    exact ne_append_toString base _ heq.symm
  · refine List.pairwise_map.2 (List.Pairwise.imp (fun {i j} hne heq => ?_) List.nodup_range)
    have := append_toString_inj heq
    omega

theorem length_candidates (used : Nat) (base : String) :
    (candidates used base).length = used + 1 := by
  simp [candidates]

/-- A fresh name is the base name, or the base name with a counter behind it. -/
theorem fresh_cases (taken : List String) (base : String) :
    fresh taken base = base ∨ ∃ n : Nat, fresh taken base = base ++ toString n := by
  unfold fresh
  split
  · cases hfind : (candidates taken.length base).find? fun name => !taken.contains name with
    | none => exact .inl rfl
    | some name =>
      rcases List.mem_cons.1 (List.mem_of_find?_eq_some hfind) with rfl | hmem
      · exact .inl rfl
      · obtain ⟨i, -, rfl⟩ := List.mem_map.1 hmem
        exact .inr ⟨i + 2, rfl⟩
  · exact .inl rfl

/-- **A fresh name is not taken.** -/
theorem fresh_not_mem (taken : List String) (base : String) : fresh taken base ∉ taken := by
  unfold fresh
  split
  · cases hfind : (candidates taken.length base).find? fun name => !taken.contains name with
    | some name =>
      have hfree := List.find?_some hfind
      simpa using hfree
    | none =>
      -- all candidates are taken, so there are no more of them than taken names
      have hsub : candidates taken.length base ⊆ taken := by
        intro name hname
        have htaken := List.find?_eq_none.1 hfind name hname
        simpa using htaken
      have hle := (candidates_nodup taken.length base).length_le_of_subset hsub
      rw [length_candidates] at hle
      omega
  · next hfree => simpa using hfree

/-! ### One name after the other -/

/-- **Names that are made one after the other** for bases of one kind: each is apart from the names in use
and from those in front of it. -/
inductive Issued (Asks : String → Prop) : List String → List String → Prop where
  | nil {taken : List String} : Issued Asks taken []
  | cons {taken names : List String} {base : String} (hbase : Asks base)
      (rest : Issued Asks (fresh taken base :: taken) names) :
      Issued Asks taken (fresh taken base :: names)

namespace Issued

variable {Asks : String → Prop} {taken names : List String} (h : Issued Asks taken names)

include h

/-- None of the names is in use before. -/
theorem not_mem : ∀ name ∈ names, name ∉ taken := by
  induction h with
  | nil => exact nofun
  | cons _ _ ih =>
    refine List.forall_mem_cons.2 ⟨fresh_not_mem _ _, fun name hname htaken => ?_⟩
    exact ih name hname (List.mem_cons_of_mem _ htaken)

/-- **No two of the names are the same.** -/
theorem nodup : names.Nodup := by
  induction h with
  | nil => exact List.nodup_nil
  | cons _ rest ih => exact List.nodup_cons.2 ⟨fun hmem => rest.not_mem _ hmem List.mem_cons_self, ih⟩

/-- What holds of every name that is made for such a base holds of all the names. -/
theorem forall_mem {Holds : String → Prop}
    (hfresh : ∀ base, Asks base → ∀ taken, Holds (fresh taken base)) : ∀ name ∈ names, Holds name := by
  induction h with
  | nil => exact nofun
  | cons hbase _ ih => exact List.forall_mem_cons.2 ⟨hfresh _ hbase _, ih⟩

end Issued

end SchemaPress.Name
