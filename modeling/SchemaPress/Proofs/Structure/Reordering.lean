import SchemaPress.Proofs.Json.Regular
import SchemaPress.Proofs.Structure.Text

/-!
# Structure texts tell values apart up to the order of members

Two JSON values are the same up to the order of members if one turns into the other by rearranging the
members of objects, at any depth (`Json.Reordered`). For regular values that is what it means to have
one sorted text (`Json.render_sorted_eq_iff`): sorting makes up for the order
(`Outline.ofJson_eq_of_reordered`), and nothing else is lost, since words and numbers stand for one
value each (`Outline.reordered_of_ofJson_eq`).
-/

namespace SchemaPress

/-- **The same value up to the order of members**: the least equivalence in which members of an object
may be rearranged and which parts of arrays and objects pass on to the whole. -/
inductive Json.Reordered : Json → Json → Prop where
  | refl (value : Json) : Reordered value value
  | trans {first second third : Json} (h : Reordered first second) (h' : Reordered second third) :
      Reordered first third
  | item (before after : List Json) {value other : Json} (h : Reordered value other) :
      Reordered (.arr (before ++ value :: after)) (.arr (before ++ other :: after))
  | member (before after : Members) (name : String) {value other : Json}
      (h : Reordered value other) :
      Reordered (.obj (before ++ (name, value) :: after)) (.obj (before ++ (name, other) :: after))
  | members {members others : Members} (h : members.Perm others) :
      Reordered (.obj members) (.obj others)

namespace Outline

open Json

theorem ofItems_eq_map (items : List Json) : ofItems items = items.map ofJson := by
  induction items with
  | nil => rfl
  | cons item rest ih => rw [ofItems, ih, List.map_cons]

/-! ### Rearranging keeps the outline -/

/-- Rows of different names are sorted in one way. -/
theorem arrange_eq_of_perm {rows others : List (String × Outline)} (h : rows.Perm others)
    (hnames : (rows.map Prod.fst).Nodup) : arrange rows = arrange others := by
  have sorted (rows : List (String × Outline)) : (arrange rows).Pairwise fun a b => a.1 ≤ b.1 := by
    have hsorted : (arrange rows).Pairwise fun a b => decide (a.1 ≤ b.1) = true :=
      List.pairwise_mergeSort
        (fun a b c hab hbc => by
          rw [decide_eq_true_eq] at hab hbc ⊢
          exact String.le_trans hab hbc)
        (fun a b => by simpa using String.le_total a.1 b.1) rows
    exact hsorted.imp fun hle => of_decide_eq_true hle
  refine List.Perm.eq_of_pairwise ?_ (sorted rows) (sorted others)
    ((List.mergeSort_perm rows _).trans (h.trans (List.mergeSort_perm others _).symm))
  intro a b ha hb hab hba
  -- two rows of one name are one row
  have ha := mem_arrange.1 ha
  have hb := h.mem_iff.2 (mem_arrange.1 hb)
  exact List.inj_on_of_nodup_map hnames ha hb (String.le_antisymm hab hba)

/-- **Rearranging a regular value gives a regular value of the same outline.** -/
theorem ofJson_eq_of_reordered {value other : Json} (h : Reordered value other) :
    value.Regular → other.Regular ∧ ofJson value = ofJson other := by
  induction h with
  | refl value => exact fun hvalue => ⟨hvalue, rfl⟩
  | trans h h' ih ih' =>
    intro hvalue
    obtain ⟨hsecond, heq⟩ := ih hvalue
    obtain ⟨hthird, heq'⟩ := ih' hsecond
    exact ⟨hthird, heq.trans heq'⟩
  | @item before after value other h ih =>
    intro harr
    obtain ⟨hother, heq⟩ := ih (harr.item (List.mem_append_right _ List.mem_cons_self))
    refine ⟨.arr fun item hitem => ?_, ?_⟩
    · rcases List.mem_append.1 hitem with hitem | hitem
      · exact harr.item (List.mem_append_left _ hitem)
      · rcases List.mem_cons.1 hitem with rfl | hitem
        · exact hother
        · exact harr.item (List.mem_append_right _ (List.mem_cons_of_mem _ hitem))
    · rw [ofJson, ofJson, ofItems_eq_map, ofItems_eq_map, List.map_append, List.map_append,
        List.map_cons, List.map_cons, heq]
  | @member before after name value other h ih =>
    intro hobj
    have hmem : (name, value) ∈ before ++ (name, value) :: after :=
      List.mem_append_right _ List.mem_cons_self
    obtain ⟨hother, heq⟩ := ih (hobj.member hmem)
    refine ⟨.obj ?_ fun member hmember => ?_, ?_⟩
    · have hnames := hobj.names
      unfold Members.Distinct at hnames ⊢
      rwa [List.map_append, List.map_cons] at hnames ⊢
    · rcases List.mem_append.1 hmember with hmember | hmember
      · exact hobj.member (List.mem_append_left _ hmember)
      · rcases List.mem_cons.1 hmember with rfl | hmember
        · exact hother
        · exact hobj.member (List.mem_append_right _ (List.mem_cons_of_mem _ hmember))
    · rw [ofJson, ofJson, ofMembers_eq_map, ofMembers_eq_map, List.map_append, List.map_append,
        List.map_cons, List.map_cons, heq]
  | @members members others h =>
    intro hobj
    refine ⟨.obj ((h.map Prod.fst).nodup_iff.1 hobj.names) fun member hmember =>
      hobj.member (h.mem_iff.2 hmember), ?_⟩
    rw [ofJson, ofJson, arrange_eq_of_perm]
    · rw [ofMembers_eq_map, ofMembers_eq_map]
      exact h.map _
    · rw [ofMembers_eq_map, List.map_map]
      exact hobj.names

/-! ### The outline is kept by rearranging only -/

/-- What is written as a word has that word for its outline. -/
theorem ofJson_of_plain {value : Json} (h : Plain value) :
    ofJson value = .word (value.write .sorted 0) := by
  cases h with
  | null => rfl
  | bool b => cases b <;> rfl
  | int n => rw [ofJson, Json.write]
  | double h => rw [ofJson, Json.write]

/-- Items of the same outlines, behind others. -/
theorem reordered_items {items others : List Json} (h : items.map ofJson = others.map ofJson)
    (hitems : ∀ item ∈ items, ∀ other ∈ others, ofJson item = ofJson other →
      Reordered item other) (before : List Json) :
    Reordered (.arr (before ++ items)) (.arr (before ++ others)) := by
  induction items generalizing others before with
  | nil =>
    rw [List.map_eq_nil_iff.1 h.symm]
    exact .refl _
  | cons item rest ih =>
    obtain ⟨other, otherRest, rfl, hfirst, hrest⟩ := List.map_eq_cons_iff.1 h.symm
    have first := hitems item List.mem_cons_self other List.mem_cons_self hfirst.symm
    have others := ih hrest.symm (fun item hitem other hother =>
      hitems item (List.mem_cons_of_mem _ hitem) other (List.mem_cons_of_mem _ hother))
      (before ++ [other])
    rw [List.append_assoc, List.append_assoc] at others
    exact (Reordered.item before rest first).trans others

/-- Members of the same names and outlines, behind others. -/
theorem reordered_members {members others : Members} (h : ofMembers members = ofMembers others)
    (hmembers : ∀ member ∈ members, ∀ other ∈ others, ofJson member.2 = ofJson other.2 →
      Reordered member.2 other.2) (before : Members) :
    Reordered (.obj (before ++ members)) (.obj (before ++ others)) := by
  rw [ofMembers_eq_map, ofMembers_eq_map] at h
  induction members generalizing others before with
  | nil =>
    rw [List.map_eq_nil_iff.1 h.symm]
    exact .refl _
  | cons member rest ih =>
    obtain ⟨⟨name, other⟩, otherRest, rfl, hfirst, hrest⟩ := List.map_eq_cons_iff.1 h.symm
    obtain ⟨key, value⟩ := member
    obtain ⟨rfl, hvalue⟩ := Prod.mk.inj hfirst
    have first := hmembers _ List.mem_cons_self _ List.mem_cons_self hvalue.symm
    have others := ih hrest.symm (fun member hmember other hother =>
      hmembers member (List.mem_cons_of_mem _ hmember) other (List.mem_cons_of_mem _ hother))
      (before ++ [(name, other)])
    rw [List.append_assoc, List.append_assoc] at others
    exact (Reordered.member before rest name first).trans others

/-- A rearranged image is the image of a rearranged list. -/
theorem exists_perm_of_map_perm {α β : Type} {f : α → β} {xs ys : List α}
    (h : (xs.map f).Perm (ys.map f)) : ∃ zs : List α, zs.Perm ys ∧ zs.map f = xs.map f := by
  induction xs generalizing ys with
  | nil =>
    have hnil := List.map_eq_nil_iff.1 h.nil_eq.symm
    exact ⟨[], hnil ▸ .refl _, rfl⟩
  | cons x xs ih =>
    obtain ⟨y, hy, heq⟩ := List.mem_map.1 (h.mem_iff.1 List.mem_cons_self)
    obtain ⟨before, after, rfl⟩ := List.append_of_mem hy
    -- without `y`, what is left is a rearranged image again
    have hrest : (xs.map f).Perm ((before ++ after).map f) := by
      have hmiddle : ((before ++ y :: after).map f).Perm (f x :: (before ++ after).map f) := by
        rw [← heq, ← List.map_cons]
        exact List.perm_middle.map f
      exact (h.trans hmiddle).cons_inv
    obtain ⟨zs, hzs, hmap⟩ := ih hrest
    refine ⟨y :: zs, (hzs.cons y).trans List.perm_middle.symm, ?_⟩
    rw [List.map_cons, List.map_cons, heq, hmap]

/-- **Values of one outline are the same up to the order of members.** By induction on one of them;
the other one is of the same kind, because the outline is. -/
theorem reordered_of_ofJson_eq {value other : Json} (hvalue : value.Regular)
    (hother : other.Regular) (h : ofJson value = ofJson other) : Reordered value other := by
  induction hvalue generalizing other with
  | plain hplain =>
    rw [ofJson_of_plain hplain] at h
    cases hother with
    | plain hother =>
      rw [ofJson_of_plain hother] at h
      rw [eq_of_write_plain hplain hother (Outline.word.inj h)]
      exact .refl _
    | _ => cases h
  | str text =>
    cases hother with
    | plain hother =>
      rw [ofJson_of_plain hother] at h
      cases h
    | str other =>
      obtain rfl := Outline.text.inj h
      exact .refl _
    | _ => cases h
  | @arr items hitems ih =>
    cases hother with
    | plain hother =>
      rw [ofJson_of_plain hother] at h
      cases h
    | @arr others hothers =>
      have h := Outline.list.inj h
      rw [ofItems_eq_map, ofItems_eq_map] at h
      exact reordered_items h (fun item hitem other hother heq =>
        ih item hitem (hothers other hother) heq) []
    | _ => cases h
  | @obj members hnames hmembers ih =>
    cases hother with
    | plain hother =>
      rw [ofJson_of_plain hother] at h
      cases h
    | @obj others hnames' hothers =>
      -- sorted rows are the same, so the members of one value can be put in the order of the other
      have hperm : (ofMembers members).Perm (ofMembers others) := by
        have hleft := List.mergeSort_perm (ofMembers members) fun a b => decide (a.1 ≤ b.1)
        have hright := List.mergeSort_perm (ofMembers others) fun a b => decide (a.1 ≤ b.1)
        have hsorted : arrange (ofMembers members) = arrange (ofMembers others) :=
          Outline.table.inj h
        exact hleft.symm.trans ((List.Perm.of_eq hsorted).trans hright)
      rw [ofMembers_eq_map, ofMembers_eq_map] at hperm
      obtain ⟨rearranged, hrearranged, hmap⟩ := exists_perm_of_map_perm hperm
      rw [← ofMembers_eq_map, ← ofMembers_eq_map] at hmap
      refine (reordered_members hmap.symm (fun member hmember other hother heq =>
        ih member hmember (hothers other (hrearranged.mem_iff.1 hother)) heq) []).trans ?_
      exact .members hrearranged
    | _ => cases h

end Outline

/-- **Sorted texts tell regular values apart up to the order of members.** -/
theorem Json.render_sorted_eq_iff {value other : Json} (hvalue : value.Regular)
    (hother : other.Regular) :
    value.render .sorted = other.render .sorted ↔ value.Reordered other := by
  rw [Json.render, Json.render, Outline.write_sorted, Outline.write_sorted, String.ofList_inj]
  constructor
  · intro h
    exact Outline.reordered_of_ofJson_eq hvalue hother
      (Outline.write_inj (Outline.legible_ofJson value) (Outline.legible_ofJson other) h)
  · intro h
    rw [(Outline.ofJson_eq_of_reordered h hvalue).2]

/-- A schema whose properties are among its members has its sorted text for structure text. -/
theorem Schema.structureText_of_none {schema : Schema} (h : schema.table = none) :
    schema.structureText = .ok ((Json.obj schema.members).render .sorted) := by
  unfold structureText
  rw [h]

end SchemaPress
