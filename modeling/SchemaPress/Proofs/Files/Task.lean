import Mathlib.Data.List.Forall2
import SchemaPress.Files.Change

/-!
# Outcomes of chains of operations

What a chain of operations comes to, link by link: the outcome of a chain is that of its first part
and then of its rest, or, where the first part fails, the failure and the tree it left.
-/

namespace SchemaPress

/-! ### All parts of a list -/

theorem mapM_eq_ok_iff {ε α β : Type} {f : α → Except ε β} {items : List α} {results : List β} :
    items.mapM f = .ok results ↔
      List.Forall₂ (fun item result => f item = .ok result) items results := by
  induction items generalizing results with
  | nil =>
    rw [List.forall₂_nil_left_iff]
    exact ⟨fun h => (Except.ok.inj h).symm, fun h => h ▸ rfl⟩
  | cons item rest ih =>
    rw [List.mapM_cons, List.forall₂_cons_left_iff]
    constructor
    · intro h
      cases hitem : f item with
      | error cause => rw [hitem] at h; cases h
      | ok result =>
        rw [hitem] at h
        cases hrest : rest.mapM f with
        | error cause => rw [hrest] at h; cases h
        | ok others =>
          rw [hrest] at h
          exact ⟨result, others, rfl, ih.1 hrest, (Except.ok.inj h).symm⟩
    · rintro ⟨result, others, hitem, hrest, rfl⟩
      rw [hitem, ih.2 hrest]
      rfl

/-- A list fails by the first of its items that does. -/
theorem exists_first_of_mapM_eq_error {ε α β : Type} {f : α → Except ε β} {items : List α} {cause : ε}
    (h : items.mapM f = .error cause) :
    ∃ before item rest, items = before ++ item :: rest ∧
      (∀ earlier ∈ before, ∃ result, f earlier = .ok result) ∧ f item = .error cause := by
  induction items with
  | nil => cases h
  | cons item rest ih =>
    rw [List.mapM_cons] at h
    cases hitem : f item with
    | error other =>
      rw [hitem] at h
      obtain rfl := Except.error.inj h
      exact ⟨[], item, rest, rfl, List.forall_mem_nil _, hitem⟩
    | ok result =>
      rw [hitem] at h
      cases hrest : rest.mapM f with
      | error other =>
        rw [hrest] at h
        obtain rfl := Except.error.inj h
        obtain ⟨before, other, after, rfl, hbefore, hother⟩ := ih hrest
        exact ⟨item :: before, other, after, rfl, List.forall_mem_cons.2 ⟨⟨result, hitem⟩, hbefore⟩, hother⟩
      | ok others => rw [hrest] at h; cases h

/-- A list fails by one of its items. -/
theorem mem_of_mapM_eq_error {ε α β : Type} {f : α → Except ε β} {items : List α} {cause : ε}
    (h : items.mapM f = .error cause) : ∃ item ∈ items, f item = .error cause := by
  obtain ⟨before, item, rest, rfl, -, hitem⟩ := exists_first_of_mapM_eq_error h
  exact ⟨item, List.mem_append_right _ List.mem_cons_self, hitem⟩

/-- Each item has a result that it is paired with. -/
theorem exists_of_mem_left {α β : Type} {R : α → β → Prop} {items : List α} {results : List β}
    (h : List.Forall₂ R items results) {item : α} (hmem : item ∈ items) :
    ∃ result ∈ results, R item result := by
  induction h with
  | nil => cases hmem
  | cons hfirst _ ih =>
    rcases List.mem_cons.1 hmem with rfl | hrest
    · exact ⟨_, List.mem_cons_self, hfirst⟩
    · obtain ⟨result, hresult, hpaired⟩ := ih hrest
      exact ⟨result, List.mem_cons_of_mem _ hresult, hpaired⟩

namespace Task

variable {ε δ α β : Type} {tree after : Tree}

theorem ok_bind {a : α} {f : α → Except ε β} : ((.ok a : Except ε α) >>= f) = f a := rfl

theorem mapError_ok {wrap : δ → ε} {a : α} :
    (Except.ok a : Except δ α).mapError wrap = .ok a := rfl

theorem ok_of_mapError {wrap : δ → ε} {result : Except δ α} {a : α}
    (h : result.mapError wrap = .ok a) : result = .ok a := by
  cases result with
  | error failure => cases h
  | ok b =>
    obtain rfl := Except.ok.inj h
    rfl

theorem outcome_bind {x : Task ε α} {f : α → Task ε β} :
    (x >>= f).outcome tree =
      match x.outcome tree with
      | (.ok a, after) => (f a).outcome after
      | (.error failure, after) => (.error failure, after) := by
  change (StateT.run (ExceptT.run x) tree >>= fun p => StateT.run (ExceptT.bindCont f p.1) p.2) = _
  cases hx : x.outcome tree with
  | mk result after =>
    rw [show StateT.run (ExceptT.run x) tree = (result, after) from hx]
    cases result <;> rfl

/-- A chain is what it comes to on all trees. -/
theorem ext {x y : Task ε α} (h : ∀ tree, x.outcome tree = y.outcome tree) : x = y :=
  funext h

theorem outcome_bind_ok {x : Task ε α} {f : α → Task ε β} {a : α}
    (h : x.outcome tree = (.ok a, after)) : (x >>= f).outcome tree = (f a).outcome after := by
  rw [outcome_bind, h]

theorem outcome_bind_error {x : Task ε α} {f : α → Task ε β} {failure : ε}
    (h : x.outcome tree = (.error failure, after)) :
    (x >>= f).outcome tree = (.error failure, after) := by
  rw [outcome_bind, h]

/-- Operations for a list are done one after the other. -/
theorem outcome_forM_append {first rest : List α} {f : α → Task ε Unit} {middle : Tree}
    (h : (first.forM f).outcome tree = (.ok (), middle)) :
    ((first ++ rest).forM f).outcome tree = (rest.forM f).outcome middle := by
  rw [List.forM_eq_forM] at h ⊢
  rw [List.forM_append, outcome_bind_ok h]

theorem outcome_discard {x : Task ε α} :
    (discard x).outcome tree = ((x.outcome tree).1.map fun _ => (), (x.outcome tree).2) := by
  have hdiscard : discard x = x >>= fun _ => pure () := (bind_pure_comp (fun _ => ()) x).symm
  rw [hdiscard, outcome_bind]
  cases x.outcome tree with
  | mk result after => cases result <;> rfl

theorem ofExcept_bind_ok {wrap : δ → ε} {a : α} {f : α → Task ε β} :
    (ofExcept wrap (.ok a) >>= f) = f a :=
  pure_bind a f

theorem outcome_get : (get : Task ε Tree).outcome tree = (.ok tree, tree) := rfl

/-- A failure that is caught leaves the tree as it is; the handler goes on with that. -/
theorem outcome_tryCatch {x : Task ε α} {handle : ε → Task ε α} :
    (tryCatch x handle).outcome tree =
      match x.outcome tree with
      | (.ok a, after) => (.ok a, after)
      | (.error failure, after) => (handle failure).outcome after := by
  cases hx : x.outcome tree with
  | mk result after =>
    have hrun : StateT.run (ExceptT.run x) tree = (result, after) := hx
    have hcatch : (tryCatch x handle).outcome tree =
        StateT.run (ExceptT.run (ExceptT.tryCatch x handle)) tree := rfl
    rw [hcatch, ExceptT.tryCatch, ExceptT.run_mk, StateT.run_bind]
    change StateT.run (ExceptT.run x) tree >>= _ = _
    rw [hrun]
    cases result <;> rfl

theorem outcome_wrapFailure {wrap : δ → ε} {x : Task δ α} :
    (wrapFailure wrap x).outcome tree =
      ((x.outcome tree).1.mapError wrap, (x.outcome tree).2) := by
  cases hx : x.outcome tree with
  | mk result after =>
    have hrun : StateT.run (ExceptT.run x) tree = (result, after) := hx
    have hwrap : (wrapFailure wrap x).outcome tree =
        StateT.run (ExceptT.run (wrapFailure wrap x)) tree := rfl
    rw [hwrap, wrapFailure, ExceptT.run_mk, StateT.run_bind, hrun]
    cases result <;> rfl

theorem outcome_ofExcept {wrap : δ → ε} {result : Except δ α} :
    (ofExcept wrap result : Task ε α).outcome tree = (result.mapError wrap, tree) := by
  cases result <;> rfl

theorem ofExcept_bind_error {wrap : δ → ε} {failure : δ} {f : α → Task ε β} :
    (ofExcept wrap (.error failure) >>= f).outcome tree = (.error (wrap failure), tree) := by
  rw [outcome_bind, outcome_ofExcept]
  rfl

theorem outcome_look {wrap : δ → ε} {use : Tree → Except δ α} :
    (look wrap use).outcome tree = ((use tree).mapError wrap, tree) :=
  (outcome_bind_ok outcome_get).trans outcome_ofExcept

/-- An operation is done, or the tree is as it was. -/
theorem outcome_change {wrap : δ → ε} {operation : Tree → Except δ Tree} :
    (change wrap operation).outcome tree =
      match operation tree with
      | .ok after => (.ok (), after)
      | .error failure => (.error (wrap failure), tree) := by
  unfold change
  rw [outcome_bind, outcome_look]
  cases operation tree <;> rfl

end Task

end SchemaPress
