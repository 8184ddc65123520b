import SchemaPress.Proofs.Files.Writer

/-!
# Trees without links

Where no link is on the way, a path leads where its spelling says: each step up undoes the step in
front of it (`Path.place`). Walking ends there (`Walks.location_eq`), resolving gives it whatever the
files are (`Tree.resolve_eq`), and a path that leads to a directory is walked on from that directory
(`Tree.walk_child`). So what is found by a name in a directory depends on the one entry of this name
(`Tree.find_child_congr`).
-/

namespace SchemaPress

/-- The location that steps lead to from a place, by their spelling. -/
def stepsFrom (place : Location) (steps : List String) : Location :=
  steps.foldl (fun kept step => if step == ".." then kept.dropLast else kept ++ [step]) place

@[simp] theorem stepsFrom_nil (place : Location) : stepsFrom place [] = place := rfl

theorem stepsFrom_up (place : Location) (rest : List String) :
    stepsFrom place (".." :: rest) = stepsFrom place.dropLast rest := rfl

theorem stepsFrom_cons {step : String} (hup : step ≠ "..") (place : Location) (rest : List String) :
    stepsFrom place (step :: rest) = stepsFrom (place ++ [step]) rest := by
  unfold stepsFrom
  rw [List.foldl_cons, if_neg (by simpa using hup)]

theorem stepsFrom_append (place : Location) (steps more : List String) :
    stepsFrom place (steps ++ more) = stepsFrom (stepsFrom place steps) more :=
  List.foldl_append

/-- Steps that do not go up are the names of the location themselves. -/
theorem stepsFrom_eq_append {steps : List String} (h : ".." ∉ steps) (place : Location) :
    stepsFrom place steps = place ++ steps := by
  induction steps generalizing place with
  | nil => rw [stepsFrom_nil, List.append_nil]
  | cons step rest ih =>
    have hup : step ≠ ".." := fun heq => h (heq ▸ List.mem_cons_self)
    rw [stepsFrom_cons hup, ih (fun hmem => h (List.mem_cons_of_mem _ hmem)), List.append_assoc]
    rfl

theorem up_not_mem_stepsFrom {place : Location} {steps : List String} (h : ".." ∉ place) :
    ".." ∉ stepsFrom place steps := by
  induction steps generalizing place with
  | nil => exact h
  | cons step rest ih =>
    by_cases hup : step = ".."
    · subst hup
      rw [stepsFrom_up]
      exact ih fun hmem => h (List.dropLast_subset _ hmem)
    · rw [stepsFrom_cons hup]
      refine ih fun hmem => ?_
      rcases List.mem_append.1 hmem with hmem | hmem
      · exact h hmem
      · exact hup (List.mem_singleton.1 hmem).symm

/-- **The place of a path**, by its spelling. -/
def Path.place (path : Path) : Location :=
  stepsFrom [] path.steps

theorem Path.up_not_mem_place (path : Path) : ".." ∉ path.place :=
  up_not_mem_stepsFrom (by simp)

theorem Path.place_ofLocation {location : Location} (h : ".." ∉ location) :
    (Path.ofLocation location).place = location := by
  change stepsFrom [] location = location
  rw [stepsFrom_eq_append h, List.nil_append]

/-- The place of a path is in that of its parent, unless the path goes up at its end. -/
theorem Path.place_eq {path : Path} (hsteps : path.steps ≠ []) (hup : path.name ≠ "..") :
    path.place = path.parent.place ++ [path.name] := by
  unfold Path.place
  rw [Tree.steps_eq hsteps, stepsFrom_append, stepsFrom_cons hup, stepsFrom_nil]

namespace Tree

variable {tree other : Tree} {path : Path}

/-- **Trees without symbolic links.** -/
def NoLinks (tree : Tree) : Prop :=
  ∀ location target, tree.get? location ≠ some (.link target)

/-! ### Where a path leads -/

/-- A walk ends at the place that the steps spell. -/
theorem Walks.location_eq (hlinks : tree.NoLinks) {follow : Bool} {budget : Nat} {place : Location}
    {steps : List String} {spot : Spot} (h : tree.Walks follow budget place steps spot) :
    (∃ entry, spot = .entry (stepsFrom place steps) entry ∧
      tree.get? (stepsFrom place steps) = some entry) ∨
    ∃ directory name, spot = .vacant directory name ∧ stepsFrom place steps = directory ++ [name] := by
  induction h with
  | stop hplace => exact .inl ⟨_, rfl, hplace⟩
  | up _ _ ih => exact ih
  | vacant _ hup => exact .inr ⟨_, _, rfl, by rw [stepsFrom_cons hup, stepsFrom_nil]⟩
  | link _ _ _ hlink => exact absurd hlink (hlinks _ _)
  | through _ _ _ hlink => exact absurd hlink (hlinks _ _)
  | into _ hup _ _ _ _ ih =>
    rw [stepsFrom_cons hup]
    exact ih

/-- Without links it does not matter whether the last one is gone through. -/
theorem Walks.not_following (hlinks : tree.NoLinks) {follow : Bool} {budget : Nat}
    {place : Location} {steps : List String} {spot : Spot}
    (h : tree.Walks follow budget place steps spot) : tree.Walks false budget place steps spot := by
  induction h with
  | stop hplace => exact .stop hplace
  | up hplace _ ih => exact .up hplace ih
  | vacant hplace hup hshort hnone => exact .vacant hplace hup hshort hnone
  | link _ _ _ hlink => exact absurd hlink (hlinks _ _)
  | through _ _ _ hlink => exact absurd hlink (hlinks _ _)
  | into hplace hup hshort hentry hno _ ih => exact .into hplace hup hshort hentry hno ih

theorem find_place (hlinks : tree.NoLinks) {path : Path} {location : Location} {entry : Entry}
    (h : tree.find path = .ok (location, entry)) :
    location = path.place ∧ tree.get? path.place = some entry := by
  rcases (find_eq_ok_iff.1 h).2.location_eq hlinks with ⟨found, heq, hget⟩ | ⟨_, _, heq, -⟩
  · cases heq
    exact ⟨rfl, hget⟩
  · cases heq

theorem resolveFrom_eq (hlinks : tree.NoLinks) (closed : List (Location × String))
    (place : Location) (steps : List String) :
    tree.resolveFrom closed place steps = some (stepsFrom place steps) := by
  induction steps generalizing place with
  | nil => rw [resolveFrom, stepsFrom_nil]
  | cons step rest ih =>
    rw [resolveFrom]
    by_cases hup : step = ".."
    · rw [if_pos hup, hup, stepsFrom_up]
      exact ih _
    · rw [if_neg hup, stepsFrom_cons hup]
      cases hget : tree.get? (place ++ [step]) with
      | none => exact ih _
      | some entry =>
        cases entry with
        | link target => exact absurd hget (hlinks _ _)
        | _ => exact ih _

/-- **Resolving a path does not look at the files.** -/
theorem resolve_eq (hlinks : tree.NoLinks) (path : Path) :
    tree.resolve path = if path.hasNul then .error .badValue else .ok path.place := by
  unfold resolve
  rw [resolveFrom_eq hlinks]
  rfl

/-! ### One more step -/

/-- What a name leads to from a directory. -/
def spotAt (tree : Tree) (directory : Location) (name : String) : Spot :=
  match tree.get? (directory ++ [name]) with
  | none => .vacant directory name
  | some entry => .entry (directory ++ [name]) entry

/-- A walk that comes to an entry can be walked on from there. -/
theorem Walks.append (hlinks : tree.NoLinks) {follow followed : Bool} {budget : Nat}
    {place reached : Location} {steps more : List String} {spot : Spot} {entry : Entry}
    (h : tree.Walks follow budget place steps spot) (hspot : spot = .entry reached entry) :
    walkFrom tree followed budget place (steps ++ more) =
      walkFrom tree followed budget reached more := by
  induction h with
  | stop => cases hspot; rfl
  | up hplace _ ih =>
    rw [List.cons_append, walkFrom, hplace]
    exact ih hspot
  | vacant => cases hspot
  | link _ _ _ hlink => exact absurd hlink (hlinks _ _)
  | through _ _ _ hlink => exact absurd hlink (hlinks _ _)
  | @into budget place step found rest spot hplace hup hshort hentry hno _ ih =>
    rw [List.cons_append, walkFrom_cons hplace hup hshort, hentry]
    cases found with
    | link target => exact absurd rfl (hno target)
    | _ => exact ih hspot

theorem walkFrom_single (hlinks : tree.NoLinks) {follow : Bool} {budget : Nat} {place : Location}
    {step : String} (hplace : tree.get? place = some .directory) (hup : step ≠ "..") :
    walkFrom tree follow budget place [step] =
      if maxName < step.utf8ByteSize then .error .nameTooLong else .ok (tree.spotAt place step) := by
  by_cases hshort : maxName < step.utf8ByteSize
  · rw [walkFrom, hplace]
    simp [hup, hshort]
  · rw [walkFrom_cons hplace hup (Nat.not_lt.1 hshort), if_neg hshort, spotAt]
    cases hget : tree.get? (place ++ [step]) with
    | none => rfl
    | some entry =>
      cases entry with
      | link target => exact absurd hget (hlinks _ _)
      | _ => simp [walkFrom, hget]

/-- **Walking to a name in a directory.** -/
theorem walk_child (hlinks : tree.NoLinks) {path : Path} {directory : Location}
    (hparent : tree.Walks true maxLinks [] path.parent.steps (.entry directory .directory))
    (hsteps : path.steps ≠ []) (hup : path.name ≠ "..") (follow : Bool) :
    tree.walk follow path =
      if path.hasNul then .error (.crash .badValue)
      else if maxPath < path.text.utf8ByteSize then .error (.refused .nameTooLong path.text)
      else if maxName < path.name.utf8ByteSize then .error (.refused .nameTooLong path.text)
      else .ok (tree.spotAt directory path.name) := by
  have hdirectory : tree.get? directory = some .directory := by
    rcases hparent.location_eq hlinks with ⟨entry, heq, hget⟩ | ⟨_, _, heq, -⟩
    · cases heq
      exact hget
    · cases heq
  unfold walk
  rw [steps_eq hsteps, hparent.append hlinks rfl, walkFrom_single hlinks hdirectory hup]
  by_cases hshort : maxName < path.name.utf8ByteSize
  · simp only [hshort, if_true]
  · simp only [hshort, if_false]

/-- **Directories that a path leads to**, step by step. -/
def Reaches (tree : Tree) (path : Path) : Prop :=
  tree.Walks true maxLinks [] path.steps (.entry path.place .directory)

theorem Reaches.mono (h : tree.Reaches path) (hways : tree.KeepsWays other) : other.Reaches path :=
  Walks.mono h hways rfl

theorem reaches_of_find (hlinks : tree.NoLinks) {location : Location}
    (h : tree.find path = .ok (location, .directory)) : tree.Reaches path := by
  unfold Reaches
  rw [← (find_place hlinks h).1]
  exact (find_eq_ok_iff.1 h).2

/-- Where a path leads to a directory, so does the path without its last step. -/
theorem Reaches.parent (h : tree.Reaches path) (hlinks : tree.NoLinks) (hsteps : path.steps ≠ [])
    (hup : path.name ≠ "..") : tree.Reaches path.parent := by
  obtain ⟨-, directory, hparent, -⟩ :=
    (Walks.not_following hlinks h).of_snoc (steps_eq hsteps) hup
  rcases hparent.location_eq hlinks with ⟨entry, heq, -⟩ | ⟨_, _, heq, -⟩
  · cases heq
    exact hparent
  · cases heq

/-- A path leads there as well where a link at the end is not gone through. -/
theorem walk_of_find (hlinks : tree.NoLinks) {location : Location} {entry : Entry}
    (h : tree.find path = .ok (location, entry)) :
    tree.walk false path = .ok (.entry location entry) := by
  obtain ⟨haccepts, hwalks⟩ := find_eq_ok_iff.1 h
  exact walk_eq_ok_iff.2 ⟨haccepts, hwalks.not_following hlinks⟩

end Tree

end SchemaPress
