import SchemaPress.Files.Text

/-!
# Walks through a tree

A walk that ends somewhere is told as a derivation, `Tree.Walks`, with one rule for each step it can
take: up, into an entry, through a link, or to a last name that nothing has. `walks_iff` says that
these are the walks of `Tree.walkFrom`.

* A walk to a directory is the same in every tree with the directories and links of the first one
  (`Walks.mono`), since it only looks at those.
* A walk without following the last link is a walk of all steps but the last, to a directory, and
  then a look at the last name (`Walks.of_snoc`, `Walks.snoc`).
-/

namespace SchemaPress.Tree

variable {tree other : Tree}

/-! ### Single entries -/

@[simp] theorem get?_nil (tree : Tree) : tree.get? [] = some .directory := rfl

theorem lookup_filter_ne {entries : List (Location × Entry)} {location place : Location} :
    (entries.filter fun (key, _) => key != location).lookup place =
      if place = location then none else entries.lookup place := by
  induction entries with
  | nil => simp
  | cons first rest ih =>
    obtain ⟨key, entry⟩ := first
    by_cases hkey : key = location
    · rw [List.filter_cons_of_neg (by simp [hkey]), ih, List.lookup_cons]
      by_cases hplace : place = location
      · simp [hplace]
      · have hne : (place == key) = false := by simpa [hkey] using hplace
        simp [hplace, hne]
    · rw [List.filter_cons_of_pos (by simp [hkey]), List.lookup_cons, List.lookup_cons, ih]
      by_cases hplace : place = key
      · simp [hplace, hkey]
      · have hne : (place == key) = false := by simpa using hplace
        simp [hne]

theorem get?_erase_self {location : Location} (h : location ≠ []) :
    (tree.erase location).get? location = none := by
  simp [get?, erase, lookup_filter_ne, h]

theorem get?_erase_of_ne {location place : Location} (h : place ≠ location) :
    (tree.erase location).get? place = tree.get? place := by
  simp [get?, erase, lookup_filter_ne, h]

theorem get?_set_self {location : Location} (h : location ≠ []) (entry : Entry) :
    (tree.set location entry).get? location = some entry := by
  simp [get?, set, h]

theorem get?_set_of_ne {location place : Location} (h : place ≠ location) (entry : Entry) :
    (tree.set location entry).get? place = tree.get? place := by
  have hne : (place == location) = false := by simpa using h
  simp [get?, set, erase, List.lookup_cons, hne, lookup_filter_ne, h]

theorem erase_set (tree : Tree) (location : Location) (entry : Entry) :
    (tree.set location entry).erase location = tree.erase location := by
  simp [set, erase, List.filter_filter]

/-- The entry that is put last counts. -/
theorem set_set (tree : Tree) (location : Location) (entry other : Entry) :
    (tree.set location entry).set location other = tree.set location other := by
  rw [set, erase_set]
  rfl

/-! ### Trees that hold another one -/

/-- All entries of a tree stand in another one as well. -/
def Sub (tree other : Tree) : Prop :=
  ∀ location entry, tree.get? location = some entry → other.get? location = some entry

/-- All entries that a walk can go through stand in another tree as well: all but files. -/
def KeepsWays (tree other : Tree) : Prop :=
  ∀ location entry, tree.get? location = some entry → entry.isFile = false →
    other.get? location = some entry

theorem Sub.refl (tree : Tree) : tree.Sub tree :=
  fun _ _ h => h

theorem Sub.trans {third : Tree} (h : tree.Sub other) (h' : other.Sub third) : tree.Sub third :=
  fun location entry hentry => h' location entry (h location entry hentry)

theorem Sub.keepsWays (h : tree.Sub other) : tree.KeepsWays other :=
  fun location entry hentry _ => h location entry hentry

/-- A new entry changes no other one. -/
theorem sub_set {location : Location} (h : tree.get? location = none) (entry : Entry) :
    tree.Sub (tree.set location entry) := by
  intro place found hfound
  have hne : place ≠ location := by
    rintro rfl
    rw [h] at hfound
    cases hfound
  rw [get?_set_of_ne hne]
  exact hfound

theorem erase_sub (tree : Tree) {location : Location} (hne : location ≠ []) :
    (tree.erase location).Sub tree := by
  intro place found hfound
  by_cases hplace : place = location
  · subst hplace
    rw [get?_erase_self hne] at hfound
    cases hfound
  · rwa [get?_erase_of_ne hplace] at hfound

/-! ### Walks as derivations -/

/-- Where a link is followed to. -/
def linkStart (place : Location) (target : String) : Location :=
  if (Path.ofText target).isAbsolute then [] else place

/-- **Walks that end somewhere.** `follow` says whether a link at the end is gone through; each link
that is gone through takes one from the budget. -/
inductive Walks (tree : Tree) (follow : Bool) : Nat → Location → List String → Spot → Prop where
  | stop {budget : Nat} {place : Location} {entry : Entry} (hplace : tree.get? place = some entry) :
      Walks tree follow budget place [] (.entry place entry)
  | up {budget : Nat} {place : Location} {rest : List String} {spot : Spot}
      (hplace : tree.get? place = some .directory)
      (others : Walks tree follow budget place.dropLast rest spot) :
      Walks tree follow budget place (".." :: rest) spot
  | vacant {budget : Nat} {place : Location} {step : String}
      (hplace : tree.get? place = some .directory) (hup : step ≠ "..")
      (hshort : step.utf8ByteSize ≤ maxName) (hnone : tree.get? (place ++ [step]) = none) :
      Walks tree follow budget place [step] (.vacant place step)
  | link {budget : Nat} {place : Location} {step target : String}
      (hplace : tree.get? place = some .directory) (hup : step ≠ "..")
      (hshort : step.utf8ByteSize ≤ maxName)
      (hlink : tree.get? (place ++ [step]) = some (.link target)) (hstop : follow = false) :
      Walks tree follow budget place [step] (.entry (place ++ [step]) (.link target))
  | through {budget : Nat} {place : Location} {step target : String} {rest : List String}
      {spot : Spot} (hplace : tree.get? place = some .directory) (hup : step ≠ "..")
      (hshort : step.utf8ByteSize ≤ maxName)
      (hlink : tree.get? (place ++ [step]) = some (.link target))
      (hgo : rest ≠ [] ∨ follow = true)
      (others : Walks tree follow budget (linkStart place target)
        ((Path.ofText target).steps ++ rest) spot) :
      Walks tree follow (budget + 1) place (step :: rest) spot
  | into {budget : Nat} {place : Location} {step : String} {entry : Entry} {rest : List String}
      {spot : Spot} (hplace : tree.get? place = some .directory) (hup : step ≠ "..")
      (hshort : step.utf8ByteSize ≤ maxName)
      (hentry : tree.get? (place ++ [step]) = some entry) (hno : ∀ target, entry ≠ .link target)
      (others : Walks tree follow budget (place ++ [step]) rest spot) :
      Walks tree follow budget place (step :: rest) spot

/-- One step from a directory, to a name that does not go up. -/
theorem walkFrom_cons {follow : Bool} {budget : Nat} {place : Location} {step : String}
    {rest : List String} (hplace : tree.get? place = some .directory) (hup : step ≠ "..")
    (hshort : step.utf8ByteSize ≤ maxName) :
    walkFrom tree follow budget place (step :: rest) =
      match tree.get? (place ++ [step]) with
      | none => if rest.isEmpty then .ok (.vacant place step) else .error .notFound
      | some (.link target) =>
        if rest.isEmpty && !follow then .ok (.entry (place ++ [step]) (.link target))
        else
          match budget with
          | 0 => .error .tooManyLinks
          | budget + 1 =>
            walkFrom tree follow budget (linkStart place target) ((Path.ofText target).steps ++ rest)
      | some _ => walkFrom tree follow budget (place ++ [step]) rest := by
  rw [walkFrom, hplace]
  simp only [ne_eq, not_true_eq_false, if_false, hup, Nat.not_lt.2 hshort]
  rfl

/-- The derivations are the walks that end somewhere. -/
theorem walkFrom_of_walks {follow : Bool} {budget : Nat} {place : Location} {steps : List String}
    {spot : Spot} (h : tree.Walks follow budget place steps spot) :
    tree.walkFrom follow budget place steps = .ok spot := by
  induction h with
  | stop hplace => rw [walkFrom, hplace]
  | up hplace others ih =>
    rw [walkFrom, hplace]
    exact ih
  | vacant hplace hup hshort hnone =>
    rw [walkFrom_cons hplace hup hshort, hnone]
    rfl
  | link hplace hup hshort hlink hstop =>
    rw [walkFrom_cons hplace hup hshort, hlink, hstop]
    rfl
  | @through budget place step target rest spot hplace hup hshort hlink hgo others ih =>
    have hmore : (rest.isEmpty && !follow) = false := by
      rcases hgo with hne | hfollow
      · simp [hne]
      · simp [hfollow]
    rw [walkFrom_cons hplace hup hshort, hlink]
    simp only [hmore, Bool.false_eq_true, if_false]
    exact ih
  | @into budget place step entry rest spot hplace hup hshort hentry hno others ih =>
    rw [walkFrom_cons hplace hup hshort, hentry]
    cases entry with
    | link target => exact absurd rfl (hno target)
    | _ => exact ih

theorem walks_of_walkFrom {follow : Bool} {budget : Nat} {place : Location} {steps : List String}
    {spot : Spot} (h : tree.walkFrom follow budget place steps = .ok spot) :
    tree.Walks follow budget place steps spot := by
  induction budget, place, steps using walkFrom.induct tree follow generalizing spot with
  | case1 budget place steps hplace =>
    rw [walkFrom, hplace] at h
    cases h
  | case2 budget place entry hplace =>
    rw [walkFrom, hplace] at h
    cases h
    exact .stop hplace
  | case3 budget place entry hplace step rest hno =>
    rw [walkFrom, hplace] at h
    simp only [hno, if_true, ne_eq, not_false_eq_true] at h
    cases h
  | case4 budget place entry hplace rest hdir ih =>
    obtain rfl := Classical.not_not.1 hdir
    rw [walkFrom, hplace] at h
    exact .up hplace (ih h)
  | case5 budget place entry hplace step rest hdir hup hlong =>
    rw [walkFrom, hplace] at h
    simp only [hdir, if_false, hup, hlong, if_true] at h
    cases h
  | case6 budget place entry hplace step rest hdir hup hshort next hnone =>
    rename_i hrest
    obtain rfl := Classical.not_not.1 hdir
    obtain rfl := List.isEmpty_iff.1 hrest
    have hshort := Nat.not_lt.1 hshort
    rw [walkFrom_cons hplace hup hshort, hnone] at h
    cases h
    exact .vacant hplace hup hshort hnone
  | case7 budget place entry hplace step rest hdir hup hshort next hnone =>
    rename_i hrest
    obtain rfl := Classical.not_not.1 hdir
    rw [walkFrom_cons hplace hup (Nat.not_lt.1 hshort), hnone] at h
    simp only [hrest] at h
    cases h
  | case8 budget place entry hplace step rest hdir hup hshort next target hlink =>
    rename_i hstop
    obtain rfl := Classical.not_not.1 hdir
    have hshort := Nat.not_lt.1 hshort
    rw [walkFrom_cons hplace hup hshort, hlink] at h
    simp only [hstop, if_true] at h
    cases h
    simp only [Bool.and_eq_true, List.isEmpty_iff, Bool.not_eq_true'] at hstop
    obtain ⟨rfl, hstop⟩ := hstop
    exact .link hplace hup hshort hlink hstop
  | case9 place entry hplace step rest hdir hup hshort next target hlink =>
    rename_i hgo
    obtain rfl := Classical.not_not.1 hdir
    rw [walkFrom_cons hplace hup (Nat.not_lt.1 hshort), hlink] at h
    simp only [hgo] at h
    cases h
  | case10 place entry hplace step rest hdir hup hshort next target hlink hgo budget path =>
    rename_i ih
    obtain rfl := Classical.not_not.1 hdir
    have hshort := Nat.not_lt.1 hshort
    rw [walkFrom_cons hplace hup hshort, hlink] at h
    simp only [hgo] at h
    refine .through hplace hup hshort hlink ?_ (ih h)
    by_cases hrest : rest = []
    · exact .inr (by simpa [hrest] using hgo)
    · exact .inl hrest
  | case11 budget place entry hplace step rest hdir hup hshort next found hno hentry =>
    rename_i ih
    obtain rfl := Classical.not_not.1 hdir
    have hshort := Nat.not_lt.1 hshort
    rw [walkFrom_cons hplace hup hshort, hentry] at h
    refine .into hplace hup hshort hentry (fun target heq => hno target heq) (ih ?_)
    cases found with
    | link target => exact (hno target rfl).elim
    | _ => exact h

theorem walks_iff {follow : Bool} {budget : Nat} {place : Location} {steps : List String}
    {spot : Spot} : tree.Walks follow budget place steps spot ↔
      tree.walkFrom follow budget place steps = .ok spot :=
  ⟨walkFrom_of_walks, walks_of_walkFrom⟩

/-! ### Where a walk ends -/

/-- A walk to a vacant name ends in a directory. -/
theorem Walks.get?_vacant {follow : Bool} {budget : Nat} {place directory : Location}
    {steps : List String} {spot : Spot} {name : String}
    (h : tree.Walks follow budget place steps spot) (hspot : spot = .vacant directory name) :
    tree.get? directory = some .directory ∧ tree.get? (directory ++ [name]) = none := by
  induction h with
  | stop => cases hspot
  | link => cases hspot
  | vacant hplace _ _ hnone =>
    cases hspot
    exact ⟨hplace, hnone⟩
  | up _ _ ih => exact ih hspot
  | through _ _ _ _ _ _ ih => exact ih hspot
  | into _ _ _ _ _ _ ih => exact ih hspot

/-- A walk to an entry ends where the entry stands. -/
theorem Walks.get?_entry {follow : Bool} {budget : Nat} {place location : Location}
    {steps : List String} {spot : Spot} {entry : Entry}
    (h : tree.Walks follow budget place steps spot) (hspot : spot = .entry location entry) :
    tree.get? location = some entry := by
  induction h with
  | stop hplace =>
    cases hspot
    exact hplace
  | vacant => cases hspot
  | link _ _ _ hlink =>
    cases hspot
    exact hlink
  | up _ _ ih => exact ih hspot
  | through _ _ _ _ _ _ ih => exact ih hspot
  | into _ _ _ _ _ _ ih => exact ih hspot

/-- A walk that ends at no file starts at none, so where the ways are kept its start is. -/
theorem Walks.start_kept {follow : Bool} {budget : Nat} {place : Location} {steps : List String}
    {spot : Spot} {entry : Entry} (h : tree.Walks follow budget place steps spot)
    (hways : tree.KeepsWays other) (hspot : ∀ location entry, spot = .entry location entry → entry.isFile = false)
    (hentry : tree.get? place = some entry) : other.get? place = some entry := by
  have directory (hplace : tree.get? place = some .directory) : other.get? place = some entry := by
    obtain rfl := Option.some.inj (hplace.symm.trans hentry)
    exact hways _ _ hplace rfl
  cases h with
  | stop hplace =>
    obtain rfl := Option.some.inj (hplace.symm.trans hentry)
    exact hways _ _ hplace (hspot place _ rfl)
  | up hplace => exact directory hplace
  | vacant hplace => exact directory hplace
  | link hplace => exact directory hplace
  | through hplace => exact directory hplace
  | into hplace => exact directory hplace

/-- **A walk to a directory stays the same where the ways are kept**: it only looks at directories
and links. -/
theorem Walks.mono {follow : Bool} {budget : Nat} {place location : Location} {steps : List String}
    {spot : Spot} (h : tree.Walks follow budget place steps spot) (hways : tree.KeepsWays other)
    (hspot : spot = .entry location .directory) :
    other.Walks follow budget place steps (.entry location .directory) := by
  induction h with
  | stop hplace =>
    cases hspot
    exact .stop (hways _ _ hplace rfl)
  | up hplace _ ih => exact .up (hways _ _ hplace rfl) (ih hspot)
  | vacant => cases hspot
  | link => cases hspot
  | through hplace hup hshort hlink hgo _ ih =>
    exact .through (hways _ _ hplace rfl) hup hshort (hways _ _ hlink rfl) hgo (ih hspot)
  | into hplace hup hshort hentry hno others ih =>
    have hkept := others.start_kept hways (fun _ _ heq => by cases hspot.symm.trans heq; rfl) hentry
    exact .into (hways _ _ hplace rfl) hup hshort hkept hno (ih hspot)

/-- Where a name is not vacant any more, the walk to it ends at what has it. -/
theorem Walks.fill {budget : Nat} {place directory : Location} {steps : List String} {name : String}
    {spot : Spot} {entry : Entry} (h : tree.Walks false budget place steps spot)
    (hways : tree.KeepsWays other) (hspot : spot = .vacant directory name)
    (hentry : other.get? (directory ++ [name]) = some entry) :
    other.Walks false budget place steps (.entry (directory ++ [name]) entry) := by
  induction h with
  | stop => cases hspot
  | up hplace _ ih => exact .up (hways _ _ hplace rfl) (ih hspot)
  | vacant hplace hup hshort hnone =>
    cases hspot
    have hplace := hways _ _ hplace rfl
    cases entry with
    | link target => exact .link hplace hup hshort hentry rfl
    | _ => exact .into hplace hup hshort hentry nofun (.stop hentry)
  | link => cases hspot
  | through hplace hup hshort hlink hgo _ ih =>
    exact .through (hways _ _ hplace rfl) hup hshort (hways _ _ hlink rfl) hgo (ih hspot)
  | into hplace hup hshort hfound hno others ih =>
    have hkept := others.start_kept hways (fun _ _ heq => by cases hspot.symm.trans heq) hfound
    exact .into (hways _ _ hplace rfl) hup hshort hkept hno (ih hspot)

/-- Whether a link at the end is gone through does not matter where there is none. -/
theorem Walks.following {budget : Nat} {place location : Location} {steps : List String}
    {spot : Spot} {entry : Entry} (h : tree.Walks false budget place steps spot)
    (hspot : spot = .entry location entry) (hno : ∀ target, entry ≠ .link target) :
    tree.Walks true budget place steps (.entry location entry) := by
  induction h with
  | stop hplace =>
    cases hspot
    exact .stop hplace
  | up hplace _ ih => exact .up hplace (ih hspot)
  | vacant => cases hspot
  | @link _ _ _ target =>
    cases hspot
    exact absurd rfl (hno target)
  | through hplace hup hshort hlink _ _ ih =>
    exact .through hplace hup hshort hlink (.inr rfl) (ih hspot)
  | into hplace hup hshort hentry hnolink _ ih =>
    exact .into hplace hup hshort hentry hnolink (ih hspot)

/-! ### The last step -/

/-- **The last step of a walk.** From a directory, a name leads to what has it, or it is vacant. -/
inductive LastStep (tree : Tree) (directory : Location) (name : String) : Spot → Prop where
  | entry {entry : Entry} (h : tree.get? (directory ++ [name]) = some entry) :
      LastStep tree directory name (.entry (directory ++ [name]) entry)
  | vacant (h : tree.get? (directory ++ [name]) = none) :
      LastStep tree directory name (.vacant directory name)

/-- A walk to a directory, with one more step. -/
theorem Walks.snoc {budget : Nat} {place directory : Location} {steps : List String} {name : String}
    {spot last : Spot} (h : tree.Walks true budget place steps spot)
    (hspot : spot = .entry directory .directory) (hup : name ≠ "..")
    (hshort : name.utf8ByteSize ≤ maxName) (hlast : tree.LastStep directory name last) :
    tree.Walks false budget place (steps ++ [name]) last := by
  induction h with
  | stop hplace =>
    cases hspot
    cases hlast with
    | vacant hnone => exact .vacant hplace hup hshort hnone
    | @entry entry hentry =>
      cases entry with
      | link target => exact .link hplace hup hshort hentry rfl
      | _ => exact .into hplace hup hshort hentry nofun (.stop hentry)
  | up hplace _ ih => exact .up hplace (ih hspot)
  | vacant => cases hspot
  | link => cases hspot
  | through hplace hup' hshort' hlink _ _ ih =>
    have hrest := ih hspot
    rw [List.append_assoc] at hrest
    exact .through hplace hup' hshort' hlink (.inl (by simp)) hrest
  | into hplace hup' hshort' hentry hno _ ih =>
    exact .into hplace hup' hshort' hentry hno (ih hspot)

/-- A step up at the end leads to the directory around the one that was reached. -/
theorem Walks.of_snoc_up {budget : Nat} {place : Location} {steps all : List String} {spot : Spot}
    (h : tree.Walks false budget place all spot) (hall : all = steps ++ [".."]) :
    ∃ directory entry, tree.get? directory = some .directory ∧
      tree.get? directory.dropLast = some entry ∧ spot = .entry directory.dropLast entry := by
  induction h generalizing steps with
  | stop => exact absurd hall (by simp)
  | @up budget place rest spot hplace others ih =>
    cases steps with
    | nil =>
      obtain ⟨-, rfl⟩ := List.cons.inj hall
      cases others with
      | stop hentry => exact ⟨place, _, hplace, hentry, rfl⟩
    | cons step steps => exact ih (List.cons.inj hall).2
  | vacant hplace hup =>
    cases steps with
    | nil => exact absurd (List.cons.inj hall).1 hup
    | cons step steps => simp at hall
  | link hplace hup =>
    cases steps with
    | nil => exact absurd (List.cons.inj hall).1 hup
    | cons step steps => simp at hall
  | through hplace hup hshort hlink hgo others ih =>
    cases steps with
    | nil => exact absurd (List.cons.inj hall).1 hup
    | cons step steps =>
      obtain ⟨-, rfl⟩ := List.cons.inj hall
      exact ih (List.append_assoc _ _ _).symm
  | into hplace hup hshort hentry hno others ih =>
    cases steps with
    | nil => exact absurd (List.cons.inj hall).1 hup
    | cons step steps => exact ih (List.cons.inj hall).2

/-- **A walk that does not go up at its end** reaches a directory by all steps but the last, and goes
on from there by the last one. -/
theorem Walks.of_snoc {budget : Nat} {place : Location} {steps all : List String} {name : String}
    {spot : Spot} (h : tree.Walks false budget place all spot) (hall : all = steps ++ [name])
    (hup : name ≠ "..") :
    name.utf8ByteSize ≤ maxName ∧ ∃ directory,
      tree.Walks true budget place steps (.entry directory .directory) ∧
      tree.LastStep directory name spot := by
  induction h generalizing steps with
  | stop => exact absurd hall (by simp)
  | @up budget place rest spot hplace others ih =>
    cases steps with
    | nil => exact absurd (List.cons.inj hall).1.symm hup
    | cons step steps =>
      obtain ⟨rfl, hrest⟩ := List.cons.inj hall
      obtain ⟨hname, directory, hwalk, hlast⟩ := ih hrest
      exact ⟨hname, directory, .up hplace hwalk, hlast⟩
  | vacant hplace _ hshort hnone =>
    cases steps with
    | nil =>
      obtain ⟨rfl, -⟩ := List.cons.inj hall
      exact ⟨hshort, _, .stop hplace, .vacant hnone⟩
    | cons step steps => simp at hall
  | link hplace _ hshort hlink =>
    cases steps with
    | nil =>
      obtain ⟨rfl, -⟩ := List.cons.inj hall
      exact ⟨hshort, _, .stop hplace, .entry hlink⟩
    | cons step steps => simp at hall
  | through hplace hup' hshort hlink hgo others ih =>
    cases steps with
    -- the last link is not gone through
    | nil =>
      obtain ⟨-, rfl⟩ := List.cons.inj hall
      rcases hgo with hne | hfollow
      · exact absurd rfl hne
      · cases hfollow
    | cons step steps =>
      obtain ⟨rfl, rfl⟩ := List.cons.inj hall
      obtain ⟨hname, directory, hwalk, hlast⟩ := ih (List.append_assoc _ _ _).symm
      exact ⟨hname, directory, .through hplace hup' hshort hlink (.inr rfl) hwalk, hlast⟩
  | into hplace hup' hshort hentry hno others ih =>
    cases steps with
    | nil =>
      obtain ⟨rfl, rfl⟩ := List.cons.inj hall
      cases others with
      | stop hlast => exact ⟨hshort, _, .stop hplace, .entry hlast⟩
    | cons step steps =>
      obtain ⟨rfl, hrest⟩ := List.cons.inj hall
      obtain ⟨hname, directory, hwalk, hlast⟩ := ih hrest
      exact ⟨hname, directory, .into hplace hup' hshort hentry hno hwalk, hlast⟩

/-! ### Paths -/

/-- The system takes a path that has no NUL character in it and is not too long. -/
structure Accepts (path : Path) : Prop where
  noNul : path.hasNul = false
  short : path.text.utf8ByteSize ≤ maxPath

theorem walk_eq_ok_iff {follow : Bool} {path : Path} {spot : Spot} :
    tree.walk follow path = .ok spot ↔
      Accepts path ∧ tree.Walks follow maxLinks [] path.steps spot := by
  unfold walk
  constructor
  · intro h
    split at h
    · cases h
    · next hnul =>
      split at h
      · cases h
      · next hshort =>
        cases hwalk : tree.walkFrom follow maxLinks [] path.steps with
        | error refusal => rw [hwalk] at h; cases h
        | ok found =>
          rw [hwalk] at h
          cases h
          exact ⟨⟨by simpa using hnul, Nat.not_lt.1 hshort⟩, walks_of_walkFrom hwalk⟩
  · rintro ⟨⟨hnul, hshort⟩, hwalk⟩
    rw [if_neg (by simp [hnul]), if_neg (Nat.not_lt.2 hshort), walkFrom_of_walks hwalk]

theorem find_eq_ok_iff {path : Path} {location : Location} {entry : Entry} :
    tree.find path = .ok (location, entry) ↔
      Accepts path ∧ tree.Walks true maxLinks [] path.steps (.entry location entry) := by
  rw [← walk_eq_ok_iff]
  unfold find
  cases hwalk : tree.walk true path with
  | error failure => exact ⟨nofun, nofun⟩
  | ok spot =>
    cases spot with
    | entry place found =>
      constructor
      · intro h
        cases h
        rfl
      · intro h
        cases h
        rfl
    | vacant => exact ⟨nofun, nofun⟩

/-- A path to a directory leads to it wherever the ways are kept. -/
theorem find_mono {path : Path} {location : Location} (h : tree.find path = .ok (location, .directory))
    (hways : tree.KeepsWays other) : other.find path = .ok (location, .directory) := by
  obtain ⟨haccepts, hwalk⟩ := find_eq_ok_iff.1 h
  exact find_eq_ok_iff.2 ⟨haccepts, hwalk.mono hways rfl⟩

/-- The steps of a path are those of its parent and its name. -/
theorem steps_eq {path : Path} (h : path.steps ≠ []) :
    path.steps = path.parent.steps ++ [path.name] := by
  unfold Path.parent Path.name
  rw [List.getLast?_eq_some_getLast h, Option.getD_some]
  exact (List.dropLast_concat_getLast h).symm

end SchemaPress.Tree
