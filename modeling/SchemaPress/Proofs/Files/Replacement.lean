import SchemaPress.Proofs.Files.Writer

/-!
# Writing where there are links

A file that is written may take the place of a link (`Writer.Wrote`). All other entries stay, so a tree after
any number of writes is one in which files stand for some of the links and files (`Tree.Replaces`).

A path to a directory then leads to the same directory as before, or it goes through a link that was replaced
and leads to no directory any more, whatever is added to the tree (`Tree.Walks.kept_or_cut`). So a path that
can still be written to after a few other ones leads where it led before (`Writer.Wrote.walk_eq`).
-/

namespace SchemaPress

namespace Tree

variable {tree middle other : Tree}

/-- **Every entry is kept, or a file stands for it**; no file stands for a directory. -/
def Replaces (tree other : Tree) : Prop :=
  ∀ location entry, tree.get? location = some entry →
    other.get? location = some entry ∨
      entry ≠ .directory ∧ ∃ bytes, other.get? location = some (.file bytes)

theorem Replaces.refl (tree : Tree) : tree.Replaces tree :=
  fun _ _ h => .inl h

theorem Sub.replaces (h : tree.Sub other) : tree.Replaces other :=
  fun location entry hentry => .inl (h location entry hentry)

theorem Replaces.trans (h : tree.Replaces middle) (h' : middle.Replaces other) :
    tree.Replaces other := by
  intro location entry hentry
  rcases h location entry hentry with hkept | ⟨hno, bytes, hfile⟩
  · exact h' location entry hkept
  · rcases h' location _ hfile with hkept | ⟨-, hfile⟩
    · exact .inr ⟨hno, bytes, hkept⟩
    · exact .inr ⟨hno, hfile⟩

theorem Replaces.directory (h : tree.Replaces other) {location : Location}
    (hdirectory : tree.get? location = some .directory) : other.get? location = some .directory := by
  rcases h location _ hdirectory with hkept | ⟨hno, -⟩
  · exact hkept
  · exact absurd rfl hno

/-- The file at the end of a path is found by the path. -/
theorem find_of_walk {path : Path} {location : Location} {bytes : ByteArray}
    (h : tree.walk false path = .ok (.entry location (.file bytes))) :
    tree.find path = .ok (location, .file bytes) := by
  obtain ⟨haccepts, hwalks⟩ := walk_eq_ok_iff.1 h
  exact find_eq_ok_iff.2 ⟨haccepts, hwalks.following rfl nofun⟩

/-- A walk to a directory starts at no file. -/
theorem Walks.start_not_isFile {follow : Bool} {budget : Nat} {place location : Location}
    {steps : List String} (h : tree.Walks follow budget place steps (.entry location .directory))
    {entry : Entry} (hentry : tree.get? place = some entry) : entry.isFile ≠ true := by
  have hdirectory : tree.get? place = some .directory := by
    cases h with
    | stop hplace => exact hplace
    | up hplace => exact hplace
    | through hplace => exact hplace
    | into hplace => exact hplace
  cases hdirectory.symm.trans hentry
  exact Bool.false_ne_true

/-- A step into a directory goes on from there. -/
theorem Walks.of_into {follow : Bool} {budget : Nat} {place : Location} {step : String}
    {rest : List String} {spot : Spot} {entry : Entry}
    (h : tree.Walks follow budget place (step :: rest) spot) (hup : step ≠ "..")
    (hentry : tree.get? (place ++ [step]) = some entry) (hno : ∀ target, entry ≠ .link target) :
    tree.Walks follow budget (place ++ [step]) rest spot := by
  cases h with
  | up => exact absurd rfl hup
  | vacant _ _ _ hnone => cases hnone.symm.trans hentry
  | @link _ _ _ target _ _ _ hlink =>
    cases hlink.symm.trans hentry
    exact absurd rfl (hno target)
  | @through _ _ _ target _ _ _ _ _ hlink =>
    cases hlink.symm.trans hentry
    exact absurd rfl (hno target)
  | into _ _ _ _ _ others => exact others

/-- A step through a link goes on from where it leads, if it comes to a directory. -/
theorem Walks.of_through {follow : Bool} {budget : Nat} {place location : Location}
    {step target : String} {rest : List String}
    (h : tree.Walks follow budget place (step :: rest) (.entry location .directory)) (hup : step ≠ "..")
    (hlink : tree.get? (place ++ [step]) = some (.link target)) :
    ∃ less, budget = less + 1 ∧ tree.Walks follow less (linkStart place target)
      ((Path.ofText target).steps ++ rest) (.entry location .directory) := by
  cases h with
  | up => exact absurd rfl hup
  | through _ _ _ hlink' _ others =>
    cases hlink'.symm.trans hlink
    exact ⟨_, rfl, others⟩
  | into _ _ _ hentry hno =>
    cases hentry.symm.trans hlink
    exact absurd rfl (hno target)

/-- **A path to a directory is kept or cut**: where files stand for links, it leads to the same directory, or
to none, also when more is added to the tree. -/
theorem Walks.kept_or_cut {follow : Bool} {budget : Nat} {place location : Location}
    {steps : List String} {spot : Spot} (h : tree.Walks follow budget place steps spot)
    (hreplaces : tree.Replaces other) (hspot : spot = .entry location .directory) :
    other.Walks follow budget place steps (.entry location .directory) ∨
      ∀ made, other.Sub made → ∀ reached,
        ¬ made.Walks follow budget place steps (.entry reached .directory) := by
  induction h with
  | stop hplace =>
    cases hspot
    exact .inl (.stop (hreplaces.directory hplace))
  | vacant => cases hspot
  | link => cases hspot
  | up hplace _ ih =>
    rcases ih hspot with hkept | hcut
    · exact .inl (.up (hreplaces.directory hplace) hkept)
    · refine .inr fun made hsub reached hwalks => ?_
      cases hwalks with
      | up _ others => exact hcut made hsub reached others
      | through _ hup => exact hup rfl
      | into _ hup => exact hup rfl
  | @into budget place step entry rest spot hplace hup hshort hentry hno others ih =>
    -- what is entered on the way to a directory is one
    have hentry : tree.get? (place ++ [step]) = some .directory := by
      cases entry with
      | directory => exact hentry
      | link target => exact absurd rfl (hno target)
      | file bytes => exact absurd rfl ((hspot ▸ others).start_not_isFile hentry)
      | unreadable bytes => exact absurd rfl ((hspot ▸ others).start_not_isFile hentry)
    have hkeep := hreplaces.directory hentry
    rcases ih hspot with hkept | hcut
    · exact .inl (.into (hreplaces.directory hplace) hup hshort hkeep nofun hkept)
    · exact .inr fun made hsub reached hwalks =>
        hcut made hsub reached (hwalks.of_into hup (hsub _ _ hkeep) nofun)
  | @through budget place step target rest spot hplace hup hshort hlink hgo others ih =>
    rcases hreplaces _ _ hlink with hkeep | ⟨-, bytes, hfile⟩
    · rcases ih hspot with hkept | hcut
      · exact .inl (.through (hreplaces.directory hplace) hup hshort hkeep hgo hkept)
      · refine .inr fun made hsub reached hwalks => ?_
        obtain ⟨less, hless, hwalks⟩ := hwalks.of_through hup (hsub _ _ hkeep)
        cases hless
        exact hcut made hsub reached hwalks
    -- the link is a file now, which leads nowhere
    · exact .inr fun made hsub reached hwalks =>
        have hfile := hsub _ _ hfile
        (hwalks.of_into hup hfile nofun).start_not_isFile hfile rfl

end Tree

namespace Writer

open SchemaPress.Tree

variable {tree middle after : Tree} {path : Path} {bytes : ByteArray}

/-- **What writing a file does**: directories are made on the way to it, and it is moved to its place. -/
inductive Wrote (path : Path) (bytes : ByteArray) (tree after : Tree) : Prop where
  | intro {made : Tree} {directory : Location} (hpaved : Paved path.parent tree made)
      (hmoved : Moved made path bytes after directory)

theorem wrote_of_outcome (hwf : tree.WellFormed) {text : String} {check : Except WriteFailure Unit}
    (h : (write path (.plain text) check).outcome tree = (.ok (), after)) :
    Wrote path text.toUTF8 tree after := by
  obtain ⟨made, result, written, houtcome, hpaved, hend⟩ := outcome_write hwf path (.plain text) check
  cases houtcome.symm.trans h
  rcases hend with ⟨-, -, text, directory, hcontent, hmoved⟩ | ⟨failure, hfailure, -⟩
  · cases hcontent
    exact .intro hpaved hmoved
  · cases hfailure

theorem Wrote.wellFormed (hwf : tree.WellFormed) (h : Wrote path bytes tree after) :
    after.WellFormed := by
  obtain ⟨hpaved, hmoved⟩ := h
  exact hmoved.wellFormed (hpaved.wellFormed hwf)

/-- The file stands for what was in its place. -/
theorem Wrote.replaces (h : Wrote path bytes tree after) : tree.Replaces after := by
  obtain @⟨made, directory, hpaved, hmoved⟩ := h
  refine hpaved.kept.replaces.trans fun location entry hentry => ?_
  by_cases hgoal : location = directory ++ [path.name]
  · rw [hgoal] at hentry ⊢
    exact .inr ⟨fun hdirectory => hmoved.replaced (hdirectory ▸ hentry), bytes, hmoved.file⟩
  · rw [hmoved.others location hgoal]
    exact .inl hentry

/-- Entries of other names are kept. -/
theorem Wrote.get?_of_name_ne (h : Wrote path bytes tree after) {place : Location} {name : String}
    {entry : Entry} (hname : name ≠ path.name) (hentry : tree.get? (place ++ [name]) = some entry) :
    after.get? (place ++ [name]) = some entry := by
  obtain @⟨made, directory, hpaved, hmoved⟩ := h
  have hplace : place ++ [name] ≠ directory ++ [path.name] := fun heq =>
    hname (List.cons.inj (List.append_inj' heq rfl).2).1
  rw [hmoved.others _ hplace]
  exact hpaved.kept _ _ hentry

/-- The directory of a path that leads to an entry. -/
theorem Wrote.exists_directory (h : Wrote path bytes middle after) {location : Location} {entry : Entry}
    (hwalk : tree.walk false path = .ok (.entry location entry)) :
    ∃ directory, location = directory ++ [path.name] ∧
      tree.Walks true maxLinks [] path.parent.steps (.entry directory .directory) := by
  obtain ⟨-, hmoved⟩ := h
  obtain ⟨-, directory, hwalks, hlast⟩ := (walk_eq_ok_iff.1 hwalk).2.of_snoc hmoved.steps hmoved.up
  cases hlast
  exact ⟨directory, rfl, hwalks⟩

/-- **The file stands where the path led to** before it was written. -/
theorem Wrote.get?_file (h : Wrote path bytes tree after) {location : Location} {entry : Entry}
    (hwalk : tree.walk false path = .ok (.entry location entry)) :
    after.get? location = some (.file bytes) := by
  obtain ⟨directory, rfl, hwalks⟩ := h.exists_directory hwalk
  obtain ⟨hpaved, hmoved⟩ := h
  have hmade := walkFrom_of_walks (hwalks.mono hpaved.kept.keepsWays rfl)
  cases hmade.symm.trans (walkFrom_of_walks (find_eq_ok_iff.1 hmoved.parent).2)
  exact hmoved.file

/-- **A path that can still be written to leads where it led before.** -/
theorem Wrote.walk_eq (h : Wrote path bytes middle after) (hreplaces : tree.Replaces middle)
    {location : Location} {entry : Entry}
    (hwalk : tree.walk false path = .ok (.entry location entry))
    (hentry : middle.get? location = some entry) :
    middle.walk false path = .ok (.entry location entry) := by
  obtain ⟨directory, rfl, hwalks⟩ := h.exists_directory hwalk
  obtain ⟨hpaved, hmoved⟩ := h
  refine walk_eq_ok_iff.2 ⟨(walk_eq_ok_iff.1 hwalk).1, ?_⟩
  rw [hmoved.steps]
  rcases hwalks.kept_or_cut hreplaces rfl with hkept | hcut
  · exact hkept.snoc rfl hmoved.up hmoved.short (.entry hentry)
  -- the file was written to a directory, so the way to it is not cut
  · exact absurd (find_eq_ok_iff.1 hmoved.parent).2 (hcut _ hpaved.kept _)

end Writer

/-! ### Reading what was written in place of a file -/

namespace Tree

variable {tree other : Tree}

/-- Where all entries are kept, a walk leads to the same entry. -/
theorem Walks.sub {follow : Bool} {budget : Nat} {place location : Location} {steps : List String}
    {spot : Spot} {entry : Entry} (h : tree.Walks follow budget place steps spot)
    (hsub : tree.Sub other) (hspot : spot = .entry location entry) :
    other.Walks follow budget place steps (.entry location entry) := by
  induction h with
  | stop hplace =>
    cases hspot
    exact .stop (hsub _ _ hplace)
  | up hplace _ ih => exact .up (hsub _ _ hplace) (ih hspot)
  | vacant => cases hspot
  | link hplace hup hshort hlink hstop =>
    cases hspot
    exact .link (hsub _ _ hplace) hup hshort (hsub _ _ hlink) hstop
  | through hplace hup hshort hlink hgo _ ih =>
    exact .through (hsub _ _ hplace) hup hshort (hsub _ _ hlink) hgo (ih hspot)
  | into hplace hup hshort hentry hno _ ih =>
    exact .into (hsub _ _ hplace) hup hshort (hsub _ _ hentry) hno (ih hspot)

theorem find_sub {path : Path} {location : Location} {entry : Entry}
    (h : tree.find path = .ok (location, entry)) (hsub : tree.Sub other) :
    other.find path = .ok (location, entry) := by
  obtain ⟨haccepts, hwalks⟩ := find_eq_ok_iff.1 h
  exact find_eq_ok_iff.2 ⟨haccepts, hwalks.sub hsub rfl⟩

/-- A walk comes to a directory by its first steps, and goes on from there. -/
theorem Walks.of_append {budget : Nat} {place : Location} {all steps more : List String} {spot : Spot}
    (h : tree.Walks true budget place all spot) (hall : all = steps ++ more) (hmore : more ≠ []) :
    ∃ less directory, tree.Walks true budget place steps (.entry directory .directory) ∧
      tree.Walks true less directory more spot := by
  induction h generalizing steps with
  | stop => exact absurd (List.append_eq_nil_iff.1 hall.symm).2 hmore
  | @up budget place rest spot hplace others ih =>
    cases steps with
    | nil =>
      obtain rfl : _ = more := hall
      exact ⟨budget, place, .stop hplace, .up hplace others⟩
    | cons step steps =>
      obtain ⟨rfl, hrest⟩ := List.cons.inj hall
      obtain ⟨less, directory, hfirst, hlast⟩ := ih hrest
      exact ⟨less, directory, .up hplace hfirst, hlast⟩
  | @vacant budget place step hplace hup hshort hnone =>
    cases steps with
    | nil =>
      obtain rfl : _ = more := hall
      exact ⟨budget, place, .stop hplace, .vacant hplace hup hshort hnone⟩
    | cons step steps =>
      exact absurd (List.append_eq_nil_iff.1 (List.cons.inj hall).2.symm).2 hmore
  | link _ _ _ _ hstop => cases hstop
  | @through budget place step target rest spot hplace hup hshort hlink hgo others ih =>
    cases steps with
    | nil =>
      obtain rfl : _ = more := hall
      exact ⟨budget + 1, place, .stop hplace, .through hplace hup hshort hlink hgo others⟩
    | cons step steps =>
      obtain ⟨rfl, rfl⟩ := List.cons.inj hall
      obtain ⟨less, directory, hfirst, hlast⟩ := ih (List.append_assoc _ _ _).symm
      exact ⟨less, directory, .through hplace hup hshort hlink (.inr rfl) hfirst, hlast⟩
  | @into budget place step entry rest spot hplace hup hshort hentry hno others ih =>
    cases steps with
    | nil =>
      obtain rfl : _ = more := hall
      exact ⟨budget, place, .stop hplace, .into hplace hup hshort hentry hno others⟩
    | cons step steps =>
      obtain ⟨rfl, hrest⟩ := List.cons.inj hall
      obtain ⟨less, directory, hfirst, hlast⟩ := ih hrest
      exact ⟨less, directory, .into hplace hup hshort hentry hno hfirst, hlast⟩

/-- A step up goes on from the directory around. -/
theorem Walks.of_up {follow : Bool} {budget : Nat} {place : Location} {rest : List String} {spot : Spot}
    (h : tree.Walks follow budget place (".." :: rest) spot) :
    tree.Walks follow budget place.dropLast rest spot := by
  cases h with
  | up _ others => exact others
  | vacant _ hup | link _ hup | through _ hup | into _ hup => exact absurd rfl hup

/-- A link at the end is gone through to what it leads to. -/
theorem Walks.of_last_link {budget : Nat} {place : Location} {step target : String} {spot : Spot}
    (h : tree.Walks true budget place [step] spot) (hup : step ≠ "..")
    (hlink : tree.get? (place ++ [step]) = some (.link target)) :
    ∃ less, tree.Walks true less (linkStart place target) (Path.ofText target).steps spot := by
  cases h with
  | up => exact absurd rfl hup
  | vacant _ _ _ hnone => cases hnone.symm.trans hlink
  | link _ _ _ _ hstop => cases hstop
  | through _ _ _ hlink' _ others =>
    cases hlink'.symm.trans hlink
    rw [List.append_nil] at others
    exact ⟨_, others⟩
  | into _ _ _ hentry hno =>
    cases hentry.symm.trans hlink
    exact absurd rfl (hno target)

/-- **There is nothing beyond a file**: steps that lead to one do not lead on to a directory. -/
theorem Walks.not_beyond {follow : Bool} {budget : Nat} {place location : Location}
    {steps : List String} {spot : Spot} {bytes : ByteArray}
    (h : tree.Walks follow budget place steps spot) (hspot : spot = .entry location (.file bytes))
    {other : Bool} {less : Nat} {rest : List String} {directory : Location} :
    ¬ tree.Walks other less place (steps ++ rest) (.entry directory .directory) := by
  induction h generalizing less rest with
  | stop hplace =>
    cases hspot
    exact fun h => h.start_not_isFile hplace rfl
  | up _ _ ih => exact fun h => ih hspot h.of_up
  | vacant => cases hspot
  | link => cases hspot
  | through _ hup _ hlink _ _ ih =>
    intro h
    rw [List.cons_append] at h
    obtain ⟨less, -, h⟩ := h.of_through hup hlink
    rw [← List.append_assoc] at h
    exact ih hspot h
  | into _ hup _ hentry hno _ ih => exact fun h => ih hspot (h.of_into hup hentry hno)

/-- **No way to a directory goes through a link to a file.** -/
theorem Walks.without_link {follow : Bool} {budget : Nat} {place directory : Location}
    {steps : List String} {spot : Spot} (h : tree.Walks follow budget place steps spot)
    (hspot : spot = .entry directory .directory) {around : Location} {name target : String}
    (hlink : tree.get? (around ++ [name]) = some (.link target)) {less : Nat} {location : Location}
    {bytes : ByteArray} (hfile : tree.Walks true less (linkStart around target)
      (Path.ofText target).steps (.entry location (.file bytes))) :
    (tree.erase (around ++ [name])).Walks follow budget place steps (.entry directory .directory) := by
  have keeps {place : Location} {entry : Entry} (hentry : tree.get? place = some entry)
      (hno : ∀ target, entry ≠ .link target) :
      (tree.erase (around ++ [name])).get? place = some entry := by
    rw [get?_erase_of_ne]
    · exact hentry
    · rintro rfl
      exact hno target (Option.some.inj (hentry.symm.trans hlink))
  induction h with
  | stop hplace =>
    cases hspot
    exact .stop (keeps hplace nofun)
  | up hplace _ ih => exact .up (keeps hplace nofun) (ih hspot)
  | vacant => cases hspot
  | link => cases hspot
  | @through budget place step other rest spot hplace hup hshort hother hgo others ih =>
    refine .through (keeps hplace nofun) hup hshort ?_ hgo (ih hspot)
    rw [get?_erase_of_ne]
    · exact hother
    -- through this link, the way would lead beyond a file
    · intro heq
      obtain ⟨rfl, hname⟩ := List.append_inj' heq rfl
      rw [heq, hlink] at hother
      cases hother
      exact hfile.not_beyond rfl (hspot ▸ others)
  | into hplace hup hshort hentry hno _ ih =>
    exact .into (keeps hplace nofun) hup hshort (keeps hentry hno) hno (ih hspot)

end Tree

namespace Writer

open SchemaPress.Tree

variable {tree after : Tree} {path : Path} {bytes old : ByteArray} {location : Location}

/-- **What is written in place of a file is read again**: if the path led to a file, through links or not,
it leads to the content that was written to it. -/
theorem Wrote.readBytes (h : Wrote path bytes tree after)
    (hfind : tree.find path = .ok (location, .file old)) : after.readBytes path = .ok bytes := by
  obtain @⟨made, directory, hpaved, hmoved⟩ := h
  refine hmoved.readBytes fun target hlink hthrough => ?_
  have hfile := (find_eq_ok_iff.1 (find_sub hfind hpaved.kept)).2
  obtain ⟨haccepts, hparent⟩ := find_eq_ok_iff.1 hmoved.parent
  -- the last step goes through the link, which so leads to the file
  obtain ⟨less, reached, hfirst, hlast⟩ := hfile.of_append hmoved.steps (List.cons_ne_nil _ _)
  cases (walkFrom_of_walks hfirst).symm.trans (walkFrom_of_walks hparent)
  obtain ⟨fewer, htarget⟩ := hlast.of_last_link hmoved.up hlink
  exact hthrough directory (find_eq_ok_iff.2 ⟨haccepts, hparent.without_link rfl hlink htarget⟩)

end Writer

end SchemaPress
