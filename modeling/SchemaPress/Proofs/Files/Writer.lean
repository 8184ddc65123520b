import SchemaPress.Files.Writer
import SchemaPress.Proofs.Files.Task
import SchemaPress.Proofs.Files.Walk

/-!
# Writing is all or nothing

A file is written in stages: directories are made on the way to it, an empty temporary file is created, the
content is written to it and checked, and it is moved to its place. Each stage is one statement about the tree
before and after it.

* `Paved`: what making directories can do. Every entry stays, and what is new is a directory that
  some part of the path leads to (`paved_ensureDirectory`).
* `Created`: what creating an entry does. A vacant location gets it, nothing else changes, and the
  path leads to it afterwards (`created`). It may get another content (`Created.refill`), and whatever it
  holds, taking it away gives the tree before it.
* `Moved`: what moving the temporary file does.

`write_allOrNothing` puts them together. The content is found by the path of the file again, unless
the entry that was replaced is a link that the path to the directory itself goes through
(`LeadsThrough`): replaced by a file, it does not lead there any more (`write_through_link`).
-/

namespace SchemaPress

namespace Tree

variable {tree : Tree}

/-- Entries stand in directories. -/
def WellFormed (tree : Tree) : Prop :=
  ∀ directory name entry, tree.get? (directory ++ [name]) = some entry →
    tree.get? directory = some .directory

/-! ### Creating an entry -/

/-- **What creating an entry does.** -/
structure Created (tree : Tree) (path : Path) (entry : Entry) (after : Tree)
    (location : Location) : Prop where
  eq_set : after = tree.set location entry
  free : ∃ directory name, location = directory ++ [name] ∧
    tree.walk false path = .ok (.vacant directory name)

theorem Created.vacant {path : Path} {entry : Entry} {after : Tree} {location : Location}
    (h : Created tree path entry after location) : tree.get? location = none := by
  obtain ⟨directory, name, rfl, hwalk⟩ := h.free
  exact ((walk_eq_ok_iff.1 hwalk).2.get?_vacant rfl).2

theorem Created.parent {path : Path} {entry : Entry} {after : Tree} {location : Location}
    (h : Created tree path entry after location) :
    ∃ directory name, location = directory ++ [name] ∧ tree.get? directory = some .directory := by
  obtain ⟨directory, name, hlocation, hwalk⟩ := h.free
  exact ⟨directory, name, hlocation, ((walk_eq_ok_iff.1 hwalk).2.get?_vacant rfl).1⟩

/-- **The path leads to the entry** afterwards: all steps but the last lead to the same directory as before. -/
theorem Created.found {path : Path} {entry : Entry} {after : Tree} {location : Location}
    (h : Created tree path entry after location) :
    after.walk false path = .ok (.entry location entry) := by
  have hsub := sub_set h.vacant entry
  obtain ⟨directory, name, rfl, hwalk⟩ := h.free
  obtain ⟨haccepts, hwalks⟩ := walk_eq_ok_iff.1 hwalk
  rw [h.eq_set]
  exact walk_eq_ok_iff.2 ⟨haccepts, hwalks.fill hsub.keepsWays rfl (get?_set_self (by simp) entry)⟩

/-- Another entry may be created as well. -/
theorem Created.refill {path : Path} {entry : Entry} {after : Tree} {location : Location}
    (h : Created tree path entry after location) (other : Entry) :
    Created tree path other (tree.set location other) location :=
  ⟨rfl, h.free⟩

theorem Created.ne_nil {path : Path} {entry : Entry} {after : Tree} {location : Location}
    (h : Created tree path entry after location) : location ≠ [] := by
  rintro rfl
  exact absurd h.vacant nofun

theorem Created.get?_self {path : Path} {entry : Entry} {after : Tree} {location : Location}
    (h : Created tree path entry after location) : after.get? location = some entry := by
  rw [h.eq_set, get?_set_self h.ne_nil]

theorem Created.get?_of_ne {path : Path} {entry : Entry} {after : Tree} {location place : Location}
    (h : Created tree path entry after location) (hne : place ≠ location) :
    after.get? place = tree.get? place := by
  rw [h.eq_set, get?_set_of_ne hne]

theorem Created.sub {path : Path} {entry : Entry} {after : Tree} {location : Location}
    (h : Created tree path entry after location) : tree.Sub after := by
  rw [h.eq_set]
  exact sub_set h.vacant entry

theorem Created.wellFormed {path : Path} {entry : Entry} {after : Tree} {location : Location}
    (h : Created tree path entry after location) (hwf : tree.WellFormed) : after.WellFormed := by
  obtain ⟨directory, name, hlocation, hdirectory⟩ := h.parent
  intro place step found hfound
  by_cases hnew : place ++ [step] = location
  · have hplace : place = directory := by
      have := hnew.trans hlocation
      simpa using (List.append_inj' this rfl).1
    rw [hplace]
    exact h.sub _ _ hdirectory
  · rw [h.get?_of_ne hnew] at hfound
    exact h.sub _ _ (hwf place step found hfound)

/-- **Creating an entry** where nothing stood. -/
theorem created {path : Path} {entry : Entry} {after : Tree}
    (h : tree.create path entry = .ok after) :
    ∃ location, Created tree path entry after location := by
  unfold create at h
  cases hwalk : tree.walk false path with
  | error failure => rw [hwalk] at h; cases h
  | ok spot =>
    rw [hwalk] at h
    cases spot with
    | entry => cases h
    | vacant directory name =>
      obtain rfl := Except.ok.inj h
      exact ⟨directory ++ [name], rfl, directory, name, rfl, hwalk⟩

/-- A path leads to the entry that was created by it. -/
theorem Created.find {path : Path} {entry : Entry} {after : Tree} {location : Location}
    (h : Created tree path entry after location) (hno : ∀ target, entry ≠ .link target) :
    after.find path = .ok (location, entry) := by
  obtain ⟨haccepts, hwalks⟩ := walk_eq_ok_iff.1 h.found
  exact find_eq_ok_iff.2 ⟨haccepts, hwalks.following rfl hno⟩

/-! ### Directories on the way -/

/-- **What making directories on a path can do.** -/
structure Paved (path : Path) (tree after : Tree) : Prop where
  kept : tree.Sub after
  added : ∀ location entry, tree.get? location = none → after.get? location = some entry →
    entry = .directory ∧ ∃ above : Path, above.root = path.root ∧ above.steps <+: path.steps ∧
      after.find above = .ok (location, .directory)
  wellFormed : tree.WellFormed → after.WellFormed

theorem Paved.refl (path : Path) (tree : Tree) : Paved path tree tree where
  kept := .refl tree
  added := by
    intro location entry hnone hentry
    rw [hnone] at hentry
    cases hentry
  wellFormed := id

/-- First the directories above are made, then one more. -/
theorem Paved.created {path : Path} {middle after : Tree} {location : Location}
    (h : Paved path.parent tree middle) (hnew : Created middle path .directory after location) :
    Paved path tree after where
  kept := h.kept.trans hnew.sub
  added := by
    intro place entry hnone hentry
    by_cases hplace : place = location
    · subst hplace
      rw [hnew.get?_self] at hentry
      obtain rfl := Option.some.inj hentry
      exact ⟨rfl, path, rfl, List.prefix_rfl, hnew.find nofun⟩
    · rw [hnew.get?_of_ne hplace] at hentry
      obtain ⟨hdirectory, above, hroot, habove, hfind⟩ := h.added place entry hnone hentry
      exact ⟨hdirectory, above, hroot, habove.trans (List.dropLast_prefix _),
        find_mono hfind hnew.sub.keepsWays⟩
  wellFormed hwf := hnew.wellFormed (h.wellFormed hwf)

theorem Paved.of_parent {path : Path} {after : Tree} (h : Paved path.parent tree after) :
    Paved path tree after where
  kept := h.kept
  added := by
    intro location entry hnone hentry
    obtain ⟨hdirectory, above, hroot, habove, hfind⟩ := h.added location entry hnone hentry
    exact ⟨hdirectory, above, hroot, habove.trans (List.dropLast_prefix _), hfind⟩
  wellFormed := h.wellFormed

end Tree

/-! ### Making directories -/

open SchemaPress.Tree

variable {tree : Tree}

/-- What is left of a chain of operations that makes directories on a path. -/
structure Made (path : Path) (tree : Tree) (outcome : Except FileFailure Unit × Tree) : Prop where
  paved : Paved path tree outcome.2
  found : outcome.1 = .ok () → ∃ directory, outcome.2.find path = .ok (directory, .directory)

theorem find_of_leadsTo {path : Path}
    (h : tree.leadsTo (· = .directory) path = .ok true) :
    ∃ directory, tree.find path = .ok (directory, .directory) := by
  unfold leadsTo at h
  split at h
  · next location entry hfind =>
    have hentry : entry = .directory := of_decide_eq_true (Except.ok.inj h)
    exact ⟨location, hentry ▸ hfind⟩
  · cases h
  · split at h <;> cases h
  · cases h

/-- A failure is passed over only where the path leads to a directory, and nothing is changed. -/
theorem made_acceptDirectory {path : Path} {middle : Tree} (h : Paved path tree middle)
    (failure : FileFailure) : Made path tree ((acceptDirectory path failure).outcome middle) := by
  have refused : Made path tree (.error failure, middle) := ⟨h, nofun⟩
  have looked : Made path tree ((do
      if ← Task.look id (·.leadsTo (· = .directory) path) then return () else throw failure :
        Task FileFailure Unit).outcome middle) := by
    rw [Task.outcome_bind, Task.outcome_look]
    cases hleads : middle.leadsTo (· = .directory) path with
    | error cause => exact ⟨h, nofun⟩
    | ok found =>
      cases found with
      | true => exact ⟨h, fun _ => find_of_leadsTo hleads⟩
      | false => exact refused
  cases failure with
  | crash cause => exact refused
  | refused => exact looked
  | unmoved => exact looked

theorem made_makeDirectory {path : Path} {middle : Tree} (h : Paved path.parent tree middle) :
    Made path tree ((makeDirectory path).outcome middle) := by
  unfold makeDirectory
  rw [Task.outcome_bind_ok Task.outcome_get]
  cases hcreate : middle.create path .directory with
  | ok after =>
    obtain ⟨location, hnew⟩ := created hcreate
    exact ⟨h.created hnew, fun _ => ⟨location, hnew.find nofun⟩⟩
  | error failure =>
    cases failure with
    | refused refusal text =>
      cases refusal with
      | notFound => exact ⟨h.of_parent, nofun⟩
      | _ => exact made_acceptDirectory h.of_parent _
    | _ => exact made_acceptDirectory h.of_parent _

/-- **Making a directory and the ones above it** only adds directories on its path. -/
theorem made_ensureDirectory (path : Path) (tree : Tree) :
    Made path tree ((ensureDirectory path).outcome tree) := by
  induction path using ensureDirectory.induct generalizing tree with
  | case1 path ih =>
    have refl := Paved.refl path tree
    rw [ensureDirectory, Task.outcome_bind_ok Task.outcome_get]
    cases hcreate : tree.create path .directory with
    | ok after =>
      obtain ⟨location, hnew⟩ := created hcreate
      exact ⟨(Paved.refl path.parent tree).created hnew, fun _ => ⟨location, hnew.find nofun⟩⟩
    | error failure =>
      cases failure with
      | refused refusal text =>
        cases refusal with
        | notFound =>
          by_cases hsteps : path.steps = []
          · simp only [hsteps, dif_pos]
            exact ⟨refl, nofun⟩
          · simp only [hsteps, dif_neg, not_false_eq_true]
            -- the directories above first, then this one
            have habove := ih hsteps tree
            rw [Task.outcome_bind]
            cases houtcome : (ensureDirectory path.parent).outcome tree with
            | mk result middle =>
              rw [houtcome] at habove
              cases result with
              | error failure => exact ⟨habove.paved.of_parent, nofun⟩
              | ok => exact made_makeDirectory habove.paved
        | _ => exact made_acceptDirectory refl _
      | _ => exact made_acceptDirectory refl _

/-! ### The temporary file -/

namespace Writer

/-- The temporary file is created, or the tree is as it was. -/
theorem outcome_createTemporary (path : Path) (tries n : Nat) (tree : Tree) :
    (∃ failure, (createTemporary path tries n).outcome tree = (.error failure, tree)) ∨
    ∃ temporary after location,
      (createTemporary path tries n).outcome tree = (.ok temporary, after) ∧
      Created tree temporary (.file .empty) after location := by
  induction tries generalizing n with
  | zero => exact .inl ⟨_, rfl⟩
  | succ tries ih =>
    rw [createTemporary, Task.outcome_bind_ok Task.outcome_get]
    split
    · next after hcreate =>
      obtain ⟨location, hnew⟩ := created hcreate
      exact .inr ⟨_, after, location, rfl, hnew⟩
    -- the name is taken, so the next one is tried
    · exact ih (n + 1)
    · exact .inl ⟨_, rfl⟩

variable {temporary path : Path} {bytes : ByteArray} {staged : Tree} {location : Location}

/-- Bytes are written to the temporary file. -/
theorem overwrite_created (h : Created tree temporary (.file bytes) staged location)
    (others : ByteArray) :
    staged.overwrite temporary others = .ok (tree.set location (.file others)) := by
  unfold Tree.overwrite
  rw [h.found, ← set_set tree location (.file bytes), ← h.eq_set]
  rfl

/-- A temporary file can be taken away again. -/
theorem outcome_discard (h : Created tree temporary (.file bytes) staged location) :
    (discard temporary).outcome staged = (.ok (), tree.erase location) := by
  have hremove : staged.remove temporary = .ok (tree.erase location) := by
    unfold Tree.remove
    rw [h.found, ← erase_set tree location (.file bytes), ← h.eq_set]
    rfl
  unfold discard
  rw [Task.outcome_bind_ok Task.outcome_get, hremove]
  rfl

/-- Taking it away gives back the tree before it. -/
theorem get?_erase_created (h : Created tree temporary (.file bytes) staged location)
    (place : Location) : (tree.erase location).get? place = tree.get? place := by
  by_cases hplace : place = location
  · rw [hplace, get?_erase_self h.ne_nil, h.vacant]
  · rw [get?_erase_of_ne hplace]

/-! ### Moving it to its place -/

/-- **What moving the temporary file to its place does.** The place is in the directory that the path
without its last step leads to. -/
structure Moved (tree : Tree) (path : Path) (bytes : ByteArray) (after : Tree)
    (directory : Location) : Prop where
  parent : tree.find path.parent = .ok (directory, .directory)
  replaced : tree.get? (directory ++ [path.name]) ≠ some .directory
  file : after.get? (directory ++ [path.name]) = some (.file bytes)
  others : ∀ place, place ≠ directory ++ [path.name] → after.get? place = tree.get? place
  accepts : Accepts path
  steps : path.steps = path.parent.steps ++ [path.name]
  up : path.name ≠ ".."
  short : path.name.utf8ByteSize ≤ maxName

/-- An entry is moved to a place that has a file, a link, or nothing. -/
theorem move_eq_ok {source target : Path} {place : Location} {entry : Entry} {after : Tree}
    (hsource : staged.walk false source = .ok (.entry place entry))
    (h : staged.move source target = .ok after) :
    ∃ spot goal, staged.walk false target = .ok spot ∧ after = (staged.erase place).set goal entry ∧
      ((∃ old, spot = .entry goal old ∧ old ≠ .directory) ∨
        ∃ directory name, spot = .vacant directory name ∧ goal = directory ++ [name]) := by
  unfold move at h
  rw [hsource] at h
  cases htarget : staged.walk false target with
  | error failure => rw [htarget] at h; cases failure <;> cases h
  | ok spot =>
    rw [htarget] at h
    cases spot with
    | entry goal old =>
      cases old with
      | directory => cases h
      | _ => exact ⟨_, goal, rfl, (Except.ok.inj h).symm, .inl ⟨_, rfl, nofun⟩⟩
    | vacant directory name =>
      exact ⟨_, _, rfl, (Except.ok.inj h).symm, .inr ⟨directory, name, rfl, rfl⟩⟩

theorem moved {directory : Location} {after : Tree} (hwf : tree.WellFormed)
    (hparent : tree.find path.parent = .ok (directory, .directory))
    (hnew : Created tree temporary (.file bytes) staged location)
    (h : staged.move temporary path = .ok after) : Moved tree path bytes after directory := by
  obtain ⟨spot, goal, hwalk, rfl, hspot⟩ := move_eq_ok hnew.found h
  obtain ⟨haccepts, hwalks⟩ := walk_eq_ok_iff.1 hwalk
  -- a directory is not replaced, so the path has a last step and that does not go up
  have hfile (place : Location) (hplace : spot = .entry place .directory) : False := by
    rcases hspot with ⟨old, rfl, hold⟩ | ⟨_, _, rfl, -⟩
    · cases hplace
      exact hold rfl
    · cases hplace
  have hne : path.steps ≠ [] := by
    intro hnil
    rw [hnil] at hwalks
    cases hwalks with
    | stop hroot =>
      obtain rfl := Option.some.inj hroot
      exact hfile _ rfl
  have hsteps := steps_eq hne
  have hup : path.name ≠ ".." := by
    intro hname
    rw [hname] at hsteps
    obtain ⟨reached, entry, hreached, hentry, heq⟩ := hwalks.of_snoc_up hsteps
    -- entries stand in directories, so the one around a directory is one
    have hdirectory : entry = .directory := by
      rcases List.eq_nil_or_concat reached with rfl | ⟨above, name, rfl⟩
      · exact (Option.some.inj hentry).symm
      · rw [List.concat_eq_append] at hreached hentry
        have habove := hnew.wellFormed hwf above name _ hreached
        rw [List.dropLast_concat, habove] at hentry
        exact (Option.some.inj hentry).symm
    exact hfile _ (hdirectory ▸ heq)
  obtain ⟨hshort, reached, hreached, hlast⟩ := hwalks.of_snoc hsteps hup
  -- the directory is the one that the path led to before the temporary file was there
  obtain rfl : reached = directory := by
    have hbefore := find_mono hparent hnew.sub.keepsWays
    have hnow := find_eq_ok_iff.2 ⟨(find_eq_ok_iff.1 hparent).1, hreached⟩
    cases hbefore.symm.trans hnow
    rfl
  obtain rfl : goal = reached ++ [path.name] := by
    cases hlast with
    | entry =>
      rcases hspot with ⟨old, heq, -⟩ | ⟨_, _, heq, -⟩
      · cases heq
        rfl
      · cases heq
    | vacant =>
      rcases hspot with ⟨old, heq, -⟩ | ⟨_, _, heq, hgoal⟩
      · cases heq
      · cases heq
        exact hgoal
  refine ⟨hparent, fun hdirectory => ?_, get?_set_self (by simp) _, fun place hplace => ?_, haccepts,
    hsteps, hup, hshort⟩
  · have hstaged := hnew.sub _ _ hdirectory
    cases hlast with
    | entry hentry =>
      rw [hstaged] at hentry
      obtain rfl := Option.some.inj hentry
      exact hfile _ rfl
    | vacant hnone =>
      rw [hstaged] at hnone
      cases hnone
  · rw [get?_set_of_ne hplace, hnew.eq_set, erase_set, get?_erase_created hnew]

/-- The file stands in the directory, and what it stands for was no directory. -/
theorem Moved.wellFormed {after : Tree} {directory : Location} (hwf : tree.WellFormed)
    (h : Moved tree path bytes after directory) : after.WellFormed := by
  have keeps {place : Location} (hdirectory : tree.get? place = some .directory) :
      after.get? place = some .directory := by
    by_cases hgoal : place = directory ++ [path.name]
    · rw [hgoal] at hdirectory
      exact absurd hdirectory h.replaced
    · rw [h.others place hgoal]
      exact hdirectory
  intro place name entry hentry
  by_cases hgoal : place ++ [name] = directory ++ [path.name]
  · obtain ⟨rfl, -⟩ := List.append_inj' hgoal rfl
    exact keeps ((find_eq_ok_iff.1 h.parent).2.get?_entry rfl)
  · rw [h.others _ hgoal] at hentry
    exact keeps (hwf place name entry hentry)

end Writer

/-! ### Reading the file again -/

/-- **The way to a path goes through an entry**: with the entry taken away, the path leads to no
directory. -/
def Tree.LeadsThrough (tree : Tree) (path : Path) (location : Location) : Prop :=
  ∀ directory, (tree.erase location).find path ≠ .ok (directory, .directory)

namespace Writer

variable {path : Path} {bytes : ByteArray} {after : Tree} {directory : Location}

/-- The path to the directory leads there still, unless it went through a link that was replaced. -/
theorem Moved.find_parent (h : Moved tree path bytes after directory)
    (hlink : ∀ target, tree.get? (directory ++ [path.name]) = some (.link target) →
      ¬ tree.LeadsThrough path.parent (directory ++ [path.name])) :
    after.find path.parent = .ok (directory, .directory) := by
  by_cases hgoal : ∃ target, tree.get? (directory ++ [path.name]) = some (.link target)
  · obtain ⟨target, htarget⟩ := hgoal
    obtain ⟨reached, hreached⟩ := Classical.not_forall.1 (hlink target htarget)
    have hreached := Classical.not_not.1 hreached
    -- without the link the path leads to the same directory, on a way that is kept
    have hsame := find_mono hreached (erase_sub tree (by simp)).keepsWays
    rw [h.parent] at hsame
    cases hsame
    refine find_mono hreached fun place entry hentry _ => ?_
    by_cases hplace : place = directory ++ [path.name]
    · rw [hplace, get?_erase_self (by simp)] at hentry
      cases hentry
    · rw [get?_erase_of_ne hplace] at hentry
      rw [h.others place hplace]
      exact hentry
  · refine find_mono h.parent fun place entry hentry hfile => ?_
    by_cases hplace : place = directory ++ [path.name]
    · subst hplace
      cases entry with
      | file old => cases hfile
      | unreadable old => cases hfile
      | directory => exact absurd hentry h.replaced
      | link target => exact absurd ⟨target, hentry⟩ hgoal
    · rw [h.others place hplace]
      exact hentry

theorem Moved.readBytes (h : Moved tree path bytes after directory)
    (hlink : ∀ target, tree.get? (directory ++ [path.name]) = some (.link target) →
      ¬ tree.LeadsThrough path.parent (directory ++ [path.name])) :
    after.readBytes path = .ok bytes := by
  obtain ⟨-, hparent⟩ := find_eq_ok_iff.1 (h.find_parent hlink)
  have hwalk := hparent.snoc rfl h.up h.short (.entry h.file)
  rw [← h.steps] at hwalk
  have hfind := find_eq_ok_iff.2 ⟨h.accepts, hwalk.following rfl nofun⟩
  unfold Tree.readBytes
  rw [hfind]
  rfl

/-! ### All stages -/

/-- What comes of a temporary file that was created at a location: the content is written to it and checked, and
it is moved to its place. -/
def settle (tree : Tree) (location : Location) (temporary path : Path) (content : Content)
    (check : Except WriteFailure Unit) : Except WriteFailure Tree := do
  let bytes ← content.encode.mapError .file
  check
  ((tree.set location (.file bytes)).move temporary path).mapError .file

variable {content : Content} {check : Except WriteFailure Unit}

/-- It is settled only for a text that has passed its check. -/
theorem settle_eq_ok {after : Tree} (h : settle tree location temporary path content check = .ok after) :
    ∃ text, content = .plain text ∧ check = .ok () ∧
      (tree.set location (.file text.toUTF8)).move temporary path = .ok after := by
  unfold settle at h
  cases content with
  | unencodable => cases h
  | plain text =>
    cases check with
    | error failure => cases h
    | ok =>
      change ((tree.set location (.file text.toUTF8)).move temporary path).mapError
        WriteFailure.file = .ok after at h
      cases hmove : (tree.set location (.file text.toUTF8)).move temporary path with
      | error failure => rw [hmove] at h; cases h
      | ok moved =>
        rw [hmove] at h
        exact ⟨text, rfl, rfl, hmove.trans (congrArg Except.ok (Except.ok.inj h))⟩

/-- What is left when the temporary file was created: it is settled, or it is taken away again, whatever it
holds by then. -/
theorem outcome_settle (hnew : Created tree temporary (.file .empty) staged location) :
    (tryCatch
      (do
        let bytes ← Task.ofExcept .file content.encode
        Task.change .file (·.overwrite temporary bytes)
        Task.ofExcept id check
        Task.change .file (·.move temporary path))
      fun failure => do
        Task.wrapFailure .file (discard temporary)
        throw failure : Task WriteFailure Unit).outcome staged =
      match settle tree location temporary path content check with
      | .ok after => (.ok (), after)
      | .error failure => (.error failure, tree.erase location) := by
  have hdiscard {middle : Tree} {bytes : ByteArray}
      (h : Created tree temporary (.file bytes) middle location) (failure : WriteFailure) : (do
      Task.wrapFailure .file (discard temporary)
      throw failure : Task WriteFailure Unit).outcome middle =
        (.error failure, tree.erase location) := by
    rw [Task.outcome_bind, Task.outcome_wrapFailure, outcome_discard h]
    rfl
  unfold settle
  rw [Task.outcome_tryCatch, Task.outcome_bind, Task.outcome_ofExcept]
  cases content with
  | unencodable => exact hdiscard hnew _
  | plain text =>
    have hfilled := hnew.refill (.file text.toUTF8)
    simp only [Content.encode, Task.mapError_ok]
    rw [Task.outcome_bind, Task.outcome_change, overwrite_created hnew]
    simp only
    rw [Task.outcome_bind, Task.outcome_ofExcept]
    cases check with
    | error failure => exact hdiscard hfilled failure
    | ok =>
      simp only [Task.mapError_ok, Task.outcome_change, Task.ok_bind]
      cases (tree.set location (.file text.toUTF8)).move temporary path with
      | ok after => rfl
      | error failure => exact hdiscard hfilled (.file failure)

/-- **What a write comes to.** Directories are made on the way; then either a text is moved to its place, or
everything is as it was after that. -/
theorem outcome_write (hwf : tree.WellFormed) (path : Path) (content : Content)
    (check : Except WriteFailure Unit) :
    ∃ made result written, (write path content check).outcome tree = (result, written) ∧
      Paved path.parent tree made ∧
      ((result = .ok () ∧ check = .ok () ∧ ∃ text directory, content = .plain text ∧
          Moved made path text.toUTF8 written directory) ∨
        ∃ failure, result = .error failure ∧ ∀ place, written.get? place = made.get? place) := by
  unfold write
  rw [Task.outcome_bind, Task.outcome_wrapFailure]
  have hmade := made_ensureDirectory path.parent tree
  cases hensure : (ensureDirectory path.parent).outcome tree with
  | mk result made =>
    rw [hensure] at hmade
    cases result with
    | error failure => exact ⟨made, _, made, rfl, hmade.paved, .inr ⟨_, rfl, fun _ => rfl⟩⟩
    | ok =>
      obtain ⟨directory, hparent⟩ := hmade.found rfl
      simp only [Task.mapError_ok]
      rw [Task.outcome_bind_ok Task.outcome_get, Task.outcome_bind, Task.outcome_wrapFailure]
      rcases outcome_createTemporary path (made.entries.length + 1) 0 made with
        ⟨failure, hcreate⟩ | ⟨temporary, staged, location, hcreate, hnew⟩
      · rw [hcreate]
        exact ⟨made, _, made, rfl, hmade.paved, .inr ⟨_, rfl, fun _ => rfl⟩⟩
      · rw [hcreate]
        simp only [Task.mapError_ok]
        rw [outcome_settle hnew]
        cases hsettle : settle made location temporary path content check with
        | error failure =>
          exact ⟨made, _, _, rfl, hmade.paved, .inr ⟨failure, rfl, get?_erase_created hnew⟩⟩
        | ok written =>
          obtain ⟨text, hcontent, hcheck, hmove⟩ := settle_eq_ok hsettle
          exact ⟨made, _, written, rfl, hmade.paved, .inl ⟨rfl, hcheck, text, directory, hcontent,
            moved (hmade.paved.wellFormed hwf) hparent (hnew.refill _) hmove⟩⟩

/-- **Where a text can be written**, one with half of a surrogate pair is refused once its temporary file is
there, and everything is as it was when that is taken away. -/
theorem outcome_write_unencodable {path : Path} {text : String} {check : Except WriteFailure Unit}
    (other : Except WriteFailure Unit) {after : Tree} (h : (write path (.plain text) check).outcome tree = (.ok (), after)) :
    ∃ made written, (write path .unencodable other).outcome tree =
        (.error (.file (.crash .unencodable)), written) ∧
      Paved path.parent tree made ∧ ∀ place, written.get? place = made.get? place := by
  unfold write at h ⊢
  rw [Task.outcome_bind, Task.outcome_wrapFailure] at h ⊢
  have hmade := made_ensureDirectory path.parent tree
  cases hensure : (ensureDirectory path.parent).outcome tree with
  | mk result made =>
    rw [hensure] at h hmade
    cases result with
    | error failure => cases h
    | ok =>
      simp only [Task.mapError_ok] at h ⊢
      rw [Task.outcome_bind_ok Task.outcome_get, Task.outcome_bind, Task.outcome_wrapFailure] at h ⊢
      rcases outcome_createTemporary path (made.entries.length + 1) 0 made with
        ⟨failure, hcreate⟩ | ⟨temporary, staged, location, hcreate, hnew⟩
      · rw [hcreate] at h
        cases h
      · rw [hcreate]
        simp only [Task.mapError_ok]
        rw [outcome_settle hnew]
        exact ⟨made, _, rfl, hmade.paved, get?_erase_created hnew⟩

/-- **Writing is all or nothing.** It may add directories on the way to the path; apart from those,
a write that fails changes nothing, and one that succeeds only gives the place in the directory that
the path leads to, which was no directory, the content. The path leads to it then, unless a link was
replaced that the path goes through to come to the directory. -/
theorem write_allOrNothing (hwf : tree.WellFormed) (path : Path) (content : Content)
    (check : Except WriteFailure Unit) :
    ∃ made result written, (write path content check).outcome tree = (result, written) ∧
      Paved path.parent tree made ∧
      ((result = .ok () ∧ ∃ text directory, content = .plain text ∧
          made.find path.parent = .ok (directory, .directory) ∧
          made.get? (directory ++ [path.name]) ≠ some .directory ∧
          written.get? (directory ++ [path.name]) = some (.file text.toUTF8) ∧
          (∀ place, place ≠ directory ++ [path.name] → written.get? place = made.get? place) ∧
          ((∀ target, made.get? (directory ++ [path.name]) = some (.link target) →
              ¬ made.LeadsThrough path.parent (directory ++ [path.name])) →
            written.readBytes path = .ok text.toUTF8)) ∨
        ∃ failure, result = .error failure ∧ ∀ place, written.get? place = made.get? place) := by
  obtain ⟨made, result, written, houtcome, hpaved, ⟨hok, -, text, directory, hcontent, h⟩ | hfailed⟩ :=
    outcome_write hwf path content check
  · exact ⟨made, result, written, houtcome, hpaved, .inl ⟨hok, text, directory, hcontent, h.parent,
      h.replaced, h.file, h.others, h.readBytes⟩⟩
  · exact ⟨made, result, written, houtcome, hpaved, .inr hfailed⟩

/-! ### A link that the path goes through -/

/-- A directory with a link to itself. -/
def looped : Tree := ⟨[(["a"], .link ".")]⟩

/-- The path of the link, by way of the link. -/
def throughLoop : Path := ⟨"/", ["a", "a"]⟩

/-- The path of its temporary file. -/
def loopTemporary : Path := ⟨"/", ["a", ".a.00000000.tmp"]⟩

theorem wellFormed_looped : looped.WellFormed := by
  intro directory name entry hentry
  -- the one entry stands in the root
  by_cases hlocation : directory ++ [name] = [] ++ ["a"]
  · rw [(List.append_inj' hlocation rfl).1]
    rfl
  · have hne : (directory ++ [name] == ["a"]) = false := by simpa using hlocation
    simp [Tree.get?, looped, List.lookup_cons, hne] at hentry

/-- A step to the link leads back to the directory. -/
theorem walks_loop {tree : Tree} {follow : Bool} {budget : Nat} {rest : List String} {spot : Spot}
    (hlink : tree.get? ["a"] = some (.link ".")) (hgo : rest ≠ [] ∨ follow = true)
    (h : tree.Walks follow budget [] rest spot) :
    tree.Walks follow (budget + 1) [] ("a" :: rest) spot := by
  have hstart : linkStart [] "." = [] := by decide +kernel
  have hsteps : (Path.ofText ".").steps = [] := by decide +kernel
  refine .through rfl (by decide) (by decide) hlink hgo ?_
  rw [hstart, hsteps]
  exact h

theorem find_loop : looped.find throughLoop.parent = .ok ([], .directory) :=
  find_eq_ok_iff.2 ⟨⟨by decide +kernel, by decide +kernel⟩, walks_loop rfl (.inr rfl) (.stop rfl)⟩

/-- The directory is there, by way of the link. -/
theorem outcome_ensureDirectory_loop :
    (ensureDirectory throughLoop.parent).outcome looped = (.ok (), looped) := by
  have hwalk : looped.walk false throughLoop.parent = .ok (.entry ["a"] (.link ".")) :=
    walk_eq_ok_iff.2 ⟨⟨by decide +kernel, by decide +kernel⟩,
      .link rfl (by decide) (by decide) rfl rfl⟩
  have hcreate : looped.create throughLoop.parent .directory =
      .error (.refused .alreadyThere throughLoop.parent.text) := by
    unfold create
    rw [hwalk]
    rfl
  have hleads : looped.leadsTo (· = .directory) throughLoop.parent = .ok true := by
    unfold leadsTo
    rw [find_loop]
    rfl
  rw [ensureDirectory, Task.outcome_bind_ok Task.outcome_get, hcreate]
  change (acceptDirectory _ _).outcome looped = _
  unfold acceptDirectory
  simp only
  rw [Task.outcome_bind, Task.outcome_look, hleads]
  rfl

/-- The temporary file is created in the directory, moved to the link, and replaces it. -/
theorem exists_written_loop : ∃ written,
    (write throughLoop (.plain "{}") (.ok ())).outcome looped = (.ok (), written) ∧
    written.get? ["a"] = some (.file "{}".toUTF8) := by
  have hplace : throughLoop.parent.normalized.join ⟨"", [temporaryName throughLoop.name 0]⟩ =
      loopTemporary := by decide +kernel
  have hvacant : looped.walk false loopTemporary = .ok (.vacant [] ".a.00000000.tmp") :=
    walk_eq_ok_iff.2 ⟨⟨by decide +kernel, by decide +kernel⟩,
      walks_loop rfl (.inl nofun) (.vacant rfl (by decide) (by decide) (by decide +kernel))⟩
  have hnew (entry : Entry) : Created looped loopTemporary entry
      (looped.set [".a.00000000.tmp"] entry) [".a.00000000.tmp"] := ⟨rfl, [], _, rfl, hvacant⟩
  have htemporary :
      (createTemporary throughLoop (looped.entries.length + 1) 0).outcome looped =
        (.ok loopTemporary, looped.set [".a.00000000.tmp"] (.file .empty)) := by
    have hcreate : looped.create loopTemporary (.file .empty) =
        .ok (looped.set [".a.00000000.tmp"] (.file .empty)) := by
      unfold create
      rw [hvacant]
      rfl
    rw [createTemporary, Task.outcome_bind_ok Task.outcome_get, hplace, hcreate]
    rfl
  -- the file with the content is moved to the link
  generalize hstaged : looped.set [".a.00000000.tmp"] (.file "{}".toUTF8) = staged
  have hlink : staged.get? ["a"] = some (.link ".") := by
    rw [← hstaged, get?_set_of_ne (by decide)]
    rfl
  have htarget : staged.walk false throughLoop = .ok (.entry ["a"] (.link ".")) :=
    walk_eq_ok_iff.2 ⟨⟨by decide +kernel, by decide +kernel⟩,
      walks_loop hlink (.inl nofun) (.link rfl (by decide) (by decide) hlink rfl)⟩
  have hfound := (hnew (.file "{}".toUTF8)).found
  rw [hstaged] at hfound
  have hsettle : settle looped [".a.00000000.tmp"] loopTemporary throughLoop (.plain "{}") (.ok ()) =
      .ok ((staged.erase [".a.00000000.tmp"]).set ["a"] (.file "{}".toUTF8)) := by
    change ((looped.set [".a.00000000.tmp"] (.file "{}".toUTF8)).move _ _).mapError _ = _
    unfold move
    rw [hstaged, hfound, htarget]
    rfl
  refine ⟨(staged.erase [".a.00000000.tmp"]).set ["a"] (.file "{}".toUTF8), ?_,
    get?_set_self (by simp) _⟩
  unfold write
  rw [Task.outcome_bind, Task.outcome_wrapFailure, outcome_ensureDirectory_loop]
  simp only [Task.mapError_ok]
  rw [Task.outcome_bind_ok Task.outcome_get, Task.outcome_bind, Task.outcome_wrapFailure]
  rw [htemporary]
  simp only [Task.mapError_ok]
  rw [outcome_settle (hnew _), hsettle]

/-- Writing to the link gives its place the content and leaves all other entries. -/
theorem write_allOrNothing_link :
    looped.WellFormed ∧ ∃ written,
      (write throughLoop (.plain "{}") (.ok ())).outcome looped = (.ok (), written) ∧
      written.get? ["a"] = some (.file "{}".toUTF8) ∧
      ∀ place entry, place ≠ ["a"] → looped.get? place = some entry →
        written.get? place = some entry := by
  obtain ⟨made, result, written, houtcome, hpaved, hcases⟩ :=
    write_allOrNothing wellFormed_looped throughLoop (.plain "{}") (.ok ())
  obtain ⟨found, hfound, -⟩ := exists_written_loop
  cases houtcome.symm.trans hfound
  rcases hcases with ⟨-, text, directory, hcontent, hparent, -, hfile, hothers, -⟩ |
    ⟨failure, hfailure, -⟩
  · cases hcontent
    -- the directories on the way are there, so the path leads where it led before
    have hbefore := find_mono find_loop hpaved.kept.keepsWays
    rw [hparent] at hbefore
    cases hbefore
    refine ⟨wellFormed_looped, written, hfound, hfile, fun place entry hplace hentry => ?_⟩
    rw [hothers place hplace]
    exact hpaved.kept place entry hentry
  · cases hfailure

/-- **The content is not found by its path** where the link that was replaced is on the way: the file
in its place is no directory. -/
theorem write_through_link :
    looped.WellFormed ∧ ∃ written,
      (write throughLoop (.plain "{}") (.ok ())).outcome looped = (.ok (), written) ∧
      written.readBytes throughLoop = .error (.refused .notDirectory "/a/a") := by
  obtain ⟨written, houtcome, hfile⟩ := exists_written_loop
  refine ⟨wellFormed_looped, written, houtcome, ?_⟩
  have hwalk : written.walkFrom true maxLinks [] throughLoop.steps = .error .notDirectory := by
    change written.walkFrom true maxLinks [] ["a", "a"] = _
    rw [walkFrom_cons (get?_nil written) (by decide) (by decide), List.nil_append, hfile]
    simp only
    rw [walkFrom, hfile]
    simp
  unfold Tree.readBytes find walk
  rw [hwalk, if_neg (by decide +kernel), if_neg (by decide +kernel)]
  exact congrArg (fun text => Except.error (FileFailure.refused .notDirectory text))
    (by decide +kernel)

end Writer

end SchemaPress
