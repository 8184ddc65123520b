import SchemaPress.Proofs.Files.Touched
import SchemaPress.Proofs.Json.Number

/-!
# When a write succeeds

A file is written without failure exactly where its name and the names of the temporary files that are
tried fit, a temporary file is vacant among them, and no directory is in its place (`Writable`). So a
path that can be written in one tree can be written in any tree with the same directories and the same
temporary files (`Writable.transfer`).
-/

namespace SchemaPress

open SchemaPress.Tree

variable {tree other : Tree}

/-! ### Walks along locations -/

namespace Tree

/-- A name that the system takes. -/
def Short (name : String) : Prop :=
  name.utf8ByteSize ≤ maxName

/-- A walk comes to locations with short names only. -/
theorem Walks.short (hlinks : tree.NoLinks) {follow : Bool} {budget : Nat} {place location : Location}
    {steps : List String} {spot : Spot} {entry : Entry}
    (h : tree.Walks follow budget place steps spot) (hspot : spot = .entry location entry)
    (hplace : ∀ name ∈ place, Short name) : ∀ name ∈ location, Short name := by
  induction h with
  | stop =>
    cases hspot
    exact hplace
  | up _ _ ih => exact ih hspot fun name hname => hplace name (List.dropLast_subset _ hname)
  | vacant => cases hspot
  | link _ _ _ hlink => exact absurd hlink (hlinks _ _)
  | through _ _ _ hlink => exact absurd hlink (hlinks _ _)
  | into _ _ hshort _ _ _ ih =>
    refine ih hspot fun name hname => ?_
    rcases List.mem_append.1 hname with hname | hname
    · exact hplace name hname
    · obtain rfl := List.mem_singleton.1 hname
      exact hshort

/-- Everything above an entry is a directory. -/
theorem WellFormed.of_append (hwf : tree.WellFormed) {before behind : Location} {entry : Entry}
    (h : tree.get? (before ++ behind) = some entry) (hne : behind ≠ []) :
    tree.get? before = some .directory := by
  induction behind using List.reverseRecOn generalizing entry with
  | nil => exact absurd rfl hne
  | append_singleton rest name ih =>
    rw [← List.append_assoc] at h
    have habove := hwf _ name entry h
    by_cases hrest : rest = []
    · subst hrest
      rw [List.append_nil] at habove
      exact habove
    · exact ih habove hrest

/-- The names of a location lead to its entry. -/
theorem walks_of_get? (hwf : tree.WellFormed) (hlinks : tree.NoLinks) (follow : Bool) (budget : Nat)
    {before behind : Location} {entry : Entry} (hup : ".." ∉ behind)
    (hshort : ∀ name ∈ behind, Short name) (h : tree.get? (before ++ behind) = some entry) :
    tree.Walks follow budget before behind (.entry (before ++ behind) entry) := by
  induction behind generalizing before with
  | nil =>
    rw [List.append_nil] at h ⊢
    exact .stop h
  | cons name rest ih =>
    have hplace := hwf.of_append h (List.cons_ne_nil _ _)
    have hsplit : before ++ name :: rest = (before ++ [name]) ++ rest := by simp
    rw [hsplit] at h ⊢
    obtain ⟨found, hfound⟩ : ∃ found, tree.get? (before ++ [name]) = some found := by
      by_cases hrest : rest = []
      · subst hrest
        rw [List.append_nil] at h
        exact ⟨entry, h⟩
      · exact ⟨_, hwf.of_append h hrest⟩
    refine .into hplace (fun heq => hup (heq ▸ List.mem_cons_self))
      (hshort name List.mem_cons_self) hfound (fun target heq => hlinks _ target (heq ▸ hfound)) ?_
    exact ih (fun hmem => hup (List.mem_cons_of_mem _ hmem))
      (fun other hother => hshort other (List.mem_cons_of_mem _ hother)) h

/-- A directory is found by its location as well. -/
theorem walks_normalized (hwf : tree.WellFormed) (hlinks : tree.NoLinks) {path : Path}
    {location : Location} {entry : Entry} (h : tree.find path = .ok (location, entry)) :
    tree.Walks true maxLinks [] path.normalized.steps (.entry location entry) := by
  obtain ⟨rfl, hget⟩ := find_place hlinks h
  have hshort := (find_eq_ok_iff.1 h).2.short hlinks rfl nofun
  exact walks_of_get? hwf hlinks true maxLinks path.up_not_mem_place hshort
    (by rw [List.nil_append]; exact hget)

end Tree

/-! ### Entries -/

theorem Tree.mem_entries_of_get? {location : Location} {entry : Entry} (hne : location ≠ [])
    (h : tree.get? location = some entry) : (location, entry) ∈ tree.entries := by
  unfold get? at h
  rw [if_neg (by simpa using hne)] at h
  obtain ⟨before, after, hentries, -⟩ := List.lookup_eq_some_iff.1 h
  rw [hentries]
  exact List.mem_append_right _ List.mem_cons_self

/-- A tree is well-formed if every entry that is listed stands in a directory. -/
theorem Tree.wellFormed_of_entries
    (h : ∀ entry ∈ tree.entries, tree.get? entry.1.dropLast = some .directory) :
    tree.WellFormed := by
  intro place name entry hentry
  have hparent := h _ (mem_entries_of_get? (by simp) hentry)
  rw [List.dropLast_concat] at hparent
  exact hparent

theorem Tree.noLinks_of_entries (h : ∀ entry ∈ tree.entries, ∀ target, entry.2 ≠ .link target) :
    tree.NoLinks := by
  intro location target hlink
  refine h _ (mem_entries_of_get? ?_ hlink) target rfl
  rintro rfl
  cases hlink

/-! ### Paths that fit -/

/-- **A path that the system takes**, its name included. -/
structure Path.Fits (path : Path) : Prop where
  accepts : Accepts path
  short : Tree.Short path.name

instance (path : Path) : Decidable path.Fits :=
  decidable_of_iff (path.hasNul = false ∧ path.text.utf8ByteSize ≤ maxPath ∧
      path.name.utf8ByteSize ≤ maxName)
    ⟨fun ⟨hnul, hpath, hname⟩ => ⟨⟨hnul, hpath⟩, hname⟩,
      fun ⟨⟨hnul, hpath⟩, hname⟩ => ⟨hnul, hpath, hname⟩⟩

theorem Tree.walk_child_iff (hlinks : tree.NoLinks) {path : Path} {directory : Location}
    (hparent : tree.Walks true maxLinks [] path.parent.steps (.entry directory .directory))
    (hsteps : path.steps ≠ []) (hup : path.name ≠ "..") (follow : Bool) {spot : Spot} :
    tree.walk follow path = .ok spot ↔ path.Fits ∧ spot = tree.spotAt directory path.name := by
  rw [walk_child hlinks hparent hsteps hup]
  constructor
  · intro h
    split at h
    · cases h
    · next hnul =>
      split at h
      · cases h
      · next hlong =>
        split at h
        · cases h
        · next hshort =>
          exact ⟨⟨⟨by simpa using hnul, Nat.not_lt.1 hlong⟩, Nat.not_lt.1 hshort⟩,
            (Except.ok.inj h).symm⟩
  · rintro ⟨⟨⟨hnul, hlong⟩, hshort⟩, rfl⟩
    rw [if_neg (by simp [hnul]), if_neg (Nat.not_lt.2 hlong), if_neg (Nat.not_lt.2 hshort)]

namespace Writer

/-- The path of a temporary file. -/
def temporary (path : Path) (n : Nat) : Path :=
  path.parent.normalized.join ⟨"", [temporaryName path.name n]⟩

theorem steps_temporary (path : Path) (n : Nat) :
    (temporary path n).steps = path.parent.normalized.steps ++ [temporaryName path.name n] := rfl

theorem name_temporary (path : Path) (n : Nat) :
    (temporary path n).name = temporaryName path.name n := by
  unfold Path.name
  rw [steps_temporary, List.getLast?_concat, Option.getD_some]
  rfl

theorem parent_temporary (path : Path) (n : Nat) :
    (temporary path n).parent.steps = path.parent.normalized.steps := by
  change (temporary path n).steps.dropLast = _
  rw [steps_temporary, List.dropLast_concat]

theorem temporaryName_ne_up (name : String) (n : Nat) : temporaryName name n ≠ ".." := by
  intro heq
  have htoList := congrArg (fun name => name.toList.getLast?) heq
  unfold temporaryName at htoList
  simp only [String.toList_append] at htoList
  rw [List.getLast?_append_of_ne_nil _ (by decide)] at htoList
  exact absurd htoList (by decide)

/-- Numbers tell temporary names apart: the digits of a name make its number. -/
theorem temporaryName_inj {name : String} {m n : Nat}
    (h : temporaryName name m = temporaryName name n) : m = n := by
  have hvalue (k : Nat) : Json.digitsValue (serial k).toList = k := by
    unfold serial
    rw [String.toList_ofList, Json.digitsValue_append, Json.digitsValue_replicate,
      Json.digitsValue_toDigits, Nat.zero_mul, Nat.zero_add]
  have hserial : (serial m).toList = (serial n).toList := by
    have hlist := congrArg String.toList h
    unfold temporaryName at hlist
    simp only [String.toList_append] at hlist
    exact List.append_cancel_left (List.append_cancel_right hlist)
  rw [← hvalue m, hserial, hvalue n]

/-! ### The temporary file -/

/-- **The temporary file that is taken**: all numbers before it are in use, all of them fit, and it is
vacant. -/
structure Vacant (tree : Tree) (path : Path) (directory : Location) (start n : Nat) : Prop where
  le : start ≤ n
  fits : ∀ m, start ≤ m → m ≤ n → (temporary path m).Fits
  taken : ∀ m, start ≤ m → m < n → tree.get? (directory ++ [temporaryName path.name m]) ≠ none
  vacant : tree.get? (directory ++ [temporaryName path.name n]) = none

variable {path : Path} {directory : Location}

/-- A temporary file that fits is created where it is vacant. -/
theorem created_temporary (hlinks : tree.NoLinks)
    (hparent : tree.Walks true maxLinks [] path.parent.normalized.steps
      (.entry directory .directory)) {n : Nat} (hfits : (temporary path n).Fits)
    (hnone : tree.get? (directory ++ [temporaryName path.name n]) = none) (entry : Entry) :
    Created tree (temporary path n) entry
      (tree.set (directory ++ [temporaryName path.name n]) entry)
      (directory ++ [temporaryName path.name n]) := by
  rw [← parent_temporary path n] at hparent
  have hname := name_temporary path n
  have hsteps : (temporary path n).steps ≠ [] := by
    rw [steps_temporary]
    simp
  have hup : (temporary path n).name ≠ ".." := by
    rw [hname]
    exact temporaryName_ne_up path.name n
  refine ⟨rfl, directory, _, rfl,
    (walk_child_iff hlinks hparent hsteps hup false).2 ⟨hfits, ?_⟩⟩
  rw [hname, spotAt, hnone]

/-- **Creating one temporary file**: it is vacant, or taken, or does not fit. -/
theorem create_temporary (hlinks : tree.NoLinks)
    (hparent : tree.Walks true maxLinks [] path.parent.normalized.steps
      (.entry directory .directory)) (n : Nat) :
    ((temporary path n).Fits ∧ tree.get? (directory ++ [temporaryName path.name n]) = none ∧
      tree.create (temporary path n) (.file .empty) =
        .ok (tree.set (directory ++ [temporaryName path.name n]) (.file .empty))) ∨
    ((temporary path n).Fits ∧ tree.get? (directory ++ [temporaryName path.name n]) ≠ none ∧
      ∃ text, tree.create (temporary path n) (.file .empty) =
        .error (.refused .alreadyThere text)) ∨
    (¬ (temporary path n).Fits ∧ ∃ failure,
      tree.create (temporary path n) (.file .empty) = .error failure ∧
        ∀ text, failure ≠ .refused .alreadyThere text) := by
  rw [← parent_temporary path n] at hparent
  have hname := name_temporary path n
  have hsteps : (temporary path n).steps ≠ [] := by
    rw [steps_temporary]
    simp
  have hup : (temporary path n).name ≠ ".." := by
    rw [hname]
    exact temporaryName_ne_up path.name n
  unfold create
  by_cases hfits : (temporary path n).Fits
  · rw [(walk_child_iff hlinks hparent hsteps hup false).2 ⟨hfits, rfl⟩, hname]
    unfold spotAt
    cases hget : tree.get? (directory ++ [temporaryName path.name n]) with
    | none => exact .inl ⟨hfits, rfl, rfl⟩
    | some entry => exact .inr (.inl ⟨hfits, nofun, _, rfl⟩)
  · refine .inr (.inr ⟨hfits, ?_⟩)
    cases hwalk : tree.walk false (temporary path n) with
    | ok spot => exact absurd ((walk_child_iff hlinks hparent hsteps hup false).1 hwalk).1 hfits
    | error failure =>
      refine ⟨failure, rfl, fun text heq => ?_⟩
      -- a walk that does not fit is refused for its length, if at all
      rw [walk_child hlinks hparent hsteps hup, heq] at hwalk
      split at hwalk
      · cases hwalk
      · split at hwalk
        · cases hwalk
        · split at hwalk <;> cases hwalk

/-- **The temporary file**, by the number of tries. -/
theorem outcome_createTemporary_iff (hlinks : tree.NoLinks)
    (hparent : tree.Walks true maxLinks [] path.parent.normalized.steps
      (.entry directory .directory)) {tries start : Nat} {found : Path} {staged : Tree} :
    (createTemporary path tries start).outcome tree = (.ok found, staged) ↔
      ∃ n, Vacant tree path directory start n ∧ n < start + tries ∧ found = temporary path n ∧
        staged = tree.set (directory ++ [temporaryName path.name n]) (.file .empty) := by
  induction tries generalizing start with
  | zero =>
    constructor
    · intro h
      cases h
    · rintro ⟨n, hvacant, hlt, -⟩
      exact absurd hvacant.le (Nat.not_le.2 hlt)
  | succ tries ih =>
    rw [createTemporary, Task.outcome_bind_ok Task.outcome_get,
      show path.parent.normalized.join ⟨"", [temporaryName path.name start]⟩ =
        temporary path start from rfl]
    rcases create_temporary hlinks hparent start with
      ⟨hfits, hnone, hcreate⟩ | ⟨hfits, hsome, text, hcreate⟩ | ⟨hfits, failure, hcreate, hother⟩
    · rw [hcreate]
      constructor
      · intro h
        cases h
        exact ⟨start, ⟨Nat.le_refl _, fun m hle hge => (Nat.le_antisymm hge hle) ▸ hfits,
          fun m hle hlt => absurd hle (Nat.not_le.2 hlt), hnone⟩, by omega, rfl, rfl⟩
      · rintro ⟨n, hvacant, -, rfl, rfl⟩
        -- the first one is vacant, so no later one is taken
        obtain rfl : n = start := by
          by_contra hne
          exact hvacant.taken start (Nat.le_refl _)
            (Nat.lt_of_le_of_ne hvacant.le (Ne.symm hne)) hnone
        rfl
    · rw [hcreate]
      simp only
      rw [ih]
      constructor
      · rintro ⟨n, hvacant, hlt, hfound, hstaged⟩
        refine ⟨n, ⟨by have := hvacant.le; omega, fun m hle hge => ?_, fun m hle hlt => ?_,
          hvacant.vacant⟩, by omega, hfound, hstaged⟩
        · rcases Nat.eq_or_lt_of_le hle with rfl | hlt
          · exact hfits
          · exact hvacant.fits m hlt hge
        · rcases Nat.eq_or_lt_of_le hle with rfl | hstart
          · exact hsome
          · exact hvacant.taken m hstart hlt
      · rintro ⟨n, hvacant, hlt, hfound, hstaged⟩
        have hne : start ≠ n := by
          rintro rfl
          exact hsome hvacant.vacant
        have hstart := hvacant.le
        exact ⟨n, ⟨by omega, fun m hle hge => hvacant.fits m (by omega) hge,
          fun m hle hlt => hvacant.taken m (by omega) hlt, hvacant.vacant⟩, by omega, hfound, hstaged⟩
    · rw [hcreate]
      constructor
      · intro h
        split at h
        · next heq => cases heq
        · next heq => exact absurd (Except.error.inj heq) (hother _)
        · cases h
      · rintro ⟨n, hvacant, -⟩
        exact absurd (hvacant.fits start (Nat.le_refl _) hvacant.le) hfits

/-- A tree with `k` entries has one of the first `k + 1` temporary files vacant. -/
theorem Vacant.le_length {n : Nat} (h : Vacant tree path directory 0 n) :
    n ≤ tree.entries.length := by
  let taken := (List.range n).map fun m => directory ++ [temporaryName path.name m]
  have hnodup : taken.Nodup := by
    refine List.Nodup.map_on (fun m _ k _ heq => ?_) List.nodup_range
    exact temporaryName_inj (by simpa using (List.append_inj' heq rfl).2)
  have hsubset : taken ⊆ tree.entries.map Prod.fst := by
    intro place hplace
    obtain ⟨m, hm, rfl⟩ := List.mem_map.1 hplace
    have hsome := h.taken m (Nat.zero_le m) (List.mem_range.1 hm)
    obtain ⟨entry, hentry⟩ := Option.ne_none_iff_exists'.1 hsome
    exact List.mem_map_of_mem (mem_entries_of_get? (by simp) hentry)
  have hlength := (hnodup.subperm hsubset).length_le
  rw [List.length_map, List.length_map, List.length_range] at hlength
  exact hlength

/-! ### Writing -/

/-- **Paths that can be written**, into a directory that is there. -/
structure Writable (tree : Tree) (path : Path) (directory : Location) : Prop where
  parent : tree.find path.parent = .ok (directory, .directory)
  steps : path.steps ≠ []
  up : path.name ≠ ".."
  fits : path.Fits
  free : tree.get? (directory ++ [path.name]) ≠ some .directory
  vacant : ∃ n, Vacant tree path directory 0 n

variable {written : Tree}

/-- **A path that can be written is written**: its place gets the content, and nothing else changes. -/
theorem Writable.outcome_write (hwf : tree.WellFormed) (hlinks : tree.NoLinks)
    (h : Writable tree path directory) (text : String) :
    ∃ written, (write path (.plain text) (.ok ())).outcome tree = (.ok (), written) ∧
      written.get? (directory ++ [path.name]) = some (.file text.toUTF8) ∧
      ∀ place, place ≠ directory ++ [path.name] → written.get? place = tree.get? place := by
  obtain ⟨n, hvacant⟩ := h.vacant
  have hnormal := walks_normalized hwf hlinks h.parent
  have hfits := hvacant.fits n hvacant.le (Nat.le_refl n)
  have hnew := created_temporary hlinks hnormal hfits hvacant.vacant (.file .empty)
  have hcreate : (createTemporary path (tree.entries.length + 1) 0).outcome tree =
      (.ok (temporary path n), tree.set (directory ++ [temporaryName path.name n]) (.file .empty)) := by
    refine (outcome_createTemporary_iff hlinks hnormal).2 ⟨n, hvacant, ?_, rfl, rfl⟩
    have := hvacant.le_length
    omega
  have hfilled := hnew.refill (.file text.toUTF8)
  generalize hstaged : tree.set (directory ++ [temporaryName path.name n])
    (.file text.toUTF8) = staged at hfilled
  -- the place is no directory still, so the temporary file can be moved there
  have hstagedLinks : staged.NoLinks := by
    intro place target hlink
    by_cases hplace : place = directory ++ [temporaryName path.name n]
    · rw [hplace, hfilled.get?_self] at hlink
      cases hlink
    · rw [hfilled.get?_of_ne hplace] at hlink
      exact hlinks place target hlink
  have hfree : staged.get? (directory ++ [path.name]) ≠ some .directory := by
    by_cases hplace : directory ++ [path.name] = directory ++ [temporaryName path.name n]
    · rw [hplace, hfilled.get?_self]
      exact nofun
    · rw [hfilled.get?_of_ne hplace]
      exact h.free
  have hparent := find_mono h.parent hfilled.sub.keepsWays
  obtain ⟨written, hmove⟩ : ∃ written, staged.move (temporary path n) path = .ok written := by
    have htarget := (walk_child_iff hstagedLinks (find_eq_ok_iff.1 hparent).2 h.steps h.up
      false).2 ⟨h.fits, rfl⟩
    unfold move
    rw [hfilled.found, htarget, spotAt]
    cases hget : staged.get? (directory ++ [path.name]) with
    | none => exact ⟨_, rfl⟩
    | some entry =>
      cases entry with
      | directory => exact absurd hget hfree
      | _ => exact ⟨_, rfl⟩
  have hmoved := moved hwf h.parent hfilled hmove
  have hsettle : settle tree (directory ++ [temporaryName path.name n]) (temporary path n) path
      (.plain text) (.ok ()) = .ok written := by
    change ((tree.set _ (.file text.toUTF8)).move _ _).mapError _ = _
    rw [hstaged, hmove]
    rfl
  refine ⟨written, ?_, hmoved.file, hmoved.others⟩
  unfold write
  rw [Task.outcome_bind_ok (by
      rw [Task.outcome_wrapFailure, outcome_ensureDirectory_of_find hlinks h.parent]; rfl),
    Task.outcome_bind_ok Task.outcome_get,
    Task.outcome_bind_ok (by rw [Task.outcome_wrapFailure, hcreate]; rfl), outcome_settle hnew, hsettle]

/-- **A path can be written in another tree as well**, where the directory and the temporary files are
the same. -/
theorem Writable.transfer (h : Writable tree path directory)
    (hparent : other.find path.parent = .ok (directory, .directory))
    (htemporary : ∀ n, other.get? (directory ++ [temporaryName path.name n]) =
      tree.get? (directory ++ [temporaryName path.name n]))
    (hfree : other.get? (directory ++ [path.name]) ≠ some .directory) :
    Writable other path directory := by
  obtain ⟨n, hvacant⟩ := h.vacant
  refine ⟨hparent, h.steps, h.up, h.fits, hfree, n, hvacant.le, hvacant.fits, fun m hle hlt => ?_, ?_⟩
  · rw [htemporary m]
    exact hvacant.taken m hle hlt
  · rw [htemporary n]
    exact hvacant.vacant

end Writer

end SchemaPress
