import SchemaPress.Proofs.Files.Unlinked

/-!
# What may become of the entries of a tree

An operation that works at certain places keeps all other files: they stay as they are, and nothing
new comes but directories where nothing was (`Touched`). Operations one after the other touch what
each of them touches (`Touched.trans`). Where there are no links, making directories touches no file
(`touched_ensureDirectory`), and writing touches the place of the path alone (`touched_write`).
-/

namespace SchemaPress

/-- **What may become of an entry.** It is kept; a directory is made where nothing was; or, at a place
that is written to, a file takes the place of what was no directory. -/
inductive Became (written : Prop) : Option Entry → Option Entry → Prop where
  | kept (entry : Option Entry) : Became written entry entry
  | paved : Became written none (some .directory)
  | written {old : Option Entry} {bytes : ByteArray} (h : written) (hold : old ≠ some .directory) :
      Became written old (some (.file bytes))

namespace Became

variable {written : Prop} {old middle new : Option Entry}

theorem trans (h : Became written old middle) (h' : Became written middle new) :
    Became written old new := by
  cases h with
  | kept => exact h'
  | paved =>
    cases h' with
    | kept => exact .paved
    | written _ hold => exact absurd rfl hold
  | written hown hold =>
    cases h' with
    | kept => exact .written hown hold
    | written => exact .written hown hold

theorem mono {written' : Prop} (h : Became written old new) (hmono : written → written') :
    Became written' old new := by
  cases h with
  | kept => exact .kept _
  | paved => exact .paved
  | written hown hold => exact .written (hmono hown) hold

theorem of_directory (h : Became written (some .directory) new) : new = some .directory := by
  cases h with
  | kept => rfl
  | written _ hold => exact absurd rfl hold

theorem of_file {bytes : ByteArray} (h : Became written (some (.file bytes)) new) :
    ∃ bytes, new = some (.file bytes) := by
  cases h with
  | kept => exact ⟨bytes, rfl⟩
  | written => exact ⟨_, rfl⟩

theorem ne_link {target : String} (h : Became written old new) (hold : old ≠ some (.link target)) :
    new ≠ some (.link target) := by
  cases h with
  | kept => exact hold
  | paved => exact nofun
  | written => exact nofun

theorem file_iff (h : Became written old new) (hnot : ¬ written) (bytes : ByteArray) :
    new = some (.file bytes) ↔ old = some (.file bytes) := by
  cases h with
  | kept => exact Iff.rfl
  | paved => exact ⟨nofun, nofun⟩
  | written hown => exact absurd hown hnot

end Became

open SchemaPress.Tree

/-- **Trees that an operation at these places may lead to.** -/
structure Touched (places : List Location) (tree after : Tree) : Prop where
  became : ∀ place, Became (place ∈ places) (tree.get? place) (after.get? place)
  wellFormed : tree.WellFormed → after.WellFormed

namespace Touched

variable {places more : List Location} {tree middle after : Tree}

theorem refl (tree : Tree) : Touched places tree tree :=
  ⟨fun _ => .kept _, id⟩

theorem trans (h : Touched places tree middle) (h' : Touched places middle after) :
    Touched places tree after :=
  ⟨fun place => (h.became place).trans (h'.became place), fun hwf => h'.wellFormed (h.wellFormed hwf)⟩

theorem mono (h : Touched places tree after) (hmono : places ⊆ more) : Touched more tree after :=
  ⟨fun place => (h.became place).mono fun hmem => hmono hmem, h.wellFormed⟩

theorem noLinks (h : Touched places tree after) (hlinks : tree.NoLinks) : after.NoLinks :=
  fun place target => (h.became place).ne_link (hlinks place target)

/-- The files at all other places are the same. -/
theorem file_iff (h : Touched places tree after) {place : Location} (hplace : place ∉ places)
    (bytes : ByteArray) :
    after.get? place = some (.file bytes) ↔ tree.get? place = some (.file bytes) :=
  (h.became place).file_iff hplace bytes

theorem file (h : Touched places tree after) {place : Location} {bytes : ByteArray}
    (hfile : tree.get? place = some (.file bytes)) :
    ∃ bytes, after.get? place = some (.file bytes) := by
  have hbecame := h.became place
  rw [hfile] at hbecame
  exact hbecame.of_file

/-- What is there stays there, as something that is no link. -/
theorem stays (h : Touched places tree after) {place : Location} {entry : Entry}
    (hentry : tree.get? place = some entry) (hno : ∀ target, entry ≠ .link target) :
    ∃ new, after.get? place = some new ∧ ∀ target, new ≠ .link target := by
  have hbecame := h.became place
  rw [hentry] at hbecame
  generalize after.get? place = new at hbecame ⊢
  cases hbecame with
  | kept => exact ⟨entry, rfl, hno⟩
  | written => exact ⟨_, rfl, nofun⟩

/-- Without links there are only directories to walk through, and those are kept. -/
theorem keepsWays (h : Touched places tree after) (hlinks : tree.NoLinks) : tree.KeepsWays after := by
  intro place entry hentry hfile
  have hbecame := h.became place
  rw [hentry] at hbecame
  cases entry with
  | file bytes => cases hfile
  | unreadable bytes => cases hfile
  | link target => exact absurd hentry (hlinks place target)
  | directory => exact hbecame.of_directory

theorem find_directory (h : Touched places tree after) (hlinks : tree.NoLinks) {path : Path}
    {location : Location} (hfind : tree.find path = .ok (location, .directory)) :
    after.find path = .ok (location, .directory) :=
  find_mono hfind (h.keepsWays hlinks)

/-- A walk to a file ends at a file as well. -/
theorem walks_file (h : Touched places tree after) (hlinks : tree.NoLinks) {follow : Bool}
    {budget : Nat} {place location : Location} {steps : List String} {spot : Spot}
    {bytes : ByteArray} (hwalks : tree.Walks follow budget place steps spot)
    (hspot : spot = .entry location (.file bytes)) :
    ∃ bytes, after.Walks follow budget place steps (.entry location (.file bytes)) := by
  have hways := h.keepsWays hlinks
  induction hwalks with
  | stop hplace =>
    cases hspot
    obtain ⟨bytes, hfile⟩ := h.file hplace
    exact ⟨bytes, .stop hfile⟩
  | up hplace _ ih =>
    obtain ⟨bytes, hrest⟩ := ih hspot
    exact ⟨bytes, .up (hways _ _ hplace rfl) hrest⟩
  | vacant => cases hspot
  | link => cases hspot
  | through _ _ _ hlink => exact absurd hlink (hlinks _ _)
  | @into budget place step entry rest spot hplace hup hshort hentry hno _ ih =>
    obtain ⟨bytes, hrest⟩ := ih hspot
    obtain ⟨new, hnew, hlink⟩ := h.stays hentry hno
    exact ⟨bytes, .into (hways _ _ hplace rfl) hup hshort hnew hlink hrest⟩

/-- **A path that leads to a file leads to a file still.** -/
theorem hasFile (h : Touched places tree after) (hlinks : tree.NoLinks) {path : Path}
    (hfile : tree.hasFile path = true) : after.hasFile path = true := by
  unfold Tree.hasFile at hfile ⊢
  split at hfile
  · next location bytes hfind =>
    obtain ⟨haccepts, hwalks⟩ := find_eq_ok_iff.1 hfind
    obtain ⟨bytes, hwalks⟩ := h.walks_file hlinks hwalks rfl
    rw [find_eq_ok_iff.2 ⟨haccepts, hwalks⟩]
  · cases hfile

end Touched

/-! ### The operations -/

variable {tree : Tree}

theorem touched_paved {path : Path} {after : Tree} (h : Paved path tree after) :
    Touched [] tree after := by
  refine ⟨fun place => ?_, h.wellFormed⟩
  cases hold : tree.get? place with
  | some entry =>
    rw [h.kept place entry hold]
    exact .kept _
  | none =>
    cases hnew : after.get? place with
    | none => exact .kept _
    | some entry =>
      obtain ⟨rfl, -⟩ := h.added place entry hold hnew
      exact .paved

/-- **Making directories touches no file.** -/
theorem touched_ensureDirectory (path : Path) (tree : Tree) :
    Touched [] tree ((ensureDirectory path).outcome tree).2 :=
  touched_paved (made_ensureDirectory path tree).paved

/-- Where the directory is there, making it changes nothing. -/
theorem outcome_ensureDirectory_of_find (hlinks : tree.NoLinks) {path : Path} {location : Location}
    (h : tree.find path = .ok (location, .directory)) :
    (ensureDirectory path).outcome tree = (.ok (), tree) := by
  have hcreate : tree.create path .directory = .error (.refused .alreadyThere path.text) := by
    unfold create
    rw [walk_of_find hlinks h]
    rfl
  have hleads : tree.leadsTo (· = .directory) path = .ok true := by
    unfold leadsTo
    rw [h]
    rfl
  rw [ensureDirectory, Task.outcome_bind_ok Task.outcome_get, hcreate]
  change (acceptDirectory _ _).outcome tree = _
  unfold acceptDirectory
  simp only
  rw [Task.outcome_bind, Task.outcome_look, hleads]
  rfl

namespace Writer

variable {path : Path} {bytes : ByteArray} {made after : Tree} {directory : Location}

/-- Without links the content goes to the place that the path spells. -/
theorem Moved.place_eq (hlinks : made.NoLinks) (h : Moved made path bytes after directory) :
    path.place = directory ++ [path.name] := by
  have hsteps : path.steps ≠ [] := by
    rw [h.steps]
    simp
  rw [Path.place_eq hsteps h.up, (find_place hlinks h.parent).1]

theorem Moved.touched (hwf : made.WellFormed) (hlinks : made.NoLinks)
    (h : Moved made path bytes after directory) : Touched [path.place] made after := by
  have hplace := h.place_eq hlinks
  refine ⟨fun place => ?_, fun _ => h.wellFormed hwf⟩
  by_cases hgoal : place = directory ++ [path.name]
  · rw [hgoal, h.file]
    exact .written (by rw [hplace]; exact List.mem_cons_self) h.replaced
  · rw [h.others place hgoal]
    exact .kept _

/-- **Writing touches the place of the path alone**, and a write that succeeds leaves the text there. -/
theorem touched_write (hwf : tree.WellFormed) (hlinks : tree.NoLinks) {path : Path} {content : Content}
    {check : Except WriteFailure Unit} {result : Except WriteFailure Unit} {written : Tree}
    (h : (write path content check).outcome tree = (result, written)) :
    Touched [path.place] tree written ∧
      (result = .ok () → ∃ text, content = .plain text ∧ written.readBytes path = .ok text.toUTF8) := by
  obtain ⟨made, result', written', houtcome, hpaved, hend⟩ := outcome_write hwf path content check
  cases houtcome.symm.trans h
  have hmade := (touched_paved hpaved).mono (List.nil_subset [path.place])
  have hmadeLinks := hmade.noLinks hlinks
  rcases hend with ⟨-, -, text, directory, hcontent, hmoved⟩ | ⟨failure, rfl, hsame⟩
  · exact ⟨hmade.trans (hmoved.touched (hmade.wellFormed hwf) hmadeLinks), fun _ => ⟨text, hcontent,
      hmoved.readBytes fun target htarget => absurd htarget (hmadeLinks _ target)⟩⟩
  · refine ⟨⟨fun place => ?_, fun hwf place name entry hentry => ?_⟩, nofun⟩
    · rw [hsame place]
      exact hmade.became place
    · rw [hsame] at hentry ⊢
      exact hmade.wellFormed hwf place name entry hentry

end Writer

/-! ### Reading -/

theorem Tree.readBytes_eq_ok_iff {path : Path} {bytes : ByteArray} :
    tree.readBytes path = .ok bytes ↔ ∃ location, tree.find path = .ok (location, .file bytes) := by
  unfold readBytes
  cases tree.find path with
  | error failure => exact ⟨nofun, nofun⟩
  | ok found =>
    obtain ⟨location, entry⟩ := found
    cases entry with
    | file content =>
      constructor
      · intro h
        cases h
        exact ⟨location, rfl⟩
      · rintro ⟨place, h⟩
        cases h
        rfl
    | unreadable => exact ⟨nofun, nofun⟩
    | directory => exact ⟨nofun, nofun⟩
    | link target => exact ⟨nofun, nofun⟩

theorem Tree.hasFile_of_readBytes {path : Path} {bytes : ByteArray}
    (h : tree.readBytes path = .ok bytes) : tree.hasFile path = true := by
  obtain ⟨location, hfind⟩ := readBytes_eq_ok_iff.1 h
  unfold hasFile
  rw [hfind]

theorem Tree.readBytes_of_hasFile {path : Path} (h : tree.hasFile path = true) :
    ∃ bytes, tree.readBytes path = .ok bytes := by
  unfold hasFile at h
  split at h
  · next location bytes hfind => exact ⟨bytes, readBytes_eq_ok_iff.2 ⟨location, hfind⟩⟩
  · cases h

/-- What is read without links stands at the place of the path. -/
theorem Tree.get?_place_of_readBytes (hlinks : tree.NoLinks) {path : Path} {bytes : ByteArray}
    (h : tree.readBytes path = .ok bytes) : tree.get? path.place = some (.file bytes) := by
  obtain ⟨location, hfind⟩ := readBytes_eq_ok_iff.1 h
  exact (find_place hlinks hfind).2

/-- **Trees with one file in common**: it is there in both, with the same bytes, or in neither. -/
def Tree.SameFile (tree other : Tree) (place : Location) : Prop :=
  ∀ bytes, tree.get? place = some (.file bytes) ↔ other.get? place = some (.file bytes)

theorem Tree.SameFile.symm {other : Tree} {place : Location} (h : tree.SameFile other place) :
    other.SameFile tree place :=
  fun bytes => (h bytes).symm

theorem Tree.SameFile.trans {other third : Tree} {place : Location} (h : tree.SameFile other place)
    (h' : other.SameFile third place) : tree.SameFile third place :=
  fun bytes => (h bytes).trans (h' bytes)

theorem Touched.sameFile {places : List Location} {after : Tree} (h : Touched places tree after)
    {place : Location} (hplace : place ∉ places) : after.SameFile tree place :=
  h.file_iff hplace

/-- **A file is read still** where nothing goes to its place. -/
theorem Touched.readBytes {places : List Location} {after : Tree} (h : Touched places tree after)
    (hlinks : tree.NoLinks) {path : Path} (hplace : path.place ∉ places) {bytes : ByteArray}
    (hread : tree.readBytes path = .ok bytes) : after.readBytes path = .ok bytes := by
  obtain ⟨now, hnow⟩ := Tree.readBytes_of_hasFile (h.hasFile hlinks (Tree.hasFile_of_readBytes hread))
  have hfile := (h.sameFile hplace bytes).2 (Tree.get?_place_of_readBytes hlinks hread)
  rw [Tree.get?_place_of_readBytes (h.noLinks hlinks) hnow] at hfile
  cases hfile
  exact hnow

theorem Tree.readText_eq_ok_iff {path : Path} {text : String} :
    tree.readText path = .ok text ↔ ∃ bytes source, tree.readBytes path = .ok bytes ∧
      String.fromUTF8? bytes = some source ∧ text = String.ofList (unifyLines source.toList) := by
  unfold readText
  cases tree.readBytes path with
  | error failure => exact ⟨nofun, nofun⟩
  | ok bytes =>
    simp only [bind, Except.bind]
    cases hsource : String.fromUTF8? bytes with
    | none =>
      constructor
      · intro h
        cases h
      · rintro ⟨other, source, hother, hsome, -⟩
        cases hother
        rw [hsource] at hsome
        cases hsome
    | some source =>
      constructor
      · intro h
        cases h
        exact ⟨bytes, source, rfl, hsource, rfl⟩
      · rintro ⟨other, found, hother, hsome, rfl⟩
        cases hother
        rw [hsource] at hsome
        cases hsome
        rfl

/-- The text that bytes are read as, if they are text. -/
def textOf? (bytes : ByteArray) : Option String :=
  (String.fromUTF8? bytes).map fun source => String.ofList (unifyLines source.toList)

/-- **A file is read as the text that its bytes are.** -/
theorem Tree.readText_of_find {path : Path} {location : Location} {bytes : ByteArray}
    (h : tree.find path = .ok (location, .file bytes)) :
    tree.readText path =
      match textOf? bytes with
      | some text => .ok text
      | none => .error (.crash .badEncoding) := by
  have hbytes := readBytes_eq_ok_iff.2 ⟨location, h⟩
  unfold readText textOf?
  rw [hbytes, Task.ok_bind]
  cases String.fromUTF8? bytes <;> rfl

/-- What a text is stored as is read as the text. -/
theorem fromUTF8?_toUTF8 (text : String) : String.fromUTF8? text.toUTF8 = some text := by
  unfold String.fromUTF8?
  exact dif_pos text.isValidUTF8

theorem unifyLines_eq_self {s : List Char} (h : '\r' ∉ s) : unifyLines s = s := by
  induction s with
  | nil => rfl
  | cons c rest ih =>
    obtain ⟨hc, hrest⟩ : '\r' ≠ c ∧ '\r' ∉ rest := by simpa using h
    rw [unifyLines, ih hrest]
    · exact fun _ heq => absurd heq hc.symm
    · exact fun heq => hc heq.symm

/-- A stored text without carriage returns is read as it is. -/
theorem Tree.readText_of_readBytes {path : Path} {text : String}
    (h : tree.readBytes path = .ok text.toUTF8) (hreturn : '\r' ∉ text.toList) :
    tree.readText path = .ok text := by
  refine readText_eq_ok_iff.2 ⟨_, text, h, fromUTF8?_toUTF8 text, ?_⟩
  rw [unifyLines_eq_self hreturn, String.ofList_toList]

end SchemaPress
