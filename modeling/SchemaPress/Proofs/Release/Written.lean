import SchemaPress.Proofs.Files.Writable
import SchemaPress.Proofs.Release.Footprint

/-!
# Outputs that are put without failure

Where the directory of an output is there, putting it without failure leaves it alone or writes its
content to its place, and nothing else (`Output.Puts`, `Output.puts_of_outcome`). Conversely an output with
a text can be put if the text passes the check of the language and the path can be written
(`Output.exists_puts`). Either way it is told entry by entry what comes of the tree, so that one can go
on with the next output.
-/

namespace SchemaPress

open SchemaPress.Tree

variable {tree after : Tree} {language : Language}

theorem Release.outcome_write (language : Language) (path : Path) (content : Writer.Content) :
    (Release.write language path content).outcome tree =
      (((Writer.write path content (check language content)).outcome tree).1.mapError
        (writeStop language path),
        ((Writer.write path content (check language content)).outcome tree).2) :=
  Task.outcome_wrapFailure

/-- A path can be written where its directory leads by its spelling. -/
abbrev Path.IsWritable (path : Path) (tree : Tree) : Prop :=
  Writer.Writable tree path path.parent.place

/-- A path is writable where its first temporary file is vacant. -/
theorem Path.isWritable_of_vacant {path : Path}
    (hparent : tree.find path.parent = .ok (path.parent.place, .directory))
    (hsteps : path.steps ≠ []) (hup : path.name ≠ "..") (hfits : path.Fits)
    (hfree : tree.get? (path.parent.place ++ [path.name]) ≠ some .directory)
    (hfirst : (Writer.temporary path 0).Fits)
    (hvacant : tree.get? (path.parent.place ++ [Writer.temporaryName path.name 0]) = none) :
    path.IsWritable tree := by
  refine ⟨hparent, hsteps, hup, hfits, hfree, 0, Nat.le_refl 0, fun m _ hm => ?_, fun m _ hm => ?_,
    hvacant⟩
  · obtain rfl := Nat.le_zero.1 hm
    exact hfirst
  · exact absurd hm (Nat.not_lt_zero m)

theorem Writer.Writable.place_eq {path : Path} {directory : Location}
    (h : Writer.Writable tree path directory) (hlinks : tree.NoLinks) :
    path.place = directory ++ [path.name] := by
  rw [Path.place_eq h.steps h.up, (find_place hlinks h.parent).1]

namespace Release

variable {release : Release} {other : Tree}

/-- **Trees that a release can be emitted in**: the directories of the artifacts are there. -/
structure Ready (release : Release) (tree : Tree) : Prop where
  wellFormed : tree.WellFormed
  noLinks : tree.NoLinks
  reaches : tree.Reaches release.outpath
  sources : tree.Reaches (release.outpath.child "src")

theorem Ready.touched {places : List Location} (h : release.Ready tree)
    (htouched : Touched places tree after) : release.Ready after where
  wellFormed := htouched.wellFormed h.wellFormed
  noLinks := htouched.noLinks h.noLinks
  reaches := h.reaches.mono (htouched.keepsWays h.noLinks)
  sources := h.sources.mono (htouched.keepsWays h.noLinks)

/-- No output is a temporary file. -/
theorem output_ne_temporary {outputs : List Output} (h : release.outputs language = .ok outputs)
    {output : Output} (hmem : output ∈ outputs) (directory : Location) (name : String) (n : Nat) :
    output.path.place ≠ directory ++ [Writer.temporaryName name n] :=
  place_ne_temporary (map_path_outputs h ▸ List.mem_map_of_mem hmem) directory name n

/-- What is not there is not found. -/
theorem Ready.find_child_of_none (h : release.Ready tree) {name : String} (hname : Path.IsStep name)
    (hfits : (release.outpath.child name).Fits)
    (hnone : tree.get? (release.outpath.child name).place = none) :
    tree.find (release.outpath.child name) =
      .error (.refused .notFound (release.outpath.child name).text) := by
  have hparent : tree.Reaches (release.outpath.child name).parent := by
    rw [Path.parent_child hname]
    exact h.reaches
  have hup : (release.outpath.child name).name ≠ ".." := Path.name_child_ne_up hname
  have hsteps : (release.outpath.child name).steps ≠ [] := Path.steps_child_ne_nil hname
  rw [Path.place_eq hsteps hup] at hnone
  unfold find
  rw [(walk_child_iff h.noLinks hparent hsteps hup true).2 ⟨hfits, rfl⟩, spotAt, hnone]
  rfl

/-- Where no package is described, nothing is. -/
theorem content_packageOutput_of_none (h : release.Ready tree) (hfits : release.packagePath.Fits)
    (hnone : tree.get? release.packagePath.place = none) :
    release.packageOutput.content tree = .ok none := by
  have hfind := h.find_child_of_none (by decide) hfits hnone
  simp only [packageOutput, packagePath, Output.present, leadsTo, hfind]
  rfl

end Release

namespace Output

variable {output : Output}

/-- **What putting an output without failure does**: nothing, if there is no content for it, or the content
is a text that comes to its place. -/
inductive Puts (language : Language) (output : Output) (tree after : Tree) : Prop where
  | kept (hcontent : output.content tree = .ok none) (hsame : after = tree)
  | written {text : String} (hcontent : output.content tree = .ok (some (.plain text)))
      (hcheck : Release.check language (.plain text) = .ok ()) (hwritable : output.path.IsWritable tree)
      (hfile : after.get? output.path.place = some (.file text.toUTF8))
      (hothers : ∀ place, place ≠ output.path.place → after.get? place = tree.get? place)

/-- **An output can be put** if its text passes the check and its path can be written. -/
theorem exists_puts (hwf : tree.WellFormed) (hlinks : tree.NoLinks) {text : String}
    (hcontent : output.content tree = .ok (some (.plain text)))
    (hcheck : Release.check language (.plain text) = .ok ()) (hwritable : output.path.IsWritable tree) :
    ∃ after, (output.put language).outcome tree = (.ok (), after) ∧
      output.Puts language tree after := by
  obtain ⟨after, hwrite, hfile, hothers⟩ := hwritable.outcome_write hwf hlinks text
  rw [← hwritable.place_eq hlinks] at hfile hothers
  refine ⟨after, ?_, .written hcontent hcheck hwritable hfile hothers⟩
  rw [outcome_put_some hcontent, Release.outcome_write, hcheck, hwrite]
  rfl

/-- Nothing else changes. -/
theorem Puts.get?_of_ne (h : output.Puts language tree after) {place : Location}
    (hplace : place ≠ output.path.place) : after.get? place = tree.get? place := by
  cases h with
  | kept _ hsame => rw [hsame]
  | written _ _ _ _ hothers => exact hothers place hplace

/-- **A path stays writable** while outputs are put that do not go to its temporary files. -/
theorem Puts.isWritable (h : output.Puts language tree after) (hlinks : tree.NoLinks)
    {places : List Location} (htouched : Touched places tree after) {path : Path}
    (hpath : path.IsWritable tree)
    (hapart : ∀ n, output.path.place ≠ path.parent.place ++ [Writer.temporaryName path.name n]) :
    path.IsWritable after := by
  cases h with
  | kept _ hsame => exact hsame ▸ hpath
  | written _ _ _ hfile hothers =>
    refine Writer.Writable.transfer hpath (htouched.find_directory hlinks hpath.parent)
      (fun n => hothers _ (hapart n).symm) ?_
    -- a file stands there now, or what stood there before
    by_cases hplace : path.parent.place ++ [path.name] = output.path.place
    · rw [hplace, hfile]
      exact nofun
    · rw [hothers _ hplace]
      exact hpath.free

/-- **Texts that can be put one by one can be put one after the other.** -/
theorem exists_forM_put {outputs : List Output} (hwf : tree.WellFormed) (hlinks : tree.NoLinks)
    (hcontent : ∀ output ∈ outputs, ∃ text, (∀ tree, output.content tree = .ok (some (.plain text))) ∧
      Release.check language (.plain text) = .ok ())
    (hwritable : ∀ output ∈ outputs, output.path.IsWritable tree)
    (hapart : ∀ output ∈ outputs, ∀ directory name n,
      output.path.place ≠ directory ++ [Writer.temporaryName name n]) :
    ∃ after, (outputs.forM (put language)).outcome tree = (.ok (), after) ∧
      ∀ place, (∀ output ∈ outputs, place ≠ output.path.place) → after.get? place = tree.get? place := by
  induction outputs generalizing tree with
  | nil => exact ⟨tree, rfl, fun _ _ => rfl⟩
  | cons output rest ih =>
    obtain ⟨text, htext, hcheck⟩ := hcontent output List.mem_cons_self
    obtain ⟨middle, hput, hputs⟩ := exists_puts hwf hlinks (htext tree) hcheck
      (hwritable output List.mem_cons_self)
    have hprint := footprint hwf hlinks hput
    obtain ⟨after, hrest, hothers⟩ := ih (hprint.touched.wellFormed hwf) (hprint.touched.noLinks hlinks)
      (fun other hother => hcontent other (List.mem_cons_of_mem _ hother))
      (fun other hother => hputs.isWritable hlinks hprint.touched
        (hwritable other (List.mem_cons_of_mem _ hother))
        (hapart output List.mem_cons_self _ _))
      (fun other hother => hapart other (List.mem_cons_of_mem _ hother))
    refine ⟨after, ?_, fun place hplace => ?_⟩
    · rw [Release.forM_put_cons, Task.outcome_bind_ok hput, hrest]
    · rw [hothers place fun other hother => hplace other (List.mem_cons_of_mem _ hother)]
      exact hputs.get?_of_ne (hplace output List.mem_cons_self)

end Output

/-- The directory of the artifacts is there once a preparation has begun. -/
theorem Plugin.Begins.ready {plugin : Plugin} {tools : Tools}
    {readConfig : Except Crash Config} {readContext : Except Crash ReleaseContext} {release : Release}
    {languages : List Language} {begun : Tree} (hwf : tree.WellFormed) (hlinks : tree.NoLinks)
    (h : plugin.Begins tools readConfig readContext tree release languages begun) :
    release.Ready begun := by
  have hbegun := h.touched.noLinks hlinks
  have hmade := made_ensureDirectory (release.outpath.child "src") tree
  rw [h.made] at hmade
  obtain ⟨location, hfind⟩ := hmade.found rfl
  have hsources := Tree.reaches_of_find hbegun hfind
  have hparent : (release.outpath.child "src").parent = release.outpath :=
    Path.parent_child (by decide)
  refine ⟨h.touched.wellFormed hwf, hbegun, ?_, hsources⟩
  rw [← hparent]
  exact hsources.parent hbegun (Path.steps_child_ne_nil (by decide)) (Path.name_child_ne_up (by decide))

end SchemaPress
