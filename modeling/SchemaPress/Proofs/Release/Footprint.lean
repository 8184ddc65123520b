import SchemaPress.Proofs.Release.Outputs

/-!
# What emitting may change

One output changes the file at its path alone (`Output.footprint`), a list of outputs the files at
their paths (`footprint_outputs`), and so emitting a language only its own files, of which the
description of the package is changed only if it is there (`footprint_emit`). However emitting ends,
only the languages up to that have left something (`Emits.footprint`).
-/

namespace SchemaPress

/-- A file stands at the place. -/
def Tree.FileAt (tree : Tree) (place : Location) : Prop :=
  ∃ bytes, tree.get? place = some (.file bytes)

variable {tree after : Tree}

/-- A file that was not there is at one of the places. -/
theorem Touched.fileAt_of_not_mem {places : List Location} (h : Touched places tree after)
    {place : Location} (hplace : place ∉ places) (hfile : after.FileAt place) : tree.FileAt place := by
  obtain ⟨bytes, hbytes⟩ := hfile
  exact ⟨bytes, (h.file_iff hplace bytes).1 hbytes⟩

namespace Release

variable {release : Release} {language : Language}

/-- **Writing an artifact** touches its place, and leaves a file there. -/
theorem touched_write (hwf : tree.WellFormed) (hlinks : tree.NoLinks) {path : Path}
    {content : Writer.Content} {answer : Except (Stop ReleaseError) Unit}
    (h : (write language path content).outcome tree = (answer, after)) :
    Touched [path.place] tree after ∧ (answer = .ok () → ∃ text, content = .plain text ∧
      after.readBytes path = .ok text.toUTF8) := by
  unfold write at h
  rw [Task.outcome_wrapFailure] at h
  obtain ⟨rfl, rfl⟩ := Prod.mk.inj h
  obtain ⟨htouched, hread⟩ := Writer.touched_write hwf hlinks
    (Prod.mk.eta : (_, _) = (Writer.write path content _).outcome tree).symm
  refine ⟨htouched, fun hok => hread ?_⟩
  cases hresult : ((Writer.write path content _).outcome tree).1 with
  | ok => rfl
  | error failure =>
    rw [hresult] at hok
    cases hok

end Release

/-! ### Outputs -/

namespace Output

variable {output : Output} {language : Language} {answer : Except (Stop ReleaseError) Unit}

/-- **Outputs that restamp** a file: there is a content for it only if it is there. -/
def Restamps (output : Output) : Prop :=
  ∀ tree : Tree, tree.NoLinks → ∀ content, output.content tree = .ok (some content) →
    tree.FileAt output.path.place

/-- **Outputs that are required**: there is always a content for the file. -/
def Required (output : Output) : Prop :=
  ∀ tree : Tree, output.content tree ≠ .ok none

/-- **What putting outputs may do.** -/
structure Footprint (outputs : List Output) (tree : Tree) (answer : Except (Stop ReleaseError) Unit)
    (after : Tree) : Prop where
  touched : Touched (outputs.map fun output => output.path.place) tree after
  restamped : ∀ place, (∀ output ∈ outputs, output.path.place = place → output.Restamps) →
    after.FileAt place → tree.FileAt place
  required : answer = .ok () → ∀ output ∈ outputs, output.Required → after.hasFile output.path = true

/-- **One output** changes the file at its path alone. -/
theorem footprint (hwf : tree.WellFormed) (hlinks : tree.NoLinks)
    (h : (output.put language).outcome tree = (answer, after)) :
    Footprint [output] tree answer after := by
  cases hcontent : output.content tree with
  | error stop =>
    rw [outcome_put_error hcontent] at h
    cases h
    exact ⟨.refl tree, fun _ _ hfile => hfile, nofun⟩
  | ok content =>
    cases content with
    | none =>
      rw [outcome_put_none hcontent] at h
      cases h
      refine ⟨.refl tree, fun _ _ hfile => hfile, fun _ other hother hrequired => ?_⟩
      obtain rfl := List.mem_singleton.1 hother
      exact absurd hcontent (hrequired tree)
    | some content =>
      rw [outcome_put_some hcontent] at h
      obtain ⟨htouched, hread⟩ := Release.touched_write hwf hlinks h
      refine ⟨htouched, fun place hrestamps hfile => ?_, fun hok other hother _ => ?_⟩
      · by_cases hplace : output.path.place = place
        · subst hplace
          exact hrestamps output List.mem_cons_self rfl tree hlinks content hcontent
        · exact htouched.fileAt_of_not_mem (by simpa using Ne.symm hplace) hfile
      · obtain rfl := List.mem_singleton.1 hother
        obtain ⟨text, -, hbytes⟩ := hread hok
        exact Tree.hasFile_of_readBytes hbytes

/-- Outputs one after the other. -/
theorem Footprint.cons {rest : List Output} {middle : Tree}
    (hlinks : tree.NoLinks) (h : Footprint [output] tree (.ok ()) middle)
    (h' : Footprint rest middle answer after) : Footprint (output :: rest) tree answer after where
  touched := by
    have hfirst : Touched ((output :: rest).map fun output => output.path.place) tree middle :=
      h.touched.mono (by simp)
    exact hfirst.trans (h'.touched.mono (List.subset_cons_self _ _))
  restamped := by
    intro place hrestamps hfile
    refine h.restamped place (fun other hother => ?_) (h'.restamped place (fun other hother => ?_) hfile)
    · obtain rfl := List.mem_singleton.1 hother
      exact hrestamps other List.mem_cons_self
    · exact hrestamps other (List.mem_cons_of_mem _ hother)
  required := by
    intro hok other hother hrequired
    rcases List.mem_cons.1 hother with rfl | hother
    · have hmiddle := h.required rfl other List.mem_cons_self hrequired
      exact h'.touched.hasFile (h.touched.noLinks hlinks) hmiddle
    · exact h'.required hok other hother hrequired

/-- **A list of outputs**, by the outputs from the first one on. -/
theorem footprint_outputs {outputs : List Output} (hwf : tree.WellFormed) (hlinks : tree.NoLinks)
    (h : (outputs.forM (put language)).outcome tree = (answer, after)) :
    Footprint outputs tree answer after := by
  induction outputs generalizing tree with
  | nil =>
    cases h
    exact ⟨.refl _, fun _ _ hfile => hfile, nofun⟩
  | cons output rest ih =>
    rw [Release.forM_put_cons] at h
    cases hfirst : (output.put language).outcome tree with
    | mk result middle =>
      have hprint := footprint hwf hlinks hfirst
      cases result with
      | error stop =>
        rw [Task.outcome_bind_error hfirst] at h
        cases h
        refine ⟨hprint.touched.mono (by simp), fun place hrestamps => ?_, nofun⟩
        exact hprint.restamped place fun other hother =>
          hrestamps other (by simp [List.mem_singleton.1 hother])
      | ok =>
        rw [Task.outcome_bind_ok hfirst] at h
        exact hprint.cons hlinks
          (ih (hprint.touched.wellFormed hwf) (hprint.touched.noLinks hlinks) h)

end Output

/-! ### Languages -/

namespace Release

variable {release : Release} {language : Language} {answer : Except (Stop ReleaseError) Unit}

/-- The places that these languages may write to. -/
def places (release : Release) (languages : List Language) : List Location :=
  languages.flatMap fun language => (release.files language).map Path.place

theorem places_subset {languages more : List Language} (h : languages ⊆ more) :
    release.places languages ⊆ release.places more := by
  intro place hplace
  obtain ⟨language, hlanguage, hmem⟩ := List.mem_flatMap.1 hplace
  exact List.mem_flatMap.2 ⟨language, h hlanguage, hmem⟩

/-- The files of a language are at no place of another one. -/
theorem place_not_mem_places {languages : List Language} (hnot : language ∉ languages) {path : Path}
    (h : path ∈ release.files language) : path.place ∉ release.places languages := by
  intro hplace
  obtain ⟨other, hother, hmem⟩ := List.mem_flatMap.1 hplace
  obtain ⟨path', hpath', heq⟩ := List.mem_map.1 hmem
  have hne : language ≠ other := by
    rintro rfl
    exact hnot hother
  exact place_ne hne h hpath' heq.symm

/-- A package is described anew only where it is described already. -/
theorem restamps_packageOutput : release.packageOutput.Restamps := by
  intro tree hlinks content hcontent
  obtain ⟨source, hread, -⟩ := exists_readText_of_content hcontent
  obtain ⟨bytes, -, hbytes, -⟩ := Tree.readText_eq_ok_iff.1 hread
  exact ⟨bytes, Tree.get?_place_of_readBytes hlinks hbytes⟩

theorem required_manifestOutput (name : String) : (release.manifestOutput name).Required := by
  intro tree hcontent
  obtain ⟨manifest, hsome, -⟩ := content_manifestOutput hcontent
  cases hsome

/-- **What emitting languages may do.** -/
structure Footprint (release : Release) (languages : List Language) (tree : Tree)
    (answer : Except (Stop ReleaseError) Unit) (after : Tree) : Prop where
  touched : Touched (release.places languages) tree after
  stamped : after.FileAt release.packagePath.place → tree.FileAt release.packagePath.place
  artifacts : answer = .ok () → ∀ language ∈ languages, ∀ path ∈ release.artifacts language,
    after.hasFile path = true

/-- **One language.** -/
theorem footprint_emit (hcompile : release.config.compileTs.isTruthy = false)
    (hwf : tree.WellFormed) (hlinks : tree.NoLinks)
    (h : (release.emit language).outcome tree = (answer, after)) :
    release.Footprint [language] tree answer after := by
  rw [outcome_emit hcompile] at h
  cases houtputs : release.outputs language with
  | error cause =>
    rw [houtputs] at h
    cases h
    exact ⟨.refl tree, id, nofun⟩
  | ok outputs =>
    rw [houtputs] at h
    have hprint := Output.footprint_outputs hwf hlinks h
    have hpaths := map_path_outputs houtputs
    refine ⟨hprint.touched.mono fun place hplace => ?_, hprint.restamped _ fun output houtput hplace =>
      ?_, fun hok other hother path hpath => ?_⟩
    · obtain ⟨output, houtput, rfl⟩ := List.mem_map.1 hplace
      refine List.mem_flatMap.2 ⟨language, List.mem_cons_self, List.mem_map_of_mem ?_⟩
      rw [← hpaths]
      exact List.mem_map_of_mem houtput
    · rcases mem_outputs houtputs houtput with ⟨hartifact, -⟩ | rfl
      · exact absurd hplace.symm (packagePath_place_ne hartifact)
      · exact restamps_packageOutput
    · obtain rfl := List.mem_singleton.1 hother
      have hfile : path ∈ outputs.map Output.path := by
        rw [hpaths]
        exact List.mem_append_left _ hpath
      obtain ⟨output, houtput, rfl⟩ := List.mem_map.1 hfile
      refine hprint.required hok output houtput ?_
      rcases mem_outputs houtputs houtput with ⟨-, ⟨path, text, rfl⟩ | ⟨title, -, -, rfl⟩⟩ | rfl
      · exact nofun
      · exact required_manifestOutput (Name.crate title)
      · exact absurd rfl (packagePath_place_ne hpath)

theorem Footprint.append {before behind : List Language} {middle : Tree} (hlinks : tree.NoLinks)
    (h : release.Footprint before tree (.ok ()) middle)
    (h' : release.Footprint behind middle answer after) :
    release.Footprint (before ++ behind) tree answer after where
  touched :=
    (h.touched.mono (places_subset (List.subset_append_left _ _))).trans
      (h'.touched.mono (places_subset (List.subset_append_right _ _)))
  stamped hfile := h.stamped (h'.stamped hfile)
  artifacts hok language hlanguage path hpath := by
    rcases List.mem_append.1 hlanguage with hlanguage | hlanguage
    · exact h'.touched.hasFile (h.touched.noLinks hlinks) (h.artifacts rfl language hlanguage path hpath)
    · exact h'.artifacts hok language hlanguage path hpath

/-- **Several languages**, by the languages from the first one on. -/
theorem footprint_forM (hcompile : release.config.compileTs.isTruthy = false)
    {languages : List Language} (hwf : tree.WellFormed) (hlinks : tree.NoLinks)
    (h : (languages.forM release.emit).outcome tree = (.ok (), after)) :
    release.Footprint languages tree (.ok ()) after := by
  induction languages generalizing tree with
  | nil =>
    cases h
    exact ⟨.refl _, id, nofun⟩
  | cons language rest ih =>
    cases hfirst : (release.emit language).outcome tree with
    | mk result middle =>
      have hprint := footprint_emit hcompile hwf hlinks hfirst
      cases result with
      | error stop =>
        rw [List.forM_eq_forM, List.forM_cons, Task.outcome_bind_error hfirst] at h
        cases h
      | ok =>
        rw [outcome_forM_cons hfirst] at h
        exact hprint.append hlinks
          (ih (hprint.touched.wellFormed hwf) (hprint.touched.noLinks hlinks) h)

/-- **However emitting ends**, only the languages up to that have left something. -/
theorem Emits.footprint (hcompile : release.config.compileTs.isTruthy = false)
    {languages done : List Language} (hwf : tree.WellFormed) (hlinks : tree.NoLinks)
    (h : release.Emits tree languages done answer after) :
    release.Footprint done tree answer after := by
  cases h with
  | all h => exact footprint_forM hcompile hwf hlinks h
  | fails hbefore hlast =>
    have hprint := footprint_forM hcompile hwf hlinks hbefore
    exact hprint.append hlinks (footprint_emit hcompile (hprint.touched.wellFormed hwf)
      (hprint.touched.noLinks hlinks) hlast)

/-- What is written anew is no temporary file. -/
theorem place_ne_temporary {path : Path} (h : path ∈ release.files language) (directory : Location)
    (name : String) (n : Nat) : path.place ≠ directory ++ [Writer.temporaryName name n] := by
  obtain ⟨ending, hending, hpath⟩ := endsAs_artifact h
  intro hplace
  rw [Path.place_eq hpath.steps hpath.up] at hplace
  have hname : path.name = Writer.temporaryName name n := by
    simpa using (List.append_inj' hplace rfl).2
  refine Language.ending_ne_temporary hending ?_
  rw [← hpath.ending, hname, Writer.ending_temporaryName]

end Release

/-! ### Preparations -/

namespace Plugin

variable {plugin : Plugin} {tools : Tools} {readConfig : Except Crash Config}
  {readContext : Except Crash ReleaseContext}

theorem Begins.touched {release : Release} {languages : List Language} {begun : Tree}
    (h : plugin.Begins tools readConfig readContext tree release languages begun) :
    Touched [] tree begun := by
  have htouched := touched_ensureDirectory (release.outpath.child "src") tree
  rw [h.made] at htouched
  exact htouched

end Plugin

end SchemaPress
