import SchemaPress.Proofs.Release.Independence
import SchemaPress.Proofs.Release.Inputs
import SchemaPress.Proofs.Release.ManifestLines
import SchemaPress.Proofs.Release.Settled

/-!
# A preparation that is repeated

A preparation that has succeeded can be repeated, and then changes nothing
(`Plugin.prepare_idempotent`). The second one starts from other files than the first: but none of them is
one that the schemas are made of, so it works out the same release, and every output of it is settled.

Of the library that reads and writes the manifest, `TomlKit.Laws` is taken for granted.
-/

namespace SchemaPress

namespace Plugin

variable {plugin : Plugin} {tools : Tools} {config : Config}
  {readContext : Except Crash ReleaseContext} {tree after : Tree}

/-- **The files that a release is analyzed from are not written** when it is prepared. -/
def SparesInputs (plugin : Plugin) (tools : Tools) (config : Config)
    (readContext : Except Crash ReleaseContext) (tree : Tree) : Prop :=
  ∀ release languages begun locations,
    plugin.Begins tools (.ok config) readContext tree release languages begun →
    config.schemaLocations = .ok locations →
    ∀ place, plugin.Consults locations tree place → place ∉ release.places languages

/-- **What was begun once** begins again in the same way, where only files of the languages were written
and none that the release is analyzed from. -/
theorem Begins.again {release : Release} {languages : List Language} {begun : Tree}
    (hwf : tree.WellFormed) (hlinks : tree.NoLinks) (hdirectory : plugin.directory.Proper)
    (h : plugin.Begins tools (.ok config) readContext tree release languages begun)
    (hinputs : plugin.SparesInputs tools config readContext tree)
    (hrewrites : Rewrites (release.places languages) begun after) :
    plugin.Begins tools (.ok config) readContext after release languages after where
  verified := h.verified
  context := h.context
  config := h.config
  outpath := h.outpath
  made := by
    have hready := h.ready hwf hlinks
    have hmade := made_ensureDirectory (release.outpath.child "src") tree
    rw [h.made] at hmade
    obtain ⟨location, hfind⟩ := hmade.found rfl
    exact outcome_ensureDirectory_of_find (hrewrites.touched.noLinks hready.noLinks)
      (hrewrites.touched.find_directory hready.noLinks hfind)
  analyzed := by
    have hready := h.ready hwf hlinks
    obtain ⟨locations, hlocations, hne, hanalyze⟩ := h.analyzed
    refine ⟨locations, hlocations, hne, ?_⟩
    refine analyze_congr hdirectory hready.noLinks (hrewrites.touched.wellFormed hready.wellFormed)
      (hrewrites.touched.noLinks hready.noLinks) (fun place hplace => ?_) hanalyze
    -- no file is touched before the languages, so the same places are consulted as at first
    have hfirst : plugin.Consults locations tree place :=
      hplace.congr hdirectory hready.noLinks hwf hlinks
        fun place _ => h.touched.sameFile List.not_mem_nil
    have hlocations : config.schemaLocations = .ok locations := by
      rw [Except.ok.inj h.config, hlocations]
    exact (hrewrites.touched.sameFile
      (hinputs release languages begun locations h hlocations place hfirst)).symm
  languages := h.languages
  tools := h.tools

variable (tools)

theorem manifestPath_word (selection : Selection) :
    (wordRelease tools "u" selection).manifestPath = ⟨"/", ["out", "Cargo.toml"]⟩ :=
  Path.child_step (by decide)

end Plugin

end SchemaPress
