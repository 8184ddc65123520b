import SchemaPress.Proofs.Analysis.Derivation
import SchemaPress.Proofs.Release.Written

/-!
# What a preparation may change

A preparation that fails keeps what the languages before the failure have written, and changes nothing
if it fails before the first of them (`Plugin.prepare_footprint`). Everything it writes is below the
directory of the release, unless the name of the output has a slash in it: then the declarations go
where this leads, which may be elsewhere (`Plugin.prepare_escapes`).
-/

namespace SchemaPress

variable {tree after : Tree}

namespace Plugin

variable {plugin : Plugin} {tools : Tools} {readConfig : Except Crash Config}
  {readContext : Except Crash ReleaseContext}

end Plugin

/-! ### A release -/

section Word
open Analysis

/-- `{"title": "U", "type": "string"}`. -/
def wordMembers : Members := [("title", .str "U"), ("type", .str "string")]

/-- Its text. -/
def wordText : String := "\x7b\"title\":\"U\",\"type\":\"string\"\x7d"

/-- Its catalog, another name for a text. -/
def wordCatalog : Catalog := [⟨"U", "", .alias (.primitive .string)⟩]

theorem parseRaw_wordText : Json.parseRaw wordText = .ok (.obj (Json.membersToRaw wordMembers)) := by cbv

theorem analyze_word : analyze [.obj wordMembers] = .ok wordCatalog := by
  obtain ⟨key, hkey⟩ : ∃ key, Schema.structureText ⟨wordMembers, none⟩ = .ok key := ⟨_, rfl⟩
  have hopen : IsOpen ⟨wordMembers, none⟩ := ⟨fun ref h => (by cases h), rfl, rfl⟩
  have htype : typeRef (.obj wordMembers) (.str "U") {} = .ok (.primitive .string, {}) := by
    rw [typeRef, schemaRef_open hopen]
    change plainRef _ _ (.str "string") _ = _
    rw [plainRef_eq]
    rfl
  have hbase : baseName (.str "U") (.str "U") = .ok "U" := by
    unfold baseName
    simp only [show Name.ofType "U" = "U" by decide +kernel]
    rfl
  have hfresh : Name.fresh ({} : State).names "U" = "U" := by decide +kernel
  have hdefine : define (.obj wordMembers) (.str "U") {} =
      .ok ((), ⟨wordCatalog, ["U"], [(key, "U")], []⟩) := by
    unfold define
    rw [bind_of_ok htype]
    change (orCrash (Schema.structureText ⟨wordMembers, none⟩) >>= _) _ = _
    rw [bind_of_ok (orCrash_of_ok hkey), bind_of_ok (nameOf?_of_lookup rfl)]
    change (reserve (.str "U") (.str "U") >>= _) _ = _
    rw [bind_of_ok (reserve_of_base hbase _), hfresh]
    rfl
  unfold analyze
  change ((define (.obj wordMembers) (.str "U") >>= fun _ => pure ()) >>= fun _ =>
    defineRest [.obj wordMembers]) {} >>= _ = _
  rw [bind_of_ok (bind_of_ok hdefine)]
  rfl

end Word

namespace Plugin

/-- A tree with a file for the schema and a directory for what is made of it. -/
def sourceTree (text : String) : Tree :=
  ⟨[(["s.json"], .file text.toUTF8), (["out"], .directory), (["out", "src"], .directory)]⟩

section SourceTree

variable (text : String)

theorem wellFormed_sourceTree : (sourceTree text).WellFormed := by
  refine Tree.wellFormed_of_entries ?_
  simp only [sourceTree, List.forall_mem_cons]
  exact ⟨rfl, rfl, rfl, nofun⟩

theorem noLinks_sourceTree : (sourceTree text).NoLinks := by
  refine Tree.noLinks_of_entries ?_
  simp only [sourceTree, List.forall_mem_cons]
  exact ⟨nofun, nofun, nofun, nofun⟩

theorem find_outpath : (sourceTree text).find ⟨"/", ["out"]⟩ = .ok (["out"], .directory) :=
  Tree.find_eq_ok_iff.2 ⟨⟨by decide, by decide⟩, .into rfl (by decide) (by decide) rfl nofun
    (.stop rfl)⟩

theorem find_sources : (sourceTree text).find ⟨"/", ["out", "src"]⟩ = .ok (["out", "src"], .directory) :=
  Tree.find_eq_ok_iff.2 ⟨⟨by decide, by decide⟩, .into rfl (by decide) (by decide) rfl nofun
    (.into rfl (by decide) (by decide) rfl nofun (.stop rfl))⟩

theorem readText_source {text : String} (hreturn : '\r' ∉ text.toList) :
    (sourceTree text).readText ⟨"/", ["s.json"]⟩ = .ok text := by
  have hfind : (sourceTree text).find ⟨"/", ["s.json"]⟩ = .ok (["s.json"], .file text.toUTF8) :=
    Tree.find_eq_ok_iff.2 ⟨⟨by decide, by decide⟩, .into rfl (by decide) (by decide) rfl nofun
      (.stop rfl)⟩
  exact Tree.readText_of_readBytes (Tree.readBytes_eq_ok_iff.2 ⟨_, hfind⟩) hreturn

end SourceTree

/-- The tree with the schema of a word. -/
def wordTree : Tree := sourceTree wordText

theorem wellFormed_wordTree : wordTree.WellFormed := wellFormed_sourceTree wordText

theorem noLinks_wordTree : wordTree.NoLinks := noLinks_sourceTree wordText

theorem readText_word : wordTree.readText ⟨"/", ["s.json"]⟩ = .ok wordText :=
  readText_source (by decide)

/-- A plugin that has verified, in the root directory. -/
def verifiedPlugin : Plugin := ⟨⟨"/", []⟩, true⟩

/-- The configuration for the schema, with this name of the output. -/
def wordConfig (outputName : String) (selection : Selection) : Config :=
  { schemaLocation := .str "s.json", outpath := .str "out", outputName := .str outputName, selection }

/-- The context of the first version. -/
def firstContext : ReleaseContext := ⟨some (.str "1.0.0")⟩

variable (tools : Tools)

/-- What is released. -/
def wordRelease (tools : Tools) (outputName : String) (selection : Selection) : Release :=
  ⟨wordConfig outputName selection, wordCatalog, .obj wordMembers, ⟨"/", ["out"]⟩, "1.0.0", tools⟩

theorem resolveLocations_source (text : String) :
    resolveLocations (sourceTree text) ⟨"/", []⟩ [.str "s.json"] = .ok [["s.json"]] := by
  change (do
    let place ← (sourceTree text).resolve (Path.child ⟨"/", []⟩ "s.json")
    let places ← pure []
    pure (place :: places)) = _
  rw [Tree.resolve_eq (noLinks_sourceTree text), Path.child_eq (by decide) (by decide) (by decide)]
  rfl

theorem loadSchemas_word :
    loadSchemas wordTree ⟨"/", []⟩ [.str "s.json"] = .ok [(Json.obj wordMembers).toRaw] := by
  have hload : loadSchema wordTree ["s.json"] = .ok (.schema (Json.membersToRaw wordMembers)) := by
    unfold loadSchema
    simp only [show Path.ofLocation ["s.json"] = ⟨"/", ["s.json"]⟩ from rfl, readText_word,
      parseRaw_wordText]
  unfold loadSchemas wordTree
  rw [resolveLocations_source]
  change ((loadSchema wordTree ["s.json"] >>= fun first => pure [first]).mapError _ >>= _) = _
  rw [hload]
  rfl

theorem begins_word (outputName : String) {selection : Selection} {languages : List Language}
    (h : selection.languages = .ok languages) :
    verifiedPlugin.Begins tools (.ok (wordConfig outputName selection)) (.ok firstContext) wordTree
      (wordRelease tools outputName selection) languages wordTree where
  verified := rfl
  context := ⟨firstContext, rfl, by cbv⟩
  config := rfl
  outpath := by
    change Except.ok (Path.child ⟨"/", []⟩ "out") = _
    rw [Path.child_eq (by decide) (by decide) (by decide)]
    rfl
  made := by
    change (ensureDirectory (Path.child ⟨"/", ["out"]⟩ "src")).outcome wordTree = _
    rw [Path.child_eq (by decide) (by decide) (by decide)]
    exact outcome_ensureDirectory_of_find noLinks_wordTree (find_sources wordText)
  analyzed := by
    refine ⟨[.str "s.json"], rfl, List.cons_ne_nil _ _, ?_⟩
    have hnarrow : narrow (Json.obj wordMembers).toRaw = .ok (.obj wordMembers) := rfl
    have hinline : inlineAt wordTree ["s.json"] (Json.obj wordMembers).toRaw = .ok (.obj wordMembers) := by
      have hdereference : Library.dereference ⟨.obj wordMembers, some (Path.ofLocation ["s.json"]).parent,
          wordTree⟩ = .ok (.obj wordMembers) := by
        unfold Library.dereference
        rw [Library.inline]
        cbv
      unfold inlineAt
      rw [hnarrow, Task.ok_bind, hdereference]
    unfold analyze
    change (loadSchemas wordTree ⟨"/", []⟩ [.str "s.json"] >>= _) = _
    rw [loadSchemas_word, Task.ok_bind]
    change ((resolveLocations wordTree ⟨"/", []⟩ [.str "s.json"]).mapError _ >>= _) = _
    rw [show wordTree = sourceTree wordText from rfl, resolveLocations_source]
    change ((inlineAt wordTree ["s.json"] (Json.obj wordMembers).toRaw >>= fun first => pure [first]) >>=
      _) = _
    rw [hinline]
    rw [Task.ok_bind, pure_bind, analyze_word]
    rfl
  languages := h
  tools := rfl

/-! ### The release in Go -/

theorem outputs_go_word (outputName : String) (selection : Selection) :
    ∃ text, (wordRelease tools outputName selection).outputs .go =
      .ok [.constant ⟨"/", ["out", "u.go"]⟩ text] := by
  obtain ⟨text, htext⟩ : ∃ text, wordCatalog.render .go = .ok text := ⟨_, rfl⟩
  have hpath : Path.child ⟨"/", ["out"]⟩ (Name.goPackage "U" ++ ".go") = ⟨"/", ["out", "u.go"]⟩ := by
    rw [show Name.goPackage "U" = "u" by decide +kernel]
    exact Path.child_step (by decide)
  refine ⟨Release.goSource "U" (.obj wordMembers) text, ?_⟩
  have htitle : (wordRelease tools outputName selection).title = .ok "U" := rfl
  have hrender : (wordRelease tools outputName selection).catalog.render .go = .ok text := htext
  unfold Release.outputs
  rw [htitle, hrender, ← hpath]
  rfl

theorem isWritable_go : Path.IsWritable ⟨"/", ["out", "u.go"]⟩ wordTree :=
  Path.isWritable_of_vacant (find_outpath wordText) (by decide) (by decide) (by decide) (by decide)
    (by decide) rfl

/-- The release can be emitted in Go. -/
theorem emit_go_word (outputName : String) (selection : Selection) :
    ∃ after, ((wordRelease tools outputName selection).emit .go).outcome wordTree = (.ok (), after) := by
  obtain ⟨text, houtputs⟩ := outputs_go_word tools outputName selection
  have htext : ∀ output ∈ [Output.constant ⟨"/", ["out", "u.go"]⟩ text],
      ∃ text, (∀ tree, output.content tree = .ok (some (.plain text))) ∧ Release.check .go (.plain text) = .ok () :=
    List.forall_mem_singleton.2 ⟨text, fun _ => rfl, rfl⟩
  obtain ⟨after, hput, -⟩ := Output.exists_forM_put wellFormed_wordTree noLinks_wordTree htext
    (List.forall_mem_singleton.2 isWritable_go)
    (fun _ houtput => Release.output_ne_temporary houtputs houtput)
  refine ⟨after, ?_⟩
  rw [Release.outcome_emit rfl, houtputs]
  exact hput

theorem prepare_go_word (outputName : String) :
    ∃ after, (verifiedPlugin.prepare tools (.ok (wordConfig outputName (.only [.go])))
      (.ok firstContext)).outcome wordTree = (.ok (), after) := by
  obtain ⟨after, hemit⟩ := emit_go_word tools outputName (.only [.go])
  refine ⟨after, ?_⟩
  have hlanguages : (Selection.only [.go]).languages = .ok [.go] := rfl
  rw [(begins_word tools outputName hlanguages).outcome_prepare, Release.outcome_forM_cons hemit]
  rfl

theorem outputs_escaping : ∃ document module declarations,
    (wordRelease tools "../escaped" (.only [.typeScript])).outputs .typeScript =
      .ok ([.constant ⟨"/", ["out", "src", "schema.json"]⟩ document,
        .constant ⟨"/", ["out", "src", "index.ts"]⟩ module,
        .constant ⟨"/", ["out", "..", "escaped.d.ts"]⟩ declarations] ++
          [(wordRelease tools "../escaped" (.only [.typeScript])).packageOutput]) := by
  obtain ⟨text, htext⟩ : ∃ text, wordCatalog.render .typeScript = .ok text := ⟨_, rfl⟩
  have hsources : Path.child ⟨"/", ["out"]⟩ "src" = ⟨"/", ["out", "src"]⟩ := Path.child_step (by decide)
  have hschema : Path.child ⟨"/", ["out", "src"]⟩ "schema.json" = ⟨"/", ["out", "src", "schema.json"]⟩ :=
    Path.child_step (by decide)
  have hindex : Path.child ⟨"/", ["out", "src"]⟩ "index.ts" = ⟨"/", ["out", "src", "index.ts"]⟩ :=
    Path.child_step (by decide)
  have hescaped : Path.child ⟨"/", ["out"]⟩ ("../escaped" ++ ".d.ts") =
      ⟨"/", ["out", "..", "escaped.d.ts"]⟩ := by decide +kernel
  refine ⟨Release.document (.obj wordMembers),
    Release.typeScriptModule (Name.typeScriptConstant "U") (.obj wordMembers), text, ?_⟩
  have htitle : (wordRelease tools "../escaped" (.only [.typeScript])).title = .ok "U" := rfl
  have hrender : (wordRelease tools "../escaped" (.only [.typeScript])).catalog.render .typeScript =
      .ok text := htext
  unfold Release.outputs
  rw [htitle, hrender, ← hschema, ← hindex, ← hsources, ← hescaped]
  rfl

theorem isWritable_escaping :
    Path.IsWritable ⟨"/", ["out", "src", "schema.json"]⟩ wordTree ∧
    Path.IsWritable ⟨"/", ["out", "src", "index.ts"]⟩ wordTree ∧
    Path.IsWritable ⟨"/", ["out", "..", "escaped.d.ts"]⟩ wordTree := by
  have hup : wordTree.find ⟨"/", ["out", ".."]⟩ = .ok ([], .directory) :=
    Tree.find_eq_ok_iff.2 ⟨⟨by decide, by decide⟩, .into rfl (by decide) (by decide) rfl nofun
      (.up rfl (.stop rfl))⟩
  refine ⟨?_, ?_, ?_⟩
  · exact Path.isWritable_of_vacant (find_sources wordText) (by decide) (by decide) (by decide) (by decide)
      (by decide) rfl
  · exact Path.isWritable_of_vacant (find_sources wordText) (by decide) (by decide) (by decide) (by decide)
      (by decide) rfl
  · exact Path.isWritable_of_vacant hup (by decide) (by decide) (by decide) (by decide)
      (by decide) rfl

theorem prepare_typeScript_escaping :
    ∃ after, (verifiedPlugin.prepare tools (.ok (wordConfig "../escaped" (.only [.typeScript])))
      (.ok firstContext)).outcome wordTree = (.ok (), after) ∧ after.NoLinks ∧
      after.hasFile ⟨"/", ["out", "..", "escaped.d.ts"]⟩ = true := by
  obtain ⟨document, module, declarations, houtputs⟩ := outputs_escaping tools
  obtain ⟨hschema, hindex, hescaped⟩ := isWritable_escaping
  have htext : ∀ output ∈ [Output.constant ⟨"/", ["out", "src", "schema.json"]⟩ document,
      .constant ⟨"/", ["out", "src", "index.ts"]⟩ module,
      .constant ⟨"/", ["out", "..", "escaped.d.ts"]⟩ declarations],
      ∃ text, (∀ tree, output.content tree = .ok (some (.plain text))) ∧
        Release.check .typeScript (.plain text) = .ok () := by
    simp only [List.forall_mem_cons]
    exact ⟨⟨_, fun _ => rfl, rfl⟩, ⟨_, fun _ => rfl, rfl⟩, ⟨_, fun _ => rfl, rfl⟩, nofun⟩
  have hwritable : ∀ output ∈ [Output.constant ⟨"/", ["out", "src", "schema.json"]⟩ document,
      .constant ⟨"/", ["out", "src", "index.ts"]⟩ module,
      .constant ⟨"/", ["out", "..", "escaped.d.ts"]⟩ declarations],
      output.path.IsWritable wordTree := by
    simp only [List.forall_mem_cons]
    exact ⟨hschema, hindex, hescaped, nofun⟩
  obtain ⟨middle, hput, hothers⟩ := Output.exists_forM_put wellFormed_wordTree noLinks_wordTree
    htext hwritable
    (fun output houtput => Release.output_ne_temporary houtputs (List.mem_append_left _ houtput))
  have hprint := Output.footprint_outputs wellFormed_wordTree noLinks_wordTree hput
  -- there is no package, so nothing comes behind the declarations
  have hbegins := begins_word tools "../escaped"
    (show (Selection.only [.typeScript]).languages = .ok [.typeScript] from rfl)
  have hready := (hbegins.ready wellFormed_wordTree noLinks_wordTree).touched hprint.touched
  have hpath : (wordRelease tools "../escaped" (.only [.typeScript])).packagePath =
      ⟨"/", ["out", "package.json"]⟩ := Path.child_step (by decide)
  have hnone : middle.get? ["out", "package.json"] = none := by
    rw [hothers]
    · rfl
    · simp only [List.forall_mem_cons, Output.path_constant]
      exact ⟨by decide, by decide, by decide, nofun⟩
  have hpackage := Release.content_packageOutput_of_none hready (by rw [hpath]; decide)
    (by rw [hpath]; exact hnone)
  have hemit : ((wordRelease tools "../escaped" (.only [.typeScript])).emit .typeScript).outcome wordTree =
      (.ok (), middle) := by
    rw [Release.outcome_emit rfl, houtputs]
    simp only
    rw [Task.outcome_forM_append hput, Release.forM_put_cons,
      Task.outcome_bind_ok (Output.outcome_put_none hpackage)]
    rfl
  refine ⟨middle, ?_, hready.noLinks, ?_⟩
  · rw [hbegins.outcome_prepare, Release.outcome_forM_cons hemit]
    rfl
  · exact hprint.required rfl (.constant ⟨"/", ["out", "..", "escaped.d.ts"]⟩ declarations) (by simp) nofun

end Plugin

end SchemaPress
