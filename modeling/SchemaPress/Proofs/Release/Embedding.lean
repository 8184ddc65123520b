import SchemaPress.Proofs.Json.Lines
import SchemaPress.Proofs.Name.Characters
import SchemaPress.Proofs.Release.Changes
import SchemaPress.Proofs.Release.Inputs
import SchemaPress.Proofs.Release.Restamping
import SchemaPress.Proofs.Text.GoLiteral

/-!
# The raw schema in the artifacts

A release carries its primary schema along as it was loaded: as a file of its own, as the constant of
the TypeScript module and as the constant of the Go source. Each of the three is written in a style of
its own, and the last one is quoted once more. What is asked of the two sources is `ModuleHolds` and
`GoHolds`; their constants are read by lines, for none of the styles in question ends a line inside a value
(`Json.newline_not_mem_write`), and neither do the names in front of it.

`Plugin.prepare_embeds` says that these are the texts that emitting writes, that they stand in the files once a
preparation is through, and that each of them is read as the schema, member by member in its order. An
integer with too many digits is in no schema: a preparation stops at the file that it stands in
(`Plugin.prepare_tooLong`).
-/

namespace SchemaPress

namespace Text

/-! ### Constants in lines -/

/-- A line of a text. -/
def line (text : String) (number : Nat) : List Char :=
  (pieces '\n' text.toList).getD number []

/-- What stands behind the first equals sign with a blank behind it. -/
def assigned : List Char → List Char
  | [] => []
  | '=' :: ' ' :: rest => rest
  | _ :: rest => assigned rest

/-- What stands in front of the last occurrence of a mark. -/
def beforeLast (mark : Char) (s : List Char) : List Char :=
  ((cutAt mark s.reverse).2.getD []).reverse

theorem assigned_append {before : List Char} (h : '=' ∉ before) (rest : List Char) :
    assigned (before ++ '=' :: ' ' :: rest) = rest := by
  induction before with
  | nil => rfl
  | cons c before ih =>
    have hc : c ≠ '=' := fun heq => h (heq ▸ List.mem_cons_self)
    rw [List.cons_append, assigned, ih fun hmem => h (List.mem_cons_of_mem _ hmem)]
    exact fun _ heq _ => hc heq

theorem beforeLast_append (mark : Char) (s : List Char) : beforeLast mark (s ++ [mark]) = s := by
  unfold beforeLast
  rw [List.reverse_append, List.reverse_singleton, List.singleton_append, cutAt, if_pos rfl]
  exact List.reverse_reverse s

theorem newline_not_mem_goJsonQuote {text : List Char} (h : '\n' ∉ text) :
    '\n' ∉ (goJsonQuote text).toList := by
  unfold goJsonQuote
  rw [String.toList_ofList]
  simp only [List.cons_append, List.mem_cons, List.mem_append, List.mem_flatMap, List.not_mem_nil,
    or_false, not_or, not_exists, not_and]
  refine ⟨by decide, fun c hc => ?_, by decide⟩
  have hne : '\n' ≠ c := fun heq => h (heq ▸ hc)
  unfold goJsonEscape
  split
  · simp [hne]
  · simp [hne]

end Text

namespace Release

open Text

variable {schema : Json}

/-- The constant of the TypeScript module is in the first line, up to a semicolon. -/
theorem assigned_typeScriptModule {name : String} (hname : Name.IsPlain name.toList)
    (schema : Json) :
    assigned (line (typeScriptModule name schema) 0) = schema.write .line 0 ++ [';'] := by
  have hnewline : '\n' ∉ name.toList := hname.not_mem (by decide) (by decide)
  have hequals : '=' ∉ name.toList := hname.not_mem (by decide) (by decide)
  have hvalue := Json.newline_not_mem_write Json.Style.unbroken_line rfl 0 schema
  have htext : (typeScriptModule name schema).toList =
      ("export const ".toList ++ name.toList ++ [' '] ++
        '=' :: ' ' :: (schema.write .line 0 ++ [';'])) ++ '\n' ::
          ("export default " ++ name ++ ";\n").toList := by
    unfold typeScriptModule Json.render
    simp only [String.toList_append, String.toList_ofList,
      show " = ".toList = [' ', '=', ' '] from rfl, show ";\n".toList = [';', '\n'] from rfl,
      List.append_assoc, List.cons_append, List.nil_append]
  unfold line
  rw [htext, pieces_append, List.getD_cons_zero]
  · refine assigned_append ?_ _
    simp only [List.mem_append, not_or]
    exact ⟨⟨by decide, hequals⟩, by decide⟩
  · simp only [List.mem_append, List.mem_cons, not_or]
    exact ⟨⟨⟨by decide, hnewline⟩, by decide⟩, by decide, by decide, hvalue, by decide, List.not_mem_nil⟩

/-- The Go source has six lines in front of the declarations. -/
theorem pieces_goSource (schema : Json) (title declarations : String) :
    pieces '\n' (goSource title schema declarations).toList =
      ["// " ++ Source.notice, "", "package " ++ Name.goPackage title, "",
        "const " ++ Name.goRawConstant title ++ " = " ++ goJsonQuote (schema.write .dense 0), ""].map
          String.toList ++ pieces '\n' declarations.toList := by
  have hpackage : '\n' ∉ (Name.goPackage title).toList :=
    (Name.isPlain_package title _).not_mem (by decide) (by decide)
  have hname : '\n' ∉ (Name.goRawConstant title).toList :=
    (Name.isPlain_goRawConstant title).not_mem (by decide) (by decide)
  have hvalue : '\n' ∉ (goJsonQuote (schema.write .dense 0)).toList :=
    newline_not_mem_goJsonQuote (Json.newline_not_mem_write Json.Style.unbroken_dense rfl 0 schema)
  have htext : (goSource title schema declarations).toList =
      ("// " ++ Source.notice).toList ++ '\n' :: ([] ++ '\n' ::
        (("package " ++ Name.goPackage title).toList ++ '\n' :: ([] ++ '\n' ::
          (("const " ++ Name.goRawConstant title ++ " = " ++
            goJsonQuote (schema.write .dense 0)).toList ++ '\n' ::
              ([] ++ '\n' :: declarations.toList))))) := by
    unfold goSource
    simp only [String.toList_append, show "\n\n".toList = ['\n', '\n'] from rfl,
      List.append_assoc, List.cons_append, List.nil_append]
  rw [htext, pieces_append, pieces_append List.not_mem_nil, pieces_append,
    pieces_append List.not_mem_nil, pieces_append, pieces_append List.not_mem_nil]
  · rfl
  · simp only [String.toList_append, List.mem_append, not_or]
    exact ⟨⟨⟨by decide, hname⟩, by decide⟩, hvalue⟩
  · rw [String.toList_append, List.mem_append, not_or]
    exact ⟨by decide, hpackage⟩
  · rw [String.toList_append, List.mem_append, not_or]
    exact ⟨by decide, by decide⟩

/-- The constant of the Go source is in the fifth line. -/
theorem assigned_goSource (schema : Json) (title declarations : String) :
    assigned (line (goSource title schema declarations) 4) =
      (goJsonQuote (schema.write .dense 0)).toList := by
  have hequals : '=' ∉ (Name.goRawConstant title).toList :=
    (Name.isPlain_goRawConstant title).not_mem (by decide) (by decide)
  have hline : line (goSource title schema declarations) 4 =
      ("const ".toList ++ (Name.goRawConstant title).toList ++ [' ']) ++
        '=' :: ' ' :: (goJsonQuote (schema.write .dense 0)).toList := by
    unfold line
    rw [pieces_goSource]
    change ("const " ++ Name.goRawConstant title ++ " = " ++
      goJsonQuote (schema.write .dense 0)).toList = _
    simp only [String.toList_append, show " = ".toList = [' ', '=', ' '] from rfl, List.append_assoc,
      List.cons_append, List.nil_append]
  rw [hline]
  refine assigned_append ?_ _
  simp only [List.mem_append, not_or]
  exact ⟨⟨by decide, hequals⟩, by decide⟩

/-! ### What is read from the artifacts -/

/-- **A Go source holds a schema**: the literal in its fifth line denotes the dense text of the schema, and this
is read as the schema. -/
structure GoHolds (source : String) (schema : Json) : Prop where
  denotes : goUnquote? (assigned (line source 4)) = some (schema.render .dense).toUTF8
  reads : Json.parse (schema.render .dense) = .ok schema

/-- **A TypeScript module holds a schema**: what it assigns in its first line, up to the last semicolon, is read
as the schema. -/
def ModuleHolds (module : String) (schema : Json) : Prop :=
  Json.parse (String.ofList (beforeLast ';' (assigned (line module 0)))) = .ok schema

theorem parse_render_of_readable (h : schema.Regular) {style : Json.Style} (hstyle : style.Readable) :
    Json.parse (schema.render style) = .ok schema := by
  have hread := Json.parse_render hstyle h Json.blank_nil nofun
  rwa [String.ofList_nil, String.append_empty] at hread

theorem goHolds_goSource (h : schema.Regular) (title declarations : String) :
    GoHolds (goSource title schema declarations) schema where
  denotes := by
    rw [assigned_goSource]
    exact goUnquote?_goJsonQuote
      (Json.newline_not_mem_write Json.Style.unbroken_dense rfl 0 schema)
  reads := parse_render_of_readable h Json.Style.readable_dense

theorem moduleHolds_typeScriptModule (h : schema.Regular) (title : String) :
    ModuleHolds (typeScriptModule (Name.typeScriptConstant title) schema) schema := by
  unfold ModuleHolds
  rw [assigned_typeScriptModule (Name.isPlain_typeScriptConstant title), beforeLast_append]
  exact parse_render_of_readable h Json.Style.readable_line

/-! ### What is written -/

/-- The file of the schema. -/
def schemaPath (release : Release) : Path :=
  (release.outpath.child "src").child "schema.json"

/-- The TypeScript module. -/
def modulePath (release : Release) : Path :=
  (release.outpath.child "src").child "index.ts"

/-- The Go source of a title. -/
def goPath (release : Release) (title : String) : Path :=
  release.outpath.child (Name.goPackage title ++ ".go")

variable {release : Release} {title declarations : String}

/-- Emitting Go is writing the source. -/
theorem emit_go (htitle : release.title = .ok title)
    (hrender : release.catalog.render .go = .ok declarations) :
    release.emit .go = write .go (release.goPath title)
      (.plain (goSource title release.schema declarations)) := by
  rw [emit, emitGo, htitle, Task.ofExcept_bind_ok]
  unfold Release.declarations
  rw [hrender, Task.ofExcept_bind_ok]
  rfl

/-- Emitting TypeScript starts with the file of the schema and the module. -/
theorem exists_emit_typeScript (htitle : release.title = .ok title)
    (hrender : release.catalog.render .typeScript = .ok declarations) :
    ∃ rest, release.emit .typeScript = (do
      write .typeScript release.schemaPath (.plain (document release.schema))
      write .typeScript release.modulePath
        (.plain (typeScriptModule (Name.typeScriptConstant title) release.schema))
      rest) := by
  rw [emit, emitTypeScript, htitle, Task.ofExcept_bind_ok]
  unfold Release.declarations
  rw [hrender, Task.ofExcept_bind_ok]
  exact ⟨_, rfl⟩

/-! ### What stands in the files -/

variable {tree after : Tree} {language : Language}

/-- **Constants stand in their files** once a list of outputs is put. -/
theorem readBytes_forM_put {outputs : List Output} (hwf : tree.WellFormed) (hlinks : tree.NoLinks)
    (hnodup : (outputs.map fun output => output.path.place).Nodup) {path : Path} {text : String}
    (hmem : Output.constant path text ∈ outputs)
    (h : (outputs.forM (Output.put language)).outcome tree = (.ok (), after)) :
    after.readBytes path = .ok text.toUTF8 := by
  induction outputs generalizing tree with
  | nil => cases hmem
  | cons output rest ih =>
    rw [List.map_cons, List.nodup_cons] at hnodup
    rw [forM_put_cons] at h
    cases hfirst : (output.put language).outcome tree with
    | mk result middle =>
      cases result with
      | error stop =>
        rw [Task.outcome_bind_error hfirst] at h
        cases h
      | ok =>
        rw [Task.outcome_bind_ok hfirst] at h
        have htouched := (Output.footprint hwf hlinks hfirst).touched
        have hwf' := htouched.wellFormed hwf
        have hlinks' := htouched.noLinks hlinks
        rcases List.mem_cons.1 hmem with rfl | hmem
        · obtain ⟨-, hread⟩ := touched_write hwf hlinks hfirst
          obtain ⟨written, heq, hread⟩ := hread rfl
          cases heq
          exact (Output.footprint_outputs hwf' hlinks' h).touched.readBytes hlinks' hnodup.1 hread
        · exact ih hwf' hlinks' hnodup.2 hmem h

/-- **Constants of a language stand in their files** once languages are emitted. -/
theorem readBytes_forM_emit (hcompile : release.config.compileTs.isTruthy = false)
    {languages : List Language} (hwf : tree.WellFormed) (hlinks : tree.NoLinks)
    (hnodup : languages.Nodup) (hlanguage : language ∈ languages)
    (h : (languages.forM release.emit).outcome tree = (.ok (), after)) :
    ∃ outputs, release.outputs language = .ok outputs ∧
      ∀ path text, Output.constant path text ∈ outputs → after.readBytes path = .ok text.toUTF8 := by
  induction languages generalizing tree with
  | nil => cases hlanguage
  | cons first rest ih =>
    rw [List.nodup_cons] at hnodup
    cases hfirst : (release.emit first).outcome tree with
    | mk result middle =>
      cases result with
      | error stop =>
        rw [List.forM_eq_forM, List.forM_cons, Task.outcome_bind_error hfirst] at h
        cases h
      | ok =>
        rw [outcome_forM_cons hfirst] at h
        have htouched := (footprint_emit hcompile hwf hlinks hfirst).touched
        have hwf' := htouched.wellFormed hwf
        have hlinks' := htouched.noLinks hlinks
        rcases List.mem_cons.1 hlanguage with rfl | hlanguage
        · rw [outcome_emit hcompile] at hfirst
          cases houtputs : release.outputs language with
          | error cause =>
            rw [houtputs] at hfirst
            cases hfirst
          | ok outputs =>
            rw [houtputs] at hfirst
            have hpaths := map_path_outputs houtputs
            have hplaces : (outputs.map fun output => output.path.place).Nodup := by
              have hfiles : ((release.files language).map Path.place).Nodup := nodup_places language
              rwa [← hpaths, List.map_map] at hfiles
            refine ⟨outputs, rfl, fun path text hmem => ?_⟩
            have hfile : path ∈ release.files language := hpaths ▸ List.mem_map_of_mem hmem
            -- the languages behind this one have other places
            exact (footprint_forM hcompile hwf' hlinks' h).touched.readBytes hlinks'
              (place_not_mem_places hnodup.1 hfile)
              (readBytes_forM_put hwf hlinks hplaces hmem hfirst)
        · exact ih hwf' hlinks' hnodup.2 hlanguage h

end Release

/-! ### Preparations -/

namespace Plugin

open Release

variable {plugin : Plugin} {tools : Tools} {readConfig : Except Crash Config}
  {readContext : Except Crash ReleaseContext} {tree begun : Tree} {release : Release}
  {languages : List Language}

/-- A schema with a title has it as the title of the release. -/
theorem exists_title (h : isTitled release.schema.toRaw = true) : ∃ title, release.title = .ok title := by
  unfold isTitled Raw.get? at h
  cases hschema : release.schema with
  | obj members =>
    rw [hschema, Json.toRaw] at h
    unfold Release.title
    rw [hschema]
    simp only [Json.lookup_membersToRaw] at h ⊢
    cases htitle : Members.get? members "title" with
    | none =>
      rw [htitle] at h
      cases h
    | some value =>
      rw [htitle] at h
      cases value with
      | str title => exact ⟨title, rfl⟩
      | _ => cases h
  | _ =>
    rw [hschema] at h
    cases h

/-- **The primary schema is as it was read**: it is what the file at the first location says, and it has a
title. -/
theorem Begins.primary (h : plugin.Begins tools readConfig readContext tree release languages begun) :
    (∃ locations place others text, release.config.schemaLocations = .ok locations ∧
      resolveLocations begun plugin.directory locations = .ok (place :: others) ∧
      begun.readText (Path.ofLocation place) = .ok text ∧ Json.parse text = .ok release.schema) ∧
    ∃ title, release.title = .ok title := by
  obtain ⟨locations, hlocations, -, hanalyze⟩ := h.analyzed
  obtain ⟨schemas, hschemas, hanalyze⟩ := Json.bind_eq_ok hanalyze
  obtain ⟨_, -, hanalyze⟩ := Json.bind_eq_ok hanalyze
  obtain ⟨places, hplaces, hloads⟩ := loadSchemas_eq_ok_iff.1 hschemas
  simp only at hanalyze
  split at hanalyze
  · cases hanalyze
  · next htitled =>
    obtain ⟨inlined, -, hanalyze⟩ := Json.bind_eq_ok hanalyze
    have hprimary : Plugin.narrow (schemas.head?.getD .null) = .ok release.schema := by
      split at hanalyze
      · obtain ⟨primary, hprimary, heq⟩ := Json.bind_eq_ok hanalyze
        cases heq
        exact hprimary
      · cases hanalyze
      · cases hanalyze
    have hraw := Raw.eq_toRaw (narrow_eq_ok_iff.1 hprimary)
    rw [hraw, Bool.not_eq_true', Bool.not_eq_false] at htitled
    cases hloads with
    | nil =>
      rw [← hraw] at htitled
      cases htitled
    | @cons place schema others _ hload _ =>
      obtain ⟨members, rfl, hload⟩ := hload
      obtain ⟨text, htext, hparse⟩ := loadSchema_eq_schema_iff.1 hload
      rw [show Raw.obj members = release.schema.toRaw from hraw] at hparse
      exact ⟨⟨locations, place, others, text, hlocations, hplaces, htext,
        Json.parse_eq_ok_iff.2 hparse⟩, exists_title htitled⟩

/-- **The primary schema is in the artifacts of a preparation**, as it was read. The Go source is one write, and
the TypeScript artifacts start with the file of the schema and the module, in any files; where no link is in
the way and no compiler is run, these texts stand in the files once the preparation is through. -/
theorem prepare_embeds (h : plugin.Begins tools readConfig readContext tree release languages begun) :
    (∃ locations place others text, release.config.schemaLocations = .ok locations ∧
      resolveLocations begun plugin.directory locations = .ok (place :: others) ∧
      begun.readText (Path.ofLocation place) = .ok text ∧ Json.parse text = .ok release.schema) ∧
    ∃ title, release.title = .ok title ∧
      (∀ declarations, release.catalog.render .go = .ok declarations →
        ∃ source, GoHolds source release.schema ∧
          release.emit .go = Release.write .go (release.goPath title) (.plain source)) ∧
      (∀ declarations, release.catalog.render .typeScript = .ok declarations →
        ∃ text module rest, Json.parse text = .ok release.schema ∧ ModuleHolds module release.schema ∧
          release.emit .typeScript = (do
            Release.write .typeScript release.schemaPath (.plain text)
            Release.write .typeScript release.modulePath (.plain module)
            rest)) ∧
      (tree.WellFormed → tree.NoLinks → release.config.compileTs.isTruthy = false →
        ∀ after, (plugin.prepare tools readConfig readContext).outcome tree = (.ok (), after) →
          (.go ∈ languages → ∃ source, GoHolds source release.schema ∧
            after.readBytes (release.goPath title) = .ok source.toUTF8) ∧
          (.typeScript ∈ languages → ∃ text module, Json.parse text = .ok release.schema ∧
            ModuleHolds module release.schema ∧
            after.readBytes release.schemaPath = .ok text.toUTF8 ∧
            after.readBytes release.modulePath = .ok module.toUTF8)) := by
  obtain ⟨hread, title, htitle⟩ := h.primary
  have hregular : release.schema.Regular := by
    obtain ⟨_, _, _, _, -, -, -, hparse⟩ := hread
    exact Json.regular_of_parse hparse
  refine ⟨hread, title, htitle, fun declarations hrender => ?_, fun declarations hrender => ?_,
    fun hwf hlinks hcompile after hprepare => ?_⟩
  · exact ⟨_, goHolds_goSource hregular title declarations, emit_go htitle hrender⟩
  · obtain ⟨rest, hemit⟩ := exists_emit_typeScript htitle hrender
    exact ⟨_, _, rest, parse_document hregular, moduleHolds_typeScriptModule hregular title, hemit⟩
  · rw [h.outcome_prepare] at hprepare
    have hready := h.ready hwf hlinks
    have hnodup := Config.nodup_selectedLanguages h.languages
    refine ⟨fun hgo => ?_, fun hscript => ?_⟩
    · obtain ⟨outputs, houtputs, hconstant⟩ := readBytes_forM_emit hcompile hready.wellFormed
        hready.noLinks hnodup hgo hprepare
      obtain ⟨title', htitle', houtputs⟩ := Json.bind_eq_ok houtputs
      obtain ⟨declarations, -, houtputs⟩ := Json.bind_eq_ok houtputs
      obtain rfl := Except.ok.inj (htitle.symm.trans htitle')
      obtain rfl := Except.ok.inj houtputs
      exact ⟨_, goHolds_goSource hregular title declarations, hconstant _ _ List.mem_cons_self⟩
    · obtain ⟨outputs, houtputs, hconstant⟩ := readBytes_forM_emit hcompile hready.wellFormed
        hready.noLinks hnodup hscript hprepare
      obtain ⟨title', htitle', houtputs⟩ := Json.bind_eq_ok houtputs
      obtain ⟨declarations, -, houtputs⟩ := Json.bind_eq_ok houtputs
      obtain rfl := Except.ok.inj (htitle.symm.trans htitle')
      obtain rfl := Except.ok.inj houtputs
      exact ⟨_, _, parse_document hregular, moduleHolds_typeScriptModule hregular title,
        hconstant _ _ List.mem_cons_self, hconstant _ _ (List.mem_cons_of_mem _ List.mem_cons_self)⟩

/-- The schema of a word in Go and in TypeScript. -/
theorem prepare_embeds_word :
    wordTree.WellFormed ∧ wordTree.NoLinks ∧
    (∃ after source, (verifiedPlugin.prepare default (.ok (wordConfig "u" (.only [.go])))
        (.ok firstContext)).outcome wordTree = (.ok (), after) ∧
      GoHolds source (.obj wordMembers) ∧ after.readBytes ⟨"/", ["out", "u.go"]⟩ = .ok source.toUTF8) ∧
    ∃ after text module, (verifiedPlugin.prepare default
        (.ok (wordConfig "../escaped" (.only [.typeScript]))) (.ok firstContext)).outcome wordTree =
          (.ok (), after) ∧
      Json.parse text = .ok (.obj wordMembers) ∧ ModuleHolds module (.obj wordMembers) ∧
      after.readBytes (wordRelease default "../escaped" (.only [.typeScript])).schemaPath = .ok text.toUTF8 ∧
      after.readBytes (wordRelease default "../escaped" (.only [.typeScript])).modulePath =
        .ok module.toUTF8 := by
  refine ⟨wellFormed_wordTree, noLinks_wordTree, ?_, ?_⟩
  · obtain ⟨after, hrun⟩ := prepare_go_word default "u"
    have hlanguages : (Selection.only [.go]).languages = .ok [.go] := rfl
    obtain ⟨-, title, htitle, -, -, hfiles⟩ := prepare_embeds (begins_word default "u" hlanguages)
    obtain ⟨source, hholds, hread⟩ :=
      (hfiles wellFormed_wordTree noLinks_wordTree rfl after hrun).1 List.mem_cons_self
    obtain rfl : "U" = title := Except.ok.inj htitle
    have hpath : (wordRelease default "u" (.only [.go])).goPath "U" = ⟨"/", ["out", "u.go"]⟩ := by
      unfold goPath
      rw [show Name.goPackage "U" = "u" by decide +kernel]
      exact Path.child_step (by decide)
    exact ⟨after, source, hrun, hholds, hpath ▸ hread⟩
  · obtain ⟨after, hrun, -⟩ := prepare_typeScript_escaping default
    have hlanguages : (Selection.only [.typeScript]).languages = .ok [.typeScript] := rfl
    obtain ⟨-, title, -, -, -, hfiles⟩ := prepare_embeds (begins_word default "../escaped" hlanguages)
    obtain ⟨text, module, hfile⟩ :=
      (hfiles wellFormed_wordTree noLinks_wordTree rfl after hrun).2 List.mem_cons_self
    exact ⟨after, text, module, hrun, hfile⟩

/-! ### Schemas with an integer that is too long -/

/-- The schema of a word with a default value: `{"default":n,"title":"U","type":"string"}`. -/
def defaultText (n : Int) : String :=
  String.ofList ('\x7b' :: (Json.quote false "default" ++ ':' :: ((toString n).toList ++
    ",\"title\":\"U\",\"type\":\"string\"\x7d".toList)))

theorem return_not_mem_defaultText (n : Int) : '\r' ∉ (defaultText n).toList := by
  have hdigits : '\r' ∉ (toString n).toList := by
    rw [Json.toList_toString_int]
    unfold Json.signed
    rw [List.mem_append, not_or]
    refine ⟨by split <;> decide, fun hmem => ?_⟩
    exact absurd (Json.allDigits_toDigits _ _ hmem) (by decide)
  unfold defaultText
  rw [String.toList_ofList]
  simp only [List.mem_cons, List.mem_append, not_or]
  exact ⟨by decide, by decide, by decide, hdigits, by decide⟩

/-- **A preparation stops at an integer with too many digits**, and leaves the files as they are. -/
theorem prepare_tooLong (tools : Tools) {n : Int} (hlong : Integer.ofInt? n = none) (selection : Selection) :
    (verifiedPlugin.prepare tools (.ok (wordConfig "u" selection)) (.ok firstContext)).outcome
      (sourceTree (defaultText n)) = (.error (.crash .badValue), sourceTree (defaultText n)) := by
  have hends : Json.EndsNumber ",\"title\":\"U\",\"type\":\"string\"\x7d".toList := by
    rintro c ⟨⟩
    decide
  have hload : loadSchema (sourceTree (defaultText n)) ["s.json"] = .error .badValue := by
    unfold loadSchema
    simp only [show Path.ofLocation ["s.json"] = ⟨"/", ["s.json"]⟩ from rfl,
      readText_source (return_not_mem_defaultText n)]
    unfold defaultText
    rw [Json.parseRaw_tooLong "default" hlong hends]
    rfl
  have hanalyze : verifiedPlugin.analyze [.str "s.json"] (sourceTree (defaultText n)) =
      .error (.crash .badValue) := by
    unfold analyze loadSchemas
    change (((resolveLocations (sourceTree (defaultText n)) ⟨"/", []⟩ [.str "s.json"]).mapError _ >>= _) >>= _) = _
    rw [resolveLocations_source]
    change (((loadSchema (sourceTree (defaultText n)) ["s.json"] >>= fun first => pure [first]).mapError _ >>= _) >>= _) = _
    rw [hload]
    rfl
  have hversion : firstContext.version = some "1.0.0" := by cbv
  have houtpath : verifiedPlugin.outpath (wordConfig "u" selection) = .ok ⟨"/", ["out"]⟩ := by
    change Except.ok (Path.child ⟨"/", []⟩ "out") = _
    rw [Path.child_step (by decide)]
    rfl
  have hmade : (ensureDirectory (Path.child ⟨"/", ["out"]⟩ "src")).outcome (sourceTree (defaultText n)) =
      (.ok (), sourceTree (defaultText n)) := by
    rw [Path.child_step (by decide)]
    exact outcome_ensureDirectory_of_find (noLinks_sourceTree _) (find_sources _)
  have hlocations : (wordConfig "u" selection).schemaLocations = .ok [.str "s.json"] := rfl
  unfold prepare
  simp only [show verifiedPlugin.verified = true from rfl, Bool.not_true, Bool.false_eq_true, if_false,
    Task.ofExcept_bind_ok, hversion, houtpath, hlocations, List.isEmpty_cons]
  rw [Task.outcome_bind_ok (by rw [Task.outcome_wrapFailure, hmade]; rfl),
    Task.outcome_bind_error (by rw [Task.outcome_look, hanalyze]; rfl)]
  rfl

/-- A schema with an integer of 4301 digits is in no artifact. -/
theorem prepare_embeds_not :
    Integer.ofInt? (10 ^ 4300) = none ∧
    (verifiedPlugin.prepare default (.ok (wordConfig "u" (.only [.go]))) (.ok firstContext)).outcome
      (sourceTree (defaultText (10 ^ 4300))) =
        (.error (.crash .badValue), sourceTree (defaultText (10 ^ 4300))) ∧
    (sourceTree (defaultText (10 ^ 4300))).hasFile ⟨"/", ["out", "u.go"]⟩ = false := by
  have hpower (count : Nat) : 10 ^ count ≤ ((10 : Int) ^ count).natAbs := (Int.natAbs_pow 10 count).ge
  have hlong : Integer.ofInt? (10 ^ 4300) = none := Json.ofInt?_eq_none (le_refl 4300) (hpower 4300)
  refine ⟨hlong, prepare_tooLong default hlong (.only [.go]), Bool.eq_false_iff.2 fun hfile => ?_⟩
  obtain ⟨bytes, hbytes⟩ := Tree.readBytes_of_hasFile hfile
  exact absurd (Tree.get?_place_of_readBytes (noLinks_sourceTree _) hbytes) nofun

end Plugin

end SchemaPress
