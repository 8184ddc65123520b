import SchemaPress.Proofs.Files.Touched
import SchemaPress.Proofs.Json.Reading
import SchemaPress.Proofs.Release.Artifacts
import SchemaPress.Release.Plugin

/-!
# Emitting as a list of outputs

Emitting a language writes a few files one after the other. Each of them is an `Output`: a path, and
the content that goes there, which may be worked out from the file that is there already.
`Release.outcome_emit` says that emitting is putting the outputs of the language, unless the release
cannot be told in the language at all; then nothing is written. What is to be said about emitting can
so be said about one output, and then about a list of them.

Preparing begins with everything that does not depend on the languages: the plugin has to be verified,
the directory for the sources is made, and the schemas are loaded and analyzed (`Plugin.Begins`).
Then the languages are emitted one after the other, up to the first one that fails
(`Release.Emits`). Until a preparation has begun, it touches no file (`Plugin.begins_or_stops`).
-/

namespace SchemaPress

/-! ### The course of a preparation -/

/-- A language is selected once. -/
theorem Config.nodup_selectedLanguages {config : Config} {languages : List Language}
    (h : config.selectedLanguages = .ok languages) : languages.Nodup := by
  have hall : Language.all.Nodup := by decide
  unfold selectedLanguages at h
  split at h
  · cases h
  · unfold Selection.languages at h
    split at h
    · cases h
      exact hall
    · cases h
      exact hall.filter _
    · cases h

namespace Plugin

/-- **How a preparation begins**: the release that the plugin works out, the languages that it is for,
and the files when the first of them is emitted. -/
structure Begins (plugin : Plugin) (tools : Tools) (readConfig : Except Crash Config)
    (readContext : Except Crash ReleaseContext) (tree : Tree) (release : Release)
    (languages : List Language) (begun : Tree) : Prop where
  verified : plugin.verified = true
  context : ∃ context, readContext = .ok context ∧ context.version = some release.version
  config : readConfig = .ok release.config
  outpath : plugin.outpath release.config = .ok release.outpath
  made : (ensureDirectory (release.outpath.child "src")).outcome tree = (.ok (), begun)
  analyzed : ∃ locations, release.config.schemaLocations = .ok locations ∧ locations ≠ [] ∧
    plugin.analyze locations begun = .ok (release.schema, release.catalog)
  languages : release.config.selectedLanguages = .ok languages
  tools : release.tools = tools

variable {plugin : Plugin} {tools : Tools} {readConfig : Except Crash Config}
  {readContext : Except Crash ReleaseContext} {tree : Tree}

/-- A preparation that begins goes on with the languages. -/
theorem Begins.outcome_prepare {release : Release} {languages : List Language} {begun : Tree}
    (h : plugin.Begins tools readConfig readContext tree release languages begun) :
    (plugin.prepare tools readConfig readContext).outcome tree =
      (languages.forM release.emit).outcome begun := by
  obtain ⟨context, hcontext, hversion⟩ := h.context
  obtain ⟨locations, hlocations, hne, hanalyze⟩ := h.analyzed
  have hnonempty : locations.isEmpty = false := by simpa using hne
  unfold prepare
  simp only [h.verified, Bool.not_true, Bool.false_eq_true, if_false, hcontext,
    Task.ofExcept_bind_ok, hversion, h.config, h.outpath, hlocations, hnonempty, h.languages]
  have hlook : (Task.look id (plugin.analyze locations)).outcome begun =
      (.ok (release.schema, release.catalog), begun) := by
    rw [Task.outcome_look, hanalyze]
    rfl
  rw [Task.outcome_bind_ok (by rw [Task.outcome_wrapFailure, h.made]; rfl),
    Task.outcome_bind_ok hlook, ← h.tools]

end Plugin

namespace Release

/-- **How emitting languages ends**: with all of them, or with the first one that fails. -/
inductive Emits (release : Release) (begun : Tree) :
    List Language → List Language → Except (Stop ReleaseError) Unit → Tree → Prop where
  | all {languages : List Language} {after : Tree}
      (h : (languages.forM release.emit).outcome begun = (.ok (), after)) :
      Emits release begun languages languages (.ok ()) after
  | fails {before behind : List Language} {language : Language} {middle after : Tree}
      {stop : Stop ReleaseError}
      (hbefore : (before.forM release.emit).outcome begun = (.ok (), middle))
      (hlast : (release.emit language).outcome middle = (.error stop, after)) :
      Emits release begun (before ++ language :: behind) (before ++ [language]) (.error stop) after

variable {release : Release} {begun after : Tree}

theorem outcome_forM_cons {language : Language} {rest : List Language} {middle : Tree}
    (h : (release.emit language).outcome begun = (.ok (), middle)) :
    ((language :: rest).forM release.emit).outcome begun = (rest.forM release.emit).outcome middle := by
  rw [List.forM_eq_forM, List.forM_cons, Task.outcome_bind_ok h]

/-- Emitting ends in one of these ways, by the languages from the first one on. -/
theorem emits_of_outcome {languages : List Language} {answer : Except (Stop ReleaseError) Unit}
    (h : (languages.forM release.emit).outcome begun = (answer, after)) :
    ∃ done, release.Emits begun languages done answer after := by
  induction languages generalizing begun with
  | nil =>
    cases h
    exact ⟨[], .all rfl⟩
  | cons language rest ih =>
    cases hfirst : (release.emit language).outcome begun with
    | mk result middle =>
      cases result with
      | error stop =>
        rw [List.forM_eq_forM, List.forM_cons, Task.outcome_bind_error hfirst] at h
        cases h
        have hnone : (([] : List Language).forM release.emit).outcome begun = (.ok (), begun) := rfl
        exact ⟨[] ++ [language], .fails hnone hfirst⟩
      | ok =>
        rw [outcome_forM_cons hfirst] at h
        obtain ⟨done, hdone⟩ := ih h
        cases hdone with
        | all hall => exact ⟨_, .all (by rw [outcome_forM_cons hfirst, hall])⟩
        | @fails before _ last middle' _ _ hbefore hlast =>
          have hmore : ((language :: before).forM release.emit).outcome begun = (.ok (), middle') := by
            rw [outcome_forM_cons hfirst, hbefore]
          exact ⟨_, .fails hmore hlast⟩

end Release

/-! ### Outputs -/

/-- One file that is written, or is left alone if there is no content for it. -/
structure Output where
  /-- Where the file is. -/
  path : Path
  /-- Its content, by the files that are there. -/
  content : Tree → Except (Stop ReleaseError) (Option Writer.Content)

namespace Output

/-- A text that does not depend on the files. -/
def constant (path : Path) (text : String) : Output :=
  ⟨path, fun _ => .ok (some (.plain text))⟩

@[simp] theorem path_constant (path : Path) (text : String) : (constant path text).path = path := rfl

/-- Whether anything is at a path; a failure to find out is a crash. -/
def present (tree : Tree) (path : Path) : Except (Stop ReleaseError) Bool :=
  (tree.leadsTo (fun _ => true) path).mapError fun failure => .crash failure.toCrash

/-- Works the content out and writes it. -/
def put (language : Language) (output : Output) : Task (Stop ReleaseError) Unit := do
  match ← Task.look id output.content with
  | some content => Release.write language output.path content
  | none => return ()

variable {output : Output} {language : Language} {tree : Tree}

theorem outcome_put_error {stop : Stop ReleaseError} (h : output.content tree = .error stop) :
    (output.put language).outcome tree = (.error stop, tree) := by
  unfold put
  exact Task.outcome_bind_error (by rw [Task.outcome_look, h]; rfl)

theorem outcome_put_none (h : output.content tree = .ok none) :
    (output.put language).outcome tree = (.ok (), tree) := by
  unfold put
  rw [Task.outcome_bind_ok (by rw [Task.outcome_look, h]; rfl)]
  rfl

theorem outcome_put_some {content : Writer.Content} (h : output.content tree = .ok (some content)) :
    (output.put language).outcome tree = (Release.write language output.path content).outcome tree := by
  unfold put
  rw [Task.outcome_bind_ok (by rw [Task.outcome_look, h]; rfl)]

end Output

namespace Release

variable {release : Release} {tree : Tree}

/-- The description of the package, stamped if there is one. -/
def packageOutput (release : Release) : Output where
  path := release.packagePath
  content tree := do
    if ← Output.present tree release.packagePath then
      (stampPackage? tree release.packagePath release.version).mapError .crash
    else return none

/-- The manifest, merged with the one that is there. -/
def manifestOutput (release : Release) (name : String) : Output where
  path := release.outpath.child "Cargo.toml"
  content tree := do
    let _ ← Output.present tree (release.outpath.child "Cargo.toml")
    let text ← (mergedManifest release.tools.toml tree (release.outpath.child "Cargo.toml") name
      release.version).mapError .crash
    return some (.plain text)

/-- What a release writes for a language, in order. -/
def outputs (release : Release) : Language → Except Crash (List Output)
  | .typeScript => do
    let title ← release.title
    let declarations ← release.catalog.render .typeScript
    let sources := release.outpath.child "src"
    return [.constant (sources.child "schema.json") (document release.schema),
      .constant (sources.child "index.ts")
        (typeScriptModule (Name.typeScriptConstant title) release.schema),
      .constant (release.outpath.child (release.config.outputName.display ++ ".d.ts")) declarations,
      release.packageOutput]
  | .go => do
    let title ← release.title
    let declarations ← release.catalog.render .go
    return [.constant (release.outpath.child (Name.goPackage title ++ ".go"))
      (goSource title release.schema declarations)]
  | .rust => do
    let declarations ← release.catalog.render .rust
    let title ← release.title
    return [release.manifestOutput (Name.crate title),
      .constant ((release.outpath.child "src").child "lib.rs") declarations]
  | .python => do
    let declarations ← release.catalog.render .python
    return [.constant (release.outpath.child "index.py") declarations]

/-- Putting a constant is writing it. -/
theorem put_constant (language : Language) (path : Path) (text : String) :
    (Output.constant path text).put language = write language path (.plain text) := rfl

theorem stampPackage_eq (release : Release) :
    release.stampPackage = release.packageOutput.put .typeScript := by
  refine Task.ext fun tree => ?_
  have hthere : (isThere release.packagePath).outcome tree =
      (Output.present tree release.packagePath, tree) := Task.outcome_look
  have hlook : (Task.look Stop.crash (stampPackage? · release.packagePath release.version) :
      Task (Stop ReleaseError) (Option Writer.Content)).outcome tree =
        ((stampPackage? tree release.packagePath release.version).mapError .crash, tree) :=
    Task.outcome_look
  unfold stampPackage
  change ((isThere release.packagePath) >>= _ : Task _ _).outcome tree = _
  cases hpresent : Output.present tree release.packagePath with
  | error stop =>
    rw [Output.outcome_put_error (by simp only [packageOutput, hpresent]; rfl)]
    exact Task.outcome_bind_error (hpresent ▸ hthere)
  | ok found =>
    rw [Task.outcome_bind_ok (hpresent ▸ hthere)]
    cases found with
    | false =>
      rw [Output.outcome_put_none (by simp only [packageOutput, hpresent]; rfl)]
      rfl
    | true =>
      simp only [if_true]
      change ((Task.look Stop.crash (stampPackage? · release.packagePath release.version)) >>= _ :
        Task _ _).outcome tree = _
      cases hstamp : stampPackage? tree release.packagePath release.version with
      | error cause =>
        rw [hstamp] at hlook
        rw [Output.outcome_put_error (by simp only [packageOutput, hpresent, hstamp]; rfl)]
        exact Task.outcome_bind_error hlook
      | ok content =>
        rw [hstamp] at hlook
        rw [Task.outcome_bind_ok hlook]
        cases content with
        | none =>
          rw [Output.outcome_put_none (by simp only [packageOutput, hpresent, hstamp]; rfl)]
          rfl
        | some content =>
          rw [Output.outcome_put_some (by simp only [packageOutput, hpresent, hstamp]; rfl)]
          rfl

theorem putManifest_eq (release : Release) (name : String) :
    (do
      discard (isThere (release.outpath.child "Cargo.toml"))
      let manifest ← Task.look .crash
        (mergedManifest release.tools.toml · (release.outpath.child "Cargo.toml") name release.version)
      write .rust (release.outpath.child "Cargo.toml") (.plain manifest) : Task (Stop ReleaseError) Unit) =
      (release.manifestOutput name).put .rust := by
  refine Task.ext fun tree => ?_
  let path := release.outpath.child "Cargo.toml"
  have hthere : (isThere path).outcome tree = (Output.present tree path, tree) := Task.outcome_look
  have hlook : (Task.look Stop.crash (mergedManifest release.tools.toml · path name release.version) :
      Task (Stop ReleaseError) String).outcome tree =
        ((mergedManifest release.tools.toml tree path name release.version).mapError .crash, tree) :=
    Task.outcome_look
  cases hpresent : Output.present tree path with
  | error stop =>
    rw [hpresent] at hthere
    rw [Output.outcome_put_error (by simp only [manifestOutput]; rw [hpresent]; rfl)]
    refine Task.outcome_bind_error ?_
    rw [Task.outcome_discard, hthere]
    rfl
  | ok found =>
    rw [hpresent] at hthere
    rw [Task.outcome_bind_ok (by rw [Task.outcome_discard, hthere]; rfl)]
    cases hmerge : mergedManifest release.tools.toml tree path name release.version with
    | error cause =>
      rw [hmerge] at hlook
      rw [Output.outcome_put_error (by simp only [manifestOutput]; rw [hpresent, hmerge]; rfl)]
      exact Task.outcome_bind_error hlook
    | ok text =>
      rw [hmerge] at hlook
      rw [Task.outcome_bind_ok hlook,
        Output.outcome_put_some (by simp only [manifestOutput]; rw [hpresent, hmerge]; rfl)]
      rfl

theorem forM_put_cons (language : Language) (output : Output) (rest : List Output) :
    (output :: rest).forM (Output.put language) =
      output.put language >>= fun _ => rest.forM (Output.put language) :=
  List.forM_cons

theorem forM_put_nil (language : Language) (before : Task (Stop ReleaseError) Unit) :
    (before >>= fun _ => [].forM (Output.put language)) = before :=
  bind_pure_unit

/-- **Emitting a language is putting its outputs**, without the TypeScript compiler. -/
theorem emit_eq (hcompile : release.config.compileTs.isTruthy = false) (language : Language) :
    release.emit language =
      (Task.ofExcept .crash (release.outputs language)) >>= fun outputs =>
        outputs.forM (Output.put language) := by
  cases language with
  | typeScript =>
    rw [emit, emitTypeScript]
    unfold declarations
    cases htitle : release.title with
    | error cause =>
      rw [outputs, htitle]
      rfl
    | ok title =>
      cases hrender : release.catalog.render .typeScript with
      | error cause =>
        rw [outputs, htitle, hrender]
        rfl
      | ok declarations =>
        simp only [Task.ofExcept_bind_ok, hcompile, Bool.false_eq_true, if_false, stampPackage_eq,
          outputs, htitle, hrender, Task.ok_bind, pure, Except.pure, forM_put_cons,
          forM_put_nil, put_constant]
  | go =>
    rw [emit, emitGo]
    unfold declarations
    cases htitle : release.title with
    | error cause =>
      rw [outputs, htitle]
      rfl
    | ok title =>
      cases hrender : release.catalog.render .go with
      | error cause =>
        rw [outputs, htitle, hrender]
        rfl
      | ok declarations =>
        simp only [Task.ofExcept_bind_ok, outputs, htitle, hrender, Task.ok_bind, pure,
          Except.pure, forM_put_cons, forM_put_nil, put_constant]
  | rust =>
    rw [emit, emitRust]
    unfold declarations
    cases hrender : release.catalog.render .rust with
    | error cause =>
      rw [outputs, hrender]
      rfl
    | ok declarations =>
      cases htitle : release.title with
      | error cause =>
        rw [outputs, htitle, hrender]
        rfl
      | ok title =>
        simp only [Task.ofExcept_bind_ok, outputs, htitle, hrender, Task.ok_bind, pure,
          Except.pure, forM_put_cons, forM_put_nil, put_constant, ← putManifest_eq, bind_assoc]
  | python =>
    rw [emit, emitPython]
    unfold declarations
    cases hrender : release.catalog.render .python with
    | error cause =>
      rw [outputs, hrender]
      rfl
    | ok declarations =>
      simp only [Task.ofExcept_bind_ok, outputs, hrender, Task.ok_bind, pure,
        Except.pure, forM_put_cons, forM_put_nil, put_constant]

theorem outcome_emit (hcompile : release.config.compileTs.isTruthy = false) (language : Language)
    (tree : Tree) :
    (release.emit language).outcome tree =
      match release.outputs language with
      | .error cause => (.error (.crash cause), tree)
      | .ok outputs => (outputs.forM (Output.put language)).outcome tree := by
  rw [emit_eq hcompile]
  cases release.outputs language with
  | error cause => exact Task.ofExcept_bind_error
  | ok outputs => rw [Task.ofExcept_bind_ok]

/-! ### Which outputs there are -/

theorem goFiles_eq {title : String} (h : release.title = .ok title) :
    release.goFiles = [release.outpath.child (Name.goPackage title ++ ".go")] := by
  unfold goFiles
  rw [h]

/-- **The outputs of a language** go to its artifacts, constants and the manifest; apart from these
there is the description of the package. -/
theorem mem_outputs {language : Language} {outputs : List Output}
    (h : release.outputs language = .ok outputs) {output : Output} (hmem : output ∈ outputs) :
    (output.path ∈ release.artifacts language ∧
      ((∃ path text, output = .constant path text) ∨
        ∃ title, language = .rust ∧ release.title = .ok title ∧
          output = release.manifestOutput (Name.crate title))) ∨
    output = release.packageOutput := by
  cases language with
  | typeScript =>
    obtain ⟨title, -, h⟩ := Json.bind_eq_ok h
    obtain ⟨declarations, -, h⟩ := Json.bind_eq_ok h
    obtain rfl := Except.ok.inj h
    simp only [List.mem_cons, List.not_mem_nil, or_false] at hmem
    rcases hmem with rfl | rfl | rfl | rfl
    · exact .inl ⟨List.mem_cons_self, .inl ⟨_, _, rfl⟩⟩
    · exact .inl ⟨List.mem_cons_of_mem _ List.mem_cons_self, .inl ⟨_, _, rfl⟩⟩
    · exact .inl ⟨List.mem_cons_of_mem _ (List.mem_cons_of_mem _ List.mem_cons_self),
        .inl ⟨_, _, rfl⟩⟩
    · exact .inr rfl
  | go =>
    obtain ⟨title, htitle, h⟩ := Json.bind_eq_ok h
    obtain ⟨declarations, -, h⟩ := Json.bind_eq_ok h
    obtain rfl := Except.ok.inj h
    rw [List.mem_singleton] at hmem
    refine .inl ⟨?_, .inl ⟨_, _, hmem⟩⟩
    rw [hmem, Output.path_constant, artifacts, goFiles_eq htitle]
    exact List.mem_cons_self
  | rust =>
    obtain ⟨declarations, -, h⟩ := Json.bind_eq_ok h
    obtain ⟨title, htitle, h⟩ := Json.bind_eq_ok h
    obtain rfl := Except.ok.inj h
    simp only [List.mem_cons, List.not_mem_nil, or_false] at hmem
    rcases hmem with rfl | rfl
    · exact .inl ⟨List.mem_cons_self, .inr ⟨title, rfl, htitle, rfl⟩⟩
    · exact .inl ⟨List.mem_cons_of_mem _ List.mem_cons_self, .inl ⟨_, _, rfl⟩⟩
  | python =>
    obtain ⟨declarations, -, h⟩ := Json.bind_eq_ok h
    obtain rfl := Except.ok.inj h
    obtain rfl := List.mem_singleton.1 hmem
    exact .inl ⟨List.mem_cons_self, .inl ⟨_, _, rfl⟩⟩

/-- Outputs go to all files of the language, in order. -/
theorem map_path_outputs {language : Language} {outputs : List Output}
    (h : release.outputs language = .ok outputs) :
    outputs.map Output.path = release.files language := by
  cases language with
  | typeScript =>
    obtain ⟨title, -, h⟩ := Json.bind_eq_ok h
    obtain ⟨declarations, -, h⟩ := Json.bind_eq_ok h
    obtain rfl := Except.ok.inj h
    rfl
  | go =>
    obtain ⟨title, htitle, h⟩ := Json.bind_eq_ok h
    obtain ⟨declarations, -, h⟩ := Json.bind_eq_ok h
    obtain rfl := Except.ok.inj h
    rw [files, artifacts, goFiles_eq htitle, List.map_singleton, Output.path_constant]
    rfl
  | rust =>
    obtain ⟨declarations, -, h⟩ := Json.bind_eq_ok h
    obtain ⟨title, -, h⟩ := Json.bind_eq_ok h
    obtain rfl := Except.ok.inj h
    rfl
  | python =>
    obtain ⟨declarations, -, h⟩ := Json.bind_eq_ok h
    obtain rfl := Except.ok.inj h
    rfl

/-! ### What the contents depend on -/

/-- What is found is there. -/
theorem Output.present_of_find {path : Path} {location : Location} {entry : Entry}
    (h : tree.find path = .ok (location, entry)) : Output.present tree path = .ok true := by
  unfold Output.present Tree.leadsTo
  rw [h]
  rfl

/-- What is read is there. -/
theorem Output.present_of_readText {path : Path} {source : String}
    (h : tree.readText path = .ok source) : Output.present tree path = .ok true := by
  obtain ⟨bytes, -, hbytes, -⟩ := Tree.readText_eq_ok_iff.1 h
  obtain ⟨location, hfind⟩ := Tree.readBytes_eq_ok_iff.1 hbytes
  exact present_of_find hfind

theorem stamped?_of_obj {version text : String} {members : RawMembers}
    (h : Json.parseRaw text = .ok (.obj members)) :
    stamped? version text = .ok (some (rawDocument (.obj (versioned members version)))) := by
  unfold stamped?
  rw [h]

theorem stamped?_of_tooLong {version text : String} (h : Json.parseRaw text = .error .tooLong) :
    stamped? version text = .error .badValue := by
  unfold stamped?
  rw [h]
  rfl

/-- Of any other text nothing is made. -/
theorem stamped?_eq_none {version text : String} (hshort : Json.parseRaw text ≠ .error .tooLong)
    (hnone : ∀ members, Json.parseRaw text ≠ .ok (.obj members)) : stamped? version text = .ok none := by
  unfold stamped?
  split
  · next members hparse => exact absurd hparse (hnone members)
  · rfl
  · rfl
  · next cause hmalformed hparse =>
    obtain rfl := Json.eq_tooLong_of_parseRaw hparse hmalformed
    exact absurd hparse hshort

/-- The content for a package that is described is the description, stamped. -/
theorem content_packageOutput_of_readText {source : String}
    (h : tree.readText release.packagePath = .ok source) :
    release.packageOutput.content tree = (stamped? release.version source).mapError .crash := by
  simp only [packageOutput, Output.present_of_readText h, Task.ok_bind, if_true]
  unfold stampPackage?
  rw [h]

/-- The content for the description of the package, by the one that is there. -/
theorem content_packageOutput {content : Option Writer.Content}
    (h : release.packageOutput.content tree = .ok content) :
    (tree.readText release.packagePath).toOption.elim (.ok none) (stamped? release.version) =
      .ok content := by
  cases hread : tree.readText release.packagePath with
  | ok source =>
    rw [content_packageOutput_of_readText hread] at h
    exact Task.ok_of_mapError h
  | error failure =>
    obtain ⟨found, -, h⟩ := Json.bind_eq_ok h
    cases found with
    | false =>
      cases h
      rfl
    | true =>
      have hstamp := Task.ok_of_mapError h
      unfold stampPackage? at hstamp
      rw [hread] at hstamp
      cases failure <;> cases hstamp <;> rfl

/-- There is one only where a description is read and stamped. -/
theorem exists_readText_of_content {content : Writer.Content}
    (h : release.packageOutput.content tree = .ok (some content)) :
    ∃ source, tree.readText release.packagePath = .ok source ∧
      stamped? release.version source = .ok (some content) := by
  have hcontent := content_packageOutput h
  cases hread : tree.readText release.packagePath with
  | ok source =>
    rw [hread] at hcontent
    exact ⟨source, rfl, hcontent⟩
  | error failure =>
    rw [hread] at hcontent
    cases hcontent

/-- The content for the manifest, by the one that is there. -/
theorem content_manifestOutput {name : String} {content : Option Writer.Content}
    (h : (release.manifestOutput name).content tree = .ok content) :
    ∃ manifest, content = some (.plain manifest) ∧
      Manifest.merge release.tools.toml (tree.readText (release.outpath.child "Cargo.toml")).toOption name
        release.version = .ok manifest := by
  obtain ⟨found, -, h⟩ := Json.bind_eq_ok h
  obtain ⟨manifest, hmerged, h⟩ := Json.bind_eq_ok h
  cases h
  refine ⟨manifest, rfl, ?_⟩
  unfold mergedManifest at hmerged
  cases htext : tree.readText (release.outpath.child "Cargo.toml") with
  | error failure =>
    rw [htext] at hmerged
    cases failure with
    | crash cause => cases hmerged
    | refused => exact Task.ok_of_mapError hmerged
    | unmoved => exact Task.ok_of_mapError hmerged
  | ok existing =>
    rw [htext] at hmerged
    exact Task.ok_of_mapError hmerged

/-- The content for a manifest that is there is that manifest, merged. -/
theorem content_manifestOutput_of_readText {name existing : String}
    (h : tree.readText (release.outpath.child "Cargo.toml") = .ok existing) :
    (release.manifestOutput name).content tree =
      ((Manifest.merge release.tools.toml (some existing) name release.version).map fun manifest =>
        some (.plain manifest)).mapError .crash := by
  simp only [manifestOutput, Output.present_of_readText h, Task.ok_bind]
  unfold mergedManifest
  rw [h]
  simp only
  cases Manifest.merge release.tools.toml (some existing) name release.version <;> rfl

end Release

end SchemaPress
