import SchemaPress.Proofs.Files.Replacement
import SchemaPress.Proofs.Release.Idempotence
import SchemaPress.Toml.Edit

/-!
# Manifests that are broken

Rust and TypeScript take files into account that are there already: the manifest of the crate and the
description of the package. A manifest that is no document, or has no package table, gives way to a fresh one,
and a description that is no JSON object is left as it is (`Release.emit_heals`).

Some contents are not recovered from. Bytes that are no text stop both languages. Rust is stopped by a document
that the library for TOML does not get through (`Manifest.Breaks`), and TypeScript by an integer that is too
long or half of a surrogate pair (`Release.Describes`). Rust then stops before it writes anything, and
TypeScript when its artifacts are written.

That the files can be written is `Release.CanWrite`. There may be links on the way to them: as the description
can still be written once the artifacts are, its path leads where it led before (`Writer.Wrote.walk_eq`).
-/

namespace SchemaPress

open SchemaPress.Tree

variable {tree after : Tree} {language : Language}

/-! ### What becomes of a manifest -/

namespace Manifest

variable {kit : TomlKit} {existing name version : String}

/-- **What a manifest heals to**: a document with a package table gets the version there; anything else gives
way to a fresh manifest. -/
inductive Heals (kit : TomlKit) (existing name version : String) : String → Prop where
  | noDocument (hparse : kit.parse existing = .error (.error ())) :
      Heals kit existing name version (fresh kit name version)
  | noPackage {document : kit.Document} (hparse : kit.parse existing = .ok document)
      (htable : kit.table? document "package" = .ok none) :
      Heals kit existing name version (fresh kit name version)
  | stamped {document next : kit.Document} {package : kit.Table} (hparse : kit.parse existing = .ok document)
      (htable : kit.table? document "package" = .ok (some package))
      (hassign : kit.assign document package "version" version = .ok next) :
      Heals kit existing name version (kit.text next)

/-- **A manifest that the library does not get through**, and the crash that it is. -/
inductive Breaks (kit : TomlKit) (existing version : String) : Crash → Prop where
  | reading {cause : Crash} (hparse : kit.parse existing = .error (.crash cause)) :
      Breaks kit existing version cause
  | looking {document : kit.Document} {cause : Crash} (hparse : kit.parse existing = .ok document)
      (htable : kit.table? document "package" = .error cause) : Breaks kit existing version cause
  | assigning {document : kit.Document} {package : kit.Table} {cause : Crash}
      (hparse : kit.parse existing = .ok document)
      (htable : kit.table? document "package" = .ok (some package))
      (hassign : kit.assign document package "version" version = .error cause) :
      Breaks kit existing version cause

/-- **Each manifest breaks or heals.** -/
theorem breaks_or_heals (kit : TomlKit) (existing name version : String) :
    (∃ cause, Breaks kit existing version cause) ∨
      ∃ manifest, Heals kit existing name version manifest := by
  cases hparse : kit.parse existing with
  | error stop =>
    cases stop with
    | error => exact .inr ⟨_, .noDocument hparse⟩
    | crash cause => exact .inl ⟨cause, .reading hparse⟩
  | ok document =>
    cases htable : kit.table? document "package" with
    | error cause => exact .inl ⟨cause, .looking hparse htable⟩
    | ok table =>
      cases table with
      | none => exact .inr ⟨_, .noPackage hparse htable⟩
      | some package =>
        cases hassign : kit.assign document package "version" version with
        | error cause => exact .inl ⟨cause, .assigning hparse htable hassign⟩
        | ok next => exact .inr ⟨_, .stamped hparse htable hassign⟩

theorem Heals.merge_eq {manifest : String} (h : Heals kit existing name version manifest) :
    merge kit (some existing) name version = .ok manifest := by
  unfold merge
  cases h with
  | noDocument hparse => simp only [hparse]
  | noPackage hparse htable =>
    simp only [hparse, htable]
    rfl
  | stamped hparse htable hassign =>
    simp only [hparse, htable, Task.ok_bind, hassign]
    rfl

theorem Breaks.merge_eq {cause : Crash} (h : Breaks kit existing version cause) (name : String) :
    merge kit (some existing) name version = .error cause := by
  unfold merge
  cases h with
  | reading hparse => simp only [hparse]
  | looking hparse htable =>
    simp only [hparse, htable]
    rfl
  | assigning hparse htable hassign =>
    simp only [hparse, htable, Task.ok_bind, hassign]
    rfl

end Manifest

namespace Release

variable {release : Release}

/-! ### Paths that can be written -/

/-- **Paths that can be written**, one after the other and with any text. -/
def CanWrite (language : Language) : List Path → Tree → Prop
  | [], _ => True
  | path :: rest, tree => ∀ text, ∃ after,
      (write language path (.plain text)).outcome tree = (.ok (), after) ∧ CanWrite language rest after

theorem wrote_of_outcome (hwf : tree.WellFormed) {path : Path} {text : String}
    (h : (write language path (.plain text)).outcome tree = (.ok (), after)) :
    Writer.Wrote path text.toUTF8 tree after := by
  rw [outcome_write] at h
  cases hwrite : (Writer.write path (.plain text) (check language (.plain text))).outcome tree with
  | mk result written =>
    rw [hwrite] at h
    cases result with
    | error failure => cases h
    | ok =>
      cases h
      exact Writer.wrote_of_outcome hwf hwrite

/-- An output with a text can be put. -/
theorem CanWrite.exists_put (output : Output) {rest : List Path}
    (h : CanWrite language (output.path :: rest) tree) (hwf : tree.WellFormed) {text : String}
    (hcontent : output.content tree = .ok (some (.plain text))) :
    ∃ after, (output.put language).outcome tree = (.ok (), after) ∧ CanWrite language rest after ∧
      Writer.Wrote output.path text.toUTF8 tree after := by
  obtain ⟨after, hwrite, hrest⟩ := h text
  exact ⟨after, (Output.outcome_put_some hcontent).trans hwrite, hrest, wrote_of_outcome hwf hwrite⟩

/-- **What a few writes leave**: a tree in which files stand for links at most, and the entries of a name
that none of them has. -/
structure Leaves (name : String) (tree after : Tree) : Prop where
  wellFormed : after.WellFormed
  replaces : tree.Replaces after
  kept : ∀ place entry, tree.get? (place ++ [name]) = some entry → after.get? (place ++ [name]) = some entry

/-- **Constants can be put** one after the other. -/
theorem CanWrite.exists_forM_put (constants : List Output) (name : String) {rest : List Path}
    (h : CanWrite language (constants.map Output.path ++ rest) tree) (hwf : tree.WellFormed)
    (hconstants : ∀ output ∈ constants, ∃ path text, output = .constant path text)
    (hname : ∀ output ∈ constants, name ≠ output.path.name) :
    ∃ after, (constants.forM (Output.put language)).outcome tree = (.ok (), after) ∧
      CanWrite language rest after ∧ Leaves name tree after := by
  induction constants generalizing tree with
  | nil => exact ⟨tree, rfl, h, hwf, .refl tree, fun _ _ hentry => hentry⟩
  | cons output others ih =>
    obtain ⟨path, text, rfl⟩ := hconstants output List.mem_cons_self
    obtain ⟨middle, hput, hrest, hwrote⟩ := h.exists_put (.constant path text) hwf rfl
    obtain ⟨after, hputs, hcan, hleaves⟩ := ih hrest (hwrote.wellFormed hwf)
      (fun other hother => hconstants other (List.mem_cons_of_mem _ hother))
      (fun other hother => hname other (List.mem_cons_of_mem _ hother))
    refine ⟨after, ?_, hcan, hleaves.wellFormed, hwrote.replaces.trans hleaves.replaces,
      fun place entry hentry => hleaves.kept place entry ?_⟩
    · rw [forM_put_cons, Task.outcome_bind_ok hput, hputs]
    · exact hwrote.get?_of_name_ne (hname _ List.mem_cons_self) hentry

/-- **Paths that are writable** can be written one after the other, if none is in the place of a temporary
file. -/
theorem canWrite_of_isWritable {paths : List Path} (hwf : tree.WellFormed) (hlinks : tree.NoLinks)
    (hcheck : ∀ text, check language (.plain text) = .ok ())
    (hwritable : ∀ path ∈ paths, path.IsWritable tree)
    (hapart : ∀ path ∈ paths, ∀ directory name n,
      path.place ≠ directory ++ [Writer.temporaryName name n]) : CanWrite language paths tree := by
  induction paths generalizing tree with
  | nil => trivial
  | cons path rest ih =>
    intro text
    have hcontent : (Output.constant path text).content tree = .ok (some (.plain text)) := rfl
    obtain ⟨after, hput, hputs⟩ := Output.exists_puts hwf hlinks hcontent (hcheck text)
      (hwritable path List.mem_cons_self)
    have htouched := (Output.footprint hwf hlinks hput).touched
    refine ⟨after, hput, ih (htouched.wellFormed hwf) (htouched.noLinks hlinks) (fun other hother => ?_)
      fun other hother => hapart other (List.mem_cons_of_mem _ hother)⟩
    exact hputs.isWritable hlinks htouched (hwritable other (List.mem_cons_of_mem _ hother))
      (hapart path List.mem_cons_self _ _)

/-! ### The manifest of the crate -/

/-- The TypeScript compiler does not matter to Rust. -/
theorem outcome_emit_rust (release : Release) (tree : Tree) :
    (release.emit .rust).outcome tree =
      match release.outputs .rust with
      | .error cause => (.error (.crash cause), tree)
      | .ok outputs => (outputs.forM (Output.put .rust)).outcome tree :=
  let off : Release := { release with config := { release.config with compileTs := .bool false } }
  off.outcome_emit rfl .rust tree

/-- What Rust writes. -/
theorem outputs_rust {title declarations : String} (htitle : release.title = .ok title)
    (hrender : release.catalog.render .rust = .ok declarations) :
    release.outputs .rust = .ok [release.manifestOutput (Name.crate title),
      .constant ((release.outpath.child "src").child "lib.rs") declarations] := by
  unfold outputs
  rw [hrender, htitle]
  rfl

variable {title declarations : String} {location : Location} {bytes : ByteArray}

/-- A manifest without which none can be worked out stops Rust before anything is written. -/
theorem outcome_emit_rust_of_error (htitle : release.title = .ok title)
    (hrender : release.catalog.render .rust = .ok declarations)
    (hfind : tree.find release.manifestPath = .ok (location, .file bytes)) {cause : Crash}
    (h : mergedManifest release.tools.toml tree release.manifestPath (Name.crate title) release.version =
      .error cause) :
    (release.emit .rust).outcome tree = (.error (.crash cause), tree) := by
  have hcontent : (release.manifestOutput (Name.crate title)).content tree = .error (.crash cause) := by
    have hpresent := Output.present_of_find hfind
    unfold manifestPath at hpresent h
    simp only [manifestOutput, hpresent, h]
    rfl
  rw [outcome_emit_rust, outputs_rust htitle hrender]
  simp only [forM_put_cons]
  exact Task.outcome_bind_error (Output.outcome_put_error hcontent)

/-- **A manifest heals** if it is text and does not break; if not, Rust stops before anything is written. -/
theorem emit_rust_heals (hwf : tree.WellFormed) (htitle : release.title = .ok title)
    (hrender : release.catalog.render .rust = .ok declarations)
    (hwalk : tree.walk false release.manifestPath = .ok (.entry location (.file bytes)))
    (hcan : CanWrite .rust (release.files .rust) tree) :
    (textOf? bytes = none →
      (release.emit .rust).outcome tree = (.error (.crash .badEncoding), tree)) ∧
    ∀ existing, textOf? bytes = some existing →
      (∀ cause, Manifest.Breaks release.tools.toml existing release.version cause →
        (release.emit .rust).outcome tree = (.error (.crash cause), tree)) ∧
      ((∀ cause, ¬ Manifest.Breaks release.tools.toml existing release.version cause) →
        ∃ manifest after,
          Manifest.Heals release.tools.toml existing (Name.crate title) release.version manifest ∧
          (release.emit .rust).outcome tree = (.ok (), after) ∧
          after.get? location = some (.file manifest.toUTF8)) := by
  have hfind := find_of_walk hwalk
  have hread := readText_of_find hfind
  refine ⟨fun hnone => ?_, fun existing hsome => ⟨fun cause hbreaks => ?_, fun hwhole => ?_⟩⟩
  · refine outcome_emit_rust_of_error htitle hrender hfind ?_
    rw [hnone] at hread
    unfold mergedManifest
    rw [hread]
  · refine outcome_emit_rust_of_error htitle hrender hfind ?_
    rw [hsome] at hread
    unfold mergedManifest
    rw [hread]
    exact hbreaks.merge_eq _
  · rw [hsome] at hread
    rcases Manifest.breaks_or_heals release.tools.toml existing (Name.crate title) release.version with
      ⟨cause, hbreaks⟩ | ⟨manifest, hheals⟩
    · exact absurd hbreaks (hwhole cause)
    have hcontent : (release.manifestOutput (Name.crate title)).content tree =
        .ok (some (.plain manifest)) := by
      rw [content_manifestOutput_of_readText hread, hheals.merge_eq]
      rfl
    obtain ⟨middle, hput, hrest, hwrote⟩ :=
      CanWrite.exists_put (release.manifestOutput (Name.crate title)) hcan hwf hcontent
    -- the declarations go to a file of another name
    obtain ⟨after, hputs, -, hleaves⟩ := CanWrite.exists_forM_put
      [.constant ((release.outpath.child "src").child "lib.rs") declarations] "Cargo.toml" hrest
      (hwrote.wellFormed hwf)
      (List.forall_mem_singleton.2 ⟨_, _, rfl⟩)
      (List.forall_mem_singleton.2 (by rw [Output.path_constant, Path.name_child (by decide)]; decide))
    refine ⟨manifest, after, hheals, ?_, ?_⟩
    · rw [outcome_emit_rust, outputs_rust htitle hrender]
      simp only
      rw [forM_put_cons, Task.outcome_bind_ok hput, hputs]
    · obtain ⟨directory, rfl, -⟩ := hwrote.exists_directory hwalk
      have hfile := hwrote.get?_file hwalk
      have hname : (release.manifestOutput (Name.crate title)).path.name = "Cargo.toml" :=
        Path.name_child (by decide)
      rw [hname] at hfile ⊢
      exact hleaves.kept _ _ hfile

/-! ### The description of the package -/

/-- What TypeScript writes: the artifacts, and then the version. -/
theorem exists_outputs_typeScript (htitle : release.title = .ok title)
    (hrender : release.catalog.render .typeScript = .ok declarations) :
    ∃ constants, release.outputs .typeScript = .ok (constants ++ [release.packageOutput]) ∧
      (∀ output ∈ constants, ∃ path text, output = .constant path text) ∧
      constants.map Output.path = release.artifacts .typeScript := by
  refine ⟨[.constant ((release.outpath.child "src").child "schema.json") (document release.schema),
    .constant ((release.outpath.child "src").child "index.ts")
      (typeScriptModule (Name.typeScriptConstant title) release.schema),
    .constant (release.outpath.child (release.config.outputName.display ++ ".d.ts")) declarations],
    ?_, ?_, rfl⟩
  · unfold outputs
    rw [htitle, hrender]
    rfl
  · simp only [List.forall_mem_cons]
    exact ⟨⟨_, _, rfl⟩, ⟨_, _, rfl⟩, ⟨_, _, rfl⟩, nofun⟩

/-- **The description is still there** when the artifacts are written, and its path still leads to it. -/
theorem exists_artifacts_typeScript (hwf : tree.WellFormed)
    (hcompile : release.config.compileTs.isTruthy = false) (htitle : release.title = .ok title)
    (hrender : release.catalog.render .typeScript = .ok declarations)
    (hwalk : tree.walk false release.packagePath = .ok (.entry location (.file bytes)))
    (hcan : CanWrite .typeScript (release.files .typeScript) tree) :
    ∃ middle, (release.emit .typeScript).outcome tree =
        (release.packageOutput.put .typeScript).outcome middle ∧
      middle.WellFormed ∧ CanWrite .typeScript [release.packagePath] middle ∧
      middle.walk false release.packagePath = .ok (.entry location (.file bytes)) := by
  obtain ⟨constants, houtputs, hconstants, hpaths⟩ := exists_outputs_typeScript htitle hrender
  unfold files at hcan
  rw [← hpaths] at hcan
  obtain ⟨middle, hputs, hrest, hleaves⟩ := hcan.exists_forM_put constants "package.json" hwf hconstants
    fun output houtput => ne_name_artifact (hpaths ▸ List.mem_map_of_mem houtput)
  refine ⟨middle, ?_, hleaves.wellFormed, hrest, ?_⟩
  · rw [outcome_emit hcompile, houtputs]
    simp only
    rw [Task.outcome_forM_append hputs, forM_put_cons, forM_put_nil]
  -- the description can still be written, with any text
  · obtain ⟨written, hwrite, -⟩ := hrest ""
    have hwrote := wrote_of_outcome hleaves.wellFormed hwrite
    have hname : release.packagePath.name = "package.json" := Path.name_child (by decide)
    obtain ⟨directory, rfl, -⟩ := hwrote.exists_directory hwalk
    refine hwrote.walk_eq hleaves.replaces hwalk ?_
    rw [hname] at hwalk ⊢
    exact hleaves.kept _ _ ((walk_eq_ok_iff.1 hwalk).2.get?_entry rfl)

/-- A description of bytes that are no text cannot be stamped. -/
theorem content_packageOutput_of_bytes (hfind : tree.find release.packagePath = .ok (location, .file bytes))
    (hnone : textOf? bytes = none) :
    release.packageOutput.content tree = .error (.crash .badEncoding) := by
  have hread := readText_of_find hfind
  rw [hnone] at hread
  have hstamp : stampPackage? tree release.packagePath release.version = .error .badEncoding := by
    unfold stampPackage?
    rw [hread]
  simp only [packageOutput, Output.present_of_find hfind, hstamp]
  rfl

/-- **What becomes of a description** that is text: how stamping it ends, and the bytes that are there then. -/
inductive Describes (version : String) (bytes : ByteArray) (text : String) :
    Except (Stop ReleaseError) Unit → ByteArray → Prop where
  | tooLong (hparse : Json.parseRaw text = .error .tooLong) :
      Describes version bytes text (.error (.crash .badValue)) bytes
  | left (hshort : Json.parseRaw text ≠ .error .tooLong)
      (hnone : ∀ members, Json.parseRaw text ≠ .ok (.obj members)) :
      Describes version bytes text (.ok ()) bytes
  | halved {members : RawMembers} (hparse : Json.parseRaw text = .ok (.obj members))
      (hnone : (Raw.obj (versioned members version)).toJson? = none) :
      Describes version bytes text (.error (.crash .unencodable)) bytes
  | stamped {members : RawMembers} {value : Json} (hparse : Json.parseRaw text = .ok (.obj members))
      (hvalue : (Raw.obj (versioned members version)).toJson? = some value) :
      Describes version bytes text (.ok ()) (document value).toUTF8

/-- **A text with half of a surrogate pair** leaves a description alone that can be written. -/
theorem exists_put_unencodable (hcan : CanWrite .typeScript [release.packagePath] tree)
    (hcontent : release.packageOutput.content tree = .ok (some .unencodable))
    (hkept : tree.get? location = some (.file bytes)) :
    ∃ after, (release.packageOutput.put .typeScript).outcome tree =
        (.error (.crash .unencodable), after) ∧ after.get? location = some (.file bytes) := by
  obtain ⟨other, hwrite, -⟩ := hcan ""
  obtain ⟨made, written, hrefused, hpaved, hsame⟩ : ∃ made written,
      (Writer.write release.packagePath .unencodable (check .typeScript .unencodable)).outcome tree =
        (.error (.file (.crash .unencodable)), written) ∧
      Paved release.packagePath.parent tree made ∧
      ∀ place, written.get? place = made.get? place := by
    rw [outcome_write] at hwrite
    cases hresult : (Writer.write release.packagePath (.plain "") (check .typeScript (.plain ""))).outcome
      tree with
    | mk result written =>
      rw [hresult] at hwrite
      cases result with
      | error failure => cases hwrite
      | ok => exact Writer.outcome_write_unencodable _ hresult
  refine ⟨written, ?_, by rw [hsame]; exact hpaved.kept _ _ hkept⟩
  rw [Output.outcome_put_some hcontent]
  change (write .typeScript release.packagePath .unencodable).outcome tree = _
  rw [outcome_write, hrefused]
  rfl

/-- **A description of the package that is text is stamped, or left alone** if it is no JSON object; if it is
no text, TypeScript stops behind its artifacts and leaves it alone, too. -/
theorem emit_typeScript_heals (hwf : tree.WellFormed)
    (hcompile : release.config.compileTs.isTruthy = false) (htitle : release.title = .ok title)
    (hrender : release.catalog.render .typeScript = .ok declarations)
    (hwalk : tree.walk false release.packagePath = .ok (.entry location (.file bytes)))
    (hcan : CanWrite .typeScript (release.files .typeScript) tree) :
    (textOf? bytes = none → ∃ after,
      (release.emit .typeScript).outcome tree = (.error (.crash .badEncoding), after) ∧
        after.get? location = some (.file bytes)) ∧
    ∀ text, textOf? bytes = some text → ∃ result stamped after,
      Describes release.version bytes text result stamped ∧
      (release.emit .typeScript).outcome tree = (result, after) ∧
      after.get? location = some (.file stamped) := by
  obtain ⟨middle, hemit, hmiddle, hrest, hwalk⟩ :=
    exists_artifacts_typeScript hwf hcompile htitle hrender hwalk hcan
  have hfind := find_of_walk hwalk
  have hkept := (walk_eq_ok_iff.1 hwalk).2.get?_entry rfl
  rw [hemit]
  refine ⟨fun hnone =>
    ⟨middle, Output.outcome_put_error (content_packageOutput_of_bytes hfind hnone), hkept⟩,
    fun text hsome => ?_⟩
  have hread := readText_of_find hfind
  rw [hsome] at hread
  have hcontent := content_packageOutput_of_readText hread
  by_cases hlong : Json.parseRaw text = .error .tooLong
  · rw [stamped?_of_tooLong hlong] at hcontent
    exact ⟨_, _, middle, .tooLong hlong, Output.outcome_put_error hcontent, hkept⟩
  by_cases hobj : ∃ members, Json.parseRaw text = .ok (.obj members)
  · obtain ⟨members, hparse⟩ := hobj
    rw [stamped?_of_obj hparse] at hcontent
    unfold rawDocument at hcontent
    cases hvalue : (Raw.obj (versioned members release.version)).toJson? with
    | some value =>
      rw [hvalue] at hcontent
      obtain ⟨after, hput, -, hwrote⟩ := hrest.exists_put release.packageOutput hmiddle hcontent
      exact ⟨_, _, after, .stamped hparse hvalue, hput, hwrote.get?_file hwalk⟩
    | none =>
      rw [hvalue] at hcontent
      obtain ⟨after, hput, hafter⟩ := exists_put_unencodable hrest hcontent hkept
      exact ⟨_, _, after, .halved hparse hvalue, hput, hafter⟩
  · have hnone := not_exists.1 hobj
    rw [stamped?_eq_none hlong hnone] at hcontent
    exact ⟨_, _, middle, .left hlong hnone, Output.outcome_put_none hcontent, hkept⟩

/-- **Broken manifests heal, if they are text** that the libraries get through. Where the files of a language can
be written, a manifest stops a release only by bytes that are no text, or by a document that breaks, and a
description of the package only by bytes that are no text, by an integer that is too long, or by half of a
surrogate pair. Otherwise the manifest has the version of the release afterwards, in its own package table or
in a fresh manifest, and a description that is no JSON object is left as it is. -/
theorem emit_heals {title : String} (hwf : tree.WellFormed) (htitle : release.title = .ok title) :
    (∀ declarations location bytes, release.catalog.render .rust = .ok declarations →
      tree.walk false release.manifestPath = .ok (.entry location (.file bytes)) →
      CanWrite .rust (release.files .rust) tree →
      (textOf? bytes = none →
        (release.emit .rust).outcome tree = (.error (.crash .badEncoding), tree)) ∧
      ∀ existing, textOf? bytes = some existing →
        (∀ cause, Manifest.Breaks release.tools.toml existing release.version cause →
          (release.emit .rust).outcome tree = (.error (.crash cause), tree)) ∧
        ((∀ cause, ¬ Manifest.Breaks release.tools.toml existing release.version cause) →
          ∃ manifest after,
            Manifest.Heals release.tools.toml existing (Name.crate title) release.version manifest ∧
            (release.emit .rust).outcome tree = (.ok (), after) ∧
            after.get? location = some (.file manifest.toUTF8))) ∧
    (release.config.compileTs.isTruthy = false →
      ∀ declarations location bytes, release.catalog.render .typeScript = .ok declarations →
      tree.walk false release.packagePath = .ok (.entry location (.file bytes)) →
      CanWrite .typeScript (release.files .typeScript) tree →
      (textOf? bytes = none → ∃ after,
        (release.emit .typeScript).outcome tree = (.error (.crash .badEncoding), after) ∧
          after.get? location = some (.file bytes)) ∧
      ∀ text, textOf? bytes = some text → ∃ result stamped after,
        Describes release.version bytes text result stamped ∧
        (release.emit .typeScript).outcome tree = (result, after) ∧
        after.get? location = some (.file stamped)) :=
  ⟨fun _ _ _ hrender hwalk hcan => emit_rust_heals hwf htitle hrender hwalk hcan,
    fun hcompile _ _ _ hrender hwalk hcan =>
      emit_typeScript_heals hwf hcompile htitle hrender hwalk hcan⟩

end Release

namespace Plugin

/-- Tools with the library that the program runs with, and no programs. -/
def tomlTools : Tools :=
  { (default : Tools) with toml := Toml.kit }

/-- A tree with a manifest and a description of the package, of these bytes. -/
def packageTree (manifest package : ByteArray) : Tree :=
  ⟨[(["out"], .directory), (["out", "src"], .directory), (["out", "Cargo.toml"], .file manifest),
    (["out", "package.json"], .file package)]⟩

section Package

variable (manifest package : ByteArray)

theorem wellFormed_packageTree : (packageTree manifest package).WellFormed := by
  refine Tree.wellFormed_of_entries ?_
  simp only [packageTree, List.forall_mem_cons]
  exact ⟨rfl, rfl, rfl, rfl, nofun⟩

theorem noLinks_packageTree : (packageTree manifest package).NoLinks := by
  refine Tree.noLinks_of_entries ?_
  simp only [packageTree, List.forall_mem_cons]
  exact ⟨nofun, nofun, nofun, nofun, nofun⟩

theorem find_outpath_packageTree :
    (packageTree manifest package).find ⟨"/", ["out"]⟩ = .ok (["out"], .directory) :=
  find_eq_ok_iff.2 ⟨⟨by decide, by decide⟩, .into rfl (by decide) (by decide) rfl nofun (.stop rfl)⟩

theorem find_sources_packageTree :
    (packageTree manifest package).find ⟨"/", ["out", "src"]⟩ = .ok (["out", "src"], .directory) :=
  find_eq_ok_iff.2 ⟨⟨by decide, by decide⟩, .into rfl (by decide) (by decide) rfl nofun
    (.into rfl (by decide) (by decide) rfl nofun (.stop rfl))⟩

theorem walk_manifest_packageTree :
    (packageTree manifest package).walk false (wordRelease tomlTools "u" .all).manifestPath =
      .ok (.entry ["out", "Cargo.toml"] (.file manifest)) := by
  rw [manifestPath_word]
  exact walk_eq_ok_iff.2 ⟨⟨by decide, by decide⟩, .into rfl (by decide) (by decide) rfl nofun
    (.into rfl (by decide) (by decide) rfl nofun (.stop rfl))⟩

theorem walk_package_packageTree :
    (packageTree manifest package).walk false (wordRelease tomlTools "u" .all).packagePath =
      .ok (.entry ["out", "package.json"] (.file package)) := by
  rw [packagePath_word]
  exact walk_eq_ok_iff.2 ⟨⟨by decide, by decide⟩, .into rfl (by decide) (by decide) rfl nofun
    (.into rfl (by decide) (by decide) rfl nofun (.stop rfl))⟩

/-- A file in one of the directories can be written. -/
theorem isWritable_packageTree {path : Path} (hpath : path ∈ [(⟨"/", ["out", "Cargo.toml"]⟩ : Path),
    ⟨"/", ["out", "src", "lib.rs"]⟩, ⟨"/", ["out", "src", "schema.json"]⟩,
    ⟨"/", ["out", "src", "index.ts"]⟩, ⟨"/", ["out", "u.d.ts"]⟩, ⟨"/", ["out", "package.json"]⟩]) :
    path.IsWritable (packageTree manifest package) := by
  have houtpath := find_outpath_packageTree manifest package
  have hsources := find_sources_packageTree manifest package
  revert path
  simp only [List.forall_mem_cons]
  refine ⟨?_, ?_, ?_, ?_, ?_, ?_, nofun⟩
  · exact Path.isWritable_of_vacant houtpath (by decide) (by decide) (by decide) nofun (by decide) rfl
  · exact Path.isWritable_of_vacant hsources (by decide) (by decide) (by decide) nofun (by decide) rfl
  · exact Path.isWritable_of_vacant hsources (by decide) (by decide) (by decide) nofun (by decide) rfl
  · exact Path.isWritable_of_vacant hsources (by decide) (by decide) (by decide) nofun (by decide) rfl
  · exact Path.isWritable_of_vacant houtpath (by decide) (by decide) (by decide) nofun (by decide) rfl
  · exact Path.isWritable_of_vacant houtpath (by decide) (by decide) (by decide) nofun (by decide) rfl

/-- The files of Rust and of TypeScript can be written. -/
theorem canWrite_packageTree {language : Language} (h : language = .rust ∨ language = .typeScript) :
    Release.CanWrite language ((wordRelease tomlTools "u" .all).files language) (packageTree manifest package) := by
  have hcheck : ∀ text, Release.check language (.plain text) = .ok () := by
    rcases h with rfl | rfl <;> exact fun _ => rfl
  refine Release.canWrite_of_isWritable (wellFormed_packageTree _ _) (noLinks_packageTree _ _)
    hcheck (fun path hpath => isWritable_packageTree manifest package ?_)
    fun path hpath => Release.place_ne_temporary hpath
  have hfiles : (wordRelease tomlTools "u" .all).files .rust ++ (wordRelease tomlTools "u" .all).files .typeScript =
      [⟨"/", ["out", "Cargo.toml"]⟩, ⟨"/", ["out", "src", "lib.rs"]⟩,
        ⟨"/", ["out", "src", "schema.json"]⟩, ⟨"/", ["out", "src", "index.ts"]⟩,
        ⟨"/", ["out", "u.d.ts"]⟩, ⟨"/", ["out", "package.json"]⟩] := by
    decide
  rw [← hfiles]
  rcases h with rfl | rfl
  · exact List.mem_append_left _ hpath
  · exact List.mem_append_right _ hpath

end Package

/-- A byte that is in no text stops both languages, and a manifest that is no TOML and a description that is
no object stop none. -/
theorem emit_heals_broken :
    ((wordRelease tomlTools "u" .all).emit .rust).outcome (packageTree ⟨#[0xff]⟩ ⟨#[0xff]⟩) =
      (.error (.crash .badEncoding), packageTree ⟨#[0xff]⟩ ⟨#[0xff]⟩) ∧
    (∃ after, ((wordRelease tomlTools "u" .all).emit .typeScript).outcome
        (packageTree ⟨#[0xff]⟩ ⟨#[0xff]⟩) = (.error (.crash .badEncoding), after) ∧
      after.get? ["out", "package.json"] = some (.file ⟨#[0xff]⟩)) ∧
    (∃ after, ((wordRelease tomlTools "u" .all).emit .rust).outcome
        (packageTree "x = ".toUTF8 "[]".toUTF8) = (.ok (), after) ∧
      after.get? ["out", "Cargo.toml"] = some (.file (Manifest.fresh Toml.kit "u" "1.0.0").toUTF8)) ∧
    ∃ after, ((wordRelease tomlTools "u" .all).emit .typeScript).outcome
        (packageTree "x = ".toUTF8 "[]".toUTF8) = (.ok (), after) ∧
      after.get? ["out", "package.json"] = some (.file "[]".toUTF8) := by
  have htitle : (wordRelease tomlTools "u" .all).title = .ok "U" := rfl
  obtain ⟨rust, hrust⟩ : ∃ text, (wordRelease tomlTools "u" .all).catalog.render .rust = .ok text :=
    ⟨_, rfl⟩
  obtain ⟨typeScript, htypeScript⟩ :
      ∃ text, (wordRelease tomlTools "u" .all).catalog.render .typeScript = .ok text := ⟨_, rfl⟩
  have hnone : textOf? ⟨#[0xff]⟩ = none := by decide +kernel
  have htext : textOf? "x = ".toUTF8 = some "x = " := by decide +kernel
  have hdescription : textOf? "[]".toUTF8 = some "[]" := by decide +kernel
  have hparse : Toml.kit.parse "x = " = .error (.error ()) := by
    have hread : Toml.Document.parse? "x = " = none := by decide +kernel
    simp only [Toml.kit, hread]
  have hwhole (cause : Crash) : ¬ Manifest.Breaks Toml.kit "x = " "1.0.0" cause := by
    rintro (hbreaks | hbreaks | hbreaks) <;> cases hparse.symm.trans hbreaks
  have hlist : Json.parseRaw "[]" = .ok (.arr []) := by cbv
  have heals (manifest package : ByteArray) :=
    Release.emit_heals (wellFormed_packageTree manifest package) htitle
  have hbroken := heals ⟨#[0xff]⟩ ⟨#[0xff]⟩
  have hodd := heals "x = ".toUTF8 "[]".toUTF8
  refine ⟨?_, ?_, ?_, ?_⟩
  · exact (hbroken.1 _ _ _ hrust (walk_manifest_packageTree _ _) (canWrite_packageTree _ _ (.inl rfl))).1
      hnone
  · exact (hbroken.2 rfl _ _ _ htypeScript (walk_package_packageTree _ _)
      (canWrite_packageTree _ _ (.inr rfl))).1 hnone
  · obtain ⟨manifest, after, hheals, hemit, hfile⟩ := ((hodd.1 _ _ _ hrust (walk_manifest_packageTree _ _)
      (canWrite_packageTree _ _ (.inl rfl))).2 _ htext).2 hwhole
    cases hheals with
    | noDocument => exact ⟨after, hemit, hfile⟩
    | noPackage hdocument => cases hparse.symm.trans hdocument
    | stamped hdocument => cases hparse.symm.trans hdocument
  · obtain ⟨result, stamped, after, hdescribes, hemit, hfile⟩ := (hodd.2 rfl _ _ _ htypeScript
      (walk_package_packageTree _ _) (canWrite_packageTree _ _ (.inr rfl))).2 _ hdescription
    cases hdescribes with
    | left => exact ⟨after, hemit, hfile⟩
    | tooLong hlong => cases hlist.symm.trans hlong
    | halved hobject => cases hlist.symm.trans hobject
    | stamped hobject => cases hlist.symm.trans hobject

end Plugin

end SchemaPress
