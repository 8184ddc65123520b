import SchemaPress.Proofs.Files.Replacement
import SchemaPress.Proofs.Json.Lines
import SchemaPress.Proofs.Json.RoundTrip
import SchemaPress.Proofs.Release.Changes

/-!
# Stamping what was stamped

The description of the package and the manifest are worked out from the files that are there, which may
be those that an earlier release has written. Stamping one of them once more with the same version
changes nothing. For the description of the package this is the round trip of what is written
(`Release.stamped?_stamped?`); for the manifest it follows from what is taken for granted of the library
that reads and writes it (`TomlKit.Laws`, `TomlKit.Laws.merge_eq`).

The same round trip says what stamping does to a description of the package in the first place: it
sets the version and nothing else (`Release.stampPackage_sets`), in the sense of `RawMembers.Sets`.
-/

namespace SchemaPress

open SchemaPress.Tree

/-- **A member is set**: in its place if the name is there, behind all others if it is not. The other
members are the same, in the same order. -/
inductive RawMembers.Sets (name : RawText) (value : Raw) : RawMembers → RawMembers → Prop where
  | replaced {before after : RawMembers} {old : Raw} (hbefore : name ∉ before.map Prod.fst)
      (hafter : name ∉ after.map Prod.fst) :
      Sets name value (before ++ (name, old) :: after) (before ++ (name, value) :: after)
  | added {members : RawMembers} (hnone : name ∉ members.map Prod.fst) :
      Sets name value members (members ++ [(name, value)])

namespace RawMembers

variable {name : RawText} {value : Raw}

theorem Sets.eq_assign {members set : RawMembers} (h : Sets name value members set) :
    set = assign members name value := by
  cases h with
  | @replaced before after old hbefore =>
    induction before with
    | nil => simp [assign]
    | cons first rest ih =>
      simp only [List.map_cons, List.mem_cons, not_or] at hbefore
      simp [assign, Ne.symm hbefore.1, ih hbefore.2]
  | added hnone => exact (assign_append_of_not_mem hnone value).symm

theorem sets_assign {members : RawMembers} (h : (members.map Prod.fst).Nodup) (name : RawText)
    (value : Raw) : Sets name value members (assign members name value) := by
  suffices hset : ∃ set, Sets name value members set by
    obtain ⟨set, hset⟩ := hset
    exact hset.eq_assign ▸ hset
  by_cases hname : name ∈ members.map Prod.fst
  · obtain ⟨⟨key, old⟩, hmem, rfl⟩ := List.mem_map.1 hname
    obtain ⟨before, after, rfl⟩ := List.append_of_mem hmem
    rw [List.map_append, List.map_cons] at h
    obtain ⟨hbefore, hafter⟩ : key ∉ before.map Prod.fst ∧ key ∉ after.map Prod.fst := by
      simpa using (List.nodup_cons.1 (List.nodup_middle.1 h)).1
    exact ⟨_, .replaced hbefore hafter⟩
  · exact ⟨_, .added hname⟩

end RawMembers

namespace Release

theorem return_not_mem_document (value : Json) : '\r' ∉ (document value).toList := by
  unfold document Json.render
  simp [Json.return_not_mem_write Json.Style.unbroken_indented]

theorem parse_document {value : Json} (h : value.Regular) : Json.parse (document value) = .ok value := by
  have hblank : Json.Blank ['\n'] := List.forall_mem_singleton.2 rfl
  have hends : Json.EndsNumber ['\n'] := Json.endsNumber_append Json.blank_nil (by decide) []
  exact Json.parse_render Json.Style.readable_indented h hblank hends

/-- **What is written of a value that was read** is read as this value. -/
theorem parseRaw_of_rawDocument {raw : Raw} (h : raw.Regular) {text : String}
    (hdocument : rawDocument raw = .plain text) : '\r' ∉ text.toList ∧ Json.parseRaw text = .ok raw := by
  unfold rawDocument at hdocument
  split at hdocument
  · next value hvalue =>
    cases hdocument
    obtain rfl := Raw.eq_toRaw hvalue
    exact ⟨return_not_mem_document value, Json.parse_eq_ok_iff.1 (parse_document (h.ofJson rfl))⟩
  · cases hdocument

theorem regular_versioned {text : String} {members : RawMembers}
    (h : Json.parseRaw text = .ok (.obj members)) (version : String) :
    (Raw.obj (versioned members version)).Regular :=
  (Raw.regular_of_parseRaw h).assign _ (.str _)

/-- **A description that is stamped once more** with the same version stays as it is. -/
theorem stamped?_stamped? {version text stamped : String}
    (h : stamped? version text = .ok (some (.plain stamped))) :
    '\r' ∉ stamped.toList ∧ stamped? version stamped = .ok (some (.plain stamped)) := by
  unfold stamped? at h
  split at h
  · next members hparse =>
    have hdocument := Option.some.inj (Except.ok.inj h)
    obtain ⟨hreturn, hread⟩ := parseRaw_of_rawDocument (regular_versioned hparse version) hdocument
    refine ⟨hreturn, ?_⟩
    rw [stamped?_of_obj hread]
    simp only [versioned, assign_assign] at hdocument ⊢
    rw [hdocument]
  · cases h
  · cases h
  · cases h

variable {release : Release} {tree : Tree}

/-- **Writing over a file that is read.** Either the text is read from there afterwards, or the write is
refused and every entry is kept. -/
theorem readText_of_write (hwf : tree.WellFormed) {path : Path} {old : String} {content : Writer.Content}
    (hread : tree.readText path = .ok old)
    (hreturn : ∀ text, content = .plain text → '\r' ∉ text.toList)
    {result : Except (Stop ReleaseError) Unit} {after : Tree}
    (h : (write .typeScript path content).outcome tree = (result, after)) :
    (∃ text, content = .plain text ∧ result = .ok () ∧ after.WellFormed ∧
        after.readText path = .ok text) ∨
      ∃ failure, result = .error (writeStop .typeScript path failure) ∧ tree.Sub after := by
  obtain ⟨bytes, -, hbytes, -⟩ := readText_eq_ok_iff.1 hread
  obtain ⟨location, hfind⟩ := readBytes_eq_ok_iff.1 hbytes
  rw [outcome_write] at h
  obtain ⟨made, outcome, written, houtcome, hpaved, hend⟩ :=
    Writer.outcome_write hwf path content (check .typeScript content)
  rw [houtcome] at h
  cases h
  rcases hend with ⟨rfl, -, text, directory, rfl, hmoved⟩ | ⟨failure, rfl, hsame⟩
  · have hwrote : Writer.Wrote path text.toUTF8 tree written := .intro hpaved hmoved
    exact .inl ⟨text, rfl, rfl, hwrote.wellFormed hwf,
      readText_of_readBytes (hwrote.readBytes hfind) (hreturn text rfl)⟩
  · refine .inr ⟨failure, rfl, fun place entry hentry => ?_⟩
    rw [hsame]
    exact hpaved.kept place entry hentry

/-- What is read is read as well where all entries are kept. -/
theorem readText_of_sub {path : Path} {text : String} {other : Tree}
    (h : tree.readText path = .ok text) (hsub : tree.Sub other) : other.readText path = .ok text := by
  obtain ⟨bytes, source, hbytes, hsource, htext⟩ := readText_eq_ok_iff.1 h
  obtain ⟨location, hfind⟩ := readBytes_eq_ok_iff.1 hbytes
  exact readText_eq_ok_iff.2
    ⟨bytes, source, readBytes_eq_ok_iff.2 ⟨location, find_sub hfind hsub⟩, hsource, htext⟩

/-- Stamping a description is writing what it is stamped to, if there is anything. -/
theorem outcome_stampPackage {text : String}
    (hread : tree.readText release.packagePath = .ok text) :
    release.stampPackage.outcome tree =
      match stamped? release.version text with
      | .error cause => (.error (.crash cause), tree)
      | .ok none => (.ok (), tree)
      | .ok (some content) => (write .typeScript release.packagePath content).outcome tree := by
  have hcontent := content_packageOutput_of_readText hread
  rw [stampPackage_eq]
  cases hstamped : stamped? release.version text with
  | error cause => exact Output.outcome_put_error (hcontent.trans (by rw [hstamped]; rfl))
  | ok content =>
    rw [hstamped] at hcontent
    cases content with
    | none => exact Output.outcome_put_none hcontent
    | some content => exact Output.outcome_put_some hcontent

/-- A description that was stamped is kept by stamping it again, whether it is written again or not. -/
theorem readText_stampPackage (hwf : tree.WellFormed) {stamped : String}
    (hread : tree.readText release.packagePath = .ok stamped) (hreturn : '\r' ∉ stamped.toList)
    (hstamped : stamped? release.version stamped = .ok (some (.plain stamped))) :
    (release.stampPackage.outcome tree).2.readText release.packagePath = .ok stamped := by
  rw [outcome_stampPackage hread, hstamped]
  rcases readText_of_write hwf hread (fun text heq => Writer.Content.plain.inj heq ▸ hreturn) (Prod.mk.eta).symm with
    ⟨text, heq, -, -, hagain⟩ | ⟨-, -, hsub⟩
  · cases heq
    exact hagain
  · exact readText_of_sub hread hsub

/-- **What stamping comes to** where the object with the version set is to be written: the file is read as this
object, and stamping it again leaves it at that, or the write is refused and everything is kept. -/
inductive Stamping (release : Release) (tree : Tree) (set : RawMembers) :
    Except (Stop ReleaseError) Unit → Tree → Prop where
  | stamped {stamped : String} {after : Tree} (hparse : Json.parseRaw stamped = .ok (.obj set))
      (hread : after.readText release.packagePath = .ok stamped)
      (hagain : (release.stampPackage.outcome after).2.readText release.packagePath = .ok stamped) :
      Stamping release tree set (.ok ()) after
  | refused {failure : WriteFailure} {after : Tree} (hkept : tree.Sub after) :
      Stamping release tree set (.error (writeStop .typeScript release.packagePath failure)) after

/-- Writing what a description is stamped to. -/
theorem stamping_of_write (hwf : tree.WellFormed) {text : String} {set : RawMembers}
    (hread : tree.readText release.packagePath = .ok text) (hregular : (Raw.obj set).Regular)
    (hstamped : ∀ stamped, rawDocument (.obj set) = .plain stamped →
      stamped? release.version stamped = .ok (some (.plain stamped)))
    {result : Except (Stop ReleaseError) Unit} {after : Tree}
    (h : (write .typeScript release.packagePath (rawDocument (.obj set))).outcome tree = (result, after)) :
    release.Stamping tree set result after := by
  rcases readText_of_write hwf hread (fun text heq => (parseRaw_of_rawDocument hregular heq).1) h with
    ⟨stamped, heq, rfl, hwf', hread'⟩ | ⟨failure, rfl, hsub⟩
  · obtain ⟨hreturn, hparse⟩ := parseRaw_of_rawDocument hregular heq
    exact .stamped hparse hread' (readText_stampPackage hwf' hread' hreturn (hstamped stamped heq))
  · exact .refused hsub

/-- A value with half of a surrogate pair is not written anywhere. -/
theorem rawDocument_eq {raw : Raw} :
    rawDocument raw = (raw.toJson?.map fun value => .plain (document value)).getD .unencodable := by
  unfold rawDocument
  cases raw.toJson? <;> rfl

/-- **Writing a value to a path that can be written** fails for half of a surrogate pair, and only for that. -/
theorem result_of_isWritable (hwf : tree.WellFormed) (hlinks : tree.NoLinks) {path : Path} (raw : Raw)
    (hwritable : path.IsWritable tree) :
    ((write .typeScript path (rawDocument raw)).outcome tree).1 =
      if raw.toJson?.isSome then .ok () else .error (.crash .unencodable) := by
  rw [outcome_write, rawDocument_eq]
  cases raw.toJson? with
  | some value =>
    obtain ⟨after, hwrite, -⟩ := hwritable.outcome_write hwf hlinks (document value)
    simp only [Option.map_some, Option.getD_some,
      show check .typeScript (.plain (document value)) = .ok () from rfl, hwrite]
    rfl
  | none =>
    obtain ⟨after, hwrite, -⟩ := hwritable.outcome_write hwf hlinks ""
    obtain ⟨made, written, hrefused, -⟩ :=
      Writer.outcome_write_unencodable (check .typeScript .unencodable) hwrite
    simp only [Option.map_none, Option.getD_none, hrefused]
    rfl

/-- **Stamping a description of the package sets the version only.** Take a description that is text. If an
integer in it is too long, that is a crash. If it is no JSON object, nothing happens. If it is one, either
the file is read as the same object with the version set, and stamping it again leaves it at that, or the
write is refused and everything is kept. It is refused for half of a surrogate pair in a text of the object,
and for nothing else where the path can be written. -/
theorem stampPackage_sets (hwf : tree.WellFormed) {text : String}
    (hread : tree.readText release.packagePath = .ok text) :
    (Json.parseRaw text = .error .tooLong →
      release.stampPackage.outcome tree = (.error (.crash .badValue), tree)) ∧
    (Json.parseRaw text ≠ .error .tooLong → (∀ members, Json.parseRaw text ≠ .ok (.obj members)) →
      release.stampPackage.outcome tree = (.ok (), tree)) ∧
    ∀ members, Json.parseRaw text = .ok (.obj members) → ∃ set result after,
      RawMembers.Sets (.ofString "version") (.str (.ofString release.version)) members set ∧
      release.stampPackage.outcome tree = (result, after) ∧ release.Stamping tree set result after ∧
      ((Raw.obj set).toJson? = none → result ≠ .ok ()) ∧
      (tree.NoLinks → release.packagePath.IsWritable tree →
        result = if (Raw.obj set).toJson?.isSome then .ok () else .error (.crash .unencodable)) := by
  have houtcome := outcome_stampPackage hread
  refine ⟨fun hlong => ?_, fun hshort hnone => ?_, fun members hparse => ?_⟩
  · rw [houtcome, stamped?_of_tooLong hlong]
  · rw [houtcome, stamped?_eq_none hshort hnone]
  · let set := versioned members release.version
    have hsets : RawMembers.Sets (.ofString "version") (.str (.ofString release.version)) members set :=
      RawMembers.sets_assign (Raw.regular_of_parseRaw hparse).names _ _
    have hstamped : stamped? release.version text = .ok (some (rawDocument (.obj set))) :=
      stamped?_of_obj hparse
    rw [hstamped] at houtcome
    simp only at houtcome
    cases hwrite : (write .typeScript release.packagePath (rawDocument (.obj set))).outcome tree with
    | mk result after =>
      have hstamping := stamping_of_write hwf hread (regular_versioned hparse release.version)
        (fun stamped heq => (stamped?_stamped? (heq ▸ hstamped)).2) hwrite
      refine ⟨set, result, after, hsets, houtcome.trans hwrite, hstamping, fun hnone => ?_,
        fun hlinks hwritable => ?_⟩
      · -- a text was written if the result is one
        rintro rfl
        have hplain := readText_of_write hwf hread
          (fun text heq => (parseRaw_of_rawDocument (regular_versioned hparse release.version) heq).1) hwrite
        rw [rawDocument_eq, hnone] at hplain
        rcases hplain with ⟨text, heq, -⟩ | ⟨failure, heq, -⟩ <;> cases heq
      · have hresult := result_of_isWritable hwf hlinks (.obj set) hwritable
        rw [hwrite] at hresult
        exact hresult

end Release

/-! ### Manifests -/

namespace TomlKit

variable {kit : TomlKit} {version : String}

/-- **A manifest that was stamped** with the version: a new one, or the text of a document that was read, with
the version assigned in its package table. -/
inductive Stamps (kit : TomlKit) (version : String) : String → Prop where
  | fresh (name : String) : Stamps kit version (Manifest.fresh kit name version)
  | assigned {text : String} {document next : kit.Document} {package : kit.Table}
      (hreturn : '\r' ∉ text.toList) (hparse : kit.parse text = .ok document)
      (htable : kit.table? document "package" = .ok (some package))
      (hassign : kit.assign document package "version" version = .ok next) :
      Stamps kit version (kit.text next)

/-- **What is taken for granted of a library for TOML**, of the manifests that are read and stamped. -/
structure Laws (kit : TomlKit) : Prop where
  /-- A document is written as it was read. -/
  text_of_parse {text : String} {document : kit.Document} (hparse : kit.parse text = .ok document) :
    kit.text document = text
  /-- A manifest that was stamped is read again as a document with a package table. -/
  exists_package {version text : String} (hstamps : kit.Stamps version text) :
    ∃ document package, kit.parse text = .ok document ∧
      kit.table? document "package" = .ok (some package)
  /-- The table holds the version then, and to assign the version that it holds does not change the text. -/
  text_of_assign {version text : String} {document : kit.Document} {package : kit.Table}
    (hstamps : kit.Stamps version text) (hparse : kit.parse text = .ok document)
    (htable : kit.table? document "package" = .ok (some package)) :
    ∃ next, kit.assign document package "version" version = .ok next ∧
      kit.text next = kit.text document
  /-- A text that is assigned is escaped, so no carriage return comes into a manifest with it. -/
  return_not_mem {version text : String} (hstamps : kit.Stamps version text) : '\r' ∉ text.toList

/-- **A manifest that was stamped is merged to itself.** -/
theorem Laws.merge_eq (laws : kit.Laws) {text : String} (h : kit.Stamps version text) (name : String) :
    Manifest.merge kit (some text) name version = .ok text := by
  obtain ⟨document, package, hparse, htable⟩ := laws.exists_package h
  obtain ⟨next, hassign, htext⟩ := laws.text_of_assign h hparse htable
  unfold Manifest.merge
  simp only [hparse, htable, Task.ok_bind, hassign]
  exact congrArg Except.ok (htext.trans (laws.text_of_parse hparse))

end TomlKit

namespace Plugin

/-- The description of a package, `{"version": 0, "a": {}}`. -/
def describedText : String :=
  "\x7b\"version\": 0, \"a\": \x7b\x7d\x7d"

/-- A description with half of a surrogate pair, `{"a": "\ud800"}`. -/
def halvedText : String :=
  "\x7b\"a\": \"\\ud800\"\x7d"

/-- A tree with this description in the directory of a release. -/
def describedTree (text : String) : Tree :=
  ⟨[(["out"], .directory), (["out", "package.json"], .file text.toUTF8)]⟩

section Described

variable (text : String)

theorem wellFormed_describedTree : (describedTree text).WellFormed := by
  refine Tree.wellFormed_of_entries ?_
  simp only [describedTree, List.forall_mem_cons]
  exact ⟨rfl, rfl, nofun⟩

theorem noLinks_describedTree : (describedTree text).NoLinks := by
  refine Tree.noLinks_of_entries ?_
  simp only [describedTree, List.forall_mem_cons]
  exact ⟨nofun, nofun, nofun⟩

theorem packagePath_word (tools : Tools) :
    (wordRelease tools "u" .all).packagePath = ⟨"/", ["out", "package.json"]⟩ :=
  Path.child_step (by decide)

theorem readText_describedTree (h : textOf? text.toUTF8 = some text) :
    (describedTree text).readText (wordRelease default "u" .all).packagePath = .ok text := by
  have hfind : (describedTree text).find (wordRelease default "u" .all).packagePath =
      .ok (["out", "package.json"], .file text.toUTF8) := by
    rw [packagePath_word]
    exact find_eq_ok_iff.2 ⟨⟨by decide, by decide⟩, .into rfl (by decide) (by decide) rfl nofun
      (.into rfl (by decide) (by decide) rfl nofun (.stop rfl))⟩
  rw [readText_of_find hfind, h]

theorem isWritable_describedTree :
    (wordRelease default "u" .all).packagePath.IsWritable (describedTree text) := by
  have hparent : (describedTree text).find ⟨"/", ["out"]⟩ = .ok (["out"], .directory) :=
    find_eq_ok_iff.2 ⟨⟨by decide, by decide⟩, .into rfl (by decide) (by decide) rfl nofun (.stop rfl)⟩
  rw [packagePath_word]
  exact Path.isWritable_of_vacant hparent (by decide) (by decide) (by decide) nofun (by decide) rfl

end Described

/-- A description is stamped, and only its version is another one then; one with half of a surrogate pair
stops the release, and is kept. -/
theorem stampPackage_sets_described :
    (∃ stamped after,
      (wordRelease default "u" .all).stampPackage.outcome (describedTree describedText) = (.ok (), after) ∧
      after.readText (wordRelease default "u" .all).packagePath = .ok stamped ∧
      Json.parse stamped = .ok (.obj [("version", .str "1.0.0"), ("a", .obj [])])) ∧
    ∃ after, (wordRelease default "u" .all).stampPackage.outcome (describedTree halvedText) =
        (.error (.crash .unencodable), after) ∧ (describedTree halvedText).Sub after := by
  have hread := readText_describedTree describedText (by decide +kernel)
  have hread' := readText_describedTree halvedText (by decide +kernel)
  refine ⟨?_, ?_⟩
  · have hparse : Json.parseRaw describedText =
        .ok (.obj [(.ofString "version", .int 0), (.ofString "a", .obj [])]) := by cbv
    obtain ⟨set, result, after, hsets, houtcome, hstamping, -, hresult⟩ :=
      (Release.stampPackage_sets (wellFormed_describedTree _) hread).2.2 _ hparse
    obtain rfl := hsets.eq_assign
    obtain rfl := hresult (noLinks_describedTree _) (isWritable_describedTree _)
    cases hstamping with
    | @stamped stamped _ hset hafter _ =>
      exact ⟨stamped, after, houtcome, hafter, Json.parse_eq_ok_iff.2 hset⟩
  · have hparse : Json.parseRaw halvedText = .ok (.obj [(.ofString "a", .str [.half 0])]) := by cbv
    obtain ⟨set, result, after, hsets, houtcome, hstamping, -, hresult⟩ :=
      (Release.stampPackage_sets (wellFormed_describedTree _) hread').2.2 _ hparse
    obtain rfl := hsets.eq_assign
    have hstop := hresult (noLinks_describedTree _) (isWritable_describedTree _)
    refine ⟨after, houtcome.trans (by rw [hstop]; rfl), ?_⟩
    cases hstamping with
    | stamped => cases hstop
    | refused hkept => exact hkept

end Plugin

end SchemaPress
