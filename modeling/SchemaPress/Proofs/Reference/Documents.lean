import SchemaPress.Proofs.Files.Place
import SchemaPress.Proofs.Reference.Lookup

/-!
# Every reference is known beforehand

`Library.named` is worked out from the files of the tree, before any reference is followed.
Following references leads nowhere else: the document of a target is the schema itself or the text
of a plain location (`isDocument_of_target`), what is loaded for it is the document of that key
(`mem_documents_of_load`), and so whatever a reference in a part of it names is known (`mem_named`).
-/

namespace SchemaPress.Library

variable {library : Library}

/-- **Document keys** that following references comes to: the empty one of the schema, and the
texts of plain locations. -/
def IsDocument (library : Library) (document : String) : Prop :=
  document = "" ∨ ∃ location, library.tree.Plain location ∧
    document = (Path.ofLocation location).text

/-- A target is in the same document, or in that of another key. -/
theorem isDocument_of_target (hbase : ∀ base, library.base = some base → base.Proper)
    {document ref : String} {target : Target} (hdocument : library.IsDocument document)
    (h : library.target document ref = .ok target) : library.IsDocument target.document := by
  unfold Library.target at h
  split at h
  next location fragment hcut =>
  simp only at h
  split at h
  · cases h
  · split at h
    · cases h
    · next tokens htokens =>
      split at h
      · cases h
        exact hdocument
      · obtain ⟨place, hlocate, h⟩ := Json.bind_eq_ok h
        cases h
        unfold locate at hlocate
        split at hlocate
        · cases hlocate
        · next base hbase' =>
          simp only at hlocate
          split at hlocate
          · next reached hresolve =>
            cases hlocate
            -- a relative location starts at the base, or at the directory of the document
            have horigin :
                (if document.isEmpty then base else (Path.ofText document).parent).Proper := by
              split
              · exact hbase base hbase'
              · exact (Path.proper_ofText document).parent
            have hproper := horigin.join (Path.proper_ofText (String.ofList location))
            exact .inr ⟨reached, Tree.plain_of_resolve hproper hresolve, rfl⟩
          · cases hlocate

/-- What is loaded is a document of the library, under its key. -/
theorem mem_documents_of_load {document ref : String} {value : Json}
    (hdocument : library.IsDocument document) (h : library.load document ref = .ok value) :
    (document, value) ∈ library.documents := by
  rcases load_eq_ok_iff.1 h with ⟨rfl, rfl⟩ | ⟨hnonempty, text, htext, hparse⟩
  · exact List.mem_cons_self
  · rcases hdocument with rfl | ⟨location, hplain, rfl⟩
    · exact absurd rfl hnonempty
    · -- the place of the text is plain, so the file read there is one of the files of the tree
      obtain ⟨bytes, source, hmem, hsource, rfl⟩ := Tree.file_of_readText hplain htext
      refine List.mem_cons_of_mem _ (List.mem_filterMap.2 ⟨(location, bytes), hmem, ?_⟩)
      simp only [hsource, bind, Option.bind, hparse]
      rfl

/-- **What a reference in a document names is known.** -/
theorem mem_named {document : String} {value : Json} {members : Members} {ref : String}
    {target : Target} {found : Json} (hmem : (document, value) ∈ library.documents)
    (hpart : value.Part (.obj members))
    (hrefers : library.Refers document members ref target found) : target ∈ library.named := by
  have href : ref ∈ refsIn value := refsIn_of_part hpart (mem_refsIn_of_ref? hrefers.isRef)
  refine List.mem_flatMap.2 ⟨(document, value), hmem, List.mem_filterMap.2 ⟨ref, href, ?_⟩⟩
  rw [hrefers.isTarget]
  rfl

/-- Its spelling is one of the targets. -/
theorem key_mem_targets {target : Target} (h : target ∈ library.named) :
    target.key ∈ library.targets :=
  List.mem_eraseDups.2 (List.mem_map_of_mem h)

/-! ### No single reference is endless -/

theorem readText_ne_endless (tree : Tree) (path : Path) :
    tree.readText path ≠ .error (.crash .endless) := by
  unfold Tree.readText Tree.readBytes Tree.find Tree.walk
  split
  · exact nofun
  · split
    · exact nofun
    · cases Tree.walkFrom tree true Tree.maxLinks [] path.steps with
      | error refusal => exact nofun
      | ok spot =>
        cases spot with
        | vacant directory name => exact nofun
        | entry location entry =>
          cases entry with
          | file bytes =>
            simp only [bind, Except.bind, pure, Except.pure]
            cases String.fromUTF8? bytes <;> exact nofun
          | unreadable bytes => exact nofun
          | directory => exact nofun
          | link target => exact nofun

theorem resolve_ne_endless (tree : Tree) (path : Path) : tree.resolve path ≠ .error .endless := by
  unfold Tree.resolve
  intro heq
  split at heq
  · cases heq
  · split at heq <;> cases heq

theorem locate_ends (document location ref : String) :
    Ends (library.locate document location ref) := by
  unfold locate
  cases library.base with
  | none => exact .refuse _
  | some base =>
    simp only
    split
    · exact .ok _
    · next cause hcause =>
      intro heq
      obtain rfl := Stop.crash.inj (Except.error.inj heq)
      exact resolve_ne_endless _ _ hcause

theorem target_ends (document ref : String) : Ends (library.target document ref) := by
  unfold Library.target
  split
  next location fragment hcut =>
  simp only
  split
  · exact .refuse _
  · split
    · exact .refuse _
    · split
      · exact .ok _
      · exact ends_bind (locate_ends _ _ _) fun place _ => .ok _

theorem load_ends (document ref : String) : Ends (library.load document ref) := by
  unfold load
  split
  · exact .ok _
  · cases hread : library.tree.readText (Path.ofText document) with
    | error failure =>
      cases failure with
      | crash cause =>
        intro heq
        obtain rfl := Stop.crash.inj (Except.error.inj heq)
        exact readText_ne_endless _ _ hread
      | refused => exact .refuse _
      | unmoved => exact .refuse _
    | ok text =>
      rw [Task.mapError_ok, Task.ok_bind]
      cases Json.parse text with
      | ok value => exact .ok value
      | error cause =>
        cases cause with
        | malformed => exact .refuse _
        | tooLong => exact .crash nofun
        | halfPair => exact .crash nofun

theorem step_ends (ref token : String) (value : Json) : Ends (step ref token value) := by
  unfold step
  cases value with
  | arr items =>
    simp only
    cases Pointer.indexOf items.length token with
    | index i =>
      simp only
      cases items[i]? with
      | none => exact .refuse _
      | some item => exact .ok item
    | unreadable => exact .crash nofun
    | name => exact .refuse _
  | obj members =>
    simp only
    cases Members.get? members token with
    | none => exact .refuse _
    | some member => exact .ok member
  | _ => exact .refuse _

theorem lookup_ends (target : Target) (ref : String) : Ends (library.lookup target ref) := by
  have hsteps (tokens : List String) (value : Json) :
      Ends (tokens.foldlM (fun value token => step ref token value) value) := by
    induction tokens generalizing value with
    | nil => exact .ok _
    | cons token rest ih =>
      rw [List.foldlM_cons]
      exact ends_bind (step_ends ref token value) fun next _ => ih next
  exact ends_bind (load_ends _ _) fun value _ => hsteps target.tokens value

end SchemaPress.Library
