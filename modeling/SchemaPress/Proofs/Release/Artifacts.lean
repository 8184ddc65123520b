import SchemaPress.Proofs.Files.Unlinked
import SchemaPress.Proofs.Name.Characters
import SchemaPress.Proofs.Text.Pieces
import SchemaPress.Release.Emission

/-!
# Where the artifacts are

The files that each language writes, as paths, and the places that these paths spell. The last two
characters of a name tell the languages apart, and all of them from temporary files
(`Path.EndsAs`, `Language.endings`): so no artifact is in the place of one of another language,
whatever the title and the name of the output are (`Release.place_ne`). Where the name of the output
has no slash in it, all artifacts are in the directory of the release or in its `src`
(`Release.exists_place_eq`).
-/

namespace SchemaPress

/-! ### Names of children -/

namespace Path

/-- **How a path ends**: in a name, with these as its last two characters from the right. -/
structure EndsAs (path : Path) (ending : List Char) : Prop where
  steps : path.steps ≠ []
  up : path.name ≠ ".."
  ending : path.name.toList.reverse.take 2 = ending

/-- Where the last name of a text is one that neither is nothing nor stays or goes up, it is that of
the path. -/
theorem exists_steps_child (path : Path) {text name : String} {before : List String}
    (h : names text = before ++ [name]) :
    ∃ above, (path.child text).steps = above ++ [name] := by
  unfold child join
  split
  · exact ⟨before, h⟩
  · exact ⟨path.steps ++ before, by rw [List.append_assoc, ← h]; rfl⟩

theorem name_of_steps {path : Path} {above : List String} {name : String}
    (h : path.steps = above ++ [name]) : path.name = name := by
  unfold Path.name
  rw [h, List.getLast?_concat, Option.getD_some]

theorem endsAs_of_steps {path : Path} {above : List String} {name : String}
    (h : path.steps = above ++ [name]) {ending : List Char} (hup : ending ≠ ['.', '.'])
    (hending : name.toList.reverse.take 2 = ending) : path.EndsAs ending := by
  have hname := name_of_steps h
  refine ⟨by rw [h]; simp, ?_, hname ▸ hending⟩
  intro heq
  rw [← hname, heq] at hending
  exact hup (hending.symm.trans (by decide))

/-- A name with a suffix of some length is a name with that suffix, whatever is in front of it. -/
theorem exists_suffix_child (path : Path) (text : String) {suffix : String}
    (hslash : '/' ∉ suffix.toList) (hlong : 2 ≤ suffix.toList.length) :
    ∃ above last, (path.child (text ++ suffix)).steps =
      above ++ [String.ofList (last ++ suffix.toList)] := by
  obtain ⟨before, last, hpieces⟩ := Text.pieces_append_of_not_mem hslash text.toList
  -- two characters are more than a name that is dropped has
  have hkept (name : String) (hshort : name.toList.length < 2) :
      (String.ofList (last ++ suffix.toList) != name) = true := by
    rw [bne_iff_ne]
    rintro rfl
    rw [String.toList_ofList, List.length_append] at hshort
    omega
  have hnames : names (text ++ suffix) =
      ((before.map String.ofList).filter fun name => name != "" && name != ".") ++
        [String.ofList (last ++ suffix.toList)] := by
    unfold names
    rw [String.toList_append, hpieces, List.map_append, List.filter_append]
    rw [List.map_cons, List.map_nil, List.filter_cons_of_pos]
    · rfl
    · rw [hkept "" (by decide), hkept "." (by decide)]
      rfl
  obtain ⟨above, hsteps⟩ := exists_steps_child path hnames
  exact ⟨above, last, hsteps⟩

/-- A name with a suffix ends as the suffix. -/
theorem endsAs_child (path : Path) (text : String) {suffix : String} {ending : List Char}
    (hslash : '/' ∉ suffix.toList) (hending : suffix.toList.reverse.take 2 = ending)
    (hlength : ending.length = 2) (hup : ending ≠ ['.', '.']) :
    (path.child (text ++ suffix)).EndsAs ending := by
  have hlong : 2 ≤ suffix.toList.reverse.length := by
    have := congrArg List.length hending
    rw [List.length_take, hlength] at this
    omega
  obtain ⟨above, last, hsteps⟩ := exists_suffix_child path text hslash
    (by rwa [List.length_reverse] at hlong)
  refine endsAs_of_steps hsteps hup ?_
  rw [String.toList_ofList, List.reverse_append, List.take_append_of_le_length hlong]
  exact hending

/-- Paths to one place end alike. -/
theorem EndsAs.eq_of_place {path other : Path} {ending ending' : List Char}
    (h : path.EndsAs ending) (h' : other.EndsAs ending') (hplace : path.place = other.place) :
    path.name = other.name ∧ ending = ending' := by
  rw [place_eq h.steps h.up, place_eq h'.steps h'.up] at hplace
  have hname : path.name = other.name := by
    have := (List.append_inj' hplace rfl).2
    simpa using this
  exact ⟨hname, h.ending.symm.trans (hname ▸ h'.ending)⟩

/-- A name without a slash is one step. -/
theorem child_eq {path : Path} {name : String} (hslash : '/' ∉ name.toList) (hne : name ≠ "")
    (hdot : name ≠ ".") : path.child name = ⟨path.root, path.steps ++ [name]⟩ := by
  have hnames : names name = [name] := by
    unfold names
    rw [Text.pieces_of_not_mem hslash]
    simp [hne, hdot]
  have hroot : (ofText name).root = "" := by
    unfold ofText
    simp only
    split
    · next heq => exact absurd (heq ▸ List.mem_cons_self) hslash
    · next heq => exact absurd (heq ▸ List.mem_cons_self) hslash
    · next heq => exact absurd (heq ▸ List.mem_cons_self) hslash
    · rfl
  have hsteps : (ofText name).steps = [name] := hnames
  unfold child join isAbsolute
  rw [hroot, hsteps]
  rfl

/-- **Names that are one step**, down. -/
def IsStep (name : String) : Prop :=
  '/' ∉ name.toList ∧ name ≠ "" ∧ name ≠ "." ∧ name ≠ ".."

instance (name : String) : Decidable (IsStep name) :=
  inferInstanceAs (Decidable (_ ∧ _ ∧ _ ∧ _))

section Step

variable {path : Path} {name : String} (h : IsStep name)

include h

theorem child_step : path.child name = ⟨path.root, path.steps ++ [name]⟩ :=
  child_eq h.1 h.2.1 h.2.2.1

theorem parent_child : (path.child name).parent = path := by
  rw [child_step h, parent, List.dropLast_concat]

theorem name_child : (path.child name).name = name := by
  rw [child_step h, Path.name, List.getLast?_concat, Option.getD_some]

theorem steps_child_ne_nil : (path.child name).steps ≠ [] := by
  rw [child_step h]
  simp

theorem name_child_ne_up : (path.child name).name ≠ ".." := by
  rw [name_child h]
  exact h.2.2.2

theorem place_child : (path.child name).place = path.place ++ [name] := by
  rw [place_eq (steps_child_ne_nil h) (name_child_ne_up h), parent_child h, name_child h]

end Step

/-- Names tell places apart. -/
theorem place_child_ne {path other : Path} {name name' : String} (h : IsStep name) (h' : IsStep name')
    (hne : name ≠ name') : (path.child name).place ≠ (other.child name').place := by
  rw [place_child h, place_child h']
  intro heq
  exact hne (List.singleton_inj.1 (List.append_inj_right' heq rfl))

end Path

/-- Temporary files have an ending of their own. -/
theorem Writer.ending_temporaryName (name : String) (n : Nat) :
    (Writer.temporaryName name n).toList.reverse.take 2 = ['p', 'm'] := by
  unfold Writer.temporaryName
  rw [String.toList_append, List.reverse_append, List.take_append_of_le_length (by decide)]
  decide

/-! ### The artifacts -/

/-- The last two characters, from the right, of the names of what a language writes. -/
def Language.endings : Language → List (List Char)
  | .typeScript => [['n', 'o'], ['s', 't']]
  | .go => [['o', 'g']]
  | .rust => [['l', 'm'], ['s', 'r']]
  | .python => [['y', 'p']]

theorem Language.endings_disjoint {language other : Language} (hne : language ≠ other)
    {ending : List Char} (h : ending ∈ language.endings) : ending ∉ other.endings := by
  cases language <;> cases other <;> first | exact absurd rfl hne | (revert ending; decide)

theorem Language.ending_ne_temporary {language : Language} {ending : List Char}
    (h : ending ∈ language.endings) : ending ≠ ['p', 'm'] := by
  cases language <;> (revert ending; decide)

namespace Release

variable {release : Release}

/-- The module of the Go declarations. -/
def goFiles (release : Release) : List Path :=
  match release.title with
  | .ok title => [release.outpath.child (Name.goPackage title ++ ".go")]
  | .error _ => []

/-- The description of the package around a release. -/
def packagePath (release : Release) : Path :=
  release.outpath.child "package.json"

/-- **The files of a language** that are there once it is emitted. -/
def artifacts (release : Release) : Language → List Path
  | .typeScript => [(release.outpath.child "src").child "schema.json",
      (release.outpath.child "src").child "index.ts",
      release.outpath.child (release.config.outputName.display ++ ".d.ts")]
  | .go => release.goFiles
  | .rust => [release.outpath.child "Cargo.toml", (release.outpath.child "src").child "lib.rs"]
  | .python => [release.outpath.child "index.py"]

/-- **The files of a language** that are stamped if they are there. -/
def stamped (release : Release) : Language → List Path
  | .typeScript => [release.packagePath]
  | _ => []

/-- Everything that emitting a language may write. -/
def files (release : Release) (language : Language) : List Path :=
  release.artifacts language ++ release.stamped language

theorem eq_of_mem_goFiles {path : Path} (h : path ∈ release.goFiles) :
    ∃ title, path = release.outpath.child (Name.goPackage title ++ ".go") := by
  unfold goFiles at h
  cases htitle : release.title with
  | ok title =>
    rw [htitle] at h
    exact ⟨title, List.mem_singleton.1 h⟩
  | error cause =>
    rw [htitle] at h
    cases h

theorem endsAs_artifact {language : Language} {path : Path} (h : path ∈ release.files language) :
    ∃ ending ∈ language.endings, path.EndsAs ending := by
  have hconstant (base : Path) {name : String} {ending : List Char} (hslash : '/' ∉ name.toList)
      (hending : name.toList.reverse.take 2 = ending) (hlength : ending.length = 2)
      (hup : ending ≠ ['.', '.']) : (base.child name).EndsAs ending := by
    have hchild := base.endsAs_child "" hslash hending hlength hup
    rw [String.empty_append] at hchild
    exact hchild
  cases language with
  | typeScript =>
    simp only [files, artifacts, stamped, List.cons_append, List.nil_append, List.mem_cons,
      List.not_mem_nil, or_false] at h
    rcases h with rfl | rfl | rfl | rfl
    · exact ⟨['n', 'o'], by decide, hconstant _ (by decide) (by decide) rfl (by decide)⟩
    · exact ⟨['s', 't'], by decide, hconstant _ (by decide) (by decide) rfl (by decide)⟩
    · exact ⟨['s', 't'], by decide,
        release.outpath.endsAs_child _ (by decide) (by decide) rfl (by decide)⟩
    · exact ⟨['n', 'o'], by decide, hconstant _ (by decide) (by decide) rfl (by decide)⟩
  | go =>
    simp only [files, artifacts, stamped, List.append_nil] at h
    obtain ⟨title, hpath⟩ := eq_of_mem_goFiles h
    rw [hpath]
    exact ⟨['o', 'g'], by decide,
      release.outpath.endsAs_child (Name.goPackage title) (by decide) (by decide) rfl (by decide)⟩
  | rust =>
    simp only [files, artifacts, stamped, List.append_nil, List.mem_cons, List.not_mem_nil,
      or_false] at h
    rcases h with rfl | rfl
    · exact ⟨['l', 'm'], by decide, hconstant _ (by decide) (by decide) rfl (by decide)⟩
    · exact ⟨['s', 'r'], by decide, hconstant _ (by decide) (by decide) rfl (by decide)⟩
  | python =>
    simp only [files, artifacts, stamped, List.append_nil, List.mem_singleton] at h
    subst h
    exact ⟨['y', 'p'], by decide, hconstant _ (by decide) (by decide) rfl (by decide)⟩

/-- **Languages have places of their own.** -/
theorem place_ne {language other : Language} (hne : language ≠ other) {path path' : Path}
    (h : path ∈ release.files language) (h' : path' ∈ release.files other) :
    path.place ≠ path'.place := by
  obtain ⟨ending, hending, hpath⟩ := endsAs_artifact h
  obtain ⟨ending', hending', hpath'⟩ := endsAs_artifact h'
  intro hplace
  obtain ⟨-, rfl⟩ := hpath.eq_of_place hpath' hplace
  exact Language.endings_disjoint hne hending hending'

/-- **The file of the declarations** keeps the end of its name, whatever the name of the output is. -/
theorem name_declarationsPath_ne {name : String} (h : name.toList.reverse.take 4 ≠ ['s', 't', '.', 'd']) :
    (release.outpath.child (release.config.outputName.display ++ ".d.ts")).name ≠ name := by
  obtain ⟨above, last, hsteps⟩ := Path.exists_suffix_child release.outpath
    release.config.outputName.display (show '/' ∉ ".d.ts".toList by decide) (by decide)
  rintro rfl
  rw [Path.name_of_steps hsteps, String.toList_ofList, List.reverse_append,
    List.take_append_of_le_length (by decide)] at h
  exact h (by decide)

/-- No artifact of TypeScript has the name of the description. -/
theorem ne_name_artifact {path : Path} (h : path ∈ release.artifacts .typeScript) :
    "package.json" ≠ path.name := by
  simp only [artifacts, List.mem_cons, List.not_mem_nil, or_false] at h
  rcases h with rfl | rfl | rfl
  · rw [Path.name_child (by decide)]
    decide
  · rw [Path.name_child (by decide)]
    decide
  · exact (name_declarationsPath_ne (by decide)).symm

/-- The description of the package is none of the artifacts. -/
theorem packagePath_place_ne {language : Language} {path : Path}
    (h : path ∈ release.artifacts language) : release.packagePath.place ≠ path.place := by
  have hstamped : release.packagePath ∈ release.files .typeScript :=
    List.mem_append_right _ List.mem_cons_self
  have hfile : path ∈ release.files language := List.mem_append_left _ h
  by_cases hlanguage : language = .typeScript
  · subst hlanguage
    obtain ⟨ending, -, hpackage⟩ := endsAs_artifact hstamped
    obtain ⟨ending', -, hpath⟩ := endsAs_artifact hfile
    intro hplace
    obtain ⟨hname, -⟩ := hpackage.eq_of_place hpath hplace
    have hpackageName : release.packagePath.name = "package.json" := Path.name_child (by decide)
    exact ne_name_artifact h (hpackageName ▸ hname)
  · exact place_ne (Ne.symm hlanguage) hstamped hfile

/-- **The files of a language have places of their own.** -/
theorem nodup_places (language : Language) :
    ((release.files language).map Path.place).Nodup := by
  cases language with
  | typeScript =>
    have hpackage (path : Path) (h : path ∈ release.artifacts .typeScript) :
        path.place ≠ release.packagePath.place := (packagePath_place_ne h).symm
    have hdeclarations {name : String} (hname : Path.IsStep name)
        (hends : name.toList.reverse.take 4 ≠ ['s', 't', '.', 'd'])
        (hpath : (release.outpath.child "src").child name ∈ release.files .typeScript) :
        ((release.outpath.child "src").child name).place ≠
          (release.outpath.child (release.config.outputName.display ++ ".d.ts")).place := by
      obtain ⟨ending, -, hpath⟩ := endsAs_artifact hpath
      intro hplace
      obtain ⟨heq, -⟩ := hpath.eq_of_place
        (release.outpath.endsAs_child release.config.outputName.display
          (show '/' ∉ ".d.ts".toList by decide) rfl rfl (by decide)) hplace
      exact name_declarationsPath_ne hends (heq.symm.trans (Path.name_child hname))
    change [((release.outpath.child "src").child "schema.json").place,
      ((release.outpath.child "src").child "index.ts").place,
      (release.outpath.child (release.config.outputName.display ++ ".d.ts")).place,
      release.packagePath.place].Nodup
    simp only [List.nodup_cons, List.mem_cons, List.not_mem_nil, or_false, not_or, not_false_eq_true,
      List.nodup_nil, and_true]
    exact ⟨⟨Path.place_child_ne (by decide) (by decide) (by decide),
        hdeclarations (by decide) (by decide) List.mem_cons_self, hpackage _ List.mem_cons_self⟩,
      ⟨hdeclarations (by decide) (by decide) (List.mem_cons_of_mem _ List.mem_cons_self),
        hpackage _ (List.mem_cons_of_mem _ List.mem_cons_self)⟩,
      hpackage _ (List.mem_cons_of_mem _ (List.mem_cons_of_mem _ List.mem_cons_self))⟩
  | go =>
    simp only [files, artifacts, stamped, List.append_nil, goFiles]
    split
    · exact List.nodup_singleton _
    · exact List.nodup_nil
  | rust =>
    simp only [files, artifacts, stamped, List.append_nil, List.map_cons, List.map_nil, List.nodup_cons,
      List.mem_singleton, List.not_mem_nil, not_false_eq_true, List.nodup_nil, and_true]
    exact Path.place_child_ne (by decide) (by decide) (by decide)
  | python => exact List.nodup_singleton _

end Release

end SchemaPress
