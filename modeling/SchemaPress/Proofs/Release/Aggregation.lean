import SchemaPress.Proofs.Release.Inputs

/-!
# Loading reports every failure

All locations are resolved, then all files are read, and only then is something said about them. What
comes of the places, each for itself and in their order, is told by `Tally`: the schemas, the places
that cannot be read, and those that do not hold an object.

Two things stop the loading before anything is reported: links that lead back to themselves, met in
resolving, and a file that its reader does not foresee (`Tree.Unforeseen`), because it is not UTF-8 or holds
an integer that is too long. These apart, every failure is in the one error that is reported
(`loadSchemas_reports`).
-/

namespace SchemaPress

open SchemaPress.Tree

/-! ### Names without the NUL character -/

namespace Path

theorem nul_not_mem_of_mem_names {text name : String} (h : '\x00' ∉ text.toList)
    (hname : name ∈ names text) : '\x00' ∉ name.toList := by
  obtain ⟨hmem, -⟩ := List.mem_filter.1 hname
  obtain ⟨piece, hpiece, rfl⟩ := List.mem_map.1 hmem
  rw [String.toList_ofList]
  exact fun hnul => h (Text.subset_of_mem_pieces hpiece hnul)

theorem hasNul_eq_false_iff {path : Path} :
    path.hasNul = false ↔ ∀ step ∈ path.steps, '\x00' ∉ step.toList := by
  unfold hasNul
  simp

theorem hasNul_child {path : Path} (hpath : path.hasNul = false) {text : String}
    (h : '\x00' ∉ text.toList) : (path.child text).hasNul = false := by
  have htext : ∀ step ∈ names text, '\x00' ∉ step.toList := fun _ => nul_not_mem_of_mem_names h
  refine hasNul_eq_false_iff.2 fun step hstep => ?_
  unfold child join at hstep
  split at hstep
  · exact htext step hstep
  · rcases List.mem_append.1 hstep with hstep | hstep
    · exact hasNul_eq_false_iff.1 hpath step hstep
    · exact htext step hstep

end Path

namespace Tree

variable {tree : Tree}

/-- **Trees whose links can be followed**: no target has a NUL character in it. -/
def NulFree (tree : Tree) : Prop :=
  ∀ location target, tree.get? location = some (.link target) → '\x00' ∉ target.toList

/-- Where a path without NUL leads, there is none in the names. -/
theorem hasNul_of_resolve (htree : tree.NulFree) {path : Path} {place : Location}
    (hpath : path.hasNul = false) (h : tree.resolve path = .ok place) :
    (Path.ofLocation place).hasNul = false := by
  unfold resolve at h
  rw [hpath, if_neg (by decide)] at h
  split at h
  · next hresolve =>
    cases h
    have htarget : ∀ location target, tree.get? location = some (.link target) →
        ∀ step ∈ (Path.ofText target).steps, '\x00' ∉ step.toList :=
      fun location target hlink _ => Path.nul_not_mem_of_mem_names (htree location target hlink)
    exact Path.hasNul_eq_false_iff.2
      (names_of_resolveFrom htarget (List.forall_mem_nil _) (Path.hasNul_eq_false_iff.1 hpath) hresolve)
  · cases h

/-- Only a loop of links keeps a path from being resolved. -/
theorem resolve_eq_error {path : Path} (hpath : path.hasNul = false) {cause : Crash}
    (h : tree.resolve path = .error cause) : cause = .linkLoop := by
  unfold resolve at h
  rw [hpath, if_neg (by decide)] at h
  split at h
  · cases h
  · exact (Except.error.inj h).symm

/-- A path that the system takes may be refused, but looking it up does not crash. -/
theorem readBytes_ne_crash {path : Path} (hpath : path.hasNul = false) (cause : Crash) :
    tree.readBytes path ≠ .error (.crash cause) := by
  have hwalk : tree.walk true path ≠ .error (.crash cause) := by
    intro h
    unfold walk at h
    rw [hpath, if_neg (by decide)] at h
    split at h
    · cases h
    · split at h
      · cases h
      · cases h
  intro h
  unfold readBytes find at h
  cases hspot : tree.walk true path with
  | error failure =>
    rw [hspot] at h hwalk
    exact hwalk (congrArg Except.error (Except.error.inj h))
  | ok spot =>
    rw [hspot] at h
    cases spot with
    | vacant directory name => cases h
    | entry location entry => cases entry <;> cases h

/-- **A file that nothing is reported of**: it is not UTF-8, or some integer in it has too many digits. -/
inductive Unforeseen (tree : Tree) (place : Location) : Crash → Prop where
  | undecodable {bytes : ByteArray} (hbytes : tree.readBytes (Path.ofLocation place) = .ok bytes)
      (hnone : String.fromUTF8? bytes = none) : Unforeseen tree place .badEncoding
  | tooLong {text : String} (htext : tree.readText (Path.ofLocation place) = .ok text)
      (hparse : Json.parseRaw text = .error .tooLong) : Unforeseen tree place .badValue

end Tree

variable {tree : Tree}

/-! ### One place -/

/-- An entry of the report. -/
def entryOf (place : Location) (failure : String) : String :=
  (Path.ofLocation place).text ++ ": " ++ failure

/-- **What comes of places**, in their order: the schemas, the entries for places that cannot be read, and
the entries for places that can be read but do not hold an object. -/
inductive Tally (tree : Tree) : List Location → List Raw → List String → List String → Prop where
  | nil : Tally tree [] [] [] []
  | schema {place : Location} {places : List Location} {schemas : List Raw} {reads parses : List String}
      {text : String} {members : RawMembers} (htext : tree.readText (Path.ofLocation place) = .ok text)
      (hparse : Json.parseRaw text = .ok (.obj members)) (hrest : Tally tree places schemas reads parses) :
      Tally tree (place :: places) (.obj members :: schemas) reads parses
  | unreadable {place : Location} {places : List Location} {schemas : List Raw}
      {reads parses : List String} {failure : FileFailure}
      (hbytes : tree.readBytes (Path.ofLocation place) = .error failure)
      (hrest : Tally tree places schemas reads parses) :
      Tally tree (place :: places) schemas (entryOf place failure.message :: reads) parses
  | noJson {place : Location} {places : List Location} {schemas : List Raw} {reads parses : List String}
      {text : String} {failure : Json.SyntaxError}
      (htext : tree.readText (Path.ofLocation place) = .ok text)
      (hparse : Json.parseRaw text = .error (.malformed failure))
      (hrest : Tally tree places schemas reads parses) :
      Tally tree (place :: places) schemas reads (entryOf place failure.message :: parses)
  | noObject {place : Location} {places : List Location} {schemas : List Raw}
      {reads parses : List String} {text : String} {value : Raw}
      (htext : tree.readText (Path.ofLocation place) = .ok text)
      (hparse : Json.parseRaw text = .ok value) (hvalue : ∀ members, value ≠ .obj members)
      (hrest : Tally tree places schemas reads parses) :
      Tally tree (place :: places) schemas reads
        (entryOf place ("schema must be a JSON object, got " ++ value.kindName) :: parses)

/-- What is read of a file in one way only. -/
theorem Tree.Unforeseen.not_readText {place : Location} {cause : Crash} (h : tree.Unforeseen place cause)
    {text : String} (htext : tree.readText (Path.ofLocation place) = .ok text) :
    Json.parseRaw text = .error .tooLong := by
  cases h with
  | undecodable hbytes hnone =>
    obtain ⟨found, decoded, hfound, hdecoded, -⟩ := readText_eq_ok_iff.1 htext
    obtain rfl := Except.ok.inj (hbytes.symm.trans hfound)
    rw [hdecoded] at hnone
    cases hnone
  | tooLong hread hparse =>
    obtain rfl := Except.ok.inj (htext.symm.trans hread)
    exact hparse

/-- A file that is not foreseen is there. -/
theorem Tree.Unforeseen.exists_readBytes {place : Location} {cause : Crash}
    (h : tree.Unforeseen place cause) : ∃ bytes, tree.readBytes (Path.ofLocation place) = .ok bytes := by
  cases h with
  | undecodable hbytes => exact ⟨_, hbytes⟩
  | tooLong htext =>
    obtain ⟨bytes, decoded, hbytes, -⟩ := readText_eq_ok_iff.1 htext
    exact ⟨bytes, hbytes⟩

/-- A file that is not foreseen has no part in a tally. -/
theorem Tally.not_unforeseen {places : List Location} {schemas : List Raw} {reads parses : List String}
    (h : Tally tree places schemas reads parses) {place : Location} (hplace : place ∈ places)
    (cause : Crash) : ¬ tree.Unforeseen place cause := by
  have hread {other : Location} {text : String} (htext : tree.readText (Path.ofLocation other) = .ok text)
      (hparse : Json.parseRaw text ≠ .error .tooLong) : ¬ tree.Unforeseen other cause :=
    fun hunforeseen => hparse (hunforeseen.not_readText htext)
  induction h with
  | nil => cases hplace
  | schema htext hparse _ ih =>
    refine (List.mem_cons.1 hplace).elim (fun heq => heq ▸ hread htext ?_) ih
    rw [hparse]
    nofun
  | unreadable hbytes _ ih =>
    refine (List.mem_cons.1 hplace).elim (fun heq => heq ▸ fun hunforeseen => ?_) ih
    obtain ⟨bytes, hread⟩ := hunforeseen.exists_readBytes
    rw [hbytes] at hread
    cases hread
  | noJson htext hparse _ ih =>
    refine (List.mem_cons.1 hplace).elim (fun heq => heq ▸ hread htext ?_) ih
    rw [hparse]
    nofun
  | noObject htext hparse _ _ ih =>
    refine (List.mem_cons.1 hplace).elim (fun heq => heq ▸ hread htext ?_) ih
    rw [hparse]
    nofun

/-- **Loading crashes at the files that are not foreseen**, and at no other ones. -/
theorem loadSchema_eq_error_iff {place : Location} (hplace : (Path.ofLocation place).hasNul = false)
    {cause : Crash} : loadSchema tree place = .error cause ↔ tree.Unforeseen place cause := by
  constructor
  · intro h
    unfold loadSchema at h
    simp only at h
    split at h
    · next other hread =>
      obtain rfl := Except.error.inj h
      unfold readText at hread
      cases hbytes : tree.readBytes (Path.ofLocation place) with
      | error failure =>
        rw [hbytes] at hread
        obtain rfl := Except.error.inj hread
        exact absurd hbytes (readBytes_ne_crash hplace _)
      | ok bytes =>
        rw [hbytes, Task.ok_bind] at hread
        split at hread
        · cases hread
        · next hnone =>
          cases hread
          exact .undecodable hbytes hnone
    · cases h
    · next text htext =>
      split at h
      · cases h
      · next misreading hmalformed hparse =>
        obtain rfl := Json.eq_tooLong_of_parseRaw hparse hmalformed
        cases h
        exact .tooLong htext hparse
      · cases h
      · cases h
  · intro h
    unfold loadSchema
    cases h with
    | undecodable hbytes hnone =>
      have hread : tree.readText (Path.ofLocation place) = .error (.crash .badEncoding) := by
        unfold readText
        rw [hbytes, Task.ok_bind, hnone]
        rfl
      simp only [hread]
    | tooLong htext hparse =>
      simp only [htext, hparse]
      rfl

/-- **One more place**, in front of the others. -/
theorem Tally.cons {place : Location} {places : List Location} {result : Loaded} {schemas : List Raw}
    {reads parses : List String} (h : loadSchema tree place = .ok result)
    (hrest : Tally tree places schemas reads parses) :
    Tally tree (place :: places) (result.schema?.toList ++ schemas)
      (result.unreadable?.toList ++ reads) (result.unusable?.toList ++ parses) := by
  unfold loadSchema at h
  simp only at h
  split at h
  · cases h
  · next failure hcrash hread =>
    cases h
    have hbytes : tree.readBytes (Path.ofLocation place) = .error failure := by
      unfold readText at hread
      cases hbytes : tree.readBytes (Path.ofLocation place) with
      | error other =>
        rw [hbytes] at hread
        exact congrArg Except.error (Except.error.inj hread)
      | ok bytes =>
        rw [hbytes, Task.ok_bind] at hread
        split at hread
        · cases hread
        · exact absurd (Except.error.inj hread).symm (hcrash _)
    exact .unreadable hbytes hrest
  · next text htext =>
    split at h
    · next failure hparse =>
      cases h
      exact .noJson htext hparse hrest
    · cases h
    · next members hparse =>
      cases h
      exact .schema htext hparse hrest
    · next value hvalue hparse =>
      cases h
      exact .noObject htext hparse hvalue hrest

/-! ### All places -/

theorem filterMap_cons_eq {α β : Type} (f : α → Option β) (a : α) (rest : List α) :
    (a :: rest).filterMap f = (f a).toList ++ rest.filterMap f := by
  rw [List.filterMap_cons]
  cases f a <;> rfl

theorem tally_of_loaded {places : List Location} {loaded : List Loaded}
    (h : List.Forall₂ (fun place result => loadSchema tree place = .ok result) places loaded) :
    Tally tree places (loaded.filterMap Loaded.schema?) (loaded.filterMap Loaded.unreadable?)
      (loaded.filterMap Loaded.unusable?) := by
  induction h with
  | nil => exact .nil
  | cons hfirst _ ih =>
    simp only [filterMap_cons_eq]
    exact .cons hfirst ih

/-- What is reported of places, once all of them are tried. -/
theorem report_of_loaded {directory : Path} {locations : List Json} {places : List Location}
    {loaded : List Loaded} (hplaces : resolveLocations tree directory locations = .ok places)
    (hloaded : places.mapM (loadSchema tree) = .ok loaded) :
    loadSchemas tree directory locations =
      if loaded.filterMap Loaded.unusable? ≠ [] then
        .error (.error (.schemaParse
          (loaded.filterMap Loaded.unreadable? ++ loaded.filterMap Loaded.unusable?)))
      else if loaded.filterMap Loaded.unreadable? ≠ [] then
        .error (.error (.schemaRead (loaded.filterMap Loaded.unreadable?)))
      else .ok (loaded.filterMap Loaded.schema?) := by
  unfold loadSchemas
  rw [hplaces, Task.mapError_ok, Task.ok_bind, hloaded, Task.mapError_ok, Task.ok_bind]
  cases loaded.filterMap Loaded.unusable? with
  | cons => rfl
  | nil => cases loaded.filterMap Loaded.unreadable? <;> rfl

/-- **Loading aggregates every failure.** Either links lead a location back to itself, or some file is not
foreseen: the loading crashes then, at the first such file, and nothing is reported. Or every place has its
part in a tally, and the loading gives all schemas if there is no failure in it, and otherwise one error with
all failures: those to read first, then the others, each in the order of the locations. -/
theorem loadSchemas_reports {directory : Path} {names : List String} (htree : tree.NulFree)
    (hdirectory : directory.hasNul = false) (hnames : ∀ name ∈ names, '\x00' ∉ name.toList) :
    ((∃ name ∈ names, tree.resolve (directory.child name) = .error .linkLoop) ∧
      loadSchemas tree directory (names.map .str) = .error (.crash .linkLoop)) ∨
    ∃ places, List.Forall₂ (fun name place => tree.resolve (directory.child name) = .ok place)
        names places ∧
      ((∃ before place rest cause, places = before ++ place :: rest ∧
        (∀ earlier ∈ before, ∀ other, ¬ tree.Unforeseen earlier other) ∧ tree.Unforeseen place cause ∧
        loadSchemas tree directory (names.map .str) = .error (.crash cause)) ∨
      (∀ place ∈ places, ∀ cause, ¬ tree.Unforeseen place cause) ∧
      ∃ schemas reads parses, Tally tree places schemas reads parses ∧
        (reads = [] → parses = [] → loadSchemas tree directory (names.map .str) = .ok schemas) ∧
        (reads ≠ [] → parses = [] → ∃ error, error.code = "ESCHEMAREAD" ∧
          error.details = "\n\n".intercalate reads ∧
          loadSchemas tree directory (names.map .str) = .error (.error error)) ∧
        (parses ≠ [] → ∃ error, error.code = "ESCHEMAPARSE" ∧
          error.details = "\n\n".intercalate (reads ++ parses) ∧
          loadSchemas tree directory (names.map .str) = .error (.error error))) := by
  have hnul (name : String) (hname : name ∈ names) : (directory.child name).hasNul = false :=
    Path.hasNul_child hdirectory (hnames name hname)
  have hresolve : resolveLocations tree directory (names.map .str) =
      names.mapM fun name => tree.resolve (directory.child name) := by
    unfold resolveLocations
    rw [List.mapM_map]
    rfl
  cases hplaces : names.mapM fun name => tree.resolve (directory.child name) with
  | error cause =>
    obtain ⟨name, hname, hloop⟩ := mem_of_mapM_eq_error hplaces
    obtain rfl := resolve_eq_error (hnul name hname) hloop
    refine .inl ⟨⟨name, hname, hloop⟩, ?_⟩
    unfold loadSchemas
    rw [hresolve, hplaces]
    rfl
  | ok places =>
    have hfound := mapM_eq_ok_iff.1 hplaces
    have hfree (place : Location) (hplace : place ∈ places) : (Path.ofLocation place).hasNul = false := by
      obtain ⟨name, hname, hwhere⟩ := exists_of_mem_left hfound.flip hplace
      exact hasNul_of_resolve htree (hnul name hname) hwhere
    refine .inr ⟨places, hfound, ?_⟩
    cases hloaded : places.mapM (loadSchema tree) with
    | error cause =>
      obtain ⟨before, place, rest, hsplit, hbefore, hcrash⟩ := exists_first_of_mapM_eq_error hloaded
      have hmem : place ∈ places := hsplit ▸ List.mem_append_right _ List.mem_cons_self
      refine .inl ⟨before, place, rest, cause, hsplit, fun earlier hearlier other hunforeseen => ?_,
        (loadSchema_eq_error_iff (hfree place hmem)).1 hcrash, ?_⟩
      · obtain ⟨result, hresult⟩ := hbefore earlier hearlier
        have hplace := hfree earlier (hsplit ▸ List.mem_append_left _ hearlier)
        rw [(loadSchema_eq_error_iff hplace).2 hunforeseen] at hresult
        cases hresult
      · unfold loadSchemas
        rw [hresolve, hplaces, Task.mapError_ok, Task.ok_bind, hloaded]
        rfl
    | ok loaded =>
      have hreport := report_of_loaded (hresolve.trans hplaces) hloaded
      have htally := tally_of_loaded (mapM_eq_ok_iff.1 hloaded)
      refine .inr ⟨fun place hplace => htally.not_unforeseen hplace, _, _, _, htally, ?_, ?_, ?_⟩
      · intro hreads hparses
        rw [hreport, if_neg (not_not_intro hparses), if_neg (not_not_intro hreads)]
      · intro hreads hparses
        refine ⟨.schemaRead (loaded.filterMap Loaded.unreadable?), rfl, rfl, ?_⟩
        rw [hreport, if_neg (not_not_intro hparses), if_pos hreads]
      · intro hparses
        refine ⟨.schemaParse (loaded.filterMap Loaded.unreadable? ++ loaded.filterMap Loaded.unusable?),
          rfl, rfl, ?_⟩
        rw [hreport, if_pos hparses]

/-- A tree with one file, of a byte that is in no text. -/
def undecodableTree : Tree := ⟨[(["bad.json"], .file ⟨#[0xff]⟩)]⟩

theorem readBytes_undecodableTree :
    undecodableTree.readBytes ⟨"/", ["bad.json"]⟩ = .ok ⟨#[0xff]⟩ := by
  refine readBytes_eq_ok_iff.2 ⟨["bad.json"], find_eq_ok_iff.2 ⟨⟨by decide, by decide⟩, ?_⟩⟩
  exact .into rfl (by decide) (by decide) rfl nofun (.stop rfl)

/-- A file that is not there is left out of a report that is not made. -/
theorem loadSchemas_reports_not :
    undecodableTree.NulFree ∧ (⟨"/", []⟩ : Path).hasNul = false ∧
    (∀ name ∈ ["gone.json", "bad.json"], '\x00' ∉ name.toList) ∧
    loadSchemas undecodableTree ⟨"/", []⟩ [.str "gone.json", .str "bad.json"] =
      .error (.crash .badEncoding) := by
  have hlinks : undecodableTree.NoLinks := by
    refine noLinks_of_entries ?_
    simp only [undecodableTree, List.forall_mem_cons]
    exact ⟨nofun, nofun⟩
  have htree : undecodableTree.NulFree := fun location target hlink => absurd hlink (hlinks _ _)
  have hdirectory : (⟨"/", []⟩ : Path).hasNul = false := rfl
  have hnames : ∀ name ∈ ["gone.json", "bad.json"], '\x00' ∉ name.toList := by decide
  have hgone : undecodableTree.resolve (Path.child ⟨"/", []⟩ "gone.json") = .ok ["gone.json"] :=
    resolve_eq hlinks _
  have hbad : undecodableTree.resolve (Path.child ⟨"/", []⟩ "bad.json") = .ok ["bad.json"] :=
    resolve_eq hlinks _
  refine ⟨htree, hdirectory, hnames, ?_⟩
  have hundecodable : undecodableTree.Unforeseen ["bad.json"] .badEncoding :=
    .undecodable readBytes_undecodableTree (by decide +kernel)
  have hplaces {places : List Location} (h : List.Forall₂
      (fun name place => undecodableTree.resolve (Path.child ⟨"/", []⟩ name) = .ok place)
      ["gone.json", "bad.json"] places) : places = [["gone.json"], ["bad.json"]] := by
    obtain ⟨gone, rest, hfirst, hrest, rfl⟩ := List.forall₂_cons_left_iff.1 h
    obtain ⟨bad, last, hsecond, hlast, rfl⟩ := List.forall₂_cons_left_iff.1 hrest
    obtain rfl := Except.ok.inj (hgone.symm.trans hfirst)
    obtain rfl := Except.ok.inj (hbad.symm.trans hsecond)
    rw [List.forall₂_nil_left_iff.1 hlast]
  rcases loadSchemas_reports htree hdirectory hnames with ⟨⟨name, hname, hloop⟩, -⟩ |
    ⟨places, hfound, ⟨before, place, rest, cause, hsplit, -, hunforeseen, hcrash⟩ | ⟨hforeseen, -⟩⟩
  · obtain rfl | rfl : name = "gone.json" ∨ name = "bad.json" := by simpa using hname
    · rw [hgone] at hloop
      cases hloop
    · rw [hbad] at hloop
      cases hloop
  · obtain rfl : cause = .badEncoding := by
      have hmem : place ∈ [["gone.json"], ["bad.json"]] :=
        hplaces hfound ▸ hsplit ▸ List.mem_append_right _ List.mem_cons_self
      obtain rfl | rfl : place = ["gone.json"] ∨ place = ["bad.json"] := by simpa using hmem
      · obtain ⟨bytes, hread⟩ := hunforeseen.exists_readBytes
        cases (get?_place_of_readBytes hlinks hread : undecodableTree.get? ["gone.json"] = _)
      · have hcause : loadSchema undecodableTree ["bad.json"] = .error cause :=
          (loadSchema_eq_error_iff rfl).2 hunforeseen
        rw [(loadSchema_eq_error_iff rfl).2 hundecodable] at hcause
        exact (Except.error.inj hcause).symm
    exact hcrash
  · exact absurd hundecodable (hforeseen _ (hplaces hfound ▸ by decide) _)

end SchemaPress
