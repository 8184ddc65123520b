import SchemaPress.Files.Text
import SchemaPress.Proofs.Text.Pieces

/-!
# Resolved paths lead to their places

A path is proper when its steps are what a text between slashes can spell (`Path.Proper`); every
path that is read from a text is (`Path.proper_ofText`). Resolving a proper path gives a plain
location: no link is on the way to it, and its names go up nowhere (`Tree.plain_of_resolve`). The
text of a plain location spells it (`Path.ofText_text_ofLocation`), and walking it ends at the
entry of that place (`Tree.get?_of_walkFrom`). So whatever file is read by the text of a resolved
path is the one that stands in the tree at its location (`Tree.file_of_readText`).
-/

namespace SchemaPress

namespace Path

/-- A name that a text between slashes can spell. -/
structure IsName (name : String) : Prop where
  nonempty : name ≠ ""
  noDot : name ≠ "."
  noSlash : '/' ∉ name.toList

/-- **Proper paths.** -/
def Proper (path : Path) : Prop :=
  ∀ step ∈ path.steps, IsName step

theorem isName_of_mem_names {text name : String} (h : name ∈ names text) : IsName name := by
  obtain ⟨hmem, hname⟩ := List.mem_filter.1 h
  obtain ⟨piece, hpiece, rfl⟩ := List.mem_map.1 hmem
  simp only [Bool.and_eq_true, bne_iff_ne, ne_eq] at hname
  refine ⟨hname.1, hname.2, ?_⟩
  rw [String.toList_ofList]
  exact Text.not_mem_of_mem_pieces hpiece

theorem proper_ofText (text : String) : (ofText text).Proper :=
  fun _ h => isName_of_mem_names h

theorem Proper.parent {path : Path} (h : path.Proper) : path.parent.Proper :=
  fun step hstep => h step (List.dropLast_subset _ hstep)

theorem Proper.join {path other : Path} (h : path.Proper) (h' : other.Proper) :
    (path.join other).Proper := by
  unfold Path.join
  split
  · exact h'
  · intro step hstep
    rcases List.mem_append.1 hstep with hstep | hstep
    · exact h step hstep
    · exact h' step hstep

theorem toList_text_ofLocation (location : Location) :
    (ofLocation location).text.toList = '/' :: ['/'].intercalate (location.map String.toList) := by
  change ("/" ++ "/".intercalate location).toList = _
  rw [String.toList_append, String.toList_intercalate]
  rfl

/-- No second slash follows the first one. -/
theorem head_intercalate_ne {location : Location} (h : ∀ name ∈ location, IsName name) :
    (['/'].intercalate (location.map String.toList)).head? ≠ some '/' := by
  cases location with
  | nil => exact nofun
  | cons name rest =>
    have hname := h name List.mem_cons_self
    have hne : name.toList ≠ [] := by
      intro hnil
      exact hname.nonempty (String.toList_inj.1 hnil)
    obtain ⟨c, tail, hc⟩ := List.exists_cons_of_ne_nil hne
    -- the first character is that of the first name
    have hhead : (['/'].intercalate ((name :: rest).map String.toList)).head? = some c := by
      cases rest with
      | nil => rw [List.map_cons, List.map_nil, List.intercalate_singleton, hc]; rfl
      | cons next rest => rw [List.map_cons, List.map_cons, List.intercalate_cons_cons, hc]; rfl
    rw [hhead]
    intro heq
    obtain rfl := Option.some.inj heq
    exact hname.noSlash (hc ▸ List.mem_cons_self)

theorem names_text_ofLocation {location : Location} (h : ∀ name ∈ location, IsName name) :
    names (ofLocation location).text = location := by
  unfold names
  rw [toList_text_ofLocation, Text.pieces_cons_mark]
  cases location with
  | nil => rfl
  | cons name rest =>
    have hpieces : Text.pieces '/' (['/'].intercalate ((name :: rest).map String.toList)) =
        (name :: rest).map String.toList := by
      refine Text.pieces_intercalate nofun fun piece hpiece => ?_
      obtain ⟨other, hother, rfl⟩ := List.mem_map.1 hpiece
      exact (h other hother).noSlash
    have hmap : ((name :: rest).map String.toList).map String.ofList = name :: rest := by
      simp
    -- in front of the first slash stands an empty piece, which spells no step
    rw [hpieces, List.map_cons, hmap, List.filter_cons_of_neg (by decide)]
    refine List.filter_eq_self.2 fun other hother => ?_
    have hother := h other hother
    simp [hother.nonempty, hother.noDot]

/-- A text of one slash and more has one slash for its root. -/
theorem root_ofText {text : String} {rest : List Char} (htext : text.toList = '/' :: rest)
    (hrest : rest.head? ≠ some '/') : (ofText text).root = "/" := by
  unfold ofText
  simp only
  rw [htext]
  split
  · next heq =>
    cases heq
    exact absurd rfl hrest
  · next heq =>
    cases heq
    exact absurd rfl hrest
  · rfl
  · next hno => exact absurd rfl (hno rest)

/-- **The text of the path of a location spells it.** -/
theorem ofText_text_ofLocation {location : Location} (h : ∀ name ∈ location, IsName name) :
    ofText (ofLocation location).text = ofLocation location := by
  have hroot := root_ofText (toList_text_ofLocation location) (head_intercalate_ne h)
  have hnames : (ofText (ofLocation location).text).steps = location := names_text_ofLocation h
  exact congr (congrArg Path.mk hroot) hnames

end Path

namespace Tree

variable {tree : Tree}

/-- **Plain locations.** No link stands on the way to them, and none of their names goes up. -/
structure Plain (tree : Tree) (location : Location) : Prop where
  names : ∀ name ∈ location, Path.IsName name ∧ name ≠ ".."
  links : ∀ before, before <+: location → ∀ target, tree.get? before ≠ some (.link target)

theorem Plain.nil : tree.Plain [] where
  names := nofun
  links := by
    intro before hbefore target h
    obtain rfl := List.prefix_nil.1 hbefore
    cases h

theorem Plain.of_prefix {location before : Location} (h : tree.Plain location)
    (hbefore : before <+: location) : tree.Plain before where
  names name hname := h.names name (hbefore.subset hname)
  links other hother := h.links other (hother.trans hbefore)

theorem Plain.snoc {location : Location} {name : String} (h : tree.Plain location)
    (hname : Path.IsName name) (hup : name ≠ "..")
    (hlink : ∀ target, tree.get? (location ++ [name]) ≠ some (.link target)) :
    tree.Plain (location ++ [name]) where
  names := by
    intro other hother
    rcases List.mem_append.1 hother with hother | hother
    · exact h.names other hother
    · obtain rfl := List.mem_singleton.1 hother
      exact ⟨hname, hup⟩
  links := by
    intro before hbefore
    rcases List.prefix_concat_iff.1 hbefore with rfl | hbefore
    · exact hlink
    · exact h.links before hbefore

/-- **What holds of every place on the way holds of the place that steps lead to**, by the recursion of
resolving: a link is replaced by what it leads to, and any other step goes to a place that holds no
link. -/
theorem reached_of_resolveFrom (Reached : Location → Prop) (Step : String → Prop) (hroot : Reached [])
    (hup : ∀ place, Reached place → Reached place.dropLast)
    (hinto : ∀ place step, Reached place → Step step → step ≠ ".." →
      (∀ target, tree.get? (place ++ [step]) ≠ some (.link target)) → Reached (place ++ [step]))
    (htarget : ∀ location target, tree.get? location = some (.link target) →
      ∀ step ∈ (Path.ofText target).steps, Step step)
    {closed : List (Location × String)} {place location : Location} {steps : List String}
    (hplace : Reached place) (hsteps : ∀ step ∈ steps, Step step)
    (h : resolveFrom tree closed place steps = some location) : Reached location := by
  induction closed, place, steps using resolveFrom.induct tree generalizing location with
  | case1 closed place =>
    rw [resolveFrom] at h
    obtain rfl := Option.some.inj h
    exact hplace
  | case2 closed place rest ih =>
    rw [resolveFrom, if_pos rfl] at h
    exact ih (hup place hplace) (fun step hstep => hsteps step (List.mem_cons_of_mem _ hstep)) h
  | case3 closed place step rest hne target hlink hclosed path reached hreached ihLink =>
    rename_i ihRest
    rw [resolveFrom, if_neg hne, hlink] at h
    simp only [hclosed, dif_pos] at h
    -- the link is followed from the root or from the place that it stands in
    have hstart : Reached (if (Path.ofText target).isAbsolute then [] else place) := by
      split
      · exact hroot
      · exact hplace
    have hbehind := ihLink hstart (htarget _ target hlink) hreached
    have hrest : resolveFrom tree closed reached rest = some location := by
      rw [← h]
      simp only [show resolveFrom tree (closed.erase (place ++ [step], target))
        (if (Path.ofText target).isAbsolute then [] else place) (Path.ofText target).steps =
          some reached from hreached]
    exact ihRest hbehind (fun step hstep => hsteps step (List.mem_cons_of_mem _ hstep)) hrest
  | case4 closed place step rest hne target hlink hclosed path hnone =>
    rw [resolveFrom, if_neg hne, hlink] at h
    simp only [hclosed, dif_pos] at h
    rw [show resolveFrom tree (closed.erase (place ++ [step], target))
      (if (Path.ofText target).isAbsolute then [] else place) (Path.ofText target).steps =
        none from hnone] at h
    cases h
  | case5 closed place step rest hne target hlink hclosed =>
    rw [resolveFrom, if_neg hne, hlink] at h
    simp only [hclosed, dif_neg, not_false_eq_true] at h
    cases h
  | case6 closed place step rest hne hlink ih =>
    rw [resolveFrom, if_neg hne] at h
    have hnext := hinto place step hplace (hsteps step List.mem_cons_self) hne fun target heq =>
      hlink target heq
    refine ih hnext (fun step hstep => hsteps step (List.mem_cons_of_mem _ hstep)) ?_
    cases hget : tree.get? (place ++ [step]) with
    | none => rw [hget] at h; exact h
    | some entry =>
      rw [hget] at h
      cases entry with
      | link target => exact (hlink target hget).elim
      | file => exact h
      | unreadable => exact h
      | directory => exact h

/-- **Resolving keeps a location plain.** -/
theorem plain_of_resolveFrom {closed : List (Location × String)} {place location : Location}
    {steps : List String} (hplace : tree.Plain place) (hsteps : ∀ step ∈ steps, Path.IsName step)
    (h : resolveFrom tree closed place steps = some location) : tree.Plain location :=
  reached_of_resolveFrom tree.Plain Path.IsName .nil
    (fun place hplain => hplain.of_prefix (List.dropLast_prefix place))
    (fun _ _ hplain hname hup hlink => hplain.snoc hname hup hlink)
    (fun _ target _ => Path.proper_ofText target) hplace hsteps h

/-- The names of a resolved location are names of the path and of the targets of links. -/
theorem names_of_resolveFrom {Name : String → Prop}
    (htarget : ∀ location target, tree.get? location = some (.link target) →
      ∀ step ∈ (Path.ofText target).steps, Name step)
    {closed : List (Location × String)} {place location : Location} {steps : List String}
    (hplace : ∀ name ∈ place, Name name) (hsteps : ∀ step ∈ steps, Name step)
    (h : resolveFrom tree closed place steps = some location) : ∀ name ∈ location, Name name := by
  refine reached_of_resolveFrom (fun place => ∀ name ∈ place, Name name) Name nofun ?_ ?_ htarget
    hplace hsteps h
  · intro place hplace name hname
    exact hplace name (List.dropLast_subset _ hname)
  · intro place step hplace hstep _ _ name hname
    rcases List.mem_append.1 hname with hname | hname
    · exact hplace name hname
    · obtain rfl := List.mem_singleton.1 hname
      exact hstep

theorem plain_of_resolve {path : Path} {location : Location} (hpath : path.Proper)
    (h : tree.resolve path = .ok location) : tree.Plain location := by
  unfold resolve at h
  split at h
  · cases h
  · split at h
    · next hresolve =>
      cases h
      exact plain_of_resolveFrom .nil hpath hresolve
    · cases h

/-- **Walking a plain location ends at its entry.** -/
theorem get?_of_walkFrom {follow : Bool} {budget : Nat} {steps : List String}
    {place location : Location} {entry : Entry} (hplain : tree.Plain (place ++ steps))
    (h : walkFrom tree follow budget place steps = .ok (.entry location entry)) :
    location = place ++ steps ∧ tree.get? (place ++ steps) = some entry := by
  induction steps generalizing place with
  | nil =>
    rw [walkFrom] at h
    rw [List.append_nil]
    cases hget : tree.get? place with
    | none => rw [hget] at h; cases h
    | some found =>
      rw [hget] at h
      cases h
      exact ⟨rfl, rfl⟩
  | cons step rest ih =>
    have hname := hplain.names step (List.mem_append_right _ List.mem_cons_self)
    have hsplit : place ++ step :: rest = (place ++ [step]) ++ rest := by simp
    rw [hsplit] at hplain ⊢
    have hlink := hplain.links (place ++ [step]) (List.prefix_append _ _)
    rw [walkFrom] at h
    cases hget : tree.get? place with
    | none => rw [hget] at h; cases h
    | some found =>
      rw [hget] at h
      simp only at h
      split at h
      · cases h
      · rw [if_neg hname.2] at h
        split at h
        · cases h
        · cases hnext : tree.get? (place ++ [step]) with
          | none =>
            simp only [hnext] at h
            split at h <;> cases h
          | some next =>
            simp only [hnext] at h
            -- a plain location has no links on the way, so walking does not leave it
            cases next with
            | link target => exact absurd hnext (hlink target)
            | file => exact ih hplain h
            | unreadable => exact ih hplain h
            | directory => exact ih hplain h

theorem mem_files {location : Location} {bytes : ByteArray}
    (h : tree.get? location = some (.file bytes)) : (location, bytes) ∈ tree.files := by
  unfold get? at h
  split at h
  · cases h
  · obtain ⟨before, after, hentries, -⟩ := List.lookup_eq_some_iff.1 h
    refine List.mem_filterMap.2 ⟨(location, .file bytes), ?_, rfl⟩
    rw [hentries]
    exact List.mem_append_right _ List.mem_cons_self

theorem get?_of_readBytes {location : Location} {bytes : ByteArray} (hplain : tree.Plain location)
    (h : tree.readBytes (Path.ofLocation location) = .ok bytes) :
    tree.get? location = some (.file bytes) := by
  unfold readBytes find walk at h
  split at h
  · cases h
  · split at h
    · cases h
    · cases hspot : walkFrom tree true maxLinks [] (Path.ofLocation location).steps with
      | error refusal => rw [hspot] at h; cases h
      | ok spot =>
        rw [hspot] at h
        cases spot with
        | vacant directory name => cases h
        | entry reached entry =>
          -- walking starts at the root, so the steps are the whole location
          have hsteps : tree.Plain ([] ++ (Path.ofLocation location).steps) := hplain
          obtain ⟨rfl, hget⟩ := get?_of_walkFrom hsteps hspot
          cases entry with
          | file found =>
            cases h
            exact hget
          | unreadable => cases h
          | directory => cases h
          | link target => cases h

/-- **What is read at a plain location** is the text of the file that stands there. -/
theorem file_of_readText {location : Location} {text : String} (hplain : tree.Plain location)
    (h : tree.readText (Path.ofText (Path.ofLocation location).text) = .ok text) :
    ∃ bytes source, (location, bytes) ∈ tree.files ∧ String.fromUTF8? bytes = some source ∧
      text = String.ofList (unifyLines source.toList) := by
  rw [Path.ofText_text_ofLocation fun name hname => (hplain.names name hname).1] at h
  unfold readText at h
  cases hbytes : tree.readBytes (Path.ofLocation location) with
  | error failure => rw [hbytes] at h; cases h
  | ok bytes =>
    rw [hbytes] at h
    cases hsource : String.fromUTF8? bytes with
    | none =>
      simp only [bind, Except.bind, hsource] at h
      cases h
    | some source =>
      simp only [bind, Except.bind, hsource] at h
      cases h
      refine ⟨bytes, source, mem_files ?_, hsource, rfl⟩
      exact get?_of_readBytes hplain hbytes

end Tree

end SchemaPress
