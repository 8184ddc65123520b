import SchemaPress.Proofs.Files.Writable
import SchemaPress.Proofs.Reference.Termination

/-!
# Dereferencing with other files

Dereferencing a schema looks at the files that its references lead to, and at no others
(`Library.Consults`). If these are the same in another file tree, then a schema that can be dereferenced
in the one is dereferenced to the same value in the other (`Library.dereference_congr`).

The targets of the two libraries need not be the same, so the walks need not take the same turns before
one of them is cut off. But the derivation of a value uses nothing of a library other than what the
references in it name, so it is a derivation in the other library, too (`Library.Resolves.agree`).
-/

namespace SchemaPress

open SchemaPress.Tree

/-! ### Reading at locations -/

/-- **What is read at a location** is the same where the file is. -/
theorem Tree.readText_ofLocation_of_sameFile {tree other : Tree} (hlinks : tree.NoLinks)
    (hwf : other.WellFormed) (hother : other.NoLinks) {location : Location} (hup : ".." ∉ location)
    (hsame : tree.SameFile other location) {text : String}
    (h : tree.readText (Path.ofLocation location) = .ok text) :
    other.readText (Path.ofLocation location) = .ok text := by
  obtain ⟨bytes, source, hbytes, hsource, htext⟩ := readText_eq_ok_iff.1 h
  obtain ⟨reached, hfind⟩ := readBytes_eq_ok_iff.1 hbytes
  have hfile : other.get? location = some (.file bytes) := by
    rw [← hsame bytes, ← Path.place_ofLocation hup]
    exact (find_place hlinks hfind).2
  obtain ⟨haccepts, hwalks⟩ := find_eq_ok_iff.1 hfind
  have hshort := hwalks.short hlinks rfl nofun
  rw [(find_place hlinks hfind).1, Path.place_ofLocation hup] at hshort
  have hwalks' := walks_of_get? hwf hother true maxLinks hup hshort
    (by rw [List.nil_append]; exact hfile)
  rw [List.nil_append] at hwalks'
  refine readText_eq_ok_iff.2 ⟨bytes, source, readBytes_eq_ok_iff.2 ⟨location, ?_⟩, hsource, htext⟩
  exact find_eq_ok_iff.2 ⟨haccepts, hwalks'⟩

theorem Tree.Plain.up_not_mem {tree : Tree} {location : Location} (h : tree.Plain location) :
    ".." ∉ location :=
  fun hmem => (h.names _ hmem).2 rfl

namespace Library

variable {library other : Library}

/-! ### What is looked at -/

/-- **The nodes that references lead to**, with the documents that they stand in: the schema, the parts
of nodes, and what the references in them name. -/
inductive Meets (library : Library) : String → Json → Prop where
  | root : Meets library "" library.root
  | part {document : String} {whole inner : Json} (h : Meets library document whole)
      (hpart : whole.Part inner) : Meets library document inner
  | hop {document ref : String} {members : Members} {target : Target} {found : Json}
      (h : Meets library document (.obj members))
      (hrefers : library.Refers document members ref target found) :
      Meets library target.document found

/-- **The files that references lead to.** -/
def Consults (library : Library) (place : Location) : Prop :=
  ∃ document members ref target found, library.Meets document (.obj members) ∧
    library.Refers document members ref target found ∧ target.document ≠ "" ∧
    place = (Path.ofText target.document).place

/-- **Libraries of one schema** in two file trees. -/
structure Twin (library other : Library) : Prop where
  root : other.root = library.root
  base : other.base = library.base
  proper : ∀ base, library.base = some base → base.Proper
  noLinks : library.tree.NoLinks
  wellFormed' : other.tree.WellFormed
  noLinks' : other.tree.NoLinks

/-- What is met is in the library. -/
theorem Meets.inLibrary (hbase : ∀ base, library.base = some base → base.Proper) {document : String}
    {node : Json} (h : library.Meets document node) (pointer : String) :
    library.InLibrary ⟨document, pointer, node⟩ := by
  induction h generalizing pointer with
  | root => exact ⟨.inl rfl, library.root, List.mem_cons_self, .self⟩
  | part _ hpart ih => exact (ih pointer).inner rfl hpart
  | hop _ hrefers ih =>
    have hnext := (ih pointer).hop hbase ⟨_, _, rfl, hrefers⟩
    exact ⟨hnext.isDocument, hnext.part⟩

namespace Twin

variable (h : Twin library other)

include h

/-- Without links, where a reference leads does not depend on the files. -/
theorem target_eq (document ref : String) : other.target document ref = library.target document ref := by
  have hlocate (location : String) :
      other.locate document location ref = library.locate document location ref := by
    unfold locate
    rw [h.base]
    cases library.base with
    | none => rfl
    | some base => simp only [resolve_eq h.noLinks, resolve_eq h.noLinks']
  unfold target
  simp only [hlocate]

/-- What a reference names is the same where its document is. -/
theorem refers {document ref : String} {members : Members} {target : Target} {found : Json}
    (hdocument : library.IsDocument document)
    (hrefers : library.Refers document members ref target found)
    (hsame : target.document ≠ "" →
      library.tree.SameFile other.tree (Path.ofText target.document).place) :
    other.Refers document members ref target found := by
  refine ⟨hrefers.isRef, by rw [h.target_eq]; exact hrefers.isTarget, ?_⟩
  obtain ⟨value, hload, hsteps⟩ := Json.bind_eq_ok hrefers.isFound
  have hload' : other.load target.document ref = .ok value := by
    rcases load_eq_ok_iff.1 hload with ⟨hempty, rfl⟩ | ⟨hne, text, hread, hparse⟩
    · exact load_eq_ok_iff.2 (.inl ⟨hempty, h.root.symm⟩)
    · have hdoc := isDocument_of_target h.proper hdocument hrefers.isTarget
      rcases hdoc with hempty | ⟨location, hplain, htext⟩
      · exact absurd hempty hne
      · -- the document is the text of a location, so it is read there
        have hpath : Path.ofText target.document = Path.ofLocation location := by
          rw [htext]
          exact Path.ofText_text_ofLocation fun name hname => (hplain.names name hname).1
        have hfile := hsame hne
        rw [hpath, Path.place_ofLocation hplain.up_not_mem] at hfile
        rw [hpath] at hread
        refine load_eq_ok_iff.2 (.inr ⟨hne, text, ?_, hparse⟩)
        rw [hpath]
        exact readText_ofLocation_of_sameFile h.noLinks h.wellFormed' h.noLinks' hplain.up_not_mem
          hfile hread
  unfold lookup
  rw [hload']
  exact hsteps

variable (hsame : ∀ place, library.Consults place → library.tree.SameFile other.tree place)

include hsame

theorem refers_of_meets {document ref : String} {members : Members} {target : Target} {found : Json}
    (hmeets : library.Meets document (.obj members))
    (hrefers : library.Refers document members ref target found) :
    other.Refers document members ref target found :=
  h.refers (hmeets.inLibrary h.proper "").isDocument hrefers fun hne =>
    hsame _ ⟨document, members, ref, target, found, hmeets, hrefers, hne, rfl⟩

theorem meets {document : String} {node : Json} (hmeets : library.Meets document node) :
    other.Meets document node := by
  induction hmeets with
  | root => exact h.root ▸ .root
  | part _ hpart ih => exact .part ih hpart
  | hop hmeets hrefers ih => exact .hop ih (h.refers_of_meets hsame hmeets hrefers)

/-- The files that are looked at are the same. -/
theorem consults {place : Location} (hconsults : library.Consults place) : other.Consults place := by
  obtain ⟨document, members, ref, target, found, hmeets, hrefers, hne, hplace⟩ := hconsults
  exact ⟨document, members, ref, target, found, h.meets hsame hmeets,
    h.refers_of_meets hsame hmeets hrefers, hne, hplace⟩

end Twin

/-! ### The walk -/

/-- What a visit makes is met. -/
theorem Meets.enter {visit next : Visit} (h : library.Meets visit.site.document visit.site.node)
    (henter : Enters library visit next) :
    library.Meets next.site.document next.site.node := by
  rcases henter.part_or_hop with ⟨hdocument, hpart⟩ | ⟨target, found, ⟨members, ref, hnode, hrefers⟩, heq⟩
  · rw [hdocument]
    exact h.part hpart
  · rw [heq]
    rw [hnode] at h
    exact h.hop hrefers

/-- **What comes to a value comes to it in the other library**, by induction on the derivation. -/
theorem Resolves.agree (h : Twin library other)
    (hsame : ∀ place, library.Consults place → library.tree.SameFile other.tree place) {call : Call}
    {result : Except (Stop ReferenceError) Json} (hresolves : Resolves library call result)
    (hmeets : call.All library fun visit => library.Meets visit.site.document visit.site.node)
    {value : Json} (hvalue : result = .ok value) : Resolves other call result := by
  induction hresolves generalizing value with
  | leaf harr hobj => exact .leaf harr hobj
  | array _ ih => exact .array (ih (.of_array fun _ => Meets.enter hmeets) hvalue)
  | object href _ ih => exact .object href (ih (.of_object (fun _ => Meets.enter hmeets) href) hvalue)
  | noTarget | notFound | targetFails | siblingsFail | itemFails | itemsFail | memberFails
  | membersFail => cases hvalue
  | backEdge hrefers hopen => exact .backEdge (h.refers_of_meets hsame hmeets hrefers) hopen
  | targetValue hrefers hnew _ hno ih =>
    have htarget := Meets.hop hmeets hrefers
    exact .targetValue (h.refers_of_meets hsame hmeets hrefers) hnew (ih htarget rfl) hno
  | merged hrefers hnew inner _ ihInner ihBeside =>
    have htarget := Meets.hop hmeets hrefers
    have hmembers := Call.All.of_beside (fun _ => Meets.enter hmeets) hrefers hnew inner
    exact .merged (h.refers_of_meets hsame hmeets hrefers) hnew (ihInner htarget rfl)
      (ihBeside hmembers rfl)
  | noItem => exact .noItem
  | item first _ ihFirst ihOthers =>
    exact .item (ihFirst hmeets.first_item rfl) (ihOthers (hmeets.other_items first) rfl)
  | noMember => exact .noMember
  | member first _ ihFirst ihOthers =>
    exact .member (ihFirst hmeets.first_member rfl) (ihOthers (hmeets.other_members first) rfl)

/-- **Dereferencing looks at the files that references lead to, and at no others.** -/
theorem dereference_congr (h : Twin library other)
    (hsame : ∀ place, library.Consults place → library.tree.SameFile other.tree place) {value : Json}
    (hok : library.dereference = .ok value) : other.dereference = .ok value := by
  have hbase : ∀ base, other.base = some base → base.Proper := by
    rw [h.base]
    exact h.proper
  have hresolves := resolves_of_dereference (hok ▸ .ok value : Ends library.dereference)
  have hother := hresolves.agree h hsame .root hok
  rw [← h.root, hok] at hother
  exact dereference_of_resolves hbase hother

end Library

end SchemaPress
