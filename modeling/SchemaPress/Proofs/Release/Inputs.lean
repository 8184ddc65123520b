import SchemaPress.Proofs.Files.Task
import SchemaPress.Proofs.Reference.Agreement
import SchemaPress.Release.Plugin

/-!
# What the schemas are made of

A release is analyzed from the files that its locations name and those that references in them lead to
(`Plugin.Consults`). In trees without links these places do not depend on what else there is, and where
the files at them are the same, so is what comes of the analysis (`Plugin.analyze_congr`).
-/

namespace SchemaPress

open SchemaPress.Tree

variable {tree other : Tree}

/-- Locations are resolved alike in all trees without links. -/
theorem resolveLocations_congr (hlinks : tree.NoLinks) (hother : other.NoLinks) (directory : Path)
    (locations : List Json) :
    resolveLocations other directory locations = resolveLocations tree directory locations := by
  have hone : resolveLocation other directory = resolveLocation tree directory := by
    funext location
    cases location with
    | str text => simp only [resolveLocation, resolve_eq hlinks, resolve_eq hother]
    | _ => rfl
  unfold resolveLocations
  rw [hone]

theorem plain_of_resolveLocations {directory : Path} (hdirectory : directory.Proper)
    {locations : List Json} {places : List Location}
    (h : resolveLocations tree directory locations = .ok places) {place : Location}
    (hmem : place ∈ places) : tree.Plain place := by
  obtain ⟨location, -, hlocation⟩ := exists_of_mem_left (mapM_eq_ok_iff.1 h).flip hmem
  cases location with
  | str text => exact plain_of_resolve (hdirectory.join (Path.proper_ofText text)) hlocation
  | _ => cases hlocation

/-- An object that is read as one. -/
theorem loadSchema_eq_schema_iff {place : Location} {members : RawMembers} :
    loadSchema tree place = .ok (.schema members) ↔
      ∃ text, tree.readText (Path.ofLocation place) = .ok text ∧
        Json.parseRaw text = .ok (.obj members) := by
  unfold loadSchema
  simp only
  constructor
  · intro h
    cases htext : tree.readText (Path.ofLocation place) with
    | error failure =>
      rw [htext] at h
      cases failure <;> cases h
    | ok text =>
      rw [htext] at h
      simp only at h
      refine ⟨text, rfl, ?_⟩
      cases hparse : Json.parseRaw text with
      | error failure => rw [hparse] at h; cases failure <;> cases h
      | ok value =>
        rw [hparse] at h
        cases value <;> cases h
        rfl
  · rintro ⟨text, htext, hparse⟩
    rw [htext]
    simp only [hparse]

/-- The places that schemas are loaded from, each with its schema. -/
def Loads (tree : Tree) (place : Location) (schema : Raw) : Prop :=
  ∃ members, schema = .obj members ∧ loadSchema tree place = .ok (.schema members)

theorem forall₂_loads {places : List Location} {loaded : List Loaded}
    (h : List.Forall₂ (fun place result => loadSchema tree place = .ok result) places loaded)
    (hunusable : loaded.filterMap Loaded.unusable? = [])
    (hunreadable : loaded.filterMap Loaded.unreadable? = []) :
    List.Forall₂ (Loads tree) places (loaded.filterMap Loaded.schema?) := by
  induction h with
  | nil => exact .nil
  | @cons place result places loaded hfirst _ ih =>
    cases result with
    | schema members => exact .cons ⟨members, rfl, hfirst⟩ (ih hunusable hunreadable)
    | unreadable failure => cases hunreadable
    | unusable failure => cases hunusable

theorem exists_loaded {places : List Location} {schemas : List Raw}
    (h : List.Forall₂ (Loads tree) places schemas) :
    ∃ loaded, List.Forall₂ (fun place result => loadSchema tree place = .ok result) places loaded ∧
      loaded.filterMap Loaded.unusable? = [] ∧ loaded.filterMap Loaded.unreadable? = [] ∧
      loaded.filterMap Loaded.schema? = schemas := by
  induction h with
  | nil => exact ⟨[], .nil, rfl, rfl, rfl⟩
  | cons hfirst _ ih =>
    obtain ⟨members, rfl, hfirst⟩ := hfirst
    obtain ⟨loaded, hloaded, hunusable, hunreadable, rfl⟩ := ih
    exact ⟨.schema members :: loaded, .cons hfirst hloaded, hunusable, hunreadable, rfl⟩

/-- **Schemas are loaded** if each of them is. -/
theorem loadSchemas_eq_ok_iff {directory : Path} {locations : List Json} {schemas : List Raw} :
    loadSchemas tree directory locations = .ok schemas ↔
      ∃ places, resolveLocations tree directory locations = .ok places ∧
        List.Forall₂ (Loads tree) places schemas := by
  unfold loadSchemas
  constructor
  · intro h
    obtain ⟨places, hplaces, h⟩ := Json.bind_eq_ok h
    obtain ⟨loaded, hloaded, h⟩ := Json.bind_eq_ok h
    have hloaded := mapM_eq_ok_iff.1 (Task.ok_of_mapError hloaded)
    refine ⟨places, Task.ok_of_mapError hplaces, ?_⟩
    simp only at h
    split at h
    · cases h
    · next hunusable =>
      split at h
      · cases h
      · next hunreadable =>
        cases h
        exact forall₂_loads hloaded (by simpa using hunusable) (by simpa using hunreadable)
  · rintro ⟨places, hplaces, hloads⟩
    obtain ⟨loaded, hloaded, hunusable, hunreadable, rfl⟩ := exists_loaded hloads
    rw [hplaces, Task.mapError_ok, Task.ok_bind, mapM_eq_ok_iff.2 hloaded, Task.mapError_ok, Task.ok_bind]
    simp only [hunusable, hunreadable]
    rfl

namespace Plugin

theorem narrow_eq_ok_iff {schema : Raw} {value : Json} :
    narrow schema = .ok value ↔ schema.toJson? = some value := by
  unfold narrow
  cases schema.toJson? <;> simp

/-- **The files that a release is analyzed from**: the schemas, and what their references lead to. -/
inductive Consults (plugin : Plugin) (locations : List Json) (tree : Tree) (place : Location) : Prop where
  | schema {places : List Location}
      (hplaces : resolveLocations tree plugin.directory locations = .ok places) (hmem : place ∈ places)
  | reference {places : List Location} {schemas : List Raw} {start : Location} {schema : Raw}
      {value : Json} (hplaces : resolveLocations tree plugin.directory locations = .ok places)
      (hschemas : loadSchemas tree plugin.directory locations = .ok schemas)
      (hmem : (start, schema) ∈ places.zip schemas) (hvalue : schema.toJson? = some value)
      (hconsults : Library.Consults ⟨value, some (Path.ofLocation start).parent, tree⟩ place)

variable {plugin : Plugin} {locations : List Json}

section Congr

variable (hdirectory : plugin.directory.Proper) (hlinks : tree.NoLinks) (hwf : other.WellFormed)
  (hother : other.NoLinks)

include hdirectory hlinks hwf hother

/-- A schema and the place that it was loaded from, in both trees. -/
theorem twin {places : List Location} {schemas : List Raw} {start : Location} {schema : Raw}
    (value : Json) (hplaces : resolveLocations tree plugin.directory locations = .ok places)
    (hmem : (start, schema) ∈ places.zip schemas) :
    Library.Twin ⟨value, some (Path.ofLocation start).parent, tree⟩
      ⟨value, some (Path.ofLocation start).parent, other⟩ where
  root := rfl
  base := rfl
  proper := by
    rintro base ⟨⟩
    have hplain := plain_of_resolveLocations hdirectory hplaces (List.of_mem_zip hmem).1
    exact Path.Proper.parent fun name hname => (hplain.names name hname).1
  noLinks := hlinks
  wellFormed' := hwf
  noLinks' := hother

variable (hsame : ∀ place, plugin.Consults locations tree place → tree.SameFile other place)

include hsame

theorem loadSchemas_congr {schemas : List Raw}
    (h : loadSchemas tree plugin.directory locations = .ok schemas) :
    loadSchemas other plugin.directory locations = .ok schemas := by
  obtain ⟨places, hplaces, hloads⟩ := loadSchemas_eq_ok_iff.1 h
  refine loadSchemas_eq_ok_iff.2 ⟨places, ?_, ?_⟩
  · rw [resolveLocations_congr hlinks hother, hplaces]
  obtain ⟨hlength, hloads⟩ := List.forall₂_iff_zip.1 hloads
  refine List.forall₂_iff_zip.2 ⟨hlength, fun {place schema} hmem => ?_⟩
  have hplace := (List.of_mem_zip hmem).1
  have hplain := plain_of_resolveLocations hdirectory hplaces hplace
  obtain ⟨members, rfl, hload⟩ := hloads hmem
  obtain ⟨text, htext, hparse⟩ := loadSchema_eq_schema_iff.1 hload
  refine ⟨members, rfl, loadSchema_eq_schema_iff.2 ⟨text, ?_, hparse⟩⟩
  exact readText_ofLocation_of_sameFile hlinks hwf hother hplain.up_not_mem
    (hsame place (.schema hplaces hplace)) htext

/-- What is inlined into a schema is the same where the files are. -/
theorem inlineAt_congr {places : List Location} {schemas : List Raw} {start : Location} {schema : Raw}
    (hplaces : resolveLocations tree plugin.directory locations = .ok places)
    (hschemas : loadSchemas tree plugin.directory locations = .ok schemas)
    (hmem : (start, schema) ∈ places.zip schemas) {value : Json}
    (h : inlineAt tree start schema = .ok value) : inlineAt other start schema = .ok value := by
  unfold inlineAt at h ⊢
  obtain ⟨narrowed, hnarrow, h⟩ := Json.bind_eq_ok h
  have hvalue := narrow_eq_ok_iff.1 hnarrow
  rw [hnarrow, Task.ok_bind]
  split at h
  · next inlined hinlined =>
    rw [Library.dereference_congr (twin hdirectory hlinks hwf hother narrowed hplaces hmem)
      (fun place hplace => hsame place (.reference hplaces hschemas hmem hvalue hplace)) hinlined]
    exact h
  · cases h
  · cases h

/-- **The analysis depends on the files that it is made from** and on no others. -/
theorem analyze_congr {result : Json × Catalog} (h : plugin.analyze locations tree = .ok result) :
    plugin.analyze locations other = .ok result := by
  unfold analyze at h ⊢
  obtain ⟨schemas, hschemas, h⟩ := Json.bind_eq_ok h
  obtain ⟨places, hresolve, h⟩ := Json.bind_eq_ok h
  have hplaces := Task.ok_of_mapError hresolve
  rw [loadSchemas_congr hdirectory hlinks hwf hother hsame hschemas, Task.ok_bind,
    resolveLocations_congr hlinks hother, hresolve, Task.ok_bind]
  simp only at h ⊢
  split at h
  · cases h
  · next htitle =>
    rw [if_neg htitle]
    obtain ⟨inlined, hinlined, h⟩ := Json.bind_eq_ok h
    obtain ⟨hlength, hinlined⟩ := List.forall₂_iff_zip.1 (mapM_eq_ok_iff.1 hinlined)
    rw [mapM_eq_ok_iff.2 (List.forall₂_iff_zip.2 ⟨hlength, fun {pair value} hmem =>
      inlineAt_congr hdirectory hlinks hwf hother hsame hplaces hschemas (List.of_mem_zip hmem).1
        (hinlined hmem)⟩)]
    exact h

/-- What is consulted does not depend on other files either. -/
theorem Consults.congr {place : Location} (h : plugin.Consults locations tree place) :
    plugin.Consults locations other place := by
  cases h with
  | schema hplaces hmem =>
    exact .schema (by rw [resolveLocations_congr hlinks hother, hplaces]) hmem
  | @reference places schemas start schema value hplaces hschemas hmem hvalue hconsults =>
    refine .reference (by rw [resolveLocations_congr hlinks hother, hplaces])
      (loadSchemas_congr hdirectory hlinks hwf hother hsame hschemas) hmem hvalue ?_
    exact (twin hdirectory hlinks hwf hother value hplaces hmem).consults
      (fun place hplace => hsame place (.reference hplaces hschemas hmem hvalue hplace)) hconsults

end Congr

end Plugin

end SchemaPress
