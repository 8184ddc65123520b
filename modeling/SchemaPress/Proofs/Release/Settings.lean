import SchemaPress.Release.Config

/-!
# Settings that a configuration does not know

A configuration looks a setting up among its own parts, by name, and ignores it when there is no such part.
Its operations are parts as well, so a setting can take the place of one of them: the configuration can then
no longer be exported, or no longer say which languages are selected. The list of locations cannot be
replaced, and a setting that tries to is a crash; the list is worked out before that, which may be a crash of
its own.

That is all that settings of foreign keys do. `answers_foreign` compares the answers of a configuration with
those that its own settings alone lead to (`own`), for all settings whatever their keys are: they are the same
but for these three keys.
-/

namespace SchemaPress.Config

/-- The keys of a configuration, in the host's spelling and in its own. -/
def ownKeys : List String :=
  ["schemaLocation", "schema_location", "outpath", "outputName", "output_name", "languages", "compileTs",
   "compile_ts", "tscCommand", "tsc_command"]

/-- The settings of own keys, in their order. -/
def own (settings : Members) : Members :=
  settings.filter fun (key, _) => ownKeys.contains key

/-- **What a host can ask a configuration for**: its export, its schema locations and its languages. Each
question may be a crash. -/
structure Answers where
  /-- The configuration in the host's spelling. -/
  exported : Except Crash Json
  /-- The schema locations. -/
  locations : Except Crash (List Json)
  /-- The selected languages. -/
  languages : Except Crash (List Language)

/-- The answers of a configuration. -/
def answers (config : Config) : Answers where
  exported := config.toJson
  locations := config.schemaLocations
  languages := config.selectedLanguages

/-- The answers that settings lead to, unless they cannot be taken. -/
def answersTo (settings : Members) : Except Crash Answers :=
  (ofJson (.obj settings)).map answers

/-- What a setting of `schema_locations` is refused with: the list is worked out first, and cannot be set. -/
def Answers.refusal (answers : Answers) : Crash :=
  match answers.locations with
  | .ok _ => .noSuchPart
  | .error cause => cause

/-- The settings in front of the first one of `schema_locations`. -/
def front (settings : Members) : Members :=
  settings.takeWhile fun (key, _) => key != "schema_locations"

/-- The answers once values that are no operations have taken the place of some: each of those is a crash. -/
def Answers.hidden (answers : Answers) (exportHidden selectionHidden : Bool) : Answers where
  exported := if exportHidden then .error .wrongKind else answers.exported
  locations := answers.locations
  languages := if selectionHidden then .error .wrongKind else answers.languages

/-! ### One setting -/

/-- The configuration with these operations hidden. -/
def hide (config : Config) (exportHidden selectionHidden : Bool) : Config :=
  { config with exportHidden, selectionHidden }

/-- A setting of an own key can be taken, whether operations are hidden or not. -/
theorem set_own {key : String} (h : key ∈ ownKeys) (config : Config) (value : Json) :
    ∃ next : Config, ∀ exportHidden selectionHidden : Bool,
      set (config.hide exportHidden selectionHidden) key value =
        .ok (next.hide exportHidden selectionHidden) := by
  simp only [ownKeys, List.mem_cons, List.not_mem_nil, or_false] at h
  rcases h with rfl | rfl | rfl | rfl | rfl | rfl | rfl | rfl | rfl | rfl
  · exact ⟨{ config with schemaLocation := value }, fun _ _ => rfl⟩
  · exact ⟨{ config with schemaLocation := value }, fun _ _ => rfl⟩
  · exact ⟨{ config with outpath := value }, fun _ _ => rfl⟩
  · exact ⟨{ config with outputName := value }, fun _ _ => rfl⟩
  · exact ⟨{ config with outputName := value }, fun _ _ => rfl⟩
  · cases value with
    | obj flags => exact ⟨{ config with selection := selectionOf flags }, fun _ _ => rfl⟩
    | null => exact ⟨{ config with selection := .all }, fun _ _ => rfl⟩
    | _ => exact ⟨{ config with selection := .malformed }, fun _ _ => rfl⟩
  · exact ⟨{ config with compileTs := value }, fun _ _ => rfl⟩
  · exact ⟨{ config with compileTs := value }, fun _ _ => rfl⟩
  · cases value with
    | str command =>
      exact ⟨{ config with tscCommand := .arr ((Text.splitBlank command).map .str) }, fun _ _ => rfl⟩
    | _ => exact ⟨{ config with tscCommand := _ }, fun _ _ => rfl⟩
  · cases value with
    | str command =>
      exact ⟨{ config with tscCommand := .arr ((Text.splitBlank command).map .str) }, fun _ _ => rfl⟩
    | _ => exact ⟨{ config with tscCommand := _ }, fun _ _ => rfl⟩

/-- A setting of a foreign key does nothing, or hides an operation, or cannot be taken. -/
theorem set_foreign {key : String} (h : key ∉ ownKeys) (config : Config)
    (exportHidden selectionHidden : Bool) (value : Json) :
    set (config.hide exportHidden selectionHidden) key value =
      if key == "schema_locations" then .error config.answers.refusal
      else .ok (config.hide (exportHidden || key == "to_dict")
        (selectionHidden || key == "selected_languages")) := by
  simp only [ownKeys, List.mem_cons, List.not_mem_nil, or_false, not_or] at h
  by_cases hexport : key = "to_dict"
  · subst hexport
    cases exportHidden <;> cases selectionHidden <;> rfl
  by_cases hselection : key = "selected_languages"
  · subst hselection
    cases exportHidden <;> cases selectionHidden <;> rfl
  by_cases hlocations : key = "schema_locations"
  · subst hlocations
    change (do discard config.schemaLocations; throw .noSuchPart : Except Crash Config) = _
    unfold Answers.refusal answers
    cases config.schemaLocations <;> rfl
  -- there is no part left that the key could name
  · rw [beq_false_of_ne hlocations, beq_false_of_ne hexport, beq_false_of_ne hselection, Bool.or_false,
      Bool.or_false, if_neg Bool.false_ne_true]
    unfold set
    split <;> first | rfl | simp_all

/-! ### All settings -/

/-- Takes settings one after the other. -/
def setAll (config : Config) (settings : Members) : Except Crash Config :=
  settings.foldlM (fun config (key, value) => config.set key value) config

theorem has_cons (key name : String) (value : Json) (rest : Members) :
    Members.has ((key, value) :: rest) name = (key == name || rest.has name) := rfl

theorem front_cons_of_ne {key : String} (h : key ≠ "schema_locations") (value : Json) (rest : Members) :
    front ((key, value) :: rest) = (key, value) :: front rest :=
  List.takeWhile_cons_of_pos (by simpa using h)

/-- **What settings do.** Those of own keys can be taken. The others change nothing about what comes out of
them, but operations are hidden if their names are among the keys, and one name is refused, by what the
settings in front of it come to. -/
theorem setAll_foreign (settings : Members) (config : Config) :
    ∃ plain before : Config, ∀ exportHidden selectionHidden : Bool,
      (config.hide exportHidden selectionHidden).setAll (own settings) =
        .ok (plain.hide exportHidden selectionHidden) ∧
      (config.hide exportHidden selectionHidden).setAll (own (front settings)) =
        .ok (before.hide exportHidden selectionHidden) ∧
      (config.hide exportHidden selectionHidden).setAll settings =
        if settings.has "schema_locations" then .error before.answers.refusal
        else .ok (plain.hide (exportHidden || settings.has "to_dict")
          (selectionHidden || settings.has "selected_languages")) := by
  induction settings generalizing config with
  | nil =>
    refine ⟨config, config, fun exportHidden selectionHidden => ⟨rfl, rfl, ?_⟩⟩
    cases exportHidden <;> cases selectionHidden <;> rfl
  | cons setting rest ih =>
    obtain ⟨key, value⟩ := setting
    by_cases hkey : key ∈ ownKeys
    · obtain ⟨next, hnext⟩ := set_own hkey config value
      obtain ⟨plain, before, hplain⟩ := ih next
      have hown (rest : Members) : own ((key, value) :: rest) = (key, value) :: own rest :=
        List.filter_cons_of_pos (by simpa using hkey)
      have hlocations : key ≠ "schema_locations" := fun heq => absurd (heq ▸ hkey) (by decide)
      -- no own key is the name of an operation
      have hhas {name : String} (hname : name ∉ ownKeys) :
          Members.has ((key, value) :: rest) name = Members.has rest name := by
        have hne : key ≠ name := fun heq => hname (heq ▸ hkey)
        rw [has_cons, beq_false_of_ne hne, Bool.false_or]
      refine ⟨plain, before, fun exportHidden selectionHidden => ?_⟩
      rw [front_cons_of_ne hlocations, hown, hown, hhas (by decide), hhas (by decide), hhas (by decide)]
      unfold setAll at hplain ⊢
      simp only [List.foldlM_cons, hnext]
      exact hplain exportHidden selectionHidden
    · obtain ⟨plain, before, hplain⟩ := ih config
      have hown (rest : Members) : own ((key, value) :: rest) = own rest :=
        List.filter_cons_of_neg (by simpa using hkey)
      by_cases hlocations : key = "schema_locations"
      -- nothing stands in front of it, so the configuration is what it is refused by
      · have hfront : front ((key, value) :: rest) = [] :=
          List.takeWhile_cons_of_neg (by simpa using hlocations)
        refine ⟨plain, config, fun exportHidden selectionHidden =>
          ⟨hown rest ▸ (hplain exportHidden selectionHidden).1, by rw [hfront]; rfl, ?_⟩⟩
        rw [has_cons, hlocations]
        unfold setAll
        rw [List.foldlM_cons]
        simp only [set_foreign (hlocations ▸ hkey)]
        rfl
      · refine ⟨plain, before, fun exportHidden selectionHidden =>
          ⟨hown rest ▸ (hplain exportHidden selectionHidden).1, ?_, ?_⟩⟩
        · rw [front_cons_of_ne hlocations, hown]
          exact (hplain exportHidden selectionHidden).2.1
        rw [has_cons, has_cons, has_cons, beq_false_of_ne hlocations]
        unfold setAll at hplain ⊢
        simp only [List.foldlM_cons, set_foreign hkey, beq_false_of_ne hlocations]
        rw [Bool.false_or, if_neg Bool.false_ne_true, ← Bool.or_assoc, ← Bool.or_assoc]
        exact (hplain _ _).2.2

/-! ### Answers -/

theorem answers_hide (config : Config) (exportHidden selectionHidden : Bool) :
    (config.hide exportHidden selectionHidden).answers =
      (config.hide false false).answers.hidden exportHidden selectionHidden := by
  cases exportHidden <;> cases selectionHidden <;> rfl

/-- A selection is not refused for the kind of a value, so a hidden operation can be told from it. -/
theorem languages_ne_wrongKind (config : Config) :
    (config.hide false false).answers.languages ≠ .error .wrongKind := by
  show config.selection.languages ≠ _
  cases config.selection <;> exact nofun

/-- When hidden operations make no difference. -/
theorem Answers.hidden_eq_iff {answers : Answers} (h : answers.languages ≠ .error .wrongKind)
    (exportHidden selectionHidden : Bool) :
    answers.hidden exportHidden selectionHidden = answers ↔
      selectionHidden = false ∧ (exportHidden = true → answers.exported = .error .wrongKind) := by
  obtain ⟨exported, locations, languages⟩ := answers
  constructor
  · intro heq
    obtain ⟨hexported, -, hlanguages⟩ := Answers.mk.inj heq
    refine ⟨?_, fun hhidden => ?_⟩
    · cases selectionHidden with
      | true => exact absurd hlanguages.symm h
      | false => rfl
    · subst hhidden
      exact hexported.symm
  · rintro ⟨rfl, hexported⟩
    cases exportHidden with
    | true => exact congrArg (fun value => Answers.mk value locations languages) (hexported rfl).symm
    | false => rfl

/-- **Settings of foreign keys have no effect, but for three of them.** The own settings of any settings make
a configuration. All settings together make one with the same answers, except that a crash comes from a
setting of `schema_locations` at once, from one of `to_dict` when the configuration is to be exported, and
from one of `selected_languages` when it is asked for languages. Which crash comes at once is up to the own
settings in front: it is that of working their locations out, if it is one. So the answers are all the same if and only
if none of these keys is there, where `to_dict` does not matter if the own settings cannot be exported
either, for the kind of the value that they give for the command. -/
theorem answers_foreign (settings : Members) :
    ∃ plain before : Answers, answersTo (own settings) = .ok plain ∧
      answersTo (own (front settings)) = .ok before ∧
      (answersTo settings =
        if settings.has "schema_locations" then .error before.refusal
        else .ok (plain.hidden (settings.has "to_dict") (settings.has "selected_languages"))) ∧
      (answersTo settings = answersTo (own settings) ↔
        settings.has "schema_locations" = false ∧ settings.has "selected_languages" = false ∧
          (settings.has "to_dict" = true → plain.exported = .error .wrongKind)) := by
  obtain ⟨config, before, hconfig⟩ := setAll_foreign settings {}
  obtain ⟨hown, hfront, hall⟩ := hconfig false false
  have hplain : answersTo (own settings) = .ok (config.hide false false).answers :=
    congrArg (Except.map answers) hown
  have hbefore : answersTo (own (front settings)) = .ok (before.hide false false).answers :=
    congrArg (Except.map answers) hfront
  have hanswers : answersTo settings =
      if settings.has "schema_locations" then .error (before.hide false false).answers.refusal
      else .ok ((config.hide false false).answers.hidden (settings.has "to_dict")
        (settings.has "selected_languages")) := by
    refine (congrArg (Except.map answers) hall).trans ?_
    rw [Bool.false_or, Bool.false_or, ← answers_hide]
    split <;> rfl
  refine ⟨_, _, hplain, hbefore, hanswers, ?_⟩
  rw [hplain, hanswers]
  cases settings.has "schema_locations" with
  | true => exact iff_of_false nofun fun h => absurd h.1 nofun
  | false =>
    rw [if_neg Bool.false_ne_true, Except.ok.injEq,
      Answers.hidden_eq_iff (languages_ne_wrongKind config)]
    exact (and_iff_right rfl).symm

/-- A configuration that cannot be exported any more, though nothing in it has changed. -/
example : answersTo [("title", .null), ("to_dict", .int 1)] =
    .ok (({} : Config).answers.hidden true false) := rfl

end SchemaPress.Config
