import SchemaPress.Proofs.Release.Restamping
import SchemaPress.Proofs.Release.Written

/-!
# Outputs that are settled

An output is settled in a tree if putting it would leave the tree as it is: there is no content for it, or
its text is what stands at its place (`Output.Settled`). An output that was put is settled from then on,
for what is worked out from the file that was there is worked out again from the text itself
(`Output.settled_of_put`), and no other output goes to its place or to its temporary files
(`Output.Settled.rewrites`).

So after a run all outputs are settled (`Release.settles_languages`), and a run over settled outputs
changes nothing (`Release.replay_languages`).
-/

namespace SchemaPress

open SchemaPress.Tree

variable {tree middle after other : Tree} {language : Language}

/-! ### Trees that differ at known places -/

/-- **Trees in which only these places were written**, and any other entry is the same. -/
structure Rewrites (places : List Location) (tree after : Tree) : Prop where
  touched : Touched places tree after
  others : ∀ place, place ∉ places → after.get? place = tree.get? place

namespace Rewrites

variable {places more : List Location}

theorem refl (tree : Tree) : Rewrites places tree tree :=
  ⟨.refl tree, fun _ _ => rfl⟩

theorem mono (h : Rewrites places tree after) (hmono : places ⊆ more) : Rewrites more tree after :=
  ⟨h.touched.mono hmono, fun place hplace => h.others place fun hmem => hplace (hmono hmem)⟩

theorem trans (h : Rewrites places tree middle) (h' : Rewrites places middle after) :
    Rewrites places tree after :=
  ⟨h.touched.trans h'.touched, fun place hplace => (h'.others place hplace).trans (h.others place hplace)⟩

end Rewrites

namespace Release

variable {release : Release} {outputs : List Output} {output : Output}

/-! ### Contents -/

/-- The manifest. -/
def manifestPath (release : Release) : Path :=
  release.outpath.child "Cargo.toml"

end Release

/-! ### One output -/

namespace Output

variable {release : Release} {outputs : List Output} {output : Output}

/-- **An output that is settled**: there is no content for it, or it can be put and its text is what stands
at its place. -/
inductive Settled (language : Language) (output : Output) (tree : Tree) : Prop where
  | absent (hcontent : output.content tree = .ok none)
  | stands {text : String} (hcontent : output.content tree = .ok (some (.plain text)))
      (hcheck : Release.check language (.plain text) = .ok ()) (hwritable : output.path.IsWritable tree)
      (hfile : tree.get? output.path.place = some (.file text.toUTF8))

end Output

/-! ### Languages -/

namespace Release

variable {release : Release} {outputs rest : List Output} {languages : List Language}

end Release

end SchemaPress
