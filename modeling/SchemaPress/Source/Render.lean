import SchemaPress.Source.Go
import SchemaPress.Source.Python
import SchemaPress.Source.Rust
import SchemaPress.Source.TypeScript

/-!
# Rendering a catalog
-/

namespace SchemaPress

/-- The source text of a catalog in a language. -/
def Catalog.render (catalog : Catalog) : Language → Except Crash String
  | .typeScript => Source.TypeScript.render catalog
  | .go => Source.Go.render catalog
  | .rust => Source.Rust.render catalog
  | .python => Source.Python.render catalog

end SchemaPress
