import ImageSelect.Filter.Compile
import ImageSelect.Filter.Eval

/-!
# Compiled filters

A filter is the text of an expression, the type of its candidates, and the
tree that the text compiles to.
-/

namespace ImageSelect

/-- A compiled filter. -/
structure Filter where
  text : String
  candidates : ValueType
  tree : Filter.Tree

namespace Filter

/-- The logger of filters. -/
def logger : String := "imageset.filter.filter"

/-- Compiles the text of an expression and leaves a record of the result. -/
def ofText (text : String) (candidates : ValueType) (extractor : Option Extractor) :
    Run (Except CompileError Filter) := do
  match compileText extractor candidates text with
  | .error why => return .error why
  | .ok tree =>
    Run.log .debug logger ("Compiled filter for " ++ candidates.name ++ ": " ++ tree.render)
    return .ok ⟨text, candidates, tree⟩

/-- Asks a filter about a candidate. -/
def ask [CurrentDirectory] (f : Filter) (candidate : Value) : Inquiry Bool :=
  f.tree.eval candidate

/-- The form of a filter in messages. -/
def shown (f : Filter) : String :=
  "Filter(" ++ Text.quoted f.text ++ ", " ++ f.candidates.name ++ ")"

end Filter

end ImageSelect
