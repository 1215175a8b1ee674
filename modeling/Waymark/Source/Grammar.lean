import Waymark.Source.Grammar.Expressions
import Waymark.Source.Grammar.Items

/-!
# The grammar of source code

The form of each rule, and reading with these forms. Types are spelled anew when they are
read: spaces and order may change, and what stands in a macro's call does not.
-/

namespace Waymark.Source

namespace Rule

def form : Rule → Clause
  | .type allowsPlus => Grammar.typeForm allowsPlus
  | .bound => Grammar.bound
  | .arguments => Grammar.angleArguments
  | .attr => Grammar.outerAttribute
  | .pattern => Grammar.patternForm
  | .alternatives => Grammar.alternativesForm
  | .expression allowsStruct => Grammar.expressionForm allowsStruct
  | .operand allowsStruct => Grammar.operandForm allowsStruct
  | .braced => Grammar.bracedForm
  | .conditional => Grammar.conditionalForm
  | .statement => Grammar.statementForm
  | .item => Grammar.itemForm

end Rule

namespace Grammar

def read (clause : Clause) (trees : List Tree) : Option (List Token × List Tree) :=
  clause.read Rule.form trees

/-- The spelling of trees: that of a form if it accepts them as a whole, and otherwise the
one in which they are written. -/
def spell (clause : Clause) (trees : List Tree) : List Token :=
  match read clause trees with
  | some (tokens, []) => tokens
  | _ => Tree.tokensAll trees

end Grammar

end Waymark.Source
