import OrderOfGrowth.ComplexityClass
import OrderOfGrowth.Language

/-!
# Completion of typed names

What can complete a name that has been typed in part: the names of languages and the labels
of complexity classes, compared without regard to letter case.
-/

namespace OrderOfGrowth.Completion

/-- The identifiers and aliases of languages that begin with the typed text, sorted. -/
def languages (typed : String) : List String :=
  (Language.sorted (Language.all.map Language.id ++ Language.aliases.keys)).filter fun name =>
    (Text.lowercase typed.toList).isPrefixOf name.toList

/-- The labels of classes that begin with the typed text, in ascending order of the classes. -/
def classes (typed : String) : List String :=
  (ComplexityClass.all.map ComplexityClass.label).filter fun label =>
    (Text.lowercase typed.toList).isPrefixOf (Text.lowercase label.toList)

end OrderOfGrowth.Completion
