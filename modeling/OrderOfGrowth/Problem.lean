import OrderOfGrowth.Number.Decimal
import OrderOfGrowth.Text.Quoted

/-!
# Problems

Why files cannot be used, why numbers have no result, and what cannot be done with a value of
the wrong kind, each with the one text that describes it.
-/

namespace OrderOfGrowth

/-- Why a file operation fails, for the path as it was given. What goes wrong with a device has its
message from outside. -/
inductive FileProblem where
  | missing (path : String)
  | exists (path : String)
  | notDirectory (path : String)
  | isDirectory (path : String)
  | nameTooLong (path : String)
  | denied (path : String)
  | noCurrentDirectory
  | noFreshName
  | device (message : String)
  | nullByte
  | unencodable (run : Text.SurrogateRun)
  deriving DecidableEq

/-- Why an arithmetic operation has no result. -/
inductive ArithmeticProblem where
  | integerTooLarge
  | quotientTooLarge
  | infiniteInteger
  | undefinedInteger
  | negativeFactorial
  | tooManyDigits (count : Nat)
  | tooLongInteger
  deriving DecidableEq

/-- What is attempted with a value of the wrong kind. -/
inductive KindProblem where
  | compare (relation left right : String)
  | step
  | path (kind : String)
  | assignItem (kind : String)
  | indexList
  | takeFromList
  | unhashable (kind : String)
  | join (kind : String)
  | spread (kind : String)
  | unknownField (key : String)
  | takenField (key : String)
  deriving DecidableEq

/-- A text between quotation marks. -/
def quote (text : String) : String := String.ofList (Text.quoted text.toList)

/-- The description of halves of surrogate pairs in a text that is to be encoded. -/
def surrogateMessage (run : Text.SurrogateRun) : String :=
  let place := String.ofList (digits run.offset)
  if run.length = 1 then
    "'utf-8' codec can't encode character '\\u" ++ String.ofList (Text.hexDigits 4 run.half) ++
      "' in position " ++ place ++ ": surrogates not allowed"
  else
    "'utf-8' codec can't encode characters in position " ++ place ++ "-" ++
      String.ofList (digits (run.offset + run.length - 1)) ++ ": surrogates not allowed"

namespace FileProblem

/-- The number and wording of the operating system with the quoted path, or why the path
cannot be passed to it. -/
def message : FileProblem → String
  | .missing path => "[Errno 2] No such file or directory: " ++ quote path
  | .exists path => "[Errno 17] File exists: " ++ quote path
  | .notDirectory path => "[Errno 20] Not a directory: " ++ quote path
  | .isDirectory path => "[Errno 21] Is a directory: " ++ quote path
  | .nameTooLong path => "[Errno 36] File name too long: " ++ quote path
  | .denied path => "[Errno 13] Permission denied: " ++ quote path
  | .noCurrentDirectory => "[Errno 2] No such file or directory"
  | .noFreshName => "[Errno 17] No usable temporary file name found"
  | .device message => message
  | .nullByte => "embedded null byte"
  | .unencodable run => surrogateMessage run

end FileProblem

namespace ArithmeticProblem

/-- The description of an arithmetic problem. -/
def message : ArithmeticProblem → String
  | .integerTooLarge => "int too large to convert to float"
  | .quotientTooLarge => "integer division result too large for a float"
  | .infiniteInteger => "cannot convert float infinity to integer"
  | .undefinedInteger => "cannot convert float NaN to integer"
  | .negativeFactorial => "factorial() not defined for negative values"
  | .tooManyDigits count =>
    "Exceeds the limit (4300 digits) for integer string conversion: value has " ++
      String.ofList (digits count) ++
      " digits; use sys.set_int_max_str_digits() to increase the limit"
  | .tooLongInteger =>
    "Exceeds the limit (4300 digits) for integer string conversion; " ++
      "use sys.set_int_max_str_digits() to increase the limit"

end ArithmeticProblem

namespace KindProblem

/-- The description of an operation on a value of the wrong kind. -/
def message : KindProblem → String
  | .compare relation left right =>
    "'" ++ relation ++ "' not supported between instances of '" ++ left ++ "' and '" ++ right ++
      "'"
  | .step => "slice indices must be integers or None or have an __index__ method"
  | .path kind => "expected str, bytes or os.PathLike object, not " ++ kind
  | .assignItem kind => "'" ++ kind ++ "' object does not support item assignment"
  | .indexList => "list indices must be integers or slices, not str"
  | .takeFromList => "'str' object cannot be interpreted as an integer"
  | .unhashable kind => "unhashable type: '" ++ kind ++ "'"
  | .join kind => "sequence item 0: expected str instance, " ++ kind ++ " found"
  | .spread kind =>
    "complexity_cli.core.config.AnalyzerConfig() argument after ** must be a mapping, not " ++ kind
  | .unknownField key => "ChartConfig.__init__() got an unexpected keyword argument '" ++ key ++ "'"
  | .takenField key => "ChartConfig.__init__() got multiple values for argument '" ++ key ++ "'"

end KindProblem

end OrderOfGrowth
