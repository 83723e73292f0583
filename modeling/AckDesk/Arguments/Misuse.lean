import AckDesk.Arguments.Flag
import AckDesk.Text.Decimal

/-!
# Misuse of the command line

What can be wrong with the words of a command line, and what is said about it.
-/

namespace AckDesk

/-- Why a command line is not understood. -/
inductive Misuse where
  | unknown (word : String)
  | missingValue (flag : Flag)
  | unneededValue (value : String) (flag : Flag)
  | invalidValue (value : String) (flag : Flag) (fault : Text.DecimalFault)
  | repeated (flag : Flag)
  | excluded (flag other : Flag)
deriving DecidableEq

/-- The first line of what is said about the misuse. -/
def Misuse.message : Misuse → String
  | unknown word => "error: unexpected argument '" ++ word ++ "' found"
  | missingValue flag => "error: a value is required for '" ++ flag.text ++ "' but none was supplied"
  | unneededValue value flag =>
    "error: unexpected value '" ++ value ++ "' for '" ++ flag.text ++ "' found; no more were expected"
  | invalidValue value flag fault =>
    "error: invalid value '" ++ value ++ "' for '" ++ flag.text ++ "': " ++ fault.message
  | repeated flag => "error: the argument '" ++ flag.text ++ "' cannot be used multiple times"
  | excluded flag other => "error: the argument '" ++ flag.text ++ "' cannot be used with '" ++ other.text ++ "'"

end AckDesk
