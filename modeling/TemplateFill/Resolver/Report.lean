import TemplateFill.Resolver.Outcome
import TemplateFill.Template.Parameter

/-!
# A report on what commands have produced

Each parameter has a line with the number of its options, which follow one on a line.  A star
stands before an option that is the parameter's default.
-/

namespace TemplateFill

/-- A line with an option. -/
def Parameter.optionLine (p : Parameter) (option : Text) : Text :=
  let star : Text := if option = p.default then ['*'] else [' ']
  "  " ++ star ++ ' ' :: option ++ ['\n']

/-- The lines on a parameter. -/
def Outcome.report (p : Parameter) : Outcome → Text
  | .options os =>
    p.name ++ ": " ++ Text.ofNat os.length ++ " option(s)\n" ++ os.flatMap p.optionLine
  | .failed why => p.name ++ ": failed (" ++ why.message ++ ")\n"

/-- The lines on parameters with their outcomes. -/
def Outcome.reports (ps : List Parameter) (os : List Outcome) : Text :=
  (ps.zip os).flatMap fun p => p.2.report p.1

end TemplateFill
