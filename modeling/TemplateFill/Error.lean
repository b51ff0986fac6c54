import TemplateFill.Text.Basic

/-!
# Errors that end a command

A command ends in an error of one of four classes.  The class fixes the exit code and what stands
before the text in the message.  The causes themselves are declared beside the operations that
raise them, each with its text and its class.
-/

namespace TemplateFill

/-- An error that ends a command. -/
inductive Error where
  /-- The arguments or the input are wrong. -/
  | user (text : Text)
  /-- The configuration cannot be read, or is not valid. -/
  | configuration (text : Text)
  /-- A file or a stream cannot be read or written. -/
  | stream (text : Text)
  /-- The fill session was given up. -/
  | cancelled
  deriving DecidableEq, Repr

namespace Error

/-- The error as it is shown. -/
def message : Error → Text
  | .user t => t
  | .configuration t => "Configuration error: " ++ t
  | .stream t => "I/O error: " ++ t
  | .cancelled => "cancelled"

/-- The exit code of a command that ends in the error. -/
def exitCode : Error → Nat
  | .user _ | .stream _ => 1
  | .configuration _ => 2
  | .cancelled => 130

end Error

end TemplateFill
