import TemplateFill.Files.Path

/-!
# Arguments

The arguments of the program name a command after the options that hold for every command; the
options of the command and its one operand follow in any order.  An argument is one of these:

* `--name` or `--name=value`, an option by its name, with its value in the next argument unless it
  is attached;
* `-abc`, several flags by their letters;
* `--`, after which every argument is an operand;
* anything else, a lone dash included, is an operand.

A value in an argument of its own is written like an operand.  Options that take one value, and
flags, may be given once before the command and once after it, and then the later value counts.
The arguments are read from left to right, and the first one that asks for the version or for help,
or that is wrong, ends the reading.
-/

namespace TemplateFill

/-- How a list of parameters is written. -/
inductive ListFormat where
  | yaml
  | json
  deriving DecidableEq, Repr

/-- The format that a word names. -/
def ListFormat.ofWord? (s : Text) : Option ListFormat :=
  if s = "yaml" then some .yaml else if s = "json" then some .json else none

/-- What the program is asked to do. -/
inductive Command where
  /-- List the parameters of a template. -/
  | params (template : Text) (format : ListFormat)
  /-- Render a template with assigned values. -/
  | render (template : Text) (pairs : List Text)
  /-- Run the commands of a template's dynamic parameters. -/
  | resolve (template : Text)
  /-- Fill in a template line by line, perhaps with a journal. -/
  | fill (template : Text) (pairs : List Text) (journal : Option Path)
  /-- Put placeholders in the place of parameters in angle brackets. -/
  | convert (snippet : Text)
  deriving DecidableEq, Repr

/-- A command with what is said for every command. -/
structure Invocation where
  command : Command
  /-- The configuration that is named. -/
  config : Option Path
  /-- Whether more is said on the way. -/
  verbose : Bool
  deriving DecidableEq, Repr

namespace Arguments

/-! ### Words, options and flags -/

/-- The word for a command. -/
inductive Verb where
  | params
  | render
  | resolve
  | fill
  | convert
  deriving DecidableEq, Repr

/-- A verb as it is written. -/
def Verb.word : Verb → Text
  | .params => "params"
  | .render => "render"
  | .resolve => "resolve"
  | .fill => "fill"
  | .convert => "convert"

/-- All verbs. -/
def Verb.all : List Verb := [.params, .render, .resolve, .fill, .convert]

/-- The verb that a word is. -/
def Verb.ofWord? (s : Text) : Option Verb := all.find? (·.word = s)

/-- An option that takes a value. -/
inductive Setting where
  | config
  | format
  | set
  | journal
  deriving DecidableEq, Repr

/-- An option as it is written. -/
def Setting.name : Setting → Text
  | .config => "config"
  | .format => "format"
  | .set => "set"
  | .journal => "journal"

/-- The options before the command, or after its verb. -/
def Setting.known : Option Verb → List Setting
  | some .params => [.config, .format]
  | some .render => [.config, .set]
  | some .fill => [.config, .set, .journal]
  | _ => [.config]

/-- An option that takes no value. -/
inductive Flag where
  | verbose
  | version
  | help
  deriving DecidableEq, Repr

/-- A flag as it is written after two dashes. -/
def Flag.name : Flag → Text
  | .verbose => "verbose"
  | .version => "version"
  | .help => "help"

/-- A flag as it is written after one dash. -/
def Flag.letter : Flag → Char
  | .verbose => 'v'
  | .version => 'V'
  | .help => 'h'

/-- All flags. -/
def Flag.all : List Flag := [.verbose, .version, .help]

/-- What is wrong with the arguments. -/
inductive Misuse where
  | unknownOption (argument : Text)
  | unexpectedValue (f : Flag)
  | missingValue (o : Setting)
  | invalidValue (o : Setting) (value : Text)
  | repeated (name : Text)
  | unknownCommand (word : Text)
  | noCommand
  | unexpectedOperand (argument : Text)
  | noOperand (v : Verb)
  deriving DecidableEq, Repr

/-- The text of the error. -/
def Misuse.message : Misuse → Text
  | .unknownOption a => "unexpected argument '" ++ a ++ "' found"
  | .unexpectedValue f => "unexpected value for '--" ++ f.name ++ "' found; no more were expected"
  | .missingValue o => "a value is required for '--" ++ o.name ++ "' but none was supplied"
  | .invalidValue o v => "invalid value '" ++ v ++ "' for '--" ++ o.name ++ "'"
  | .repeated name => "the argument '--" ++ name ++ "' cannot be used multiple times"
  | .unknownCommand w => "unrecognized subcommand '" ++ w ++ "'"
  | .noCommand => "'cmdfill' requires a subcommand but one was not provided"
  | .unexpectedOperand a => "unexpected argument '" ++ a ++ "' found"
  | .noOperand v => "'cmdfill " ++ v.word ++ "' requires a template but none was provided"

/-- Why there is nothing to do. -/
inductive Stop where
  /-- The version is asked for, before the command or after its verb. -/
  | version (v : Option Verb)
  | help
  | misuse (m : Misuse)
  deriving DecidableEq, Repr

/-- What an argument looks like. -/
inductive Shape where
  | long (name : Text) (value : Option Text)
  | short (letters : Text)
  /-- The mark after which every argument is an operand. -/
  | mark
  | operand
  deriving DecidableEq, Repr

/-- The shape of an argument. -/
def Shape.of : Text → Shape
  | '-' :: '-' :: r =>
    if r.isEmpty then .mark
    else match Text.splitOnce '=' r with
      | some (name, value) => .long name (some value)
      | none => .long r none
  | '-' :: c :: r => .short (c :: r)
  | _ => .operand

/-! ### One side of the verb -/

/-- What is given before the verb, or after it. -/
structure Given where
  verbose : Bool
  config : Option Path
  format : Option ListFormat
  pairs : List Text
  journal : Option Path
  operand : Option Text
  deriving DecidableEq, Repr

namespace Given

/-- Nothing is given. -/
def nothing : Given := ⟨false, none, none, [], none, none⟩

/-- One more flag. -/
def raise (v : Option Verb) (g : Given) : Flag → Except Stop Given
  | .version => .error (.version v)
  | .help => .error .help
  | .verbose =>
    if g.verbose then .error (.misuse (.repeated Flag.verbose.name))
    else .ok { g with verbose := true }

/-- Flags given by their letters, in an argument. -/
def raiseAll (v : Option Verb) (argument : Text) (g : Given) (letters : Text) :
    Except Stop Given :=
  letters.foldlM (fun g c =>
    match Flag.all.find? (·.letter = c) with
    | some f => g.raise v f
    | none => .error (.misuse (.unknownOption argument))) g

/-- One more value of an option; a path is not empty. -/
def set (g : Given) (o : Setting) (value : Text) : Except Misuse Given :=
  let path (old : Option Path) (new : Given) : Except Misuse Given :=
    if value.isEmpty then .error (.invalidValue o value)
    else if old.isSome then .error (.repeated o.name)
    else .ok new
  match o with
  | .config => path g.config { g with config := some value }
  | .journal => path g.journal { g with journal := some value }
  | .set => .ok { g with pairs := g.pairs ++ [value] }
  | .format =>
    match ListFormat.ofWord? value with
    | none => .error (.invalidValue o value)
    | some f => if g.format.isSome then .error (.repeated o.name) else .ok { g with format := some f }

/-- One more operand, of which there is one after the verb and none before it. -/
def give (v : Option Verb) (g : Given) (argument : Text) : Except Misuse Given :=
  if v.isNone ∨ g.operand.isSome then .error (.unexpectedOperand argument)
  else .ok { g with operand := some argument }

end Given

/-- What is given on one side of the verb, and the arguments from the verb on. -/
def readSide (v : Option Verb) (g : Given) : List Text → Except Stop (Given × List Text)
  | [] => .ok (g, [])
  | a :: rest =>
    match Shape.of a with
    | .mark => do return (← (rest.foldlM (Given.give v) g).mapError Stop.misuse, [])
    | .short letters => do readSide v (← g.raiseAll v a letters) rest
    | .operand =>
      if v.isNone then .ok (g, a :: rest)
      else do readSide v (← (g.give v a).mapError Stop.misuse) rest
    | .long name attached =>
      match Flag.all.find? (·.name = name), (Setting.known v).find? (·.name = name) with
      | some f, _ =>
        if attached.isSome then .error (.misuse (.unexpectedValue f))
        else do readSide v (← g.raise v f) rest
      | none, none => .error (.misuse (.unknownOption a))
      | none, some o =>
        match attached, rest with
        | some value, rest => do readSide v (← (g.set o value).mapError Stop.misuse) rest
        | none, value :: rest =>
          if Shape.of value = .operand then do
            readSide v (← (g.set o value).mapError Stop.misuse) rest
          else .error (.misuse (.missingValue o))
        | none, [] => .error (.misuse (.missingValue o))
termination_by as => as.length

/-! ### The whole line -/

/-- The command that a verb and what is given after it make. -/
def Verb.command? (v : Verb) (g : Given) : Option Command :=
  g.operand.map fun operand =>
    match v with
    | .params => .params operand (g.format.getD .yaml)
    | .render => .render operand g.pairs
    | .resolve => .resolve operand
    | .fill => .fill operand g.pairs g.journal
    | .convert => .convert operand

/-- What is asked for by the word for help and the arguments after it: help on the whole, or on one
command. -/
def readHelp : List Text → Stop
  | [] => .help
  | word :: rest =>
    if (Verb.ofWord? word).isNone ∧ word ≠ "help" then .misuse (.unknownCommand word)
    else match rest with
      | [] => .help
      | word :: _ => .misuse (.unknownCommand word)

/-- What the arguments ask for. -/
def read (arguments : List Text) : Except Stop Invocation := do
  let (before, rest) ← readSide none .nothing arguments
  match rest with
  | [] => throw (.misuse .noCommand)
  | word :: rest =>
    match Verb.ofWord? word with
    | none => throw (if word = "help" then readHelp rest else .misuse (.unknownCommand word))
    | some v =>
      let (after, _) ← readSide (some v) .nothing rest
      match v.command? after with
      | none => throw (.misuse (.noOperand v))
      | some command =>
        return ⟨command, after.config <|> before.config, before.verbose || after.verbose⟩

/-- What is written if the version is asked for. -/
def versionText (v : Option Verb) : Text :=
  let suffix : Text := match v with
    | none => []
    | some v => '-' :: v.word
  "cmdfill" ++ suffix ++ " 0.1.0\n"

/-- What is written if help is asked for. -/
def helpText : Text :=
  "Fill in parameterized shell command templates.\n\n"
    ++ "Usage: cmdfill [--config PATH] [-v] COMMAND ...\n\nCommands:\n"
    ++ "  params TEMPLATE [--format yaml|json]\n"
    ++ "  render TEMPLATE [--set NAME=VALUE]...\n"
    ++ "  resolve TEMPLATE\n"
    ++ "  fill TEMPLATE [--set NAME=VALUE]... [--journal PATH]\n"
    ++ "  convert COMMAND\n"

end Arguments

end TemplateFill
