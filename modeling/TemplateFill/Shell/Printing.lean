import TemplateFill.Shell.Arithmetic
import TemplateFill.Shell.Supply

/-!
# Programs that print their arguments

`echo` prints its arguments with blanks between them.  `printf` prints a format, in which
conversions stand for its further arguments, and starts over as long as there are arguments left.
In both a backslash gives some characters a meaning.
-/

namespace TemplateFill

namespace Shell

/-- The character that a backslash and a letter stand for. -/
def escapeChar? : Char → Option Char
  | '\\' => some '\\'
  | 'a' => some '\x07'
  | 'b' => some '\x08'
  | 'f' => some '\x0c'
  | 'n' => some '\n'
  | 'r' => some '\r'
  | 't' => some '\t'
  | 'v' => some '\x0b'
  | _ => none

/-- The octal number of at most `n` digits at the start of a text, as a character. -/
def octalChar (n : Nat) (s : Text) : Char × Text :=
  let ds := (s.take n).takeWhile fun c => '0' ≤ c && c ≤ '7'
  (Char.ofNat (Nat.ofDigitChars 8 ds 0 % 256), s.drop ds.length)

/-- The text that an argument with escapes stands for, and whether it ends all output. -/
def unescape (s : Text) : Nat → Text × Bool
  | 0 => ([], false)
  | fuel + 1 =>
    match s with
    | [] => ([], false)
    | '\\' :: 'c' :: _ => ([], true)
    | '\\' :: '0' :: r =>
      let (c, r) := octalChar 3 r
      let (t, e) := unescape r fuel
      (c :: t, e)
    | '\\' :: c :: r =>
      let (t, e) := unescape r fuel
      match escapeChar? c with
      | some x => (x :: t, e)
      | none => ('\\' :: c :: t, e)
    | c :: r =>
      let (t, e) := unescape r fuel
      (c :: t, e)

/-- The output of `echo`. -/
def echo (args : List Text) : Text :=
  let (args, newline) := match args with
    | ['-', 'n'] :: r => (r, false)
    | args => (args, true)
  let joined := Text.join [' '] args
  let (t, ended) := unescape joined (joined.length + 1)
  if newline && !ended then t ++ ['\n'] else t

/-- The output of `echo` where it is a program of its own: escapes have a meaning only if the option
for it is given. -/
def plainEcho (args : List Text) : Text :=
  let isOption (a : Text) : Bool :=
    match a with
    | '-' :: c :: cs => (c :: cs).all fun c => c ∈ "neE".toList
    | _ => false
  let options := (args.takeWhile isOption).flatten
  let joined := Text.join [' '] (args.dropWhile isOption)
  let escapes := (options.filter fun c => c ∈ "eE".toList).getLast? = some 'e'
  let (t, ended) := if escapes then unescape joined (joined.length + 1) else (joined, false)
  if ended || options.contains 'n' then t else t ++ ['\n']

/-! ### Formats -/

/-- A text of at least `width` characters, filled up at one end. -/
def padTo (left : Bool) (fill : Char) (width : Nat) (s : Text) : Text :=
  let filler := List.replicate (width - s.length) fill
  if left then s ++ filler else filler ++ s

/-- A conversion in a format. -/
structure Conversion where
  flags : Text
  width : Nat
  precision : Option Nat
  letter : Char

/-- The number that an argument is, and whether all of the argument is one. -/
def argumentNumber (s : Text) : Int × Bool :=
  match s with
  | [] => (0, true)
  | '\'' :: c :: _ | '"' :: c :: _ => (c.toNat, true)
  | _ =>
    let t := s.dropWhile fun c => c = ' ' || c = '\t'
    let (sign, t) : Int × Text := match t with
      | '-' :: r => (-1, r)
      | '+' :: r => (1, r)
      | r => (1, r)
    match Arithmetic.constant? t with
    | some n => (sign * n, true)
    | none => (sign * Nat.ofDigitChars 10 (t.takeWhile Char.isDigit) 0, false)

namespace Conversion

/-- A number with its sign in front of at least so many digits as the precision asks for. -/
def number (c : Conversion) (sign digits : Text) : Text :=
  let digits := padTo false '0' (c.precision.getD 1) digits
  if c.flags.contains '-' then padTo true ' ' c.width (sign ++ digits)
  else if c.flags.contains '0' ∧ c.precision.isNone then
    sign ++ padTo false '0' (c.width - sign.length) digits
  else padTo false ' ' c.width (sign ++ digits)

/-- What a conversion makes of an argument, if it is one that there is, and whether the argument
was wrong. -/
def converted? (c : Conversion) (arg : Text) : Option (Text × Bool) :=
  let string (s : Text) : Text :=
    let s := match c.precision with
      | some n => s.take n
      | none => s
    padTo (c.flags.contains '-') ' ' c.width s
  let (n, good) := argumentNumber arg
  let sign : Text :=
    if n < 0 then ['-']
    else if c.flags.contains '+' then ['+']
    else if c.flags.contains ' ' then [' ']
    else []
  let unsigned := (if n < 0 then n + Nat.pow 2 64 else n).toNat
  let based (base : Nat) (mark : Text) : Text :=
    let mark : Text := if c.flags.contains '#' ∧ unsigned ≠ 0 then mark else []
    c.number mark (Nat.toDigits base unsigned)
  match c.letter with
  | 's' => some (string arg, false)
  | 'b' => some (string (unescape arg (arg.length + 1)).1, false)
  | 'c' => some (string (arg.take 1), false)
  | 'd' | 'i' => some (c.number sign (Text.ofNat n.natAbs), !good)
  | 'u' => some (c.number [] (Text.ofNat unsigned), !good)
  | 'o' => some (based 8 ['0'], !good)
  | 'x' => some (based 16 "0x", !good)
  | 'X' => some ((based 16 "0x").map Char.toUpper, !good)
  | _ => none

end Conversion

/-- A run through a format. -/
structure Printing where
  output : Text
  args : List Text
  /-- Whether a conversion has taken an argument, or would have if there had been one. -/
  converts : Bool
  faulty : Bool
  stopped : Bool

/-- The number at the start of a text, or the next argument for a star. -/
def readWidth (s : Text) (args : List Text) : Option Nat × Text × List Text :=
  match s with
  | '*' :: r => (some (argumentNumber (args.headD [])).1.toNat, r, args.tail)
  | _ =>
    let ds := s.takeWhile Char.isDigit
    (Text.toNat? ds, s.drop ds.length, args)

/-- One run through a format. -/
def printOnce (s : Text) (p : Printing) : Nat → Printing
  | 0 => p
  | fuel + 1 =>
    let put (c : Text) (r : Text) := printOnce r { p with output := p.output ++ c } fuel
    match s with
    | [] => p
    | '\\' :: 'c' :: _ => { p with stopped := true }
    | '\\' :: c :: r =>
      if '0' ≤ c ∧ c ≤ '7' then
        let (x, r) := octalChar 3 (c :: r)
        put [x] r
      else match escapeChar? c with
        | some x => put [x] r
        | none => put ['\\', c] r
    | '%' :: '%' :: r => put ['%'] r
    | '%' :: r =>
      let flags := r.takeWhile fun c => c ∈ "-+ 0#".toList
      let (width, r, args) := readWidth (r.drop flags.length) p.args
      let (precision, r, args) := match r with
        | '.' :: r =>
          let (n, r, args) := readWidth r args
          (some (n.getD 0), r, args)
        | r => (none, r, args)
      match r with
      | [] => { p with faulty := true, stopped := true }
      | letter :: r =>
        let c : Conversion := ⟨flags, width.getD 0, precision, letter⟩
        match c.converted? (args.headD []) with
        | none => { p with faulty := true, stopped := true }
        | some (t, wrong) =>
          printOnce r { p with
            output := p.output ++ t, args := args.tail, converts := true
            faulty := p.faulty || wrong } fuel
    | c :: r => put [c] r

/-- Runs through a format until no arguments are left. -/
def printAll (format : Text) (p : Printing) : Nat → Printing
  | 0 => p
  | fuel + 1 =>
    let p := printOnce format p (format.length + 1)
    if p.stopped ∨ p.args.isEmpty ∨ ¬ p.converts then p else printAll format p fuel

/-- What comes of `printf`. -/
def printf (args : List Text) : Product :=
  match if args.head? = some ['-', '-'] then args.tail else args with
  | [] => .failed 2 "printf: usage: printf format [arg ...]"
  | format :: args =>
    let p := printAll format ⟨[], args, false, false, false⟩ (args.length + 1)
    { Product.ofText p.output with status := if p.faulty then 1 else 0 }

end Shell

end TemplateFill
