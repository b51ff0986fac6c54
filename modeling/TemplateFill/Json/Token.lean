import TemplateFill.Json.Basic

/-!
# The tokens of JSON

A JSON text is a row of tokens with blanks between them.  A string or a number that has the right
form may still stand for nothing: an escaped half of a surrogate pair without its other half, or a
number beyond the range of floating point.  Such a token is read all the same, and carries no
value.
-/

namespace TemplateFill

namespace Json

/-- One token. -/
inductive Token where
  | openArray
  | closeArray
  | openObject
  | closeObject
  | comma
  | colon
  | null
  | bool (b : Bool)
  | number (v : Option Json)
  | string (s : Option Text)
  deriving Repr

/-! ### Strings -/

/-- One item of a string as it is written: a character, or an escaped unit of sixteen bits. -/
inductive StringItem where
  | char (c : Char)
  | unit (n : Nat)
  deriving DecidableEq, Repr

/-- The value of a hexadecimal digit. -/
def hexDigit? (c : Char) : Option Nat :=
  if c.isDigit then some (c.toNat - '0'.toNat)
  else if 'a' ≤ c ∧ c ≤ 'f' then some (c.toNat - 'a'.toNat + 10)
  else if 'A' ≤ c ∧ c ≤ 'F' then some (c.toNat - 'A'.toNat + 10)
  else none

/-- The value of four hexadecimal digits. -/
def hex4? (a b c d : Char) : Option Nat := do
  return 4096 * (← hexDigit? a) + 256 * (← hexDigit? b) + 16 * (← hexDigit? c) + (← hexDigit? d)

/-- What a backslash and a letter stand for. -/
def unescape? : Char → Option Char
  | '"' => some '"'
  | '\\' => some '\\'
  | '/' => some '/'
  | 'b' => some '\x08'
  | 'f' => some '\x0c'
  | 'n' => some '\n'
  | 'r' => some '\r'
  | 't' => some '\t'
  | _ => none

/-- The items of a string after its opening quote, and the text after the closing quote. -/
def readItems : Text → Option (List StringItem × Text)
  | [] => none
  | '"' :: r => some ([], r)
  | '\\' :: 'u' :: a :: b :: c :: d :: r =>
    match hex4? a b c d, readItems r with
    | some n, some (is, rest) => some (.unit n :: is, rest)
    | _, _ => none
  | '\\' :: e :: r =>
    match unescape? e, readItems r with
    | some c, some (is, rest) => some (.char c :: is, rest)
    | _, _ => none
  | c :: r =>
    if c.toNat < 0x20 ∨ c = '\\' then none
    else match readItems r with
      | some (is, rest) => some (.char c :: is, rest)
      | none => none

/-- The text that the items of a string stand for.  Escaped units that are the two halves of a
surrogate pair stand for one character together; alone they stand for nothing. -/
def decodeItems : List StringItem → Option Text
  | [] => some []
  | .char c :: r => (decodeItems r).map (c :: ·)
  | .unit n :: r =>
    if 0xDC00 ≤ n ∧ n < 0xE000 then none
    else if 0xD800 ≤ n ∧ n < 0xDC00 then
      match r with
      | .unit m :: r' =>
        if 0xDC00 ≤ m ∧ m < 0xE000 then
          (decodeItems r').map (Char.ofNat (0x10000 + (n - 0xD800) * 0x400 + (m - 0xDC00)) :: ·)
        else none
      | _ => none
    else (decodeItems r).map (Char.ofNat n :: ·)

theorem readItems_shorter {s r : Text} {is : List StringItem} (h : readItems s = some (is, r)) :
    r.length < s.length := by
  fun_induction readItems s generalizing is r with
  | case1 | case4 | case6 | case7 | case9 => exact absurd h (by simp)
  | case2 s =>
    obtain ⟨-, rfl⟩ := Prod.mk.inj (Option.some.inj h)
    exact Nat.lt_succ_self _
  -- an escape by a number
  | case3 _ _ _ _ s _ _ _ hrest _ ih =>
    obtain ⟨-, rfl⟩ := Prod.mk.inj (Option.some.inj h)
    have hlt := ih hrest
    simp only [List.length_cons]
    omega
  -- an escape by a letter
  | case5 _ s _ _ _ _ hrest _ ih =>
    obtain ⟨-, rfl⟩ := Prod.mk.inj (Option.some.inj h)
    have hlt := ih hrest
    simp only [List.length_cons]
    omega
  -- any other character
  | case8 _ s _ _ _ _ _ _ hrest ih =>
    obtain ⟨-, rfl⟩ := Prod.mk.inj (Option.some.inj h)
    have hlt := ih hrest
    simp only [List.length_cons]
    omega

/-! ### Numbers -/

/-- A number as it is written. -/
structure NumberText where
  negative : Bool
  /-- The digits before the point. -/
  whole : Text
  /-- The digits after the point; there are some if a point is written. -/
  fraction : Option Text
  /-- The sign and the digits of the exponent, if one is written. -/
  exponent : Option (Bool × Text)
  deriving DecidableEq, Repr

/-- The digits at the start of a text, of which there must be some. -/
def readDigits (s : Text) : Option (Text × Text) :=
  let ds := s.takeWhile Char.isDigit
  if ds.isEmpty then none else some (ds, s.dropWhile Char.isDigit)

/-- The fraction at the start of a text, if one is written there. -/
def readFraction : Text → Option (Option Text × Text)
  | '.' :: r => (readDigits r).map fun p => (some p.1, p.2)
  | s => some (none, s)

/-- Whether a minus sign stands at the start of a text, and the text after it. -/
def readSign : Text → Bool × Text
  | '-' :: r => (true, r)
  | s => (false, s)

/-- The exponent at the start of a text, if one is written there. -/
def readExponent : Text → Option (Option (Bool × Text) × Text)
  | [] => some (none, [])
  | c :: r =>
    if c = 'e' ∨ c = 'E' then
      let signed := match r with
        | '+' :: r => (false, r)
        | r => readSign r
      (readDigits signed.2).map fun p => (some (signed.1, p.1), p.2)
    else some (none, c :: r)

/-- The number at the start of a text.  No digit may follow a leading zero. -/
def readNumber (s : Text) : Option (NumberText × Text) :=
  (readDigits (readSign s).2).bind fun (whole, s₁) =>
    if whole.head? = some '0' ∧ whole.length ≠ 1 then none
    else (readFraction s₁).bind fun (fraction, s₂) =>
      (readExponent s₂).map fun (exponent, s₃) => (⟨(readSign s).1, whole, fraction, exponent⟩, s₃)

/-- The digits that fit into 64 bits, as a number, and the digits behind them. -/
def significand (acc : Nat) : Text → Nat × Text
  | [] => (acc, [])
  | c :: r =>
    let n := 10 * acc + (c.toNat - '0'.toNat)
    if n < Nat.pow 2 64 then significand n r else (acc, c :: r)

/-- A power of ten, rounded. -/
def powerOfTen (n : Nat) : Binary64 := (Binary64.ofRatio? (Nat.pow 10 n) 1).getD .zero

/-- The largest power of ten that a single scaling uses. -/
def largestStep : Nat := 308

/-- A number divided by a power of ten, in steps that are rounded one by one. -/
def scaleDown (b : Binary64) (n : Nat) : Option Binary64 :=
  if _h : n ≤ largestStep then b.div? (powerOfTen n)
  else if b.mant = 0 then some .zero
  else
    (b.div? (powerOfTen largestStep)).bind fun q => scaleDown q (n - largestStep)
termination_by n
decreasing_by
  exact Nat.sub_lt (Nat.lt_of_le_of_lt (Nat.zero_le _) (Nat.lt_of_not_le ‹¬ n ≤ largestStep›))
    (by decide)

/-- The number `significand * 10 ^ e`, rounded once for the significand and once for each scaling;
there is none if it is too large. -/
def scale? (significand : Nat) (e : Int) : Option Binary64 := do
  let b ← Binary64.ofRatio? significand 1
  if e < 0 then scaleDown b (-e).toNat
  else if e ≤ largestStep then b.mul? (powerOfTen e.toNat)
  else if b.mant = 0 then some .zero
  else none

/-- The value of a number with a point or an exponent, or with more digits than 64 bits hold.
Digits that do not fit into the significand are left out.  An exponent that does not fit into 31
bits makes the number zero, or too large. -/
def NumberText.real? (t : NumberText) : Option Json := do
  let (sig, dropped) := significand 0 t.whole
  let fraction := t.fraction.getD []
  let (sig, rest) := significand sig fraction
  let start : Int := dropped.length - (fraction.length - rest.length : Nat)
  let b ← match t.exponent with
    | none => scale? sig start
    | some (negative, ds) =>
      let n := Nat.ofDigitChars 10 ds 0
      if n < Nat.pow 2 31 then scale? sig (if negative then start - n else start + n)
      else if sig = 0 ∨ negative then some .zero
      else none
  return .real t.negative b

/-- The value of a number; there is none beyond the range of floating point. -/
def NumberText.value? (t : NumberText) : Option Json :=
  match t.fraction, t.exponent with
  | none, none =>
    let n := Nat.ofDigitChars 10 t.whole 0
    if t.negative then
      if 0 < n ∧ n ≤ Nat.pow 2 63 then some (.integer (-n)) else t.real?
    else if n < Nat.pow 2 64 then some (.integer n) else t.real?
  | _, _ => t.real?

/-! ### Tokens -/

/-- The blanks between tokens. -/
def isSpace (c : Char) : Bool := c = ' ' || c = '\n' || c = '\t' || c = '\r'

/-- The token at the start of a text, and the text after it. -/
def readToken : Text → Option (Token × Text)
  | '[' :: r => some (.openArray, r)
  | ']' :: r => some (.closeArray, r)
  | '{' :: r => some (.openObject, r)
  | '}' :: r => some (.closeObject, r)
  | ',' :: r => some (.comma, r)
  | ':' :: r => some (.colon, r)
  | '"' :: r => (readItems r).map fun p => (.string (decodeItems p.1), p.2)
  | 'n' :: 'u' :: 'l' :: 'l' :: r => some (.null, r)
  | 't' :: 'r' :: 'u' :: 'e' :: r => some (.bool true, r)
  | 'f' :: 'a' :: 'l' :: 's' :: 'e' :: r => some (.bool false, r)
  | s => (readNumber s).map fun p => (.number p.1.value?, p.2)

theorem readDigits_shorter {s ds r : Text} (h : readDigits s = some (ds, r)) :
    r.length < s.length := by
  unfold readDigits at h
  dsimp only at h
  split at h
  · simp at h
  · rename_i hne
    obtain ⟨rfl, rfl⟩ := Prod.mk.inj (Option.some.inj h)
    have hl := congrArg List.length (List.takeWhile_append_dropWhile (p := Char.isDigit) (l := s))
    have : 0 < (s.takeWhile Char.isDigit).length := by
      cases ht : s.takeWhile Char.isDigit <;> simp_all
    rw [List.length_append] at hl
    omega

theorem readSign_le (s : Text) : (readSign s).2.length ≤ s.length := by
  unfold readSign
  split <;> simp

theorem readFraction_le {s r : Text} {f : Option Text} (h : readFraction s = some (f, r)) :
    r.length ≤ s.length := by
  unfold readFraction at h
  split at h
  · obtain ⟨p, hp, he⟩ := Option.map_eq_some_iff.1 h
    obtain ⟨-, rfl⟩ := Prod.mk.inj he
    have := readDigits_shorter hp
    simp only [List.length_cons]
    omega
  · obtain ⟨-, rfl⟩ := Prod.mk.inj (Option.some.inj h)
    exact Nat.le_refl _

theorem readExponent_le {s r : Text} {e : Option (Bool × Text)}
    (h : readExponent s = some (e, r)) : r.length ≤ s.length := by
  unfold readExponent at h
  split at h
  · obtain ⟨-, rfl⟩ := Prod.mk.inj (Option.some.inj h)
    exact Nat.le_refl _
  · rename_i c t
    split at h
    · obtain ⟨p, hp, he⟩ := Option.map_eq_some_iff.1 h
      obtain ⟨-, rfl⟩ := Prod.mk.inj he
      have := readDigits_shorter hp
      split at this
      · simp only [List.length_cons] at this ⊢
        omega
      · have := readSign_le t
        simp only [List.length_cons]
        omega
    · obtain ⟨-, rfl⟩ := Prod.mk.inj (Option.some.inj h)
      exact Nat.le_refl _

theorem readNumber_shorter {s r : Text} {t : NumberText} (h : readNumber s = some (t, r)) :
    r.length < s.length := by
  obtain ⟨⟨whole, s₁⟩, h₁, h⟩ := Option.bind_eq_some_iff.1 h
  dsimp only at h
  split at h
  · simp at h
  · obtain ⟨⟨fraction, s₂⟩, h₂, h⟩ := Option.bind_eq_some_iff.1 h
    obtain ⟨⟨exponent, s₃⟩, h₃, h⟩ := Option.map_eq_some_iff.1 h
    obtain ⟨-, rfl⟩ := Prod.mk.inj h
    have := readDigits_shorter h₁
    have := readFraction_le h₂
    have := readExponent_le h₃
    have := readSign_le s
    dsimp only at *
    omega

theorem readToken_shorter {s r : Text} {t : Token} (h : readToken s = some (t, r)) :
    r.length < s.length := by
  unfold readToken at h
  split at h
  case h_7 =>
    obtain ⟨p, hp, he⟩ := Option.map_eq_some_iff.1 h
    obtain ⟨-, rfl⟩ := Prod.mk.inj he
    have := readItems_shorter hp
    simp only [List.length_cons]
    omega
  case h_11 =>
    obtain ⟨p, hp, he⟩ := Option.map_eq_some_iff.1 h
    obtain ⟨-, rfl⟩ := Prod.mk.inj he
    exact readNumber_shorter hp
  all_goals
    obtain ⟨-, rfl⟩ := Prod.mk.inj (Option.some.inj h)
    simp only [List.length_cons]
    omega

/-- The tokens of a text, if it is made of tokens and blanks. -/
def tokens : Text → Option (List Token)
  | [] => some []
  | c :: r =>
    if isSpace c then tokens r
    else match h : readToken (c :: r) with
      | none => none
      | some (t, rest) =>
        have : rest.length < r.length + 1 := readToken_shorter h
        (tokens rest).map (t :: ·)
termination_by s => s.length
decreasing_by all_goals (simp only [List.length_cons]; omega)

end Json

end TemplateFill
