import TemplateFill.Text.Basic

/-!
# UTF-8

Bytes are read as text in two ways.  Strict reading has no result unless all bytes belong to
characters.  Lossy reading puts a replacement character for every longest row of bytes that begins
a character but does not go on as one, and for every byte that cannot begin one.
-/

namespace TemplateFill

namespace Utf8

/-- The bytes of a character. -/
def encodeChar (c : Char) : List UInt8 :=
  let n := c.toNat
  if n < 0x80 then [n.toUInt8]
  else if n < 0x800 then [(0xC0 + n / 0x40).toUInt8, (0x80 + n % 0x40).toUInt8]
  else if n < 0x10000 then
    [(0xE0 + n / 0x1000).toUInt8, (0x80 + n / 0x40 % 0x40).toUInt8, (0x80 + n % 0x40).toUInt8]
  else
    [(0xF0 + n / 0x40000).toUInt8, (0x80 + n / 0x1000 % 0x40).toUInt8,
      (0x80 + n / 0x40 % 0x40).toUInt8, (0x80 + n % 0x40).toUInt8]

/-- The bytes of a text. -/
def encode (s : Text) : List UInt8 := s.flatMap encodeChar

/-- What a byte that begins a character says: the bits it gives, the number of bytes that follow,
and the bounds of the first of them. -/
def lead? (b : UInt8) : Option (Nat × Nat × UInt8 × UInt8) :=
  let n := b.toNat
  if n < 0x80 then some (n, 0, 0x80, 0xBF)
  else if 0xC2 ≤ n ∧ n < 0xE0 then some (n - 0xC0, 1, 0x80, 0xBF)
  else if n = 0xE0 then some (0, 2, 0xA0, 0xBF)
  else if n = 0xED then some (0xD, 2, 0x80, 0x9F)
  else if 0xE1 ≤ n ∧ n < 0xF0 then some (n - 0xE0, 2, 0x80, 0xBF)
  else if n = 0xF0 then some (0, 3, 0x90, 0xBF)
  else if 0xF1 ≤ n ∧ n < 0xF4 then some (n - 0xF0, 3, 0x80, 0xBF)
  else if n = 0xF4 then some (4, 3, 0x80, 0x8F)
  else none

/-- The rest of a character of which `owed` bytes are missing, the next of them within bounds: the
character's number, if all of them follow, and the bytes after those that belong to it. -/
def follow (bits owed : Nat) (low high : UInt8) : List UInt8 → Option Nat × List UInt8
  | [] => (if owed = 0 then some bits else none, [])
  | b :: r =>
    if owed = 0 then (some bits, b :: r)
    else if low ≤ b ∧ b ≤ high then follow (bits * 0x40 + b.toNat % 0x40) (owed - 1) 0x80 0xBF r
    else (none, b :: r)

theorem follow_le (bits owed : Nat) (low high : UInt8) (bs : List UInt8) :
    (follow bits owed low high bs).2.length ≤ bs.length := by
  induction bs generalizing bits owed low high with
  | nil => simp [follow]
  | cons b r ih =>
    unfold follow
    split
    · exact Nat.le_refl _
    · split
      · exact Nat.le_succ_of_le (ih ..)
      · exact Nat.le_refl _

/-- The character that begins with a byte, if the bytes after it go on as one, and the bytes behind
it or behind what there is of it. -/
def next (b : UInt8) (r : List UInt8) : Option Char × List UInt8 :=
  match lead? b with
  | none => (none, r)
  | some (bits, owed, low, high) =>
    let p := follow bits owed low high r
    (p.1.map Char.ofNat, p.2)

theorem next_le (b : UInt8) (r : List UInt8) : (next b r).2.length ≤ r.length := by
  unfold next
  split
  · exact Nat.le_refl _
  · exact follow_le ..

/-- The characters of some bytes, with nothing in the place of each row of bytes that is none. -/
def chars : List UInt8 → List (Option Char)
  | [] => []
  | b :: r =>
    have : (next b r).2.length ≤ r.length := next_le b r
    (next b r).1 :: chars (next b r).2
termination_by bs => bs.length
decreasing_by (simp only [List.length_cons]; omega)

/-- The text of some bytes, if they all belong to characters. -/
def decode? (bs : List UInt8) : Option Text := (chars bs).mapM id

/-- The text of some bytes, with replacement characters for those that belong to none. -/
def decodeLossy (bs : List UInt8) : Text := (chars bs).map fun c => c.getD '\uFFFD'

end Utf8

end TemplateFill
