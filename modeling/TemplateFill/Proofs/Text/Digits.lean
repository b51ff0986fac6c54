import Mathlib.Algebra.Group.Int.Defs
import Mathlib.Algebra.Group.Nat.Defs
import Mathlib.Tactic.Common
import TemplateFill.Text.Blank

/-!
# Where a row of characters ends, and rows of digits

A reader that takes characters of a class as long as there are some takes a row of them exactly, if
the text behind the row *stops* the class: it does not begin with one more.

Digits are such a class.  A number that is written is read back (`Text.toNat?_ofNat`), and it does
not begin with a zero unless it is zero (`Text.head?_ofNat_ne_zero`).
-/

namespace TemplateFill

namespace Text

/-- The text does not begin with a character of the class. -/
def Stops (p : Char → Bool) (r : Text) : Prop := ∀ c, r.head? = some c → p c = false

section Stops

variable {p : Char → Bool} {front r : Text} {c : Char}

lemma stops_nil : Stops p [] := by
  intro c hc
  exact absurd hc (by simp)

lemma stops_cons (h : p c = false) : Stops p (c :: r) := by
  intro x hx
  obtain rfl := Option.some.inj hx
  exact h

lemma stops_append (h : Stops p front) (hr : Stops p r) : Stops p (front ++ r) := by
  cases front with
  | nil => exact hr
  | cons c front => exact stops_cons (h c rfl)

lemma takeWhile_of_stops (h : Stops p r) : r.takeWhile p = [] := by
  cases r with
  | nil => rfl
  | cons c r => simp [h c rfl]

lemma dropWhile_of_stops (h : Stops p r) : r.dropWhile p = r := by
  cases r with
  | nil => rfl
  | cons c r => simp [h c rfl]

/-- A row of characters of the class is taken, and no more. -/
lemma takeWhile_append (hfront : ∀ c ∈ front, p c = true) (h : Stops p r) :
    (front ++ r).takeWhile p = front := by
  rw [List.takeWhile_append_of_pos hfront, takeWhile_of_stops h, List.append_nil]

lemma dropWhile_append (hfront : ∀ c ∈ front, p c = true) (h : Stops p r) :
    (front ++ r).dropWhile p = r := by
  rw [List.dropWhile_append_of_pos hfront, dropWhile_of_stops h]

end Stops

/-! ### Numbers -/

section Numbers

variable {n : Nat} {c : Char}

lemma isDigit_of_mem_ofNat (h : c ∈ ofNat n) : c.isDigit = true :=
  Nat.isDigit_of_mem_toDigits (by decide) (by decide) h

lemma notMem_ofNat (h : c.isDigit = false) (n : Nat) : c ∉ ofNat n := by
  intro hc
  rw [isDigit_of_mem_ofNat hc] at h
  exact absurd h (by simp)

lemma isBlank_of_isDigit (h : c.isDigit = true) : isBlank c = false := by
  have hbounds : 48 ≤ c.toNat ∧ c.toNat ≤ 57 := by
    simp only [Char.isDigit, Bool.and_eq_true, decide_eq_true_eq] at h
    exact ⟨UInt32.le_iff_toNat_le.1 h.1, UInt32.le_iff_toNat_le.1 h.2⟩
  simp only [isBlank]
  simp
  omega

lemma ofNat_ne_nil (n : Nat) : ofNat n ≠ [] := Nat.toDigits_ne_nil

/-- A number begins with a digit. -/
lemma exists_ofNat_eq_cons (n : Nat) : ∃ c ds, ofNat n = c :: ds ∧ c.isDigit = true := by
  obtain ⟨c, ds, hds⟩ := List.exists_cons_of_ne_nil (ofNat_ne_nil n)
  exact ⟨c, ds, hds, isDigit_of_mem_ofNat (by rw [hds]; exact List.mem_cons_self)⟩

@[simp] lemma ofDigitChars_ofNat (n : Nat) : Nat.ofDigitChars 10 (ofNat n) 0 = n :=
  Nat.ofDigitChars_ten_toDigits

/-- A row of digits stands for a number of no more digits. -/
lemma ofDigitChars_lt {ds : Text} (h : ∀ c ∈ ds, c.isDigit = true) :
    Nat.ofDigitChars 10 ds 0 < 10 ^ ds.length := by
  induction ds with
  | nil => simp
  | cons c ds ih =>
    rw [List.forall_mem_cons] at h
    obtain ⟨hc, hds⟩ := h
    have hdigit : c.toNat - '0'.toNat ≤ 9 := by
      simp only [Char.isDigit, Bool.and_eq_true, decide_eq_true_eq] at hc
      have hle : c.toNat ≤ 57 := UInt32.le_iff_toNat_le.1 hc.2
      simp only [Char.reduceToNat]
      omega
    have hrest := ih hds
    have hhead := Nat.mul_le_mul_left (10 ^ ds.length) hdigit
    rw [Nat.ofDigitChars_cons, Nat.mul_zero, Nat.zero_add, Nat.ofDigitChars_eq_ofDigitChars_zero,
      List.length_cons, Nat.pow_succ]
    omega

lemma length_ofNat_le {k : Nat} (hk : 0 < k) (h : n < 10 ^ k) : (ofNat n).length ≤ k :=
  (Nat.length_toDigits_le_iff (by decide) hk).2 h

/-- The digits of a number that is not zero do not begin with a zero. -/
lemma head?_ofNat_ne_zero (h : 0 < n) : (ofNat n).head? ≠ some '0' := by
  induction n using Nat.strongRecOn with
  | ind n ih =>
    by_cases hn : n < 10
    · have hdigit : ∀ n < 10, 0 < n → n.digitChar ≠ '0' := by decide
      rw [ofNat, Nat.toDigits_of_lt_base hn]
      simpa using hdigit n hn h
    · -- the digits begin with those of a tenth of the number
      have hstep : ofNat n = ofNat (n / 10) ++ [(n % 10).digitChar] :=
        Nat.toDigits_of_base_le (by decide) (by omega)
      obtain ⟨c, ds, hds, -⟩ := exists_ofNat_eq_cons (n / 10)
      have hc := ih (n / 10) (by omega) (by omega)
      rw [hds] at hc
      rw [hstep, hds]
      exact hc

@[simp] lemma toNat?_ofNat (n : Nat) : toNat? (ofNat n) = some n := by
  have hall : (ofNat n).all Char.isDigit = true :=
    List.all_eq_true.2 fun c hc => isDigit_of_mem_ofNat hc
  simp [toNat?, ofNat_ne_nil, hall]

end Numbers

end Text

end TemplateFill
