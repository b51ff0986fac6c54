import TemplateFill.Proofs.Text.Digits
import TemplateFill.Yaml.Plain

/-!
# What plain numbers stand for

A whole number that is written with decimal digits is read as that number, for it has no zero in
front and names no base (`Yaml.natural?_ofNat`, `Yaml.Meaning.ofPlain_ofInt`).
-/

namespace TemplateFill

namespace Yaml

open Text

/-- A digit stands for its value. -/
lemma hexDigit?_of_isDigit {c : Char} (h : c.isDigit = true) :
    Json.hexDigit? c = some (c.toNat - '0'.toNat) :=
  if_pos h

/-- Digits stand for the number that they spell. -/
lemma foldlM_digits {ds : Text} (h : ∀ c ∈ ds, c.isDigit = true) (n : Nat) :
    (ds.foldlM (fun n c => do
      let d ← Json.hexDigit? c
      if d < 10 then some (10 * n + d) else none) n : Option Nat) =
        some (Nat.ofDigitChars 10 ds n) := by
  induction ds generalizing n with
  | nil => rfl
  | cons c ds ih =>
    rw [List.forall_mem_cons] at h
    obtain ⟨hc, hds⟩ := h
    have hlt : c.toNat - '0'.toNat < 10 := by
      simp only [Char.isDigit, Bool.and_eq_true, decide_eq_true_eq] at hc
      have hle : c.toNat ≤ 57 := UInt32.le_iff_toNat_le.1 hc.2
      simp only [Char.reduceToNat]
      omega
    simp only [List.foldlM_cons, hexDigit?_of_isDigit hc, Option.bind_eq_bind, Option.bind_some,
      if_pos hlt]
    exact ih hds _

lemma digits?_ofNat (n : Nat) : digits? 10 (ofNat n) = some n := by
  have hne : (ofNat n).isEmpty = false := by simp [ofNat_ne_nil]
  rw [digits?, hne, if_neg (by simp), foldlM_digits fun c hc => isDigit_of_mem_ofNat hc,
    ofDigitChars_ofNat]

/-- The digits of a number begin with a zero only if the number is zero. -/
lemma ofNat_cases (n : Nat) :
    ofNat n = ['0'] ∨ ∃ c ds, ofNat n = c :: ds ∧ c.isDigit = true ∧ c ≠ '0' := by
  rcases Nat.eq_zero_or_pos n with rfl | hn
  · exact Or.inl (by decide)
  · obtain ⟨c, ds, hds, hc⟩ := exists_ofNat_eq_cons n
    refine Or.inr ⟨c, ds, hds, hc, ?_⟩
    rintro rfl
    exact head?_ofNat_ne_zero hn (by rw [hds]; rfl)

lemma hasLeadingZero_ofNat (n : Nat) : hasLeadingZero (ofNat n) = false := by
  rcases ofNat_cases n with h | ⟨c, ds, h, hc, hzero⟩
  · rw [h]
    rfl
  · have hsign : c ≠ '-' ∧ c ≠ '+' := by
      constructor <;> rintro rfl <;> exact absurd hc (by decide)
    simp only [h, hasLeadingZero]
    grind

lemma hasLeadingZero_neg_ofNat (n : Nat) : hasLeadingZero ('-' :: ofNat n) = false := by
  rcases ofNat_cases n with h | ⟨c, ds, h, hc, hzero⟩
  · rw [h]
    rfl
  · simp only [h, hasLeadingZero]
    grind

lemma basedDigits?_ofNat (n : Nat) : basedDigits? (ofNat n) = none := by
  rcases ofNat_cases n with h | ⟨c, ds, h, hc, hzero⟩
  · rw [h]
    rfl
  · rw [h]
    unfold basedDigits?
    split <;> simp_all

/-- A whole number that is not negative is read as it is written. -/
lemma natural?_ofNat (n : Nat) : natural? (ofNat n) = some n := by
  have hsign : ∀ r, ofNat n ≠ '+' :: r := by
    intro r h
    have hmem : '+' ∈ ofNat n := by
      rw [h]
      exact List.mem_cons_self
    exact absurd hmem (notMem_ofNat rfl n)
  unfold natural?
  split
  · rename_i r h
    exact absurd h (hsign r)
  · simp only [basedDigits?_ofNat, hasLeadingZero_ofNat, digits?_ofNat]
    rfl

lemma natural?_neg (s : Text) : natural? ('-' :: s) = none := by
  have hbased : basedDigits? ('-' :: s) = none := by simp [basedDigits?]
  have hdigits : digits? 10 ('-' :: s) = none := by simp [digits?, Json.hexDigit?]
  simpa [natural?, hbased] using fun _ => hdigits

lemma negated?_ofNat (n : Nat) : negated? ('-' :: ofNat n) = some n := by
  simp only [negated?, basedDigits?_ofNat, hasLeadingZero_neg_ofNat, digits?_ofNat]
  rfl

/-- A number of 64 bits is read as it is written. -/
lemma integer?_ofInt {i : Int} (hlow : -2 ^ 63 ≤ i) (hhigh : i < 2 ^ 64) :
    integer? (ofInt i) = some i := by
  have hpow : Nat.pow 2 127 = 2 ^ 127 ∧ Nat.pow 2 128 = 2 ^ 128 := by decide
  unfold integer? ofInt
  split_ifs with hi
  · rw [natural?_neg, negated?_ofNat]
    have hle : i.natAbs ≤ Nat.pow 2 127 := by omega
    simp only [if_pos hle, Option.some.injEq]
    omega
  · rw [natural?_ofNat]
    have hlt : i.natAbs < Nat.pow 2 128 := by omega
    simp only [if_pos hlt, Option.some.injEq]
    omega

/-- A number begins with a digit or a minus sign. -/
lemma exists_ofInt_eq_cons (i : Int) :
    ∃ c ds, ofInt i = c :: ds ∧ (c.isDigit = true ∨ c = '-') := by
  unfold ofInt
  split
  · exact ⟨'-', _, rfl, Or.inr rfl⟩
  · obtain ⟨c, ds, hds, hc⟩ := exists_ofNat_eq_cons i.natAbs
    exact ⟨c, ds, hds, Or.inl hc⟩

/-- A plain number stands for that number. -/
lemma Meaning.ofPlain_ofInt {i : Int} (hlow : -2 ^ 63 ≤ i) (hhigh : i < 2 ^ 64) :
    ofPlain (ofInt i) = .integer i := by
  obtain ⟨c, ds, hds, hc⟩ := exists_ofInt_eq_cons i
  have hletter : ∀ x ∈ ['n', 'N', '~', 't', 'T', 'f', 'F'], c ≠ x := by
    rintro x hx rfl
    rcases hc with hc | rfl
    · simp only [List.mem_cons, List.not_mem_nil, or_false] at hx
      rcases hx with rfl | rfl | rfl | rfl | rfl | rfl | rfl <;> exact absurd hc (by decide)
    · exact absurd hx (by decide)
  simp only [List.forall_mem_cons, List.not_mem_nil, false_implies, implies_true, and_true]
    at hletter
  have hnull : isNullWord (ofInt i) = false := by simp [isNullWord, hds, hletter]
  have hbool : boolWord? (ofInt i) = none := by simp [boolWord?, hds, hletter]
  have hne : (ofInt i).isEmpty = false := by simp [hds]
  simp only [ofPlain, hne, hnull, hbool, integer?_ofInt hlow hhigh]
  rfl

end Yaml

end TemplateFill
