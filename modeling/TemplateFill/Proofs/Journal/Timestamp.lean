import Mathlib.Data.Option.Basic
import TemplateFill.Proofs.Journal.Calendar
import TemplateFill.Proofs.Text.Digits

/-!
# Time stamps that come back from their text

What is read as a time stamp is an *instant*: its year is one that a time stamp may have, and its
nanoseconds make up less than a second, or less than two at the end of a minute, where a leap second
can be (`Timestamp.isInstant_of_read`).  An instant is read from what is written for it, whatever
its year and its number of digits (`Timestamp.read_write`).
-/

namespace TemplateFill

namespace Timestamp

open Text

variable {t : Timestamp} {c : Char} {r : Text} {n width : Nat}

/-- What holds of the time stamps that a text can give. -/
structure IsInstant (t : Timestamp) : Prop where
  isYear : isYear (dateOf t.day).1 = true
  second_lt : t.second < 86400
  /-- Only the last second of a minute can be a leap second. -/
  nanos : t.nanos < 10 ^ 9 ∨ t.nanos < 2 * 10 ^ 9 ∧ t.second % 60 = 59

/-! ### Numbers of a fixed width -/

lemma isDigit_of_mem_padded (h : c ∈ padded width n) : c.isDigit = true := by
  rcases List.mem_append.1 h with h | h
  · obtain ⟨-, rfl⟩ := List.mem_replicate.1 h
    decide
  · exact isDigit_of_mem_ofNat h

lemma length_padded (hwidth : 0 < width) (h : n < 10 ^ width) :
    (padded width n).length = width := by
  have hlength := length_ofNat_le hwidth h
  simp only [padded, List.length_append, List.length_replicate]
  omega

lemma ofDigitChars_padded (width n : Nat) : Nat.ofDigitChars 10 (padded width n) 0 = n := by
  rw [padded, Nat.ofDigitChars_append, Nat.ofDigitChars_replicate_zero, Nat.mul_zero,
    ofDigitChars_ofNat]

lemma padded_ne_nil (width n : Nat) : padded width n ≠ [] := by
  intro h
  exact ofNat_ne_nil n (List.append_eq_nil_iff.1 h).2

/-- A number of a fixed width begins with a digit. -/
lemma exists_padded_eq_cons (width n : Nat) :
    ∃ c ds, padded width n = c :: ds ∧ c.isDigit = true := by
  obtain ⟨c, ds, hds⟩ := List.exists_cons_of_ne_nil (padded_ne_nil width n)
  exact ⟨c, ds, hds, isDigit_of_mem_padded (by rw [hds]; exact List.mem_cons_self)⟩

/-- A row of digits is read, if no more digits follow within the width. -/
lemma readNumber_append {ds : Text} (hne : ds ≠ []) (hds : ∀ c ∈ ds, c.isDigit = true)
    (hlength : ds.length ≤ width) (h : Stops Char.isDigit (r.take (width - ds.length))) :
    readNumber width (ds ++ r) = some (Nat.ofDigitChars 10 ds 0, r) := by
  have htake : ((ds ++ r).take width).takeWhile Char.isDigit = ds := by
    rw [List.take_append, List.take_of_length_le hlength]
    exact takeWhile_append hds h
  simp only [readNumber, htake, List.drop_left]
  simp [hne]

lemma readNumber_padded (hwidth : 0 < width) (h : n < 10 ^ width) (r : Text) :
    readNumber width (padded width n ++ r) = some (n, r) := by
  have hlength := length_padded hwidth h
  have hstops : Stops Char.isDigit (r.take (width - (padded width n).length)) := by
    rw [hlength, Nat.sub_self]
    exact stops_nil
  rw [readNumber_append (padded_ne_nil width n) (fun c hc => isDigit_of_mem_padded hc)
    (Nat.le_of_eq hlength) hstops, ofDigitChars_padded]

/-- A number that nothing but the end of its digits ends. -/
lemma readNumber_padded_all (h : Stops Char.isDigit r) :
    readNumber (padded width n ++ r).length (padded width n ++ r) = some (n, r) := by
  have hstops : Stops Char.isDigit
      (r.take ((padded width n ++ r).length - (padded width n).length)) := by
    rw [List.take_of_length_le (by simp)]
    exact h
  rw [readNumber_append (padded_ne_nil width n) (fun c hc => isDigit_of_mem_padded hc) (by simp)
    hstops, ofDigitChars_padded]

/-! ### The parts of a time stamp -/

lemma skipBlanks_of_stops (h : Stops isBlank r) : skipBlanks r = r := dropWhile_of_stops h

lemma stops_isBlank_padded (width n : Nat) (r : Text) : Stops isBlank (padded width n ++ r) := by
  obtain ⟨c, ds, hds, hc⟩ := exists_padded_eq_cons width n
  rw [hds]
  exact stops_cons (isBlank_of_isDigit hc)

/-- A number of two digits is read, if it lies within its bounds. -/
lemma readField_padded {low high : Nat} (hlow : low ≤ n) (hhigh : n ≤ high) (h : high < 100)
    (r : Text) : readField 2 low high (padded 2 n ++ r) = some (n, r) := by
  have hn : n < 10 ^ 2 := by omega
  simp [readField, skipBlanks_of_stops (stops_isBlank_padded 2 n r),
    readNumber_padded Nat.zero_lt_two hn, hlow, hhigh]

lemma readSeparator_cons (hc : isBlank c = false) (r : Text) :
    readSeparator c (c :: r) = some r := by
  rw [readSeparator, skipBlanks_of_stops (stops_cons hc)]
  exact if_pos rfl

/-- A year is read from its text, be it of four digits or of more, or with a minus sign. -/
lemma readYear_yearText (year : Int) (r : Text) :
    readYear (yearText year ++ '-' :: r) = some (year, '-' :: r) := by
  have hstops : Stops Char.isDigit ('-' :: r) := stops_cons (by decide)
  unfold yearText
  split
  · rename_i h
    have hnumber : readNumber 4 (padded 4 year.toNat ++ '-' :: r) = some (year.toNat, '-' :: r) :=
      readNumber_padded (by decide) (by omega) _
    have hyear : ((year.toNat : Nat) : Int) = year := Int.toNat_of_nonneg h.1
    rw [readYear, skipBlanks_of_stops (stops_isBlank_padded 4 year.toNat _)]
    obtain ⟨c, ds, hds, hdigit⟩ := exists_padded_eq_cons 4 year.toNat
    -- the first digit is no sign
    split
    · rename_i heq
      rw [hds, List.cons_append] at heq
      rw [(List.cons.inj heq).1] at hdigit
      exact absurd hdigit (by decide)
    · rename_i heq
      rw [hds, List.cons_append] at heq
      rw [(List.cons.inj heq).1] at hdigit
      exact absurd hdigit (by decide)
    · rw [hnumber, Option.map_some, hyear]
  · rename_i hrange
    split
    · rename_i h
      have hyear : -((year.natAbs : Nat) : Int) = year := by omega
      rw [List.cons_append, readYear, skipBlanks_of_stops (stops_cons (by decide))]
      simp only [readNumber_padded_all hstops, Option.map_some, hyear]
    · rename_i h
      have hyear : ((year.toNat : Nat) : Int) = year := by omega
      rw [List.cons_append, readYear, skipBlanks_of_stops (stops_cons (by decide))]
      simp only [readNumber_padded_all hstops, Option.map_some, hyear]

/-- A fraction of `k` digits is read to the nanosecond. -/
lemma readFraction_padded {k : Nat} (hk : 0 < k) (hk' : k ≤ 9) (h : n < 10 ^ k) :
    readFraction ('.' :: padded k n ++ ['Z']) = some (n * 10 ^ (9 - k), ['Z']) := by
  have hlength := length_padded hk h
  have hnumber : readNumber 9 (padded k n ++ ['Z']) = some (n, ['Z']) := by
    rw [readNumber_append (padded_ne_nil k n) (fun c hc => isDigit_of_mem_padded hc)
      (by omega), ofDigitChars_padded]
    cases 9 - (padded k n).length with
    | zero => exact stops_nil
    | succ m => exact stops_cons (by decide)
  have hrest : List.dropWhile Char.isDigit ['Z'] = ['Z'] := rfl
  simp [readFraction, hnumber, hlength, hrest]

/-- The digits that are left out of a fraction are zeros. -/
lemma readFraction_fractionText (h : n < 10 ^ 9) :
    readFraction (fractionText n ++ ['Z']) = some (n, ['Z']) := by
  have h6 : Nat.pow 10 6 = 10 ^ 6 := rfl
  have h3 : Nat.pow 10 3 = 10 ^ 3 := rfl
  unfold fractionText
  rw [h6, h3]
  split
  · rename_i hn
    rw [hn]
    rfl
  · split
    · rw [readFraction_padded (by decide) (by decide) (by omega)]
      congr 2
      omega
    · split
      · rw [readFraction_padded (by decide) (by decide) (by omega)]
        congr 2
        omega
      · rw [readFraction_padded (by decide) (by decide) h]
        congr 2
        omega

/-! ### The whole time stamp -/

/-- A local time at no offset is the instant itself. -/
lemma ofLocal_zero (h : t.second < 86400) : ofLocal t.day t.second t.nanos 0 = t := by
  rw [ofLocal]
  congr 1 <;> omega

/-- An instant is read from what is written for it. -/
theorem read_write (h : IsInstant t) : read t.write = some t := by
  obtain ⟨hyear, hsecond, hnanos⟩ := h
  obtain ⟨⟨hmonth, hmonth', hday, hday'⟩, hdayOf⟩ := dayOf_dateOf t.day
  have hwrite : t.write = yearText (dateOf t.day).1 ++ '-' :: (padded 2 (dateOf t.day).2.1 ++ '-' ::
      (padded 2 (dateOf t.day).2.2 ++ 'T' :: (padded 2 (t.second / 3600) ++ ':' ::
      (padded 2 (t.second / 60 % 60) ++ ':' :: (padded 2 (t.second % 60 + t.nanos / 10 ^ 9) ++
      (fractionText (t.nanos % 10 ^ 9) ++ ['Z'])))))) := by
    simp [write]
  have hdash : isBlank '-' = false := by decide
  have hcolon : isBlank ':' = false := by decide
  have hoffset : readOffset (skipBlanks ['Z']) = some (0, []) := rfl
  have hhour : t.second / 3600 ≤ 23 := by omega
  have hminute : t.second / 60 % 60 ≤ 59 := by omega
  have hsixty : t.second % 60 + t.nanos / 10 ^ 9 ≤ 60 := by omega
  have hless : t.nanos % 10 ^ 9 < 10 ^ 9 := Nat.mod_lt _ (by decide)
  have hleap : (t.second % 60 + t.nanos / 10 ^ 9) / 60 = t.nanos / 10 ^ 9 := by omega
  have hlocal : 3600 * (t.second / 3600) + 60 * (t.second / 60 % 60) +
      (t.second % 60 + t.nanos / 10 ^ 9 - t.nanos / 10 ^ 9) = t.second := by omega
  have hfraction : t.nanos % 10 ^ 9 + t.nanos / 10 ^ 9 * Nat.pow 10 9 = t.nanos :=
    Nat.mod_add_div' t.nanos (10 ^ 9)
  rw [hwrite, read]
  -- the parts are read one after the other, and then the bounds of the whole are looked at
  refine Option.bind_eq_some_iff.2 ⟨_, readYear_yearText _ _, ?_⟩
  refine Option.bind_eq_some_iff.2 ⟨_, readSeparator_cons hdash _, ?_⟩
  refine Option.bind_eq_some_iff.2 ⟨_, readField_padded hmonth hmonth' (by decide) _, ?_⟩
  refine Option.bind_eq_some_iff.2 ⟨_, readSeparator_cons hdash _, ?_⟩
  refine Option.bind_eq_some_iff.2
    ⟨_, readField_padded hday (Nat.le_trans hday' (daysIn_le _ _)) (by decide) _, ?_⟩
  refine Option.bind_eq_some_iff.2 ⟨_, rfl, ?_⟩
  refine Option.bind_eq_some_iff.2 ⟨_, readField_padded (Nat.zero_le _) hhour (by decide) _, ?_⟩
  refine Option.bind_eq_some_iff.2 ⟨_, readSeparator_cons hcolon _, ?_⟩
  refine Option.bind_eq_some_iff.2 ⟨_, readField_padded (Nat.zero_le _) hminute (by decide) _, ?_⟩
  refine Option.bind_eq_some_iff.2 ⟨_, readSeparator_cons hcolon _, ?_⟩
  refine Option.bind_eq_some_iff.2 ⟨_, readField_padded (Nat.zero_le _) hsixty (by decide) _, ?_⟩
  refine Option.bind_eq_some_iff.2 ⟨_, readFraction_fractionText hless, ?_⟩
  refine Option.bind_eq_some_iff.2 ⟨_, hoffset, ?_⟩
  refine Option.bind_eq_some_iff.2 ⟨(), (Option.guard_eq_some' ()).2 rfl, ?_⟩
  refine Option.bind_eq_some_iff.2
    ⟨(), (Option.guard_eq_some' ()).2 ⟨hyear, hday', by decide⟩, ?_⟩
  simp only [hleap, hlocal, hfraction, hdayOf]
  rw [ofLocal_zero hsecond]
  exact Option.bind_eq_some_iff.2 ⟨(), (Option.guard_eq_some' ()).2 hyear, rfl⟩

/-! ### What is read -/

/-- A number that is read has no more digits than may be taken. -/
lemma readNumber_bounds {s : Text} (h : readNumber width s = some (n, r)) :
    ∃ k ≤ width, s.length = k + r.length ∧ n < 10 ^ k := by
  simp only [readNumber] at h
  split at h
  · exact absurd h (by simp)
  · obtain ⟨rfl, rfl⟩ := Prod.mk.inj (Option.some.inj h)
    have hprefix := (List.takeWhile_prefix Char.isDigit (l := s.take width)).length_le
    rw [List.length_take] at hprefix
    refine ⟨((s.take width).takeWhile Char.isDigit).length, by omega, ?_,
      ofDigitChars_lt (List.all_eq_true.1 List.all_takeWhile)⟩
    rw [List.length_drop]
    omega

/-- A fraction is less than a second. -/
lemma readFraction_lt {s : Text} (h : readFraction s = some (n, r)) : n < 10 ^ 9 := by
  unfold readFraction at h
  split at h
  · rename_i s
    obtain ⟨⟨m, rest⟩, hread, hn⟩ := Option.bind_eq_some_iff.1 h
    obtain ⟨rfl, -⟩ := Prod.mk.inj (Option.some.inj hn)
    obtain ⟨k, hk, hlength, hm⟩ := readNumber_bounds hread
    have hwidth : s.length - rest.length = k := by omega
    have hsplit : 10 ^ 9 = 10 ^ k * 10 ^ (9 - k) := by rw [← Nat.pow_add, Nat.add_sub_cancel' hk]
    rw [hwidth, hsplit]
    exact Nat.mul_lt_mul_of_pos_right hm (Nat.pow_pos (by decide))
  · obtain ⟨rfl, -⟩ := Prod.mk.inj (Option.some.inj h)
    decide

lemma minutes_emod (sign : Int) (hour minute : Nat) :
    sign * (3600 * hour + 60 * minute : Nat) % 60 = 0 := by
  have hminutes : 3600 * hour + 60 * minute = 60 * (60 * hour + minute) := by omega
  rw [hminutes, Int.natCast_mul, Int.mul_left_comm]
  exact Int.mul_emod_right _ _

/-- An offset is a number of minutes. -/
lemma readOffset_minutes {s : Text} {offset : Int} (h : readOffset s = some (offset, r)) :
    offset % 60 = 0 := by
  unfold readOffset at h
  dsimp only at h
  split at h
  case h_1 | h_2 =>
    obtain ⟨rfl, -⟩ := Prod.mk.inj (Option.some.inj h)
    rfl
  case h_3 | h_4 | h_5 =>
    -- a sign, with hours and minutes behind it
    obtain ⟨⟨hour, _⟩, -, h⟩ := Option.bind_eq_some_iff.1 h
    obtain ⟨⟨minute, _⟩, -, h⟩ := Option.bind_eq_some_iff.1 h
    dsimp only at h
    split at h
    · obtain ⟨rfl, -⟩ := Prod.mk.inj (Option.some.inj h)
      exact minutes_emod _ hour minute
    · exact absurd h (by simp)
  case h_6 =>
    split at h
    · obtain ⟨rfl, -⟩ := Prod.mk.inj (Option.some.inj h)
      rfl
    · exact absurd h (by simp)
  case h_7 => exact absurd h (by simp)

lemma le_of_readField {low high : Nat} {s : Text} (h : readField width low high s = some (n, r)) :
    n ≤ high := by
  obtain ⟨⟨m, rest⟩, -, h⟩ := Option.bind_eq_some_iff.1 h
  dsimp only at h
  split at h
  · rename_i hbounds
    obtain ⟨rfl, -⟩ := Prod.mk.inj (Option.some.inj h)
    exact hbounds.2
  · exact absurd h (by simp)

/-- A local time whose seconds go up to sixty is an instant, at any offset of whole minutes. -/
lemma isInstant_ofLocal {day offset : Int} {hour minute second nanos : Nat} (hsecond : second ≤ 60)
    (hnanos : nanos < 10 ^ 9) (hoffset : offset % 60 = 0)
    (hyear : isYear (dateOf (ofLocal day (3600 * hour + 60 * minute + (second - second / 60))
      (nanos + second / 60 * Nat.pow 10 9) offset).day).1 = true) :
    IsInstant (ofLocal day (3600 * hour + 60 * minute + (second - second / 60))
      (nanos + second / 60 * Nat.pow 10 9) offset) := by
  refine ⟨hyear, ?_, ?_⟩
  · simp only [ofLocal]
    omega
  · have hpow : Nat.pow 10 9 = 10 ^ 9 := rfl
    simp only [ofLocal, hpow]
    by_cases hleap : second = 60
    · -- the second sixty is the last second of its minute, with one second more of nanoseconds
      rw [hleap]
      omega
    · have hzero : second / 60 = 0 := by omega
      rw [hzero]
      omega

/-- What is read as a time stamp is an instant. -/
theorem isInstant_of_read {s : Text} (h : read s = some t) : IsInstant t := by
  rw [read] at h
  obtain ⟨⟨year, _⟩, -, h⟩ := Option.bind_eq_some_iff.1 h
  obtain ⟨_, -, h⟩ := Option.bind_eq_some_iff.1 h
  obtain ⟨⟨month, _⟩, -, h⟩ := Option.bind_eq_some_iff.1 h
  obtain ⟨_, -, h⟩ := Option.bind_eq_some_iff.1 h
  obtain ⟨⟨day, _⟩, -, h⟩ := Option.bind_eq_some_iff.1 h
  dsimp only at h
  -- which mark stands between the date and the time makes no difference
  split at h
  case h_4 =>
    obtain ⟨_, hmark, -⟩ := Option.bind_eq_some_iff.1 h
    exact absurd hmark (by simp)
  all_goals
    obtain ⟨_, -, h⟩ := Option.bind_eq_some_iff.1 h
    obtain ⟨⟨hour, _⟩, -, h⟩ := Option.bind_eq_some_iff.1 h
    obtain ⟨_, -, h⟩ := Option.bind_eq_some_iff.1 h
    obtain ⟨⟨minute, _⟩, -, h⟩ := Option.bind_eq_some_iff.1 h
    obtain ⟨_, -, h⟩ := Option.bind_eq_some_iff.1 h
    obtain ⟨⟨second, _⟩, hsecond, h⟩ := Option.bind_eq_some_iff.1 h
    obtain ⟨⟨nanos, _⟩, hnanos, h⟩ := Option.bind_eq_some_iff.1 h
    obtain ⟨⟨offset, _⟩, hoffset, h⟩ := Option.bind_eq_some_iff.1 h
    obtain ⟨_, -, h⟩ := Option.bind_eq_some_iff.1 h
    obtain ⟨_, -, h⟩ := Option.bind_eq_some_iff.1 h
    obtain ⟨_, hyear, h⟩ := Option.bind_eq_some_iff.1 h
    rw [← Option.some.inj h]
    exact isInstant_ofLocal (le_of_readField hsecond) (readFraction_lt hnanos)
      (readOffset_minutes hoffset) ((Option.guard_eq_some' _).1 hyear)

end Timestamp

end TemplateFill
