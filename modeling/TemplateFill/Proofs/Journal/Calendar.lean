import Mathlib.Tactic.Common
import TemplateFill.Journal.Timestamp

/-!
# Days and dates

Every day has a date, and the day of that date is the day (`Timestamp.dayOf_dateOf`), in all years,
also those before the first.

The year of a day is guessed from the mean length of a year, which is never off by more than one
(`Timestamp.dateOf_year`), and the month is found by going through the months of the year
(`Timestamp.monthOf_spec`).
-/

namespace TemplateFill

namespace Timestamp

/-- A year has 365 days, or 366 with a leap day. -/
lemma daysBefore_succ (year : Int) :
    daysBefore (year + 1) = daysBefore year + if isLeap year then 366 else 365 := by
  by_cases h : isLeap year = true
  · have hdivides : year % 4 = 0 ∧ (year % 100 ≠ 0 ∨ year % 400 = 0) := by simpa [isLeap] using h
    rw [if_pos h, daysBefore, daysBefore]
    omega
  · have hdivides : ¬(year % 4 = 0 ∧ (year % 100 ≠ 0 ∨ year % 400 = 0)) := by
      simpa [isLeap] using h
    rw [if_neg h, daysBefore, daysBefore]
    omega

lemma daysBeforeMonth_succ (year : Int) {month : Nat} (h : 1 ≤ month) :
    daysBeforeMonth year (month + 1) = daysBeforeMonth year month + daysIn year month := by
  obtain ⟨m, rfl⟩ := Nat.exists_eq_add_of_le' h
  simp [daysBeforeMonth, List.range_succ]

lemma daysIn_le (year : Int) (month : Nat) : daysIn year month ≤ 31 := by
  unfold daysIn
  split
  case h_1 => split <;> decide
  all_goals decide

/-- The twelve months make up the year. -/
lemma daysBeforeMonth_end (year : Int) :
    daysBeforeMonth year 13 = if isLeap year then 366 else 365 := by
  cases h : isLeap year <;> simp [daysBeforeMonth, daysIn, List.range_succ, h]

/-- What holds of the month and the day of the month in a date. -/
structure IsDate (year : Int) (month day : Nat) : Prop where
  one_le_month : 1 ≤ month
  month_le : month ≤ 12
  one_le_day : 1 ≤ day
  day_le : day ≤ daysIn year month

/-- From a month on, `left` more months are gone through, and a day that lies within them is found
in its month. -/
lemma monthOf_spec (year : Int) {left month n : Nat} (hmonth : 1 ≤ month)
    (hn : daysBeforeMonth year month + n < daysBeforeMonth year (month + left + 1)) :
    let date := monthOf year month n left
    month ≤ date.1 ∧ date.1 ≤ month + left ∧ 1 ≤ date.2 ∧ date.2 ≤ daysIn year date.1 ∧
      daysBeforeMonth year date.1 + (date.2 - 1) = daysBeforeMonth year month + n := by
  induction left generalizing month n with
  | zero =>
    rw [Nat.add_zero, daysBeforeMonth_succ year hmonth] at hn
    simp only [monthOf]
    omega
  | succ left ih =>
    rw [monthOf]
    split
    · dsimp only
      omega
    · -- the day lies behind the month, and its months are counted from the next one
      have hnext := daysBeforeMonth_succ year hmonth
      have hlast : month + (left + 1) + 1 = month + 1 + left + 1 := by omega
      rw [hlast] at hn
      have hrest := @ih (month + 1) (n - daysIn year month) (by omega) (by omega)
      dsimp only at hrest ⊢
      omega

/-- The year of a day is the one that begins at it or before and ends behind it. -/
lemma dateOf_year (day : Int) :
    daysBefore (dateOf day).1 ≤ day + epoch ∧ day + epoch < daysBefore ((dateOf day).1 + 1) := by
  simp only [dateOf]
  generalize day + epoch = n
  split
  · rename_i h
    refine ⟨h, ?_⟩
    simp only [daysBefore] at *
    omega
  · split
    · rename_i hnext h
      exact ⟨h, by omega⟩
    · rename_i hnext h
      have hyear : n * 400 / 146097 - 1 + 1 = n * 400 / 146097 := by omega
      rw [hyear]
      refine ⟨?_, by omega⟩
      simp only [daysBefore] at *
      omega

/-- Every day has a date, and it is the day of this date. -/
theorem dayOf_dateOf (day : Int) :
    let date := dateOf day
    IsDate date.1 date.2.1 date.2.2 ∧ dayOf date.1 date.2.1 date.2.2 = day := by
  intro date
  obtain ⟨hlow, hhigh⟩ :
      daysBefore date.1 ≤ day + epoch ∧ day + epoch < daysBefore (date.1 + 1) := dateOf_year day
  have hmonth : date.2 = monthOf date.1 1 (day + epoch - daysBefore date.1).toNat 11 := rfl
  have hfirst : daysBeforeMonth date.1 1 = 0 := rfl
  have hwithin : daysBeforeMonth date.1 1 + (day + epoch - daysBefore date.1).toNat <
      daysBeforeMonth date.1 (1 + 11 + 1) := by
    rw [daysBefore_succ] at hhigh
    rw [daysBeforeMonth_end, hfirst]
    by_cases hleap : isLeap date.1 = true
    · rw [if_pos hleap] at hhigh ⊢
      omega
    · rw [if_neg hleap] at hhigh ⊢
      omega
  obtain ⟨h₁, h₂, h₃, h₄, h₅⟩ := monthOf_spec date.1 (Nat.le_refl 1) hwithin
  rw [← hmonth] at h₁ h₂ h₃ h₄ h₅
  refine ⟨⟨h₁, h₂, h₃, h₄⟩, ?_⟩
  rw [dayOf]
  omega

end Timestamp

end TemplateFill
