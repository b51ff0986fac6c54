import Mathlib.Data.List.DropRight
import TemplateFill.Proofs.Text.Digits

/-!
# Blanks around a text

Every text is its trimmed form with blanks around it (`Text.exists_blanks`), and it is trimmed
already if it neither begins nor ends with a blank (`Text.trim_of_stops`).  So blanks at the ends of a
text do not count, one more or one less (`Text.trim_cons`, `Text.trim_concat`).
-/

namespace TemplateFill

namespace Text

variable {c : Char} {s : Text}

lemma trim_eq (s : Text) : trim s = (s.dropWhile isBlank).rdropWhile isBlank := rfl

/-- Nothing is left of a text of blanks, and of no other one. -/
lemma trim_eq_nil_iff : trim s = [] ↔ ∀ c ∈ s, isBlank c = true := by
  rw [trim_eq, List.rdropWhile_eq_nil_iff]
  constructor
  · intro h
    rw [← List.dropWhile_eq_nil_iff]
    by_contra hne
    exact List.dropWhile_get_zero_not isBlank s (List.length_pos_iff.2 hne) (h _ (List.getElem_mem _))
  · intro h
    rw [List.dropWhile_eq_nil_iff.2 h]
    simp

/-- A blank in front of a text is trimmed. -/
lemma trim_cons (h : isBlank c = true) (s : Text) : trim (c :: s) = trim s := by
  rw [trim_eq, trim_eq, List.dropWhile_cons_of_pos h]

/-- A blank behind a text is trimmed. -/
lemma trim_concat (h : isBlank c = true) (s : Text) : trim (s ++ [c]) = trim s := by
  rw [trim_eq, trim_eq, List.dropWhile_append]
  split
  · -- there is nothing but blanks
    rename_i hs
    rw [List.isEmpty_iff.1 hs, List.dropWhile_cons_of_pos h]
    rfl
  · exact List.rdropWhile_concat_pos isBlank _ c h

/-- A text that neither begins nor ends with a blank is not trimmed. -/
lemma trim_of_stops (h : Stops isBlank s) (hend : Stops isBlank s.reverse) : trim s = s := by
  rw [trim, trimEnd, dropWhile_of_stops h, dropWhile_of_stops hend, List.reverse_reverse]

/-- A text without blanks is not trimmed. -/
lemma trim_of_forall (h : ∀ c ∈ s, isBlank c = false) : trim s = s :=
  trim_of_stops (fun c hc => h c (List.mem_of_mem_head? hc))
    fun c hc => h c (List.mem_reverse.1 (List.mem_of_mem_head? hc))

/-- A text is its trimmed form with blanks around it. -/
lemma exists_blanks (s : Text) :
    ∃ front back : Text, (∀ c ∈ front, isBlank c = true) ∧ (∀ c ∈ back, isBlank c = true) ∧
      s = front ++ trim s ++ back := by
  refine ⟨s.takeWhile isBlank, (s.dropWhile isBlank).rtakeWhile isBlank,
    fun c => List.mem_takeWhile_imp, fun c => List.mem_rtakeWhile_imp, ?_⟩
  rw [trim_eq, List.append_assoc, List.rdropWhile_append_rtakeWhile,
    List.takeWhile_append_dropWhile]

lemma stops_dropWhile (s : Text) : Stops isBlank (s.dropWhile isBlank) := by
  intro c hc
  have hnot := List.head?_dropWhile_not isBlank s
  rw [hc] at hnot
  exact hnot

/-- What is trimmed does not begin with a blank. -/
lemma stops_trim (s : Text) : Stops isBlank (trim s) := by
  intro c hc
  obtain ⟨back, hback⟩ : trim s <+: s.dropWhile isBlank := List.rdropWhile_prefix isBlank _
  refine stops_dropWhile s c ?_
  rw [← hback, List.head?_append, hc]
  rfl

/-- What is trimmed does not end with a blank. -/
lemma stops_reverse_trim (s : Text) : Stops isBlank (trim s).reverse := by
  rw [trim, trimEnd, List.reverse_reverse]
  exact stops_dropWhile _

end Text

end TemplateFill
