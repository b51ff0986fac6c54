import Mathlib.Data.List.DropRight
import TemplateFill.Text.Blank

/-!
# Cutting at the ends of lines

The lines of a sequence that is put together behind the end of a line are those of its two parts
(`Text.cutLines_append`), and a line that is ended comes back as it was put in, unless it ends with
a carriage return of its own (`Text.cutLines_line`).  So there is one way to put a sequence together
from lines (`Text.Lined`), and `Text.cutLines` finds it (`Text.cutLines_eq_iff`).

Every text is made of the lines that are *closed*, with their ends, and of the open line behind
them, which has no end yet (`Text.closedLines_append_openLine`).
-/

namespace TemplateFill

namespace Text

section CutLines

variable {α : Type} [DecidableEq α] {cr lf : α} {l r s : List α}

@[simp] lemma cutLines_nil : cutLines cr lf [] = [] := rfl

lemma cutLines_lf (r : List α) : cutLines cr lf (lf :: r) = [] :: cutLines cr lf r := by
  rw [cutLines, if_pos rfl]

lemma cutLines_cr (hne : cr ≠ lf) (r : List α) :
    cutLines cr lf (cr :: lf :: r) = [] :: cutLines cr lf r := by
  rw [cutLines, if_neg hne, if_pos ⟨rfl, rfl⟩, cutLines_lf]

/-- A character that ends no line is put in front of the first line. -/
lemma cutLines_cons {c : α} {ls : List (List α)} (hlf : c ≠ lf)
    (hcr : ¬(c = cr ∧ r.head? = some lf)) (h : cutLines cr lf r = l :: ls) :
    cutLines cr lf (c :: r) = (c :: l) :: ls := by
  rw [cutLines, if_neg hlf, if_neg hcr, h]

/-- The end of a line parts what is in front of it from what is behind it: what is in front is
at least one line, and it does not depend on what is behind. -/
lemma exists_cutLines (cr lf : α) (l : List α) :
    ∃ p ps, ∀ r, cutLines cr lf (l ++ lf :: r) = p :: ps ++ cutLines cr lf r := by
  induction l with
  | nil => exact ⟨[], [], fun r => cutLines_lf r⟩
  | cons c l ih =>
    obtain ⟨p, ps, hl⟩ := ih
    by_cases hlf : c = lf
    · refine ⟨[], p :: ps, fun r => ?_⟩
      rw [hlf, List.cons_append, cutLines_lf, hl]
      rfl
    · have hhead : ∀ r, (l ++ lf :: r).head? = (l ++ [lf]).head? := fun r => by cases l <;> rfl
      by_cases hcr : c = cr ∧ (l ++ [lf]).head? = some lf
      · refine ⟨p, ps, fun r => ?_⟩
        rw [List.cons_append, cutLines, if_neg hlf, hhead, if_pos hcr, hl]
      · refine ⟨c :: p, ps, fun r => ?_⟩
        rw [List.cons_append]
        exact cutLines_cons hlf (by rw [hhead]; exact hcr) (hl r)

/-- The lines behind the end of a line are those of what stands there. -/
theorem cutLines_append (l r : List α) :
    cutLines cr lf (l ++ lf :: r) = cutLines cr lf (l ++ [lf]) ++ cutLines cr lf r := by
  obtain ⟨p, ps, hl⟩ := exists_cutLines cr lf l
  rw [hl, hl [], cutLines_nil, List.append_nil]

/-- A line that is ended by a line feed. -/
theorem cutLines_line (hlf : lf ∉ l) (hcr : l.getLast? ≠ some cr) (r : List α) :
    cutLines cr lf (l ++ lf :: r) = l :: cutLines cr lf r := by
  induction l with
  | nil => exact cutLines_lf r
  | cons c l ih =>
    rw [List.mem_cons, not_or] at hlf
    refine cutLines_cons (Ne.symm hlf.1) ?_ (ih hlf.2 ?_)
    · rintro ⟨rfl, hhead⟩
      cases l with
      | nil => exact hcr rfl
      | cons d l => exact hlf.2 (by simp_all)
    · cases l with
      | nil => simp
      | cons d l => simpa using hcr

/-- A line that is ended by a carriage return and a line feed. -/
theorem cutLines_line_cr (hne : cr ≠ lf) (hlf : lf ∉ l) (r : List α) :
    cutLines cr lf (l ++ cr :: lf :: r) = l :: cutLines cr lf r := by
  induction l with
  | nil => exact cutLines_cr hne r
  | cons c l ih =>
    rw [List.mem_cons, not_or] at hlf
    refine cutLines_cons (Ne.symm hlf.1) ?_ (ih hlf.2)
    rintro ⟨-, hhead⟩
    cases l with
    | nil => exact hne (by simpa using hhead)
    | cons d l => exact hlf.2 (by simp_all)

/-- A last line without an end. -/
lemma cutLines_open (hlf : lf ∉ l) (hne : l ≠ []) : cutLines cr lf l = [l] := by
  induction l with
  | nil => exact absurd rfl hne
  | cons c l ih =>
    rw [List.mem_cons, not_or] at hlf
    cases l with
    | nil => simp [cutLines, Ne.symm hlf.1]
    | cons d l =>
      refine cutLines_cons (Ne.symm hlf.1) ?_ (ih hlf.2 (by simp))
      rintro ⟨-, hhead⟩
      exact hlf.2 (by simp_all)

/-- A sequence that is put together from lines, each with its end, and at last perhaps from a line
that has none. -/
inductive Lined (cr lf : α) : List α → List (List α) → Prop
  | nil : Lined cr lf [] []
  /-- A last line without an end may well end with a carriage return. -/
  | last {l : List α} (hlf : lf ∉ l) (hne : l ≠ []) : Lined cr lf l [l]
  | line {l r : List α} {ls : List (List α)} (hlf : lf ∉ l) (hcr : l.getLast? ≠ some cr)
      (h : Lined cr lf r ls) : Lined cr lf (l ++ lf :: r) (l :: ls)
  | lineCr {l r : List α} {ls : List (List α)} (hlf : lf ∉ l) (h : Lined cr lf r ls) :
      Lined cr lf (l ++ cr :: lf :: r) (l :: ls)

lemma Lined.cutLines_eq {ls : List (List α)} (hne : cr ≠ lf) (h : Lined cr lf s ls) :
    cutLines cr lf s = ls := by
  induction h with
  | nil => rfl
  | last hlf hl => exact cutLines_open hlf hl
  | line hlf hcr h ih => rw [cutLines_line hlf hcr, ih]
  | lineCr hlf h ih => rw [cutLines_line_cr hne hlf, ih]

/-- Every sequence is put together from lines. -/
lemma exists_lined (cr lf : α) (s : List α) : ∃ ls, Lined cr lf s ls := by
  by_cases hmem : lf ∈ s
  · obtain ⟨l, r, hs, hlf⟩ := List.eq_append_cons_of_mem hmem
    have hlt : r.length < s.length := by
      rw [hs, List.length_append, List.length_cons]
      omega
    obtain ⟨ls, hr⟩ := exists_lined cr lf r
    rw [hs]
    by_cases hcr : l.getLast? = some cr
    · -- the carriage return belongs to the end of the line
      obtain ⟨l, rfl⟩ := List.getLast?_eq_some_iff.1 hcr
      rw [List.append_assoc]
      exact ⟨l :: ls, .lineCr (fun h => hlf (List.mem_append_left _ h)) hr⟩
    · exact ⟨l :: ls, .line hlf hcr hr⟩
  · by_cases hne : s = []
    · rw [hne]
      exact ⟨[], .nil⟩
    · exact ⟨[s], .last hmem hne⟩
termination_by s.length

/-- The lines of a sequence are those from which it is put together. -/
theorem cutLines_eq_iff {ls : List (List α)} (hne : cr ≠ lf) :
    cutLines cr lf s = ls ↔ Lined cr lf s ls := by
  refine ⟨fun h => ?_, fun h => h.cutLines_eq hne⟩
  obtain ⟨ls', hls⟩ := exists_lined cr lf s
  rw [← h, hls.cutLines_eq hne]
  exact hls

end CutLines

/-! ### The open line of a text -/

/-- The open line of a text: what stands behind the last line feed. -/
def openLine (s : Text) : Text := s.rtakeWhile (· ≠ '\n')

/-- The closed lines of a text, with their ends. -/
def closedLines (s : Text) : Text := s.rdropWhile (· ≠ '\n')

lemma closedLines_append_openLine (s : Text) : closedLines s ++ openLine s = s := by
  rw [closedLines, openLine, List.rdropWhile, List.rtakeWhile, ← List.reverse_append,
    List.takeWhile_append_dropWhile, List.reverse_reverse]

lemma lf_notMem_openLine (s : Text) : '\n' ∉ openLine s := by
  intro h
  simpa using List.mem_rtakeWhile_imp h

/-- What stands behind the closed lines of a text has lines of its own. -/
lemma lines_closedLines_append (s r : Text) :
    lines (closedLines s ++ r) = lines (closedLines s) ++ lines r := by
  rcases List.eq_nil_or_concat' (closedLines s) with h | ⟨l, c, h⟩
  · rw [h]
    rfl
  · have hlast : ∀ hne : closedLines s ≠ [], ¬((closedLines s).getLast hne ≠ '\n') :=
      fun hne hc => List.rdropWhile_last_not (· ≠ '\n') s hne (decide_eq_true hc)
    rw [h] at hlast
    obtain rfl : c = '\n' := by simpa using hlast
    rw [h, List.append_assoc]
    exact cutLines_append l r

end Text

end TemplateFill
