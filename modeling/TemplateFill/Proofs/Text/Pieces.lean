import Mathlib.Tactic.Common
import TemplateFill.Text.Basic

/-!
# Texts cut at a character

A text in which a character occurs is cut at the first occurrence, into a front without the
character and a rest.  So what holds of the texts without the character, and of a front with a rest
of which it holds, holds of every text (`Text.cutInduction`).

The pieces of a text are parts of it without the character (`Text.of_mem_pieces`), and texts without
the character are the pieces of what they are put together to (`Text.pieces_join`).
-/

namespace TemplateFill

namespace Text

variable {c x : Char} {front s p : Text} {ps : List Text}

/-! ### One cut -/

lemma splitOnce_eq_none : splitOnce c s = none ↔ c ∉ s := by
  induction s with
  | nil => simp [splitOnce]
  | cons x s ih =>
    rw [splitOnce]
    split
    · rename_i h
      simp [h]
    · rename_i h
      rw [Option.map_eq_none_iff, ih, List.mem_cons, not_or]
      exact ⟨fun hs => ⟨fun hc => h hc.symm, hs⟩, fun hs => hs.2⟩

/-- A text without the character can be put in front of what is cut. -/
lemma splitOnce_append (h : c ∉ front) (s : Text) :
    splitOnce c (front ++ s) = (splitOnce c s).map fun p => (front ++ p.1, p.2) := by
  induction front with
  | nil => simp
  | cons x front ih =>
    obtain ⟨hx, hfront⟩ := not_or.1 (mt List.mem_cons.2 h)
    rw [List.cons_append, splitOnce, if_neg (fun hc => hx hc.symm), ih hfront, Option.map_map]
    rfl

/-- A text is cut in two at the first occurrence of a character. -/
lemma splitOnce_append_cons (h : c ∉ front) (s : Text) :
    splitOnce c (front ++ c :: s) = some (front, s) := by
  rw [splitOnce_append h, splitOnce, if_pos rfl]
  simp

lemma exists_splitOnce (h : c ∈ s) : ∃ a b, splitOnce c s = some (a, b) := by
  obtain ⟨front, rest, rfl, hfront⟩ := List.eq_append_cons_of_mem h
  exact ⟨front, rest, splitOnce_append_cons hfront rest⟩

lemma splitOnce_eq_some_iff {a b : Text} :
    splitOnce c s = some (a, b) ↔ s = a ++ c :: b ∧ c ∉ a := by
  constructor
  · intro h
    by_cases hmem : c ∈ s
    · obtain ⟨front, rest, rfl, hfront⟩ := List.eq_append_cons_of_mem hmem
      rw [splitOnce_append_cons hfront] at h
      obtain ⟨rfl, rfl⟩ := Prod.mk.inj (Option.some.inj h)
      exact ⟨rfl, hfront⟩
    · rw [splitOnce_eq_none.2 hmem] at h
      exact absurd h (by simp)
  · rintro ⟨rfl, h⟩
    exact splitOnce_append_cons h b

section Front

variable (h : c ∉ front) (s : Text)

include h

lemma forall_ne_of_notMem : ∀ x ∈ front, decide (x ≠ c) = true :=
  fun _ hx => decide_eq_true fun heq => h (heq ▸ hx)

/-- What stands in front of the first occurrence of a character. -/
lemma takeWhile_append_cons : (front ++ c :: s).takeWhile (· ≠ c) = front := by
  rw [List.takeWhile_append_of_pos (forall_ne_of_notMem h)]
  simp

lemma dropWhile_append_cons : (front ++ c :: s).dropWhile (· ≠ c) = c :: s := by
  rw [List.dropWhile_append_of_pos (forall_ne_of_notMem h)]
  simp

end Front

/-! ### All cuts -/

/-- A text is cut from the front, or there is nothing to cut. -/
@[elab_as_elim]
theorem cutInduction {P : Text → Prop} (c : Char) (whole : ∀ s, c ∉ s → P s)
    (cut : ∀ front s, c ∉ front → P s → P (front ++ c :: s)) (s : Text) : P s := by
  by_cases h : c ∈ s
  · obtain ⟨front, rest, hs, hfront⟩ := List.eq_append_cons_of_mem h
    have hlt : rest.length < s.length := by
      rw [hs, List.length_append, List.length_cons]
      omega
    rw [hs]
    exact cut front rest hfront (cutInduction c whole cut rest)
  · exact whole s h
termination_by s.length

lemma pieces_of_notMem (h : c ∉ s) : pieces c s = [s] := by
  induction s with
  | nil => rfl
  | cons x s ih =>
    obtain ⟨hx, hs⟩ := not_or.1 (mt List.mem_cons.2 h)
    rw [pieces, if_neg (Ne.symm hx), ih hs]

lemma pieces_append_cons (h : c ∉ front) (s : Text) :
    pieces c (front ++ c :: s) = front :: pieces c s := by
  induction front with
  | nil => rw [List.nil_append, pieces, if_pos rfl]
  | cons x front ih =>
    obtain ⟨hx, hfront⟩ := not_or.1 (mt List.mem_cons.2 h)
    rw [List.cons_append, pieces, if_neg (Ne.symm hx), ih hfront]

/-- The pieces on the two sides of any occurrence. -/
lemma pieces_append (a b : Text) : pieces c (a ++ c :: b) = pieces c a ++ pieces c b := by
  induction a using cutInduction c with
  | whole a ha =>
    rw [pieces_append_cons ha, pieces_of_notMem ha]
    rfl
  | cut front a hfront ih =>
    rw [List.append_assoc, List.cons_append, pieces_append_cons hfront, ih,
      pieces_append_cons hfront]
    rfl

/-- A piece is part of the text and does not hold the character. -/
lemma of_mem_pieces (h : p ∈ pieces c s) : p ⊆ s ∧ c ∉ p := by
  induction s using cutInduction c with
  | whole s hs =>
    rw [pieces_of_notMem hs, List.mem_singleton] at h
    subst h
    exact ⟨List.Subset.refl p, hs⟩
  | cut front s hfront ih =>
    rw [pieces_append_cons hfront] at h
    rcases List.mem_cons.1 h with rfl | h
    · exact ⟨List.subset_append_left .., hfront⟩
    · obtain ⟨hsub, hp⟩ := ih h
      exact ⟨fun x hx => List.mem_append_right _ (List.mem_cons_of_mem _ (hsub hx)), hp⟩

/-! ### Pieces that are put together -/

/-- Pieces are put together one behind the other, each but the first behind the separator. -/
lemma join_cons (sep p : Text) (ps : List Text) :
    join sep (p :: ps) = p ++ ps.flatMap (sep ++ ·) := by
  induction ps generalizing p with
  | nil => simp [join]
  | cons q ps ih => rw [join, ih, List.flatMap_cons, List.append_assoc, List.append_assoc]

lemma mem_join (h : x ∈ join [c] ps) : x = c ∨ ∃ p ∈ ps, x ∈ p := by
  cases ps with
  | nil => exact absurd h (by simp [join])
  | cons p ps =>
    rw [join_cons, List.mem_append, List.mem_flatMap] at h
    rcases h with h | ⟨q, hq, h⟩
    · exact Or.inr ⟨p, List.mem_cons_self, h⟩
    · exact (List.mem_cons.1 h).imp_right fun hx => ⟨q, List.mem_cons_of_mem _ hq, hx⟩

/-- Pieces without the separator are cut apart again. -/
lemma pieces_join (hne : ps ≠ []) (h : ∀ p ∈ ps, c ∉ p) : pieces c (join [c] ps) = ps := by
  induction ps with
  | nil => exact absurd rfl hne
  | cons p ps ih =>
    obtain ⟨hp, hps⟩ := List.forall_mem_cons.1 h
    cases ps with
    | nil => exact pieces_of_notMem hp
    | cons q ps =>
      have hjoin : join [c] (p :: q :: ps) = p ++ c :: join [c] (q :: ps) := by simp [join]
      rw [hjoin, pieces_append_cons hp, ih (by simp) hps]

end Text

end TemplateFill
