import TemplateFill.Proofs.Text.Layout

/-!
# Scans: layouts in which no gap hides a match

A text can be cut into gaps and matches in many ways.  A *scan* is a way that leaves nothing to be
found: no match starts inside a gap, not even one that would reach over what follows the gap.  If a
pattern reads exactly what is written for its items, then a text has one scan and no other, and it
is the layout that the pattern makes (`Pattern.Recognises.isScan_iff`).
-/

namespace TemplateFill

namespace Layout

variable {α : Type} {written : α → Text} {IsItem : α → Prop}

/-- The positions inside the gaps of a layout, counted in the text that `written` fills in. -/
inductive InGap (written : α → Text) : Layout α → Nat → Prop
  | lead {g : Text} {ms : List (α × Text)} {k : Nat} (h : k < g.length) : InGap written ⟨g, ms⟩ k
  | behind {g g' : Text} {a : α} {ms : List (α × Text)} {k : Nat} (h : InGap written ⟨g', ms⟩ k) :
      InGap written ⟨g, (a, g') :: ms⟩ (g.length + (written a).length + k)

/-- A layout of a text whose matches are written items and whose gaps hide none. -/
structure IsScan (written : α → Text) (IsItem : α → Prop) (s : Text) (l : Layout α) : Prop where
  /-- The gaps and the written matches are the text. -/
  fill_eq : l.fill written = s
  isItem : ∀ a ∈ l.items, IsItem a
  /-- No item is written from a position inside a gap. -/
  not_starts : ∀ k, l.InGap written k → ∀ a, IsItem a → ¬written a <+: s.drop k

/-! ### The positions in the gaps, from the front -/

lemma not_inGap_nil {k : Nat} : ¬(ofGap [] : Layout α).InGap written k := by
  intro h
  cases h with
  | lead h => exact absurd h (by simp)

lemma inGap_consGap {c : Char} {l : Layout α} {k : Nat} :
    (l.consGap c).InGap written k ↔ k = 0 ∨ ∃ j, l.InGap written j ∧ k = j + 1 := by
  obtain ⟨g, ms⟩ := l
  constructor
  · intro h
    cases h with
    | lead h =>
      cases k with
      | zero => exact Or.inl rfl
      | succ j => exact Or.inr ⟨j, .lead (by simpa using h), rfl⟩
    | @behind _ g' a ms k h =>
      refine Or.inr ⟨g.length + (written a).length + k, .behind h, ?_⟩
      simp only [List.length_cons]
      omega
  · rintro (rfl | ⟨j, h, rfl⟩)
    · exact .lead (by simp)
    · cases h with
      | lead h => exact .lead (by simpa using h)
      | @behind _ g' a ms k h =>
        have hpos : g.length + (written a).length + k + 1 =
            (c :: g).length + (written a).length + k := by
          simp only [List.length_cons]
          omega
        rw [hpos]
        exact .behind h

lemma inGap_consMatch {a : α} {l : Layout α} {k : Nat} :
    (l.consMatch a).InGap written k ↔ ∃ j, l.InGap written j ∧ k = (written a).length + j := by
  constructor
  · intro h
    cases h with
    | lead h => exact absurd h (by simp)
    | behind h => exact ⟨_, h, by simp⟩
  · rintro ⟨j, h, rfl⟩
    have hbehind : (l.consMatch a).InGap written (([] : Text).length + (written a).length + j) :=
      .behind h
    simpa using hbehind

/-! ### Scans, from the front -/

lemma isScan_nil : IsScan written IsItem [] (ofGap []) :=
  ⟨by simp, by simp, fun _ hk => absurd hk not_inGap_nil⟩

lemma isScan_consGap {c : Char} {l : Layout α} {s : Text} :
    IsScan written IsItem (c :: s) (l.consGap c) ↔
      (∀ a, IsItem a → ¬written a <+: c :: s) ∧ IsScan written IsItem s l := by
  constructor
  · intro h
    refine ⟨h.not_starts 0 (inGap_consGap.2 (Or.inl rfl)), ⟨?_, h.isItem, fun k hk => ?_⟩⟩
    · simpa using h.fill_eq
    · exact h.not_starts (k + 1) (inGap_consGap.2 (Or.inr ⟨k, hk, rfl⟩))
  · rintro ⟨hstart, h⟩
    refine ⟨by rw [fill_consGap, h.fill_eq], h.isItem, fun k hk => ?_⟩
    rcases inGap_consGap.1 hk with rfl | ⟨j, hj, rfl⟩
    · exact hstart
    · exact h.not_starts j hj

lemma isScan_consMatch {a : α} {l : Layout α} {s : Text} :
    IsScan written IsItem (written a ++ s) (l.consMatch a) ↔
      IsItem a ∧ IsScan written IsItem s l := by
  have hdrop : ∀ j, (written a ++ s).drop ((written a).length + j) = s.drop j := by
    intro j
    rw [← List.drop_drop, List.drop_left]
  constructor
  · intro h
    have hitems := List.forall_mem_cons.1 h.isItem
    refine ⟨hitems.1, ⟨?_, hitems.2, fun k hk => ?_⟩⟩
    · simpa using h.fill_eq
    · rw [← hdrop k]
      exact h.not_starts _ (inGap_consMatch.2 ⟨k, hk, rfl⟩)
  · rintro ⟨ha, h⟩
    refine ⟨by rw [fill_consMatch, h.fill_eq], List.forall_mem_cons.2 ⟨ha, h.isItem⟩, fun k hk => ?_⟩
    obtain ⟨j, hj, rfl⟩ := inGap_consMatch.1 hk
    rw [hdrop]
    exact h.not_starts j hj

end Layout

namespace Pattern

open Layout

variable {α : Type} {p : Pattern α} {written : α → Text} {IsItem : α → Prop}

/-- The pattern reads the items as they are written, and nothing else. -/
structure Recognises (p : Pattern α) (written : α → Text) (IsItem : α → Prop) : Prop where
  of_read : ∀ {s a r}, p.read s = some (a, r) → IsItem a ∧ s = written a ++ r
  read_written : ∀ {a}, IsItem a → ∀ r, p.read (written a ++ r) = some (a, r)

namespace Recognises

lemma read_eq_none_iff (h : p.Recognises written IsItem) {s : Text} :
    p.read s = none ↔ ∀ a, IsItem a → ¬written a <+: s := by
  constructor
  · rintro hnone a ha ⟨r, rfl⟩
    rw [h.read_written ha] at hnone
    exact absurd hnone (by simp)
  · intro hstart
    cases hread : p.read s with
    | none => rfl
    | some m =>
      obtain ⟨ha, hs⟩ := h.of_read hread
      exact absurd ⟨m.2, hs.symm⟩ (hstart m.1 ha)

/-- A text is read from the front, a gap character or a written item at a time. -/
theorem induction (h : p.Recognises written IsItem) {P : Text → Prop} (nil : P [])
    (gap : ∀ c s, p.read (c :: s) = none → P s → P (c :: s))
    (item : ∀ a s, IsItem a → P s → P (written a ++ s)) (s : Text) : P s := by
  induction s using Pattern.layout.induct p with
  | case1 => exact nil
  | case2 c r a rest hread _ ih =>
    obtain ⟨ha, hs⟩ := h.of_read hread
    rw [hs]
    exact item a rest ha ih
  | case3 c r hread ih => exact gap c r hread ih

/-- What the pattern makes of a text is a scan. -/
lemma isScan_layout (h : p.Recognises written IsItem) (s : Text) :
    IsScan written IsItem s (p.layout s) := by
  fun_induction p.layout s with
  | case1 => exact isScan_nil
  | case2 c r a rest hread _ ih =>
    obtain ⟨ha, hs⟩ := h.of_read hread
    rw [hs]
    exact isScan_consMatch.2 ⟨ha, ih⟩
  | case3 c r hread ih => exact isScan_consGap.2 ⟨h.read_eq_none_iff.1 hread, ih⟩

/-- There is no other scan. -/
lemma eq_layout (h : p.Recognises written IsItem) {s : Text} {l : Layout α}
    (hl : IsScan written IsItem s l) : l = p.layout s := by
  -- by induction on the scan: what it has in front decides what the pattern does there
  induction l using consInduction generalizing s with
  | nil =>
    have hs : s = [] := by simpa using hl.fill_eq.symm
    rw [hs, layout_nil]
  | gap c l ih =>
    obtain rfl : c :: l.fill written = s := by rw [← fill_consGap, hl.fill_eq]
    obtain ⟨hstart, htail⟩ := isScan_consGap.1 hl
    rw [layout_of_gap (h.read_eq_none_iff.2 hstart), ← ih htail]
  | item a l ih =>
    obtain rfl : written a ++ l.fill written = s := by rw [← fill_consMatch, hl.fill_eq]
    obtain ⟨ha, htail⟩ := isScan_consMatch.1 hl
    rw [layout_of_read (h.read_written ha _), ← ih htail]

/-- A text has one scan, which is the layout that the pattern makes. -/
theorem isScan_iff (h : p.Recognises written IsItem) {s : Text} {l : Layout α} :
    IsScan written IsItem s l ↔ l = p.layout s := by
  constructor
  · exact h.eq_layout
  · rintro rfl
    exact h.isScan_layout s

/-- A text without matches is one gap. -/
lemma layout_eq_ofGap (h : p.Recognises written IsItem) {s : Text} (hs : (p.layout s).items = []) :
    p.layout s = ofGap s := by
  have hgap := eq_ofGap hs
  have hfill := (h.isScan_layout s).fill_eq
  rw [hgap, fill_ofGap] at hfill
  rw [hgap, hfill]

/-- A text has no matches if and only if no item is written anywhere in it. -/
theorem items_eq_nil_iff (h : p.Recognises written IsItem) {s : Text} :
    (p.layout s).items = [] ↔ ∀ a, IsItem a → ¬written a <:+: s := by
  constructor
  · rintro hs a ha ⟨front, back, heq⟩
    have hscan := h.isScan_layout s
    rw [h.layout_eq_ofGap hs] at hscan
    have hprefix : written a <+: s.drop front.length := by
      rw [← heq, List.append_assoc, List.drop_left]
      exact List.prefix_append _ _
    -- what is written is not empty, so it begins inside the gap
    have hpos := p.read_shorter (h.read_written ha back)
    have hin : front.length < s.length := by
      rw [← heq]
      simp only [List.length_append] at hpos ⊢
      omega
    exact hscan.not_starts front.length (.lead hin) a ha hprefix
  · intro hnone
    have hscan : IsScan written IsItem s (ofGap s) := by
      refine ⟨fill_ofGap _ s, by simp, fun k _ a ha hprefix => hnone a ha ?_⟩
      exact hprefix.isInfix.trans (List.drop_suffix k s).isInfix
    rw [← h.isScan_iff.1 hscan, items_ofGap]

end Recognises

end Pattern

end TemplateFill
