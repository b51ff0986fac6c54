import Mathlib.Tactic.Common
import TemplateFill.Text.Layout

/-!
# Layouts of texts, and texts of layouts

`Pattern.layout_of_read` and `Pattern.layout_of_gap` are the two steps by which a layout is made.
From them it follows that a layout takes nothing from the text and adds nothing to it
(`Pattern.fill_layout`), and that every match in it was read by the pattern
(`Pattern.of_mem_items`).  `Layout.mem_fill` says which characters a filled layout holds.

Every layout is made by the same two steps, gap characters and matches put in front of it
(`Layout.consInduction`).  What is filled in depends on the matches alone (`Layout.fill_congr`), and
a match that gets a longer text makes the whole text longer (`Layout.length_fill_lt`).
-/

namespace TemplateFill

namespace Layout

variable {α β : Type}

/-- The layout with another text in front of its first gap. -/
def consText (g : Text) (l : Layout α) : Layout α := { l with lead := g ++ l.lead }

/-- The layout with every match replaced, and every gap as it is. -/
def map (f : α → β) (l : Layout α) : Layout β := ⟨l.lead, l.matched.map fun m => (f m.1, m.2)⟩

@[simp] lemma items_ofGap (s : Text) : (ofGap s : Layout α).items = [] := rfl

@[simp] lemma items_consGap (c : Char) (l : Layout α) : (l.consGap c).items = l.items := rfl

@[simp] lemma items_consMatch (a : α) (l : Layout α) : (l.consMatch a).items = a :: l.items := rfl

@[simp] lemma items_consText (g : Text) (l : Layout α) : (l.consText g).items = l.items := rfl

@[simp] lemma consText_nil (l : Layout α) : l.consText [] = l := rfl

@[simp] lemma fill_consText (f : α → Text) (g : Text) (l : Layout α) :
    (l.consText g).fill f = g ++ l.fill f := by
  simp [consText, fill]

@[simp] lemma consText_cons (c : Char) (g : Text) (l : Layout α) :
    l.consText (c :: g) = (l.consText g).consGap c := rfl

@[simp] lemma items_map (f : α → β) (l : Layout α) : (l.map f).items = l.items.map f := by
  simp [map, items, Function.comp_def]

/-- A filled layout holds the characters of its gaps and those that are filled in. -/
lemma mem_fill {f : α → Text} {l : Layout α} {c : Char} :
    c ∈ l.fill f ↔ c ∈ l.lead ∨ ∃ m ∈ l.matched, c ∈ f m.1 ∨ c ∈ m.2 := by
  simp [fill]

/-- What is kept when a gap character or a match is put in front of a layout holds of every
layout. -/
@[elab_as_elim]
theorem consInduction {P : Layout α → Prop} (nil : P (ofGap []))
    (gap : ∀ c l, P l → P (l.consGap c)) (item : ∀ a l, P l → P (l.consMatch a)) (l : Layout α) :
    P l := by
  obtain ⟨lead, matched⟩ := l
  have hlead : ∀ (g : Text) (l : Layout α), P l → P (l.consText g) := by
    intro g l hl
    induction g with
    | nil => exact hl
    | cons c g ih => exact gap c _ ih
  have hmatched : P ⟨[], matched⟩ := by
    induction matched with
    | nil => exact nil
    | cons m matched ih => exact item m.1 _ (by simpa [consText] using hlead m.2 _ ih)
  simpa [consText] using hlead lead _ hmatched

/-- A layout with another one behind it, so that the last gap of the first and the first gap of the
second become one. -/
def append (l l' : Layout α) : Layout α :=
  (l.matched.foldr (fun m r => (r.consText m.2).consMatch m.1) l').consText l.lead

@[simp] lemma append_nil_left (l' : Layout α) : (ofGap []).append l' = l' := rfl

@[simp] lemma append_consGap (c : Char) (l l' : Layout α) :
    (l.consGap c).append l' = (l.append l').consGap c := rfl

@[simp] lemma append_consMatch (a : α) (l l' : Layout α) :
    (l.consMatch a).append l' = (l.append l').consMatch a := rfl

@[simp] lemma items_append (l l' : Layout α) : (l.append l').items = l.items ++ l'.items := by
  induction l using consInduction with
  | nil => simp
  | gap c l ih => simpa using ih
  | item a l ih => simpa using ih

@[simp] lemma fill_append (f : α → Text) (l l' : Layout α) :
    (l.append l').fill f = l.fill f ++ l'.fill f := by
  induction l using consInduction with
  | nil => simp
  | gap c l ih => simp [ih]
  | item a l ih => simp [ih]

/-- The gap behind the last match, or the only one. -/
def lastGap (l : Layout α) : Text := (l.matched.getLast?.map Prod.snd).getD l.lead

lemma lastGap_consMatch (a : α) (l : Layout α) : (l.consMatch a).lastGap = l.lastGap := by
  cases h : l.matched.getLast? <;> simp [lastGap, consMatch, List.getLast?_cons, h]

lemma lastGap_consGap (c : Char) {l : Layout α} (h : l.items ≠ []) :
    (l.consGap c).lastGap = l.lastGap := by
  have hmatched : l.matched ≠ [] := fun hnil => h (by rw [items, hnil]; rfl)
  simp [lastGap, consGap, List.getLast?_eq_some_getLast hmatched]

lemma eq_ofGap {l : Layout α} (h : l.items = []) : l = ofGap l.lastGap := by
  obtain ⟨lead, matched⟩ := l
  obtain rfl : matched = [] := List.map_eq_nil_iff.1 h
  rfl

lemma fill_congr {f g : α → Text} {l : Layout α} (h : ∀ a ∈ l.items, f a = g a) :
    l.fill f = l.fill g := by
  induction l using consInduction with
  | nil => simp
  | gap c l ih => rw [fill_consGap, fill_consGap, ih h]
  | item a l ih =>
    rw [items_consMatch, List.forall_mem_cons] at h
    obtain ⟨ha, hl⟩ := h
    rw [fill_consMatch, fill_consMatch, ha, ih hl]

lemma length_fill_le {f g : α → Text} {l : Layout α}
    (h : ∀ a ∈ l.items, (f a).length ≤ (g a).length) : (l.fill f).length ≤ (l.fill g).length := by
  induction l using consInduction with
  | nil => simp
  | gap c l ih => simpa using ih h
  | item a l ih =>
    rw [items_consMatch, List.forall_mem_cons] at h
    obtain ⟨ha, hl⟩ := h
    have htail := ih hl
    simp only [fill_consMatch, List.length_append]
    omega

/-- If no match gets a shorter text and one gets a longer one, then the whole text is longer. -/
lemma length_fill_lt {f g : α → Text} {l : Layout α}
    (h : ∀ a ∈ l.items, (f a).length ≤ (g a).length) {a : α} (ha : a ∈ l.items)
    (hlt : (f a).length < (g a).length) : (l.fill f).length < (l.fill g).length := by
  induction l using consInduction with
  | nil => exact absurd ha (by simp)
  | gap c l ih => simpa using ih h ha
  | item b l ih =>
    rw [items_consMatch, List.forall_mem_cons] at h
    obtain ⟨hb, hl⟩ := h
    simp only [fill_consMatch, List.length_append]
    rcases List.mem_cons.1 ha with rfl | hal
    · have htail := length_fill_le hl
      omega
    · have htail := ih hl hal
      omega

end Layout

namespace Pattern

variable {α : Type} {p : Pattern α}

lemma layout_nil (p : Pattern α) : p.layout [] = .ofGap [] := by
  rw [layout]

/-- Where the pattern reads a match, the layout has one. -/
lemma layout_of_read {s r : Text} {a : α} (h : p.read s = some (a, r)) :
    p.layout s = (p.layout r).consMatch a := by
  cases s with
  | nil => exact absurd (p.read_shorter h) (by simp)
  | cons c s =>
    rw [layout]
    split
    · rename_i b rest hb
      obtain ⟨rfl, rfl⟩ := Prod.mk.inj (Option.some.inj (h.symm.trans hb))
      rfl
    · rename_i hnone
      exact absurd (h.symm.trans hnone) (by simp)

/-- Where the pattern reads nothing, the layout has a gap. -/
lemma layout_of_gap {s : Text} {c : Char} (h : p.read (c :: s) = none) :
    p.layout (c :: s) = (p.layout s).consGap c := by
  rw [layout]
  split
  · rename_i hsome
    exact absurd (h.symm.trans hsome) (by simp)
  · rfl

/-- A text in which the pattern reads nothing, whatever follows, is a part of a gap. -/
lemma layout_append_of_gap {g : Text} (h : ∀ c ∈ g, ∀ s, p.read (c :: s) = none) (s : Text) :
    p.layout (g ++ s) = (p.layout s).consText g := by
  induction g with
  | nil => rfl
  | cons c g ih =>
    obtain ⟨hc, hg⟩ := List.forall_mem_cons.1 h
    rw [List.cons_append, Layout.consText_cons, ← ih hg]
    exact layout_of_gap (hc _)

/-- If every match is read from the text that `f` gives for it, then the layout of a text, filled
by `f`, is the text. -/
theorem fill_layout {f : α → Text} (hf : ∀ {s a r}, p.read s = some (a, r) → s = f a ++ r)
    (s : Text) : (p.layout s).fill f = s := by
  fun_induction p.layout s with
  | case1 => simp
  | case2 c r a rest h _ ih => rw [Layout.fill_consMatch, ih, hf h]
  | case3 c r h ih => rw [Layout.fill_consGap, ih]

/-- What holds of every match that the pattern reads holds of every match in a layout. -/
theorem of_mem_items {P : α → Prop} (hP : ∀ {s a r}, p.read s = some (a, r) → P a) {s : Text}
    {a : α} (ha : a ∈ (p.layout s).items) : P a := by
  fun_induction p.layout s with
  | case1 => simp at ha
  | case2 c r b rest h _ ih =>
    rcases List.mem_cons.1 ha with rfl | ha
    · exact hP h
    · exact ih ha
  | case3 c r h ih => exact ih ha

end Pattern

end TemplateFill
