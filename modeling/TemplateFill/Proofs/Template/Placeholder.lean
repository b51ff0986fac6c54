import TemplateFill.Proofs.Template.Parameter
import TemplateFill.Proofs.Text.Scan
import TemplateFill.Template.Placeholder

/-!
# Placeholders that are written are found

A placeholder that is written is read back, whatever stands behind it, and a text without an
opening brace is a gap.  So a text that is put together of such gaps and of placeholders is laid out
as it was put together (`placeholders_fill`).

The placeholders are read exactly as they are written (`Placeholder.recognises`), so that what is
found in a text is its one scan.
-/

namespace TemplateFill

open Layout

namespace Placeholder

/-- What is written is read back. -/
lemma read_written {body : Text} (hne : body ≠ []) (h : '}' ∉ body) (r : Text) :
    read (written body ++ r) = some (body, r) := by
  have htake := Text.takeWhile_append_cons h ('}' :: r)
  have hdrop := Text.dropWhile_append_cons h ('}' :: r)
  have hempty : body.isEmpty = false := by simpa using hne
  have hw : written body ++ r = '{' :: '{' :: (body ++ '}' :: '}' :: r) := by simp [written]
  simp only [hw, read, htake, hdrop, hempty, Bool.false_eq_true, if_false]

/-- What can stand between the braces of a placeholder. -/
def IsBody (body : Text) : Prop := body ≠ [] ∧ '}' ∉ body

/-- The pattern of placeholders reads a written body and nothing else. -/
lemma recognises : pattern.Recognises written IsBody where
  of_read h := ⟨(read_eq_some h).2, (read_eq_some h).1⟩
  read_written h r := read_written h.1 h.2 r

lemma read_cons_of_ne {c : Char} (h : c ≠ '{') (s : Text) : read (c :: s) = none := by
  unfold read
  split
  · rename_i heq
    exact absurd (List.cons.inj heq).1 h
  · rfl

/-! ### Bodies that are closed -/

/-- A body and two closing braces stand at the start of a text. -/
def Closes (s : Text) : Prop := ∃ body r, IsBody body ∧ s = body ++ '}' :: '}' :: r

lemma read_eq_none_iff {s : Text} : read s = none ↔ ∀ t, s = '{' :: '{' :: t → ¬Closes t := by
  have hiff : read s = none ↔ ∀ body, IsBody body → ¬written body <+: s :=
    recognises.read_eq_none_iff
  rw [hiff]
  constructor
  · rintro h t rfl ⟨body, r, hbody, rfl⟩
    exact h body hbody ⟨r, by simp [written]⟩
  · rintro h body hbody ⟨r, rfl⟩
    exact h (body ++ '}' :: '}' :: r) (by simp [written]) ⟨body, r, hbody, rfl⟩

lemma Closes.cons {s : Text} (h : Closes s) {c : Char} (hc : c ≠ '}') : Closes (c :: s) := by
  obtain ⟨body, r, ⟨-, hclose⟩, rfl⟩ := h
  refine ⟨c :: body, r, ⟨by simp, fun hm => ?_⟩, rfl⟩
  rcases List.mem_cons.1 hm with heq | hm
  · exact hc heq.symm
  · exact hclose hm

/-- The body may be that of a placeholder together with the opening braces. -/
lemma closes_written {body : Text} (h : IsBody body) (s : Text) : Closes (written body ++ s) := by
  refine ⟨'{' :: '{' :: body, s, ⟨by simp, ?_⟩, by simp [written]⟩
  simpa using h.2

/-- If a text has two closing braces, then what is put behind it closes no body. -/
lemma Closes.of_append {s t : Text} (h : Closes (s ++ t)) (hs : 2 ≤ s.count '}') : Closes s := by
  have hmem : '}' ∈ s := List.count_pos_iff.1 (by omega)
  obtain ⟨front, back, rfl, hfront⟩ := List.eq_append_cons_of_mem hmem
  obtain ⟨body, r, hbody, heq⟩ := h
  -- the first closing brace ends the body, and there is another one behind it in the text
  have hcut : some (front, back ++ t) = some (body, '}' :: r) := by
    rw [← Text.splitOnce_append_cons hfront, ← Text.splitOnce_append_cons hbody.2, ← heq]
    simp
  obtain ⟨rfl, hback⟩ := Prod.mk.inj (Option.some.inj hcut)
  cases back with
  | nil =>
    rw [List.count_append, List.count_eq_zero.2 hfront] at hs
    exact absurd hs (by simp)
  | cons c back =>
    obtain rfl := (List.cons.inj hback).1
    exact ⟨front, back, hbody, rfl⟩

end Placeholder

@[simp] lemma placeholders_nil : placeholders [] = .ofGap [] :=
  Pattern.layout_nil Placeholder.pattern

/-- A text without an opening brace is a gap. -/
lemma placeholders_append {g : Text} (h : '{' ∉ g) (s : Text) :
    placeholders (g ++ s) = (placeholders s).consText g := by
  refine Pattern.layout_append_of_gap (fun c hc s => ?_) s
  refine Placeholder.read_cons_of_ne ?_ s
  rintro rfl
  exact h hc

/-- A placeholder that is written is found. -/
lemma placeholders_written {body : Text} (hne : body ≠ []) (h : '}' ∉ body) (s : Text) :
    placeholders (Placeholder.written body ++ s) = (placeholders s).consMatch body :=
  Pattern.layout_of_read (Placeholder.read_written hne h s)

/-- Where no placeholder is read, there is a gap. -/
lemma placeholders_gap {c : Char} {s : Text} (h : Placeholder.read (c :: s) = none) :
    placeholders (c :: s) = (placeholders s).consGap c :=
  Pattern.layout_of_gap h

/-- A text is read from the front, a gap character or a written placeholder at a time. -/
@[elab_as_elim]
theorem placeholders_induction {P : Text → Prop} (nil : P [])
    (gap : ∀ c s, Placeholder.read (c :: s) = none → P s → P (c :: s))
    (item : ∀ body s, Placeholder.IsBody body → P s → P (Placeholder.written body ++ s))
    (s : Text) : P s :=
  Placeholder.recognises.induction nil gap item s

/-- The matches of a layout, replaced by placeholders, are what the placeholders of the text are. -/
theorem placeholders_fill {α : Type} {f : α → Text} {l : Layout α} (hlead : '{' ∉ l.lead)
    (hgap : ∀ m ∈ l.matched, '{' ∉ m.2) (hbody : ∀ a ∈ l.items, f a ≠ [] ∧ '}' ∉ f a) :
    placeholders (l.fill fun a => Placeholder.written (f a)) = l.map f := by
  obtain ⟨lead, matched⟩ := l
  -- by induction on the matches: what follows the first one is a layout with its gap in the lead
  induction matched generalizing lead with
  | nil =>
    have happend := placeholders_append hlead []
    simpa [fill, map, ofGap, consText] using happend
  | cons m matched ih =>
    obtain ⟨hne, hclose⟩ := hbody m.1 (by simp [items])
    have htail : placeholders ((Layout.mk m.2 matched).fill fun a => Placeholder.written (f a)) =
        (Layout.mk m.2 matched).map f :=
      ih m.2 (hgap m (by simp)) (fun m' hm' => hgap m' (by simp [hm']))
        (fun a ha => hbody a (List.mem_cons_of_mem _ ha))
    have hfill : (Layout.mk lead (m :: matched)).fill (fun a => Placeholder.written (f a)) =
        lead ++ (Placeholder.written (f m.1) ++
          (Layout.mk m.2 matched).fill fun a => Placeholder.written (f a)) := by
      simp [fill]
    rw [hfill, placeholders_append hlead, placeholders_written hne hclose, htail]
    simp [consText, consMatch, map]

end TemplateFill
