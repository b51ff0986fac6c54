import TemplateFill.Proofs.Template.Parameter
import TemplateFill.Proofs.Template.Render

/-!
# Rendering in stages

Rendering glues the texts that it puts in to the gaps around them, and what is glued could be read
as a new placeholder.  It is not, as long as no text that is put in holds a brace: the placeholders
of the rendered template are then those that were left as they are (`placeholders_replaced`).

The reason is in the gaps.  A placeholder that starts in a gap of the rendered text needs a body and
two closing braces behind its opening ones, and if these are there after rendering, they were there
before (`Placeholder.closes_of_replaced`): a closing brace is never put in, and where the rendered
text still has a placeholder, the body could have run up to the end of it.

So a rendered template can be rendered again with other values, and the first ones stay
(`render_staged`).
-/

namespace TemplateFill

open Placeholder

namespace Layout

variable {α : Type}

/-- The layout in which the matches that `f` has a text for are that text, as parts of the gaps. -/
def absorb (f : α → Option Text) (l : Layout α) : Layout α :=
  (l.matched.foldr (fun m rest =>
    match f m.1 with
    | some s => (rest.consText m.2).consText s
    | none => (rest.consText m.2).consMatch m.1) (ofGap [])).consText l.lead

variable {f : α → Option Text}

@[simp] lemma absorb_nil : (ofGap [] : Layout α).absorb f = ofGap [] := rfl

@[simp] lemma absorb_consGap (c : Char) (l : Layout α) :
    (l.consGap c).absorb f = (l.absorb f).consGap c := rfl

lemma absorb_consMatch_of_some {a : α} {s : Text} (h : f a = some s) (l : Layout α) :
    (l.consMatch a).absorb f = (l.absorb f).consText s := by
  simp only [absorb, consMatch, List.foldr_cons, h, consText_nil]

lemma absorb_consMatch_of_none {a : α} (h : f a = none) (l : Layout α) :
    (l.consMatch a).absorb f = (l.absorb f).consMatch a := by
  simp only [absorb, consMatch, List.foldr_cons, h, consText_nil]

/-- Filling what is left of the matches fills all of them. -/
lemma fill_absorb (g : α → Text) (l : Layout α) :
    (l.absorb f).fill g = l.fill fun a => (f a).getD (g a) := by
  induction l using consInduction with
  | nil => simp
  | gap c l ih => rw [absorb_consGap, fill_consGap, fill_consGap, ih]
  | item a l ih =>
    cases h : f a with
    | none => rw [absorb_consMatch_of_none h, fill_consMatch, fill_consMatch, ih, h, Option.getD_none]
    | some s => rw [absorb_consMatch_of_some h, fill_consText, fill_consMatch, ih, h, Option.getD_some]

lemma items_absorb (l : Layout α) : (l.absorb f).items = l.items.filter fun a => (f a).isNone := by
  induction l using consInduction with
  | nil => simp
  | gap c l ih => rw [absorb_consGap, items_consGap, items_consGap, ih]
  | item a l ih =>
    cases h : f a with
    | none => simp [absorb_consMatch_of_none h, ih, h]
    | some s => simp [absorb_consMatch_of_some h, ih, h]

end Layout

namespace Placeholder

/-! ### Braces in a text whose placeholders are replaced -/

section Replaced

variable {choices : Parameter → List Text} {template : Text}

lemma chosen?_ne_nil {body s : Text} (h : chosen? choices body = some s) : s ≠ [] := by
  obtain ⟨p, -, hfind⟩ := Option.bind_eq_some_iff.1 h
  simpa using List.find?_some hfind

/-- No text that is chosen for a placeholder of a template holds a brace. -/
def BraceFree (choices : Parameter → List Text) (template : Text) : Prop :=
  ∀ body ∈ (placeholders template).items, ∀ s, chosen? choices body = some s → '{' ∉ s ∧ '}' ∉ s

lemma BraceFree.of_gap {c : Char} (hread : read (c :: template) = none)
    (h : BraceFree choices (c :: template)) : BraceFree choices template := by
  rwa [BraceFree, placeholders_gap hread, Layout.items_consGap] at h

lemma BraceFree.of_item {body : Text} (hbody : IsBody body)
    (h : BraceFree choices (written body ++ template)) :
    (∀ s, chosen? choices body = some s → '{' ∉ s ∧ '}' ∉ s) ∧ BraceFree choices template := by
  rw [BraceFree, placeholders_written hbody.1 hbody.2, Layout.items_consMatch,
    List.forall_mem_cons] at h
  exact h

@[simp] lemma replaceAll_nil : replaceAll choices [] = [] := by
  simp [replaceAll]

lemma replaceAll_gap {c : Char} (h : read (c :: template) = none) :
    replaceAll choices (c :: template) = c :: replaceAll choices template := by
  rw [replaceAll, placeholders_gap h, Layout.fill_consGap, replaceAll]

lemma replaceAll_item {body : Text} (h : IsBody body) :
    replaceAll choices (written body ++ template) =
      replaced choices body ++ replaceAll choices template := by
  rw [replaceAll, placeholders_written h.1 h.2, Layout.fill_consMatch, replaceAll]

/-- A brace in front of the replaced text was in front before, in a gap or with a placeholder that
is left as it is. -/
lemma front_of_replaceAll (h : BraceFree choices template) {c : Char} {t : Text}
    (hc : c = '{' ∨ c = '}') (ht : replaceAll choices template = c :: t) :
    (∃ r, template = c :: r ∧ BraceFree choices r ∧ t = replaceAll choices r) ∨
      c = '{' ∧ ∃ body r, IsBody body ∧ template = written body ++ r := by
  cases template using placeholders_induction with
  | nil => exact absurd ht (by simp)
  | gap d r hread =>
    rw [replaceAll_gap hread] at ht
    obtain ⟨rfl, rfl⟩ := List.cons.inj ht
    exact Or.inl ⟨r, rfl, h.of_gap hread, rfl⟩
  | item body r hbody =>
    refine Or.inr ⟨?_, body, r, hbody, rfl⟩
    rw [replaceAll_item hbody, replaced] at ht
    cases hs : chosen? choices body with
    | none =>
      rw [hs] at ht
      exact (List.cons.inj ht).1.symm
    | some s =>
      -- a text that is put in is not empty, and starts with no brace
      obtain ⟨hopen, hclose⟩ := (h.of_item hbody).1 s hs
      obtain ⟨d, s, rfl⟩ := List.exists_cons_of_ne_nil (chosen?_ne_nil hs)
      rw [hs] at ht
      obtain rfl := (List.cons.inj ht).1
      rcases hc with rfl | rfl
      · exact absurd List.mem_cons_self hopen
      · exact absurd List.mem_cons_self hclose

/-- A closing brace in front of the replaced text was in front before, in a gap. -/
lemma front_of_replaceAll_close (h : BraceFree choices template) {t : Text}
    (ht : replaceAll choices template = '}' :: t) :
    ∃ r, template = '}' :: r ∧ BraceFree choices r ∧ t = replaceAll choices r := by
  rcases front_of_replaceAll h (Or.inr rfl) ht with hgap | ⟨hne, -⟩
  · exact hgap
  · exact absurd hne (by decide)

/-- A body that is closed in the replaced text was closed before. -/
lemma closes_of_replaced (h : BraceFree choices template)
    (hcloses : Closes (replaceAll choices template)) : Closes template := by
  -- by induction on what stands in front: a placeholder closes any body, and a gap character is
  -- either part of a longer body or the whole of it
  induction template using placeholders_induction with
  | nil =>
    obtain ⟨body, r, -, heq⟩ := hcloses
    exact absurd heq (by simp)
  | item body r hbody ih => exact closes_written hbody r
  | gap c r hread ih =>
    obtain ⟨body, q, ⟨hne, hclose⟩, heq⟩ := hcloses
    rw [replaceAll_gap hread] at heq
    obtain ⟨d, body, rfl⟩ := List.exists_cons_of_ne_nil hne
    obtain ⟨rfl, htail⟩ := List.cons.inj heq
    obtain ⟨hc, hbody⟩ := not_or.1 (mt List.mem_cons.2 hclose)
    have hr : BraceFree choices r := h.of_gap hread
    cases body with
    | cons d body =>
      have hrest : Closes (replaceAll choices r) := ⟨d :: body, q, ⟨by simp, hbody⟩, htail⟩
      exact (ih hr hrest).cons fun heq => hc heq.symm
    | nil =>
      -- both closing braces stand in the gap, so that they were there before
      obtain ⟨r', rfl, hr', htail'⟩ := front_of_replaceAll_close hr htail
      obtain ⟨r'', rfl, -, -⟩ := front_of_replaceAll_close hr' htail'.symm
      exact ⟨[c], r'', ⟨by simp, hclose⟩, rfl⟩

/-- Where no placeholder starts before, none starts in the replaced text. -/
lemma read_replaceAll {c : Char} (hread : read (c :: template) = none)
    (h : BraceFree choices template) : read (c :: replaceAll choices template) = none := by
  rw [read_eq_none_iff] at hread ⊢
  rintro t heq hcloses
  obtain ⟨rfl, ht⟩ := List.cons.inj heq
  rcases front_of_replaceAll h (Or.inl rfl) ht with ⟨r, rfl, hr, rfl⟩ | ⟨-, body, r, hbody, rfl⟩
  · exact hread r rfl (closes_of_replaced hr hcloses)
  · -- the brace would make a longer body of that of the placeholder behind it
    refine hread ('{' :: (body ++ '}' :: '}' :: r)) (by simp [written]) ?_
    exact Closes.cons ⟨body, r, hbody, rfl⟩ (by decide)

end Replaced

end Placeholder

/-- If no brace is put in, then the placeholders of the replaced text are those that are left. -/
theorem placeholders_replaced {choices : Parameter → List Text} {template : Text}
    (h : BraceFree choices template) :
    placeholders (replaceAll choices template) =
      (placeholders template).absorb (chosen? choices) := by
  induction template using placeholders_induction with
  | nil => simp
  | gap c r hread ih =>
    have hr : BraceFree choices r := h.of_gap hread
    rw [replaceAll_gap hread, placeholders_gap (read_replaceAll hread hr), ih hr,
      placeholders_gap hread, Layout.absorb_consGap]
  | item body r hbody ih =>
    obtain ⟨hchosen, hr⟩ := h.of_item hbody
    rw [replaceAll_item hbody, replaced, placeholders_written hbody.1 hbody.2]
    cases hs : chosen? choices body with
    | none =>
      rw [Option.getD_none, placeholders_written hbody.1 hbody.2, ih hr,
        Layout.absorb_consMatch_of_none hs]
    | some s =>
      rw [Option.getD_some, placeholders_append (hchosen s hs).1, ih hr,
        Layout.absorb_consMatch_of_some hs]

/-! ### Rendering what is rendered -/

section Stages

variable {template : Text} {V : Values}

/-- What values and defaults without braces put in holds no braces.  A default never holds a closing
one. -/
lemma braceFree_of_values
    (hvalue : ∀ q ∈ parameters template, '{' ∉ V.text q.name ∧ '}' ∉ V.text q.name)
    (hdefault : ∀ p ∈ declared template, '{' ∉ p.default) :
    BraceFree V.choices template := by
  intro body hbody s hs
  obtain ⟨p, hp, hfind⟩ := Option.bind_eq_some_iff.1 hs
  rcases List.mem_pair.1 (List.mem_of_find?_eq_some hfind) with rfl | rfl
  · obtain ⟨q, hq, hqp⟩ := exists_parameter_of_mem hbody hp
    rw [← hqp]
    exact hvalue q hq
  · refine ⟨hdefault p (List.mem_filterMap.2 ⟨body, hbody, hp⟩), fun hclose => ?_⟩
    rw [Parameter.eq_readBody_of_ofBody? hp] at hclose
    exact (recognises.isScan_layout template).isItem body hbody |>.2
      (Parameter.default_readBody_subset body hclose)

/-- What is left of the placeholders was left as it is. -/
lemma items_render (h : BraceFree V.choices template) :
    (placeholders (render template V)).items =
      (placeholders template).items.filter fun body => substitute V body = written body := by
  rw [render_eq, placeholders_replaced h, Layout.items_absorb]
  refine List.filter_congr fun body hbody => ?_
  rw [substitute_eq, replaced]
  cases hs : chosen? V.choices body with
  | none => simp
  | some s =>
    have hne : s ≠ written body := by
      rintro rfl
      exact (h body hbody _ hs).1 List.mem_cons_self
    simp [hne]

/-- The second rendering adds its values behind those of the first. -/
lemma render_render (h : BraceFree V.choices template) (W : Values) :
    render (render template V) W =
      replaceAll (fun p => V.choices p ++ W.choices p) template := by
  rw [render_eq template V, render, placeholders_replaced h, Layout.fill_absorb]
  refine Layout.fill_congr fun body _ => ?_
  rw [substitute_eq, getD_chosen?]

/-- A default that the first rendering has not put in is empty, so the second one need not try it. -/
lemma replaceAll_choices_append (V W : Values) (template : Text) :
    replaceAll (fun p => V.choices p ++ W.choices p) template =
      replaceAll (fun p => [V.text p.name, p.default, W.text p.name]) template := by
  refine Layout.fill_congr fun body _ => replaced_congr fun p _ => ?_
  change ([V.text p.name, p.default, W.text p.name] ++ [p.default]).find? _ = _
  rw [List.find?_append]
  cases hd : p.default with
  | nil => simp
  | cons c d => cases hv : V.text p.name <;> simp

lemma render_render_self (h : BraceFree V.choices template) :
    render (render template V) V = render template V := by
  rw [render_render h, render_eq]
  refine Layout.fill_congr fun body _ => replaced_congr fun p _ => ?_
  rw [List.find?_append, Option.or_self]

/-- Rendering in stages.  If no value of a parameter holds a brace, and no default an opening one,
then the placeholders of the rendered template are those that were left as they are, and rendering
it again uses the second values for these and for nothing else.  In particular, rendering again with
the same values changes nothing. -/
theorem render_staged
    (hvalue : ∀ q ∈ parameters template, '{' ∉ V.text q.name ∧ '}' ∉ V.text q.name)
    (hdefault : ∀ p ∈ declared template, '{' ∉ p.default) :
    (placeholders (render template V)).items =
        (placeholders template).items.filter (fun body => substitute V body = written body) ∧
      (∀ W : Values, render (render template V) W =
        (placeholders template).fill
          (replaced fun p => [V.text p.name, p.default, W.text p.name])) ∧
      render (render template V) V = render template V ∧
      render (render template .none) .none = render template .none := by
  have hbraces : BraceFree V.choices template :=
    braceFree_of_values hvalue hdefault
  have hnone : BraceFree Values.none.choices template :=
    braceFree_of_values (fun _ _ => ⟨List.not_mem_nil, List.not_mem_nil⟩) hdefault
  exact ⟨items_render hbraces,
    fun W => (render_render hbraces W).trans (replaceAll_choices_append V W template),
    render_render_self hbraces, render_render_self hnone⟩

/-- Loose braces stand around every placeholder, and a value of the second stage is itself written as
a placeholder, which is not read again. -/
theorem render_staged_seams :
    let template : Text := "{{}{{a}} {{x}{{b}}}} {{c:d}}"
    let V : Values := .ofList [("a", "1")]
    let W : Values := .ofList [("a", "2"), ("b", "{{a}}"), ("c", "3")]
    render template V = "{{}1 {{x}{{b}}}} d".toList ∧
      (placeholders (render template V)).items =
        (placeholders template).items.filter (fun body => substitute V body = written body) ∧
      render (render template V) W = "{{}1 {{x}{{a}}}} d".toList ∧
      render (render template V) V = render template V := by
  intro template V W
  have hparameters : parameters template =
      [.free "a" [], .free "b" [], .free "c" "d"] := by
    decide +kernel
  have hdeclared : declared template = [.free "a" [], .free "b" [], .free "c" "d"] := by
    decide +kernel
  have hvalue : ∀ q ∈ parameters template, '{' ∉ V.text q.name ∧ '}' ∉ V.text q.name := by
    rw [hparameters]
    decide +kernel
  have hdefault : ∀ p ∈ declared template, '{' ∉ p.default := by
    rw [hdeclared]
    decide +kernel
  obtain ⟨hitems, hrender, hself, -⟩ := render_staged hvalue hdefault
  refine ⟨by decide +kernel, hitems, ?_, hself⟩
  rw [hrender]
  decide +kernel

end Stages

end TemplateFill
