import TemplateFill.Proofs.Template.Render

/-!
# Templates that are put together

A template is put behind another one.  A placeholder of both could come about at the seam, from
opening braces at the end of the first and a body in the second.  That is all that can happen: where
opening braces stand in front of a placeholder of the first template, the closing braces of this one
decide what is read from them, whatever is put behind (`Placeholder.Closes.of_append`).  So if the
first template leaves no braces open behind its last placeholder (`EndsClosed`), then its scan goes
on with that of the second (`placeholders_append_of_endsClosed`).

What is rendered and what is declared follows from the scan (`template_append`).
-/

namespace TemplateFill

open Placeholder

/-- No opening braces are left over at the end of a template, behind its last placeholder. -/
structure EndsClosed (template : Text) : Prop where
  no_braces : ¬['{', '{'] <:+: (placeholders template).lastGap
  no_brace_last : (placeholders template).lastGap.getLast? ≠ some '{'

section Seam

variable {c : Char} {a b s body : Text}

lemma placeholders_eq_ofGap (h : (placeholders s).items = []) : placeholders s = .ofGap s :=
  recognises.layout_eq_ofGap h

/-- A template without placeholders is its last gap. -/
lemma endsClosed_iff (h : (placeholders s).items = []) :
    EndsClosed s ↔ ¬['{', '{'] <:+: s ∧ s.getLast? ≠ some '{' := by
  have hgap : (placeholders s).lastGap = s := by
    rw [placeholders_eq_ofGap h]
    rfl
  constructor
  · rintro ⟨hbraces, hlast⟩
    rw [hgap] at hbraces hlast
    exact ⟨hbraces, hlast⟩
  · rintro ⟨hbraces, hlast⟩
    rw [← hgap] at hbraces hlast
    exact ⟨hbraces, hlast⟩

/-- A placeholder has two closing braces. -/
lemma two_le_count_close (h : (placeholders s).items ≠ []) : 2 ≤ s.count '}' := by
  induction s using placeholders_induction with
  | nil => exact absurd (by simp) h
  | gap c s hread ih =>
    rw [placeholders_gap hread] at h
    have hcount : s.count '}' ≤ (c :: s).count '}' := List.count_le_count_cons
    have htail := ih h
    omega
  | item body s hbody ih =>
    have hinfix : ['}', '}'] <:+: written body ++ s := ⟨'{' :: '{' :: body, s, by simp [written]⟩
    exact hinfix.sublist.count_le '}'

lemma items_gap (hread : read (c :: a) = none) :
    (placeholders (c :: a)).items = (placeholders a).items := by
  rw [placeholders_gap hread, Layout.items_consGap]

lemma EndsClosed.of_gap (hread : read (c :: a) = none) (h : EndsClosed (c :: a)) :
    EndsClosed a := by
  by_cases hitems : (placeholders a).items = []
  · obtain ⟨hbraces, hlast⟩ := (endsClosed_iff ((items_gap hread).trans hitems)).1 h
    refine (endsClosed_iff hitems).2 ⟨fun hinfix => hbraces (List.infix_cons hinfix), ?_⟩
    intro hbrace
    rw [List.getLast?_cons, hbrace] at hlast
    exact hlast rfl
  · obtain ⟨hbraces, hlast⟩ := h
    rw [placeholders_gap hread, Layout.lastGap_consGap c hitems] at hbraces hlast
    exact ⟨hbraces, hlast⟩

lemma EndsClosed.of_item (hbody : IsBody body) (h : EndsClosed (written body ++ a)) :
    EndsClosed a := by
  obtain ⟨hbraces, hlast⟩ := h
  rw [placeholders_written hbody.1 hbody.2, Layout.lastGap_consMatch] at hbraces hlast
  exact ⟨hbraces, hlast⟩

/-- Where no placeholder starts in a template, none starts if more is put behind it. -/
lemma read_append (hread : read (c :: a) = none) (h : EndsClosed (c :: a)) (b : Text) :
    read (c :: (a ++ b)) = none := by
  rw [read_eq_none_iff]
  intro t ht hcloses
  obtain ⟨rfl, htail⟩ := List.cons.inj ht
  by_cases hitems : (placeholders a).items = []
  · -- all of the template is its last gap
    obtain ⟨hbraces, hlast⟩ := (endsClosed_iff ((items_gap hread).trans hitems)).1 h
    cases a with
    | nil => exact hlast rfl
    | cons x a =>
      obtain rfl := (List.cons.inj htail).1
      exact hbraces ⟨[], a, rfl⟩
  · have hcount := two_le_count_close hitems
    cases a with
    | nil => exact hitems (by simp)
    | cons x a =>
      obtain ⟨rfl, rfl⟩ := List.cons.inj htail
      rw [List.count_cons_of_ne (by decide)] at hcount
      exact read_eq_none_iff.1 hread a rfl (hcloses.of_append hcount)

/-- The placeholders of two templates, one behind the other, are those of the one and then those of
the other. -/
theorem placeholders_append_of_endsClosed (h : EndsClosed a) (b : Text) :
    placeholders (a ++ b) = (placeholders a).append (placeholders b) := by
  induction a using placeholders_induction with
  | nil => simp
  | gap c a hread ih =>
    rw [List.cons_append, placeholders_gap (read_append hread h b), ih (h.of_gap hread),
      placeholders_gap hread, Layout.append_consGap]
  | item body a hbody ih =>
    rw [List.append_assoc, placeholders_written hbody.1 hbody.2, ih (h.of_item hbody),
      placeholders_written hbody.1 hbody.2, Layout.append_consMatch]

end Seam

/-- Two templates are put together, and the first one leaves no opening braces behind its last
placeholder.

The scan goes through the first template and then through the second.  What is rendered is what is
rendered of each of them.  The parameters are those of the first, each with the default that the
second has for its name, if there is one, and then those of the second that are new. -/
theorem template_append {a : Text} (h : EndsClosed a) (b : Text) :
    placeholders (a ++ b) = (placeholders a).append (placeholders b) ∧
      (placeholders (a ++ b)).items = (placeholders a).items ++ (placeholders b).items ∧
      (∀ values, render (a ++ b) values = render a values ++ render b values) ∧
      parameters (a ++ b) = (parameters a).map (·.overriddenBy (parameters b)) ++
        (parameters b).filter fun q => q.name ∉ (parameters a).map Parameter.name := by
  have hscan := placeholders_append_of_endsClosed h b
  have hitems :
      (placeholders (a ++ b)).items = (placeholders a).items ++ (placeholders b).items := by
    rw [hscan, Layout.items_append]
  refine ⟨hscan, hitems, fun values => ?_, ?_⟩
  · rw [render, hscan, Layout.fill_append]
    rfl
  · have hdeclared : declared (a ++ b) = declared a ++ declared b := by
      rw [declared, hitems, List.filterMap_append]
      rfl
    rw [parameters, declarations, hdeclared]
    exact Declarations.parameters_append _ _

/-- Opening braces are left over in front of a placeholder of the first template, and at the seam
two closing ones come together.  Of the names in both templates, one gets another default from the
second, and one keeps its own. -/
theorem template_append_seam :
    let a : Text := "\x7b{a} {{n:1}} {{k|x|*y}}\x7d"
    let b : Text := "\x7d{{k!ls}} {{n:2}} {{m}}"
    EndsClosed a ∧
      (placeholders (a ++ b)).items =
        ["n:1".toList, "k|x|*y".toList, "k!ls".toList, "n:2".toList, "m".toList] ∧
      render (a ++ b) (Values.ofList [("n", "v")]) =
        "\x7b{a} v y\x7d\x7d{{k!ls}} v {{m}}".toList ∧
      parameters (a ++ b) =
        [.free "n" "2", ⟨"k", .choice, "y", ["x", "y"], []⟩, .free "m" []] := by
  intro a b
  have h : EndsClosed a := ⟨by decide +kernel, by decide +kernel⟩
  obtain ⟨-, hitems, hrender, hparameters⟩ := template_append h b
  rw [hitems, hrender, hparameters]
  exact ⟨h, by decide +kernel, by decide +kernel, by decide +kernel⟩

end TemplateFill
