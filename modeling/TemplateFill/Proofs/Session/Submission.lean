import TemplateFill.Proofs.Session.Drive
import TemplateFill.Proofs.Session.Lifecycle
import TemplateFill.Proofs.Template.Parameter
import TemplateFill.Proofs.Template.Render

/-!
# What is submitted

A session submits its template, rendered with the values that its slots have at that moment.  No two
slots are of the same name, so that the value of a name is that of its slot
(`Session.text_valueOf`), and every placeholder of the name gets it, whatever else it says of the
name (`Session.substitute_of_slot`).

The value of a slot with a list of options is the one under its cursor, and no option is empty: the
template drops empty options, and commands are taken to print none.  So for such a slot it is always
an option that is submitted (`Session.submitted_selected`).
-/

namespace TemplateFill

open Placeholder

/-- No two parameters of a template are of the same name. -/
lemma nodup_names_parameters (template : Text) :
    ((parameters template).map Parameter.name).Nodup := by
  rw [parameters, declarations, Declarations.names_parameters]
  exact Parameter.nodup_names _

/-- No option that a template lists is empty. -/
lemma nil_notMem_options {template : Text} {p : Parameter} (h : p ∈ parameters template) :
    [] ∉ p.options := by
  obtain ⟨first, hfirst, -, hp⟩ := Declarations.exists_first_of_mem_parameters h
  obtain ⟨body, -, hbody⟩ := List.mem_filterMap.1 hfirst
  have hoptions : p.options = first.options := by rw [hp]
  rw [hoptions, Parameter.eq_readBody_of_ofBody? hbody]
  exact Parameter.nil_notMem_options_readBody body

namespace Session

variable {s : Session} {x : Slot}

/-! ### The values of the slots -/

lemma map_name_slots (s : Session) : s.slots.map Slot.name = s.parameters.map Parameter.name := by
  rw [parameters, List.map_map]
  rfl

lemma mem_values {name value : Text} :
    (name, value) ∈ s.values ↔ ∃ x ∈ s.slots, x.name = name ∧ x.value = value ∧ value ≠ [] := by
  simp only [values, List.mem_filterMap]
  constructor
  · rintro ⟨x, hx, h⟩
    split at h
    · exact absurd h (by simp)
    · rename_i hne
      obtain ⟨rfl, rfl⟩ := Prod.mk.inj (Option.some.inj h)
      exact ⟨x, hx, rfl, rfl, by simpa using hne⟩
  · rintro ⟨x, hx, rfl, rfl, hne⟩
    exact ⟨x, hx, if_neg (by simpa using hne)⟩

lemma nodup_values (h : (s.slots.map Slot.name).Nodup) : (s.values.map Prod.fst).Nodup := by
  refine List.Nodup.sublist ?_ h
  have hfst : s.values.map Prod.fst =
      (s.slots.filter fun x => !x.value.isEmpty).map Slot.name := by
    rw [values, List.map_filterMap, ← List.filterMap_eq_map, ← List.filterMap_eq_filter,
      List.filterMap_filterMap]
    refine List.filterMap_congr fun x _ => ?_
    cases hx : x.value.isEmpty <;> simp [Option.guard, hx]
  rw [hfst]
  exact List.filter_sublist.map _

lemma parameters_of_sameFrame {n : Nat} {template : Text} (h : SameFrame (start n template) s) :
    s.parameters = TemplateFill.parameters template :=
  h.parameters_eq.trans (parameters_withParameters n template _)

/-- No two slots of a session over a template are of the same name. -/
lemma nodup_names_slots {n : Nat} {template : Text} (h : SameFrame (start n template) s) :
    (s.slots.map Slot.name).Nodup := by
  rw [map_name_slots, parameters_of_sameFrame h]
  exact nodup_names_parameters template

/-- The value of a name is that of its slot. -/
lemma text_valueOf (h : (s.slots.map Slot.name).Nodup) (hx : x ∈ s.slots) :
    s.valueOf.text x.name = x.value := by
  have hnodup : (s.values.reverse.map Prod.fst).Nodup := by
    rw [List.map_reverse, List.nodup_reverse]
    exact nodup_values h
  have hiff : ∀ v, s.valueOf x.name = some v ↔ (x.name, v) ∈ s.values := by
    intro v
    rw [valueOf, Values.ofList_eq_some_iff hnodup, List.mem_reverse]
  have hunique : ∀ {v}, (x.name, v) ∈ s.values → v = x.value := by
    intro v hv
    obtain ⟨y, hy, hname, rfl, -⟩ := mem_values.1 hv
    rw [List.inj_on_of_nodup_map h hy hx hname]
  by_cases hne : x.value = []
  · rw [Values.text]
    cases hv : s.valueOf x.name with
    | none => exact hne.symm
    | some v => exact hunique ((hiff v).1 hv)
  · rw [Values.text, (hiff x.value).2 (mem_values.2 ⟨x, hx, rfl, rfl, hne⟩), Option.getD_some]

/-- A placeholder of the name of a slot becomes the value of the slot, or else its own default, or
else it stays. -/
lemma substitute_of_slot (h : (s.slots.map Slot.name).Nodup) (hx : x ∈ s.slots) {body : Text}
    {p : Parameter} (hp : Parameter.ofBody? body = some p) (hname : p.name = x.name) :
    substitute s.valueOf body =
      if x.value ≠ [] then x.value else if p.default ≠ [] then p.default else written body := by
  rw [substitute_eq, replaced, chosen?_of_some hp, Values.choices, hname, text_valueOf h hx]
  by_cases hv : x.value = []
  · by_cases hd : p.default = [] <;> simp [hv, hd]
  · simp [hv]

/-! ### What is submitted -/

lemma options_after_start {n : Nat} {template : Text} {es : List Event}
    (hprinted : ∀ m, Event.report m ∈ es → m.session = n → ∀ os, m.outcome = .options os → [] ∉ os)
    (hx : x ∈ ((start n template).final es).slots) {os : List Text} (hos : x.stage = .resolved os) :
    [] ∉ os := by
  obtain ⟨i, hi, rfl⟩ := List.mem_iff_getElem.1 hx
  have hget : ((start n template).final es).slots[i]? = some _ := List.getElem?_eq_getElem hi
  have hlt : i < (start n template).slots.length := by
    rw [← size, ← size_after (start n template)]
    exact hi
  obtain hstart | ⟨o, ho, m, hm, hid, hmos⟩ :=
    resolved_after (List.getElem?_eq_getElem hlt) hget hos
  · -- no parameter has options from a command at the start
    obtain ⟨p, -, hp⟩ := List.mem_map.1 (List.getElem_mem hlt)
    rw [← hp, Slot.ofParameter] at hstart
    split at hstart <;> exact absurd hstart (by simp)
  · obtain ⟨e, he, rfl⟩ := List.mem_map.1 ho
    cases e with
    | input u => exact absurd hm (by simp [Operation.message?])
    | report m' =>
      obtain rfl := Option.some.inj hm
      exact hprinted m' (taken_subset _ es he) hid os hmos

/-- What a session over a template submits is the template with its placeholders replaced, where the
session is in the state in which it is submitted.  A placeholder whose body spells no name stays.
Every other one is of the name of a slot, and it becomes the value of the slot if that is not empty,
and otherwise its own default or itself.

If the template lists options for the parameter of the slot, or if its command has printed some,
then the placeholder becomes the option under the cursor, whatever it says of the name. -/
theorem submitted_selected {n : Nat} {template : Text} {es : List Event} {command : Text}
    (hprinted : ∀ m, Event.report m ∈ es → m.session = n → ∀ os, m.outcome = .options os → [] ∉ os)
    (hsubmitted : ((start n template).run es).ending = .submitted command) :
    let s := (start n template).final es
    ∃ text : Text → Text,
      command = (placeholders template).fill text ∧
        (∀ body ∈ (placeholders template).items, Parameter.ofBody? body = none →
          text body = written body) ∧
        (∀ body ∈ (placeholders template).items, ∀ p, Parameter.ofBody? body = some p →
          ∃ x ∈ s.slots, x.name = p.name) ∧
        ∀ x ∈ s.slots, ∀ body ∈ (placeholders template).items, ∀ p,
          Parameter.ofBody? body = some p → p.name = x.name →
            (text body = if x.value ≠ [] then x.value else
              if p.default ≠ [] then p.default else written body) ∧
            ∀ os, x.parameter.kind = .choice ∧ x.parameter.options = os ∧ os ≠ [] ∨
                x.stage = .resolved os →
              os[x.cursor]? = some (text body) ∧ text body ≠ [] := by
  intro s
  have hframe : SameFrame (start n template) s := after_sameFrame _ _
  have hs : s.Consistent := (consistent_withParameters n template _).after _
  have hparameters := parameters_of_sameFrame hframe
  refine ⟨substitute s.valueOf, ?_, fun body _ hbody => ?_, fun body hbody p hp => ?_,
    fun x hx body hbody p hp hname => ?_⟩
  · have htemplate : s.template = template := hframe.template_eq
    rw [preview_of_submitted hsubmitted, preview, render]
    exact congrArg (fun t => (placeholders t).fill _) htemplate
  · rw [substitute_eq, replaced, chosen?_of_none hbody, Option.getD_none]
  · obtain ⟨q, hq, hqp⟩ := exists_parameter_of_mem hbody hp
    rw [← hparameters] at hq
    obtain ⟨x, hx, rfl⟩ := List.mem_map.1 hq
    exact ⟨x, hx, hqp⟩
  · have htext := substitute_of_slot (nodup_names_slots hframe) hx hp hname
    refine ⟨htext, fun os hos => ?_⟩
    -- the value of the slot is one of its options, none of which is empty
    obtain ⟨hshows, hnil⟩ : x.Shows os ∧ [] ∉ os := by
      rcases hos with ⟨hk, rfl, hne⟩ | hos
      · have hmem : x.parameter ∈ TemplateFill.parameters template := by
          rw [← hparameters]
          exact List.mem_map_of_mem hx
        exact ⟨(hs.slots x hx).choice hk hne, nil_notMem_options hmem⟩
      · exact ⟨((hs.slots x hx).resolved os hos).2, options_after_start hprinted hx hos⟩
    obtain ⟨hlt, hvalue⟩ := hshows
    have hne : x.value ≠ [] := by
      intro hempty
      rw [hempty] at hvalue
      exact hnil (hvalue ▸ List.getElem_mem hlt)
    rw [htext, if_pos hne, List.getElem?_eq_getElem hlt, hvalue]
    exact ⟨rfl, hvalue ▸ hne⟩

/-- The option that is chosen of the printed ones stands for the parameter wherever its name occurs,
also where the name is declared with options and a default of its own. -/
theorem submitted_selected_branch :
    let template : Text := "{{b!git branch}} {{env|dev|prod}} {{b|x|*y}} {{n:1}} {{m}}"
    let es : List Event := [.report ⟨7, 0, .options ["main", "rel"]⟩, .input .down,
      .input .enter, .input (.chooseAndConfirm 1), .input .backspace, .input .next, .input .enter]
    let command : Text := "rel prod rel 1 {{m}}"
    (∀ m, Event.report m ∈ es → m.session = 7 → ∀ os, m.outcome = .options os → [] ∉ os) ∧
      ((start 7 template).run es).ending = .submitted command ∧
      ∃ text : Text → Text, command = (placeholders template).fill text ∧
        text "b|x|*y" = "rel".toList := by
  intro template es command
  have hprinted : ∀ m, Event.report m ∈ es → m.session = 7 →
      ∀ os, m.outcome = .options os → [] ∉ os := by
    intro m hm _ os hos
    obtain rfl : m = ⟨7, 0, .options ["main", "rel"]⟩ := by simpa [es] using hm
    obtain rfl := Outcome.options.inj hos
    decide
  have hsubmitted : ((start 7 template).run es).ending = .submitted command := by decide +kernel
  obtain ⟨text, hcommand, -, -, htext⟩ := submitted_selected hprinted hsubmitted
  refine ⟨hprinted, hsubmitted, text, hcommand, ?_⟩
  let x : Slot := ⟨⟨"b", .dynamic, "y", [], "git branch"⟩, .resolved ["main", "rel"], "rel", 1⟩
  have hslot : x ∈ ((start 7 template).final es).slots := by decide +kernel
  have hbody : "b|x|*y".toList ∈ (placeholders template).items := by decide +kernel
  have hp : Parameter.ofBody? "b|x|*y" = some ⟨"b", .choice, "y", ["x", "y"], []⟩ := by
    decide +kernel
  obtain ⟨hoption, -⟩ := (htext _ hslot _ hbody _ hp rfl).2 ["main", "rel"] (Or.inr rfl)
  exact (Option.some.inj hoption).symm

end Session

end TemplateFill
