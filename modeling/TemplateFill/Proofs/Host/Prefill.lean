import TemplateFill.Proofs.Host.GivenValues
import TemplateFill.Proofs.Session.Confirmation
import TemplateFill.Proofs.Session.Submission

/-!
# Given values, rendered and confirmed

Values can be given for a template in two ways: the template is rendered with them at once, or they
are given to the slots of a session, which is then confirmed until it is submitted.

A slot has the value that is given for its name, and one for which none is given keeps the default
of its parameter (`Session.text_of_prefill`).  Confirming changes no slot and submits the session
when the focus has come to the last one at the latest (`Session.ending_of_confirmations`).  If the
placeholders of a name agree in their default, both ways come to the same text
(`Session.submitted_eq_renderAssigned`).
-/

namespace TemplateFill

open Placeholder

namespace Assignments

variable {as : Assignments} {name value : Text}

/-! ### Assignments have each name once -/

lemma map_fst_set (as : Assignments) (name value : Text) :
    (as.set name value).map Prod.fst =
      if name ∈ as.map Prod.fst then as.map Prod.fst else as.map Prod.fst ++ [name] := by
  have hany : as.any (·.1 = name) = true ↔ name ∈ as.map Prod.fst := by
    simp [List.any_eq_true]
  by_cases hmem : name ∈ as.map Prod.fst
  · rw [set, if_pos (hany.2 hmem), if_pos hmem, List.map_map]
    refine List.map_congr_left fun p _ => ?_
    by_cases hp : p.1 = name <;> simp [hp]
  · rw [set, if_neg (mt hany.1 hmem), if_neg hmem, List.map_append]
    rfl

lemma nodup_set (h : (as.map Prod.fst).Nodup) (name value : Text) :
    ((as.set name value).map Prod.fst).Nodup := by
  rw [map_fst_set]
  split
  · exact h
  · rename_i hmem
    rw [← List.concat_eq_append]
    exact List.Nodup.concat hmem h

lemma nodup_of_foldlM {pairs : List Text} {as as' : Assignments} (has : (as.map Prod.fst).Nodup)
    (h : pairs.foldlM (fun as pair => do
      let (name, value) ← readPair pair
      return as.set name value) as = Except.ok as') : (as'.map Prod.fst).Nodup := by
  induction pairs generalizing as with
  | nil =>
    obtain rfl := Except.ok.inj h
    exact has
  | cons pair pairs ih =>
    rw [List.foldlM_cons] at h
    cases hpair : readPair pair with
    | error fault => rw [hpair] at h; exact absurd h (by simp [bind, Except.bind])
    | ok p =>
      rw [hpair] at h
      exact ih (nodup_set has p.1 p.2) h

/-- A list of pairs assigns to each name once. -/
lemma nodup_ofPairs {pairs : List Text} (h : ofPairs pairs = .ok as) : (as.map Prod.fst).Nodup := by
  have hnil : (([] : Assignments).map Prod.fst).Nodup := List.nodup_nil
  exact nodup_of_foldlM hnil h

end Assignments

/-- A slot that can be edited at once starts with the default of its parameter, if every list of
options has one. -/
lemma Slot.value_ofParameter {p : Parameter} (hk : p.kind ≠ .dynamic)
    (hempty : p.kind = .choice → p.options = [] → p.default = [])
    (hmem : p.kind = .choice → p.options ≠ [] → p.default ≠ [] ∧ p.default ∈ p.options) :
    (ofParameter p).value = p.default := by
  cases hkind : p.kind with
  | text => simp [ofParameter, hkind]
  | dynamic => exact absurd hkind hk
  | choice =>
    rw [ofParameter_choice hkind]
    by_cases hos : p.options = []
    · simp [hos, hempty hkind hos]
    · obtain ⟨hne, hdefault⟩ := hmem hkind hos
      have hplace : (p.defaultIndex? p.options).getD 0 = p.options.idxOf p.default := by
        rw [p.getD_defaultIndex?, Parameter.firstPlace, if_pos ⟨hne, hdefault⟩]
      dsimp only
      rw [hplace, List.getD_eq_getElem?_getD, List.getElem?_idxOf hdefault, Option.getD_some]

namespace Session

variable {s : Session} {as : Assignments}

/-! ### Both ways -/

section Agreement

variable {n : Nat} {template : Text}

/-- If the placeholders of a name agree in their default, then a parameter is as it is declared
first. -/
lemma mem_declared (hagree : ∀ p ∈ declared template, ∀ q ∈ declared template, p.name = q.name →
      p.default = q.default)
    {q : Parameter} (hq : q ∈ TemplateFill.parameters template) : q ∈ declared template := by
  obtain ⟨first, hfirst, hname, hfields⟩ := Declarations.exists_first_of_mem_parameters hq
  have hlast : Parameter.lastDefault (declared template) q.name = first.default :=
    Parameter.lastDefault_of_forall
      (fun p hp hpn => hagree p hp first hfirst (hpn.trans hname.symm)) ⟨first, hfirst, hname⟩
  rw [hlast] at hfields
  obtain rfl : q = first := hfields
  exact hfirst

/-- A declared parameter that can be edited at once starts with its default, if it has one wherever
it lists options. -/
lemma value_of_mem_declared {q : Parameter} (hq : q ∈ declared template) (hk : q.kind ≠ .dynamic)
    (hdefault : q.kind = .choice → q.options ≠ [] → q.default ≠ []) :
    (Slot.ofParameter q).value = q.default := by
  obtain ⟨body, -, hbody⟩ := List.mem_filterMap.1 hq
  have hmem : q.kind = .choice → q.default ≠ [] → q.default ∈ q.options := by
    rw [Parameter.eq_readBody_of_ofBody? hbody]
    exact Parameter.default_mem_options_readBody
  refine Slot.value_ofParameter hk (fun hk hos => ?_) fun hk hos =>
    ⟨hdefault hk hos, hmem hk (hdefault hk hos)⟩
  by_contra hne
  have hin := hmem hk hne
  rw [hos] at hin
  exact absurd hin (by simp)

/-- The value of a parameter is the one that is given for its name, or else its default. -/
lemma text_of_prefill
    (hstart : ∀ q ∈ TemplateFill.parameters template, (Slot.ofParameter q).value = q.default)
    (has : (as.map Prod.fst).Nodup) (h : (start n template).prefill as = .ok s) {q : Parameter}
    (hq : q ∈ TemplateFill.parameters template) :
    s.valueOf.text q.name = (Values.ofList as q.name).getD q.default := by
  have hframe := prefill_sameFrame h
  obtain ⟨i, hi⟩ := List.getElem?_of_mem hq
  have hx : (start n template).slots[i]? = some (Slot.ofParameter q) := by
    rw [start, withParameters, List.getElem?_map, hi, Option.map_some]
  have hname : (Slot.ofParameter q).name = q.name :=
    congrArg Parameter.name (Slot.parameter_ofParameter q)
  -- the slot of the parameter is where it was, and the value of the name is what it has
  have htext : ∀ {y : Slot}, s.slots[i]? = some y → s.valueOf.text q.name = y.value := by
    intro y hy
    have hmap : (s.slots.map Slot.name)[i]? = ((start n template).slots.map Slot.name)[i]? := by
      rw [map_name_slots, map_name_slots, hframe.parameters_eq]
    rw [List.getElem?_map, List.getElem?_map, hy, hx] at hmap
    have hyname : y.name = q.name := (Option.some.inj hmap).trans hname
    rw [← hyname, text_valueOf (nodup_names_slots hframe) (List.mem_of_getElem? hy)]
  have hgiven := prefilled has h
  cases hv : Values.ofList as q.name with
  | some v =>
    have hmem : (q.name, v) ∈ as := (Values.ofList_eq_some_iff has).1 hv
    have haddr := addresses_of_nodup (nodup_names_slots (.refl _)) hx
    rw [htext (hgiven.slot_given _ hmem i _ (hname ▸ haddr)), Slot.value_give, Option.getD_some]
  | none =>
    have hkept : ∀ a ∈ as, (start n template).indexOf? a.1 ≠ some i := by
      rintro ⟨m, v⟩ ha hindex
      obtain ⟨z, hz⟩ := exists_addresses hindex
      obtain rfl := Option.some.inj (hx.symm.trans hz.2)
      obtain rfl : q.name = m := hname.symm.trans hz.name_eq
      rw [(Values.ofList_eq_some_iff has).2 ha] at hv
      exact absurd hv (by simp)
    rw [htext ((hgiven.slot_kept i hkept).trans hx), hstart q hq, Option.getD_none]

/-- A template is filled in with given values and confirmed throughout, or it is rendered with the
values: both come to the same text.  Whoever gives the values may give them in any order, and there
may be empty ones among them and several for the same name.  The template has no dynamic parameter,
every list of options in it has a default, and the placeholders of a name agree in their default.
The confirmations go on until each slot has had one at least, and what comes then does not count. -/
theorem submitted_eq_renderAssigned {pairs : List Text} {as order : Assignments}
    (hkind : ∀ p ∈ TemplateFill.parameters template, p.kind ≠ .dynamic)
    (hagree : ∀ p ∈ declared template, ∀ q ∈ declared template, p.name = q.name →
      p.default = q.default)
    (hdefault : ∀ p ∈ TemplateFill.parameters template, p.kind = .choice → p.options ≠ [] →
      p.default ≠ [])
    (hpairs : Assignments.ofPairs pairs = .ok as) (horder : order.Perm as)
    (hprefill : (start n template).prefill order = .ok s) {k : Nat} (hk : 0 < k)
    (hsize : s.size ≤ k) (es : List Event) :
    ∃ command, renderAssigned template pairs = .ok command ∧
      (s.run (List.replicate k (.input .enter) ++ es)).ending = .submitted command := by
  have hkeys : (as.map Prod.fst).Nodup := Assignments.nodup_ofPairs hpairs
  have hs : s.Consistent :=
    prefill_preserves (fun hx hy h => h.of_moves (.slot hx hy)) hprefill
      (consistent_withParameters n template _)
  have hfocus : s.focus = 0 :=
    prefill_preserves (P := fun u => u.focus = 0) (fun _ _ h => h) hprefill rfl
  have hvalue : ∀ q ∈ TemplateFill.parameters template, (Slot.ofParameter q).value = q.default :=
    fun q hq => value_of_mem_declared (mem_declared hagree hq) (hkind q hq) (hdefault q hq)
  have htext : ∀ q ∈ TemplateFill.parameters template,
      s.valueOf.text q.name = (Values.ofList as q.name).getD q.default := by
    intro q hq
    rw [Values.ofList_perm hkeys horder.symm]
    exact text_of_prefill hvalue ((horder.map Prod.fst).nodup_iff.2 hkeys) hprefill hq
  have hpreview : s.preview = render template (Values.ofList as) := by
    have htemplate : s.template = template := (prefill_sameFrame hprefill).template_eq
    rw [preview, htemplate, render_eq, render_eq]
    refine Layout.fill_congr fun body hbody => replaced_congr fun p hp => ?_
    have hdeclared : p ∈ declared template := List.mem_filterMap.2 ⟨body, hbody, hp⟩
    obtain ⟨q, hq, hname⟩ := exists_parameter_of_mem hbody hp
    -- the placeholder has the default that the slot starts with
    have hd : q.default = p.default := hagree q (mem_declared hagree hq) p hdeclared hname
    have hv : s.valueOf.text p.name = (Values.ofList as p.name).getD p.default := by
      rw [← hname, htext q hq, hd]
    rw [Values.choices, Values.choices, hv, Values.text]
    cases Values.ofList as p.name with
    | some v => rfl
    | none => by_cases h : p.default = [] <;> simp [h]
  refine ⟨render template (Values.ofList as), ?_, ?_⟩
  · rw [renderAssigned, hpairs]
    rfl
  · rw [← hpreview]
    exact ending_of_confirmations hk (by omega) hs es

/-- The last of several values for a name counts, and an empty value leaves the default in its
place, here given in another order than they are read in. -/
theorem submitted_eq_renderAssigned_ssh :
    let template : Text := "ssh {{user:root}}@{{host}} -p {{port|22|*2222}} # {{user:root}} {{key}}"
    let pairs : List Text := ["host=a", "port=22", "user=", "host=b=c"]
    let filled : Session :=
      ⟨5, template,
        [⟨⟨"user", .text, "root", [], []⟩, .awaitingInput, [], 0⟩,
          ⟨⟨"host", .text, [], [], []⟩, .awaitingInput, "b=c", 0⟩,
          ⟨⟨"port", .choice, "2222", ["22", "2222"], []⟩, .awaitingInput, "22", 0⟩,
          ⟨⟨"key", .text, [], [], []⟩, .awaitingInput, [], 0⟩], 0⟩
    (start 5 template).prefill [("user", []), ("port", "22"), ("host", "b=c")] = .ok filled ∧
      renderAssigned template pairs = .ok "ssh root@b=c -p 22 # root {{key}}" ∧
      (filled.run (List.replicate 4 (.input .enter) ++ [.input .cancel])).ending =
        .submitted "ssh root@b=c -p 22 # root {{key}}" := by
  intro template pairs filled
  have hpairs : Assignments.ofPairs pairs =
      .ok [("host", "b=c"), ("port", "22"), ("user", [])] := by
    decide +kernel
  have hprefill : (start 5 template).prefill [("user", []), ("port", "22"), ("host", "b=c")] =
      .ok filled := by
    decide +kernel
  have hrender : renderAssigned template pairs = .ok "ssh root@b=c -p 22 # root {{key}}" := by
    decide +kernel
  obtain ⟨command, hcommand, hending⟩ := submitted_eq_renderAssigned (k := 4) (by decide +kernel)
    (by decide +kernel) (by decide +kernel) hpairs (by decide +kernel) hprefill (by decide)
    (by decide) [.input .cancel]
  obtain rfl := Except.ok.inj (hcommand.symm.trans hrender)
  exact ⟨hprefill, hrender, hending⟩

end Agreement

end Session

end TemplateFill
