import Mathlib.Logic.Function.Basic
import TemplateFill.Proofs.Template.Declarations
import TemplateFill.Proofs.Template.Placeholder
import TemplateFill.Template.Render

/-!
# What rendering does, and what it depends on

A template is the one scan of its text, and rendering copies the gaps of the scan and puts in the
place of each placeholder the first text that is not empty among the value of its name and its own
default, or else the placeholder itself (`render_scan`).

So the rendered text depends on the values of the declared names, since the same scan tells what is
declared.  It depends on no other values, and on each of these (`render_depends_on_parameters`).
-/

namespace TemplateFill

namespace Values

/-- The value of a name; a name without a value counts as one with an empty value. -/
def text (values : Values) (name : Text) : Text := (values name).getD []

/-- In a list that has each name once, a name has the value that stands beside it. -/
lemma ofList_eq_some_iff {pairs : List (Text × Text)} (h : (pairs.map Prod.fst).Nodup)
    {name value : Text} : ofList pairs name = some value ↔ (name, value) ∈ pairs := by
  induction pairs with
  | nil => simp [ofList]
  | cons p pairs ih =>
    obtain ⟨hp, hpairs⟩ := List.nodup_cons.1 h
    obtain ⟨n, v⟩ := p
    change List.lookup name ((n, v) :: pairs) = some value ↔ _
    rw [List.lookup_cons]
    by_cases hname : name = n
    · subst hname
      have hnot : (name, value) ∉ pairs := fun hmem => hp (List.mem_map.2 ⟨_, hmem, rfl⟩)
      simp [hnot, eq_comm]
    · have hiff : List.lookup name pairs = some value ↔ (name, value) ∈ pairs := ih hpairs
      rw [beq_eq_false_iff_ne.2 hname]
      simp [hname, hiff]

/-- In a list that has each name once, the order does not count. -/
lemma ofList_perm {pairs pairs' : List (Text × Text)} (h : (pairs.map Prod.fst).Nodup)
    (hperm : pairs.Perm pairs') : ofList pairs = ofList pairs' := by
  have h' : (pairs'.map Prod.fst).Nodup := (hperm.map Prod.fst).nodup_iff.1 h
  funext name
  refine Option.ext fun value => ?_
  rw [ofList_eq_some_iff h, ofList_eq_some_iff h', hperm.mem_iff]

/-- The texts that may stand for a parameter: the value of its name, and then its own default. -/
def choices (values : Values) (p : Parameter) : List Text := [values.text p.name, p.default]

end Values

namespace Placeholder

/-- The first text that is not empty among those that `choices` has for the parameter that a body
declares. -/
def chosen? (choices : Parameter → List Text) (body : Text) : Option Text :=
  (Parameter.ofBody? body).bind fun p => (choices p).find? (· ≠ [])

/-- What is put in the place of a placeholder: the text that is chosen for it, or the placeholder
itself if there is none, as when its body declares no parameter. -/
def replaced (choices : Parameter → List Text) (body : Text) : Text :=
  (chosen? choices body).getD (written body)

/-- A template with its placeholders replaced. -/
def replaceAll (choices : Parameter → List Text) (template : Text) : Text :=
  (placeholders template).fill (replaced choices)

variable {choices choices' : Parameter → List Text} {body : Text} {p : Parameter}

lemma chosen?_of_some (h : Parameter.ofBody? body = some p) :
    chosen? choices body = (choices p).find? (· ≠ []) := by
  rw [chosen?, h, Option.bind_some]

lemma chosen?_of_none (h : Parameter.ofBody? body = none) : chosen? choices body = none := by
  rw [chosen?, h, Option.bind_none]

lemma replaced_congr (h : ∀ p, Parameter.ofBody? body = some p →
      (choices p).find? (· ≠ []) = (choices' p).find? (· ≠ [])) :
    replaced choices body = replaced choices' body := by
  cases hp : Parameter.ofBody? body with
  | none => rw [replaced, replaced, chosen?_of_none hp, chosen?_of_none hp]
  | some p => rw [replaced, replaced, chosen?_of_some hp, chosen?_of_some hp, h p hp]

/-- To replace what other choices have left is to add its choices behind them. -/
lemma getD_chosen? (choices choices' : Parameter → List Text) (body : Text) :
    (chosen? choices body).getD (replaced choices' body) =
      replaced (fun p => choices p ++ choices' p) body := by
  cases hp : Parameter.ofBody? body with
  | none => rw [replaced, replaced, chosen?_of_none hp, chosen?_of_none hp, chosen?_of_none hp,
      Option.getD_none]
  | some p => rw [replaced, replaced, chosen?_of_some hp, chosen?_of_some hp, chosen?_of_some hp,
      List.find?_append, Option.getD_or]

/-- The first choice counts, if it is not empty. -/
lemma replaced_of_ne_nil {v : Text} {vs : List Text} (hp : Parameter.ofBody? body = some p)
    (hc : choices p = v :: vs) (hv : v ≠ []) : replaced choices body = v := by
  rw [replaced, chosen?_of_some hp, hc, List.find?_cons_of_pos (by simpa using hv)]
  rfl

end Placeholder

open Placeholder

/-- A placeholder is replaced by the value of its name, or else by its own default. -/
lemma substitute_eq (values : Values) (body : Text) :
    substitute values body = replaced values.choices body := by
  cases hp : Parameter.ofBody? body with
  | none => rw [substitute, hp, replaced, chosen?_of_none hp, Option.getD_none]
  | some p =>
    rw [substitute, hp, replaced, chosen?_of_some hp, Values.choices]
    change (if !(values.text p.name).isEmpty then values.text p.name
      else if p.hasDefault then p.default else written body) = _
    cases hv : values.text p.name with
    | nil => cases hd : p.default <;> simp [Parameter.hasDefault, hd]
    | cons c v => simp

lemma render_eq (template : Text) (values : Values) :
    render template values = replaceAll values.choices template :=
  Layout.fill_congr fun body _ => substitute_eq values body

/-- A template has one scan and no other, namely its placeholders and the gaps between them.  It is
what the declarations are taken from, and what rendering fills: a placeholder is replaced by the
value of its name, or else by its own default, or else by itself. -/
theorem render_scan (template : Text) :
    (∀ l, Layout.IsScan written IsBody template l ↔ l = placeholders template) ∧
      declarations template =
        .ofList ((placeholders template).items.filterMap Parameter.ofBody?) ∧
      ∀ values, render template values =
        (placeholders template).fill (replaced fun p => [values.text p.name, p.default]) :=
  ⟨fun _ => recognises.isScan_iff, rfl, render_eq template⟩

/-- Four placeholders: one whose name has a value, one whose value is empty, so that its own default
counts, one without a name, for which a value of the empty name does nothing, and one with neither a
value nor a default.  The last two are left as they are. -/
theorem render_scan_choices :
    let template : Text := "ls {{a:x}} {{b|c|*d}} {{:x}} {{e!ls}}."
    let values : Values := .ofList [("a", "1"), ("b", []), ([], "2")]
    (placeholders template).items = ["a:x".toList, "b|c|*d".toList, ":x".toList, "e!ls".toList] ∧
      declarations template = .ofList [⟨"a", .text, "x", [], []⟩,
        ⟨"b", .choice, "d", ["c", "d"], []⟩, ⟨"e", .dynamic, [], [], "ls"⟩] ∧
      render template values = "ls 1 d {{:x}} {{e!ls}}.".toList := by
  intro template values
  obtain ⟨-, hdeclarations, hrender⟩ := render_scan template
  refine ⟨by decide +kernel, ?_, ?_⟩
  · rw [hdeclarations]
    congr 1
    decide +kernel
  · rw [hrender]
    decide +kernel

/-- The leftmost placeholder counts.  Opening braces that are left over belong to its body, unless a
single closing brace comes between. -/
example :
    (placeholders "{{{x}}} {{a}b}{{c}}").items = [['{', 'x'], ['c']] ∧
      (placeholders "{{}} {{a{{b}}}}").items = [['a', '{', '{', 'b']] := by
  decide +kernel

/-! ### The names that count -/

variable {template : Text}

/-- The parameter that a placeholder declares is listed, under its name. -/
lemma exists_parameter_of_mem {body : Text} {p : Parameter}
    (hbody : body ∈ (placeholders template).items) (hp : Parameter.ofBody? body = some p) :
    ∃ q ∈ parameters template, q.name = p.name := by
  have hdeclared : p ∈ declared template := List.mem_filterMap.2 ⟨body, hbody, hp⟩
  have hname : p.name ∈ (parameters template).map Parameter.name := by
    rw [parameters, declarations, Declarations.names_parameters]
    exact Parameter.mem_names.2 ⟨p, hdeclared, rfl⟩
  exact List.mem_map.1 hname

/-- What is listed was declared by a placeholder, under its name. -/
lemma exists_body_of_mem {q : Parameter} (hq : q ∈ parameters template) :
    ∃ body ∈ (placeholders template).items, ∃ p, Parameter.ofBody? body = some p ∧
      p.name = q.name := by
  have hname : q.name ∈ (parameters template).map Parameter.name := List.mem_map_of_mem hq
  rw [parameters, declarations, Declarations.names_parameters] at hname
  obtain ⟨p, hp, hpq⟩ := Parameter.mem_names.1 hname
  obtain ⟨body, hbody, hbp⟩ := List.mem_filterMap.1 hp
  exact ⟨body, hbody, p, hbp, hpq⟩

lemma render_congr {V W : Values}
    (h : ∀ q ∈ parameters template, V.text q.name = W.text q.name) :
    render template V = render template W := by
  rw [render_eq, render_eq]
  refine Layout.fill_congr fun body hbody => replaced_congr fun p hp => ?_
  obtain ⟨q, hq, hqp⟩ := exists_parameter_of_mem hbody hp
  rw [Values.choices, Values.choices, ← hqp, h q hq]

/-! ### One value at a time -/

section Update

variable {V : Values} {body n v : Text} {p : Parameter}

lemma Values.text_update_self : Values.text (Function.update V n (some v)) n = v := by
  rw [Values.text, Function.update_self, Option.getD_some]

lemma Values.text_update_of_ne {m : Text} (h : m ≠ n) (u : Option Text) :
    Values.text (Function.update V n u) m = V.text m := by
  rw [Values.text, Function.update_of_ne h, Values.text]

lemma substitute_update_self (hp : Parameter.ofBody? body = some p) (hn : p.name = n)
    (hv : v ≠ []) : substitute (Function.update V n (some v)) body = v := by
  subst hn
  rw [substitute_eq]
  have hchoices : Values.choices (Function.update V p.name (some v)) p = [v, p.default] := by
    rw [Values.choices, Values.text_update_self]
  exact replaced_of_ne_nil hp hchoices hv

lemma substitute_update_of_ne (h : ∀ p, Parameter.ofBody? body = some p → p.name ≠ n)
    (u : Option Text) : substitute (Function.update V n u) body = substitute V body := by
  rw [substitute_eq, substitute_eq]
  refine replaced_congr fun p hp => ?_
  rw [Values.choices, Values.choices, Values.text_update_of_ne (h p hp)]

/-- A longer value for a listed name makes the rendered text longer. -/
lemma length_render_lt {q : Parameter} (hq : q ∈ parameters template) (V : Values) {v w : Text}
    (hv : v ≠ []) (hlt : v.length < w.length) :
    (render template (Function.update V q.name (some v))).length <
      (render template (Function.update V q.name (some w))).length := by
  have hw : w ≠ [] := List.ne_nil_of_length_pos (Nat.lt_of_le_of_lt (Nat.zero_le _) hlt)
  obtain ⟨body, hbody, p, hp, hpq⟩ := exists_body_of_mem hq
  refine Layout.length_fill_lt (fun body' _ => ?_) hbody ?_
  · by_cases hname : ∀ p, Parameter.ofBody? body' = some p → p.name ≠ q.name
    · have hsame : ∀ u, substitute (Function.update V q.name u) body' = substitute V body' :=
        substitute_update_of_ne hname
      exact Nat.le_of_eq (by rw [hsame, hsame])
    · push Not at hname
      obtain ⟨p', hp', hpq'⟩ := hname
      rw [substitute_update_self hp' hpq' hv, substitute_update_self hp' hpq' hw]
      exact Nat.le_of_lt hlt
  · rw [substitute_update_self hp hpq hv, substitute_update_self hp hpq hw]
    exact hlt

end Update

/-- Rendering depends on the values of the parameters and on nothing else: values that agree on
these give the same text, and for each parameter, whatever the other values are, there are two values
that give different texts. -/
theorem render_depends_on_parameters (template : Text) :
    (∀ V W : Values, (∀ q ∈ parameters template, V.text q.name = W.text q.name) →
        render template V = render template W) ∧
      ∀ q ∈ parameters template, ∀ V : Values, ∃ W W' : Values,
        (∀ n ≠ q.name, W n = V n ∧ W' n = V n) ∧ render template W ≠ render template W' := by
  refine ⟨fun V W => render_congr, fun q hq V => ?_⟩
  refine ⟨Function.update V q.name (some ['x']), Function.update V q.name (some ['x', 'x']),
    fun n hn => ⟨Function.update_of_ne hn _ _, Function.update_of_ne hn _ _⟩, fun heq => ?_⟩
  have hlt := length_render_lt hq V (v := ['x']) (w := ['x', 'x']) (by simp) (by simp)
  rw [heq] at hlt
  exact absurd hlt (Nat.lt_irrefl _)

/-- A name may hold a delimiter of a later rule.  Values for the empty name, which a body can spell
but not declare, and for names that are not declared do not matter, nor does an empty value. -/
theorem render_depends_on_parameters_delimiters :
    let template : Text := "{{a|b!ls}} {{!ls}} {{a|b|x|*y}}"
    let V : Values := .ofList [("a|b", "1"), ("", "x"), ("b", "2")]
    let W : Values := .ofList [("a|b", "1"), ("a", [])]
    (∀ q ∈ parameters template, V.text q.name = W.text q.name) ∧
      render template V = render template W ∧ render template V = "1 {{!ls}} y".toList ∧
      ∃ q ∈ parameters template, ∃ U U' : Values,
        (∀ n ≠ q.name, U n = V n ∧ U' n = V n) ∧ render template U ≠ render template U' := by
  intro template V W
  have hparameters : parameters template =
      [⟨"a|b", .dynamic, [], [], "ls"⟩, ⟨"a", .choice, "y", ["b", "x", "y"], []⟩] := by
    decide +kernel
  have hvalues : ∀ q ∈ parameters template, V.text q.name = W.text q.name := by
    rw [hparameters]
    decide +kernel
  have hmem : (⟨"a|b", .dynamic, [], [], "ls"⟩ : Parameter) ∈ parameters template := by
    rw [hparameters]
    exact List.mem_cons_self
  exact ⟨hvalues, (render_depends_on_parameters template).1 V W hvalues, by decide +kernel,
    _, hmem, (render_depends_on_parameters template).2 _ hmem V⟩

end TemplateFill
