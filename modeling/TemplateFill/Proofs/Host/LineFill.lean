import TemplateFill.Proofs.Host.InputLine
import TemplateFill.Proofs.Session.Submission

/-!
# Filling in a template line by line

A template can be filled in from its first parameter to its last with one line for each
(`Session.submitted_of_lines`).  Each line changes the value of the parameter that has the focus and
moves the focus on (`Session.drive_choices`): the last parameter has no value before its line, so
the session is not ready any earlier, and at the last line it is submitted because its last slot has
the focus.
-/

namespace TemplateFill

open InputLine

/-- What a user wants for a parameter: a text, or the option of a number, counted from one. -/
inductive Choice where
  | text (s : Text)
  | option (k : Nat)
  deriving DecidableEq, Repr

namespace Choice

variable {p : Parameter} {c : Choice}

/-- The line with which it is given. -/
def line : Choice → Text
  | .text s => textLine s
  | .option k => optionLine k

/-- The edit that it comes to. -/
def edit : Choice → Edit
  | .text s => .setText s
  | .option k => .select (k - 1)

/-- The input that its line stands for. -/
def input : Choice → Input
  | .text s => .setTextAndConfirm s
  | .option k => .chooseAndConfirm (k - 1)

lemma request_input (c : Choice) : c.input.request = .edit c.edit true := by
  cases c <;> rfl

/-- The value that the parameter gets. -/
def value (p : Parameter) : Choice → Text
  | .text s => s
  | .option k => p.options.getD (k - 1) []

/-- What can be given for a parameter: a text of one line that is not empty for free text, and one
of the options of a choice, whose number has 64 bits. -/
inductive Fits (p : Parameter) : Choice → Prop
  | text {s : Text} (hkind : p.kind = .text) (hne : s ≠ []) (hlf : '\n' ∉ s)
      (hcr : s.getLast? ≠ some '\r') : Fits p (.text s)
  | option {k : Nat} (hkind : p.kind = .choice) (hpos : 1 ≤ k) (hle : k ≤ p.options.length)
      (hk : k < 2 ^ 64) : Fits p (.option k)

/-- The line of a choice is one line, and is decoded as its input. -/
lemma Fits.decode?_line (h : c.Fits p) : IsLine c.line ∧ decode? c.line = some c.input := by
  cases h with
  | text _ hne hlf hcr =>
    exact ⟨isLine_textLine ⟨hlf, hcr⟩ hne, decode?_textLine ⟨hlf, hcr⟩ hne⟩
  | option _ hpos _ hk => exact ⟨isLine_optionLine _, decode?_optionLine hpos hk⟩

/-- The slot of the parameter accepts the choice, and gets its value. -/
lemma Fits.edit_ofParameter (h : c.Fits p) :
    ∃ y, (Slot.ofParameter p).edit c.edit = .ok y ∧ y.name = p.name ∧ y.value = c.value p := by
  cases h with
  | @text s hkind =>
    refine ⟨⟨p, .awaitingInput, s, 0⟩, ?_, rfl, rfl⟩
    simp [Slot.ofParameter, edit, Slot.edit, Slot.editText, Slot.isList, Slot.options?, hkind]
  | @option k hkind hpos hle =>
    have hlt : k - 1 < p.options.length := by omega
    have hoptions : (Slot.ofParameter p).options? = some p.options := by
      rw [Slot.ofParameter_choice hkind]
      simp [Slot.options?, hkind]
    refine ⟨_, Slot.edit_select hoptions hlt, ?_, ?_⟩
    · exact congrArg Parameter.name (Slot.parameter_ofParameter p)
    · simp [Slot.choose, value, hlt]

end Choice

namespace Session

variable {s t : Session} {ps : List Parameter} {cs : List Choice} {V : Values}

/-- An edit of the slot that has the focus. -/
lemma exists_edit_focus {front rest : List Slot} {x y : Slot} {e : Edit}
    (hslots : s.slots = front ++ x :: rest) (hfocus : s.focus = front.length)
    (h : x.edit e = .ok y) :
    ∃ t, s.edit s.focus e = .ok t ∧ t.slots = front ++ y :: rest ∧ t.focus = front.length ∧
      t.template = s.template := by
  have hget : s.slots[s.focus]? = some x := by
    rw [hslots, hfocus]
    simp
  refine ⟨s.setSlot s.focus y, edit_eq_ok_iff.2 ⟨x, y, hget, h, rfl⟩, ?_, hfocus, rfl⟩
  simp [setSlot, hslots, hfocus]

/-- With the focus in front of the last slot, a slot without a value keeps the session from being
ready. -/
lemma not_isReady_of_mem {x : Slot} (hx : x ∈ s.slots) (hvalue : x.value = [])
    (hfocus : s.focus + 1 ≠ s.size) : ¬s.isReady := by
  rw [isReady_iff]
  rintro (hnil | hlast | hall)
  · exact List.ne_nil_of_mem hx hnil
  · exact hfocus hlast
  · exact hall x hx hvalue

/-- From a parameter on, one choice for each brings the session to its end, and not before the last
one: the slots in front of it are as they were, and those behind it get their values one by one. -/
lemma drive_choices {front : List Slot} (hslots : s.slots = front ++ ps.map Slot.ofParameter)
    (hfocus : s.focus = front.length)
    (hchoices : List.Forall₂ (fun p c => c.Fits p ∧ V p.name = some (c.value p)) ps cs)
    (hlast : ∃ p, ps.getLast? = some p ∧ p.kind = .text ∧ p.default = []) (more : List Event) :
    ∃ (t : Session) (ys : List Slot), t.slots = front ++ ys ∧ t.template = s.template ∧
      List.Forall₂ (fun p y => y.name = p.name ∧ V p.name = some y.value) ps ys ∧
      (s.drive (cs.map (fun c => .input c.input) ++ more)).ending = .submitted t.preview ∧
      (s.drive (cs.map (fun c => .input c.input) ++ more)).after.length + 1 = cs.length := by
  induction hchoices generalizing s front with
  | nil =>
    obtain ⟨p, hp, -⟩ := hlast
    exact absurd hp (by simp)
  | @cons p c ps cs hpc hrest ih =>
    obtain ⟨hfits, hvalue⟩ := hpc
    obtain ⟨y, hedit, hname, hy⟩ := hfits.edit_ofParameter
    obtain ⟨t, hset, hslots', hfocus', htemplate⟩ := exists_edit_focus hslots hfocus hedit
    have hsize : t.size = front.length + 1 + ps.length := by
      rw [size, hslots']
      simp only [List.length_append, List.length_cons, List.length_map]
      omega
    have hstep : s.step (.input c.input) = t.confirm := step_of_edit c.request_input hset
    have hR : y.name = p.name ∧ V p.name = some y.value := ⟨hname, hy ▸ hvalue⟩
    rw [List.map_cons, List.cons_append]
    by_cases hend : ps = []
    · -- the last slot has the focus
      subst hend
      obtain rfl := List.forall₂_nil_left_iff.1 hrest
      have hready : t.isReady := isReady_iff.2 (Or.inr (Or.inl (by rw [hsize, hfocus']; rfl)))
      have hending : (s.step (.input c.input)).2 = some (.submitted t.preview) := by
        rw [hstep, confirm_of_ready hready]
      rw [drive_of_some hending]
      exact ⟨t, [y], hslots', htemplate, .cons hR .nil, rfl, rfl⟩
    · -- the last slot is behind the focus and has no value yet
      obtain ⟨q, hq, hkind, hdefault⟩ := hlast
      rw [List.getLast?_cons_of_ne_nil hend] at hq
      have hmem : Slot.ofParameter q ∈ t.slots := by
        rw [hslots']
        exact List.mem_append_right _
          (List.mem_cons_of_mem _ (List.mem_map_of_mem (List.mem_of_getLast? hq)))
      have hempty : (Slot.ofParameter q).value = [] := by
        simp [Slot.ofParameter, hkind, hdefault]
      have hpos : 0 < ps.length := List.length_pos_iff.2 hend
      have hconfirm := confirm_of_not_ready (not_isReady_of_mem hmem hempty (by omega))
      have hnone : (s.step (.input c.input)).2 = none := by rw [hstep, hconfirm]
      have hnext : (s.step (.input c.input)).1 = t.shift .next := by
        rw [hstep, hconfirm, focusNext_eq]
      have hfocus'' : (t.shift .next).focus = (front ++ [y]).length := by
        rw [shift_of_ne (by simp [hslots'])]
        simp only [Direction.step, hsize, hfocus', List.length_append, List.length_singleton]
        exact Nat.mod_eq_of_lt (by omega)
      obtain ⟨u, ys, hu, htemplate', hys, hending, hcount⟩ := ih (by simp [hslots']) hfocus''
        ⟨q, hq, hkind, hdefault⟩
      rw [drive_of_none hnone, hnext]
      refine ⟨u, y :: ys, by simp [hu], by simp [htemplate', htemplate], .cons hR hys, hending, ?_⟩
      simp only [List.length_cons, ← hcount]

/-- Each member of the second list belongs to one of the first. -/
lemma exists_of_forall₂ {α β : Type} {R : α → β → Prop} {as : List α} {bs : List β}
    (h : List.Forall₂ R as bs) {b : β} (hb : b ∈ bs) : ∃ a ∈ as, R a b := by
  obtain ⟨i, hi, rfl⟩ := List.getElem_of_mem hb
  have hi' : i < as.length := h.length_eq.symm ▸ hi
  exact ⟨as[i], List.getElem_mem hi', h.get hi' hi⟩

/-- The slots of a session are those of the parameters of its template, and have the values of
their names: so what is submitted is the template rendered with these values. -/
lemma preview_eq_render {template : Text} (htemplate : s.template = template)
    (hslots : List.Forall₂ (fun p y => y.name = p.name ∧ V p.name = some y.value)
      (TemplateFill.parameters template) s.slots) :
    s.preview = render template V := by
  have hnames : (s.slots.map Slot.name).Nodup := by
    have heq : (TemplateFill.parameters template).map Parameter.name = s.slots.map Slot.name := by
      rw [← List.forall₂_eq_eq_eq, List.forall₂_map_left_iff, List.forall₂_map_right_iff]
      exact hslots.imp fun _ _ h => h.1.symm
    rw [← heq]
    exact nodup_names_parameters template
  have hslot : ∀ q ∈ TemplateFill.parameters template,
      ∃ y ∈ s.slots, y.name = q.name ∧ V q.name = some y.value := by
    intro q hq
    exact exists_of_forall₂ hslots.flip hq
  rw [preview, htemplate]
  refine render_congr fun q hq => ?_
  obtain ⟨y, hy, hname, hvalue⟩ := hslot q hq
  rw [← hname, text_valueOf hnames hy, hname, Values.text, hvalue, Option.getD_some]

/-- Lines for all parameters of a template in order, one for each, fill it in: with the texts and
the options that they give, it is submitted at the last line, and not before.  The last parameter is
free text without a default, no parameter is dynamic, and what is given fits its parameter.  Each
line may end in either way, and what comes after the last one does not count. -/
theorem submitted_of_lines {template : Text} {ends : List Bool}
    (hchoices : List.Forall₂ (fun p c => c.Fits p ∧ V p.name = some (c.value p))
      (TemplateFill.parameters template) cs)
    (hlast : ∃ p, (TemplateFill.parameters template).getLast? = some p ∧ p.kind = .text ∧
      p.default = [])
    (hends : ends.length = cs.length) (n : Nat) (more : List Event) :
    ∃ inputs, decodeBytes ((cs.zip ends).flatMap fun l => ended l.1.line l.2) = ⟨inputs, [], none⟩ ∧
      inputs.length = (TemplateFill.parameters template).length ∧
      ((start n template).run (inputs.map .input ++ more)).ending =
        .submitted (render template V) ∧
      ((start n template).run (inputs.map .input ++ more)).after.length + 1 = inputs.length := by
  have hslots : (start n template).slots =
      [] ++ (TemplateFill.parameters template).map Slot.ofParameter := rfl
  obtain ⟨t, ys, ht, htemplate, hys, hending, hcount⟩ :=
    drive_choices hslots rfl hchoices hlast more
  have hpreview : t.preview = render template V := preview_eq_render htemplate (by rwa [ht])
  have hfst : (cs.zip ends).map Prod.fst = cs := List.map_fst_zip (Nat.le_of_eq hends.symm)
  have hinputs : (cs.zip ends).map (fun l => l.1.input) = cs.map Choice.input := by
    conv_rhs => rw [← hfst, List.map_map]
    rfl
  have hlines : ∀ l ∈ cs.zip ends, IsLine l.1.line ∧ decode? l.1.line = some l.1.input := by
    intro l hl
    obtain ⟨p, -, hfits, -⟩ := exists_of_forall₂ hchoices (List.of_mem_zip hl).1
    exact hfits.decode?_line
  have hevents : (cs.map Choice.input).map Event.input = cs.map fun c => .input c.input := by
    rw [List.map_map]
    rfl
  refine ⟨cs.map Choice.input, ?_, ?_, ?_, ?_⟩
  · rw [decodeBytes_lines _ hlines, hinputs]
  · rw [List.length_map, hchoices.length_eq]
  · rw [hevents, ← hpreview]
    exact hending
  · rw [hevents, List.length_map]
    exact hcount

/-- A default is written over by a text that begins with a colon, an option is chosen by its number,
and the lines end in both ways. -/
theorem submitted_of_lines_ssh :
    let template : Text := "ssh {{user:root}}@{{host|a|*b}} {{command}}"
    let cs : List Choice := [.text ":é", .option 1, .text "ls -l"]
    let bytes := (cs.zip [true, false, true]).flatMap fun l => ended l.1.line l.2
    bytes = Utf8.encode "::é\r\n:1\nls -l\r\n" ∧
      ∃ inputs, decodeBytes bytes = ⟨inputs, [], none⟩ ∧ inputs.length = 3 ∧
        ((start 1 template).run (inputs.map .input ++ [])).ending =
          .submitted "ssh :é@a ls -l" ∧
        ((start 1 template).run (inputs.map .input ++ [])).after.length + 1 = inputs.length := by
  intro template cs bytes
  have hparameters : TemplateFill.parameters template =
      [⟨"user", .text, "root", [], []⟩, ⟨"host", .choice, "b", ["a", "b"], []⟩,
        ⟨"command", .text, [], [], []⟩] := by
    decide +kernel
  let V : Values := Values.ofList [("user", ":é"), ("host", "a"), ("command", "ls -l")]
  have hrender : render template V = "ssh :é@a ls -l".toList := by decide +kernel
  have hchoices : List.Forall₂ (fun p c => c.Fits p ∧ V p.name = some (c.value p))
      (TemplateFill.parameters template) cs := by
    rw [hparameters]
    exact .cons ⟨.text rfl (by decide) (by decide) (by decide), by decide⟩
      (.cons ⟨.option rfl (by decide) (by decide) (by decide), by decide⟩
        (.cons ⟨.text rfl (by decide) (by decide) (by decide), by decide⟩ .nil))
  have hlast : ∃ p, (TemplateFill.parameters template).getLast? = some p ∧ p.kind = .text ∧
      p.default = [] := by
    rw [hparameters]
    exact ⟨_, rfl, rfl, rfl⟩
  have hends : [true, false, true].length = cs.length := rfl
  have hfill := submitted_of_lines hchoices hlast hends 1 []
  rw [hrender, hparameters] at hfill
  exact ⟨by decide, hfill⟩

end Session

end TemplateFill
