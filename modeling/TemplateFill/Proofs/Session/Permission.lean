import TemplateFill.Proofs.Session.Invariant

/-!
# Which edits are accepted

Whether an edit is accepted depends on the slot alone: on whether it has a list, on what is in the
list, and on whether it still waits for its command.  `Slot.Accepts` has one rule for each kind of
edit that is accepted, with the slot after it, and `Slot.Refuses` one for each reason to refuse.

* `Slot.accepts_or_refuses`: no edit falls between the rules.
* `Slot.edit_eq_ok_iff`, `Slot.edit_eq_error_iff`: edits are made by these rules.
* `Session.edits_decided`: what that means for a session, which a refused edit leaves as it is, and
  of which an accepted one changes the value and the cursor of one slot.
-/

namespace TemplateFill

/-- What an edit of text makes of the text; a move of the cursor is none. -/
def Edit.onText? : Edit → Option (Text → Text)
  | .setText t => some fun _ => t
  | .push c => some (· ++ [c])
  | .pop => some List.dropLast
  | .move _ | .select _ => none

@[simp] lemma Edit.onText?_move (d : Direction) : (Edit.move d).onText? = none := rfl

@[simp] lemma Edit.onText?_select (k : Nat) : (Edit.select k).onText? = none := rfl

lemma Edit.eq_of_onText?_eq_none {e : Edit} (h : e.onText? = none) :
    (∃ d, e = .move d) ∨ ∃ k, e = .select k := by
  cases e with
  | move d => exact Or.inl ⟨d, rfl⟩
  | select k => exact Or.inr ⟨k, rfl⟩
  | setText t => exact absurd h (by simp [Edit.onText?])
  | push c => exact absurd h (by simp [Edit.onText?])
  | pop => exact absurd h (by simp [Edit.onText?])

namespace Slot

variable {x y : Slot} {e : Edit} {r : Refusal}

/-! ### The rules -/

/-- The edits that a slot accepts, with the slot after each of them. -/
inductive Accepts (x : Slot) : Edit → Slot → Prop
  /-- A slot without a list takes text, unless its command is still to report. -/
  | text {e : Edit} {f : Text → Text} (he : e.onText? = some f) (hlist : x.options? = none)
      (hstage : x.stage ≠ .loading) : Accepts x e { x with value := f x.value }
  /-- The cursor takes a step in a list that has options. -/
  | move {os : List Text} (hos : x.options? = some os) (hpos : 0 < os.length) (d : Direction) :
      Accepts x (.move d) (x.choose os ⟨d.step x.cursor os.length, d.step_lt x.cursor hpos⟩)
  /-- The cursor jumps to an option of a list. -/
  | select {os : List Text} (hos : x.options? = some os) {k : Nat} (hk : k < os.length) :
      Accepts x (.select k) (x.choose os ⟨k, hk⟩)

/-- The edits that a slot refuses, with the reasons. -/
inductive Refuses (x : Slot) : Edit → Refusal → Prop
  /-- A list takes no text, and be it a list without options. -/
  | isList {e : Edit} {os : List Text} (he : e.onText?.isSome) (hos : x.options? = some os) :
      Refuses x e (.isList x.name)
  /-- A slot that waits for its command takes nothing. -/
  | stillLoading (e : Edit) (hlist : x.options? = none) (hstage : x.stage = .loading) :
      Refuses x e (.stillLoading x.name)
  /-- There is no cursor where there is no list. -/
  | isNotList {e : Edit} (he : e.onText? = none) (hlist : x.options? = none)
      (hstage : x.stage ≠ .loading) : Refuses x e (.isNotList x.name)
  /-- There is nothing to choose in a list without options, whichever place is asked for. -/
  | noOptions {e : Edit} (he : e.onText? = none) (hos : x.options? = some []) :
      Refuses x e (.noOptions x.name)
  | outOfRange {os : List Text} (hos : x.options? = some os) (hpos : 0 < os.length) {k : Nat}
      (hk : os.length ≤ k) : Refuses x (.select k) (.outOfRange x.name k os.length)

/-! ### Edits are made by the rules -/

lemma edit_of_onText? {f : Text → Text} (he : e.onText? = some f) (x : Slot) :
    x.edit e = x.editText f := by
  cases e with
  | move d => exact absurd he (by simp)
  | select k => exact absurd he (by simp)
  | setText t => obtain rfl := Option.some.inj he; rfl
  | push c => obtain rfl := Option.some.inj he; rfl
  | pop => obtain rfl := Option.some.inj he; rfl

lemma Accepts.edit_eq (h : x.Accepts e y) : x.edit e = .ok y := by
  cases h with
  | text he hlist hstage =>
    rw [edit_of_onText? he, editText, if_neg (by simp [isList, hlist]), if_neg hstage]
  | move hos hpos d => simp [edit, editList, hos, hpos, Except.map]
  | select hos hk => exact edit_select hos hk

lemma Refuses.edit_eq (h : x.Refuses e r) : x.edit e = .error r := by
  cases h with
  | isList he hos =>
    obtain ⟨f, hf⟩ := Option.isSome_iff_exists.1 he
    rw [edit_of_onText? hf, editText, if_pos (by simp [Slot.isList, hos])]
  | stillLoading _ hlist hstage =>
    cases e <;> simp [edit, editText, editList, Slot.isList, hlist, hstage]
  | isNotList he hlist hstage =>
    rcases Edit.eq_of_onText?_eq_none he with ⟨d, rfl⟩ | ⟨k, rfl⟩ <;>
      simp [edit, editList, hlist, hstage]
  | noOptions he hos =>
    rcases Edit.eq_of_onText?_eq_none he with ⟨d, rfl⟩ | ⟨k, rfl⟩ <;> simp [edit, editList, hos]
  | outOfRange hos hpos hk => simp [edit, editList, hos, hpos, Nat.not_lt.2 hk, Except.map]

/-- There is a rule for every edit of every slot. -/
theorem accepts_or_refuses (x : Slot) (e : Edit) :
    (∃ y, x.Accepts e y) ∨ ∃ r, x.Refuses e r := by
  cases hf : e.onText? with
  | some f =>
    cases hos : x.options? with
    | some os => exact Or.inr ⟨_, .isList (by simp [hf]) hos⟩
    | none =>
      by_cases hstage : x.stage = .loading
      · exact Or.inr ⟨_, .stillLoading e hos hstage⟩
      · exact Or.inl ⟨_, .text hf hos hstage⟩
  | none =>
    cases hos : x.options? with
    | none =>
      by_cases hstage : x.stage = .loading
      · exact Or.inr ⟨_, .stillLoading e hos hstage⟩
      · exact Or.inr ⟨_, .isNotList hf hos hstage⟩
    | some os =>
      -- whether there are options comes before whether the place is one of them
      rcases Nat.eq_zero_or_pos os.length with hnil | hpos
      · obtain rfl := List.length_eq_zero_iff.1 hnil
        exact Or.inr ⟨_, .noOptions hf hos⟩
      · rcases Edit.eq_of_onText?_eq_none hf with ⟨d, rfl⟩ | ⟨k, rfl⟩
        · exact Or.inl ⟨_, .move hos hpos d⟩
        · by_cases hk : k < os.length
          · exact Or.inl ⟨_, .select hos hk⟩
          · exact Or.inr ⟨_, .outOfRange hos hpos (Nat.not_lt.1 hk)⟩

theorem edit_eq_ok_iff : x.edit e = .ok y ↔ x.Accepts e y := by
  refine ⟨fun h => ?_, Accepts.edit_eq⟩
  rcases accepts_or_refuses x e with ⟨z, hz⟩ | ⟨r, hr⟩
  · obtain rfl : y = z := Except.ok.inj (h.symm.trans hz.edit_eq)
    exact hz
  · exact absurd (h.symm.trans hr.edit_eq) (by simp)

theorem edit_eq_error_iff : x.edit e = .error r ↔ x.Refuses e r := by
  refine ⟨fun h => ?_, Refuses.edit_eq⟩
  rcases accepts_or_refuses x e with ⟨y, hy⟩ | ⟨r', hr⟩
  · exact absurd (h.symm.trans hy.edit_eq) (by simp)
  · obtain rfl : r = r' := Except.error.inj (h.symm.trans hr.edit_eq)
    exact hr

/-! ### What the rules come to -/

lemma exists_accepts_text_iff {f : Text → Text} (he : e.onText? = some f) :
    (∃ y, x.Accepts e y) ↔ x.options? = none ∧ x.stage ≠ .loading := by
  constructor
  · rintro ⟨y, h⟩
    cases h with
    | text _ hlist hstage => exact ⟨hlist, hstage⟩
    | move _ _ d => exact absurd he (by simp)
    | select _ _ => exact absurd he (by simp)
  · rintro ⟨hlist, hstage⟩
    exact ⟨_, .text he hlist hstage⟩

lemma exists_accepts_move_iff {d : Direction} :
    (∃ y, x.Accepts (.move d) y) ↔ ∃ os, x.options? = some os ∧ os ≠ [] := by
  constructor
  · rintro ⟨y, h⟩
    cases h with
    | text he => exact absurd he (by simp)
    | move hos hpos => exact ⟨_, hos, List.length_pos_iff.1 hpos⟩
  · rintro ⟨os, hos, hne⟩
    exact ⟨_, .move hos (List.length_pos_iff.2 hne) d⟩

lemma exists_accepts_select_iff {k : Nat} :
    (∃ y, x.Accepts (.select k) y) ↔ ∃ os, x.options? = some os ∧ k < os.length := by
  constructor
  · rintro ⟨y, h⟩
    cases h with
    | text he => exact absurd he (by simp)
    | select hos hk => exact ⟨_, hos, hk⟩
  · rintro ⟨os, hos, hk⟩
    exact ⟨_, .select hos hk⟩

/-- An accepted move of the cursor leaves the list as it is, with the option under the cursor as
the value. -/
lemma Accepts.of_onText?_eq_none (h : x.Accepts e y) (he : e.onText? = none) :
    ∃ os, x.options? = some os ∧ y.options? = some os ∧ y.Shows os ∧
      y = { x with value := y.value, cursor := y.cursor } := by
  cases h with
  | text hf => exact absurd (he.symm.trans hf) (by simp)
  | move hos hpos d => exact ⟨_, hos, hos, shows_choose x _ _, rfl⟩
  | select hos hk => exact ⟨_, hos, hos, shows_choose x _ _, rfl⟩

lemma Accepts.of_onText?_eq_some (h : x.Accepts e y) {f : Text → Text} (he : e.onText? = some f) :
    y = { x with value := f x.value } := by
  cases h with
  | text hf =>
    obtain rfl := Option.some.inj (he.symm.trans hf)
    rfl
  | move _ _ d => exact absurd he (by simp)
  | select _ _ => exact absurd he (by simp)

/-- A list does not wait for a command, so that such a slot is refused everything for one reason. -/
lemma Consistent.refuses_stillLoading (hx : x.Consistent) (hstage : x.stage = .loading) (e : Edit) :
    x.Refuses e (.stillLoading x.name) := by
  refine .stillLoading e ?_ hstage
  have hk := hx.kind_of_loading hstage
  rw [options?_of_ne (by simp [hstage]), if_neg (by simp [hk])]

end Slot

namespace Session

variable {s : Session} {i : Nat} {x y : Slot} {e : Edit} {r : Refusal}

lemma perform_edit_of_accepts (hx : s.slots[i]? = some x) (h : x.Accepts e y) :
    s.perform (.edit i e) = (s.setSlot i y, .edited none) :=
  perform_edit_of_ok (edit_eq_ok_iff.2 ⟨x, y, hx, h.edit_eq, rfl⟩)

lemma perform_edit_of_refuses (hx : s.slots[i]? = some x) (h : x.Refuses e r) :
    s.perform (.edit i e) = (s, .edited (some r)) :=
  perform_edit_of_error (edit_eq_error hx h.edit_eq)

/-- Which edits of a session are accepted, and what becomes of the session.

There has to be a slot at the place, and then the rules of the slot decide: an edit is accepted or
refused, and not both.  Text is accepted where there is no list and nothing to wait for, a step of
the cursor where there is a list with options, and a jump where the option is in the list.  So no
slot accepts text and a move of the cursor.  A slot that waits for its command refuses everything
for that reason.

A refused edit leaves the session as it is.  An accepted one changes one slot, and of it the value
only, or the cursor along with the value, which is then the option under the cursor. -/
theorem edits_decided (s : Session) (i : Nat) :
    (s.size ≤ i → ∀ e, s.perform (.edit i e) = (s, .edited (some (.unknownParameter i)))) ∧
      ∀ x, s.slots[i]? = some x →
        ((∀ e y, s.perform (.edit i e) = (s.setSlot i y, .edited none) ↔ x.Accepts e y) ∧
          (∀ e r, s.perform (.edit i e) = (s, .edited (some r)) ↔ x.Refuses e r) ∧
          ∀ e, (∃ y, x.Accepts e y) ∨ ∃ r, x.Refuses e r) ∧
        ((∀ e f, e.onText? = some f →
            ((∃ y, x.Accepts e y) ↔ x.options? = none ∧ x.stage ≠ .loading)) ∧
          (∀ d, (∃ y, x.Accepts (.move d) y) ↔ ∃ os, x.options? = some os ∧ os ≠ []) ∧
          (∀ k, (∃ y, x.Accepts (.select k) y) ↔ ∃ os, x.options? = some os ∧ k < os.length) ∧
          ¬∃ e y e' y', x.Accepts e y ∧ e.onText?.isSome ∧ x.Accepts e' y' ∧ e'.onText? = none) ∧
        (s.Consistent → x.stage = .loading → ∀ e, x.Refuses e (.stillLoading x.name)) ∧
        ∀ e y, x.Accepts e y →
          (∀ f, e.onText? = some f → y = { x with value := f x.value }) ∧
            (e.onText? = none → ∃ os, x.options? = some os ∧ y.options? = some os ∧ y.Shows os ∧
              y = { x with value := y.value, cursor := y.cursor }) := by
  refine ⟨fun hi e => ?_, fun x hx => ⟨⟨fun e y => ?_, fun e r => ?_, x.accepts_or_refuses⟩,
    ⟨fun e f he => Slot.exists_accepts_text_iff he, fun d => Slot.exists_accepts_move_iff,
      fun k => Slot.exists_accepts_select_iff, ?_⟩, fun hs hstage => ?_, fun e y h => ?_⟩⟩
  · have hnone : s.slots[i]? = none := List.getElem?_eq_none hi
    exact perform_edit_of_error (by simp [edit, hnone])
  · refine ⟨fun h => ?_, perform_edit_of_accepts hx⟩
    rcases x.accepts_or_refuses e with ⟨z, hz⟩ | ⟨r, hr⟩
    · -- the slot at the place tells the two results apart
      have hset : s.setSlot i y = s.setSlot i z :=
        congrArg Prod.fst (h.symm.trans (perform_edit_of_accepts hx hz))
      have hyz := (getElem?_setSlot_self hx y).symm.trans
        ((congrArg (·.slots[i]?) hset).trans (getElem?_setSlot_self hx z))
      obtain rfl := Option.some.inj hyz
      exact hz
    · have hanswer := congrArg Prod.snd (h.symm.trans (perform_edit_of_refuses hx hr))
      exact absurd hanswer (by simp)
  · refine ⟨fun h => ?_, perform_edit_of_refuses hx⟩
    rcases x.accepts_or_refuses e with ⟨z, hz⟩ | ⟨r', hr⟩
    · have hanswer := congrArg Prod.snd (h.symm.trans (perform_edit_of_accepts hx hz))
      exact absurd hanswer (by simp)
    · have hanswer := congrArg Prod.snd (h.symm.trans (perform_edit_of_refuses hx hr))
      obtain rfl : r = r' := by simpa using hanswer
      exact hr
  · rintro ⟨e, y, e', y', h, he, h', he'⟩
    obtain ⟨f, hf⟩ := Option.isSome_iff_exists.1 he
    obtain ⟨hlist, -⟩ := (Slot.exists_accepts_text_iff hf).1 ⟨y, h⟩
    obtain ⟨os, hos, -⟩ := h'.of_onText?_eq_none he'
    exact absurd (hlist.symm.trans hos) (by simp)
  · exact (hs.slots x (List.mem_of_getElem? hx)).refuses_stillLoading hstage
  · exact ⟨fun f => h.of_onText?_eq_some, h.of_onText?_eq_none⟩

/-- A list with two options, one without any, and a parameter that waits.  A jump behind the end of
the second is refused because it has no options, not because of the place. -/
theorem edits_decided_three_slots :
    let ps : List Parameter :=
      [⟨['e'], .choice, ['q'], [['p'], ['q']], []⟩, ⟨['n'], .choice, [], [], []⟩,
        ⟨['d'], .dynamic, ['v'], [], ['x']⟩]
    let s := withParameters 1 [] ps
    let x : Slot := ⟨⟨['e'], .choice, ['q'], [['p'], ['q']], []⟩, .awaitingInput, ['q'], 1⟩
    let y : Slot := ⟨⟨['n'], .choice, [], [], []⟩, .awaitingInput, [], 0⟩
    let z : Slot := ⟨⟨['d'], .dynamic, ['v'], [], ['x']⟩, .loading, [], 0⟩
    s.slots = [x, y, z] ∧ s.Consistent ∧
      s.perform (.edit 0 (.move .next)) =
        (s.setSlot 0 { x with value := ['p'], cursor := 0 }, .edited none) ∧
      s.perform (.edit 0 (.select 2)) = (s, .edited (some (.outOfRange ['e'] 2 2))) ∧
      s.perform (.edit 0 .pop) = (s, .edited (some (.isList ['e']))) ∧
      s.perform (.edit 1 (.select 9)) = (s, .edited (some (.noOptions ['n']))) ∧
      s.perform (.edit 2 (.push 'c')) = (s, .edited (some (.stillLoading ['d']))) ∧
      s.perform (.edit 3 (.setText [])) = (s, .edited (some (.unknownParameter 3))) := by
  intro ps s x y z
  have hs : s.Consistent := consistent_withParameters 1 [] ps
  have hsize : s.size ≤ 3 := by decide
  have hx : x.options? = some [['p'], ['q']] := rfl
  obtain ⟨hunknown, -⟩ := edits_decided s 3
  obtain ⟨⟨haccept, hrefuse, -⟩, -⟩ := (edits_decided s 0).2 x rfl
  obtain ⟨⟨-, hempty, -⟩, -⟩ := (edits_decided s 1).2 y rfl
  obtain ⟨⟨-, hwait, -⟩, -, hloading, -⟩ := (edits_decided s 2).2 z rfl
  refine ⟨rfl, hs, (haccept _ _).2 ?_, (hrefuse _ _).2 ?_, (hrefuse _ _).2 ?_, (hempty _ _).2 ?_,
    (hwait _ _).2 (hloading hs rfl _), hunknown hsize _⟩
  · have hnext : x.choose [['p'], ['q']] ⟨Direction.next.step 1 2, by decide⟩ =
        { x with value := ['p'], cursor := 0 } := by decide
    rw [← hnext]
    exact .move hx (by decide) .next
  · exact .outOfRange hx (by decide) (by decide)
  · exact .isList rfl hx
  · exact .noOptions rfl rfl

end Session

end TemplateFill
