import TemplateFill.Host.Prefill
import TemplateFill.Proofs.Session.Lifecycle
import TemplateFill.Proofs.Session.Permission

/-!
# Values that are given in any order

The values that are given to a session come in no fixed order, and each of them is taken or refused
by itself.  The order does not matter: a value goes to the first slot of its name
(`Session.Addresses`), two values for different names go to different slots, and whether a slot
takes a value depends on the slot alone (`Slot.Takes`).

* `Session.assign_eq_ok_iff`: what it takes to give one value, and what comes of it.
* `Session.exists_prefill_iff`: all values are taken if each of them is, at first.
* `Session.Prefilled`: the session that comes of it, described without the order of the values;
  there is no other one (`Session.Prefilled.unique`).
* `Session.prefill_any_order`: what that means for the orders.
-/

namespace TemplateFill

namespace Slot

variable {x : Slot} {value : Text} {os : List Text}

/-- A list takes a value that is one of its options, and free text takes every value, unless it
waits for its command. -/
def Takes (x : Slot) (value : Text) : Prop :=
  (x.options? = none → x.stage ≠ .loading) ∧ ∀ os, x.options? = some os → value ∈ os

/-- The slot with a value that is given.  In a list the cursor goes to the first option that is the
value. -/
def give (x : Slot) (value : Text) : Slot :=
  { x with value := value, cursor := (x.options?.map (·.idxOf value)).getD x.cursor }

@[simp] lemma value_give (x : Slot) (value : Text) : (x.give value).value = value := rfl

lemma edit_setText (hlist : x.options? = none) (h : x.Takes value) :
    x.edit (.setText value) = .ok (x.give value) := by
  have hgive : x.give value = { x with value := value } := by simp [give, hlist]
  rw [hgive]
  exact (Accepts.text (e := .setText value) rfl hlist (h.1 hlist)).edit_eq

lemma edit_idxOf (hos : x.options? = some os) (hmem : value ∈ os) :
    x.edit (.select (os.idxOf value)) = .ok (x.give value) := by
  have hlt : os.idxOf value < os.length := List.idxOf_lt_length_iff.2 hmem
  have hgive : x.choose os ⟨os.idxOf value, hlt⟩ = x.give value := by
    simp [choose, give, hos]
  rw [edit_select hos hlt, hgive]

/-- To be given a value is one of the changes of a slot. -/
lemma Takes.becomes (h : x.Takes value) : x.Becomes (x.give value) := by
  cases hos : x.options? with
  | none => exact .edit (edit_setText hos h)
  | some os => exact .edit (edit_idxOf hos (h.2 os hos))

/-- No list waits for a command. -/
lemma Consistent.takes_iff (hx : x.Consistent) :
    x.Takes value ↔ (∀ os, x.options? = some os → value ∈ os) ∧ x.stage ≠ .loading := by
  constructor
  · rintro ⟨htext, hlist⟩
    refine ⟨hlist, ?_⟩
    cases hos : x.options? with
    | none => exact htext hos
    | some os => rcases hx.stage_of_list hos with h | h <;> simp [h]
  · rintro ⟨hlist, hstage⟩
    exact ⟨fun _ => hstage, hlist⟩

end Slot

namespace Session

variable {s t u : Session} {name name' value : Text} {as : Assignments} {i j : Nat} {x y : Slot}

/-! ### The slot of a name -/

/-- The slot that a name stands for, with its place: the first one of that name. -/
def Addresses (s : Session) (name : Text) (i : Nat) (x : Slot) : Prop :=
  s.indexOf? name = some i ∧ s.slots[i]? = some x

lemma exists_addresses (h : s.indexOf? name = some i) : ∃ x, s.Addresses name i x := by
  obtain ⟨hi, -, -⟩ := List.findIdx?_eq_some_iff_getElem.1 h
  exact ⟨_, h, List.getElem?_eq_getElem hi⟩

lemma Addresses.name_eq (h : s.Addresses name i x) : x.name = name := by
  obtain ⟨hindex, hx⟩ := h
  obtain ⟨hi, hname, -⟩ := List.findIdx?_eq_some_iff_getElem.1 hindex
  obtain rfl := Option.some.inj ((List.getElem?_eq_getElem hi).symm.trans hx)
  exact of_decide_eq_true hname

/-- Different names stand for different slots. -/
lemma Addresses.ne (h : s.Addresses name i x) (h' : s.Addresses name' j y) (hne : name ≠ name') :
    i ≠ j := by
  rintro rfl
  obtain rfl := Option.some.inj (h.2.symm.trans h'.2)
  exact hne (h.name_eq.symm.trans h'.name_eq)

lemma isSome_indexOf? (hx : x ∈ s.slots) : (s.indexOf? x.name).isSome := by
  rw [indexOf?, List.findIdx?_isSome, List.any_eq_true]
  exact ⟨x, hx, decide_eq_true rfl⟩

/-- If no two slots have one name, then each of them is what its name stands for. -/
lemma addresses_of_nodup (hnames : (s.slots.map Slot.name).Nodup) (hx : s.slots[i]? = some x) :
    s.Addresses x.name i x := by
  obtain ⟨j, hj⟩ := Option.isSome_iff_exists.1 (isSome_indexOf? (List.mem_of_getElem? hx))
  obtain ⟨y, hy⟩ := exists_addresses hj
  have hlt : i < (s.slots.map Slot.name).length := by
    simpa using (List.getElem?_eq_some_iff.1 hx).1
  obtain rfl : i = j := by
    refine (List.getElem?_inj hlt hnames).1 ?_
    rw [List.getElem?_map, List.getElem?_map, hx, hy.2, Option.map_some, Option.map_some,
      hy.name_eq]
  exact ⟨hj, hx⟩

lemma indexOf?_eq (s : Session) (name : Text) :
    s.indexOf? name = (s.parameters.map Parameter.name).findIdx? (· = name) := by
  rw [parameters, List.map_map, List.findIdx?_map]
  rfl

/-- What name stands for which place does not change. -/
lemma SameFrame.indexOf?_eq (h : SameFrame s t) (name : Text) :
    t.indexOf? name = s.indexOf? name := by
  rw [Session.indexOf?_eq, Session.indexOf?_eq, h.parameters_eq]

/-! ### One value -/

lemma assign_text (h : s.Addresses name i x) (hos : x.options? = none) :
    s.assign name value = (s.edit i (.setText value)).mapError .refused := by
  simp [assign, h.1, h.2, hos, Except.bind]

lemma assign_option {os : List Text} (h : s.Addresses name i x) (hos : x.options? = some os)
    (hmem : value ∈ os) :
    s.assign name value = (s.edit i (.select (os.idxOf value))).mapError .refused := by
  simp [assign, h.1, h.2, hos, Text.idxOf?_of_mem hmem, Except.bind]

lemma assign_of_notMem {os : List Text} (h : s.Addresses name i x) (hos : x.options? = some os)
    (hmem : value ∉ os) : s.assign name value = .error (.noSuchOption name value) := by
  simp [assign, h.1, h.2, hos, List.idxOf?_eq_none_iff.2 hmem, Except.bind]

lemma edit_eq_give {e : Edit} (hx : s.slots[i]? = some x) (h : x.edit e = .ok (x.give value)) :
    (s.edit i e).mapError PrefillFault.refused = .ok (s.setSlot i (x.give value)) := by
  rw [edit_eq_ok_iff.2 ⟨x, _, hx, h, rfl⟩]
  rfl

lemma assign_of_takes (h : s.Addresses name i x) (htakes : x.Takes value) :
    s.assign name value = .ok (s.setSlot i (x.give value)) := by
  cases hos : x.options? with
  | none =>
    rw [assign_text h hos]
    exact edit_eq_give h.2 (Slot.edit_setText hos htakes)
  | some os =>
    have hmem : value ∈ os := htakes.2 os hos
    rw [assign_option h hos hmem]
    exact edit_eq_give h.2 (Slot.edit_idxOf hos hmem)

/-- A value is taken if there is a slot of the name, and the first one takes it; this slot then has
the value. -/
theorem assign_eq_ok_iff :
    s.assign name value = .ok t ↔
      ∃ i x, s.Addresses name i x ∧ x.Takes value ∧ t = s.setSlot i (x.give value) := by
  constructor
  · intro h
    cases hi : s.indexOf? name with
    | none => exact absurd h (by simp [assign, hi])
    | some i =>
      obtain ⟨x, hx⟩ := exists_addresses hi
      have htakes : x.Takes value := by
        refine ⟨fun hos hstage => ?_, fun os hos => ?_⟩
        · have hrefuses : x.Refuses (.setText value) (.stillLoading x.name) :=
            .stillLoading _ hos hstage
          rw [assign_text hx hos, edit_eq_error hx.2 hrefuses.edit_eq] at h
          exact absurd h (by simp [Except.mapError])
        · by_contra hmem
          rw [assign_of_notMem hx hos hmem] at h
          exact absurd h (by simp)
      exact ⟨i, x, hx, htakes, Except.ok.inj (h.symm.trans (assign_of_takes hx htakes))⟩
  · rintro ⟨i, x, hx, htakes, rfl⟩
    exact assign_of_takes hx htakes

lemma assign_sameFrame (h : s.assign name value = .ok t) : SameFrame s t := by
  obtain ⟨i, x, hx, htakes, rfl⟩ := assign_eq_ok_iff.1 h
  exact (Moves.slot hx.2 htakes.becomes).sameFrame

/-- What another name stands for is as it was. -/
lemma addresses_of_assign (h : s.assign name value = .ok t) (hne : name' ≠ name) :
    t.Addresses name' j y ↔ s.Addresses name' j y := by
  have hindex := (assign_sameFrame h).indexOf?_eq name'
  obtain ⟨i, x, hx, -, rfl⟩ := assign_eq_ok_iff.1 h
  rw [Addresses, Addresses, hindex]
  refine and_congr_right fun hj => ?_
  obtain ⟨z, hz⟩ := exists_addresses hj
  rw [getElem?_setSlot_ne (hx.ne hz (Ne.symm hne))]

/-! ### All values -/

lemma prefill_cons_iff {a : Text × Text} :
    s.prefill (a :: as) = .ok t ↔ ∃ u, s.assign a.1 a.2 = .ok u ∧ u.prefill as = .ok t := by
  rw [prefill, List.foldlM_cons]
  cases hu : s.assign a.1 a.2 with
  | error fault => simp [bind, Except.bind]
  | ok u => simp [bind, Except.bind, prefill]

/-- What a change of a slot keeps, the giving of values keeps. -/
lemma prefill_preserves {P : Session → Prop}
    (hP : ∀ {s : Session} {i : Nat} {x y : Slot}, s.slots[i]? = some x → x.Becomes y → P s →
      P (s.setSlot i y))
    (h : s.prefill as = .ok t) (hs : P s) : P t := by
  induction as generalizing s with
  | nil =>
    obtain rfl := Except.ok.inj h
    exact hs
  | cons a as ih =>
    obtain ⟨u, hu, h⟩ := prefill_cons_iff.1 h
    obtain ⟨i, x, hx, htakes, rfl⟩ := assign_eq_ok_iff.1 hu
    exact ih h (hP hx.2 htakes.becomes hs)

lemma prefill_sameFrame (h : s.prefill as = .ok t) : SameFrame s t :=
  prefill_preserves (fun hx hy h => h.trans (Moves.slot hx hy).sameFrame) h (.refl s)

/-- A pair of a name and a value can be given: there is a slot of the name, and the first one takes
the value. -/
def Admits (s : Session) (a : Text × Text) : Prop := ∃ i x, s.Addresses a.1 i x ∧ x.Takes a.2

lemma admits_of_assign {b : Text × Text} (h : s.assign name value = .ok t) (hne : b.1 ≠ name) :
    t.Admits b ↔ s.Admits b := by
  simp only [Admits, addresses_of_assign h hne]

/-- All values can be given one after the other if each of them can be given first. -/
theorem exists_prefill_iff (has : (as.map Prod.fst).Nodup) :
    (∃ t, s.prefill as = .ok t) ↔ ∀ a ∈ as, s.Admits a := by
  induction as generalizing s with
  | nil => exact ⟨fun _ => by simp, fun _ => ⟨s, rfl⟩⟩
  | cons a as ih =>
    obtain ⟨ha, has⟩ := List.nodup_cons.1 has
    have hne : ∀ b ∈ as, b.1 ≠ a.1 := fun b hb heq => ha (heq ▸ List.mem_map_of_mem hb)
    rw [List.forall_mem_cons]
    constructor
    · rintro ⟨t, h⟩
      obtain ⟨u, hu, hrest⟩ := prefill_cons_iff.1 h
      obtain ⟨i, x, hx, htakes, -⟩ := assign_eq_ok_iff.1 hu
      refine ⟨⟨i, x, hx, htakes⟩, fun b hb => ?_⟩
      exact (admits_of_assign hu (hne b hb)).1 ((ih has).1 ⟨t, hrest⟩ b hb)
    · rintro ⟨⟨i, x, hx, htakes⟩, hrest⟩
      have hu := assign_of_takes hx htakes
      obtain ⟨t, ht⟩ := (ih has).2 fun b hb => (admits_of_assign hu (hne b hb)).2 (hrest b hb)
      exact ⟨t, prefill_cons_iff.2 ⟨_, hu, ht⟩⟩

/-- A session to which values are given: the first slot of each name has the value, and all else is
as it was. -/
structure Prefilled (s : Session) (as : Assignments) (t : Session) : Prop where
  sameFrame : SameFrame s t
  focus_eq : t.focus = s.focus
  slot_given : ∀ a ∈ as, ∀ i x, s.Addresses a.1 i x → t.slots[i]? = some (x.give a.2)
  slot_kept : ∀ i, (∀ a ∈ as, s.indexOf? a.1 ≠ some i) → t.slots[i]? = s.slots[i]?

lemma Prefilled.perm {order : Assignments} (hp : order.Perm as) (h : s.Prefilled order t) :
    s.Prefilled as t :=
  ⟨h.sameFrame, h.focus_eq, fun a ha => h.slot_given a (hp.mem_iff.2 ha),
    fun i hi => h.slot_kept i fun a ha => hi a (hp.mem_iff.1 ha)⟩

/-- The values decide what the session is. -/
lemma Prefilled.unique (h : s.Prefilled as t) (h' : s.Prefilled as u) : t = u := by
  have hslots : t.slots = u.slots := by
    refine List.ext_getElem? fun i => ?_
    by_cases hi : ∃ a ∈ as, s.indexOf? a.1 = some i
    · obtain ⟨a, ha, hindex⟩ := hi
      obtain ⟨x, hx⟩ := exists_addresses hindex
      rw [h.slot_given a ha i x hx, h'.slot_given a ha i x hx]
    · have hkept : ∀ a ∈ as, s.indexOf? a.1 ≠ some i := fun a ha hindex => hi ⟨a, ha, hindex⟩
      rw [h.slot_kept i hkept, h'.slot_kept i hkept]
  obtain ⟨id, template, slots, focus⟩ := t
  obtain ⟨id', template', slots', focus'⟩ := u
  obtain ⟨⟨rfl, rfl, -⟩, rfl, -, -⟩ := h
  obtain ⟨⟨rfl, rfl, -⟩, rfl, -, -⟩ := h'
  obtain rfl := hslots
  rfl

/-- Values for different names are given without any of them undoing another. -/
theorem prefilled (has : (as.map Prod.fst).Nodup) (h : s.prefill as = .ok t) :
    s.Prefilled as t := by
  induction as generalizing s with
  | nil =>
    obtain rfl := Except.ok.inj h
    exact ⟨.refl s, rfl, by simp, fun _ _ => rfl⟩
  | cons a as ih =>
    obtain ⟨ha, has⟩ := List.nodup_cons.1 has
    obtain ⟨u, hu, hrest⟩ := prefill_cons_iff.1 h
    have hut := ih has hrest
    have hframe := assign_sameFrame hu
    have hne : ∀ b ∈ as, b.1 ≠ a.1 := fun b hb heq => ha (heq ▸ List.mem_map_of_mem hb)
    obtain ⟨i, x, hx, htakes, hset⟩ := assign_eq_ok_iff.1 hu
    have hxu : u.slots[i]? = some (x.give a.2) := by
      rw [hset]
      exact getElem?_setSlot_self hx.2 _
    refine ⟨hframe.trans hut.sameFrame, ?_, ?_, fun j hj => ?_⟩
    · rw [hut.focus_eq, hset]
      rfl
    · intro b hb j y hy
      rcases List.mem_cons.1 hb with rfl | hb
      · -- no later value goes to this slot
        obtain rfl : i = j := Option.some.inj (hx.1.symm.trans hy.1)
        obtain rfl := Option.some.inj (hx.2.symm.trans hy.2)
        rw [← hxu]
        refine hut.slot_kept i fun c hc hindex => ?_
        rw [hframe.indexOf?_eq] at hindex
        obtain ⟨z, hz⟩ := exists_addresses hindex
        exact hx.ne hz (Ne.symm (hne c hc)) rfl
      · exact hut.slot_given b hb j y ((addresses_of_assign hu (hne b hb)).2 hy)
    · have hij : i ≠ j := fun heq => hj a List.mem_cons_self (heq ▸ hx.1)
      rw [hut.slot_kept j fun b hb => ?_, hset, getElem?_setSlot_ne hij]
      rw [hframe.indexOf?_eq]
      exact hj b (List.mem_cons_of_mem _ hb)

/-- Values are given to a session in some order, each name having one at most.

In every order they are taken if every name is that of a parameter, every value for a list is one of
its options, and no parameter that a value is for waits for its command.  If they are taken, then
the session is the same for all orders.  The first slot of each name has the value, in a list with
the cursor on the first option that is the value; all other slots are as they were, and so are the
stages, the focus, and what the session was started with. -/
theorem prefill_any_order (hs : s.Reachable) (has : (as.map Prod.fst).Nodup) :
    (∀ order, order.Perm as → ((∃ t, s.prefill order = .ok t) ↔
        ∀ a ∈ as, ∃ i x, s.indexOf? a.1 = some i ∧ s.slots[i]? = some x ∧
          (∀ os, x.options? = some os → a.2 ∈ os) ∧ x.stage ≠ .loading)) ∧
      ∀ t, s.prefill as = .ok t →
        (∀ order, order.Perm as → s.prefill order = .ok t) ∧
        (∀ a ∈ as, ∀ i x, s.indexOf? a.1 = some i → s.slots[i]? = some x →
          t.slots[i]? = some
            { x with
              value := a.2
              cursor := (x.options?.map (·.idxOf a.2)).getD x.cursor }) ∧
        (∀ i, (∀ a ∈ as, s.indexOf? a.1 ≠ some i) → t.slots[i]? = s.slots[i]?) ∧
        t.focus = s.focus ∧ SameFrame s t := by
  have hnodup : ∀ {order : Assignments}, order.Perm as → (order.map Prod.fst).Nodup :=
    fun hp => (hp.map Prod.fst).nodup_iff.2 has
  have hadmits : ∀ {order : Assignments}, order.Perm as →
      ((∃ t, s.prefill order = .ok t) ↔ ∀ a ∈ as, s.Admits a) := by
    intro order hp
    rw [exists_prefill_iff (hnodup hp)]
    exact forall_congr' fun a => imp_congr_left hp.mem_iff
  refine ⟨fun order hp => ?_, fun t ht => ?_⟩
  · rw [hadmits hp]
    refine forall₂_congr fun a _ => exists₂_congr fun i x => ?_
    rw [Addresses, and_assoc]
    refine and_congr_right fun _ => and_congr_right fun hx => ?_
    exact (hs.consistent.slots x (List.mem_of_getElem? hx)).takes_iff
  · have hst := prefilled has ht
    refine ⟨fun order hp => ?_, fun a ha i x hi hx => hst.slot_given a ha i x ⟨hi, hx⟩,
      hst.slot_kept, hst.focus_eq, hst.sameFrame⟩
    obtain ⟨u, hu⟩ := (hadmits hp).2 ((hadmits (.refl as)).1 ⟨t, ht⟩)
    rw [hu, hst.unique ((prefilled (hnodup hp) hu).perm hp)]

/-- Two slots have the name that is given a value, and an option stands twice in the list that a
command has printed.  In the other order the same session comes of it, and a value that the command
has not printed is refused in either order. -/
theorem prefill_any_order_repeated :
    let s := (withParameters 4 "{{n}}{{b!ls}}"
        [⟨"b", .dynamic, [], [], "ls"⟩, .free "n" "p", .free "n" "q"]).after
      [.deliver ⟨4, 0, .options ["u", "v", "v"]⟩, .focusNext]
    let t : Session := ⟨4, "{{n}}{{b!ls}}",
      [⟨⟨"b", .dynamic, [], [], "ls"⟩, .resolved ["u", "v", "v"], "v", 1⟩,
        ⟨.free "n" "p", .awaitingInput, "w", 0⟩, ⟨.free "n" "q", .awaitingInput, "q", 0⟩], 1⟩
    s.Reachable ∧ s.prefill [("n", "w"), ("b", "v")] = .ok t ∧
      s.prefill [("b", "v"), ("n", "w")] = .ok t ∧
      ¬ ∃ u, s.prefill [("b", "w"), ("n", "w")] = .ok u := by
  intro s t
  have hs : s.Reachable := ⟨4, _, _, _, rfl⟩
  have ht : s.prefill [("n", "w"), ("b", "v")] = .ok t := by decide +kernel
  have hb : s.Addresses "b" 0
      ⟨⟨"b", .dynamic, [], [], "ls"⟩, .resolved ["u", "v", "v"], "u", 0⟩ :=
    ⟨by decide +kernel, by decide +kernel⟩
  have hnames : (([("n", "w"), ("b", "v")] : Assignments).map Prod.fst).Nodup := by decide
  have hnames' : (([("n", "w"), ("b", "w")] : Assignments).map Prod.fst).Nodup := by decide
  refine ⟨hs, ht, ((prefill_any_order hs hnames).2 t ht).1 _ (.swap ..), fun hu => ?_⟩
  have hall := ((prefill_any_order hs hnames').1 _ (.swap ..)).1 hu
  obtain ⟨i, x, hi, hx, hmem, -⟩ := hall ("b", "w") (by simp)
  obtain rfl := Option.some.inj (hi.symm.trans hb.1)
  obtain rfl := Option.some.inj (hx.symm.trans hb.2)
  exact absurd (hmem ["u", "v", "v"] rfl) (by decide)

end Session

end TemplateFill
