import Mathlib.Algebra.Group.Nat.Defs
import Mathlib.Order.Monotone.Basic
import TemplateFill.Proofs.Number.Checked
import TemplateFill.Proofs.Session.Invariant

/-!
# The window follows the cursor

The window around a cursor holds the cursor, is as high as it may be, and never reaches beyond the
list (`Window.around_bounds`).  As the cursor goes down the list the window goes down with it, and
never by more than one row when the cursor goes to the next option (`Window.start_succ`).

The numbers from which a window is computed have 64 bits.  `Window.aroundChecked` computes it with
sums and differences that fail if they leave that range, and they do not fail as long as the list has
fewer than `2 ^ 63` options (`Window.aroundChecked_eq`).

* `Session.window_shows_cursor`: the window of a list shows the option that is chosen.
-/

namespace TemplateFill

/-- A step takes the cursor to the neighbouring option, or from one end of the list to the other. -/
lemma Direction.step_cases (d : Direction) {cursor size : Nat} (h : cursor < size) :
    d.step cursor size = cursor + 1 ∨ cursor = d.step cursor size + 1 ∨
      cursor = 0 ∧ d.step cursor size + 1 = size ∨ cursor + 1 = size ∧ d.step cursor size = 0 := by
  cases d with
  | next =>
    rw [step]
    by_cases hlast : cursor + 1 = size
    · exact Or.inr (Or.inr (Or.inr ⟨hlast, by rw [hlast, Nat.mod_self]⟩))
    · exact Or.inl (Nat.mod_eq_of_lt (by omega))
  | prev =>
    rw [step]
    by_cases hfirst : cursor = 0
    · rw [hfirst, Nat.zero_add, Nat.mod_eq_of_lt (by omega)]
      exact Or.inr (Or.inr (Or.inl ⟨rfl, by omega⟩))
    · -- the sum reaches the size, which is taken off once
      have hsum : cursor + size - 1 = cursor - 1 + size := by omega
      rw [hsum, Nat.add_mod_right, Nat.mod_eq_of_lt (by omega)]
      exact Or.inr (Or.inl (by omega))

namespace Window

variable {cursor total height : Nat}

/-- The window around a cursor, if every sum and every difference that it takes can be computed. -/
def aroundChecked (cursor total height : Nat) : Option Window := do
  let height := max height 1
  let centred := cursor - height / 2
  let start ←
    if total ≤ height then some 0
    else do
      let stop ← sumChecked centred height
      if stop > total then differenceChecked total height else some centred
  let stop ← sumChecked start height
  return ⟨start, min stop total, cursor, total⟩

/-- Whether some options are outside the window, if its height can be computed. -/
def isScrollingChecked (w : Window) : Option Bool := do
  let height ← differenceChecked w.stop w.start
  return height < w.total

/-! ### Where the window is -/

/-- A window is at the start of the list if there is room for the whole list in it.  Otherwise half of
its rows are above the cursor, unless it would begin before the list or end behind it then. -/
lemma around_start (cursor total height : Nat) :
    (around cursor total height).start =
      if max 1 height < total then min (cursor - max 1 height / 2) (total - max 1 height) else 0 := by
  simp only [around]
  split_ifs <;> omega

/-- The window holds the cursor, lies within the options, and is as high as it may be. -/
lemma around_bounds {cursor total : Nat} (h : cursor < total) (height : Nat) :
    let w := around cursor total height
    w.start ≤ cursor ∧ cursor < w.stop ∧ w.stop ≤ total ∧
      w.stop - w.start = min total (max 1 height) := by
  simp only [around]
  split_ifs <;> omega

lemma isScrolling_around (h : cursor < total) (height : Nat) :
    (around cursor total height).isScrolling = true ↔ max 1 height < total := by
  obtain ⟨-, -, -, hheight⟩ := around_bounds h height
  have htotal : (around cursor total height).total = total := rfl
  rw [isScrolling, decide_eq_true_eq, hheight, htotal]
  omega

lemma start_le_stop (h : cursor ≤ total) (height : Nat) :
    (around cursor total height).start ≤ (around cursor total height).stop := by
  simp only [around]
  split_ifs <;> omega

/-- There is nothing to show of a list without options. -/
lemma around_zero (height : Nat) : around 0 0 height = ⟨0, 0, 0, 0⟩ := by simp [around]

/-! ### How the window moves -/

/-- When the cursor goes to the next option the window stays, or goes down by one row. -/
lemma start_succ (cursor total height : Nat) :
    (around cursor total height).start ≤ (around (cursor + 1) total height).start ∧
      (around (cursor + 1) total height).start ≤ (around cursor total height).start + 1 := by
  rw [around_start, around_start]
  split_ifs <;> omega

lemma start_mono (total height : Nat) :
    Monotone fun cursor => (around cursor total height).start :=
  monotone_nat_of_le_succ fun cursor => (start_succ cursor total height).1

/-- When the cursor goes to a neighbouring option the window moves by one row at most. -/
lemma start_neighbour {c k : Nat} (h : k = c + 1 ∨ c = k + 1) (total height : Nat) :
    (around k total height).start ≤ (around c total height).start + 1 ∧
      (around c total height).start ≤ (around k total height).start + 1 := by
  rcases h with rfl | rfl
  · obtain ⟨hle, hsucc⟩ := start_succ c total height
    exact ⟨hsucc, Nat.le_succ_of_le hle⟩
  · obtain ⟨hle, hsucc⟩ := start_succ k total height
    exact ⟨Nat.le_succ_of_le hle, hsucc⟩

/-! ### How the window is computed -/

/-- No number on the way to the window leaves the range. -/
lemma aroundChecked_eq (hcursor : cursor ≤ total) (htotal : total < 2 ^ 63) (hheight : height < 2 ^ 64) :
    aroundChecked cursor total height = some (around cursor total height) := by
  unfold aroundChecked around
  by_cases hall : total ≤ max height 1
  · have hsum : 0 + max height 1 < 2 ^ 64 := by omega
    simp only [hall, if_true, Option.bind_eq_bind, Option.bind_some, sumChecked_eq hsum]
    rfl
  · -- the height is less than the total, and the window begins within the list
    have hsum : ∀ start ≤ total, sumChecked start (max height 1) = some (start + max height 1) :=
      fun start hstart => sumChecked_eq (by omega)
    simp only [hall, if_false, hsum (cursor - max height 1 / 2) (by omega), Option.bind_eq_bind,
      Option.bind_some]
    split
    · rw [differenceChecked_eq (by omega), Option.bind_some, hsum _ (by omega)]
      rfl
    · rfl

lemma isScrollingChecked_eq {w : Window} (h : w.start ≤ w.stop) :
    w.isScrollingChecked = some w.isScrolling := by
  rw [isScrollingChecked, differenceChecked_eq h]
  rfl

end Window

namespace Session

variable {s : Session} {x : Slot} {i : Nat} {os : List Text}

lemma window?_of_list (hx : s.slots[i]? = some x) (hos : x.options? = some os) (height : Nat) :
    s.window? i height = some (.around x.cursor os.length height) := by
  have hcursor : x.cursor? = some x.cursor := if_pos (by simp [Slot.isList, hos])
  simp only [window?, hx, hos, hcursor, Option.bind_eq_bind, Option.bind_some]
  rfl

/-- The window of a list shows the option that is chosen.

Around a cursor in a list the window holds the cursor and does not reach beyond the list.  It is as
high as it may be, which is one row at least, and some options are outside it if there are more than
that.  Half of its rows are above the cursor, unless it would begin before the list or end behind it
then.

The window goes down with the cursor, by one row at most when the cursor goes to the next option.  So
a step to a neighbouring option moves it by one row at most, on or back; and every step is one to a
neighbouring option, unless it goes from one end of the list to the other.

Every sum and every difference that is taken on the way has 64 bits, as long as the list has fewer
than `2 ^ 63` options; this is so of a list without options as well, of which nothing is shown. -/
theorem window_shows_cursor :
    (∀ cursor total height, cursor < total →
      let w := Window.around cursor total height
      let m := max 1 height
      (w.start ≤ cursor ∧ cursor < w.stop ∧ w.stop ≤ total) ∧ w.stop - w.start = min total m ∧
        (w.isScrolling = true ↔ m < total) ∧
        w.start = if m < total then min (cursor - m / 2) (total - m) else 0) ∧
      (∀ total height, Monotone fun cursor => (Window.around cursor total height).start) ∧
      (∀ cursor total height, (Window.around (cursor + 1) total height).start ≤
        (Window.around cursor total height).start + 1) ∧
      (∀ (d : Direction) cursor total height,
        let k := d.step cursor total
        (k = cursor + 1 ∨ cursor = k + 1 →
          (Window.around k total height).start ≤ (Window.around cursor total height).start + 1 ∧
            (Window.around cursor total height).start ≤ (Window.around k total height).start + 1) ∧
          (cursor < total → k = cursor + 1 ∨ cursor = k + 1 ∨ cursor = 0 ∧ k + 1 = total ∨
            cursor + 1 = total ∧ k = 0)) ∧
      (∀ cursor total height, cursor < total ∨ cursor = 0 ∧ total = 0 → total < 2 ^ 63 →
        height < 2 ^ 64 →
        let w := Window.around cursor total height
        Window.aroundChecked cursor total height = some w ∧
          w.isScrollingChecked = some w.isScrolling) ∧
      (∀ height, Window.around 0 0 height = ⟨0, 0, 0, 0⟩ ∧
        (Window.around 0 0 height).isScrolling = false) ∧
      ∀ s : Session, s.Reachable → ∀ i x os, s.slots[i]? = some x → x.options? = some os →
        os ≠ [] → ∀ height,
          let w := Window.around x.cursor os.length height
          s.window? i height = some w ∧ w.start ≤ x.cursor ∧ x.cursor < w.stop ∧
            w.stop ≤ os.length ∧ os[x.cursor]? = some x.value := by
  refine ⟨fun cursor total height h => ?_, Window.start_mono,
    fun cursor total height => (Window.start_succ cursor total height).2,
    fun d cursor total height => ⟨fun h => Window.start_neighbour h total height, d.step_cases⟩,
    fun cursor total height h htotal hheight => ?_, fun height => ?_,
    fun s hs i x os hx hos hne height => ?_⟩
  · obtain ⟨hstart, hstop, hbound, hheight⟩ := Window.around_bounds h height
    exact ⟨⟨hstart, hstop, hbound⟩, hheight, Window.isScrolling_around h height,
      Window.around_start cursor total height⟩
  · have hcursor : cursor ≤ total := by omega
    exact ⟨Window.aroundChecked_eq hcursor htotal hheight,
      Window.isScrollingChecked_eq (Window.start_le_stop hcursor height)⟩
  · rw [Window.around_zero]
    exact ⟨rfl, rfl⟩
  · obtain ⟨hcursor, hvalue⟩ := (hs.consistent.slots x (List.mem_of_getElem? hx)).shows hos hne
    obtain ⟨hstart, hstop, hbound, -⟩ := Window.around_bounds hcursor height
    refine ⟨window?_of_list hx hos height, hstart, hstop, hbound, ?_⟩
    rw [hvalue]
    exact List.getElem?_eq_getElem hcursor

/-- Three rows of five options that a command has printed, around the fourth and the fifth one; and the
end of a list that is as long as it may be, in a window that is higher. -/
theorem window_shows_cursor_five :
    let s := (start 7 "{{b!ls}}").after
      [.deliver ⟨7, 0, .options ["a", "b", "c", "d", "e"]⟩, .edit 0 (.select 3)]
    let x : Slot :=
      ⟨⟨"b", .dynamic, [], [], "ls"⟩, .resolved ["a", "b", "c", "d", "e"], "d", 3⟩
    s.slots[0]? = some x ∧ s.window? 0 3 = some ⟨2, 5, 3, 5⟩ ∧
      (Window.around 4 5 3).start ≤ (Window.around 3 5 3).start + 1 ∧
      (Window.around 3 5 3).isScrolling = true ∧
      Window.aroundChecked (2 ^ 63 - 2) (2 ^ 63 - 1) (2 ^ 64 - 1) =
        some ⟨0, 2 ^ 63 - 1, 2 ^ 63 - 2, 2 ^ 63 - 1⟩ := by
  intro s x
  obtain ⟨hshape, -, hsucc, -, hchecked, -, hwindow⟩ := window_shows_cursor
  have hs : s.Reachable := ⟨7, "{{b!ls}}", _, _, rfl⟩
  have hx : s.slots[0]? = some x := by decide +kernel
  obtain ⟨hshown, -⟩ := hwindow s hs 0 x _ hx rfl (by decide) 3
  obtain ⟨-, -, hscrolling, -⟩ := hshape 3 5 3 (by decide)
  obtain ⟨hlast, -⟩ := hchecked (2 ^ 63 - 2) (2 ^ 63 - 1) (2 ^ 64 - 1) (Or.inl (by decide))
    (by decide) (by decide)
  exact ⟨hx, hshown.trans (by decide), hsucc 3 5 3, hscrolling.2 (by decide),
    hlast.trans (by decide)⟩

end Session

end TemplateFill
