import TemplateFill.Host.Describe
import TemplateFill.Proofs.Host.InputLine
import TemplateFill.Proofs.Session.Drive
import TemplateFill.Proofs.Session.Window
import TemplateFill.Proofs.Text.Pieces

/-!
# What is shown of a list is what its numbers choose

Of a list of options a window is shown that holds the cursor, is as high as it may be, and never
reaches beyond the list (`Window.around_bounds`).  Its rows are the options from its start to its
end, numbered by their places (`OptionRow.ofWindow_eq`).  So one row is marked, that of the value,
and the line of a number that is shown chooses the option that is shown with it
(`Session.shown_chosen`).

All of this can be seen: the mark, the number and the text of a row are read back from its line
(`OptionRow.ofLine?_shown`), and the rows from what is shown of a session
(`Session.rows_of_describe`).
-/

namespace TemplateFill

open InputLine

/-! ### The rows of a window -/

namespace OptionRow

variable {w : Window} {os : List Text}

/-- The row of an option by its place. -/
def ofPlace (w : Window) (os : List Text) (i : Nat) : OptionRow :=
  ⟨decide (i = w.cursor), i + 1, os.getD i []⟩

/-- The rows of a window are those of the places in it. -/
lemma ofWindow_eq (h : w.stop ≤ os.length) :
    ofWindow w os = (List.range' w.start (w.stop - w.start)).map (ofPlace w os) := by
  refine List.ext_getElem ?_ fun j hj hj' => ?_
  · simp [ofWindow, Nat.min_eq_left h]
  · have hlt : w.start + j < os.length := by
      simp only [List.length_map, List.length_range'] at hj'
      omega
    simp [ofWindow, ofPlace, hlt]

/-- The numbers of the rows follow one another. -/
lemma map_number_ofWindow (h : w.stop ≤ os.length) :
    (ofWindow w os).map number = List.range' (w.start + 1) (w.stop - w.start) := by
  have hnumber : number ∘ ofPlace w os = (1 + ·) := by
    funext i
    exact Nat.add_comm i 1
  rw [ofWindow_eq h, List.map_map, hnumber, List.map_add_range', Nat.add_comm]

/-- One row is marked, that of the cursor. -/
lemma filter_marked_ofWindow (h : w.stop ≤ os.length) (hstart : w.start ≤ w.cursor)
    (hstop : w.cursor < w.stop) :
    (ofWindow w os).filter (·.marked) = [ofPlace w os w.cursor] := by
  have hmarked : (fun r : OptionRow => r.marked) ∘ ofPlace w os = (· == w.cursor) := by
    funext i
    exact (beq_eq_decide i w.cursor).symm
  have hcount : (List.range' w.start (w.stop - w.start)).count w.cursor = 1 := by
    rw [List.count_range_1']
    exact if_pos (by omega)
  rw [ofWindow_eq h, List.filter_map, hmarked, List.filter_beq, hcount]
  rfl

/-! ### The lines of the rows -/

/-- The line of a row without its end. -/
def shown (r : OptionRow) : Text := r.line.dropLast

/-- The row that a line shows: behind two blanks its mark, behind another one its number, perhaps
with more blanks in front, and behind two more its text. -/
def ofLine? : Text → Option OptionRow
  | ' ' :: ' ' :: mark :: ' ' :: s =>
    let s := s.dropWhile (· = ' ')
    match s.dropWhile Char.isDigit with
    | ' ' :: ' ' :: text =>
      (Text.toNat? (s.takeWhile Char.isDigit)).map fun n => ⟨mark = '>', n, text⟩
    | _ => none
  | _ => none

lemma shown_eq (r : OptionRow) : r.shown =
    ' ' :: ' ' :: (if r.marked then '>' else ' ') :: ' ' ::
      (Text.padLeft 2 (Text.ofNat r.number) ++ ' ' :: ' ' :: r.text) := by
  rw [shown, line, List.dropLast_concat]
  simp

lemma line_eq (r : OptionRow) : r.line = r.shown ++ ['\n'] := by
  rw [shown, line, List.dropLast_concat]

/-- A row is read back from its line: its mark, its number and its text, whatever the text begins
with. -/
lemma ofLine?_shown (r : OptionRow) : ofLine? r.shown = some r := by
  obtain ⟨marked, number, text⟩ := r
  obtain ⟨c, ds, hds, hc⟩ := Text.exists_ofNat_eq_cons number
  have hblank : ∀ n, ∀ c ∈ List.replicate n ' ', (decide (c = ' ')) = true := by
    intro n c hc
    rw [List.eq_of_mem_replicate hc]
    rfl
  -- the blanks end with the first digit, and the digits with the next blank
  have hpad : (Text.padLeft 2 (Text.ofNat number) ++ ' ' :: ' ' :: text).dropWhile (· = ' ') =
      Text.ofNat number ++ ' ' :: ' ' :: text := by
    have hstops : Text.Stops (· = ' ') (Text.ofNat number ++ ' ' :: ' ' :: text) := by
      rw [hds]
      refine Text.stops_cons (decide_eq_false ?_)
      rintro rfl
      exact absurd hc (by decide)
    rw [Text.padLeft, List.append_assoc]
    exact Text.dropWhile_append (hblank _) hstops
  have hdigits : ∀ c ∈ Text.ofNat number, c.isDigit = true := fun c => Text.isDigit_of_mem_ofNat
  have hstops : Text.Stops Char.isDigit (' ' :: ' ' :: text) := Text.stops_cons (by decide)
  have hmark : decide ((if marked then '>' else ' ') = '>') = marked := by
    cases marked <;> rfl
  rw [shown_eq, ofLine?]
  simp only [hpad, Text.dropWhile_append hdigits hstops, Text.takeWhile_append hdigits hstops,
    Text.toNat?_ofNat, Option.map_some, hmark]

lemma lf_notMem_shown {r : OptionRow} (h : '\n' ∉ r.text) : '\n' ∉ r.shown := by
  have hdigits : '\n' ∉ Text.ofNat r.number := Text.notMem_ofNat rfl r.number
  rw [shown_eq]
  cases r.marked <;> simp [Text.padLeft, h, hdigits, List.mem_replicate]

/-- Rows of options on one line each are printed on one line each. -/
lemma pieces_lines {rs : List OptionRow} (h : ∀ r ∈ rs, '\n' ∉ r.text) (below : Text) :
    Text.pieces '\n' (rs.flatMap line ++ below) = rs.map shown ++ Text.pieces '\n' below := by
  induction rs with
  | nil => rfl
  | cons r rs ih =>
    obtain ⟨hr, hrs⟩ := List.forall_mem_cons.1 h
    rw [List.flatMap_cons, line_eq, List.append_assoc, List.append_assoc, List.singleton_append,
      Text.pieces_append_cons (lf_notMem_shown hr), ih hrs]
    rfl

end OptionRow

namespace Slot

variable {x : Slot} {os : List Text}

lemma rows_of_list (hos : x.options? = some os) (height : Nat) :
    x.rows height = OptionRow.ofWindow (.around x.cursor os.length height) os := by
  simp [rows, hos]

/-- Under the name of a list that has options its rows are shown, and below them the place of the
cursor, if there are options that are not. -/
lemma describe_of_list (hx : x.Consistent) (hos : x.options? = some os) (hne : os ≠ [])
    (height : Nat) :
    let w := Window.around x.cursor os.length height
    x.describe height = '\n' :: (x.rows height).flatMap OptionRow.line ++
      if w.isScrolling then
        "    (" ++ Text.ofNat (w.cursor + 1) ++ " of " ++ Text.ofNat w.total ++ ")\n"
      else [] := by
  have hempty : os.isEmpty = false := by simpa using hne
  unfold describe
  rcases hx.stage_of_list hos with hstage | hstage
  · simp [hstage, hos, hempty]
  · simp [hstage, hos, hempty]

end Slot

namespace Session

variable {s : Session} {x : Slot} {os : List Text}

/-- What stands above the options of a slot that has the focus. -/
def heading (s : Session) (x : Slot) : Text :=
  "[" ++ Text.ofNat (s.focus + 1) ++ '/' :: Text.ofNat s.size ++ "] " ++ x.name ++ " ("
    ++ x.parameter.kind.label ++ ")"

/-- What stands below the options. -/
def footing (s : Session) (w : Window) : Text :=
  (if w.isScrolling then
    "    (" ++ Text.ofNat (w.cursor + 1) ++ " of " ++ Text.ofNat w.total ++ ")\n"
  else []) ++ "preview: " ++ s.preview ++ ['\n']

/-- A list that has the focus is shown by its rows. -/
lemma describe_of_list (hx : s.slots[s.focus]? = some x) (hcons : x.Consistent)
    (hos : x.options? = some os) (hne : os ≠ []) (height : Nat) :
    s.describe height = s.heading x ++ '\n' :: (x.rows height).flatMap OptionRow.line ++
      s.footing (.around x.cursor os.length height) := by
  simp only [describe, hx, Slot.describe_of_list hcons hos hne, heading, footing]
  simp

/-- The input that chooses an option changes the slot that has the focus, and no other one. -/
lemma slots_choose (hx : s.slots[s.focus]? = some x) (hos : x.options? = some os) {k : Nat}
    (hk : k < os.length) :
    (s.step (.input (.chooseAndConfirm k))).1.slots =
      s.slots.set s.focus { x with value := os[k], cursor := k } := by
  have hedit : s.edit s.focus (.select k) = .ok (s.setSlot s.focus (x.choose os ⟨k, hk⟩)) :=
    edit_eq_ok_iff.2 ⟨x, _, hx, Slot.edit_select hos hk, rfl⟩
  rw [step_of_edit rfl hedit, slots_confirm]
  rfl

/-- What is shown of a list is what its numbers choose.  Of a list that has the focus as many rows
are shown as there are options, but no more than the height allows, and one at least.  They are
numbered one after the other, and each shows the option of its number.  One of them is marked, that
of the cursor, and it shows the value.  The line of a number that is shown stands for one input, by
which the slot gets the option that is shown with the number, and the cursor goes there. -/
theorem shown_chosen (hs : s.Reachable) (hx : s.slots[s.focus]? = some x)
    (hos : x.options? = some os) (hne : os ≠ []) (hplaces : os.length < 2 ^ 64) (height : Nat) :
    let w := Window.around x.cursor os.length height
    let rows := x.rows height
    s.describe height = s.heading x ++ '\n' :: rows.flatMap OptionRow.line ++ s.footing w ∧
      (s.window? s.focus height = some w ∧ w.start ≤ w.stop ∧ w.stop ≤ os.length) ∧
      rows.length = min os.length (max 1 height) ∧
      rows.map OptionRow.number = List.range' (w.start + 1) rows.length ∧
      rows.filter (·.marked) = [⟨true, x.cursor + 1, x.value⟩] ∧
      ∀ r ∈ rows, 1 ≤ r.number ∧ os[r.number - 1]? = some r.text ∧
        decode? (':' :: Text.ofNat r.number) = some (.chooseAndConfirm (r.number - 1)) ∧
        (s.step (.input (.chooseAndConfirm (r.number - 1)))).1.slots =
          s.slots.set s.focus { x with value := r.text, cursor := r.number - 1 } := by
  intro w rows
  have hcons : x.Consistent := hs.consistent.slots x (List.mem_of_getElem? hx)
  obtain ⟨hcursor, hvalue⟩ := hcons.shows hos hne
  obtain ⟨hstart, hstop, hbound, hheight⟩ := Window.around_bounds hcursor height
  have hrows : rows = OptionRow.ofWindow w os := Slot.rows_of_list hos height
  have hlength : rows.length = w.stop - w.start := by
    rw [hrows, OptionRow.ofWindow_eq hbound, List.length_map, List.length_range']
  have hwindow : s.window? s.focus height = some w := window?_of_list hx hos height
  refine ⟨describe_of_list hx hcons hos hne height,
    ⟨hwindow, Nat.le_trans hstart (Nat.le_of_lt hstop), hbound⟩,
    hlength.trans hheight, ?_, ?_, fun r hr => ?_⟩
  · rw [hlength, hrows, OptionRow.map_number_ofWindow hbound]
  · have hrow : OptionRow.ofPlace w os x.cursor = ⟨true, x.cursor + 1, x.value⟩ := by
      have hmark : decide (x.cursor = w.cursor) = true := decide_eq_true rfl
      rw [OptionRow.ofPlace, hmark, hvalue, List.getD_eq_getElem?_getD,
        List.getElem?_eq_getElem hcursor, Option.getD_some]
    rw [hrows, ← hrow]
    exact OptionRow.filter_marked_ofWindow hbound hstart hstop
  · rw [hrows, OptionRow.ofWindow_eq hbound] at hr
    obtain ⟨i, hi, rfl⟩ := List.mem_map.1 hr
    have hlt : i < os.length := by
      rw [List.mem_range'_1] at hi
      omega
    have htext : os[i]? = some (OptionRow.ofPlace w os i).text := by
      simp [OptionRow.ofPlace, hlt]
    have hslots := slots_choose hx hos hlt
    rw [List.getElem?_eq_getElem hlt, Option.some.injEq] at htext
    rw [htext] at hslots
    refine ⟨Nat.succ_pos i, ?_, ?_, hslots⟩
    · rw [← htext]
      exact List.getElem?_eq_getElem hlt
    · exact decode?_optionLine (Nat.succ_pos i) (Nat.lt_of_le_of_lt hlt hplaces)

/-- Two of four options that a command has printed, with the cursor on the third. -/
theorem shown_chosen_printed :
    let s := (start 7 "{{b!ls}} {{n}}").after
      [.deliver ⟨7, 0, .options ["a", "b", "c", "d"]⟩, .step (.input .down), .step (.input .down)]
    let x : Slot := ⟨⟨"b", .dynamic, [], [], "ls"⟩, .resolved ["a", "b", "c", "d"], "c", 2⟩
    (s.slots[s.focus]? = some x ∧ x.rows 2 = [⟨false, 2, "b"⟩, ⟨true, 3, "c"⟩]) ∧
      s.describe 2 = "[1/2] b (dynamic)\n     2  b\n  >  3  c\n".toList ++
        "    (3 of 4)\npreview: c \x7b\x7bn\x7d\x7d\n".toList ∧
      (s.step (.input (.chooseAndConfirm 1))).1.slots =
        s.slots.set s.focus { x with value := "b", cursor := 1 } := by
  intro s x
  have hs : s.Reachable := ⟨7, "{{b!ls}} {{n}}", _, _, rfl⟩
  have hx : s.slots[s.focus]? = some x := by decide +kernel
  have hrows : x.rows 2 = [⟨false, 2, "b"⟩, ⟨true, 3, "c"⟩] := by decide
  have hshown := shown_chosen hs hx rfl (by decide) (by decide) 2
  obtain ⟨-, -, -, -, -, hchosen⟩ := hshown
  obtain ⟨-, -, -, hslots⟩ := hchosen ⟨false, 2, "b"⟩ (by rw [hrows]; simp)
  exact ⟨⟨hx, hrows⟩, by decide +kernel, hslots⟩

/-! ### What the lines tell -/

lemma lf_notMem_heading (hname : '\n' ∉ x.name) : '\n' ∉ s.heading x := by
  have hdigits : ∀ n, '\n' ∉ Text.ofNat n := Text.notMem_ofNat rfl
  have hlabel : '\n' ∉ x.parameter.kind.label := by
    cases x.parameter.kind <;> decide
  simp [heading, hdigits, hname, hlabel]

/-- What is shown of a list tells its rows.  If the name of the parameter and its options are on one
line each, then the rows are read back from the lines below the heading: the mark of each, its number
and its text. -/
theorem rows_of_describe (hs : s.Reachable) (hx : s.slots[s.focus]? = some x)
    (hos : x.options? = some os) (hne : os ≠ []) (hname : '\n' ∉ x.name)
    (hlines : ∀ o ∈ os, '\n' ∉ o) (height : Nat) :
    ((Text.pieces '\n' (s.describe height)).tail.take (x.rows height).length).map
      OptionRow.ofLine? = (x.rows height).map some := by
  have hcons : x.Consistent := hs.consistent.slots x (List.mem_of_getElem? hx)
  obtain ⟨hcursor, -⟩ := hcons.shows hos hne
  obtain ⟨-, -, hbound, -⟩ := Window.around_bounds hcursor height
  have htexts : ∀ r ∈ x.rows height, '\n' ∉ r.text := by
    intro r hr
    rw [Slot.rows_of_list hos, OptionRow.ofWindow_eq hbound] at hr
    obtain ⟨i, -, rfl⟩ := List.mem_map.1 hr
    rw [OptionRow.ofPlace, List.getD_eq_getElem?_getD]
    cases hi : os[i]? with
    | none => exact List.not_mem_nil
    | some o => exact hlines o (List.mem_of_getElem? hi)
  have hpieces : Text.pieces '\n' (s.describe height) = s.heading x ::
      ((x.rows height).map OptionRow.shown ++
        Text.pieces '\n' (s.footing (.around x.cursor os.length height))) := by
    rw [describe_of_list hx hcons hos hne, List.append_assoc, List.cons_append,
      Text.pieces_append_cons (lf_notMem_heading hname), OptionRow.pieces_lines htexts]
  have hread : OptionRow.ofLine? ∘ OptionRow.shown = some := funext OptionRow.ofLine?_shown
  rw [hpieces, List.tail_cons, ← List.length_map OptionRow.shown, List.take_left, List.map_map,
    hread]

end Session

end TemplateFill
