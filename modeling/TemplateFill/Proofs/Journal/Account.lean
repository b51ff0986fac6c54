import TemplateFill.Journal.Entry
import TemplateFill.Proofs.Session.Drive
import TemplateFill.Proofs.Session.Lifecycle

/-!
# The journal as an account of a run

What a journal says of a run can be checked by someone who saw the run from outside: the events that
were taken in, each with the session before it and after it (`Session.passages`).  Between the entry
of the beginning and that of the end stands what can be seen in these passages, in their order: a
message that names another session, and a slot that has come to another stage
(`Session.notes_drive`).

An event changes the stage of no slot but the one whose message it brings (`Session.turned_step`).
So the slots that have come to another stage are those of the messages that had an effect, each of
them once, and they are what the parameters that still wait at the end are short of those at the
beginning (`Session.journal_accounts`).
-/

namespace TemplateFill

open Journal

/-- An event that a session has taken in, with the session before it and after it. -/
structure Passage where
  before : Session
  event : Event
  after : Session

namespace Passage

/-- The number of another session that the message of an event names. -/
def stray? (p : Passage) : Option Nat :=
  match p.event with
  | .report m => if m.session = p.before.id then none else some m.session
  | .input _ => none

/-- The places of the slots that have come to another stage. -/
def turned (p : Passage) : List Nat :=
  (List.range p.after.size).filter fun i =>
    p.after.slots[i]?.map Slot.stage ≠ p.before.slots[i]?.map Slot.stage

/-- The note of a message that names another session. -/
def noteOfStray (session other : Nat) : Note :=
  ⟨.staleDiscarded, session, none, .sortedObject [("from_session", .ofNat other)]⟩

/-- The note of a slot that has its outcome. -/
def noteOfSlot (session : Nat) (x : Slot) : Option Note :=
  match x.stage with
  | .resolved os =>
    some ⟨.resolveOk, session, some x.name, .sortedObject [("options", .ofNat os.length)]⟩
  | .failed why =>
    some ⟨.resolveFailed, session, some x.name, .sortedObject [("reason", .string why.message)]⟩
  | .awaitingInput | .loading => none

/-- What is to be noted of an event: the session that it was meant for, if that is another one, and
the slots that have come to another stage, as they are now. -/
def notes (p : Passage) : List Note :=
  (p.stray?.map (noteOfStray p.before.id)).toList ++
    p.turned.filterMap fun i => p.after.slots[i]?.bind (noteOfSlot p.before.id)

end Passage

/-- Whether a note is about the outcome of a command. -/
def Journal.Note.isOutcome (note : Note) : Bool :=
  note.action = .resolveOk || note.action = .resolveFailed

namespace Session

variable {s t : Session} {e : Event} {m : Message} {i : Nat}

/-- The passages of a session through a row of events. -/
def passages (s : Session) : List Event → List Passage
  | [] => []
  | e :: es => ⟨s, e, (s.step e).1⟩ :: (s.step e).1.passages es

lemma passages_append (s : Session) (es es' : List Event) :
    s.passages (es ++ es') = s.passages es ++ (s.after (es.map .step)).passages es' := by
  induction es generalizing s with
  | nil => rfl
  | cons e es ih => exact congrArg (_ :: ·) (ih _)

lemma id_step (s : Session) (e : Event) : (s.step e).1.id = s.id :=
  (perform_sameFrame s (.step e)).id_eq

/-! ### The slots that come to another stage -/

/-- A slot has come to another stage if it waited before and does not wait any more. -/
lemma stage_ne_iff (s : Session) (e : Event) (i : Nat) :
    (s.step e).1.slots[i]?.map Slot.stage ≠ s.slots[i]?.map Slot.stage ↔
      i ∈ (s.applied [.step e]).map Message.index := by
  have hafter : s.after [.step e] = (s.step e).1 := rfl
  rw [mem_applied]
  have hawaits := awaits_after s [.step e] i
  rw [hafter] at hawaits
  cases hx : s.slots[i]? with
  | none =>
    have hnone : (s.step e).1.slots[i]? = none := by
      rw [List.getElem?_eq_none_iff] at hx ⊢
      exact Nat.le_trans (Nat.le_of_eq (size_after s [.step e])) hx
    simp [hnone, awaits, hx]
  | some x =>
    obtain ⟨y, hy, hxy⟩ := after_slot hx [.step e]
    rw [hafter] at hy
    have hprecedes := (Slot.of_becomes hxy).2
    rw [awaits_of_slot hx, awaits_of_slot hy] at hawaits
    rw [hy, awaits_of_slot hx, Option.map_some, Option.map_some, ne_eq, Option.some.injEq,
      decide_eq_true_eq]
    by_cases hl : x.stage = .loading
    · rw [decide_eq_true hl, Bool.and_true] at hawaits
      cases hr : s.reported [.step e] i with
      | true => simpa [hl, hr] using hawaits
      | false => simpa [hl, hr] using hawaits
    · simp [hl, hprecedes.eq_of_ne hl]

/-- The slots that come to another stage are those of the messages that have an effect. -/
lemma turned_step (s : Session) (e : Event) :
    (⟨s, e, (s.step e).1⟩ : Passage).turned = (s.applied [.step e]).map Message.index := by
  have hturned : (⟨s, e, (s.step e).1⟩ : Passage).turned =
      (List.range s.size).filter fun i => decide (i ∈ (s.applied [.step e]).map Message.index) := by
    rw [Passage.turned, show (s.step e).1.size = s.size from size_after s [.step e]]
    exact List.filter_congr fun i _ => decide_eq_decide.2 (stage_ne_iff s e i)
  rw [hturned]
  cases hm : (Operation.step e).message? with
  | none => simp [applied_of_none hm]
  | some m =>
    rw [applied_of_message hm]
    cases hd : s.deliver? m with
    | none => simp
    | some t =>
      obtain ⟨-, _, _, hx, -, -⟩ := deliver?_eq_some_iff.1 hd
      have hlt : m.index < s.size := (List.getElem?_eq_some_iff.1 hx).1
      -- of all places, the one of the message is picked out, and it is there once
      simp only [Option.isSome_some, if_true, List.map_cons, List.map_nil, List.mem_singleton]
      rw [List.filter_eq, List.count_eq_one_of_mem List.nodup_range (List.mem_range.2 hlt)]
      rfl

lemma turned_passages (s : Session) (es : List Event) :
    (s.passages es).flatMap Passage.turned = (s.applied (es.map .step)).map Message.index := by
  induction es generalizing s with
  | nil => rfl
  | cons e es ih =>
    rw [passages, List.flatMap_cons, ih, turned_step, List.map_cons,
      applied_cons s (.step e) (es.map .step), List.map_append]
    rfl

/-- A slot comes to another stage by the message for it, and has its outcome then. -/
lemma of_mem_turned (h : i ∈ (⟨s, e, (s.step e).1⟩ : Passage).turned) :
    ∃ m y, e = .report m ∧ m.session = s.id ∧ m.index = i ∧
      (s.step e).1.slots[i]? = some y ∧ y.SettledWith m.outcome := by
  have hne : (s.step e).1.slots[i]?.map Slot.stage ≠ s.slots[i]?.map Slot.stage := by
    simpa using (List.mem_filter.1 h).2
  cases hx : s.slots[i]? with
  | none =>
    -- there is no slot at the place, before or after
    rw [stage_ne_iff, mem_applied] at hne
    exact absurd hne.1 (by simp [awaits, hx])
  | some x =>
    obtain ⟨y, hy, hsame | ⟨-, m, hm, hid, hi, hsettled⟩⟩ := perform_slot hx (.step e)
    · refine absurd ?_ hne
      rw [show (s.step e).1.slots[i]? = some y from hy, hx, Option.map_some, Option.map_some, hsame]
    · cases e with
      | input u => exact absurd hm (by simp [Operation.message?])
      | report m' => exact ⟨m, y, congrArg Event.report (Option.some.inj hm), hid, hi, hy, hsettled⟩

/-- A passage through a row of events is a step from a session of the same number. -/
lemma of_mem_passages {es : List Event} {p : Passage} (h : p ∈ s.passages es) :
    p.before.id = s.id ∧ p.after = (p.before.step p.event).1 := by
  induction es generalizing s with
  | nil => exact absurd h (by simp [passages])
  | cons e es ih =>
    rcases List.mem_cons.1 h with rfl | h
    · exact ⟨rfl, rfl⟩
    · obtain ⟨hid, hafter⟩ := ih h
      exact ⟨hid.trans (id_step s e), hafter⟩

/-! ### The notes -/

lemma isOutcome_of_settledWith {x : Slot} {o : Outcome} (h : x.SettledWith o) (session : Nat) :
    ∃ note, Passage.noteOfSlot session x = some note ∧ note.isOutcome = true := by
  have hstage : (∃ os, x.stage = .resolved os) ∨ ∃ why, x.stage = .failed why := by
    rcases o with (_ | _) | _
    · exact Or.inr ⟨_, h.1⟩
    · exact Or.inl ⟨_, h.1⟩
    · exact Or.inr ⟨_, h.1⟩
  rcases hstage with ⟨os, hos⟩ | ⟨why, hwhy⟩
  · exact ⟨_, by rw [Passage.noteOfSlot, hos], rfl⟩
  · exact ⟨_, by rw [Passage.noteOfSlot, hwhy], rfl⟩

/-- Of a passage there is one note of an outcome for each slot that has come to another stage. -/
lemma countP_notes (s : Session) (e : Event) :
    (⟨s, e, (s.step e).1⟩ : Passage).notes.countP Note.isOutcome =
      (⟨s, e, (s.step e).1⟩ : Passage).turned.length := by
  have hstray : ∀ other : Option Nat,
      (other.map (Passage.noteOfStray s.id)).toList.countP Note.isOutcome = 0 := by
    rintro (_ | _) <;> rfl
  rw [Passage.notes, List.countP_append, hstray, Nat.zero_add, List.countP_filterMap,
    List.countP_eq_length]
  intro i hi
  obtain ⟨m, y, -, -, -, hy, hsettled⟩ := of_mem_turned hi
  obtain ⟨note, hnote, houtcome⟩ := isOutcome_of_settledWith hsettled s.id
  simp [hy, hnote, houtcome]

lemma countP_notes_passages (s : Session) (es : List Event) :
    ((s.passages es).flatMap Passage.notes).countP Note.isOutcome =
      ((s.passages es).flatMap Passage.turned).length := by
  induction es generalizing s with
  | nil => rfl
  | cons e es ih =>
    rw [passages, List.flatMap_cons, List.flatMap_cons, List.countP_append, List.length_append,
      countP_notes, ih]

lemma notes_input (s : Session) (u : Input) :
    (⟨s, .input u, (s.step (.input u)).1⟩ : Passage).notes = [] := by
  rw [Passage.notes, turned_step, applied_of_none rfl]
  rfl

lemma settled_of_deliver? (h : s.deliver? m = some t) :
    (t.settled m.index).map (Note.ofOccurrence s.id) =
      (t.slots[m.index]?.bind (Passage.noteOfSlot s.id)).toList := by
  obtain ⟨-, x, y, hx, hy, rfl⟩ := deliver?_eq_some_iff.1 h
  rw [settled, getElem?_setSlot_self hx]
  rcases (Slot.settle_cases hy).2 with ⟨why, rfl⟩ | ⟨os, place, rfl⟩ <;> rfl

/-- What the journal notes of an event is what is seen of it. -/
lemma noted_eq (s : Session) (e : Event) :
    (s.noted e).map (Note.ofOccurrence s.id) = (⟨s, e, (s.step e).1⟩ : Passage).notes := by
  cases e with
  | input u => rw [notes_input]; rfl
  | report m =>
    have hmessage : (Operation.step (.report m)).message? = some m := rfl
    rw [Passage.notes, turned_step, applied_of_message hmessage]
    by_cases hid : m.session = s.id
    · cases hd : s.deliver? m with
      | none => simp [noted, Passage.stray?, hid, hd]
      | some t =>
        have hstep : (s.step (.report m)).1 = t := by rw [step, deliver, hd, Option.getD_some]
        have hsettled := settled_of_deliver? hd
        simp only [noted, Passage.stray?, hid, hd, hstep, if_true, List.nil_append, Option.map_none,
          Option.toList_none, Option.isSome_some, List.map_cons, List.map_nil]
        rw [hsettled, List.filterMap_cons]
        cases t.slots[m.index]?.bind (Passage.noteOfSlot s.id) <;> rfl
    · have hnone : s.deliver? m = none := by rw [deliver?_eq, if_neg hid]
      simp [noted, Passage.stray?, Passage.noteOfStray, hid, hnone, Note.ofOccurrence]

/-- The note of the end of a run. -/
def closingNote (s : Session) (ending : Ending) : Note :=
  match ending with
  | .submitted command => ⟨.submit, s.id, none, .sortedObject [("command", .string command)]⟩
  | .cancelled => ⟨.cancel, s.id, none, .sortedObject [("pending", .ofNat s.pending)]⟩

/-- The notes of a run are those of its passages, and that of its end. -/
theorem notes_drive (s : Session) (es : List Event) :
    (s.drive es).occurrences.map (Note.ofOccurrence s.id) =
      (s.passages (s.taken es)).flatMap Passage.notes ++
        [(s.final es).closingNote (s.drive es).ending] := by
  have hclosing : ∀ (t : Session) (ending : Ending), t.id = s.id →
      Note.ofOccurrence s.id (t.closing ending) = t.closingNote ending := by
    rintro t (command | _) hid <;> rw [← hid] <;> rfl
  induction es generalizing s with
  | nil => exact congrArg (fun n => [n]) (hclosing s .cancelled rfl)
  | cons e es ih =>
    cases h : (s.step e).2 with
    | some ending =>
      rw [drive_of_some h, taken_of_some h, final_of_some h, List.map_append, noted_eq]
      simp [passages, hclosing _ ending (id_step s e)]
    | none =>
      have htail := ih (s.step e).1 (by rw [id_step]; exact hclosing)
      rw [id_step] at htail
      rw [drive_of_none h, taken_of_none h, final_of_none h, List.map_append, noted_eq, htail,
        passages, List.flatMap_cons, List.append_assoc]

/-- The journal of a run.  It opens with the note of the beginning, then follow the notes of the
passages in their order, and it closes with the note of how the run has ended.  All of them bear the
number of the session.

The slots that have come to another stage in the passages are noted once each.  They are those of
the messages for them, none of them is there twice, and they are what the parameters that wait at
the end are short of those that waited at the beginning.

If more events follow, then what was noted before the end is noted again, and more may follow it. -/
theorem journal_accounts (s : Session) (es : List Event) :
    let run := s.run es
    let last := s.final es
    let passed := s.passages (s.taken es)
    let body := passed.flatMap Passage.notes
    let turned := passed.flatMap Passage.turned
    let notes := Note.ofRun s.id run
    notes = [⟨.sessionStart, s.id, none, .sortedObject [("template", .string s.template),
          ("params", .ofNat s.size), ("pending", .ofNat s.pending)]⟩] ++ body ++
        [match run.ending with
          | .submitted command =>
            ⟨.submit, s.id, none, .sortedObject [("command", .string command)]⟩
          | .cancelled => ⟨.cancel, s.id, none, .sortedObject [("pending", .ofNat last.pending)]⟩] ∧
      (∀ note ∈ notes, note.session = s.id) ∧
      (∀ p ∈ passed, ∀ i ∈ p.turned, ∃ m, p.event = .report m ∧ m.session = s.id ∧ m.index = i) ∧
      turned.Nodup ∧ body.countP Note.isOutcome = turned.length ∧
      last.pending + body.countP Note.isOutcome = s.pending ∧
      ∀ more, notes.dropLast <+: (Note.ofRun s.id (s.run (es ++ more))).dropLast := by
  intro run last passed body turned notes
  have hnotes : ∀ es, Note.ofRun s.id (s.run es) =
      (Note.ofOccurrence s.id s.opening :: (s.passages (s.taken es)).flatMap Passage.notes) ++
        [(s.final es).closingNote (s.run es).ending] :=
    fun es => congrArg (Note.ofOccurrence s.id s.opening :: ·) (notes_drive s es)
  have hlast : last.id = s.id := (after_sameFrame s _).id_eq
  have hturned : turned = (s.applied ((s.taken es).map .step)).map Message.index :=
    turned_passages s (s.taken es)
  have hcount : body.countP Note.isOutcome = turned.length := countP_notes_passages s (s.taken es)
  refine ⟨?_, fun note hnote => ?_, fun p hp i hi => ?_, ?_, hcount, ?_, fun more => ?_⟩
  · refine (hnotes es).trans (congrArg (_ ++ [·]) ?_)
    change last.closingNote run.ending = _
    unfold closingNote
    rw [hlast]
  · obtain ⟨o, -, rfl⟩ := List.mem_map.1 hnote
    cases o <;> rfl
  · obtain ⟨hid, hafter⟩ := of_mem_passages hp
    obtain ⟨before, event, after⟩ := p
    dsimp only at hid hafter hi ⊢
    rw [hafter] at hi
    obtain ⟨m, -, hm, hsession, hindex, -⟩ := of_mem_turned hi
    exact ⟨m, hm, hsession.trans hid, hindex⟩
  · rw [hturned]
    exact nodup_applied s _
  · have hpending : s.pending = last.pending + turned.length := by
      rw [hturned, List.length_map]
      exact pending_after s _
    omega
  · -- what is taken in with more events after them begins with what is taken in without them
    change (Note.ofRun s.id (s.run es)).dropLast <+: _
    rw [hnotes, hnotes, List.dropLast_concat, List.dropLast_concat]
    obtain ⟨later, hlater⟩ := taken_append s es more
    rw [← hlater, passages_append, List.flatMap_append]
    exact (List.prefix_cons_inj _).2 (List.prefix_append _ _)

/-- Of five messages two are noted as outcomes and one as astray; a second one for the same
parameter and one for no parameter at all leave no trace.  One parameter waits until the end. -/
theorem journal_accounts_stray_and_late :
    let s := withParameters 1 "t" [⟨"a", .dynamic, [], [], "x"⟩, ⟨"b", .dynamic, [], [], "y"⟩,
      ⟨"c", .dynamic, [], [], "z"⟩]
    let es : List Event := [.report ⟨2, 0, .failed .signal⟩,
      .report ⟨1, 1, .options [['u'], ['v']]⟩, .input .down, .report ⟨1, 1, .failed .signal⟩,
      .report ⟨1, 3, .options []⟩, .report ⟨1, 2, .options []⟩]
    let notes := Note.ofRun 1 (s.run es)
    notes.map (fun note => (note.action, note.parameter)) =
        [(.sessionStart, none), (.staleDiscarded, none), (.resolveOk, some ['b']),
          (.resolveFailed, some ['c']), (.cancel, none)] ∧
      (∀ note ∈ notes, note.session = 1) ∧ (s.final es).pending = 1 ∧
      notes.dropLast <+: (Note.ofRun 1 (s.run (es ++ [.input .cancel]))).dropLast := by
  intro s es notes
  have haccount := journal_accounts s es
  exact ⟨by decide, haccount.2.1, by decide, haccount.2.2.2.2.2.2 [.input .cancel]⟩

end Session

end TemplateFill
