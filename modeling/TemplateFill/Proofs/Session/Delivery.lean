import Mathlib.Data.List.Nodup
import TemplateFill.Proofs.Session.Invariant

/-!
# Which messages count

Messages come late, twice, and for sessions that are long gone.  Of all messages that reach a
session one for each dynamic parameter counts, the first one that names the session and the
parameter; all others are *void*.

* `Session.isSome_deliver?_after`: a message has an effect exactly if it is not void and its
  parameter was still waiting.
* `Session.trace_kept`: a run is the same step by step if the void messages are left out.
* `Sessions.nodup_ids`: no two of the sessions begun one after the other have the same number, so
  each of them can be handed the messages of all (`Session.after_deliver_filter`).
-/

namespace TemplateFill

/-- The message that an operation brings. -/
def Operation.message? : Operation → Option Message
  | .deliver m => some m
  | .step (.report m) => some m
  | _ => none

/-- The members of a list that are marked in a row of marks. -/
def marked {α : Type} : List Bool → List α → List α
  | true :: bs, a :: as => a :: marked bs as
  | false :: bs, _ :: as => marked bs as
  | _, _ => []

namespace Session

variable {s t : Session}

/-! ### Parameters that wait -/

/-- Whether the parameter at a place waits for the outcome of its command. -/
def awaits (s : Session) (i : Nat) : Bool := s.slots[i]?.any (·.stage = .loading)

lemma awaits_eq_true_iff {i : Nat} :
    s.awaits i = true ↔ ∃ x, s.slots[i]? = some x ∧ x.stage = .loading := by
  simp [awaits, Option.any_eq_true]

lemma awaits_setSlot_ne {i j : Nat} (h : i ≠ j) (s : Session) (x : Slot) :
    (s.setSlot i x).awaits j = s.awaits j := by
  rw [awaits, getElem?_setSlot_ne h, awaits]

@[simp] lemma awaits_shift (s : Session) (d : Direction) (i : Nat) :
    (s.shift d).awaits i = s.awaits i := by
  rw [awaits, slots_shift, awaits]

/-- A message has an effect if it is for this session and its parameter waits. -/
lemma isSome_deliver? (s : Session) (m : Message) :
    (s.deliver? m).isSome = (decide (m.session = s.id) && s.awaits m.index) := by
  rw [deliver?_eq]
  by_cases hid : m.session = s.id
  · cases hx : s.slots[m.index]? with
    | none => simp [hid, awaits, hx]
    | some x => simp [hid, awaits, hx, Slot.isSome_settle]
  · simp [hid]

/-- A parameter that has had a message does not wait any more. -/
lemma awaits_deliver_self {m : Message} (h : m.session = s.id) :
    (s.deliver m).awaits m.index = false := by
  unfold deliver
  cases hm : s.deliver? m with
  | none =>
    have hsome := s.isSome_deliver? m
    simpa [hm, h] using hsome
  | some t =>
    obtain ⟨-, x, y, hx, hy, rfl⟩ := deliver?_eq_some_iff.1 hm
    have hy' : y.stage ≠ .loading := by
      rcases (Slot.settle_cases hy).2 with ⟨_, rfl⟩ | ⟨_, _, rfl⟩ <;> simp [Slot.fail, Slot.resolve]
    simp [awaits, getElem?_setSlot_self hx, hy']

/-! ### Operations that bring no message for a parameter -/

lemma awaits_edit {i j : Nat} {e : Edit} (h : s.edit j e = .ok t) : t.awaits i = s.awaits i := by
  obtain ⟨x, y, hx, hy, rfl⟩ := edit_eq_ok_iff.1 h
  by_cases hij : j = i
  · subst hij
    have hstage : y.stage = x.stage := by
      rcases Slot.edit_cases hy with ⟨-, -, _, rfl⟩ | ⟨_, -, _, rfl⟩ <;> rfl
    simp [awaits, getElem?_setSlot_self hx, hx, hstage]
  · exact awaits_setSlot_ne hij s y

lemma awaits_confirm (s : Session) (i : Nat) : s.confirm.1.awaits i = s.awaits i := by
  unfold confirm
  split
  · rfl
  · exact awaits_shift s .next i

lemma awaits_take (s : Session) (u : Input) (i : Nat) : (s.take u).1.awaits i = s.awaits i := by
  unfold take
  split
  · exact awaits_shift s .next i
  · exact awaits_shift s .prev i
  · exact awaits_confirm s i
  · rfl
  · split
    · rfl
    · rename_i t ht
      split
      · rw [awaits_confirm, awaits_edit ht]
      · exact awaits_edit ht

lemma awaits_deliver_of_ne {m : Message} {i : Nat} (h : ¬(m.session = s.id ∧ m.index = i)) :
    (s.deliver m).awaits i = s.awaits i := by
  unfold deliver
  cases hm : s.deliver? m with
  | none => rfl
  | some t =>
    obtain ⟨hid, x, y, hx, hy, rfl⟩ := deliver?_eq_some_iff.1 hm
    exact awaits_setSlot_ne (fun hi => h ⟨hid, hi⟩) s y

/-- Only a message for a parameter ends its waiting. -/
lemma awaits_perform {o : Operation} {i : Nat}
    (h : ∀ m, o.message? = some m → ¬(m.session = s.id ∧ m.index = i)) :
    (s.perform o).1.awaits i = s.awaits i := by
  cases o with
  | deliver m => exact awaits_deliver_of_ne (h m rfl)
  | edit j e =>
    cases he : s.edit j e with
    | error r => rw [perform_edit_of_error he]
    | ok t => rw [perform_edit_of_ok he]; exact awaits_edit he
  | focusNext => exact awaits_shift s .next i
  | focusPrev => exact awaits_shift s .prev i
  | step e =>
    cases e with
    | input u => exact awaits_take s u i
    | report m => exact awaits_deliver_of_ne (h m rfl)

/-- An operation that brings a message does to the session what the message does. -/
lemma perform_of_message {o : Operation} {m : Message} (h : o.message? = some m) :
    (s.perform o).1 = s.deliver m := by
  cases o with
  | deliver m' => rw [← Option.some.inj h]; rfl
  | step e =>
    cases e with
    | report m' => rw [← Option.some.inj h]; rfl
    | input u => exact absurd h (by simp [Operation.message?])
  | _ => exact absurd h (by simp [Operation.message?])

/-! ### Void messages -/

/-- Whether a row of operations brings a message of the session for the parameter at a place. -/
def reported (s : Session) (ops : List Operation) (i : Nat) : Bool :=
  ops.any fun o => o.message?.any fun m => decide (m.session = s.id) && decide (m.index = i)

/-- Whether a message is void after a row of operations: it is for another session, it names no
parameter or one that is not dynamic, or the parameter has been reported in the row. -/
def isVoid (s : Session) (earlier : List Operation) (m : Message) : Bool :=
  decide (m.session ≠ s.id) || decide (s.size ≤ m.index) ||
    s.parameters[m.index]?.any (·.kind ≠ .dynamic) || s.reported earlier m.index

/-- For each of a row of operations, whether it stays if the void messages are left out. -/
def kept (s : Session) (earlier : List Operation) : List Operation → List Bool
  | [] => []
  | o :: ops => (!o.message?.any (s.isVoid earlier)) :: s.kept (earlier ++ [o]) ops

lemma reported_cons (s : Session) (o : Operation) (ops : List Operation) (i : Nat) :
    s.reported (o :: ops) i = (s.reported [o] i || s.reported ops i) := by
  simp [reported]

lemma reported_perform (s : Session) (o : Operation) (ops : List Operation) (i : Nat) :
    (s.perform o).1.reported ops i = s.reported ops i := by
  rw [reported, reported, (perform_sameFrame s o).id_eq]

lemma awaits_perform_of_reported {o : Operation} {i : Nat} (h : s.reported [o] i = true) :
    (s.perform o).1.awaits i = false := by
  obtain ⟨m, hm, hid, rfl⟩ : ∃ m, o.message? = some m ∧ m.session = s.id ∧ m.index = i := by
    simpa [reported, Option.any_eq_true] using h
  rw [perform_of_message hm]
  exact awaits_deliver_self hid

lemma awaits_perform_of_not_reported {o : Operation} {i : Nat} (h : s.reported [o] i = false) :
    (s.perform o).1.awaits i = s.awaits i := by
  refine awaits_perform fun m hm hmi => ?_
  have htrue : s.reported [o] i = true := by simp [reported, hm, hmi.1, hmi.2]
  exact absurd (htrue.symm.trans h) (by simp)

/-- A parameter waits after a row of operations if it waited before and was not reported. -/
lemma awaits_after (s : Session) (ops : List Operation) (i : Nat) :
    (s.after ops).awaits i = (!s.reported ops i && s.awaits i) := by
  induction ops generalizing s with
  | nil => simp [reported]
  | cons o ops ih =>
    rw [after_cons, ih, reported_perform, reported_cons]
    cases ho : s.reported [o] i with
    | true => rw [awaits_perform_of_reported ho]; simp
    | false => rw [awaits_perform_of_not_reported ho]; simp

/-- A message has an effect exactly if it is not void and its parameter was waiting. -/
theorem isSome_deliver?_after (hs : s.Consistent) (ops : List Operation) (m : Message) :
    ((s.after ops).deliver? m).isSome = (!s.isVoid ops m && s.awaits m.index) := by
  rw [isSome_deliver?, (after_sameFrame s ops).id_eq, awaits_after]
  cases ha : s.awaits m.index with
  | false => simp
  | true =>
    -- a parameter that waits is one of the session's dynamic ones
    obtain ⟨x, hx, hl⟩ := awaits_eq_true_iff.1 ha
    obtain ⟨hi, hxi⟩ := List.getElem?_eq_some_iff.1 hx
    have hk := (hs.slots x (List.mem_of_getElem? hx)).kind_of_loading hl
    have hsize : ¬s.size ≤ m.index := Nat.not_le.2 hi
    have hp : s.parameters[m.index]? = some x.parameter := by simp [parameters, hx]
    simp [isVoid, hsize, hp, hk]

/-! ### Runs without the void messages -/

lemma perform_void (hs : s.Consistent) {before : List Operation} {o : Operation}
    (h : o.message?.any (s.isVoid before) = true) :
    ((s.after before).perform o).1 = s.after before := by
  obtain ⟨m, hm, hvoid⟩ := (Option.any_eq_true _ _).1 h
  have hnone : (s.after before).deliver? m = none := by
    have hsome := isSome_deliver?_after hs before m
    simpa [hvoid] using hsome
  rw [perform_of_message hm, deliver, hnone, Option.getD_none]

/-- Leaving out the void messages changes nothing of what the other operations do and answer. -/
theorem trace_kept (hs : s.Consistent) (before ops : List Operation) :
    (s.after before).trace (marked (s.kept before ops) ops) =
      marked (s.kept before ops) ((s.after before).trace ops) := by
  induction ops generalizing before with
  | nil => rfl
  | cons o ops ih =>
    have hnext : ((s.after before).perform o).1 = s.after (before ++ [o]) := by
      rw [after_append]; rfl
    have htail := ih (before ++ [o])
    rw [← hnext] at htail
    cases hvoid : o.message?.any (s.isVoid before) with
    | true =>
      -- the session stands after a void message where it stood before, so the row without the
      -- message goes on from the same session
      simp only [kept, hvoid, Bool.not_true, marked, trace]
      rw [perform_void hs hvoid] at htail ⊢
      exact htail
    | false =>
      simp only [kept, hvoid, Bool.not_false, marked, trace]
      rw [htail]

/-- At the start every dynamic parameter waits, so that the first message for it counts. -/
lemma awaits_withParameters {n : Nat} {template : Text} {ps : List Parameter}
    {earlier : List Operation} {m : Message}
    (h : (withParameters n template ps).isVoid earlier m = false) :
    (withParameters n template ps).awaits m.index = true := by
  simp only [isVoid, Bool.or_eq_false_iff, parameters_withParameters] at h
  obtain ⟨⟨⟨-, hsize⟩, hkind⟩, -⟩ := h
  have hi : m.index < ps.length := by simpa [size, withParameters] using hsize
  have hk : ps[m.index].kind = .dynamic := by
    simpa [List.getElem?_eq_getElem hi] using hkind
  simp [awaits, withParameters, List.getElem?_eq_getElem hi, Slot.ofParameter, hk]

/-- A session is not concerned by messages for other ones. -/
lemma after_deliver_filter (s : Session) (ms : List Message) :
    s.after (ms.map .deliver) =
      s.after ((ms.filter fun m => decide (m.session = s.id)).map .deliver) := by
  induction ms generalizing s with
  | nil => rfl
  | cons m ms ih =>
    have hid : (s.deliver m).id = s.id := (perform_sameFrame s (.deliver m)).id_eq
    have htail := ih (s.deliver m)
    rw [hid] at htail
    by_cases hm : m.session = s.id
    · rw [List.filter_cons_of_pos (by simpa using hm)]
      exact htail
    · have hnone : s.deliver m = s := by simp [deliver, deliver?_eq, hm]
      rw [List.filter_cons_of_neg (by simpa using hm)]
      rw [hnone] at htail
      calc s.after (.deliver m :: ms.map .deliver)
          = s.after (ms.map .deliver) := by rw [after_cons]; exact congrArg (after · _) hnone
        _ = _ := htail

end Session

/-! ### The numbers of sessions -/

namespace Sessions

/-- The sessions begun one after the other over given templates and parameters. -/
def beginAll (c : Sessions) : List (Text × List Parameter) → List Session
  | [] => []
  | (template, ps) :: requests =>
    (c.beginWith template ps).1 :: (c.beginWith template ps).2.beginAll requests

lemma ids_beginAll (c : Sessions) (requests : List (Text × List Parameter)) :
    (c.beginAll requests).map Session.id =
      (List.range requests.length).map fun i => (c.next + UInt64.ofNat i).toNat := by
  induction requests generalizing c with
  | nil => rfl
  | cons r requests ih =>
    rw [List.length_cons, List.range_succ_eq_map, List.map_cons, List.map_map]
    refine congrArg₂ List.cons ?_ ((ih _).trans (List.map_congr_left fun i _ => ?_))
    · simp [beginWith, Session.withParameters]
    · simp only [beginWith, Function.comp_apply, Nat.succ_eq_add_one, UInt64.ofNat_add]
      rw [UInt64.add_assoc, UInt64.add_comm 1]
      rfl

/-- The counter gives no number twice before it has gone through all of them. -/
theorem nodup_ids (c : Sessions) {requests : List (Text × List Parameter)}
    (h : requests.length ≤ UInt64.size) : ((c.beginAll requests).map Session.id).Nodup := by
  rw [ids_beginAll]
  refine List.Nodup.map_on (fun i hi j hj hij => ?_) List.nodup_range
  have hi' : i < UInt64.size := Nat.lt_of_lt_of_le (List.mem_range.1 hi) h
  have hj' : j < UInt64.size := Nat.lt_of_lt_of_le (List.mem_range.1 hj) h
  -- the counter may wrap around, but adding its start is injective all the same
  have heq : UInt64.ofNat i = UInt64.ofNat j := by
    have hsum := UInt64.toNat_inj.1 hij
    exact (UInt64.add_right_inj c.next).1 hsum
  have hnat := congrArg UInt64.toNat heq
  rwa [UInt64.toNat_ofNat_of_lt' hi', UInt64.toNat_ofNat_of_lt' hj'] at hnat

end Sessions

namespace Session

/-- A message to one of several sessions. -/
structure Posting (sessions : List Session) where
  /-- The session that it is for. -/
  recipient : Fin sessions.length
  index : Nat
  outcome : Outcome

/-- The message as it is sent. -/
def Posting.message {sessions : List Session} (p : Posting sessions) : Message :=
  ⟨(sessions.get p.recipient).id, p.index, p.outcome⟩

lemma get_inj_of_nodup_ids {sessions : List Session} (h : (sessions.map Session.id).Nodup)
    {i j : Fin sessions.length} (hij : (sessions.get i).id = (sessions.get j).id) : i = j := by
  have hget : sessions.get i = sessions.get j :=
    List.inj_on_of_nodup_map h (List.get_mem ..) (List.get_mem ..) hij
  exact (List.Nodup.get_inj_iff (List.Nodup.of_map _ h)).1 hget

/-- Of a stream of messages for several sessions, each of them takes its own ones only. -/
lemma after_postings {s : Session} {sessions : List Session} (h : (sessions.map Session.id).Nodup)
    (k : Fin sessions.length) (hs : s.id = (sessions.get k).id)
    (stream : List (Posting sessions)) :
    s.after ((stream.map Posting.message).map .deliver) =
      s.after (((stream.filter fun p => decide (p.recipient = k)).map Posting.message).map
        .deliver) := by
  have hown : ∀ p : Posting sessions,
      (decide (p.recipient = k)) = decide (p.message.session = s.id) := by
    intro p
    rw [hs]
    exact decide_eq_decide.2 ⟨fun hp => by rw [← hp]; rfl, fun hp => get_inj_of_nodup_ids h hp⟩
  rw [after_deliver_filter, List.filter_map, List.filter_congr fun p _ => hown p]
  rfl

/-- Every job reports with effect once at most, whatever else arrives and happens.

The first part is about a session at any moment and any row of operations from there on: leaving
out the void messages changes neither what any other operation does nor what it answers, and a
message after such a row has an effect exactly if it is not void and its parameter was waiting at
that moment.  From the start on, that is exactly if it is not void.

The last part is about sessions begun one after the other: their numbers are distinct, and each of
them, at any moment, is led by a stream of messages for all of them to where its own messages lead
it. -/
theorem delivered_once :
    (∀ (n : Nat) (template : Text) (ps : List Parameter) (history ops : List Operation),
      let s := (withParameters n template ps).after history
      s.trace (marked (s.kept [] ops) ops) = marked (s.kept [] ops) (s.trace ops) ∧
        ∀ m, ((s.after ops).perform (.deliver m)).2 =
          .delivered (!s.isVoid ops m && s.awaits m.index)) ∧
      (∀ (n : Nat) (template : Text) (ps : List Parameter) (ops : List Operation) (m : Message),
        let s := withParameters n template ps
        ((s.after ops).perform (.deliver m)).2 = .delivered (!s.isVoid ops m)) ∧
      ∀ requests : List (Text × List Parameter), requests.length < UInt64.size →
        let started := Sessions.initial.beginAll requests
        (started.map Session.id).Nodup ∧
          ∀ (history : List Operation) (k : Fin started.length) (stream : List (Posting started)),
            let live := (started.get k).after history
            live.after ((stream.map Posting.message).map .deliver) =
              live.after (((stream.filter fun p => decide (p.recipient = k)).map
                Posting.message).map .deliver) := by
  refine ⟨fun n template ps history ops => ?_, fun n template ps ops m => ?_,
    fun requests hlength => ?_⟩
  · have hs := (consistent_withParameters n template ps).after history
    exact ⟨trace_kept hs [] ops, fun m => congrArg Answer.delivered (isSome_deliver?_after hs ops m)⟩
  · have hs := consistent_withParameters n template ps
    refine congrArg Answer.delivered ((isSome_deliver?_after hs ops m).trans ?_)
    cases hvoid : (withParameters n template ps).isVoid ops m with
    | true => rfl
    | false => rw [awaits_withParameters hvoid]; rfl
  · have hnodup := Sessions.nodup_ids Sessions.initial (Nat.le_of_lt hlength)
    refine ⟨hnodup, fun history k stream => ?_⟩
    exact after_postings hnodup k (after_sameFrame _ history).id_eq stream

/-- Two sessions over one dynamic parameter each, and a stream of two messages, the second of which
is for the first session. -/
theorem delivered_once_two_sessions :
    let requests : List (Text × List Parameter) :=
      [([], [⟨['a'], .dynamic, [], [], []⟩]), ([], [⟨['b'], .dynamic, [], [], []⟩])]
    let started := Sessions.initial.beginAll requests
    let k : Fin started.length := ⟨0, Nat.two_pos⟩
    let stream : List (Posting started) :=
      [⟨⟨1, Nat.one_lt_two⟩, 0, .failed .signal⟩, ⟨k, 0, .options [['u']]⟩]
    requests.length < UInt64.size ∧ (started.map Session.id).Nodup ∧
      (started.get k).after ((stream.map Posting.message).map .deliver) =
        (started.get k).after (((stream.filter fun p => decide (p.recipient = k)).map
          Posting.message).map .deliver) ∧
      ((started.get k).after ((stream.map Posting.message).map .deliver)).slots.map Slot.value =
        [['u']] := by
  intro requests started k stream
  have hlength : requests.length < UInt64.size := by decide
  obtain ⟨hnodup, halone⟩ := delivered_once.2.2 requests hlength
  exact ⟨hlength, hnodup, halone [] k stream, by decide⟩

end Session

end TemplateFill
