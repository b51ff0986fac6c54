import TemplateFill.Proofs.Journal.Account
import TemplateFill.Proofs.Journal.File

/-!
# What a run notes is read back from its journal

The details of a note hold texts and the numbers of its occurrence, so an entry of it comes back
from its line if the numbers have 64 bits (`Journal.Note.isSound_ofOccurrence`).  In a run they do,
if there are no more parameters than that, and no message brings a larger number
(`Session.fits_run`).

So the notes of a run that are put at the end of a journal are all read back, in their order and
behind the entries that were there (`Session.entries_keep_run`): what `Session.journal_accounts` says
of the notes is then what the journal says.
-/

namespace TemplateFill

/-- The numbers of an occurrence have 64 bits. -/
def Occurrence.Fits : Occurrence → Prop
  | .started _ parameters pending => parameters < 2 ^ 64 ∧ pending < 2 ^ 64
  | .resolved _ n | .discarded n | .cancelled n => n < 2 ^ 64
  | .failed .. | .submitted _ => True

/-- The numbers that come with an event have 64 bits: that of the session which a message is for, and
that of the options. -/
def Event.Fits : Event → Prop
  | .input _ => True
  | .report m => m.session < 2 ^ 64 ∧ ∀ os, m.outcome = .options os → os.length < 2 ^ 64

namespace Journal

/-! ### Notes that come back -/

namespace Note

/-- What holds of the notes that a line holds without loss. -/
structure IsSound (n : Note) : Prop where
  session_lt : n.session < 2 ^ 64
  isExact : n.details.IsExact
  depth_lt : n.details.depth < Json.Source.deepest

lemma IsSound.entry {n : Note} (h : n.IsSound) {time : Timestamp} (htime : time.IsInstant) :
    Entry.IsSound ⟨n, time⟩ :=
  ⟨htime, h.session_lt, h.isExact, h.depth_lt⟩

/-- A text or a number that has 64 bits. -/
def IsPlain : Json → Prop
  | .string _ => True
  | .integer i => Json.Fits i
  | _ => False

lemma isPlain_ofNat {n : Nat} (h : n < 2 ^ 64) : IsPlain (.ofNat n) := by
  constructor <;> omega

lemma IsPlain.isExact {v : Json} (h : IsPlain v) : v.IsExact ∧ v.depth = 0 := by
  cases v with
  | string s => exact ⟨.string s, rfl⟩
  | integer i => exact ⟨.integer h, rfl⟩
  | null | bool | real | array | object => exact absurd h id

/-- A note whose details are plain, under names in their order, comes back. -/
lemma isSound_object {action : Action} {session : Nat} (hsession : session < 2 ^ 64)
    (parameter : Option Text) {members : List (Text × Json)}
    (ascending : (members.map Prod.fst).Pairwise (· < ·)) (h : ∀ m ∈ members, IsPlain m.2) :
    IsSound ⟨action, session, parameter, .object members⟩ := by
  have hdepth : Json.membersDepth members = 0 := by
    clear ascending
    induction members with
    | nil => rfl
    | cons m members ih =>
      obtain ⟨hm, hmembers⟩ := List.forall_mem_cons.1 h
      rw [Json.membersDepth, ih hmembers, hm.isExact.2, Nat.max_self]
  refine ⟨hsession, .object ascending fun m hm => (h m hm).isExact.1, ?_⟩
  rw [Json.depth, hdepth]
  decide

/-- The note of an occurrence comes back, if its numbers do. -/
lemma isSound_ofOccurrence {session : Nat} (hsession : session < 2 ^ 64) {o : Occurrence}
    (ho : o.Fits) : (ofOccurrence session o).IsSound := by
  have hsingle : ∀ action parameter (name : Text) v, IsPlain v →
      IsSound ⟨action, session, parameter, .sortedObject [(name, v)]⟩ :=
    fun action parameter name v hv =>
      isSound_object hsession parameter (List.pairwise_singleton _ _) (List.forall_mem_singleton.2 hv)
  cases o with
  | started template parameters pending =>
    obtain ⟨hparameters, hpending⟩ := ho
    -- the names of the details are sorted
    have hmembers : ∀ m ∈ [("params".toList, Json.ofNat parameters),
        ("pending".toList, .ofNat pending), ("template".toList, .string template)],
        IsPlain m.2 := by
      simp only [List.forall_mem_cons, List.not_mem_nil, false_implies, implies_true, and_true]
      exact ⟨isPlain_ofNat hparameters, isPlain_ofNat hpending, trivial⟩
    refine isSound_object hsession none ?_ hmembers
    show ["params".toList, "pending".toList, "template".toList].Pairwise (· < ·)
    decide
  | resolved name n => exact hsingle _ _ _ _ (isPlain_ofNat ho)
  | failed name why => exact hsingle _ _ _ _ trivial
  | discarded n => exact hsingle _ _ _ _ (isPlain_ofNat ho)
  | submitted command => exact hsingle _ _ _ _ trivial
  | cancelled n => exact hsingle _ _ _ _ (isPlain_ofNat ho)

end Note

/-! ### Entries that are kept -/

section Keep

variable {files files' : FileTree} {p : Path} {content : Text} {now : Timestamp}
  {notes : List Note}

/-- If all entries can be added, then none is passed over. -/
lemma foldl_append {es : List Entry}
    (h : es.foldlM (fun files e => append files p e) files = .ok files') :
    es.foldl (fun files e => (append files p e).toOption.getD files) files = files' := by
  induction es generalizing files with
  | nil => exact Except.ok.inj h
  | cons e es ih =>
    rw [List.foldlM_cons] at h
    cases happend : append files p e with
    | error why =>
      rw [happend] at h
      exact absurd h (by simp [bind, Except.bind])
    | ok files₁ =>
      rw [happend] at h
      rw [List.foldl_cons, happend]
      exact ih h

/-- What is kept in a journal that is there are the lines of the notes, behind what it held. -/
lemma Holds.keep (h : Holds files p content) (now : Timestamp) (notes : List Note) :
    Holds (Journal.keep files p now notes) p (content ++ linesOf (entriesAt now notes)) := by
  obtain ⟨files', hfold, h'⟩ := h.foldlM_append (entriesAt now notes)
  rw [Journal.keep, foldl_append hfold]
  exact h'

/-- Notes that are kept in a journal are read back behind the entries that were there, unless an
open line stands at its end. -/
theorem entries_keep (h : Holds files p content) (htime : now.IsInstant)
    (hblank : ∀ c ∈ Text.openLine content, Json.isSpace c = true)
    (hnotes : ∀ n ∈ notes, n.IsSound) :
    entries (keep files p now notes) p = .ok (entriesIn content ++ entriesAt now notes) := by
  have hentries : ∀ e ∈ entriesAt now notes, e.IsSound := by
    intro e he
    obtain ⟨n, hn, rfl⟩ := List.mem_map.1 he
    exact (hnotes n hn).entry htime
  rw [(h.keep now notes).entries_eq, entriesIn_append_of_blank hentries hblank]

end Keep

end Journal

/-! ### The numbers of a run -/

namespace Session

open Journal

variable {s t : Session} {m : Message} {o : Occurrence}

lemma pending_le (s : Session) : s.pending ≤ s.size := List.countP_le_length

lemma fits_closing (hsize : s.size < 2 ^ 64) (ending : Ending) : (s.closing ending).Fits := by
  cases ending with
  | submitted command => trivial
  | cancelled => exact Nat.lt_of_le_of_lt s.pending_le hsize

lemma fits_settled (hm : (Event.report m).Fits) (h : s.deliver? m = some t) :
    ∀ o ∈ t.settled m.index, o.Fits := by
  obtain ⟨-, x, y, hx, hy, rfl⟩ := deliver?_eq_some_iff.1 h
  have hsettled := Slot.settledWith_of_settle hy
  simp only [settled, getElem?_setSlot_self hx]
  cases hstage : y.stage with
  | resolved os =>
    have houtcome := hsettled.eq_options hstage
    exact List.forall_mem_singleton.2 (hm.2 os houtcome)
  | failed why => exact List.forall_mem_singleton.2 trivial
  | awaitingInput | loading => exact fun o ho => absurd ho List.not_mem_nil

lemma fits_noted {e : Event} (he : e.Fits) : ∀ o ∈ s.noted e, o.Fits := by
  cases e with
  | input u => exact fun o ho => absurd ho List.not_mem_nil
  | report m =>
    intro o ho
    rcases List.mem_append.1 ho with hstray | hnoted
    · split at hstray
      · exact absurd hstray List.not_mem_nil
      · obtain rfl := List.mem_singleton.1 hstray
        exact he.1
    · cases hd : s.deliver? m with
      | none => simp [hd] at hnoted
      | some t =>
        rw [hd] at hnoted
        exact fits_settled he hd o hnoted

lemma fits_drive {es : List Event} (hsize : s.size < 2 ^ 64) (hes : ∀ e ∈ es, e.Fits) :
    ∀ o ∈ (s.drive es).occurrences, o.Fits := by
  induction es generalizing s with
  | nil => exact List.forall_mem_singleton.2 (fits_closing hsize .cancelled)
  | cons e es ih =>
    obtain ⟨he, hes⟩ := List.forall_mem_cons.1 hes
    have hnext : (s.step e).1.size < 2 ^ 64 := by
      rw [show (s.step e).1.size = s.size from size_after s [.step e]]
      exact hsize
    cases h : (s.step e).2 with
    | some ending =>
      rw [drive_of_some h]
      exact List.forall_mem_append.2
        ⟨fits_noted he, List.forall_mem_singleton.2 (fits_closing hnext ending)⟩
    | none =>
      rw [drive_of_none h]
      exact List.forall_mem_append.2 ⟨fits_noted he, ih hnext hes⟩

/-- The occurrences of a run have numbers of 64 bits, if its parameters are no more and its events
bring none that are larger. -/
theorem fits_run {es : List Event} (hsize : s.size < 2 ^ 64) (hes : ∀ e ∈ es, e.Fits) :
    ∀ o ∈ (s.run es).occurrences, o.Fits := by
  refine List.forall_mem_cons.2 ⟨⟨hsize, ?_⟩, fits_drive hsize hes⟩
  exact Nat.lt_of_le_of_lt s.pending_le hsize

/-- What a run notes is read back from a journal in which it is kept: behind the entries that were
there, all notes of the run in their order and with the time at which they were kept. -/
theorem entries_keep_run {files : FileTree} {p : Path} {content : Text} {now : Timestamp}
    {es : List Event} (h : Holds files p content) (htime : now.IsInstant)
    (hblank : ∀ c ∈ Text.openLine content, Json.isSpace c = true) (hid : s.id < 2 ^ 64)
    (hsize : s.size < 2 ^ 64) (hes : ∀ e ∈ es, e.Fits) :
    entries (keep files p now (Note.ofRun s.id (s.run es))) p =
      .ok (entriesIn content ++ entriesAt now (Note.ofRun s.id (s.run es))) := by
  refine entries_keep h htime hblank fun n hn => ?_
  obtain ⟨o, ho, rfl⟩ := List.mem_map.1 hn
  exact Note.isSound_ofOccurrence hid (fits_run hsize hes o ho)

end Session

end TemplateFill
