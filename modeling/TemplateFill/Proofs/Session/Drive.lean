import TemplateFill.Proofs.Session.Step

/-!
# Driving a session to its end

A run takes in events until one of them ends the session, or until there are no more.  What it takes
in are the first of its events (`Session.taken_append`), and it goes through the same sessions as
the row of operations in which the loop takes them one by one, up to `Session.final`.

Only a confirmation submits a session, and what it submits is the preview of the session that it
leaves (`Session.preview_of_submitted`).
-/

namespace TemplateFill

namespace Session

variable {s : Session} {e : Event} {es : List Event} {ending : Ending}

/-- The events that a run takes in: all of them, or those up to the one that ends the session. -/
def taken (s : Session) : List Event → List Event
  | [] => []
  | e :: es => e :: if (s.step e).2.isSome then [] else (s.step e).1.taken es

/-- The session at the end of a run. -/
def final (s : Session) (es : List Event) : Session := s.after ((s.taken es).map .step)

/-! ### An event that ends the session, and one that does not -/

lemma taken_of_some (h : (s.step e).2 = some ending) : s.taken (e :: es) = [e] := by
  simp [taken, h]

lemma taken_of_none (h : (s.step e).2 = none) : s.taken (e :: es) = e :: (s.step e).1.taken es := by
  simp [taken, h]

lemma final_of_some (h : (s.step e).2 = some ending) : s.final (e :: es) = (s.step e).1 := by
  rw [final, taken_of_some h]
  rfl

lemma final_of_none (h : (s.step e).2 = none) : s.final (e :: es) = (s.step e).1.final es := by
  rw [final, taken_of_none h]
  rfl

lemma drive_of_some (h : (s.step e).2 = some ending) :
    s.drive (e :: es) = ⟨ending, [], s.noted e ++ [(s.step e).1.closing ending]⟩ := by
  have hstep : s.step e = ((s.step e).1, some ending) := Prod.ext rfl h
  rw [drive, hstep]

lemma drive_of_none (h : (s.step e).2 = none) :
    s.drive (e :: es) =
      ⟨((s.step e).1.drive es).ending, (s.step e).1 :: ((s.step e).1.drive es).after,
        s.noted e ++ ((s.step e).1.drive es).occurrences⟩ := by
  have hstep : s.step e = ((s.step e).1, none) := Prod.ext rfl h
  rw [drive, hstep]

/-- What a run takes in, it takes in as well if more events follow. -/
lemma taken_append (s : Session) (es es' : List Event) : s.taken es <+: s.taken (es ++ es') := by
  induction es generalizing s with
  | nil => exact List.nil_prefix
  | cons e es ih =>
    rw [List.cons_append]
    cases h : (s.step e).2 with
    | some ending =>
      have hsame : s.taken (e :: es) = s.taken (e :: (es ++ es')) :=
        (taken_of_some h).trans (taken_of_some h).symm
      exact ⟨[], (List.append_nil _).trans hsame⟩
    | none =>
      rw [taken_of_none h, taken_of_none h]
      exact (List.prefix_cons_inj e).2 (ih _)

lemma taken_subset (s : Session) (es : List Event) : s.taken es ⊆ es := by
  induction es generalizing s with
  | nil => exact List.Subset.refl _
  | cons e es ih =>
    cases h : (s.step e).2 with
    | some ending => rw [taken_of_some h]; simp
    | none => rw [taken_of_none h]; exact List.cons_subset_cons e (ih _)

/-! ### Submission -/

/-- What a step submits is the preview of the session that it leaves. -/
lemma preview_of_step {command : Text} (h : (s.step e).2 = some (.submitted command)) :
    command = (s.step e).1.preview := by
  obtain ⟨t, hconfirms, hready, rfl⟩ := step_submitted_iff.1 h
  rw [hconfirms.step_eq, confirm_of_ready hready]

/-- What a run submits is the preview of the session at its end. -/
theorem preview_of_submitted {command : Text} (h : (s.run es).ending = .submitted command) :
    command = (s.final es).preview := by
  change (s.drive es).ending = _ at h
  induction es generalizing s with
  | nil => exact absurd h (by simp [drive])
  | cons e es ih =>
    cases hstep : (s.step e).2 with
    | some ending =>
      rw [drive_of_some hstep] at h
      rw [final_of_some hstep]
      exact preview_of_step (hstep.trans (congrArg some h))
    | none =>
      rw [drive_of_none hstep] at h
      rw [final_of_none hstep]
      exact ih h

end Session

end TemplateFill
