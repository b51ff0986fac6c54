import TemplateFill.Proofs.Session.Slot
import TemplateFill.Proofs.Text.Lines
import TemplateFill.Proofs.Text.Pieces
import TemplateFill.Proofs.Text.Trim
import TemplateFill.Resolver.Outcome

/-!
# The options in an output

An output lists options (`Outcome.Lists`): between two of them is a line feed, and around them are
blanks, as many as there may be.  The options that are found in an output are those that it lists, and
every output lists some (`Outcome.optionsIn_eq_iff`), so that an output can be written in any other
way as long as it lists the same options.

* `Outcome.optionsIn_cut`: the options are found piece by piece.
* `Outcome.output_options`: what the outcome of an output is, and what becomes of a slot that waits
  for it.
-/

namespace TemplateFill

namespace Outcome

open Text

variable {c : Char} {o blanks front s out : Text} {os : List Text}

/-- A text that can be an option: it is not empty, lies on one line, and has no blanks around it. -/
structure IsOption (o : Text) : Prop where
  ne_nil : o ≠ []
  lf_notMem : '\n' ∉ o
  head : ∀ c, o.head? = some c → isBlank c = false
  last : ∀ c, o.getLast? = some c → isBlank c = false

/-- A text lists options: each has blanks around it, and a line feed parts it from the next one. -/
inductive Lists : List Text → Text → Prop
  | nil : Lists [] []
  | blank {c : Char} {s : Text} {os : List Text} (hc : isBlank c = true) (h : Lists os s) :
      Lists os (c :: s)
  | last {o blanks : Text} (ho : IsOption o) (hblanks : ∀ c ∈ blanks, isBlank c = true) :
      Lists [o] (o ++ blanks)
  | option {o blanks s : Text} {os : List Text} (ho : IsOption o)
      (hblanks : ∀ c ∈ blanks, isBlank c = true) (h : Lists os s) :
      Lists (o :: os) (o ++ blanks ++ '\n' :: s)

/-- A text with blanks around it. -/
def Padded (o p : Text) : Prop :=
  ∃ front back : Text, (∀ c ∈ front, isBlank c = true) ∧ (∀ c ∈ back, isBlank c = true) ∧
    p = front ++ o ++ back

/-! ### Piece by piece -/

/-- What a piece of an output comes to: one option, if there is anything but blanks in it. -/
def optionIn (p : Text) : List Text := if trim p = [] then [] else [trim p]

lemma optionIn_cons (h : isBlank c = true) (p : Text) : optionIn (c :: p) = optionIn p := by
  rw [optionIn, trim_cons h, optionIn]

lemma optionIn_concat (h : isBlank c = true) (p : Text) : optionIn (p ++ [c]) = optionIn p := by
  rw [optionIn, trim_concat h, optionIn]

lemma optionsIn_eq_flatMap (out : Text) : optionsIn out = out.lines.flatMap optionIn := by
  unfold optionsIn
  induction out.lines with
  | nil => rfl
  | cons l ls ih =>
    rw [List.flatMap_cons, ← ih, optionIn]
    by_cases h : trim l = [] <;> simp [h]

lemma optionsIn_of_notMem (h : '\n' ∉ s) : optionsIn s = optionIn s := by
  rw [optionsIn_eq_flatMap]
  by_cases hs : s = []
  · rw [hs]
    rfl
  · rw [lines, cutLines_open h hs, List.flatMap_singleton]

/-- A line feed parts the options in front of it from those behind it. -/
lemma optionsIn_cut (h : '\n' ∉ front) (s : Text) :
    optionsIn (front ++ '\n' :: s) = optionIn front ++ optionsIn s := by
  rw [optionsIn_eq_flatMap, optionsIn_eq_flatMap, lines, lines]
  by_cases hcr : front.getLast? = some '\r'
  · -- the carriage return in front of the line feed is a blank
    obtain ⟨l, rfl⟩ := List.getLast?_eq_some_iff.1 hcr
    have hl : '\n' ∉ l := fun hmem => h (List.mem_append_left _ hmem)
    have hcut : cutLines '\r' '\n' (l ++ ['\r'] ++ '\n' :: s) = l :: cutLines '\r' '\n' s := by
      rw [List.append_assoc]
      exact cutLines_line_cr (by decide) hl s
    rw [hcut, List.flatMap_cons, optionIn_concat (by decide)]
  · rw [cutLines_line h hcr, List.flatMap_cons]

/-- The options are what the pieces of an output come to. -/
lemma optionsIn_eq_pieces (out : Text) : optionsIn out = (pieces '\n' out).flatMap optionIn := by
  induction out using cutInduction '\n' with
  | whole s hs => rw [optionsIn_of_notMem hs, pieces_of_notMem hs, List.flatMap_singleton]
  | cut front s hfront ih =>
    rw [optionsIn_cut hfront, pieces_append_cons hfront, List.flatMap_cons, ih]

/-! ### Blanks -/

/-- A blank in front of an output does not count. -/
lemma optionsIn_cons (h : isBlank c = true) (s : Text) : optionsIn (c :: s) = optionsIn s := by
  by_cases hc : c = '\n'
  · -- it parts a piece without an option from the rest
    have hnil : '\n' ∉ ([] : Text) := List.not_mem_nil
    rw [hc]
    exact optionsIn_cut hnil s
  · induction s using cutInduction '\n' with
    | whole s hs =>
      have hcs : '\n' ∉ c :: s := by simp [Ne.symm hc, hs]
      rw [optionsIn_of_notMem hcs, optionsIn_of_notMem hs, optionIn_cons h]
    | cut front s hfront =>
      have hcs : '\n' ∉ c :: front := by simp [Ne.symm hc, hfront]
      rw [← List.cons_append, optionsIn_cut hcs, optionsIn_cut hfront, optionIn_cons h]

/-- A blank behind an output does not count. -/
lemma optionsIn_concat (h : isBlank c = true) (s : Text) : optionsIn (s ++ [c]) = optionsIn s := by
  induction s using cutInduction '\n' with
  | whole s hs =>
    by_cases hc : c = '\n'
    · rw [hc, optionsIn_cut hs, optionsIn_of_notMem hs]
      exact List.append_nil _
    · have hsc : '\n' ∉ s ++ [c] := by simp [Ne.symm hc, hs]
      rw [optionsIn_of_notMem hsc, optionsIn_of_notMem hs, optionIn_concat h]
  | cut front s hfront ih =>
    rw [List.append_assoc, List.cons_append, optionsIn_cut hfront, optionsIn_cut hfront, ih]

lemma optionsIn_append_blanks (s : Text) (h : ∀ c ∈ blanks, isBlank c = true) :
    optionsIn (s ++ blanks) = optionsIn s := by
  induction blanks using List.reverseRecOn with
  | nil => rw [List.append_nil]
  | append_singleton blanks c ih =>
    obtain ⟨hblanks, hc⟩ := List.forall_mem_append.1 h
    rw [← List.append_assoc, optionsIn_concat (hc c List.mem_cons_self), ih hblanks]

/-- The options on the two sides of any line feed. -/
lemma optionsIn_append (front s : Text) :
    optionsIn (front ++ '\n' :: s) = optionsIn front ++ optionsIn s := by
  induction front using cutInduction '\n' with
  | whole front hfront => rw [optionsIn_cut hfront, optionsIn_of_notMem hfront]
  | cut first front hfirst ih =>
    rw [List.append_assoc, List.cons_append, optionsIn_cut hfirst, optionsIn_cut hfirst, ih,
      List.append_assoc]

/-! ### What an output lists -/

lemma IsOption.trim_eq (ho : IsOption o) : trim o = o :=
  trim_of_stops ho.head fun c hc => ho.last c (by rwa [← List.head?_reverse])

lemma isOption_trim {p : Text} (hlf : '\n' ∉ p) (hne : trim p ≠ []) : IsOption (trim p) where
  ne_nil := hne
  lf_notMem h := by
    obtain ⟨front, back, -, -, hp⟩ := exists_blanks p
    exact hlf (by rw [hp]; simp [h])
  head := stops_trim p
  last c hc := stops_reverse_trim p c (by rwa [List.head?_reverse])

lemma optionsIn_of_isOption (ho : IsOption o) : optionsIn o = [o] := by
  rw [optionsIn_of_notMem ho.lf_notMem, optionIn, ho.trim_eq, if_neg ho.ne_nil]

lemma Lists.isOption (h : Lists os s) : ∀ o ∈ os, IsOption o := by
  induction h with
  | nil => exact fun o ho => absurd ho List.not_mem_nil
  | blank _ _ ih => exact ih
  | last ho _ => exact List.forall_mem_singleton.2 ho
  | option ho _ _ ih => exact List.forall_mem_cons.2 ⟨ho, ih⟩

lemma Lists.optionsIn_eq (h : Lists os s) : optionsIn s = os := by
  induction h with
  | nil => rfl
  | blank hc _ ih => rw [optionsIn_cons hc, ih]
  | last ho hblanks => rw [optionsIn_append_blanks _ hblanks, optionsIn_of_isOption ho]
  | option ho hblanks _ ih =>
    rw [optionsIn_append, optionsIn_append_blanks _ hblanks, optionsIn_of_isOption ho, ih]
    rfl

lemma Lists.append_blanks {front : Text} (hfront : ∀ c ∈ front, isBlank c = true)
    (h : Lists os s) : Lists os (front ++ s) := by
  induction front with
  | nil => exact h
  | cons c front ih =>
    obtain ⟨hc, hfront⟩ := List.forall_mem_cons.1 hfront
    exact .blank hc (ih hfront)

lemma lists_of_blanks (h : ∀ c ∈ s, isBlank c = true) : Lists [] s := by
  simpa using Lists.nil.append_blanks h

lemma Padded.lists {p : Text} (ho : IsOption o) (h : Padded o p) : Lists [o] p := by
  obtain ⟨front, back, hfront, hback, rfl⟩ := h
  rw [List.append_assoc]
  exact .append_blanks hfront (.last ho hback)

lemma Padded.lists_cons {p gap : Text} (ho : IsOption o) (h : Padded o p)
    (hgap : ∀ c ∈ gap, isBlank c = true) (hs : Lists os s) :
    Lists (o :: os) (p ++ gap ++ '\n' :: s) := by
  obtain ⟨front, back, hfront, hback, rfl⟩ := h
  have hlists := Lists.option ho (List.forall_mem_append.2 ⟨hback, hgap⟩) hs
  simpa using hlists.append_blanks hfront

lemma lists_optionsIn (s : Text) : Lists (optionsIn s) s := by
  have hpiece : ∀ p : Text, '\n' ∉ p → trim p ≠ [] → IsOption (trim p) ∧ Padded (trim p) p :=
    fun p hlf hne => ⟨isOption_trim hlf hne, exists_blanks p⟩
  induction s using cutInduction '\n' with
  | whole s hs =>
    rw [optionsIn_of_notMem hs, optionIn]
    split
    · exact lists_of_blanks (trim_eq_nil_iff.1 ‹_›)
    · obtain ⟨ho, hpad⟩ := hpiece s hs ‹_›
      exact hpad.lists ho
  | cut front s hfront ih =>
    rw [optionsIn_cut hfront, optionIn]
    split
    · exact .append_blanks (trim_eq_nil_iff.1 ‹_›) (.blank (by decide) ih)
    · obtain ⟨ho, hpad⟩ := hpiece front hfront ‹_›
      simpa using hpad.lists_cons ho (List.forall_mem_nil _) ih

/-- The options in an output are those that it lists. -/
theorem optionsIn_eq_iff : optionsIn s = os ↔ Lists os s :=
  ⟨fun h => h ▸ lists_optionsIn s, Lists.optionsIn_eq⟩

/-- Options that are put together with a line feed between neighbours, and with blanks around them,
are listed. -/
lemma lists_join {ps : List Text} {gap : Text} (h : List.Forall₂ Padded os ps)
    (hos : ∀ o ∈ os, IsOption o) (hgap : ∀ c ∈ gap, isBlank c = true) :
    Lists os (join (gap ++ ['\n']) ps) := by
  induction h with
  | nil => exact .nil
  | cons hpad htail ih =>
    obtain ⟨ho, hos⟩ := List.forall_mem_cons.1 hos
    cases htail with
    | nil => exact hpad.lists ho
    | cons _ _ =>
      have hjoin := hpad.lists_cons ho hgap (ih hos)
      simpa [join] using hjoin

/-! ### The outcome of an output -/

lemma ofOutput_eq_options_iff : ofOutput out = .options os ↔ os ≠ [] ∧ optionsIn out = os := by
  rw [ofOutput]
  by_cases h : optionsIn out = []
  · simp only [h, List.isEmpty_nil, if_true]
    exact ⟨fun hfailed => absurd hfailed (by simp), fun hos => absurd hos.2.symm hos.1⟩
  · simp only [List.isEmpty_iff, h, if_false, options.injEq]
    exact ⟨fun hos => ⟨hos ▸ h, hos⟩, And.right⟩

lemma ofOutput_eq_failed_iff : ofOutput out = .failed .emptyOutput ↔ optionsIn out = [] := by
  rw [ofOutput]
  split <;> simp_all

lemma lists_nil_iff : Lists [] s ↔ ∀ c ∈ s, isBlank c = true := by
  refine ⟨fun h => ?_, lists_of_blanks⟩
  generalize hos : ([] : List Text) = os at h
  induction h with
  | nil => exact List.forall_mem_nil _
  | blank hc _ ih => exact List.forall_mem_cons.2 ⟨hc, ih hos⟩
  | last _ _ => exact absurd hos (by simp)
  | option _ _ _ _ => exact absurd hos (by simp)

lemma flatMap_optionIn (ps : List Text) :
    ps.flatMap optionIn = (ps.filter fun p => !p.all isBlank).map trim := by
  induction ps with
  | nil => rfl
  | cons p ps ih =>
    rw [List.flatMap_cons, ih, optionIn]
    by_cases h : ∀ c ∈ p, isBlank c = true
    · have hall : p.all isBlank = true := List.all_eq_true.2 h
      rw [if_pos (trim_eq_nil_iff.2 h), List.filter_cons_of_neg (by simp [hall]), List.nil_append]
    · have hall : p.all isBlank = false := by simpa using h
      rw [if_neg (mt trim_eq_nil_iff.1 h), List.filter_cons_of_pos (by simp [hall])]
      rfl

/-- The options in an output are put together again, in any way. -/
lemma ofOutput_join {ps : List Text} {gap : Text} (h : ofOutput out = .options os)
    (hps : List.Forall₂ Padded os ps) (hgap : ∀ c ∈ gap, isBlank c = true) :
    ofOutput (join (gap ++ ['\n']) ps) = .options os := by
  obtain ⟨hne, hos⟩ := ofOutput_eq_options_iff.1 h
  have hlists := optionsIn_eq_iff.1 hos
  exact ofOutput_eq_options_iff.2 ⟨hne, optionsIn_eq_iff.2 (lists_join hps hlists.isOption hgap)⟩

/-- A slot that waits takes options that are not empty, and one of them is its value. -/
lemma settle_ofOutput {slot : Slot} (hslot : slot.stage = .loading)
    (h : ofOutput out = .options os) :
    ∃ t, slot.settle (ofOutput out) = some t ∧ t.stage = .resolved os ∧ t.value ∈ os ∧
      t.value ≠ [] := by
  obtain ⟨hne, hos⟩ := ofOutput_eq_options_iff.1 h
  rw [h, Slot.settle_options hslot hne]
  refine ⟨_, rfl, rfl, List.get_mem _ _, ?_⟩
  exact ((optionsIn_eq_iff.1 hos).isOption _ (List.get_mem _ _)).ne_nil

/-- What the outcome of an output is.

It is a failure if there is nothing but blanks in the output.  Otherwise it is a list of options: the
pieces between the line feeds that are not blank, in order and without the blanks around them.  So
the options that come of an output are those that it lists, and they come of them again when they
are put together with line feeds and any blanks around them.

A slot that waits for the outcome of an output gets one of the options as its value, which is not
empty, or fails. -/
theorem output_options :
    (∀ out, ofOutput out = .failed .emptyOutput ↔ ∀ c ∈ out, isBlank c = true) ∧
      (∀ out, (¬∀ c ∈ out, isBlank c = true) →
        ∃ os, ofOutput out = .options os ∧ os ≠ [] ∧ (∀ o ∈ os, IsOption o) ∧
          os = ((pieces '\n' out).filter fun p => !p.all isBlank).map trim) ∧
      (∀ out os, ofOutput out = .options os ↔ os ≠ [] ∧ Lists os out) ∧
      (∀ out os, ofOutput out = .options os → ∀ ps, List.Forall₂ Padded os ps →
        ∀ gap : Text, (∀ c ∈ gap, isBlank c = true) →
          ofOutput (join (gap ++ ['\n']) ps) = .options os) ∧
      ∀ out (slot : Slot), slot.stage = .loading → ∃ t, slot.settle (ofOutput out) = some t ∧
        ((∃ os, ofOutput out = .options os ∧ t.stage = .resolved os ∧ t.value ∈ os ∧
            t.value ≠ []) ∨
          ofOutput out = .failed .emptyOutput ∧ t.stage = .failed .emptyOutput) := by
  have hfailed : ∀ out, ofOutput out = .failed .emptyOutput ↔ ∀ c ∈ out, isBlank c = true := by
    intro out
    rw [ofOutput_eq_failed_iff, optionsIn_eq_iff, lists_nil_iff]
  have hoptions : ∀ out, (¬∀ c ∈ out, isBlank c = true) →
      ofOutput out = .options (optionsIn out) ∧ optionsIn out ≠ [] := by
    intro out hout
    have hne : optionsIn out ≠ [] := mt (optionsIn_eq_iff.trans lists_nil_iff).1 hout
    exact ⟨ofOutput_eq_options_iff.2 ⟨hne, rfl⟩, hne⟩
  refine ⟨hfailed, fun out hout => ?_, fun out os => ?_, fun out os h ps hps gap => ofOutput_join h hps,
    fun out slot hslot => ?_⟩
  · obtain ⟨h, hne⟩ := hoptions out hout
    refine ⟨optionsIn out, h, hne, (lists_optionsIn out).isOption, ?_⟩
    rw [optionsIn_eq_pieces, flatMap_optionIn]
  · rw [ofOutput_eq_options_iff, optionsIn_eq_iff]
  · by_cases hout : ∀ c ∈ out, isBlank c = true
    · have h := (hfailed out).2 hout
      rw [h]
      exact ⟨_, Slot.settle_failed hslot _, Or.inr ⟨rfl, rfl⟩⟩
    · obtain ⟨h, -⟩ := hoptions out hout
      obtain ⟨t, ht, hstage, hvalue, hne⟩ := settle_ofOutput hslot h
      exact ⟨t, ht, Or.inl ⟨_, h, hstage, hvalue, hne⟩⟩

/-- An output with blank lines, with blanks of several kinds around its options, and with a carriage
return inside the second one: the same options come of two lines with carriage returns at their ends,
and a slot that waits for them takes one. -/
theorem output_options_mixed :
    let out : Text := "\r\n \u00a0one\r\n\n\ta\rb \u2003\none"
    let os : List Text := ["one", "a\rb", "one"]
    let slot : Slot := ⟨⟨"p", .dynamic, "x", [], "ls"⟩, .loading, [], 0⟩
    (¬∀ c ∈ out, isBlank c = true) ∧ ofOutput out = .options os ∧ Lists os out ∧
      List.Forall₂ Padded os ["one", " a\rb", "\n\none\t"] ∧
      ofOutput (join ['\r', '\n'] ["one", " a\rb", "\n\none\t"]) = .options os ∧
      slot.stage = .loading ∧ ∃ t, slot.settle (ofOutput out) = some t ∧
        t.stage = .resolved os ∧ t.value ∈ os ∧ t.value ≠ [] := by
  intro out os slot
  obtain ⟨-, hsome, hlists, hjoin, hsettle⟩ := output_options
  have hout : ¬∀ c ∈ out, isBlank c = true := fun h => absurd (h 'o' (by decide)) (by decide)
  have hos : ofOutput out = .options os := by
    obtain ⟨os', hos', -, -, hpieces⟩ := hsome out hout
    have heq : os' = os := hpieces.trans (by decide)
    rw [hos', heq]
  have hpadded : List.Forall₂ Padded os ["one", " a\rb", "\n\none\t"] := by
    have hblanks : ∀ b : Text, b.all isBlank = true → ∀ c ∈ b, isBlank c = true :=
      fun b => List.all_eq_true.1
    exact .cons ⟨[], [], hblanks _ rfl, hblanks _ rfl, rfl⟩
      (.cons ⟨[' '], [], hblanks _ rfl, hblanks _ rfl, rfl⟩
        (.cons ⟨['\n', '\n'], ['\t'], hblanks _ rfl, hblanks _ rfl, rfl⟩ .nil))
  have hslot : ∃ t, slot.settle (ofOutput out) = some t ∧ t.stage = .resolved os ∧ t.value ∈ os ∧
      t.value ≠ [] := by
    obtain ⟨t, ht, ⟨os', hos', htaken⟩ | ⟨hfailed, -⟩⟩ := hsettle out slot rfl
    · obtain rfl := options.inj (hos.symm.trans hos')
      exact ⟨t, ht, htaken⟩
    · rw [hos] at hfailed
      exact absurd hfailed (by simp)
  exact ⟨hout, hos, ((hlists out os).1 hos).2, hpadded,
    hjoin out os hos _ hpadded ['\r'] (List.forall_mem_singleton.2 rfl), rfl, hslot⟩

end Outcome

end TemplateFill
