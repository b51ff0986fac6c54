import TemplateFill.Journal.File
import TemplateFill.Proofs.Files.Tree
import TemplateFill.Proofs.Journal.Entry
import TemplateFill.Proofs.Json.Torn
import TemplateFill.Proofs.Text.Lines

/-!
# What is read from a journal after entries were added

Entries that are added to a journal are read back behind those that were in it, if the journal ends
with the end of a line, or with blanks behind it (`Journal.entriesIn_append_of_blank`).  An end of a
line is written behind each entry, and none in front of it.  So an open line at the end of a
journal, be it cut off or whole, is one line with the first entry that is added: nothing is read
from it, and neither it nor the entry comes back (`Journal.entriesIn_append_of_torn`).
-/

namespace TemplateFill

namespace Journal

open Text

variable {files : FileTree} {p : Path} {content t : Text} {e : Entry} {es : List Entry}

/-! ### The file -/

/-- A journal that is there, with the directory that holds it, and what is in it. -/
structure Holds (files : FileTree) (p : Path) (content : Text) : Prop where
  directory : ∀ d, p.parent? = some d → d.isEmpty ∨ files.contains d
  read_eq : files.read p = .ok content

namespace Holds

lemma prepare_eq (h : Holds files p content) : prepare files p = .ok files := by
  unfold prepare
  split
  · rfl
  · rename_i d hd
    rw [if_pos (h.directory d hd)]

lemma entries_eq (h : Holds files p content) : entries files p = .ok (entriesIn content) := by
  rw [entries, h.read_eq]

/-- An entry is put at the end of a journal that is there. -/
lemma append (h : Holds files p content) (e : Entry) : ∃ files',
    Journal.append files p e = .ok files' ∧ Holds files' p (content ++ (e.line ++ ['\n'])) := by
  obtain ⟨files', hchange, hread, hcontains⟩ :=
    FileTree.change_of_read (· ++ (e.line ++ ['\n'])) h.read_eq
  have happend : files.append p (e.line ++ ['\n']) = .ok files' := hchange
  refine ⟨files', ?_, fun d hd => ?_, hread⟩
  · simp [Journal.append, h.prepare_eq, happend, bind, Except.bind]
  · rw [hcontains]
    exact h.directory d hd

/-- Entries are put at the end of a journal that is there, one after the other. -/
lemma foldlM_append (h : Holds files p content) (es : List Entry) : ∃ files',
    es.foldlM (fun files e => Journal.append files p e) files = .ok files' ∧
      Holds files' p (content ++ linesOf es) := by
  induction es generalizing files content with
  | nil => exact ⟨files, rfl, by simpa [linesOf] using h⟩
  | cons e es ih =>
    obtain ⟨files₁, happend, h₁⟩ := h.append e
    obtain ⟨files', hfold, h'⟩ := ih h₁
    refine ⟨files', ?_, ?_⟩
    · rw [List.foldlM_cons, happend]
      exact hfold
    · rw [linesOf, List.flatMap_cons, ← List.append_assoc]
      exact h'

end Holds

/-! ### The line of an entry behind an open line -/

/-- The line of an entry begins with a brace and a name. -/
lemma exists_line (e : Entry) : ∃ x, e.line = '{' :: '"' :: 't' :: 's' :: x := by
  rw [Entry.line, Entry.toJson, Json.compact, Json.compactMembers, join_cons]
  exact ⟨_, rfl⟩

/-- A name without its opening quote is no row of tokens. -/
lemma tokens_name (x : Text) : Json.tokens ('t' :: 's' :: x) = none := by
  refine Json.tokens_of_none (by decide) ?_
  simp [Json.readToken, Json.readNumber, Json.readDigits, Json.readSign]

/-- Nothing is read from a line that was cut off and goes on with an entry. -/
lemma read_append_of_torn (h : e.IsSound) (ht : ∃ c ∈ t, Json.isSpace c = false) :
    Entry.read (t ++ e.line) = none := by
  have hspells := Entry.spells_line h
  obtain ⟨x, hline⟩ := exists_line e
  rw [hline] at hspells ⊢
  rw [Entry.read, Json.read_cut (tokens_name x) hspells ht]
  rfl

/-- Blanks in front of an entry are passed over. -/
lemma read_append_of_blank (h : e.IsSound) (ht : ∀ c ∈ t, Json.isSpace c = true) :
    Entry.read (t ++ e.line) = some e := by
  rw [Entry.read, Json.read_blank_append ht]
  exact Entry.read_of_isSound h

/-- A blank line holds no entry. -/
lemma read_of_blank (ht : ∀ c ∈ t, Json.isSpace c = true) : Entry.read t = none := by
  have hread := Json.read_blank_append ht []
  rw [List.append_nil] at hread
  have hnil : Json.Source.read [] = none := by simp [Json.Source.read]
  rw [Entry.read, hread, hnil]
  rfl

/-! ### The entries on the lines of a text -/

@[simp] lemma entriesIn_nil : entriesIn [] = [] := rfl

/-- The entries of the closed lines come first. -/
lemma entriesIn_closedLines_append (s r : Text) :
    entriesIn (closedLines s ++ r) = entriesIn (closedLines s) ++ entriesIn r := by
  rw [entriesIn, lines_closedLines_append, List.filterMap_append]
  rfl

/-- An entry ends the line that it is put on. -/
lemma entriesIn_line (ht : '\n' ∉ t) (e : Entry) (r : Text) :
    entriesIn (t ++ (e.line ++ '\n' :: r)) = (Entry.read (t ++ e.line)).toList ++ entriesIn r := by
  have hlf : '\n' ∉ t ++ e.line := by simp [ht, Entry.lf_notMem_line]
  have hcr : (t ++ e.line).getLast? ≠ some '\r' := by
    intro h
    obtain ⟨x, hline⟩ := exists_line e
    rw [List.getLast?_append_of_ne_nil _ (by simp [hline])] at h
    exact Entry.cr_notMem_line e (List.mem_of_getLast? h)
  rw [← List.append_assoc, entriesIn, lines, cutLines_line hlf hcr, List.filterMap_cons]
  cases Entry.read (t ++ e.line) <;> rfl

/-- Entries are read back from their lines. -/
lemma entriesIn_linesOf (h : ∀ e ∈ es, e.IsSound) : entriesIn (linesOf es) = es := by
  induction es with
  | nil => rfl
  | cons e es ih =>
    rw [List.forall_mem_cons] at h
    have hcons : linesOf (e :: es) = [] ++ (e.line ++ '\n' :: linesOf es) := by simp [linesOf]
    rw [hcons, entriesIn_line (by simp), ih h.2, List.nil_append, Entry.read_of_isSound h.1]
    rfl

/-- The lines of a text are the closed ones and the open one. -/
lemma entriesIn_openLine (s : Text) :
    entriesIn s = entriesIn (closedLines s) ++ entriesIn (openLine s) := by
  rw [← entriesIn_closedLines_append, closedLines_append_openLine]

/-- Behind a line that is open, the first entry is on that line, and all others on lines of their
own. -/
lemma entriesIn_append_cons (s : Text) (e : Entry) (es : List Entry) :
    entriesIn (s ++ linesOf (e :: es)) = entriesIn (closedLines s) ++
      (Entry.read (openLine s ++ e.line)).toList ++ entriesIn (linesOf es) := by
  have hparts : s ++ linesOf (e :: es) =
      closedLines s ++ (openLine s ++ (e.line ++ '\n' :: linesOf es)) := by
    rw [← List.append_assoc, closedLines_append_openLine]
    simp [linesOf]
  rw [hparts, entriesIn_closedLines_append, entriesIn_line (lf_notMem_openLine s),
    List.append_assoc]

/-- Behind blanks, or nothing, all entries are read back behind those that were there. -/
theorem entriesIn_append_of_blank (hes : ∀ e ∈ es, e.IsSound)
    (h : ∀ c ∈ openLine content, Json.isSpace c = true) :
    entriesIn (content ++ linesOf es) = entriesIn content ++ es := by
  cases es with
  | nil => simp [linesOf]
  | cons e es =>
    rw [List.forall_mem_cons] at hes
    have hopen : entriesIn (openLine content) = [] := by
      by_cases hne : openLine content = []
      · rw [hne, entriesIn_nil]
      · rw [entriesIn, lines, cutLines_open (lf_notMem_openLine content) hne,
          List.filterMap_cons_none (read_of_blank h), List.filterMap_nil]
    rw [entriesIn_append_cons, read_append_of_blank hes.1 h, entriesIn_linesOf hes.2,
      entriesIn_openLine content, hopen]
    simp

/-- Behind anything else, the open line and the first entry are lost. -/
theorem entriesIn_append_of_torn (hes : ∀ e ∈ es, e.IsSound) (hne : es ≠ [])
    (h : ∃ c ∈ openLine content, Json.isSpace c = false) :
    entriesIn (content ++ linesOf es) = entriesIn (closedLines content) ++ es.tail := by
  obtain ⟨e, es, rfl⟩ := List.exists_cons_of_ne_nil hne
  rw [List.forall_mem_cons] at hes
  rw [entriesIn_append_cons, read_append_of_torn hes.1 h, entriesIn_linesOf hes.2]
  simp

/-- Entries that are added to a journal are all read back behind those that were read from it, if
and only if there are none of them, or nothing but blanks stands behind the last end of a line.
Otherwise the open line and the first entry are lost. -/
theorem entries_foldlM_append (h : Holds files p content) (hes : ∀ e ∈ es, e.IsSound) :
    entries files p = .ok (entriesIn content) ∧
      ∃ files', es.foldlM (fun files e => append files p e) files = .ok files' ∧
        (entries files' p = .ok (entriesIn content ++ es) ↔
          es = [] ∨ ∀ c ∈ openLine content, Json.isSpace c = true) ∧
        (es ≠ [] → (∃ c ∈ openLine content, Json.isSpace c = false) →
          entries files' p = .ok (entriesIn (closedLines content) ++ es.tail)) := by
  obtain ⟨files', hfold, h'⟩ := h.foldlM_append es
  refine ⟨h.entries_eq, files', hfold, ?_, fun hne htorn => ?_⟩
  · rw [h'.entries_eq, Except.ok.injEq]
    constructor
    · intro heq
      by_contra hlost
      rw [not_or] at hlost
      obtain ⟨hne, hblank⟩ := hlost
      have htorn : ∃ c ∈ openLine content, Json.isSpace c = false := by
        simpa using hblank
      -- one entry less is read than there should be
      rw [entriesIn_append_of_torn hes hne htorn, entriesIn_openLine content] at heq
      have hlength := congrArg List.length heq
      have hpos := List.length_pos_iff.2 hne
      simp only [List.length_append, List.length_tail] at hlength
      omega
    · rintro (rfl | hblank)
      · simp [linesOf]
      · exact entriesIn_append_of_blank hes hblank
  · rw [h'.entries_eq, entriesIn_append_of_torn hes hne htorn]

/-- A journal in the working directory. -/
lemma holds_file (name content : Text) (hname : Path.parent? name = some [])
    (hread : (⟨.directory [(name, .file content)], []⟩ : FileTree).read name = .ok content) :
    Holds ⟨.directory [(name, .file content)], []⟩ name content := by
  refine ⟨fun d hd => Or.inl ?_, hread⟩
  rw [hname] at hd
  rw [← Option.some.inj hd]
  rfl

/-- An entry without details. -/
lemma isSound_bare (action : Action) {session : Nat} (h : session < 2 ^ 64) {time : Timestamp}
    (htime : time.IsInstant) : Entry.IsSound ⟨⟨action, session, none, .object []⟩, time⟩ :=
  have hdepth : (Json.object []).depth < Json.Source.deepest := by decide
  ⟨htime, h, .object .nil (by simp), hdepth⟩

/-- A journal with a line that was cut off, and two entries added: the second one only is read. -/
theorem entries_foldlM_append_cut :
    let torn : Text := "\x7b\"ts\":\"2024-01-02T03:04:05Z\",\"act"
    let files : FileTree := ⟨.directory [("j".toList, .file torn)], []⟩
    let e : Entry := ⟨⟨.submit, 1, none, .object []⟩, ⟨19724, 11045, 0⟩⟩
    (Holds files "j" torn ∧ ∀ e' ∈ [e, e], e'.IsSound) ∧ entries files "j" = .ok (entriesIn torn) ∧
      ∃ files', [e, e].foldlM (fun files e => append files "j" e) files = .ok files' ∧
        (entries files' "j" = .ok (entriesIn torn ++ [e, e]) ↔
          [e, e] = [] ∨ ∀ c ∈ openLine torn, Json.isSpace c = true) ∧
        ([e, e] ≠ [] → (∃ c ∈ openLine torn, Json.isSpace c = false) →
          entries files' "j" = .ok (entriesIn (closedLines torn) ++ [e, e].tail)) := by
  intro torn files e
  have hholds : Holds files "j" torn := holds_file "j" torn rfl rfl
  have hsound : e.IsSound := isSound_bare .submit (by decide) ⟨by decide, by decide, by decide⟩
  have hall : ∀ e' ∈ [e, e], e'.IsSound := by
    intro e' he'
    obtain rfl : e' = e := by simpa using he'
    exact hsound
  exact ⟨⟨hholds, hall⟩, entries_foldlM_append hholds hall⟩

/-- The only entry that is added is lost, if the journal ends with a line that was cut off. -/
theorem append_cut_lost :
    let torn : Text := "\x7b\"ts\":\"2024-01-02T03:04:05Z\",\"act"
    let files : FileTree := ⟨.directory [("j".toList, .file torn)], []⟩
    let e : Entry := ⟨⟨.submit, 1, none, .object []⟩, ⟨19724, 11045, 0⟩⟩
    e.IsSound ∧ files.read "j" = .ok torn ∧ entries files "j" = .ok [] ∧
      ∃ files', append files "j" e = .ok files' ∧ entries files' "j" = .ok [] := by
  intro torn files e
  have hholds : Holds files "j" torn := holds_file "j" torn rfl rfl
  have hsound : e.IsSound := isSound_bare .submit (by decide) ⟨by decide, by decide, by decide⟩
  have hbefore : entriesIn torn = [] := by
    have hread : Entry.read torn = none := by decide +kernel
    rw [entriesIn, lines, cutLines_open (by decide) (by decide), List.filterMap_cons_none hread,
      List.filterMap_nil]
  have hafter : entriesIn (torn ++ linesOf [e]) = [] := by
    have hall : ∀ e' ∈ [e], e'.IsSound := List.forall_mem_singleton.2 hsound
    have hclosed : closedLines torn = [] := by decide
    rw [entriesIn_append_of_torn hall (List.cons_ne_nil _ _) ⟨'{', by decide, by decide⟩, hclosed]
    rfl
  have hline : linesOf [e] = e.line ++ ['\n'] := List.flatMap_singleton _ e
  obtain ⟨files', happend, h'⟩ := hholds.append e
  rw [← hline] at h'
  exact ⟨hsound, rfl, by rw [hholds.entries_eq, hbefore], files', happend,
    by rw [h'.entries_eq, hafter]⟩

end Journal

end TemplateFill
