import TemplateFill.Proofs.Template.Snippet

/-!
# Converting what is converted

The parameters in angle brackets of a command are the spans that are written as such, leftmost first
(`AngleParameter.recognises`), so that conversion replaces these and leaves the rest of the command
alone.

What is left alone may hold brackets that are not closed, and a placeholder that is put in behind
them could close them.  It does not: a name that goes on in the converted text goes on in the
command, for a placeholder begins with a brace, and what closes a default in the converted text
closes one in the command, though it may be a longer one (`AngleParameter.exists_prefix`).  So a
parameter of the converted command begins inside a placeholder, that is, inside a default with an
opening bracket; without such defaults there is none, and converting again changes nothing
(`convertSnippet_replaces`).
-/

namespace TemplateFill

open Layout

namespace AngleParameter

/-- What can be written in angle brackets so that it is read back. -/
structure IsBracketed (p : AngleParameter) : Prop extends IsRead p where
  close_notMem : ∀ d, p.default = some d → '>' ∉ d

lemma isBracketed_of_read {s r : Text} {p : AngleParameter} (h : read s = some (p, r)) :
    p.IsBracketed := by
  refine ⟨isRead_of_read h, fun d hd hmem => ?_⟩
  obtain ⟨t, rfl⟩ := (takeWhile_of_read h).2 d hd
  simpa using List.all_eq_true.1 (List.all_takeWhile (l := t)) _ hmem

/-- What is written is read back. -/
lemma read_written {p : AngleParameter} (h : p.IsBracketed) (r : Text) :
    read (p.written ++ r) = some (p, r) := by
  obtain ⟨name, default⟩ := p
  have hempty : name.isEmpty = false := by simpa using h.name_ne_nil
  have htake : ∀ {c : Char} {s : Text}, isNameChar c = false →
      (name ++ c :: s).takeWhile isNameChar = name := by
    intro c s hc
    rw [List.takeWhile_append_of_pos h.isNameChar, List.takeWhile_cons_of_neg (by simp [hc]),
      List.append_nil]
  have hdrop : ∀ {c : Char} {s : Text}, isNameChar c = false →
      (name ++ c :: s).dropWhile isNameChar = c :: s := by
    intro c s hc
    rw [List.dropWhile_append_of_pos h.isNameChar, List.dropWhile_cons_of_neg (by simp [hc])]
  cases default with
  | none =>
    have hw : written ⟨name, none⟩ ++ r = '<' :: (name ++ '>' :: r) := by simp [written]
    rw [hw, read]
    simp only [htake (c := '>') (by decide), hdrop (c := '>') (by decide), hempty,
      Bool.false_eq_true, if_false]
  | some d =>
    have hclose : '>' ∉ d := h.close_notMem d rfl
    have hw : written ⟨name, some d⟩ ++ r = '<' :: (name ++ '=' :: (d ++ '>' :: r)) := by
      simp [written]
    rw [hw, read]
    simp only [htake (c := '=') (by decide), hdrop (c := '=') (by decide), hempty,
      Text.takeWhile_append_cons hclose, Text.dropWhile_append_cons hclose, Bool.false_eq_true,
      if_false]

/-- The pattern of parameters in angle brackets reads what is written for one and nothing else. -/
lemma recognises : pattern.Recognises written IsBracketed where
  of_read h := ⟨isBracketed_of_read h, (read_eq_some h).1⟩
  read_written := read_written

lemma read_cons_of_ne {c : Char} (h : c ≠ '<') (s : Text) : read (c :: s) = none := by
  unfold read
  split
  · rename_i heq
    exact absurd (List.cons.inj heq).1 h
  · rfl

/-! ### Converted texts, from the front -/

section Front

variable {s t : Text}

@[simp] lemma convertSnippet_nil : convertSnippet [] = [] := by
  rw [convertSnippet, angleParameters, Pattern.layout_nil, fill_ofGap]

lemma convertSnippet_gap {c : Char} (h : read (c :: s) = none) :
    convertSnippet (c :: s) = c :: convertSnippet s := by
  have hlayout : angleParameters (c :: s) = (angleParameters s).consGap c :=
    Pattern.layout_of_gap h
  rw [convertSnippet, hlayout, fill_consGap, convertSnippet]

lemma angleParameters_written {p : AngleParameter} (h : p.IsBracketed) (s : Text) :
    angleParameters (p.written ++ s) = (angleParameters s).consMatch p :=
  Pattern.layout_of_read (read_written h s)

lemma convertSnippet_item {p : AngleParameter} (h : p.IsBracketed) :
    convertSnippet (p.written ++ s) = Placeholder.written p.body ++ convertSnippet s := by
  rw [convertSnippet, angleParameters_written h, fill_consMatch, convertSnippet]

/-- What stands in front of a converted text without an opening brace stood there before. -/
lemma front_of_convertSnippet {w : Text} (hw : '{' ∉ w) (h : convertSnippet s = w ++ t) :
    ∃ r, s = w ++ r ∧ convertSnippet r = t := by
  induction w generalizing s with
  | nil => exact ⟨s, rfl, h⟩
  | cons c w ih =>
    obtain ⟨hc, hw'⟩ := not_or.1 (mt List.mem_cons.2 hw)
    induction s using recognises.induction with
    | nil => exact absurd h (by simp)
    | gap d s hread _ =>
      rw [convertSnippet_gap hread] at h
      obtain ⟨rfl, htail⟩ := List.cons.inj h
      obtain ⟨r, rfl, hr⟩ := ih hw' htail
      exact ⟨r, rfl, hr⟩
    | item p s hp _ =>
      -- a placeholder begins with the brace
      rw [convertSnippet_item hp] at h
      exact absurd (List.cons.inj h).1 hc

/-- A closing bracket of a converted text is one of the text. -/
lemma close_mem_of_convertSnippet (h : '>' ∈ convertSnippet s) : '>' ∈ s := by
  induction s using recognises.induction with
  | nil => exact absurd h (by simp)
  | gap c s hread ih =>
    rw [convertSnippet_gap hread] at h
    rcases List.mem_cons.1 h with hc | hmem
    · exact List.mem_cons.2 (Or.inl hc)
    · exact List.mem_cons_of_mem c (ih hmem)
  | item p s hp _ =>
    have hclose : '>' ∈ p.written := by
      unfold written
      cases p.default <;> simp
    exact List.mem_append_left s hclose

end Front

/-! ### What is not closed before is not closed afterwards -/

/-- A parameter that begins in front of a converted text begins there before, though its default may
be a longer one then. -/
lemma exists_prefix {c : Char} {s : Text} {p : AngleParameter} (hp : p.IsBracketed)
    (h : p.written <+: c :: convertSnippet s) :
    ∃ q : AngleParameter, q.IsBracketed ∧ q.written <+: c :: s := by
  obtain ⟨r, hr⟩ := h
  obtain ⟨name, default⟩ := p
  have hbrace : '{' ∉ name := hp.not_mem_name (by decide)
  cases default with
  | none =>
    have hw : '<' :: ((name ++ ['>']) ++ r) = c :: convertSnippet s := by
      simpa [written] using hr
    obtain ⟨rfl, htail⟩ := List.cons.inj hw
    obtain ⟨r', rfl, -⟩ := front_of_convertSnippet (by simpa using hbrace) htail.symm
    exact ⟨⟨name, none⟩, hp, r', by simp [written]⟩
  | some d =>
    have hw : '<' :: ((name ++ ['=']) ++ (d ++ '>' :: r)) = c :: convertSnippet s := by
      simpa [written] using hr
    obtain ⟨rfl, htail⟩ := List.cons.inj hw
    obtain ⟨s', rfl, hs'⟩ := front_of_convertSnippet (by simpa using hbrace) htail.symm
    -- the first closing bracket behind the name closes the default
    have hclose : '>' ∈ s' := close_mem_of_convertSnippet (by rw [hs']; simp)
    obtain ⟨d', r', rfl, hd'⟩ := List.eq_append_cons_of_mem hclose
    refine ⟨⟨name, some d'⟩, ⟨⟨hp.name_ne_nil, hp.isNameChar⟩, ?_⟩, r', by simp [written]⟩
    rintro d'' hd''
    obtain rfl := Option.some.inj hd''
    exact hd'

/-- Where no parameter begins, none begins after conversion. -/
lemma read_convertSnippet {c : Char} {s : Text} (h : read (c :: s) = none) :
    read (c :: convertSnippet s) = none := by
  have hiff : ∀ t, read t = none ↔ ∀ p : AngleParameter, p.IsBracketed → ¬p.written <+: t :=
    fun t => recognises.read_eq_none_iff
  rw [hiff] at h ⊢
  intro p hp hprefix
  obtain ⟨q, hq, hbefore⟩ := exists_prefix hp hprefix
  exact h q hq hbefore

/-- No parameter begins in the placeholder of a parameter without an opening bracket in its
default. -/
lemma open_notMem_written {p : AngleParameter} (hp : p.IsBracketed)
    (h : ∀ d, p.default = some d → '<' ∉ d) : '<' ∉ Placeholder.written p.body := by
  intro hmem
  have hbody : '<' ∈ p.body := by simpa [Placeholder.written] using hmem
  rcases mem_body.1 hbody with hname | ⟨d, hd, hcolon | hdefault⟩
  · exact hp.not_mem_name (by decide) hname
  · exact absurd hcolon (by decide)
  · exact h d hd hdefault

end AngleParameter

open AngleParameter

section Twice

variable {command : Text}

lemma angleParameters_append {g : Text} (h : '<' ∉ g) (s : Text) :
    angleParameters (g ++ s) = (angleParameters s).consText g := by
  refine Pattern.layout_append_of_gap (fun c hc s => ?_) s
  refine read_cons_of_ne ?_ s
  rintro rfl
  exact h hc

/-- If no default holds an opening bracket, then nothing is left to convert. -/
lemma items_convertSnippet
    (h : ∀ p ∈ (angleParameters command).items, ∀ d, p.default = some d → '<' ∉ d) :
    (angleParameters (convertSnippet command)).items = [] := by
  induction command using recognises.induction with
  | nil =>
    rw [convertSnippet_nil, angleParameters, Pattern.layout_nil, items_ofGap]
  | gap c s hread ih =>
    have hgap : angleParameters (c :: s) = (angleParameters s).consGap c :=
      Pattern.layout_of_gap hread
    have hconverted : angleParameters (c :: convertSnippet s) =
        (angleParameters (convertSnippet s)).consGap c :=
      Pattern.layout_of_gap (read_convertSnippet hread)
    rw [hgap] at h
    rw [convertSnippet_gap hread, hconverted, items_consGap]
    exact ih h
  | item p s hp ih =>
    rw [angleParameters_written hp, items_consMatch, List.forall_mem_cons] at h
    obtain ⟨hdefault, hrest⟩ := h
    rw [convertSnippet_item hp, angleParameters_append (open_notMem_written hp hdefault),
      items_consText]
    exact ih hrest

/-- A command in which no parameter is written is left as it is. -/
lemma convertSnippet_of_items (h : (angleParameters command).items = []) :
    convertSnippet command = command := by
  have hgap : angleParameters command = ofGap command := recognises.layout_eq_ofGap h
  rw [convertSnippet, hgap, fill_ofGap]

/-- What conversion does to a command.

The command is cut into the parameters that are written in it and the gaps between them, in the one
way in which no parameter begins inside a gap.  Conversion puts a placeholder in the place of each
parameter, with its name and with its default if one is written, and leaves the gaps as they are.

If no default holds an opening bracket, then no parameter is written anywhere in the converted
command, and converting it again changes nothing. -/
theorem convertSnippet_replaces (command : Text) :
    (∀ l, IsScan written IsBracketed command l ↔ l = angleParameters command) ∧
      convertSnippet command = (angleParameters command).fill (fun p =>
        p.default.elim (['{', '{'] ++ p.name ++ ['}', '}'])
          fun d => ['{', '{'] ++ p.name ++ [':'] ++ d ++ ['}', '}']) ∧
      ((∀ p ∈ (angleParameters command).items, ∀ d, p.default = some d → '<' ∉ d) →
        (∀ p : AngleParameter, p.IsBracketed → ¬p.written <:+: convertSnippet command) ∧
          convertSnippet (convertSnippet command) = convertSnippet command) := by
  refine ⟨fun l => recognises.isScan_iff, fill_congr fun p _ => ?_, fun h => ?_⟩
  · obtain ⟨name, default⟩ := p
    cases default <;> simp [body, Placeholder.written]
  · have hitems := items_convertSnippet h
    exact ⟨recognises.items_eq_nil_iff.1 hitems, convertSnippet_of_items hitems⟩

/-- Brackets that are not closed stand before and behind the parameters, one of them with a name and
an equals sign, and a redirection between them. -/
theorem convertSnippet_replaces_seams :
    let command : Text := "<<n>> <k=a=b> < in.txt <n.x="
    (angleParameters command).items = [⟨"n", none⟩, ⟨"k", some "a=b"⟩] ∧
      convertSnippet command = "<{{n}}> {{k:a=b}} < in.txt <n.x=".toList ∧
      (∀ p : AngleParameter, p.IsBracketed → ¬p.written <:+: convertSnippet command) ∧
      convertSnippet (convertSnippet command) = convertSnippet command := by
  intro command
  have hitems : (angleParameters command).items = [⟨"n", none⟩, ⟨"k", some "a=b"⟩] := by
    decide +kernel
  have hdefault : ∀ p ∈ (angleParameters command).items, ∀ d, p.default = some d → '<' ∉ d := by
    rw [hitems]
    intro p hp d hd
    rcases List.mem_pair.1 hp with rfl | rfl
    · exact absurd hd (by simp)
    · obtain rfl := Option.some.inj hd
      decide
  obtain ⟨-, -, hstable⟩ := convertSnippet_replaces command
  obtain ⟨hnone, htwice⟩ := hstable hdefault
  exact ⟨hitems, by decide +kernel, hnone, htwice⟩

/-- A default with an opening bracket may begin a parameter of the converted command. -/
example : convertSnippet "<a=<b=>c>" = "{{a:<b=}}c>".toList ∧
    convertSnippet (convertSnippet "<a=<b=>c>") = "{{a:{{b:}}c}}".toList := by
  decide +kernel

end Twice

end TemplateFill
