import TemplateFill.Proofs.Template.Declarations
import TemplateFill.Proofs.Template.Parameter
import TemplateFill.Proofs.Template.Placeholder
import TemplateFill.Template.Snippet

/-!
# What conversion makes of a snippet

A snippet announces one free text parameter for each name in angle brackets.  Conversion writes a
default into the body of a placeholder as it is, and the body is then read by rules of its own, in
which `!` and `|` stand before the `:` that conversion has written.  So the parameters of a
converted command are the announced ones exactly if no default holds a `!` or a `|`
(`parameters_convertSnippet`), and otherwise one of them is not free text.
-/

namespace TemplateFill

namespace AngleParameter

/-- The last default that is given for a name and is not empty, or an empty text. -/
def lastDefault (ps : List AngleParameter) (n : Text) : Text :=
  ((((ps.filter (·.name = n)).filterMap default).filter fun d => !d.isEmpty).getLast?).getD []

/-- The parameters that a snippet announces: a free text for each name, in the order in which the
names first appear, with the last default that is given for the name. -/
def announced (ps : List AngleParameter) : List Parameter :=
  (ps.map name).eraseDups.map fun n => .free n (lastDefault ps n)

/-- Whether the default holds no delimiter that comes before the colon. -/
def IsPlain (p : AngleParameter) : Prop := ∀ d, p.default = some d → '!' ∉ d ∧ '|' ∉ d

/-- The parameter as a free text. -/
def asText (p : AngleParameter) : Parameter := .free p.name (p.default.getD [])

/-! ### What is announced -/

lemma lastDefault_eq (ps : List AngleParameter) (n : Text) :
    Parameter.lastDefault (ps.map asText) n = lastDefault ps n := by
  have hdefaults : ((ps.map asText).filter fun p => decide (p.name = n) && p.hasDefault).map
        Parameter.default =
      ((ps.filter (·.name = n)).filterMap default).filter fun d => !d.isEmpty := by
    induction ps with
    | nil => rfl
    | cons p ps ih =>
      by_cases hn : p.name = n
      · cases hd : p.default with
        | none => simpa [asText, Parameter.free, Parameter.hasDefault, hn, hd] using ih
        | some d =>
          cases he : d.isEmpty <;>
            simpa [asText, Parameter.free, Parameter.hasDefault, hn, hd, he] using ih
      · simpa [asText, Parameter.free, hn] using ih
  rw [lastDefault, ← hdefaults, List.getLast?_map]
  rfl

lemma names_map_asText (ps : List AngleParameter) :
    Parameter.names (ps.map asText) = (ps.map name).eraseDups := by
  rw [Parameter.names, List.map_map]
  rfl

lemma merged?_map_asText {ps : List AngleParameter} {n : Text} (h : n ∈ ps.map name) :
    Parameter.merged? (ps.map asText) n = some (.free n (lastDefault ps n)) := by
  obtain ⟨p, hp, rfl⟩ := List.mem_map.1 h
  have hsome : (ps.find? fun a => decide (a.name = p.name)).isSome = true :=
    List.find?_isSome.2 ⟨p, hp, by simp⟩
  obtain ⟨first, hfirst⟩ := Option.isSome_iff_exists.1 hsome
  have hname : first.name = p.name := by simpa using List.find?_some hfirst
  have hfind : (ps.map asText).find? (·.name = p.name) = some first.asText := by
    rw [List.find?_map]
    exact congrArg (Option.map asText) hfirst
  rw [Parameter.merged?, hfind, lastDefault_eq, ← hname]
  rfl

/-- What a snippet announces is what its parameters declare as free texts. -/
lemma announced_eq (ps : List AngleParameter) :
    announced ps = (Declarations.ofList (ps.map asText)).parameters := by
  rw [Declarations.parameters_ofList, names_map_asText, announced, ← List.filterMap_eq_map]
  refine List.filterMap_congr fun n hn => ?_
  exact (merged?_map_asText (List.mem_eraseDups.1 hn)).symm

lemma kind_of_mem_announced {ps : List AngleParameter} {q : Parameter} (h : q ∈ announced ps) :
    q.kind = .text := by
  obtain ⟨n, -, rfl⟩ := List.mem_map.1 h
  rfl

/-! ### How the bodies are read -/

/-- What holds of a parameter that is read from a command. -/
structure IsRead (p : AngleParameter) : Prop where
  name_ne_nil : p.name ≠ []
  /-- A name holds none of the characters that have a meaning in a placeholder. -/
  isNameChar : ∀ c ∈ p.name, AngleParameter.isNameChar c = true

/-- The parts of a parameter are read as far as their characters go. -/
lemma takeWhile_of_read {s r : Text} {p : AngleParameter} (h : read s = some (p, r)) :
    (∃ t : Text, p.name = t.takeWhile isNameChar) ∧
      ∀ d, p.default = some d → ∃ t : Text, d = t.takeWhile (· ≠ '>') := by
  unfold read at h
  split at h
  case h_2 => exact absurd h (by simp)
  case h_1 t =>
    dsimp only at h
    split at h
    · exact absurd h (by simp)
    · split at h
      · obtain rfl := (Prod.mk.inj (Option.some.inj h)).1
        exact ⟨⟨t, rfl⟩, fun d hd => absurd hd (by simp)⟩
      · rename_i u _
        split at h
        · obtain rfl := (Prod.mk.inj (Option.some.inj h)).1
          exact ⟨⟨t, rfl⟩, fun d hd => ⟨u, (Option.some.inj hd).symm⟩⟩
        · exact absurd h (by simp)
      · exact absurd h (by simp)

lemma isRead_of_read {s r : Text} {p : AngleParameter} (h : read s = some (p, r)) : p.IsRead := by
  refine ⟨(read_eq_some h).2, fun c hc => ?_⟩
  obtain ⟨t, ht⟩ := (takeWhile_of_read h).1
  rw [ht] at hc
  exact List.all_eq_true.1 (List.all_takeWhile (l := t)) c hc

lemma IsRead.not_mem_name {p : AngleParameter} (h : p.IsRead) {c : Char}
    (hc : AngleParameter.isNameChar c = false) : c ∉ p.name := by
  intro hm
  exact absurd ((h.isNameChar c hm).symm.trans hc) (by simp)

lemma mem_body {p : AngleParameter} {c : Char} :
    c ∈ p.body ↔ c ∈ p.name ∨ ∃ d, p.default = some d ∧ (c = ':' ∨ c ∈ d) := by
  unfold body
  cases hd : p.default <;> simp

/-- Whether a parameter is plain can be seen from its body. -/
lemma IsRead.isPlain_iff {p : AngleParameter} (h : p.IsRead) :
    p.IsPlain ↔ '!' ∉ p.body ∧ '|' ∉ p.body := by
  have hcommand : '!' ∉ p.name := h.not_mem_name (by decide)
  have hoptions : '|' ∉ p.name := h.not_mem_name (by decide)
  simp only [mem_body, hcommand, hoptions, false_or, IsPlain]
  constructor
  · intro hp
    refine ⟨?_, ?_⟩ <;> rintro ⟨d, hd, hc | hc⟩
    · exact absurd hc (by decide)
    · exact (hp d hd).1 hc
    · exact absurd hc (by decide)
    · exact (hp d hd).2 hc
  · rintro ⟨hc, ho⟩ d hd
    exact ⟨fun hm => hc ⟨d, hd, Or.inr hm⟩, fun hm => ho ⟨d, hd, Or.inr hm⟩⟩

/-- A plain parameter is read as a free text. -/
lemma IsRead.readBody_of_isPlain {p : AngleParameter} (h : p.IsRead) (hp : p.IsPlain) :
    Parameter.readBody p.body = p.asText := by
  obtain ⟨hc, ho⟩ := h.isPlain_iff.1 hp
  have hcolon : ':' ∉ p.name := h.not_mem_name (by decide)
  cases hd : p.default with
  | none =>
    have hbody : p.body = p.name := by simp [body, hd]
    rw [hbody] at hc ho ⊢
    rw [Parameter.readBody_of_name hc ho hcolon, asText, hd]
    rfl
  | some d =>
    have hbody : p.body = p.name ++ ':' :: d := by simp [body, hd]
    have hcut : Text.splitOnce ':' p.body = some (p.name, d) := by
      rw [hbody, Text.splitOnce_append_cons hcolon]
    rw [Parameter.readBody_of_default hc ho hcut, asText, hd]
    rfl

/-- Any other parameter is not read as a free text, and the colon stays in its name. -/
lemma IsRead.readBody_of_not_isPlain {p : AngleParameter} (h : p.IsRead) (hp : ¬p.IsPlain) :
    (Parameter.readBody p.body).kind ≠ .text ∧ ':' ∈ (Parameter.readBody p.body).name := by
  cases hd : p.default with
  | none => exact absurd (fun d h' => absurd (hd.symm.trans h') (by simp)) hp
  | some d =>
    have hbody : p.body = (p.name ++ [':']) ++ d := by simp [body, hd]
    have hfront : ∀ {c : Char}, AngleParameter.isNameChar c = false → c ≠ ':' → c ∉ p.name ++ [':'] := by
      intro c hc hne
      simpa [hne] using h.not_mem_name hc
    by_cases hc : '!' ∈ d
    · obtain ⟨a, command, hcut⟩ := Text.exists_splitOnce hc
      have hcut' : Text.splitOnce '!' p.body = some (p.name ++ [':'] ++ a, command) := by
        rw [hbody, Text.splitOnce_append (hfront (by decide) (by decide)), hcut]
        rfl
      rw [Parameter.readBody_of_command hcut']
      simp
    · -- the default holds a `|`, and there is no `!` that would come before it
      have ho : '|' ∈ d := by
        by_contra ho
        refine hp fun d' hd' => ?_
        obtain rfl := Option.some.inj (hd.symm.trans hd')
        exact ⟨hc, ho⟩
      have hc' : '!' ∉ p.body := by
        rw [hbody, List.mem_append, not_or]
        exact ⟨hfront (by decide) (by decide), hc⟩
      obtain ⟨a, options, hcut⟩ := Text.exists_splitOnce ho
      have hcut' : Text.splitOnce '|' p.body = some (p.name ++ [':'] ++ a, options) := by
        rw [hbody, Text.splitOnce_append (hfront (by decide) (by decide)), hcut]
        rfl
      rw [Parameter.readBody_of_options hc' hcut']
      simp [Parameter.choice]

/-- A body that conversion writes always declares a name. -/
lemma IsRead.ofBody?_body {p : AngleParameter} (h : p.IsRead) :
    Parameter.ofBody? p.body = some (Parameter.readBody p.body) := by
  have hne : (Parameter.readBody p.body).name ≠ [] := by
    by_cases hp : p.IsPlain
    · rw [h.readBody_of_isPlain hp]
      exact h.name_ne_nil
    · exact List.ne_nil_of_mem (h.readBody_of_not_isPlain hp).2
  rw [Parameter.ofBody?, if_neg (by simpa using hne)]

end AngleParameter

open AngleParameter

/-! ### Converted commands -/

section Converted

variable {command : Text}

lemma isRead_of_mem {p : AngleParameter} (h : p ∈ (angleParameters command).items) : p.IsRead :=
  Pattern.of_mem_items (p := AngleParameter.pattern) isRead_of_read h

/-- The text of a command is that of its parameters and of the gaps between them. -/
lemma fill_written (command : Text) : (angleParameters command).fill written = command :=
  Pattern.fill_layout (fun h => (read_eq_some h).1) command

lemma mem_written_of_mem_body {p : AngleParameter} {c : Char} (hne : c ≠ ':') (h : c ∈ p.body) :
    c ∈ p.written := by
  unfold written
  rcases mem_body.1 h with hname | ⟨d, hd, hd'⟩
  · cases p.default <;> simp [hname]
  · rcases hd' with rfl | hmem
    · exact absurd rfl hne
    · simp [hd, hmem]

/-- In a command without braces the placeholders are those that conversion writes. -/
lemma declared_convertSnippet (ho : '{' ∉ command) (hc : '}' ∉ command) :
    declared (convertSnippet command) =
      (angleParameters command).items.map fun p => Parameter.readBody p.body := by
  have hopen : ¬('{' ∈ (angleParameters command).lead ∨
      ∃ m ∈ (angleParameters command).matched, '{' ∈ written m.1 ∨ '{' ∈ m.2) := by
    rwa [← Layout.mem_fill, fill_written]
  have hclose : ¬('}' ∈ (angleParameters command).lead ∨
      ∃ m ∈ (angleParameters command).matched, '}' ∈ written m.1 ∨ '}' ∈ m.2) := by
    rwa [← Layout.mem_fill, fill_written]
  have hbody : ∀ p ∈ (angleParameters command).items, p.body ≠ [] ∧ '}' ∉ p.body := by
    intro p hp
    obtain ⟨m, hm, rfl⟩ := List.mem_map.1 hp
    refine ⟨?_, fun hmem => hclose (Or.inr ⟨m, hm, Or.inl ?_⟩)⟩
    · obtain ⟨c, hc⟩ := List.exists_mem_of_ne_nil _ (isRead_of_mem hp).name_ne_nil
      exact List.ne_nil_of_mem (mem_body.2 (Or.inl hc))
    · exact mem_written_of_mem_body (by decide) hmem
  have hlayout : placeholders (convertSnippet command) = (angleParameters command).map body :=
    placeholders_fill (fun h => hopen (Or.inl h))
      (fun m hm h => hopen (Or.inr ⟨m, hm, Or.inr h⟩)) hbody
  rw [declared, hlayout, Layout.items_map, List.filterMap_map, ← List.filterMap_eq_map]
  exact List.filterMap_congr fun p hp => (isRead_of_mem hp).ofBody?_body

lemma parameters_of_isPlain (ho : '{' ∉ command) (hc : '}' ∉ command)
    (hplain : ∀ p ∈ (angleParameters command).items, p.IsPlain) :
    parameters (convertSnippet command) = announced (angleParameters command).items := by
  have hread : ∀ p ∈ (angleParameters command).items, Parameter.readBody p.body = p.asText :=
    fun p hp => (isRead_of_mem hp).readBody_of_isPlain (hplain p hp)
  rw [parameters, declarations, declared_convertSnippet ho hc, List.map_congr_left hread,
    announced_eq]

/-- A parameter that is not plain shows: its name has taken in the colon, and no plain parameter can
have declared that name before. -/
lemma exists_kind_ne_text (ho : '{' ∉ command) (hc : '}' ∉ command) {p : AngleParameter}
    (hp : p ∈ (angleParameters command).items) (hplain : ¬p.IsPlain) :
    ∃ q ∈ parameters (convertSnippet command), q.kind ≠ .text := by
  have hmem : Parameter.readBody p.body ∈ declared (convertSnippet command) := by
    rw [declared_convertSnippet ho hc]
    exact List.mem_map_of_mem hp
  obtain ⟨first, hfirst, hname, q, hq, hkind⟩ := Declarations.exists_mem_parameters hmem
  rw [declared_convertSnippet ho hc] at hfirst
  obtain ⟨a, ha, rfl⟩ := List.mem_map.1 hfirst
  have hcolon := ((isRead_of_mem hp).readBody_of_not_isPlain hplain).2
  have hnot : ¬a.IsPlain := by
    intro haplain
    rw [← hname, (isRead_of_mem ha).readBody_of_isPlain haplain] at hcolon
    exact (isRead_of_mem ha).not_mem_name (by decide) hcolon
  refine ⟨q, hq, ?_⟩
  rw [hkind]
  exact ((isRead_of_mem ha).readBody_of_not_isPlain hnot).1

/-- The parameters of a converted command without braces are the ones that the command announces
exactly if no default holds a `!` or a `|`, and just as exactly they are all free text then. -/
theorem parameters_convertSnippet (ho : '{' ∉ command) (hc : '}' ∉ command) :
    (parameters (convertSnippet command) = announced (angleParameters command).items ↔
        ∀ p ∈ (angleParameters command).items, p.IsPlain) ∧
      ((∀ q ∈ parameters (convertSnippet command), q.kind = .text) ↔
        ∀ p ∈ (angleParameters command).items, p.IsPlain) := by
  have htext : (∀ q ∈ parameters (convertSnippet command), q.kind = .text) →
      ∀ p ∈ (angleParameters command).items, p.IsPlain := by
    intro hall p hp
    by_contra hplain
    obtain ⟨q, hq, hkind⟩ := exists_kind_ne_text ho hc hp hplain
    exact hkind (hall q hq)
  refine ⟨⟨fun heq => htext fun q hq => ?_, parameters_of_isPlain ho hc⟩,
    ⟨htext, fun hplain q hq => ?_⟩⟩
  · rw [heq] at hq
    exact kind_of_mem_announced hq
  · rw [parameters_of_isPlain ho hc hplain] at hq
    exact kind_of_mem_announced hq

/-- A command with two parameters, one of them with a default: both are plain, so it is converted
into what it announces. -/
theorem parameters_convertSnippet_ssh :
    let command : Text := "ssh <user=root>@<host>"
    '{' ∉ command ∧ '}' ∉ command ∧
      parameters (convertSnippet command) = announced (angleParameters command).items ∧
      announced (angleParameters command).items = [.free "user" "root", .free "host" []] := by
  intro command
  have ho : '{' ∉ command := by decide
  have hc : '}' ∉ command := by decide
  have hitems : (angleParameters command).items = [⟨"user", some "root"⟩, ⟨"host", none⟩] := by
    decide +kernel
  have hplain : ∀ p ∈ (angleParameters command).items, p.IsPlain := by
    intro p hp d hd
    rw [hitems] at hp
    have hd' : d = "root".toList := by
      rcases List.mem_pair.1 hp with rfl | rfl
      · exact (Option.some.inj hd).symm
      · exact absurd hd (by simp)
    rw [hd']
    exact ⟨by decide, by decide⟩
  exact ⟨ho, hc, (parameters_convertSnippet ho hc).1.2 hplain, by rw [hitems]; decide +kernel⟩

/-- A default with a `!` in it comes out as a command that filling in would run, and the name of the
parameter takes in what stands before the `!`. -/
theorem parameters_convertSnippet_run :
    let command : Text := "<run=a!b>"
    '{' ∉ command ∧ '}' ∉ command ∧
      announced (angleParameters command).items = [.free "run" "a!b"] ∧
      parameters (convertSnippet command) = [⟨"run:a", .dynamic, [], [], "b"⟩] ∧
      parameters (convertSnippet command) ≠ announced (angleParameters command).items := by
  intro command
  have hannounced : announced (angleParameters command).items = [.free "run" "a!b"] := by
    decide +kernel
  have hparameters : parameters (convertSnippet command) = [⟨"run:a", .dynamic, [], [], "b"⟩] := by
    decide +kernel
  refine ⟨by decide, by decide, hannounced, hparameters, ?_⟩
  rw [hannounced, hparameters]
  decide

end Converted

end TemplateFill
