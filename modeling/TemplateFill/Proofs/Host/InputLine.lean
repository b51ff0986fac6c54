import TemplateFill.Host.InputLine
import TemplateFill.Proofs.Text.Digits
import TemplateFill.Proofs.Text.Lines
import TemplateFill.Proofs.Text.Trim
import TemplateFill.Proofs.Text.Utf8

/-!
# Lines that say what they are to say

Every text of one line can be given by a line, with one more colon in front if it begins with one
(`InputLine.decode?_textLine`), and every option by its number (`InputLine.decode?_optionLine`).  A
command gives no text (`InputLine.text?_of_command?`).

Lines that are ended in either way are decoded one by one (`InputLine.decodeBytes_lines`).  The lines
of an input are decoded up to the first one that is no text (`InputLine.exists_texts`,
`InputLine.decodeLines_map_encode`), so that texts come through as they were given
(`InputLine.texts_come_through`).
-/

namespace TemplateFill

/-- The text that an input gives to the slot that has the focus. -/
def Input.text? : Input → Option Text
  | .char c => some [c]
  | .setText t | .setTextAndConfirm t => some t
  | _ => none

namespace InputLine

open Text

variable {s : Text} {k n : Nat}

/-- The line that gives a text. -/
def textLine (s : Text) : Text := if s.head? = some ':' then ':' :: s else s

/-- The line that chooses the option of a number. -/
def optionLine (k : Nat) : Text := ':' :: Text.ofNat k

/-! ### One line -/

/-- What can stand on a line without being taken for its end. -/
structure IsLine (s : Text) : Prop where
  lf_notMem : '\n' ∉ s
  getLast?_ne : s.getLast? ≠ some '\r'

lemma chomp_of_isLine (h : IsLine s) : chomp s = s := by
  have hstops : Stops (fun c => c = '\r' || c = '\n') s.reverse := by
    intro c hc
    rw [List.head?_reverse] at hc
    have hcr : c ≠ '\r' := by
      rintro rfl
      exact h.getLast?_ne hc
    have hlf : c ≠ '\n' := by
      rintro rfl
      exact h.lf_notMem (List.mem_of_getLast? hc)
    simp [hcr, hlf]
  rw [chomp, dropWhile_of_stops hstops, List.reverse_reverse]

/-- A text of one line gives a line. -/
lemma isLine_textLine (h : IsLine s) (hne : s ≠ []) : IsLine (textLine s) := by
  unfold textLine
  split
  · obtain ⟨c, r, rfl⟩ := List.exists_cons_of_ne_nil hne
    exact ⟨by simpa using h.lf_notMem, by simpa using h.getLast?_ne⟩
  · exact h

lemma textLine_ne_nil (hne : s ≠ []) : textLine s ≠ [] := by
  unfold textLine
  split
  · simp
  · exact hne

/-- A text that is not empty is given by its line. -/
theorem decode?_textLine (h : IsLine s) (hne : s ≠ []) :
    decode? (textLine s) = some (.setTextAndConfirm s) := by
  rw [decode?, chomp_of_isLine (isLine_textLine h hne)]
  obtain ⟨c, r, rfl⟩ := List.exists_cons_of_ne_nil hne
  by_cases hc : c = ':'
  · rw [hc]
    rfl
  · -- without a colon in front, the line is not a command
    have hline : textLine (c :: r) = c :: r := if_neg (by simpa using hc)
    rw [hline]
    split
    · rename_i heq
      exact absurd heq (by simp)
    · rename_i heq
      exact absurd (List.cons.inj heq).1 hc
    · rename_i heq
      exact absurd (List.cons.inj heq).1 hc
    · rfl

lemma isLine_optionLine (k : Nat) : IsLine (optionLine k) := by
  have hdigit : ∀ c ∈ optionLine k, c = ':' ∨ c.isDigit = true := by
    intro c hc
    rcases List.mem_cons.1 hc with rfl | hc
    · exact Or.inl rfl
    · exact Or.inr (isDigit_of_mem_ofNat hc)
  refine ⟨fun h => ?_, fun h => ?_⟩
  · exact absurd (hdigit _ h) (by decide)
  · exact absurd (hdigit _ (List.mem_of_getLast? h)) (by decide)

/-- The digits of a number are no command that is a word, and are read as the number. -/
lemma command?_ofNat (hpos : 0 < k) (hk : k < 2 ^ 64) :
    command? (Text.ofNat k) = some (.chooseAndConfirm (k - 1)) := by
  obtain ⟨c, ds, hds, hc⟩ := exists_ofNat_eq_cons k
  have hwords : (words.all fun w => w.1.all fun c => !c.isDigit) = true := by decide
  have hlookup : words.lookup (Text.ofNat k) = none := by
    rw [List.lookup_eq_none_iff]
    intro w hw
    rw [bne_iff_ne, hds]
    intro heq
    have hmem : c ∈ w.1 := by
      rw [← heq]
      exact List.mem_cons_self
    have hword := List.all_eq_true.1 (List.all_eq_true.1 hwords w hw) c hmem
    exact absurd hword (by simp [hc])
  have hindex : readIndex (Text.ofNat k) = some k := by
    unfold readIndex
    split
    · rename_i heq
      rw [hds] at heq
      rw [(List.cons.inj heq).1] at hc
      exact absurd hc (by decide)
    · dsimp only
      rw [toNat?_ofNat]
      exact if_pos hk
  obtain ⟨j, rfl⟩ := Nat.exists_eq_succ_of_ne_zero (Nat.ne_of_gt hpos)
  rw [command?, hlookup, hindex]
  rfl

/-- An option is chosen by its number. -/
theorem decode?_optionLine (hpos : 0 < k) (hk : k < 2 ^ 64) :
    decode? (optionLine k) = some (.chooseAndConfirm (k - 1)) := by
  have htrim : trim (Text.ofNat k) = Text.ofNat k :=
    trim_of_forall fun c hc => isBlank_of_isDigit (isDigit_of_mem_ofNat hc)
  rw [decode?, chomp_of_isLine (isLine_optionLine k), optionLine]
  split
  · rename_i heq
    exact absurd heq (by simp)
  · rename_i heq
    have hmem : ':' ∈ Text.ofNat k := by
      rw [(List.cons.inj heq).2]
      exact List.mem_cons_self
    exact absurd hmem (notMem_ofNat rfl k)
  · rename_i heq
    rw [← (List.cons.inj heq).2, htrim, command?_ofNat hpos hk]
  · rename_i hcolon
    exact absurd rfl (hcolon _)

/-! ### The lines of an input -/

/-- The bytes of a line with its end, which may have a carriage return. -/
def ended (line : Text) (cr : Bool) : List UInt8 :=
  Utf8.encode (line ++ if cr then ['\r', '\n'] else ['\n'])

/-- The first line of some bytes. -/
lemma cutLines_ended {line : Text} (h : IsLine line) (cr : Bool) (r : List UInt8) :
    cutLines 13 10 (ended line cr ++ r) = Utf8.encode line :: cutLines 13 10 r := by
  have hlf : 10 ∉ Utf8.encode line :=
    fun hmem => h.lf_notMem (Utf8.mem_of_mem_encode (by decide) rfl hmem)
  have hcr : (Utf8.encode line).getLast? ≠ some 13 :=
    fun hlast => h.getLast?_ne (Utf8.getLast?_of_getLast?_encode (by decide) rfl hlast)
  rw [ended, Utf8.encode_append, List.append_assoc]
  cases cr with
  | true => exact cutLines_line_cr (by decide) hlf r
  | false => exact cutLines_line hlf hcr r

/-- The lines of some bytes that begin with lines of which each is ended, in the one way or the
other. -/
lemma cutLines_flatMap_ended {α : Type} {line : α → Text} {as : List α}
    (h : ∀ a ∈ as, IsLine (line a)) (cr : α → Bool) (r : List UInt8) :
    cutLines 13 10 ((as.flatMap fun a => ended (line a) (cr a)) ++ r) =
      (as.map line).map Utf8.encode ++ cutLines 13 10 r := by
  induction as with
  | nil => rfl
  | cons a as ih =>
    rw [List.forall_mem_cons] at h
    rw [List.flatMap_cons, List.append_assoc, cutLines_ended h.1, ih h.2]
    rfl

/-- Lines that are texts are decoded one by one, and then the lines behind them. -/
lemma decodeLines_map_encode (n : Nat) (lines : List Text) (ls : List (List UInt8)) :
    decodeLines n (lines.map Utf8.encode ++ ls) =
      ⟨lines.filterMap decode? ++ (decodeLines (n + lines.length) ls).inputs,
        lines.filter (fun line => (decode? line).isNone) ++
          (decodeLines (n + lines.length) ls).unrecognized,
        (decodeLines (n + lines.length) ls).badLine⟩ := by
  induction lines generalizing n with
  | nil => rfl
  | cons line lines ih =>
    have hnumber : n + 1 + lines.length = n + (line :: lines).length := by
      rw [List.length_cons]
      omega
    rw [List.map_cons, List.cons_append, decodeLines, Utf8.decode?_encode]
    dsimp only
    rw [ih, hnumber]
    cases h : decode? line with
    | none => simp [h]
    | some i => simp [h]

/-- Lines that stand for inputs are decoded to these inputs. -/
lemma decodeLines_inputs {α : Type} {line : α → Text} {input : α → Input} {as : List α}
    (h : ∀ a ∈ as, decode? (line a) = some (input a)) (n : Nat) :
    decodeLines n ((as.map line).map Utf8.encode) = ⟨as.map input, [], none⟩ := by
  have hinputs : (as.map line).filterMap decode? = as.map input := by
    rw [List.filterMap_map, ← List.filterMap_eq_map]
    exact List.filterMap_congr h
  have hall : (as.map line).filter (fun line => (decode? line).isNone) = [] := by
    rw [List.filter_eq_nil_iff]
    intro l hl
    obtain ⟨a, ha, rfl⟩ := List.mem_map.1 hl
    simp [h a ha]
  have hlines := decodeLines_map_encode n (as.map line) []
  rw [List.append_nil, hinputs, hall, decodeLines] at hlines
  simpa using hlines

/-- Lines that are texts or commands are decoded one by one, however they are ended. -/
theorem decodeBytes_lines {α : Type} {line : α → Text} {input : α → Input} (cr : α → Bool)
    {as : List α} (h : ∀ a ∈ as, IsLine (line a) ∧ decode? (line a) = some (input a)) :
    decodeBytes (as.flatMap fun a => ended (line a) (cr a)) = ⟨as.map input, [], none⟩ := by
  have hcut := cutLines_flatMap_ended (fun a ha => (h a ha).1) cr []
  rw [List.append_nil, cutLines_nil, List.append_nil] at hcut
  rw [decodeBytes, hcut]
  exact decodeLines_inputs (fun a ha => (h a ha).2) 1

/-! ### Any input -/

/-- The lines of an input are all texts, or there is a first one that is none. -/
lemma exists_texts (ls : List (List UInt8)) :
    ∃ lines : List Text, ls = lines.map Utf8.encode ∨
      ∃ bad rest, ls = lines.map Utf8.encode ++ bad :: rest ∧ ∀ s, Utf8.encode s ≠ bad := by
  induction ls with
  | nil => exact ⟨[], Or.inl rfl⟩
  | cons l ls ih =>
    by_cases hl : ∃ s, Utf8.encode s = l
    · obtain ⟨s, rfl⟩ := hl
      obtain ⟨lines, rfl | ⟨bad, rest, rfl, hbad⟩⟩ := ih
      · exact ⟨s :: lines, Or.inl rfl⟩
      · exact ⟨s :: lines, Or.inr ⟨bad, rest, rfl, hbad⟩⟩
    · exact ⟨[], Or.inr ⟨l, ls, rfl, fun s hs => hl ⟨s, hs⟩⟩⟩

/-- Nothing is decoded of a line that is no text, nor of those behind it. -/
lemma decodeLines_bad {bad : List UInt8} (h : ∀ s, Utf8.encode s ≠ bad) (n : Nat)
    (rest : List (List UInt8)) : decodeLines n (bad :: rest) = ⟨[], [], some n⟩ := by
  have hnone : Utf8.decode? bad = none := by
    cases hs : Utf8.decode? bad with
    | none => rfl
    | some s => exact absurd (Utf8.decode?_eq_some_iff.1 hs) (h s)
  rw [decodeLines, hnone]

/-! ### Commands -/

/-- A colon in front of a line is not taken for its end. -/
lemma chomp_colon (r : Text) : chomp (':' :: r) = ':' :: chomp r := by
  unfold chomp
  rw [List.reverse_cons, List.dropWhile_append]
  split
  · rename_i h
    rw [List.isEmpty_iff.1 h]
    rfl
  · rw [List.reverse_append]
    rfl

/-- The line of a command. -/
lemma decode?_command {r : Text} (h : r.head? ≠ some ':') :
    decode? (':' :: r) = command? (trim (chomp r)) := by
  have hhead : (chomp r).head? ≠ some ':' := by
    intro hc
    obtain ⟨t, ht⟩ := List.head?_eq_some_iff.1 hc
    obtain ⟨e, he⟩ : chomp r <+: r := List.rdropWhile_prefix _ r
    rw [ht] at he
    exact h (by rw [← he]; rfl)
  rw [decode?, chomp_colon]
  split
  · rename_i heq
    exact absurd heq (by simp)
  · rename_i t heq
    rw [(List.cons.inj heq).2] at hhead
    exact absurd rfl hhead
  · rename_i heq
    rw [(List.cons.inj heq).2]
  · rename_i hcolon
    exact absurd rfl (hcolon _)

/-- A command gives no text. -/
lemma text?_of_command? {i : Input} (h : command? s = some i) : i.text? = none := by
  have hwords : ∀ w ∈ words, w.2.text? = none := by decide
  unfold command? at h
  split at h
  · rename_i j hj
    obtain rfl := Option.some.inj h
    obtain ⟨l₁, l₂, hl, -⟩ := List.lookup_eq_some_iff.1 hj
    exact hwords (s, j) (by rw [hl]; simp)
  · split at h
    · obtain rfl := Option.some.inj h
      rfl
    · exact absurd h (by simp)

/-! ### What comes through -/

/-- The bytes by which texts are given: each on a line that is ended, with or without a carriage
return, and at last perhaps one on a line that is not. -/
def written (lines : List (Text × Bool)) (last : Option Text) : List UInt8 :=
  (lines.flatMap fun a => ended (textLine a.1) a.2) ++
    last.toList.flatMap fun s => Utf8.encode (textLine s)

/-- A last line without an end is a line as well. -/
lemma cutLines_last {last : Option Text} (h : ∀ s ∈ last, IsLine s ∧ s ≠ []) :
    cutLines 13 10 (last.toList.flatMap fun s => Utf8.encode (textLine s)) =
      (last.toList.map textLine).map Utf8.encode := by
  cases last with
  | none => rfl
  | some s =>
    obtain ⟨hline, hne⟩ := h s rfl
    have hlf : 10 ∉ Utf8.encode (textLine s) := by
      intro hmem
      exact (isLine_textLine hline hne).lf_notMem (Utf8.mem_of_mem_encode (by decide) rfl hmem)
    have hbytes := Utf8.encode_ne_nil (textLine_ne_nil hne)
    simpa using cutLines_open hlf hbytes

/-- What is given comes through, in order and unchanged. -/
lemma decodeBytes_written {lines : List (Text × Bool)} {last : Option Text}
    (h : ∀ s ∈ lines.map Prod.fst ++ last.toList, IsLine s ∧ s ≠ []) :
    decodeBytes (written lines last) =
      ⟨(lines.map Prod.fst ++ last.toList).map .setTextAndConfirm, [], none⟩ := by
  have hlines : ∀ a ∈ lines, IsLine (textLine a.1) := by
    intro a ha
    obtain ⟨hline, hne⟩ := h a.1 (List.mem_append_left _ (List.mem_map_of_mem ha))
    exact isLine_textLine hline hne
  have hlast : ∀ s ∈ last, IsLine s ∧ s ≠ [] := by
    intro s hs
    exact h s (List.mem_append_right _ (Option.mem_toList.2 hs))
  have hcut : cutLines 13 10 (written lines last) =
      ((lines.map Prod.fst ++ last.toList).map textLine).map Utf8.encode := by
    rw [written, cutLines_flatMap_ended hlines, cutLines_last hlast]
    simp
  rw [decodeBytes, hcut]
  exact decodeLines_inputs (fun s hs => decode?_textLine (h s hs).1 (h s hs).2) 1

/-- What is given by lines comes through.

A text that is not empty and has no end of a line in it is given by a line of its own, with one more
colon in front if it begins with a colon.  A line with a single colon in front gives no text.

There is one way to cut an input into lines, each ended by a line feed that may have a carriage
return in front of it.  The lines that stand before the first one that is no text are decoded in
order, those that are no command are reported, and the first one that is no text is reported by its
number.

So texts that are given one after the other come through in order and unchanged, however each line is
ended, and whether or not the last one is. -/
theorem texts_come_through :
    (∀ s, IsLine s → s ≠ [] → decode? (textLine s) = some (.setTextAndConfirm s)) ∧
      (∀ r : Text, r.head? ≠ some ':' → (decode? (':' :: r)).bind Input.text? = none) ∧
      (∀ bytes, ∃ (lines : List Text) (rest : List (List UInt8)),
        (∀ ls, Lined 13 10 bytes ls ↔ ls = lines.map Utf8.encode ++ rest) ∧
          (∀ bad ∈ rest.head?, ∀ s, Utf8.encode s ≠ bad) ∧
          (decodeBytes bytes).inputs = lines.filterMap decode? ∧
          (decodeBytes bytes).unrecognized = lines.filter (fun line => (decode? line).isNone) ∧
          (decodeBytes bytes).badLine = rest.head?.map (fun _ => lines.length + 1) ∧
          (decodeBytes bytes).badLine.map badLineMessage =
            rest.head?.map fun _ =>
              "failed to read input line ".toList ++ Text.ofNat (lines.length + 1)) ∧
      ∀ (lines : List (Text × Bool)) (last : Option Text),
        (∀ s ∈ lines.map Prod.fst ++ last.toList, IsLine s ∧ s ≠ []) →
          decodeBytes (written lines last) =
            ⟨(lines.map Prod.fst ++ last.toList).map .setTextAndConfirm, [], none⟩ := by
  refine ⟨fun s => decode?_textLine, fun r hr => ?_, fun bytes => ?_,
    fun lines last => decodeBytes_written⟩
  · rw [decode?_command hr, Option.bind_eq_none_iff]
    intro i hi
    exact text?_of_command? hi
  · have hlined : ∀ ls, Lined 13 10 bytes ls ↔ ls = cutLines 13 10 bytes := by
      intro ls
      rw [← cutLines_eq_iff (by decide)]
      exact eq_comm
    obtain ⟨lines, hlines | ⟨bad, rest, hlines, hbad⟩⟩ := exists_texts (cutLines 13 10 bytes)
    · have hdecoded := decodeLines_map_encode 1 lines []
      rw [List.append_nil, ← hlines, decodeLines, List.append_nil, List.append_nil] at hdecoded
      refine ⟨lines, [], fun ls => ?_, by simp, ?_⟩
      · rw [hlined, hlines, List.append_nil]
      · rw [decodeBytes, hdecoded]
        exact ⟨rfl, rfl, rfl, rfl⟩
    · have hdecoded := decodeLines_map_encode 1 lines (bad :: rest)
      rw [← hlines, decodeLines_bad hbad, List.append_nil, List.append_nil] at hdecoded
      refine ⟨lines, bad :: rest, fun ls => ?_, ?_, ?_⟩
      · rw [hlined, hlines]
      · intro bad' hmem
        obtain rfl := Option.some.inj hmem
        exact hbad
      · rw [decodeBytes, hdecoded, Nat.add_comm 1]
        exact ⟨rfl, rfl, rfl, rfl⟩

/-- Three texts on lines that are ended in three ways, the first of them with a colon in front; and
an input in which the line behind a command that is none and an empty line is no text. -/
theorem texts_come_through_mixed :
    let lines : List (Text × Bool) := [(":x", true), (" a:\rb ", false)]
    let last : Option Text := some "é"
    (∀ s ∈ lines.map Prod.fst ++ last.toList, IsLine s ∧ s ≠ []) ∧
      written lines last =
        [58, 58, 120, 13, 10, 32, 97, 58, 13, 98, 32, 10, 195, 169] ∧
      decodeBytes (written lines last) =
        ⟨[.setTextAndConfirm ":x", .setTextAndConfirm " a:\rb ", .setTextAndConfirm "é"], [], none⟩ ∧
      decodeBytes [58, 48, 10, 10, 195, 10, 97] = ⟨[.enter], [":0"], some 3⟩ := by
  intro lines last
  have hgiven : ∀ s ∈ lines.map Prod.fst ++ last.toList, IsLine s ∧ s ≠ [] := by
    intro s hs
    have hcases : s = ":x".toList ∨ s = " a:\rb ".toList ∨ s = "é".toList := by
      simpa [lines, last] using hs
    rcases hcases with rfl | rfl | rfl
    · exact ⟨⟨by decide, by decide⟩, by decide⟩
    · exact ⟨⟨by decide, by decide⟩, by decide⟩
    · exact ⟨⟨by decide, by decide⟩, by decide⟩
  obtain ⟨-, -, -, hthrough⟩ := texts_come_through
  exact ⟨hgiven, by decide, hthrough lines last hgiven, by decide +kernel⟩

end InputLine

end TemplateFill
