import TemplateFill.Json.Writer
import TemplateFill.Json.Token
import TemplateFill.Proofs.Text.Digits

/-!
# What is written for one token is read as that token

A string between its quotes is read back character by character: every character is written as one
item, a character or an escaped unit, and the item stands for it (`Json.exists_item`).  A whole
number that fits into 64 bits is read back unless the text behind it goes on with the number
(`Json.readToken_ofInt`).

A text *spells* a row of tokens if these are read from it, whatever follows that does not go on with
a number.  Texts that spell tokens can be put together (`Json.Spells.append`).
-/

namespace TemplateFill

namespace Json

open Text

variable {c : Char} {s r : Text}

/-! ### Strings -/

lemma readItems_quote (r : Text) : readItems ('"' :: r) = some ([], r) := by
  simp [readItems]

lemma readItems_escaped {e : Char} (hc : unescape? e = some c) {is : List StringItem} {rest : Text}
    (h : readItems r = some (is, rest)) :
    readItems ('\\' :: e :: r) = some (.char c :: is, rest) := by
  have hu : e ≠ 'u' := by
    rintro rfl
    exact absurd hc (by simp [unescape?])
  rw [readItems]
  · simp [hc, h]
  · intro a b c d r' he _
    exact hu he

lemma readItems_char (hquote : c ≠ '"') (hslash : c ≠ '\\') (hprint : 0x20 ≤ c.toNat)
    {is : List StringItem} {rest : Text} (h : readItems r = some (is, rest)) :
    readItems (c :: r) = some (.char c :: is, rest) := by
  rw [readItems]
  · rw [if_neg (not_or.2 ⟨by omega, hslash⟩), h]
  all_goals simp_all

/-- A control character comes back from the two digits that are written for it. -/
lemma hex4?_control {n : Nat} (h : n < 0x20) :
    hex4? '0' '0' (hexDigit (n / 16)) (hexDigit n) = some n := by
  have hall : ∀ n < 0x20, hex4? '0' '0' (hexDigit (n / 16)) (hexDigit n) = some n := by decide
  exact hall n h

lemma decodeItems_unit {n : Nat} (h : n < 0xD800) (is : List StringItem) :
    decodeItems (.unit n :: is) = (decodeItems is).map (Char.ofNat n :: ·) := by
  rw [decodeItems.eq_def]
  dsimp only
  rw [if_neg (by omega), if_neg (by omega)]

/-- Every character is written as one item of a string, and the item stands for it. -/
lemma exists_item (c : Char) : ∃ i : StringItem,
    (∀ r is rest, readItems r = some (is, rest) →
      readItems (escape c ++ r) = some (i :: is, rest)) ∧
    ∀ is, decodeItems (i :: is) = (decodeItems is).map (c :: ·) := by
  -- the escape sequences of one letter
  have named : ∀ e, unescape? e = some c → escape c = ['\\', e] → ∃ i : StringItem,
      (∀ r is rest, readItems r = some (is, rest) →
        readItems (escape c ++ r) = some (i :: is, rest)) ∧
      ∀ is, decodeItems (i :: is) = (decodeItems is).map (c :: ·) := by
    intro e he hc
    refine ⟨.char c, fun r is rest h => ?_, fun is => by rw [decodeItems]⟩
    rw [hc]
    exact readItems_escaped he h
  by_cases hquote : c = '"'
  · exact named '"' (by rw [hquote]; rfl) (by rw [hquote]; rfl)
  by_cases hslash : c = '\\'
  · exact named '\\' (by rw [hslash]; rfl) (by rw [hslash]; rfl)
  by_cases hlf : c = '\n'
  · exact named 'n' (by rw [hlf]; rfl) (by rw [hlf]; rfl)
  by_cases hcr : c = '\r'
  · exact named 'r' (by rw [hcr]; rfl) (by rw [hcr]; rfl)
  by_cases htab : c = '\t'
  · exact named 't' (by rw [htab]; rfl) (by rw [htab]; rfl)
  by_cases hback : c = '\x08'
  · exact named 'b' (by rw [hback]; rfl) (by rw [hback]; rfl)
  by_cases hfeed : c = '\x0c'
  · exact named 'f' (by rw [hfeed]; rfl) (by rw [hfeed]; rfl)
  by_cases hcontrol : c.toNat < 0x20
  · refine ⟨.unit c.toNat, fun r is rest h => ?_, fun is => ?_⟩
    · have hc : escape c = ['\\', 'u', '0', '0', hexDigit (c.toNat / 16), hexDigit c.toNat] := by
        simp [escape, hquote, hslash, hlf, hcr, htab, hback, hfeed, hcontrol]
      rw [hc]
      simp [readItems, hex4?_control hcontrol, h]
    · rw [decodeItems_unit (by omega), Char.ofNat_toNat]
  · refine ⟨.char c, fun r is rest h => ?_, fun is => by rw [decodeItems]⟩
    have hc : escape c = [c] := by
      simp [escape, hquote, hslash, hlf, hcr, htab, hback, hfeed, hcontrol]
    rw [hc]
    exact readItems_char hquote hslash (by omega) h

/-- The items of a string that is written stand for the string. -/
lemma readItems_flatMap_escape (s r : Text) :
    ∃ is, readItems (s.flatMap escape ++ '"' :: r) = some (is, r) ∧ decodeItems is = some s := by
  induction s with
  | nil => exact ⟨[], readItems_quote r, by rw [decodeItems]⟩
  | cons c s ih =>
    obtain ⟨is, hread, hdecode⟩ := ih
    obtain ⟨i, hi, hc⟩ := exists_item c
    refine ⟨i :: is, ?_, by rw [hc, hdecode]; rfl⟩
    rw [List.flatMap_cons, List.append_assoc]
    exact hi _ _ _ hread

lemma readToken_quote (s r : Text) : readToken (quote s ++ r) = some (.string (some s), r) := by
  obtain ⟨is, hread, hdecode⟩ := readItems_flatMap_escape s r
  have hquote : quote s ++ r = '"' :: (s.flatMap escape ++ '"' :: r) := by simp [quote]
  rw [hquote, readToken, hread]
  simp [hdecode]

/-! ### Numbers -/

/-- The characters with which a number goes on. -/
def goesOn (c : Char) : Bool := c.isDigit || c = '.' || c = 'e' || c = 'E'

lemma stops_isDigit (h : Stops goesOn r) : Stops Char.isDigit r := by
  intro c hc
  have hgoes := h c hc
  simp only [goesOn, Bool.or_eq_false_iff] at hgoes
  exact hgoes.1.1.1

lemma readDigits_append {ds : Text} (hne : ds ≠ []) (hds : ∀ c ∈ ds, c.isDigit = true)
    (h : Stops Char.isDigit r) : readDigits (ds ++ r) = some (ds, r) := by
  simp only [readDigits, takeWhile_append hds h, dropWhile_append hds h]
  simp [hne]

lemma readFraction_of_stops (h : Stops goesOn r) : readFraction r = some (none, r) := by
  unfold readFraction
  split
  · exact absurd (h '.' rfl) (by decide)
  · rfl

lemma readExponent_of_stops (h : Stops goesOn r) : readExponent r = some (none, r) := by
  cases r with
  | nil => rfl
  | cons c r =>
    have hc := h c rfl
    have hne : ¬(c = 'e' ∨ c = 'E') := by
      rintro (rfl | rfl) <;> exact absurd hc (by decide)
    rw [readExponent.eq_def]
    exact if_neg hne

/-- A whole number is read as it is written: its sign, its digits, and nothing behind them. -/
lemma readNumber_ofInt (i : Int) (h : Stops goesOn r) :
    readNumber (Text.ofInt i ++ r) =
      some (⟨decide (i < 0), Text.ofNat i.natAbs, none, none⟩, r) := by
  have hds : ∀ c ∈ Text.ofNat i.natAbs, c.isDigit = true := fun c hc => isDigit_of_mem_ofNat hc
  have hsign : readSign (Text.ofInt i ++ r) = (decide (i < 0), Text.ofNat i.natAbs ++ r) := by
    by_cases hi : i < 0
    · simp [Text.ofInt, hi, readSign]
    · rw [Text.ofInt, if_neg hi, decide_eq_false hi]
      unfold readSign
      split
      · rename_i x hx
        -- the first digit is no sign
        obtain ⟨d, ds, hd, hdigit⟩ := exists_ofNat_eq_cons i.natAbs
        rw [hd, List.cons_append] at hx
        rw [(List.cons.inj hx).1] at hdigit
        exact absurd hdigit (by decide)
      · rfl
  have hzero : ¬((Text.ofNat i.natAbs).head? = some '0' ∧ (Text.ofNat i.natAbs).length ≠ 1) := by
    rintro ⟨hhead, hlength⟩
    by_cases hi : i.natAbs = 0
    · rw [hi] at hlength
      exact hlength rfl
    · exact head?_ofNat_ne_zero (Nat.pos_of_ne_zero hi) hhead
  rw [readNumber, hsign, readDigits_append (ofNat_ne_nil _) hds (stops_isDigit h)]
  simp only [Option.bind_some, if_neg hzero, readFraction_of_stops h, readExponent_of_stops h,
    Option.map_some]

/-- The whole numbers that a value keeps exactly. -/
def Fits (i : Int) : Prop := -2 ^ 63 ≤ i ∧ i < 2 ^ 64

lemma value?_ofInt {i : Int} (h : Fits i) :
    (⟨decide (i < 0), Text.ofNat i.natAbs, none, none⟩ : NumberText).value? =
      some (.integer i) := by
  obtain ⟨hlow, hhigh⟩ := h
  simp only [NumberText.value?, ofDigitChars_ofNat]
  by_cases hi : i < 0
  · have hbounds : 0 < i.natAbs ∧ i.natAbs ≤ Nat.pow 2 63 := by
      have : Nat.pow 2 63 = 9223372036854775808 := by decide
      omega
    rw [if_pos (by simpa using hi), if_pos hbounds]
    congr 2
    omega
  · have hbound : i.natAbs < Nat.pow 2 64 := by
      have : Nat.pow 2 64 = 18446744073709551616 := by decide
      omega
    rw [if_neg (by simpa using hi), if_pos hbound]
    congr 2
    omega

/-- A text that begins with a digit or a minus sign is read as a number. -/
lemma readToken_of_number (hc : c.isDigit = true ∨ c = '-') :
    readToken (c :: r) = (readNumber (c :: r)).map fun p => (.number p.1.value?, p.2) := by
  unfold readToken
  split <;> first
    | rfl
    | (rename_i heq
       obtain ⟨rfl, -⟩ := List.cons.inj heq
       exact absurd hc (by decide))

lemma readToken_ofInt {i : Int} (hi : Fits i) (h : Stops goesOn r) :
    readToken (Text.ofInt i ++ r) = some (.number (some (.integer i)), r) := by
  have hfirst : ∃ c ds, Text.ofInt i = c :: ds ∧ (c.isDigit = true ∨ c = '-') := by
    unfold Text.ofInt
    split
    · exact ⟨'-', _, rfl, Or.inr rfl⟩
    · obtain ⟨c, ds, hds, hc⟩ := exists_ofNat_eq_cons i.natAbs
      exact ⟨c, ds, hds, Or.inl hc⟩
  obtain ⟨c, ds, hds, hc⟩ := hfirst
  have hnumber := readNumber_ofInt i h
  rw [hds, List.cons_append] at hnumber ⊢
  rw [readToken_of_number hc, hnumber, Option.map_some, value?_ofInt hi]

/-! ### Rows of tokens -/

@[simp] lemma tokens_nil : tokens [] = some [] := by
  rw [tokens]

lemma tokens_of_isSpace (hc : isSpace c = true) (r : Text) : tokens (c :: r) = tokens r := by
  rw [tokens, if_pos hc]

/-- Blanks in front of a text are no tokens. -/
lemma tokens_blanks {b : Text} (hb : ∀ c ∈ b, isSpace c = true) (s : Text) :
    tokens (b ++ s) = tokens s := by
  induction b with
  | nil => rfl
  | cons c b ih =>
    rw [List.forall_mem_cons] at hb
    rw [List.cons_append, tokens_of_isSpace hb.1, ih hb.2]

lemma tokens_of_read {t : Token} {rest : Text} (hc : isSpace c = false)
    (h : readToken (c :: r) = some (t, rest)) :
    tokens (c :: r) = (tokens rest).map (t :: ·) := by
  rw [tokens, if_neg (by simp [hc])]
  split
  · rename_i hnone
    exact absurd (h.symm.trans hnone) (by simp)
  · rename_i t' rest' hsome
    obtain ⟨rfl, rfl⟩ := Prod.mk.inj (Option.some.inj (h.symm.trans hsome))
    rfl

lemma tokens_of_none (hc : isSpace c = false) (h : readToken (c :: r) = none) :
    tokens (c :: r) = none := by
  rw [tokens, if_neg (by simp [hc])]
  split
  · rfl
  · rename_i hsome
    exact absurd (h.symm.trans hsome) (by simp)

/-- A character that is a token of its own. -/
def IsSign (c : Char) (t : Token) : Prop :=
  isSpace c = false ∧ ∀ r, readToken (c :: r) = some (t, r)

lemma isSign_openArray : IsSign '[' .openArray := ⟨by decide, fun r => by simp [readToken]⟩

lemma isSign_closeArray : IsSign ']' .closeArray := ⟨by decide, fun r => by simp [readToken]⟩

lemma isSign_openObject : IsSign '{' .openObject := ⟨by decide, fun r => by simp [readToken]⟩

lemma isSign_closeObject : IsSign '}' .closeObject := ⟨by decide, fun r => by simp [readToken]⟩

lemma isSign_comma : IsSign ',' .comma := ⟨by decide, fun r => by simp [readToken]⟩

lemma isSign_colon : IsSign ':' .colon := ⟨by decide, fun r => by simp [readToken]⟩

/-- The tokens are read from the text, whatever follows it that does not go on with a number. -/
def Spells (s : Text) (ts : List Token) : Prop :=
  ∀ r, Stops goesOn r → tokens (s ++ r) = (tokens r).map (ts ++ ·)

section Spells

variable {s s' : Text} {t : Token} {ts ts' : List Token}

/-- Nothing has to follow. -/
lemma Spells.tokens_eq (h : Spells s ts) : tokens s = some ts := by
  have hnil := h [] stops_nil
  simpa using hnil

/-- One token that is read with what follows it left over. -/
lemma spells_of_read (hc : ∀ c, s.head? = some c → isSpace c = false)
    (h : ∀ r, Stops goesOn r → readToken (s ++ r) = some (t, r)) : Spells s [t] := by
  intro r hr
  have hread := h r hr
  cases s with
  | nil => exact absurd (readToken_shorter hread) (by simp)
  | cons c s => exact tokens_of_read (hc c rfl) hread

/-- What spells tokens can be put before what does not go on with a number. -/
lemma Spells.append (h : Spells s ts) (h' : Spells s' ts') (hstops : Stops goesOn s') :
    Spells (s ++ s') (ts ++ ts') := by
  intro r hr
  rw [List.append_assoc, h _ (stops_append hstops hr), h' r hr, Option.map_map]
  simp [Function.comp_def]

lemma spells_nil : Spells [] [] := by
  intro r _
  simp

/-- A sign can stand before anything. -/
lemma Spells.cons (hc : IsSign c t) (h : Spells s ts) : Spells (c :: s) (t :: ts) := by
  intro r hr
  rw [List.cons_append, tokens_of_read hc.1 (hc.2 _), h r hr, Option.map_map]
  rfl

/-- No number goes on with a blank. -/
lemma stops_blanks {b : Text} (hb : ∀ c ∈ b, isSpace c = true) : Stops goesOn b := by
  intro c hc
  have hspace := hb c (List.mem_of_mem_head? hc)
  simp only [isSpace, Bool.or_eq_true, decide_eq_true_eq] at hspace
  rcases hspace with ((rfl | rfl) | rfl) | rfl <;> decide

/-- Blanks can stand before anything. -/
lemma Spells.blanks {b : Text} (hb : ∀ c ∈ b, isSpace c = true) (h : Spells s ts) :
    Spells (b ++ s) ts := by
  intro r hr
  rw [List.append_assoc, tokens_blanks hb, h r hr]

lemma spells_quote (s : Text) : Spells (quote s) [.string (some s)] := by
  refine spells_of_read (fun c hc => ?_) fun r _ => readToken_quote s r
  obtain rfl : '"' = c := Option.some.inj hc
  rfl

lemma spells_ofInt {i : Int} (hi : Fits i) :
    Spells (Text.ofInt i) [.number (some (.integer i))] := by
  refine spells_of_read (fun c hc => ?_) fun r hr => readToken_ofInt hi hr
  have hdigit : c.isDigit = true ∨ c = '-' := by
    unfold Text.ofInt at hc
    split at hc
    · exact Or.inr (Option.some.inj hc).symm
    · exact Or.inl (isDigit_of_mem_ofNat (List.mem_of_mem_head? hc))
  by_contra hspace
  simp only [isSpace, Bool.not_eq_false, Bool.or_eq_true, decide_eq_true_eq] at hspace
  rcases hspace with ((rfl | rfl) | rfl) | rfl <;> exact absurd hdigit (by decide)

end Spells

end Json

end TemplateFill
