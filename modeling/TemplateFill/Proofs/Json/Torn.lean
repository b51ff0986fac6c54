import Mathlib.Data.List.Basic
import TemplateFill.Proofs.Json.RoundTrip

/-!
# An object behind a text that was cut off

If a text is cut off and an object is written behind it, nothing can be read any more, unless the
text is blank (`Json.read_cut`).  For no token but a string goes on across the opening brace, so
that the text has tokens of its own: these either end a value, and nothing may follow it, or leave
an array or an object open, and nothing closes it.  A string that was cut off ends at the first
quote of the object, and leaves a name without its opening quote.
-/

namespace TemplateFill

namespace Json

variable {c : Char} {s t r x : Text}

/-! ### Readers that stop at an opening brace -/

/-- What is taken of a text, if something is left over, holds no opening brace. -/
def Takes (s r : Text) : Prop := ∃ front, s = front ++ r ∧ '{' ∉ front

namespace Takes

lemma refl (s : Text) : Takes s s := ⟨[], rfl, by simp⟩

lemma trans (h : Takes s t) (h' : Takes t r) : Takes s r := by
  obtain ⟨front, rfl, hfront⟩ := h
  obtain ⟨front', rfl, hfront'⟩ := h'
  exact ⟨front ++ front', by simp, by simp [hfront, hfront']⟩

lemma cons (hc : c ≠ '{') (h : Takes s r) : Takes (c :: s) r := by
  obtain ⟨front, rfl, hfront⟩ := h
  exact ⟨c :: front, rfl, by simp [hfront, Ne.symm hc]⟩

/-- What is left over from a text with an opening brace in it still has the brace. -/
lemma exists_left (h : Takes (t ++ '{' :: x) r) :
    ∃ t', t'.length ≤ t.length ∧ r = t' ++ '{' :: x := by
  obtain ⟨front, heq, hfront⟩ := h
  rcases List.append_eq_append_iff.1 heq with ⟨a, hfront', hr⟩ | ⟨a, rfl, hr⟩
  · cases a with
    | nil => exact ⟨[], by simp, hr.symm⟩
    | cons d a =>
      rw [List.cons_append, List.cons.injEq] at hr
      rw [hfront', ← hr.1] at hfront
      exact absurd (by simp) hfront
  · exact ⟨a, by simp, hr⟩

end Takes

lemma takes_digits {ds : Text} (h : readDigits s = some (ds, r)) : Takes s r := by
  simp only [readDigits] at h
  split at h
  · exact absurd h (by simp)
  · obtain ⟨-, rfl⟩ := Prod.mk.inj (Option.some.inj h)
    refine ⟨_, List.takeWhile_append_dropWhile.symm, fun hbrace => ?_⟩
    exact absurd (List.all_eq_true.1 List.all_takeWhile _ hbrace) (by decide)

lemma takes_sign (s : Text) : Takes s (readSign s).2 := by
  unfold readSign
  split
  · exact .cons (by decide) (.refl _)
  · exact .refl s

lemma takes_fraction {f : Option Text} (h : readFraction s = some (f, r)) : Takes s r := by
  unfold readFraction at h
  split at h
  · obtain ⟨p, hp, he⟩ := Option.map_eq_some_iff.1 h
    obtain ⟨-, rfl⟩ := Prod.mk.inj he
    exact .cons (by decide) (takes_digits hp)
  · obtain ⟨-, rfl⟩ := Prod.mk.inj (Option.some.inj h)
    exact .refl s

lemma takes_exponent {e : Option (Bool × Text)} (h : readExponent s = some (e, r)) : Takes s r := by
  unfold readExponent at h
  split at h
  · obtain ⟨-, rfl⟩ := Prod.mk.inj (Option.some.inj h)
    exact .refl _
  · rename_i c s
    split at h
    · rename_i hc
      have hbrace : c ≠ '{' := by
        rcases hc with rfl | rfl <;> decide
      obtain ⟨p, hp, he⟩ := Option.map_eq_some_iff.1 h
      obtain ⟨-, rfl⟩ := Prod.mk.inj he
      refine .cons hbrace (.trans ?_ (takes_digits hp))
      split
      · exact .cons (by decide) (.refl _)
      · exact takes_sign s
    · obtain ⟨-, rfl⟩ := Prod.mk.inj (Option.some.inj h)
      exact .refl _

lemma takes_number {n : NumberText} (h : readNumber s = some (n, r)) : Takes s r := by
  obtain ⟨⟨whole, s₁⟩, h₁, h⟩ := Option.bind_eq_some_iff.1 h
  dsimp only at h
  split at h
  · exact absurd h (by simp)
  · obtain ⟨⟨fraction, s₂⟩, h₂, h⟩ := Option.bind_eq_some_iff.1 h
    obtain ⟨⟨exponent, s₃⟩, h₃, h⟩ := Option.map_eq_some_iff.1 h
    obtain ⟨-, rfl⟩ := Prod.mk.inj h
    exact ((takes_sign s).trans (takes_digits h₁)).trans
      ((takes_fraction h₂).trans (takes_exponent h₃))

/-- A token that is no string takes no opening brace behind its first character. -/
lemma takes_token {a : Token} (hc : c ≠ '"') (h : readToken (c :: s) = some (a, r)) :
    Takes s r := by
  unfold readToken at h
  split at h
  case h_7 heq => exact absurd (List.cons.inj heq).1 hc
  case h_11 =>
    obtain ⟨p, hp, he⟩ := Option.map_eq_some_iff.1 h
    obtain ⟨-, rfl⟩ := Prod.mk.inj he
    have hshorter := readNumber_shorter hp
    obtain ⟨front, heq, hfront⟩ := takes_number hp
    cases front with
    | nil =>
      rw [heq] at hshorter
      exact absurd hshorter (by simp)
    | cons d front =>
      obtain ⟨rfl, rfl⟩ := List.cons.inj heq
      exact ⟨front, rfl, fun hbrace => hfront (List.mem_cons_of_mem _ hbrace)⟩
  all_goals
    rename_i heq
    obtain ⟨-, rfl⟩ := List.cons.inj heq
    obtain ⟨-, rfl⟩ := Prod.mk.inj (Option.some.inj h)
    repeat first
      | exact .refl _
      | refine .cons (by decide) ?_

/-! ### Strings that go on across an opening brace -/

lemma ne_brace_of_hexDigit? {n : Nat} (h : hexDigit? c = some n) : c ≠ '{' := by
  rintro rfl
  have hnone : hexDigit? '{' = none := by decide
  rw [hnone] at h
  exact absurd h (by simp)

lemma takes_hex4? {d₁ d₂ d₃ d₄ : Char} {n : Nat} (h : hex4? d₁ d₂ d₃ d₄ = some n) (s : Text) :
    Takes (d₁ :: d₂ :: d₃ :: d₄ :: s) s := by
  obtain ⟨n₁, h₁, h⟩ := Option.bind_eq_some_iff.1 h
  obtain ⟨n₂, h₂, h⟩ := Option.bind_eq_some_iff.1 h
  obtain ⟨n₃, h₃, h⟩ := Option.bind_eq_some_iff.1 h
  obtain ⟨n₄, h₄, -⟩ := Option.bind_eq_some_iff.1 h
  exact .cons (ne_brace_of_hexDigit? h₁) (.cons (ne_brace_of_hexDigit? h₂)
    (.cons (ne_brace_of_hexDigit? h₃) (.cons (ne_brace_of_hexDigit? h₄) (.refl s))))

/-- A string ends at a quote, or goes on behind a character or an escape sequence. -/
lemma readItems_cases {is : List StringItem} (h : readItems (c :: s) = some (is, r)) :
    c = '"' ∧ r = s ∨
      ∃ s' is', readItems s' = some (is', r) ∧ (s' = s ∨ c = '\\' ∧ Takes s s') := by
  unfold readItems at h
  split at h
  case h_1 heq => exact absurd heq (by simp)
  case h_2 heq =>
    obtain ⟨rfl, rfl⟩ := List.cons.inj heq
    exact Or.inl ⟨rfl, (Prod.mk.inj (Option.some.inj h)).2.symm⟩
  case h_3 heq =>
    obtain ⟨rfl, rfl⟩ := List.cons.inj heq
    split at h
    · rename_i hhex hread
      obtain ⟨-, rfl⟩ := Prod.mk.inj (Option.some.inj h)
      exact Or.inr ⟨_, _, hread, Or.inr ⟨rfl, .cons (by decide) (takes_hex4? hhex _)⟩⟩
    · exact absurd h (by simp)
  case h_4 heq =>
    obtain ⟨rfl, rfl⟩ := List.cons.inj heq
    split at h
    · rename_i hescape hread
      obtain ⟨-, rfl⟩ := Prod.mk.inj (Option.some.inj h)
      refine Or.inr ⟨_, _, hread, Or.inr ⟨rfl, .cons ?_ (.refl _)⟩⟩
      rintro rfl
      exact absurd hescape (by simp [unescape?])
    · exact absurd h (by simp)
  case h_5 heq =>
    obtain ⟨rfl, rfl⟩ := List.cons.inj heq
    split at h
    · exact absurd h (by simp)
    · split at h
      · rename_i hread
        obtain ⟨-, rfl⟩ := Prod.mk.inj (Option.some.inj h)
        exact Or.inr ⟨_, _, hread, Or.inl rfl⟩
      · exact absurd h (by simp)

/-- A string that begins in front of a brace and a quote ends in front of the brace, or at the
quote. -/
lemma readItems_cut (x t : Text) {is : List StringItem}
    (h : readItems (t ++ '{' :: '"' :: x) = some (is, r)) :
    r = x ∨ ∃ t', t'.length ≤ t.length ∧ r = t' ++ '{' :: '"' :: x := by
  -- an escape sequence takes several characters at once, so the induction is on the length
  induction hn : t.length using Nat.strongRecOn generalizing t is with
  | ind n ih =>
    cases t with
    | nil =>
      rcases readItems_cases h with ⟨hc, -⟩ | ⟨s', is', hread, rfl | ⟨hc, -⟩⟩
      · exact absurd hc (by decide)
      · rw [readItems_quote] at hread
        exact Or.inl (Prod.mk.inj (Option.some.inj hread)).2.symm
      · exact absurd hc (by decide)
    | cons c t =>
      rw [List.length_cons] at hn
      have hless : ∀ t', t'.length ≤ t.length → ∀ is',
          readItems (t' ++ '{' :: '"' :: x) = some (is', r) →
          r = x ∨ ∃ t', t'.length ≤ t.length ∧ r = t' ++ '{' :: '"' :: x := by
        intro t' ht' is' hread
        rcases ih t'.length (by omega) t' hread rfl with hr | ⟨t'', ht'', hr⟩
        · exact Or.inl hr
        · exact Or.inr ⟨t'', Nat.le_trans ht'' ht', hr⟩
      have hread : r = x ∨ ∃ t', t'.length ≤ t.length ∧ r = t' ++ '{' :: '"' :: x := by
        rcases readItems_cases h with ⟨-, hr⟩ | ⟨s', is', hread, rfl | ⟨-, htakes⟩⟩
        · exact Or.inr ⟨t, Nat.le_refl _, hr⟩
        · exact hless t (Nat.le_refl _) is' hread
        · obtain ⟨t', ht', rfl⟩ := htakes.exists_left
          exact hless t' ht' is' hread
      rcases hread with hr | ⟨t', ht', hr⟩
      · exact Or.inl hr
      · exact Or.inr ⟨t', by omega, hr⟩

/-- The tokens of a text behind which a brace and a quote stand: either the text has tokens of its
own, or what stands behind the quote has none. -/
lemma tokens_cut (hx : tokens x = none) (t : Text) :
    tokens (t ++ '{' :: '"' :: x) = none ∨
      ∃ ts, tokens (t ++ '{' :: '"' :: x) = (tokens ('{' :: '"' :: x)).map (ts ++ ·) ∧
        (ts = [] → ∀ c ∈ t, isSpace c = true) := by
  induction hn : t.length using Nat.strongRecOn generalizing t with
  | ind n ih =>
    cases t with
    | nil => exact Or.inr ⟨[], by simp, by simp⟩
    | cons c t =>
      rw [List.length_cons] at hn
      rw [List.cons_append]
      cases hspace : isSpace c with
      | true =>
        rw [tokens_of_isSpace hspace]
        rcases ih t.length (by omega) t rfl with hnone | ⟨ts, hts, hblank⟩
        · exact Or.inl hnone
        · exact Or.inr ⟨ts, hts, fun h => List.forall_mem_cons.2 ⟨hspace, hblank h⟩⟩
      | false =>
        cases hread : readToken (c :: (t ++ '{' :: '"' :: x)) with
        | none => exact Or.inl (tokens_of_none hspace hread)
        | some p =>
          obtain ⟨a, r⟩ := p
          rw [tokens_of_read hspace hread]
          have hleft : r = x ∨ ∃ t', t'.length ≤ t.length ∧ r = t' ++ '{' :: '"' :: x := by
            by_cases hc : c = '"'
            · rw [hc, readToken] at hread
              obtain ⟨⟨is, r'⟩, hitems, he⟩ := Option.map_eq_some_iff.1 hread
              obtain ⟨-, rfl⟩ := Prod.mk.inj he
              exact readItems_cut x t hitems
            · exact Or.inr (takes_token hc hread).exists_left
          rcases hleft with rfl | ⟨t', ht', rfl⟩
          · exact Or.inl (by rw [hx]; rfl)
          · rcases ih t'.length (by omega) t' rfl with hnone | ⟨ts, hts, -⟩
            · exact Or.inl (by rw [hnone]; rfl)
            · refine Or.inr ⟨a :: ts, ?_, by simp⟩
              rw [hts, Option.map_map]
              rfl

/-! ### What the reader makes of it -/

/-- A value that is put into an open array or object leaves it open. -/
lemma place_within (v : Source) (f : Frame) (fs : List Frame) :
    place v (f :: fs) = none ∨ ∃ g gs, place v (f :: fs) = some (.within (g :: gs)) := by
  cases f with
  | arrayStart => exact Or.inr ⟨_, _, rfl⟩
  | arrayItem _ => exact Or.inr ⟨_, _, rfl⟩
  | objectValue _ _ => exact Or.inr ⟨_, _, rfl⟩
  | _ => exact Or.inl rfl

lemma place_ne_start (v : Source) (fs : List Frame) : place v fs ≠ some (.within []) := by
  match fs with
  | [] => simp [place]
  | f :: fs => rcases place_within v f fs with h | ⟨g, gs, h⟩ <;> simp [h]

/-- Behind a token, something is open or everything is read. -/
lemma advance_ne_start (p : Progress) (a : Token) : advance p a ≠ some (.within []) := by
  fun_cases advance p a <;> simp [place_ne_start]

lemma foldlM_advance_ne_start (p : Progress) {ts : List Token} (h : ts ≠ []) :
    ts.foldlM advance p ≠ some (.within []) := by
  obtain rfl | ⟨ts, a, rfl⟩ := List.eq_nil_or_concat' ts
  · exact absurd rfl h
  · rw [List.foldlM_append]
    intro hfold
    obtain ⟨q, -, hq⟩ := Option.bind_eq_some_iff.1 hfold
    exact advance_ne_start q a (by simpa using hq)

/-- A text with a token in it, behind which an object stands, holds no value. -/
theorem read_cut {members : List (Text × Json)} (hx : tokens x = none)
    (hs : Spells ('{' :: '"' :: x) (object members).toTokens) (ht : ∃ c ∈ t, isSpace c = false) :
    Source.read (t ++ '{' :: '"' :: x) = none := by
  have hobject := hs.tokens_eq
  rw [Source.read]
  rcases tokens_cut hx t with hnone | ⟨ts, hts, hblank⟩
  · rw [hnone]
    rfl
  rw [hts, hobject, Option.map_some, Option.bind_eq_bind, Option.bind_some, List.foldlM_append]
  cases hfront : ts.foldlM advance (.within []) with
  | none => rfl
  | some p =>
    have hne : p ≠ .within [] := by
      rintro rfl
      obtain ⟨c, hc, hspace⟩ := ht
      have hts : ts ≠ [] := fun h => absurd (hblank h c hc) (by simp [hspace])
      exact foldlM_advance_ne_start _ hts hfront
    simp only [Option.bind_eq_bind, Option.bind_some]
    cases p with
    | done v => rfl
    | within fs =>
      obtain ⟨f, fs, rfl⟩ := List.exists_cons_of_ne_nil fun h => hne (congrArg Progress.within h)
      cases hwants : wantsValue (f :: fs) with
      | true =>
        -- the object is put into what is open, and that stays open
        rw [foldlM_advance _ _ hwants]
        rcases place_within (object members).toSource f fs with hplace | ⟨g, gs, hplace⟩ <;>
          rw [hplace] <;> rfl
      | false =>
        rw [toTokens, List.foldlM_cons, advance, if_neg (by simp [hwants])]
        rfl

/-- Blanks in front of a text change nothing of what it holds. -/
lemma read_blank_append (ht : ∀ c ∈ t, isSpace c = true) (s : Text) :
    Source.read (t ++ s) = Source.read s := by
  rw [Source.read, Source.read, tokens_blanks ht]

end Json

end TemplateFill
