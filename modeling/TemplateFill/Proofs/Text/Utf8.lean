import Mathlib.Data.List.Basic
import TemplateFill.Text.Utf8

/-!
# Text that comes back from its bytes

A character is read from its bytes, whatever follows them (`Utf8.chars_encodeChar`), and so a text
is read from its own (`Utf8.decode?_encode`).  No other bytes are read as the text
(`Utf8.decode?_eq_some_iff`): what the first byte of a character says, and the bounds of the byte
behind it, leave one way to write each character (`Utf8.Leads`).

A byte below `0x80` is a character of its own and no part of another one (`Utf8.mem_of_mem_encode`),
so that bytes can be cut into lines before they are read.
-/

namespace TemplateFill

namespace Utf8

variable {c : Char} {s : Text} {b : UInt8} {bs r : List UInt8} {m n : Nat} {bits owed : Nat}
  {low high : UInt8}

lemma toNat_toUInt8 (h : m < 256) : m.toUInt8.toNat = m := by
  simpa using Nat.mod_eq_of_lt h

/-! ### The bytes of one character -/

lemma follow_zero (bits : Nat) (low high : UInt8) (r : List UInt8) :
    follow bits 0 low high r = (some bits, r) := by
  cases r <;> simp [follow]

/-- One more byte within its bounds. -/
lemma follow_cons (hm : m < 256) (hlow : low.toNat ≤ m) (hhigh : m ≤ high.toNat) (bits owed : Nat)
    (r : List UInt8) : follow bits (owed + 1) low high (m.toUInt8 :: r) =
      follow (bits * 0x40 + m % 0x40) owed 0x80 0xBF r := by
  have hbounds : low ≤ m.toUInt8 ∧ m.toUInt8 ≤ high := by
    rw [UInt8.le_iff_toNat_le, UInt8.le_iff_toNat_le, toNat_toUInt8 hm]
    exact ⟨hlow, hhigh⟩
  rw [follow, if_neg (Nat.succ_ne_zero owed), if_pos hbounds, toNat_toUInt8 hm,
    Nat.add_sub_cancel]

/-- A byte that goes on with a character carries six bits. -/
lemma follow_tail (n bits owed : Nat) (r : List UInt8) :
    follow bits (owed + 1) 0x80 0xBF ((0x80 + n % 0x40).toUInt8 :: r) =
      follow (bits * 0x40 + n % 0x40) owed 0x80 0xBF r := by
  have hbyte : (0x80 + n % 0x40) % 0x40 = n % 0x40 := by omega
  rw [follow_cons (by omega) (by simp) (by simp; omega), hbyte]

/-- The bytes of a character are read together. -/
lemma chars_of_follow {bs r : List UInt8} (hlead : lead? b = some (bits, owed, low, high))
    (hfollow : follow bits owed low high bs = (some c.toNat, r)) :
    chars (b :: bs) = some c :: chars r := by
  have hnext : next b bs = (some c, r) := by
    simp only [next, hlead, hfollow, Option.map_some, Char.ofNat_toNat]
  rw [chars, hnext]

/-- A character's number is no half of a surrogate pair. -/
lemma toNat_valid (c : Char) : c.toNat < 0xD800 ∨ 0xDFFF < c.toNat ∧ c.toNat < 0x110000 := c.valid

lemma lead?_one (h : n < 0x80) : lead? n.toUInt8 = some (n, 0, 0x80, 0xBF) := by
  rw [lead?, toNat_toUInt8 (by omega)]
  exact if_pos h

lemma lead?_two (h : 0x80 ≤ n) (h' : n < 0x800) :
    lead? (0xC0 + n / 0x40).toUInt8 = some (n / 0x40, 1, 0x80, 0xBF) := by
  rw [lead?, toNat_toUInt8 (by omega)]
  rw [if_neg (by omega), if_pos (by omega), Nat.add_sub_cancel_left]

/-- The byte behind the first one is within the bounds that the first one sets. -/
lemma lead?_three (h : 0x800 ≤ n) (h' : n < 0xD800 ∨ 0xDFFF < n ∧ n < 0x10000) :
    ∃ low high : UInt8, lead? (0xE0 + n / 0x1000).toUInt8 = some (n / 0x1000, 2, low, high) ∧
      low.toNat ≤ 0x80 + n / 0x40 % 0x40 ∧ 0x80 + n / 0x40 % 0x40 ≤ high.toNat := by
  have hsmall : ¬0xE0 + n / 0x1000 < 0x80 := by omega
  have htwo : ¬(0xC2 ≤ 0xE0 + n / 0x1000 ∧ 0xE0 + n / 0x1000 < 0xE0) := by omega
  rw [lead?, toNat_toUInt8 (by omega)]
  rw [if_neg hsmall, if_neg htwo]
  by_cases hlow : n / 0x1000 = 0
  · exact ⟨0xA0, 0xBF, by simp [hlow], by simp; omega, by simp; omega⟩
  · rw [if_neg (by omega)]
    by_cases hhigh : n / 0x1000 = 0xD
    · exact ⟨0x80, 0x9F, by simp [hhigh], by simp, by simp; omega⟩
    · rw [if_neg (by omega), if_pos (by omega), Nat.add_sub_cancel_left]
      exact ⟨0x80, 0xBF, rfl, by simp, by simp; omega⟩

lemma lead?_four (h : 0x10000 ≤ n) (h' : n < 0x110000) :
    ∃ low high : UInt8, lead? (0xF0 + n / 0x40000).toUInt8 = some (n / 0x40000, 3, low, high) ∧
      low.toNat ≤ 0x80 + n / 0x1000 % 0x40 ∧ 0x80 + n / 0x1000 % 0x40 ≤ high.toNat := by
  rw [lead?, toNat_toUInt8 (by omega)]
  rw [if_neg (by omega), if_neg (by omega), if_neg (by omega), if_neg (by omega),
    if_neg (by omega)]
  by_cases hlow : n / 0x40000 = 0
  · exact ⟨0x90, 0xBF, by simp [hlow], by simp; omega, by simp; omega⟩
  · rw [if_neg (by omega)]
    by_cases hhigh : n / 0x40000 = 4
    · exact ⟨0x80, 0x8F, by simp [hhigh], by simp, by simp; omega⟩
    · rw [if_pos (by omega), Nat.add_sub_cancel_left]
      exact ⟨0x80, 0xBF, rfl, by simp, by simp; omega⟩

/-- A character is read from its bytes, whatever follows them. -/
theorem chars_encodeChar (c : Char) (r : List UInt8) :
    chars (encodeChar c ++ r) = some c :: chars r := by
  have hvalid := toNat_valid c
  unfold encodeChar
  dsimp only
  split
  · rename_i h
    exact chars_of_follow (lead?_one h) (follow_zero ..)
  · split
    · rename_i h h'
      have hsum : c.toNat / 0x40 * 0x40 + c.toNat % 0x40 = c.toNat := by omega
      rw [List.cons_append]
      refine chars_of_follow (lead?_two (Nat.not_lt.1 h) h') ?_
      rw [List.cons_append, follow_tail, follow_zero, hsum, List.nil_append]
    · split
      · rename_i h h'
        obtain ⟨low, high, hlead, hlow, hhigh⟩ := lead?_three (Nat.not_lt.1 h) (by omega)
        have hsum : (c.toNat / 0x1000 * 0x40 + (0x80 + c.toNat / 0x40 % 0x40) % 0x40) * 0x40 +
            c.toNat % 0x40 = c.toNat := by omega
        rw [List.cons_append]
        refine chars_of_follow hlead ?_
        rw [List.cons_append, List.cons_append, follow_cons (by omega) hlow hhigh, follow_tail,
          follow_zero, hsum, List.nil_append]
      · rename_i h
        obtain ⟨low, high, hlead, hlow, hhigh⟩ := lead?_four (Nat.not_lt.1 h) (by omega)
        have hsum : ((c.toNat / 0x40000 * 0x40 + (0x80 + c.toNat / 0x1000 % 0x40) % 0x40) * 0x40 +
            c.toNat / 0x40 % 0x40) * 0x40 + c.toNat % 0x40 = c.toNat := by omega
        rw [List.cons_append]
        refine chars_of_follow hlead ?_
        rw [List.cons_append, List.cons_append, List.cons_append,
          follow_cons (by omega) hlow hhigh, follow_tail, follow_tail, follow_zero, hsum,
          List.nil_append]

/-! ### The bytes of a text -/

/-- Bytes are read as a text if what is found in them, row by row, are the characters of the
text. -/
lemma decode?_eq_some_iff_chars : decode? bs = some s ↔ chars bs = s.map some := by
  unfold decode?
  generalize chars bs = cs
  induction cs generalizing s with
  | nil => cases s <;> simp
  | cons c cs ih =>
    rw [List.mapM_cons]
    simp only [id_eq, Option.bind_eq_bind, Option.bind_eq_some_iff, ih]
    constructor
    · rintro ⟨d, rfl, t, rfl, h⟩
      obtain rfl := Option.some.inj h
      rfl
    · intro h
      obtain ⟨d, t, rfl, rfl, rfl⟩ := List.map_eq_cons_iff.1 h.symm
      exact ⟨d, rfl, t, rfl, rfl⟩

/-- A text is read from its bytes. -/
theorem decode?_encode (s : Text) : decode? (encode s) = some s := by
  rw [decode?_eq_some_iff_chars]
  induction s with
  | nil => simp [encode, chars]
  | cons c s ih =>
    rw [encode, List.flatMap_cons, chars_encodeChar, List.map_cons, ← ih]
    rfl

/-- Lossy reading loses nothing of a text. -/
theorem decodeLossy_encode (s : Text) : decodeLossy (encode s) = s := by
  have hchars : chars (encode s) = s.map some := decode?_eq_some_iff_chars.1 (decode?_encode s)
  rw [decodeLossy, hchars, List.map_map]
  exact List.map_id s

lemma encode_append (s t : Text) : encode (s ++ t) = encode s ++ encode t := List.flatMap_append

lemma encodeChar_ne_nil (c : Char) : encodeChar c ≠ [] := by
  unfold encodeChar
  dsimp only
  split
  · simp
  · split
    · simp
    · split <;> simp

lemma encode_ne_nil (h : s ≠ []) : encode s ≠ [] := by
  obtain ⟨c, s, rfl⟩ := List.exists_cons_of_ne_nil h
  rw [encode, List.flatMap_cons]
  exact List.append_ne_nil_of_left_ne_nil (encodeChar_ne_nil c) _

/-- A byte below `0x80` is a character of its own. -/
lemma toNat_of_mem_encodeChar (hb : b.toNat < 0x80) (h : b ∈ encodeChar c) :
    c.toNat = b.toNat := by
  have hvalid := toNat_valid c
  have hlarge : ∀ k, 0x80 ≤ k → k < 256 → b ≠ k.toUInt8 := by
    rintro k hk hk' rfl
    rw [toNat_toUInt8 hk'] at hb
    omega
  unfold encodeChar at h
  dsimp only at h
  split at h
  · rename_i hc
    obtain rfl := List.mem_singleton.1 h
    exact (toNat_toUInt8 (by omega)).symm
  · -- all bytes of the character are `0x80` or more
    split at h
    · simp only [List.mem_cons, List.not_mem_nil, or_false] at h
      rcases h with h | h <;> exact absurd h (hlarge _ (by omega) (by omega))
    · split at h
      · simp only [List.mem_cons, List.not_mem_nil, or_false] at h
        rcases h with h | h | h <;> exact absurd h (hlarge _ (by omega) (by omega))
      · simp only [List.mem_cons, List.not_mem_nil, or_false] at h
        rcases h with h | h | h | h <;> exact absurd h (hlarge _ (by omega) (by omega))

/-- A byte below `0x80` in a text is a character of the text. -/
lemma mem_of_mem_encode (hb : b.toNat < 0x80) (hc : c.toNat = b.toNat) (h : b ∈ encode s) :
    c ∈ s := by
  obtain ⟨d, hd, hmem⟩ := List.mem_flatMap.1 h
  have hcd : c.toNat = d.toNat := hc.trans (toNat_of_mem_encodeChar hb hmem).symm
  rwa [Char.toNat_inj.1 hcd]

/-- A byte below `0x80` at the end of a text is the last character of the text. -/
lemma getLast?_of_getLast?_encode (hb : b.toNat < 0x80) (hc : c.toNat = b.toNat)
    (h : (encode s).getLast? = some b) : s.getLast? = some c := by
  rcases List.eq_nil_or_concat' s with rfl | ⟨front, d, rfl⟩
  · exact absurd h (by simp [encode])
  · have hlast : encode [d] = encodeChar d := List.flatMap_singleton _ d
    rw [encode_append, hlast, List.getLast?_append_of_ne_nil _ (encodeChar_ne_nil d)] at h
    have hcd : c.toNat = d.toNat :=
      hc.trans (toNat_of_mem_encodeChar hb (List.mem_of_getLast? h)).symm
    rw [Char.toNat_inj.1 hcd, List.getLast?_concat]

/-! ### Bytes that are the text that is read of them -/

/-- What the first byte of a character can say.  The bounds of the byte behind it keep out what
could be said in fewer bytes, and the numbers of no character. -/
inductive Leads (b : UInt8) : Nat → Nat → UInt8 → UInt8 → Prop
  | one (hb : b.toNat < 0x80) : Leads b b.toNat 0 0x80 0xBF
  | two {bits : Nat} (hb : b.toNat = 0xC0 + bits) (hmin : 2 ≤ bits) (hmax : bits < 0x20) :
      Leads b bits 1 0x80 0xBF
  | three {bits : Nat} {low high : UInt8} (hb : b.toNat = 0xE0 + bits) (hmax : bits < 0x10)
      (hlow : 0x80 ≤ low.toNat) (hhigh : high.toNat ≤ 0xBF)
      (hfirst : bits = 0 → 0xA0 ≤ low.toNat) (hlast : bits = 0xD → high.toNat ≤ 0x9F) :
      Leads b bits 2 low high
  | four {bits : Nat} {low high : UInt8} (hb : b.toNat = 0xF0 + bits) (hmax : bits ≤ 4)
      (hlow : 0x80 ≤ low.toNat) (hhigh : high.toNat ≤ 0xBF)
      (hfirst : bits = 0 → 0x90 ≤ low.toNat) (hlast : bits = 4 → high.toNat ≤ 0x8F) :
      Leads b bits 3 low high

lemma leads_of_lead? (h : lead? b = some (bits, owed, low, high)) : Leads b bits owed low high := by
  unfold lead? at h
  dsimp only at h
  split_ifs at h with hone htwo hE0 hED hthree hF0 hfour hF4 <;>
    simp only [Option.some.injEq, Prod.mk.injEq] at h <;> obtain ⟨rfl, rfl, rfl, rfl⟩ := h
  · exact .one hone
  · exact .two (by omega) (by omega) (by omega)
  · exact .three (by omega) (by omega) (by simp) (by simp) (by simp) (by simp)
  · exact .three (by omega) (by omega) (by simp) (by simp) (by simp) (by simp)
  · exact .three (by omega) (by omega) (by simp) (by simp) (by omega) (by omega)
  · exact .four (by omega) (by omega) (by simp) (by simp) (by simp) (by simp)
  · exact .four (by omega) (by omega) (by simp) (by simp) (by omega) (by omega)
  · exact .four (by omega) (by omega) (by simp) (by simp) (by simp) (by simp)

/-- One more byte of a character is there, and within its bounds. -/
lemma follow_succ (h : follow bits (owed + 1) low high bs = (some n, r)) :
    ∃ b bs', bs = b :: bs' ∧ low.toNat ≤ b.toNat ∧ b.toNat ≤ high.toNat ∧
      follow (bits * 0x40 + b.toNat % 0x40) owed 0x80 0xBF bs' = (some n, r) := by
  cases bs with
  | nil => exact absurd h (by simp [follow])
  | cons b bs' =>
    rw [follow, if_neg (Nat.succ_ne_zero owed), Nat.add_sub_cancel] at h
    by_cases hbounds : low ≤ b ∧ b ≤ high
    · rw [if_pos hbounds] at h
      rw [UInt8.le_iff_toNat_le, UInt8.le_iff_toNat_le] at hbounds
      exact ⟨b, bs', rfl, hbounds.1, hbounds.2, h⟩
    · rw [if_neg hbounds] at h
      exact absurd h (by simp)

lemma follow_zero_eq (h : follow bits 0 low high bs = (some n, r)) : n = bits ∧ bs = r := by
  rw [follow_zero, Prod.mk.injEq, Option.some.injEq] at h
  exact ⟨h.1.symm, h.2⟩

lemma toNat_ofNat (h : n < 0xD800 ∨ 0xDFFF < n ∧ n < 0x110000) : (Char.ofNat n).toNat = n := by
  rw [Char.ofNat, dif_pos h]
  rfl

lemma toUInt8_eq (b : UInt8) (h : m = b.toNat) : m.toUInt8 = b := by
  rw [h]
  exact UInt8.ofNat_toNat

/-- A character that is read has these bytes. -/
lemma eq_encodeChar_of_next (h : next b bs = (some c, r)) : b :: bs = encodeChar c ++ r := by
  unfold next at h
  cases hlead : lead? b with
  | none =>
    rw [hlead] at h
    exact absurd h (by simp)
  | some lead =>
    obtain ⟨bits, owed, low, high⟩ := lead
    rw [hlead] at h
    simp only [Prod.mk.injEq, Option.map_eq_some_iff] at h
    obtain ⟨⟨n, hn, rfl⟩, hr⟩ := h
    have hfollow : follow bits owed low high bs = (some n, r) := Prod.ext hn hr
    unfold encodeChar
    dsimp only
    cases leads_of_lead? hlead with
    | one hb =>
      obtain ⟨rfl, rfl⟩ := follow_zero_eq hfollow
      rw [toNat_ofNat (by omega), if_pos hb, toUInt8_eq b rfl]
      rfl
    | two hb hmin hmax =>
      obtain ⟨b₁, bs, rfl, hlow₁, hhigh₁, hfollow⟩ := follow_succ hfollow
      obtain ⟨rfl, rfl⟩ := follow_zero_eq hfollow
      simp only [UInt8.reduceToNat] at hlow₁ hhigh₁
      rw [toNat_ofNat (by omega), if_neg (by omega), if_pos (by omega), toUInt8_eq b,
        toUInt8_eq b₁]
      · rfl
      all_goals omega
    | three hb hmax hlow hhigh hfirst hlast =>
      obtain ⟨b₁, bs, rfl, hlow₁, hhigh₁, hfollow⟩ := follow_succ hfollow
      obtain ⟨b₂, bs, rfl, hlow₂, hhigh₂, hfollow⟩ := follow_succ hfollow
      obtain ⟨rfl, rfl⟩ := follow_zero_eq hfollow
      simp only [UInt8.reduceToNat] at hlow₂ hhigh₂
      rw [toNat_ofNat (by omega), if_neg (by omega), if_neg (by omega), if_pos (by omega),
        toUInt8_eq b, toUInt8_eq b₁, toUInt8_eq b₂]
      · rfl
      all_goals omega
    | four hb hmax hlow hhigh hfirst hlast =>
      obtain ⟨b₁, bs, rfl, hlow₁, hhigh₁, hfollow⟩ := follow_succ hfollow
      obtain ⟨b₂, bs, rfl, hlow₂, hhigh₂, hfollow⟩ := follow_succ hfollow
      obtain ⟨b₃, bs, rfl, hlow₃, hhigh₃, hfollow⟩ := follow_succ hfollow
      obtain ⟨rfl, rfl⟩ := follow_zero_eq hfollow
      simp only [UInt8.reduceToNat] at hlow₂ hhigh₂ hlow₃ hhigh₃
      rw [toNat_ofNat (by omega), if_neg (by omega), if_neg (by omega), if_neg (by omega),
        toUInt8_eq b, toUInt8_eq b₁, toUInt8_eq b₂, toUInt8_eq b₃]
      · rfl
      all_goals omega

/-- Bytes that all belong to characters are those of the text of these characters. -/
lemma encode_of_chars (h : chars bs = s.map some) : encode s = bs := by
  induction s generalizing bs with
  | nil =>
    cases bs with
    | nil => rfl
    | cons b bs => exact absurd h (by simp [chars])
  | cons c s ih =>
    cases bs with
    | nil => exact absurd h (by simp [chars])
    | cons b bs =>
      rw [chars, List.map_cons, List.cons.injEq] at h
      rw [encode, List.flatMap_cons, eq_encodeChar_of_next (Prod.ext h.1 rfl)]
      exact congrArg _ (ih h.2)

/-- Bytes are read as a text if and only if they are the bytes of the text. -/
theorem decode?_eq_some_iff : decode? bs = some s ↔ encode s = bs := by
  constructor
  · intro h
    exact encode_of_chars (decode?_eq_some_iff_chars.1 h)
  · rintro rfl
    exact decode?_encode s

end Utf8

end TemplateFill
