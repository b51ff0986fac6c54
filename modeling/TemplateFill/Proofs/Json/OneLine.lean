import TemplateFill.Json.Writer
import TemplateFill.Proofs.Text.Digits
import TemplateFill.Proofs.Text.Pieces

/-!
# Values on one line

What is written for a value on one line holds no control character, whatever its strings hold
(`Json.isPrintable_compact`); so it is one line, and nothing in it ends the line.
-/

namespace TemplateFill

namespace Text

/-- A text without control characters. -/
def IsPrintable (s : Text) : Prop := ∀ c ∈ s, 0x20 ≤ c.toNat

section IsPrintable

variable {c : Char} {s t : Text}

@[simp] lemma isPrintable_nil : IsPrintable [] := by
  simp [IsPrintable]

@[simp] lemma isPrintable_cons : IsPrintable (c :: s) ↔ 0x20 ≤ c.toNat ∧ IsPrintable s :=
  List.forall_mem_cons

@[simp] lemma isPrintable_append : IsPrintable (s ++ t) ↔ IsPrintable s ∧ IsPrintable t :=
  List.forall_mem_append

lemma isPrintable_flatMap {α : Type} {f : α → Text} {as : List α}
    (h : ∀ a ∈ as, IsPrintable (f a)) : IsPrintable (as.flatMap f) := by
  intro c hc
  obtain ⟨a, ha, hc⟩ := List.mem_flatMap.1 hc
  exact h a ha c hc

lemma IsPrintable.sublist (h : IsPrintable t) (hs : s.Sublist t) : IsPrintable s :=
  fun c hc => h c (hs.subset hc)

lemma isPrintable_zeros (n : Nat) : IsPrintable (List.replicate n '0') := by
  intro c hc
  obtain ⟨-, rfl⟩ := List.mem_replicate.1 hc
  decide

lemma isPrintable_of_isDigit (h : ∀ c ∈ s, c.isDigit = true) : IsPrintable s := by
  intro c hc
  have hdigit := h c hc
  simp only [Char.isDigit, Bool.and_eq_true, decide_eq_true_eq] at hdigit
  have hle : 48 ≤ c.toNat := UInt32.le_iff_toNat_le.1 hdigit.1
  omega

@[simp] lemma isPrintable_ofNat (n : Nat) : IsPrintable (ofNat n) :=
  isPrintable_of_isDigit fun _ hc => isDigit_of_mem_ofNat hc

@[simp] lemma isPrintable_ofInt (i : Int) : IsPrintable (ofInt i) := by
  unfold ofInt
  split <;> simp

lemma isPrintable_join {sep : Text} (hsep : IsPrintable sep) {ps : List Text}
    (h : ∀ p ∈ ps, IsPrintable p) : IsPrintable (join sep ps) := by
  cases ps with
  | nil => exact isPrintable_nil
  | cons p ps =>
    rw [List.forall_mem_cons] at h
    rw [join_cons, isPrintable_append]
    exact ⟨h.1, isPrintable_flatMap fun q hq => isPrintable_append.2 ⟨hsep, h.2 q hq⟩⟩

end IsPrintable

end Text

open Text

/-! ### Floating point numbers -/

lemma Decimal.isPrintable_positional {digits : Text} (h : IsPrintable digits) (point : Int) :
    IsPrintable (positional digits point) := by
  unfold positional
  split
  · simp [isPrintable_zeros, h]
  · split
    · simp [isPrintable_zeros, h]
    · simp [h.sublist (List.take_sublist _ _), h.sublist (List.drop_sublist _ _)]

lemma Decimal.isPrintable_stored (d : Decimal) : IsPrintable d.stored := by
  have hdigits : IsPrintable d.point.1 := isPrintable_ofNat d.digits
  unfold stored
  dsimp only
  split
  · simp
  · split
    · rw [isPrintable_append]
      refine ⟨isPrintable_positional hdigits _, ?_⟩
      split <;> simp
    · split
      · rename_i x hx
        rw [hx] at hdigits
        simp_all
      · rename_i x r _ hx
        rw [hx] at hdigits
        simp_all
      · simp

lemma Binary64.isPrintable_stored (negative : Bool) (b : Binary64) :
    IsPrintable (b.stored negative) := by
  rw [stored, isPrintable_append]
  exact ⟨by cases negative <;> simp, Decimal.isPrintable_stored _⟩

namespace Json

/-! ### Strings -/

lemma isPrintable_escape (c : Char) : IsPrintable (escape c) := by
  have hdigit : ∀ n < 16, 0x20 ≤ (Nat.digitChar n).toNat := by decide
  have hhex : ∀ n, 0x20 ≤ (hexDigit n).toNat := fun n => hdigit _ (Nat.mod_lt n (by decide))
  unfold escape
  split_ifs <;> simp_all

lemma isPrintable_quote (s : Text) : IsPrintable (quote s) := by
  simp [quote, isPrintable_flatMap fun c _ => isPrintable_escape c]

/-! ### Values -/

/-- What holds of the leaves of a value, and of an array or object if it holds of all its parts,
holds of the value. -/
@[elab_as_elim]
theorem induction {P : Json → Prop} (null : P .null) (bool : ∀ b, P (.bool b))
    (integer : ∀ i, P (.integer i)) (real : ∀ n b, P (.real n b)) (string : ∀ s, P (.string s))
    (array : ∀ items, (∀ v ∈ items, P v) → P (.array items))
    (object : ∀ members, (∀ m ∈ members, P m.2) → P (.object members)) (v : Json) : P v :=
  match v with
  | .null => null
  | .bool b => bool b
  | .integer i => integer i
  | .real n b => real n b
  | .string s => string s
  | .array items =>
    array items fun w hw =>
      have := List.sizeOf_lt_of_mem hw
      induction null bool integer real string array object w
  | .object members =>
    object members fun m hm =>
      have := List.sizeOf_lt_of_mem hm
      have : sizeOf m.2 < sizeOf m := by
        obtain ⟨n, w⟩ := m
        simp only [Prod.mk.sizeOf_spec]
        omega
      induction null bool integer real string array object m.2
termination_by sizeOf v
decreasing_by all_goals (simp; omega)

lemma compactItems_eq (items : List Json) : compactItems items = items.map compact := by
  induction items with
  | nil => rfl
  | cons v vs ih => rw [compactItems, ih, List.map_cons]

lemma compactMembers_eq (members : List (Text × Json)) :
    compactMembers members = members.map fun m => quote m.1 ++ ':' :: compact m.2 := by
  induction members with
  | nil => rfl
  | cons m ms ih => rw [compactMembers, ih, List.map_cons]

/-- A value on one line holds no control character. -/
theorem isPrintable_compact (v : Json) : IsPrintable v.compact := by
  have hcomma : IsPrintable [','] := by simp
  induction v using induction with
  | null => simp [compact]
  | bool b => cases b <;> simp [compact]
  | integer i => simp [compact]
  | real n b => exact Binary64.isPrintable_stored n b
  | string s => exact isPrintable_quote s
  | array items ih =>
    have hitems := isPrintable_join hcomma (List.forall_mem_map.2 ih)
    simp [compact, compactItems_eq, hitems]
  | object members ih =>
    have hmember : ∀ m ∈ members, IsPrintable (quote m.1 ++ ':' :: m.2.compact) := by
      intro m hm
      simp [isPrintable_quote, ih m hm]
    have hmembers := isPrintable_join hcomma (List.forall_mem_map.2 hmember)
    simp [compact, compactMembers_eq, hmembers]

end Json

end TemplateFill
