import TemplateFill.Proofs.Text.Pieces
import TemplateFill.Template.Parameter

/-!
# How a body is read

A body has one of four forms, and its form says what is read from it (`Parameter.Reads`).  Which
form it is depends on the delimiters in it and on nothing else, so that the kind of a parameter can
be told from its body at once (`Parameter.kind_readBody`).  What a body is cut into holds no
character that the body does not hold (`Parameter.Reads.texts_subset`).
-/

namespace TemplateFill

namespace Parameter

open Text

variable {body name rest : Text}

/-- The default among options with their marks: the first option that has one. -/
def firstMarked (os : List (Text × Bool)) : Text := ((os.find? Prod.snd).map Prod.fst).getD []

/-- A choice from options with their marks. -/
def choice (name : Text) (os : List (Text × Bool)) : Parameter :=
  ⟨name, .choice, firstMarked os, os.map Prod.fst, []⟩

lemma readBody_of_command (h : splitOnce '!' body = some (name, rest)) :
    readBody body = ⟨name, .dynamic, [], [], rest⟩ := by
  simp [readBody, h]

lemma readBody_of_options (hc : '!' ∉ body) (h : splitOnce '|' body = some (name, rest)) :
    readBody body = choice name (readOptions (pieces '|' rest)) := by
  simp [readBody, splitOnce_eq_none.2 hc, h, choice, firstMarked]

lemma readBody_of_default (hc : '!' ∉ body) (ho : '|' ∉ body)
    (h : splitOnce ':' body = some (name, rest)) : readBody body = free name rest := by
  simp [readBody, splitOnce_eq_none.2 hc, splitOnce_eq_none.2 ho, h]

lemma readBody_of_name (hc : '!' ∉ body) (ho : '|' ∉ body) (hd : ':' ∉ body) :
    readBody body = free body [] := by
  simp [readBody, splitOnce_eq_none.2 hc, splitOnce_eq_none.2 ho, splitOnce_eq_none.2 hd]

lemma mem_of_mem_readOption {s : Text} {c : Char} (h : c ∈ (readOption s).1) : c ∈ s := by
  unfold readOption at h
  split at h
  · exact List.mem_cons_of_mem _ h
  · exact h

/-! ### The forms of a body -/

/-- The forms of a body, each with the parameter that is read from it. -/
inductive Reads : Text → Parameter → Prop
  | command {name command : Text} (hname : '!' ∉ name) :
      Reads (name ++ '!' :: command) ⟨name, .dynamic, [], [], command⟩
  | options {name rest : Text} (hname : '!' ∉ name ∧ '|' ∉ name) (hrest : '!' ∉ rest) :
      Reads (name ++ '|' :: rest) (choice name (readOptions (pieces '|' rest)))
  | default {name default : Text} (hname : '!' ∉ name ∧ '|' ∉ name ∧ ':' ∉ name)
      (hdefault : '!' ∉ default ∧ '|' ∉ default) :
      Reads (name ++ ':' :: default) (free name default)
  | name {name : Text} (hname : '!' ∉ name ∧ '|' ∉ name ∧ ':' ∉ name) : Reads name (free name [])

lemma reads_readBody (body : Text) : Reads body (readBody body) := by
  by_cases hc : '!' ∈ body
  · obtain ⟨name, command, hcut⟩ := exists_splitOnce hc
    obtain ⟨rfl, hname⟩ := splitOnce_eq_some_iff.1 hcut
    rw [readBody_of_command hcut]
    exact .command hname
  by_cases ho : '|' ∈ body
  · obtain ⟨name, rest, hcut⟩ := exists_splitOnce ho
    rw [readBody_of_options hc hcut]
    obtain ⟨rfl, hname⟩ := splitOnce_eq_some_iff.1 hcut
    simp only [List.mem_append, List.mem_cons, not_or] at hc
    exact .options ⟨hc.1, hname⟩ hc.2.2
  by_cases hd : ':' ∈ body
  · obtain ⟨name, default, hcut⟩ := exists_splitOnce hd
    rw [readBody_of_default hc ho hcut]
    obtain ⟨rfl, hname⟩ := splitOnce_eq_some_iff.1 hcut
    simp only [List.mem_append, List.mem_cons, not_or] at hc ho
    exact .default ⟨hc.1, ho.1, hname⟩ ⟨hc.2.2, ho.2.2⟩
  · rw [readBody_of_name hc ho hd]
    exact .name ⟨hc, ho, hd⟩

lemma Reads.readBody_eq {p : Parameter} (h : Reads body p) : readBody body = p := by
  cases h with
  | command hname => exact readBody_of_command (splitOnce_append_cons hname _)
  | options hname hrest =>
    refine readBody_of_options ?_ (splitOnce_append_cons hname.2 _)
    simp [hname.1, hrest]
  | default hname hdefault =>
    refine readBody_of_default ?_ ?_ (splitOnce_append_cons hname.2.2 _)
    · simp [hname.1, hdefault.1]
    · simp [hname.2.1, hdefault.2]
  | name hname => exact readBody_of_name hname.1 hname.2.1 hname.2.2

/-! ### What is read -/

/-- The texts of a parameter. -/
def texts (p : Parameter) : List Text := p.name :: p.default :: p.command :: p.options

lemma Reads.texts_subset {p : Parameter} (h : Reads body p) : ∀ s ∈ p.texts, s ⊆ body := by
  cases h with
  | command hname => simp [texts]
  | @options name rest hname hrest =>
    have hoption : ∀ o ∈ readOptions (pieces '|' rest), o.1 ⊆ name ++ '|' :: rest := by
      intro o ho c hc
      obtain ⟨segment, hsegment, rfl⟩ := List.mem_map.1 (List.mem_filter.1 ho).1
      have hrest : c ∈ rest := (of_mem_pieces hsegment).1 (mem_of_mem_readOption hc)
      simp [hrest]
    have hdefault : firstMarked (readOptions (pieces '|' rest)) ⊆ name ++ '|' :: rest := by
      rw [firstMarked]
      cases hstar : (readOptions (pieces '|' rest)).find? Prod.snd with
      | none => simp
      | some o => exact hoption o (List.mem_of_find?_eq_some hstar)
    have hoptions : ∀ s ∈ (readOptions (pieces '|' rest)).map Prod.fst, s ⊆ name ++ '|' :: rest :=
      List.forall_mem_map.2 hoption
    simp only [texts, choice, List.forall_mem_cons]
    exact ⟨List.subset_append_left .., hdefault, List.nil_subset _, hoptions⟩
  | default hname hdefault => simp [texts, free]
  | name hname => simp [texts, free]

/-- A default holds nothing that the body does not hold. -/
lemma default_readBody_subset (body : Text) : (readBody body).default ⊆ body :=
  (reads_readBody body).texts_subset _ (by simp [texts])

lemma nil_notMem_map_readOptions (segments : List Text) :
    [] ∉ (readOptions segments).map Prod.fst := by
  simp [readOptions]

/-- No option is empty. -/
lemma nil_notMem_options_readBody (body : Text) : [] ∉ (readBody body).options := by
  have h := reads_readBody body
  generalize readBody body = p at h
  cases h with
  | command => simp
  | options => exact nil_notMem_map_readOptions _
  | default => simp [free]
  | name => simp [free]

/-- The default of a choice is one of its options, if there is one. -/
lemma default_mem_options_readBody {body : Text} (hk : (readBody body).kind = .choice)
    (hne : (readBody body).default ≠ []) : (readBody body).default ∈ (readBody body).options := by
  have h := reads_readBody body
  generalize readBody body = p at h hk hne
  cases h with
  | command => exact absurd hk (by simp)
  | @options name rest hname hrest =>
    simp only [choice, firstMarked] at hne ⊢
    cases hstar : (readOptions (pieces '|' rest)).find? Prod.snd with
    | none =>
      rw [hstar] at hne
      exact absurd rfl hne
    | some o => exact List.mem_map_of_mem (List.mem_of_find?_eq_some hstar)
  | default => exact absurd hk (by simp [free])
  | name => exact absurd hk (by simp [free])

lemma ofBody?_eq_none_iff : ofBody? body = none ↔ (readBody body).name = [] := by
  simp [ofBody?]

lemma ofBody?_eq_some_iff {p : Parameter} :
    ofBody? body = some p ↔ readBody body = p ∧ p.name ≠ [] := by
  rw [ofBody?]
  split
  · rename_i hempty
    simp only [false_iff, not_and, not_not, reduceCtorEq]
    rintro rfl
    exact List.isEmpty_iff.1 hempty
  · rename_i hne
    rw [Option.some_inj]
    refine ⟨?_, And.left⟩
    rintro rfl
    exact ⟨rfl, mt List.isEmpty_iff.2 hne⟩

lemma eq_readBody_of_ofBody? {p : Parameter} (h : ofBody? body = some p) : p = readBody body :=
  (ofBody?_eq_some_iff.1 h).1.symm

/-- The kind of a parameter depends on the delimiters in its body. -/
theorem kind_readBody (body : Text) :
    (readBody body).kind =
      if '!' ∈ body then .dynamic else if '|' ∈ body then .choice else .text := by
  have h := reads_readBody body
  generalize readBody body = p at h
  cases h with
  | command hname => simp
  | options hname hrest => simp [hname.1, hrest, choice]
  | default hname hdefault => simp [hname.1, hname.2.1, hdefault, free]
  | name hname => simp [hname.1, hname.2.1, free]

end Parameter

end TemplateFill
