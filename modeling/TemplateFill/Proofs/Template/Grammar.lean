import TemplateFill.Proofs.Template.Parameter
import TemplateFill.Proofs.Template.Placeholder

/-!
# The grammar of bodies

What parameters do bodies declare, and how is each of them written?  A parameter that is declared
comes in one of three shapes (`Parameter.IsSpelled`), and one of such a shape is read from the body
that is written for it (`Parameter.body`).  In a list of options a star stands in front of the
default, and one more in front of an option that starts with a star.  This is where not every list
can be written: an option in front of the default that starts with a star would be taken for it
(`Parameter.IsDefaultOf`).

`Parameter.ofBody?_grammar` puts this together, and says when a body declares nothing.
-/

namespace TemplateFill

namespace Parameter

open Text Placeholder

/-! ### The name in a body -/

/-- The delimiter at which a body is cut. -/
def delimiter? (body : Text) : Option Char := ['!', '|', ':'].find? (· ∈ body)

/-- What stands in a body in front of its delimiter. -/
def leadingName (body : Text) : Text :=
  match delimiter? body with
  | some c => body.takeWhile (· ≠ c)
  | none => body

lemma leadingName_of_delimiter {c : Char} {name rest : Text}
    (hc : delimiter? (name ++ c :: rest) = some c) (h : c ∉ name) :
    leadingName (name ++ c :: rest) = name := by
  rw [leadingName, hc]
  exact takeWhile_append_cons h rest

lemma Reads.name_eq {body : Text} {p : Parameter} (h : Reads body p) :
    p.name = leadingName body := by
  cases h with
  | command hname => exact (leadingName_of_delimiter (by simp [delimiter?]) hname).symm
  | options hname hrest =>
    exact (leadingName_of_delimiter (by simp [delimiter?, hname.1, hrest]) hname.2).symm
  | default hname hdefault =>
    exact (leadingName_of_delimiter (by simp [delimiter?, hname.1, hname.2.1, hdefault])
      hname.2.2).symm
  | name hname =>
    have hnone : delimiter? body = none := by simp [delimiter?, hname]
    rw [leadingName, hnone]
    rfl

/-! ### Options with stars -/

/-- The option starts with a star. -/
def Starred (o : Text) : Prop := o.head? = some '*'

instance : DecidablePred Starred := fun o => inferInstanceAs (Decidable (o.head? = some '*'))

/-- A text can be the default of a list: it is empty, and no option starts with a star, or it is an
option, and none in front of it starts with a star. -/
def IsDefaultOf (default : Text) (os : List Text) : Prop :=
  default = [] ∧ (∀ o ∈ os, ¬Starred o) ∨
    ∃ front back, os = front ++ default :: back ∧ ∀ o ∈ front, ¬Starred o

/-- An option as it is written if it is not the default. -/
def writeOption (o : Text) : Text := if Starred o then '*' :: o else o

/-- Options as they are written, with a star for the first one that is the default. -/
def writeOptions (default : Text) : List Text → List Text
  | [] => []
  | o :: os =>
    if o = default then ('*' :: o) :: os.map writeOption
    else writeOption o :: writeOptions default os

lemma readOption_eq_false {s o : Text} (h : readOption s = (o, false)) : ¬Starred o := by
  intro hstar
  unfold readOption at h
  split at h
  · exact absurd (congrArg Prod.snd h) (by simp)
  · rename_i hs
    obtain rfl : s = o := congrArg Prod.fst h
    obtain ⟨r, rfl⟩ := List.head?_eq_some_iff.1 hstar
    exact hs r rfl

lemma readOption_star (o : Text) : readOption ('*' :: o) = (o, true) := rfl

lemma readOption_writeOption (o : Text) :
    readOption (writeOption o) = (o, decide (Starred o)) := by
  by_cases h : Starred o
  · rw [writeOption, if_pos h, decide_eq_true h]
    rfl
  · rw [writeOption, if_neg h, decide_eq_false h]
    unfold readOption
    split
    · exact absurd rfl h
    · rfl

lemma readOptions_cons {s o : Text} {mark : Bool} (h : readOption s = (o, mark)) (ho : o ≠ [])
    (segments : List Text) : readOptions (s :: segments) = (o, mark) :: readOptions segments := by
  simp [readOptions, h, ho]

lemma map_readOptions_map_writeOption {os : List Text} (hos : ∀ o ∈ os, o ≠ []) :
    (readOptions (os.map writeOption)).map Prod.fst = os := by
  induction os with
  | nil => rfl
  | cons o os ih =>
    obtain ⟨ho, hos⟩ := List.forall_mem_cons.1 hos
    rw [List.map_cons, readOptions_cons (readOption_writeOption o) ho, List.map_cons, ih hos]

/-- Options are read as they are written. -/
lemma map_readOptions_writeOptions {os : List Text} (hos : ∀ o ∈ os, o ≠ []) (default : Text) :
    (readOptions (writeOptions default os)).map Prod.fst = os := by
  induction os with
  | nil => rfl
  | cons o os ih =>
    obtain ⟨ho, hos⟩ := List.forall_mem_cons.1 hos
    rw [writeOptions]
    split
    · rw [readOptions_cons (readOption_star o) ho, List.map_cons,
        map_readOptions_map_writeOption hos]
    · rw [readOptions_cons (readOption_writeOption o) ho, List.map_cons, ih hos]

lemma IsDefaultOf.of_cons {default o : Text} {os : List Text} (h : IsDefaultOf default (o :: os))
    (hne : o ≠ default) : ¬Starred o ∧ IsDefaultOf default os := by
  rcases h with ⟨rfl, hos⟩ | ⟨front, back, hos, hfront⟩
  · obtain ⟨ho, hos⟩ := List.forall_mem_cons.1 hos
    exact ⟨ho, Or.inl ⟨rfl, hos⟩⟩
  · cases front with
    | nil => exact absurd (List.cons.inj hos).1 hne
    | cons o' front =>
      obtain ⟨rfl, rfl⟩ := List.cons.inj hos
      obtain ⟨ho, hfront⟩ := List.forall_mem_cons.1 hfront
      exact ⟨ho, Or.inr ⟨front, back, rfl, hfront⟩⟩

/-- The default of options that are written is the one that they were written with. -/
lemma firstMarked_writeOptions {default : Text} {os : List Text} (hos : ∀ o ∈ os, o ≠ [])
    (h : IsDefaultOf default os) :
    firstMarked (readOptions (writeOptions default os)) = default := by
  induction os with
  | nil =>
    rcases h with ⟨rfl, -⟩ | ⟨front, back, hos, -⟩
    · rfl
    · exact absurd hos (by simp)
  | cons o os ih =>
    obtain ⟨ho, hos⟩ := List.forall_mem_cons.1 hos
    rw [writeOptions]
    split
    · rename_i heq
      rw [readOptions_cons (readOption_star o) ho, ← heq]
      rfl
    · -- an option in front of the default has no star, and so no mark
      rename_i hne
      obtain ⟨hstar, h⟩ := h.of_cons hne
      rw [readOptions_cons (readOption_writeOption o) ho, firstMarked,
        List.find?_cons_of_neg (by simpa using hstar)]
      exact ih hos h

/-- The default that is read is a default of the options that are read. -/
lemma isDefaultOf_firstMarked (segments : List Text) :
    IsDefaultOf (firstMarked (readOptions segments)) ((readOptions segments).map Prod.fst) := by
  have hplain : ∀ o ∈ readOptions segments, o.2 = false → ¬Starred o.1 := by
    rintro ⟨o, mark⟩ ho rfl
    obtain ⟨s, -, hs⟩ := List.mem_map.1 (List.mem_filter.1 ho).1
    exact readOption_eq_false hs
  rw [firstMarked]
  cases hfind : (readOptions segments).find? Prod.snd with
  | none =>
    refine Or.inl ⟨rfl, List.forall_mem_map.2 fun o ho => hplain o ho ?_⟩
    simpa using List.find?_eq_none.1 hfind o ho
  | some o =>
    obtain ⟨-, front, back, hos, hfront⟩ := List.find?_eq_some_iff_append.1 hfind
    refine Or.inr ⟨front.map Prod.fst, back.map Prod.fst, by simp [hos],
      List.forall_mem_map.2 fun o' ho' => hplain o' ?_ ?_⟩
    · rw [hos]
      exact List.mem_append_left _ ho'
    · simpa using hfront o' ho'

/-! ### The parameters that bodies declare -/

/-- The shapes of the parameters that bodies declare. -/
inductive IsSpelled : Parameter → Prop
  | dynamic {name command : Text} (hne : name ≠ []) (hname : '!' ∉ name) :
      IsSpelled ⟨name, .dynamic, [], [], command⟩
  | choice {name default : Text} {options : List Text} (hne : name ≠ [])
      (hname : '!' ∉ name ∧ '|' ∉ name) (hoptions : ∀ o ∈ options, o ≠ [] ∧ '!' ∉ o ∧ '|' ∉ o)
      (hdefault : IsDefaultOf default options) : IsSpelled ⟨name, .choice, default, options, []⟩
  | text {name default : Text} (hne : name ≠ []) (hname : '!' ∉ name ∧ '|' ∉ name ∧ ':' ∉ name)
      (hdefault : '!' ∉ default ∧ '|' ∉ default) : IsSpelled ⟨name, .text, default, [], []⟩

/-- A parameter as the body of a placeholder. -/
def body (p : Parameter) : Text :=
  match p.kind with
  | .dynamic => p.name ++ '!' :: p.command
  | .choice => p.name ++ '|' :: join ['|'] (writeOptions p.default p.options)
  | .text => if p.default = [] then p.name else p.name ++ ':' :: p.default

lemma Reads.isSpelled {body : Text} {p : Parameter} (h : Reads body p) (hne : p.name ≠ []) :
    p.IsSpelled := by
  cases h with
  | command hname => exact .dynamic hne hname
  | @options name rest hname hrest =>
    refine .choice hne hname (List.forall_mem_map.2 fun o ho => ?_) (isDefaultOf_firstMarked _)
    obtain ⟨hmem, hempty⟩ := List.mem_filter.1 ho
    obtain ⟨segment, hsegment, rfl⟩ := List.mem_map.1 hmem
    obtain ⟨hsub, hpiece⟩ := of_mem_pieces hsegment
    refine ⟨by simpa using hempty, fun hc => ?_, fun ho => ?_⟩
    · exact hrest (hsub (mem_of_mem_readOption hc))
    · exact hpiece (mem_of_mem_readOption ho)
  | default hname hdefault => exact .text hne hname hdefault
  | name hname => exact .text hne hname (by simp)

/-! ### What is written -/

lemma exists_of_mem_writeOptions {default s : Text} {os : List Text}
    (h : s ∈ writeOptions default os) : ∃ o ∈ os, s = o ∨ s = '*' :: o := by
  have hwrite : ∀ o, writeOption o = o ∨ writeOption o = '*' :: o := by
    intro o
    unfold writeOption
    split <;> simp
  induction os with
  | nil => exact absurd h (by simp [writeOptions])
  | cons o os ih =>
    rw [writeOptions] at h
    split at h
    · rcases List.mem_cons.1 h with rfl | h
      · exact ⟨o, List.mem_cons_self, Or.inr rfl⟩
      · obtain ⟨o', ho', rfl⟩ := List.mem_map.1 h
        exact ⟨o', List.mem_cons_of_mem _ ho', hwrite o'⟩
    · rcases List.mem_cons.1 h with rfl | h
      · exact ⟨o, List.mem_cons_self, hwrite o⟩
      · obtain ⟨o', ho', hs⟩ := ih h
        exact ⟨o', List.mem_cons_of_mem _ ho', hs⟩

lemma notMem_of_mem_writeOptions {default s : Text} {os : List Text} {c : Char} (hc : c ≠ '*')
    (hos : ∀ o ∈ os, c ∉ o) (h : s ∈ writeOptions default os) : c ∉ s := by
  obtain ⟨o, ho, rfl | rfl⟩ := exists_of_mem_writeOptions h
  · exact hos _ ho
  · simpa [hc] using hos _ ho

lemma notMem_join_writeOptions {default : Text} {os : List Text} {c : Char} (hc : c ≠ '*')
    (hsep : c ≠ '|') (hos : ∀ o ∈ os, c ∉ o) : c ∉ join ['|'] (writeOptions default os) := by
  intro h
  rcases mem_join h with rfl | ⟨s, hs, hcs⟩
  · exact hsep rfl
  · exact notMem_of_mem_writeOptions hc hos hs hcs

/-- Options that are written and put together are read one by one. -/
lemma readOptions_pieces_join {segments : List Text} (h : ∀ s ∈ segments, '|' ∉ s) :
    readOptions (pieces '|' (join ['|'] segments)) = readOptions segments := by
  cases segments with
  | nil => rfl
  | cons s segments => rw [pieces_join (by simp) h]

/-- A parameter of one of the shapes is read from the body that is written for it. -/
lemma IsSpelled.reads {p : Parameter} (h : p.IsSpelled) : Reads p.body p := by
  cases h with
  | dynamic hne hname => exact .command hname
  | @choice name default options hne hname hoptions hdefault =>
    have hrest : '!' ∉ join ['|'] (writeOptions default options) :=
      notMem_join_writeOptions (by decide) (by decide) fun o ho => (hoptions o ho).2.1
    have hpieces : ∀ s ∈ writeOptions default options, '|' ∉ s := fun s hs =>
      notMem_of_mem_writeOptions (by decide) (fun o ho => (hoptions o ho).2.2) hs
    have hnonempty : ∀ o ∈ options, o ≠ [] := fun o ho => (hoptions o ho).1
    have hreads := Reads.options hname hrest
    rw [readOptions_pieces_join hpieces, Parameter.choice,
      firstMarked_writeOptions hnonempty hdefault, map_readOptions_writeOptions hnonempty] at hreads
    exact hreads
  | @text name default hne hname hdefault =>
    by_cases hd : default = []
    · subst hd
      exact .name hname
    · have hbody : body ⟨name, .text, default, [], []⟩ = name ++ ':' :: default := if_neg hd
      rw [hbody]
      exact .default hname hdefault

lemma notMem_body {p : Parameter} (h : ∀ s ∈ p.texts, '}' ∉ s) : '}' ∉ p.body := by
  simp only [texts, List.forall_mem_cons] at h
  obtain ⟨hname, hdefault, hcommand, hoptions⟩ := h
  unfold body
  split
  · simp [hname, hcommand]
  · simp [hname, notMem_join_writeOptions (by decide) (by decide) hoptions]
  · split <;> simp [hname, hdefault]

lemma name_prefix_body (p : Parameter) : p.name <+: p.body := by
  unfold body
  split
  · exact List.prefix_append ..
  · exact List.prefix_append ..
  · split
    · exact List.prefix_rfl
    · exact List.prefix_append ..

lemma isBody_body {p : Parameter} (hne : p.name ≠ []) (h : ∀ s ∈ p.texts, '}' ∉ s) :
    IsBody p.body :=
  ⟨fun hbody => hne (List.prefix_nil.1 (hbody ▸ p.name_prefix_body)), notMem_body h⟩

lemma IsSpelled.name_ne_nil {p : Parameter} (h : p.IsSpelled) : p.name ≠ [] := by
  cases h <;> assumption

/-! ### The grammar -/

/-- A body declares nothing if no name stands in front of its delimiter.  Else it declares a
parameter of one of the shapes, all of whose texts are from the body.  A parameter of one of the
shapes is declared by the body that is written for it.  So the parameters that the placeholders of
templates declare are those of the shapes in which no closing brace occurs. -/
theorem ofBody?_grammar :
    (∀ body, ofBody? body = none ↔ leadingName body = []) ∧
      (∀ body p, ofBody? body = some p → p.IsSpelled ∧ ∀ s ∈ p.texts, s ⊆ body) ∧
      (∀ p, p.IsSpelled →
        ofBody? p.body = some p ∧ ((∀ s ∈ p.texts, '}' ∉ s) → IsBody p.body)) ∧
      ∀ p, (∃ body, IsBody body ∧ ofBody? body = some p) ↔
        p.IsSpelled ∧ ∀ s ∈ p.texts, '}' ∉ s := by
  have hsound : ∀ body p, ofBody? body = some p → p.IsSpelled ∧ ∀ s ∈ p.texts, s ⊆ body := by
    intro body p h
    obtain ⟨rfl, hne⟩ := ofBody?_eq_some_iff.1 h
    exact ⟨(reads_readBody body).isSpelled hne, (reads_readBody body).texts_subset⟩
  have hcomplete : ∀ p, p.IsSpelled →
      ofBody? p.body = some p ∧ ((∀ s ∈ p.texts, '}' ∉ s) → IsBody p.body) := by
    intro p h
    exact ⟨ofBody?_eq_some_iff.2 ⟨h.reads.readBody_eq, h.name_ne_nil⟩, isBody_body h.name_ne_nil⟩
  refine ⟨fun body => ?_, hsound, hcomplete, fun p => ⟨?_, ?_⟩⟩
  · rw [ofBody?_eq_none_iff, (reads_readBody body).name_eq]
  · rintro ⟨body, hbody, h⟩
    obtain ⟨hspelled, hsub⟩ := hsound body p h
    exact ⟨hspelled, fun s hs hc => hbody.2 (hsub s hs hc)⟩
  · rintro ⟨hspelled, hbrace⟩
    obtain ⟨h, hbody⟩ := hcomplete p hspelled
    exact ⟨p.body, hbody hbrace, h⟩

/-- The default is the first option with a star in front, and it starts with a star itself; so does
an option behind it.  The default is also there a second time. -/
theorem ofBody?_grammar_stars :
    let p : Parameter := ⟨"a:b", .choice, "*x", ["y", "*x", "**z", "y", "*x"], []⟩
    p.body = ("a:b|y|**x|***z|y|**x" : Text) ∧ ofBody? p.body = some p ∧ IsBody p.body := by
  intro p
  have hspelled : p.IsSpelled :=
    .choice (by decide) (by decide) (by decide) (Or.inr ⟨["y"], ["**z", "y", "*x"], rfl, by decide⟩)
  obtain ⟨h, hbody⟩ := ofBody?_grammar.2.2.1 p hspelled
  exact ⟨by decide, h, hbody (by decide)⟩

end Parameter

end TemplateFill
