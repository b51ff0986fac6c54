import TemplateFill.Proofs.Template.Declarations

/-!
# What a template declares, and what it declares again

A declaration of a name that is already known is compared with what has become of the first one,
which may have got other defaults since.  The default plays no part in the comparison
(`Parameter.conflicts_default`), so that in the end each declaration has been compared with the
first one of its name (`Declarations.redeclarations_ofList`).  With what is known of the parameters
this says what a template declares (`declarations_merge`).
-/

namespace TemplateFill

namespace Parameter

/-- A later declaration disagrees with the first one if it lists options and the first does not list
the same, or if it has a command and the first does not have the same. -/
def Disagrees (first later : Parameter) : Prop :=
  (later.kind = .choice ∧ ¬(first.kind = .choice ∧ first.options = later.options)) ∨
    (later.kind = .dynamic ∧ ¬(first.kind = .dynamic ∧ first.command = later.command))

instance (first later : Parameter) : Decidable (first.Disagrees later) :=
  inferInstanceAs (Decidable (_ ∨ _))

/-- The redeclaration that a declaration is behind the `earlier` ones, if the first of these with
its name disagrees with it. -/
def redeclares? (earlier : List Parameter) (later : Parameter) : Option Redeclaration :=
  (earlier.find? (·.name = later.name)).bind fun first =>
    if first.Disagrees later then some ⟨later.name, first.kind, later.kind⟩ else none

/-- The redeclarations in a row of declarations, each of which comes behind those in front of it. -/
def redeclared (ps : List Parameter) : List Redeclaration :=
  ps.zipIdx.filterMap fun p => redeclares? (ps.take p.2) p.1

/-! ### Disagreement with the first declaration -/

lemma conflicts_iff {first later : Parameter} :
    first.conflicts later = true ↔ first.Disagrees later := by
  unfold conflicts Disagrees
  cases later.kind <;> simp [imp_iff_not_or]

/-- The default plays no part in it. -/
lemma conflicts_default (first later : Parameter) (d : Text) :
    ({ first with default := d } : Parameter).conflicts later = first.conflicts later := rfl

lemma Disagrees.kind_ne_text {first later : Parameter} (h : first.Disagrees later) :
    later.kind ≠ .text := by
  rcases h with ⟨h, -⟩ | ⟨h, -⟩ <;> rw [h] <;> decide

lemma redeclared_concat (ps : List Parameter) (q : Parameter) :
    redeclared (ps ++ [q]) = redeclared ps ++ (redeclares? ps q).toList := by
  have hfront : ∀ p ∈ ps.zipIdx, redeclares? ((ps ++ [q]).take p.2) p.1 =
      redeclares? (ps.take p.2) p.1 := by
    intro p hp
    have hlt : p.2 < ps.length := by simpa using (List.mem_zipIdx hp).2.1
    rw [List.take_append_of_le_length (Nat.le_of_lt hlt)]
  have hback : ([q].zipIdx (0 + ps.length)).filterMap
      (fun p => redeclares? ((ps ++ [q]).take p.2) p.1) = (redeclares? ps q).toList := by
    cases hq : redeclares? ps q <;> simp [hq]
  rw [redeclared, List.zipIdx_append, List.filterMap_append, List.filterMap_congr hfront, hback]
  rfl

end Parameter

open Parameter

namespace Declarations

/-- The redeclarations that a row of declarations leaves behind. -/
theorem redeclarations_ofList (ps : List Parameter) :
    (ofList ps).redeclarations = redeclared ps := by
  induction ps using List.reverseRecOn with
  | nil => rfl
  | append_singleton ps q ih =>
    have hfind := find?_merged ps q.name
    rw [← parameters_ofList] at hfind
    rw [ofList_concat, redeclared_concat, ← ih, add, hfind]
    cases hfirst : ps.find? (·.name = q.name) with
    | none => simp [merged?, redeclares?, hfirst]
    | some first =>
      have hmerged : merged? ps q.name =
          some { first with default := lastDefault ps q.name } := by
        rw [merged?, hfirst]
        rfl
      rw [hmerged, redeclares?, hfirst, Option.bind_some]
      dsimp only
      -- the record that is kept differs from the first declaration in its default only
      rw [conflicts_default]
      by_cases hdis : first.Disagrees q
      · rw [if_pos (conflicts_iff.2 hdis), if_pos hdis]
        rfl
      · rw [if_neg (mt conflicts_iff.1 hdis), if_neg hdis]
        rfl

end Declarations

/-- What a template declares.  Its parameters have different names, in the order in which the names
first appear; each is the first declaration of its name, but with the last default that is given for
the name.  The redeclarations are the later declarations that disagree with the first one of their
name, in order; free text is never among them. -/
theorem declarations_merge (template : Text) :
    let os := (placeholders template).items.filterMap Parameter.ofBody?
    let d := declarations template
    (d.parameters.map Parameter.name = (os.map Parameter.name).eraseDups ∧
        (d.parameters.map Parameter.name).Nodup) ∧
      (∀ p ∈ d.parameters, ∃ first, os.find? (·.name = p.name) = some first ∧
        p.kind = first.kind ∧ p.options = first.options ∧ p.command = first.command ∧
        p.default = lastDefault os p.name) ∧
      d.redeclarations = redeclared os ∧ ∀ r ∈ d.redeclarations, r.later ≠ .text := by
  intro os d
  have hnames : d.parameters.map Parameter.name = names os := Declarations.names_parameters os
  have hredeclared : d.redeclarations = redeclared os := Declarations.redeclarations_ofList os
  refine ⟨⟨hnames, ?_⟩, fun p hp => ?_, hredeclared, fun r hr => ?_⟩
  · rw [hnames]
    exact nodup_names os
  · have hmerged : merged? os p.name = some p := Declarations.merged?_of_mem_parameters hp
    obtain ⟨first, hfirst, hp⟩ := Option.map_eq_some_iff.1 hmerged
    refine ⟨first, hfirst, ?_⟩
    -- the name is that of `p` on both sides, so only the other fields are compared
    generalize p.name = n at hp
    subst hp
    exact ⟨rfl, rfl, rfl, rfl⟩
  · rw [hredeclared] at hr
    obtain ⟨later, -, hlater⟩ := List.mem_filterMap.1 hr
    obtain ⟨first, -, hsome⟩ := Option.bind_eq_some_iff.1 hlater
    by_cases hdis : first.Disagrees later.1
    · rw [if_pos hdis] at hsome
      rw [← Option.some.inj hsome]
      exact hdis.kind_ne_text
    · exact absurd hsome (by simp [hdis])

/-- A choice that is declared again, by a command and by a mere default: the default counts, and the
command is noted and ignored. -/
theorem declarations_merge_branch :
    let template : Text := "{{b|main|*dev}} {{n}} {{b!git branch}} {{b:rel}} {{b|main}}"
    let d := declarations template
    d.parameters = [⟨"b", .choice, "rel", ["main", "dev"], []⟩, ⟨"n", .text, [], [], []⟩] ∧
      d.redeclarations = [⟨"b", .choice, .dynamic⟩, ⟨"b", .choice, .choice⟩] ∧
      ∃ p ∈ d.parameters, p.kind = .choice ∧
        p.default = lastDefault (declared template) p.name := by
  intro template d
  have hparameters : d.parameters =
      [⟨"b", .choice, "rel", ["main", "dev"], []⟩, ⟨"n", .text, [], [], []⟩] := by
    decide +kernel
  have hmem : (⟨"b", .choice, "rel", ["main", "dev"], []⟩ : Parameter) ∈ d.parameters := by
    rw [hparameters]
    exact List.mem_cons_self
  obtain ⟨first, -, -, -, -, hdefault⟩ := (declarations_merge template).2.1 _ hmem
  exact ⟨hparameters, by decide +kernel, _, hmem, rfl, hdefault⟩

end TemplateFill
