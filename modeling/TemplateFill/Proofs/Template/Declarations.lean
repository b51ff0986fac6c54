import Mathlib.Data.List.Basic
import Mathlib.Data.List.Induction
import Mathlib.Data.List.Nodup
import TemplateFill.Template.Declarations

/-!
# What a row of declarations comes to

The declarations of a template are made one after the other, and each of them may change what the
earlier ones have left.  `Declarations.parameters_ofList` says what comes of it in the end, without
the steps between: one parameter for each name, in the order in which the names first appear, which
is the first declaration of the name with the last default that is given for the name.  The names
are those that are declared, each once (`Declarations.names_parameters`).

If there are two rows, one behind the other, then what they come to can be told from what each of
them comes to (`Declarations.parameters_append`).
-/

namespace TemplateFill

namespace Parameter

variable {ps : List Parameter} {p q : Parameter} {n : Text}

/-- The names in a row of declarations, in the order in which they first appear. -/
def names (ps : List Parameter) : List Text := (ps.map name).eraseDups

/-- The last default that a row of declarations gives for a name, or an empty text. -/
def lastDefault (ps : List Parameter) (n : Text) : Text :=
  ((ps.filter fun p => decide (p.name = n) && p.hasDefault).getLast?.map default).getD []

/-- What a row of declarations makes of a name: the first declaration of it, with the last
default. -/
def merged? (ps : List Parameter) (n : Text) : Option Parameter :=
  (ps.find? (·.name = n)).map fun p => { p with default := lastDefault ps n }

/-- If every declaration of a name has the same default, then the last one is this default. -/
lemma lastDefault_of_forall {d : Text} (h : ∀ p ∈ ps, p.name = n → p.default = d)
    (hex : ∃ p ∈ ps, p.name = n) : lastDefault ps n = d := by
  rw [lastDefault]
  cases hlast : (ps.filter fun p => decide (p.name = n) && p.hasDefault).getLast? with
  | none =>
    obtain ⟨p, hp, hpn⟩ := hex
    have hnot := List.filter_eq_nil_iff.1 (List.getLast?_eq_none_iff.1 hlast) p hp
    have hempty : p.default = [] := by simpa [hpn, hasDefault] using hnot
    rw [← h p hp hpn, hempty]
    rfl
  | some p =>
    obtain ⟨hp, hpn⟩ := List.mem_filter.1 (List.mem_of_getLast? hlast)
    simp only [Bool.and_eq_true, decide_eq_true_eq] at hpn
    exact h p hp hpn.1

/-! ### More declarations -/

/-- The last default is that of the later row, if this row has one for the name. -/
lemma lastDefault_append (ps qs : List Parameter) (n : Text) :
    lastDefault (ps ++ qs) n =
      if lastDefault qs n = [] then lastDefault ps n else lastDefault qs n := by
  cases hlast : (qs.filter fun p => decide (p.name = n) && p.hasDefault).getLast? with
  | none =>
    have hqs : lastDefault qs n = [] := by
      rw [lastDefault, hlast]
      rfl
    rw [if_pos hqs, lastDefault, List.filter_append, List.getLast?_append, hlast, Option.none_or]
    rfl
  | some p =>
    have hqs : lastDefault qs n = p.default := by
      rw [lastDefault, hlast]
      rfl
    have hne : p.default ≠ [] := by
      have hp := (List.mem_filter.1 (List.mem_of_getLast? hlast)).2
      simp only [Bool.and_eq_true, hasDefault, Bool.not_eq_true', List.isEmpty_eq_false_iff] at hp
      exact hp.2
    rw [hqs, if_neg hne, lastDefault, List.filter_append, List.getLast?_append, hlast,
      Option.some_or]
    rfl

lemma lastDefault_of_notMem (h : ∀ p ∈ ps, p.name ≠ n) : lastDefault ps n = [] := by
  have hnil : (ps.filter fun p => decide (p.name = n) && p.hasDefault) = [] := by
    rw [List.filter_eq_nil_iff]
    intro p hp
    simp [h p hp]
  rw [lastDefault, hnil]
  rfl

/-- A name that is new in the later row is what this row makes of it. -/
lemma merged?_append_of_none (h : merged? ps n = none) (qs : List Parameter) :
    merged? (ps ++ qs) n = merged? qs n := by
  have hnone : ps.find? (·.name = n) = none := Option.map_eq_none_iff.1 h
  have hlast : lastDefault (ps ++ qs) n = lastDefault qs n := by
    have hne : ∀ p ∈ ps, p.name ≠ n := by simpa [List.find?_eq_none] using hnone
    rw [lastDefault_append, lastDefault_of_notMem hne]
    split
    · rename_i hqs
      exact hqs.symm
    · rfl
  rw [merged?, merged?, List.find?_append, hnone, Option.none_or, hlast]

/-- A name that is known before the later row may get another default from it. -/
lemma merged?_append_of_some (h : merged? ps n = some p) (qs : List Parameter) :
    merged? (ps ++ qs) n = some (p.withDefault (lastDefault qs n)) := by
  obtain ⟨first, hfirst, rfl⟩ := Option.map_eq_some_iff.1 h
  rw [merged?, List.find?_append, hfirst, Option.some_or, lastDefault_append]
  by_cases hqs : lastDefault qs n = [] <;> simp [withDefault, hqs]

/-- A name that is not in the later row stays as it is. -/
lemma merged?_append_of_notMem (ps : List Parameter) {qs : List Parameter}
    (h : ∀ q ∈ qs, q.name ≠ n) : merged? (ps ++ qs) n = merged? ps n := by
  have hnone : qs.find? (·.name = n) = none := by simpa [List.find?_eq_none] using h
  rw [merged?, merged?, List.find?_append, hnone, Option.or_none, lastDefault_append,
    if_pos (lastDefault_of_notMem h)]

lemma lastDefault_singleton (q : Parameter) : lastDefault [q] q.name = q.default :=
  lastDefault_of_forall (by simp) ⟨q, by simp, rfl⟩

lemma merged?_singleton (q : Parameter) : merged? [q] q.name = some q := by
  simp [merged?, lastDefault_singleton]

/-! ### The names -/

lemma mem_names : n ∈ names ps ↔ ∃ p ∈ ps, p.name = n := by
  simp [names, List.mem_eraseDups]

lemma names_concat (ps : List Parameter) (q : Parameter) :
    names (ps ++ [q]) = if q.name ∈ names ps then names ps else names ps ++ [q.name] := by
  have hmem : q.name ∈ names ps ↔ q.name ∈ ps.map name := List.mem_eraseDups
  rw [names, List.map_append, List.eraseDups_append, List.map_singleton, List.removeAll]
  split
  · rename_i h
    rw [List.filter_cons_of_neg (by simpa using hmem.1 h)]
    exact List.append_nil _
  · rename_i h
    rw [List.filter_cons_of_pos (by simpa using mt hmem.2 h)]
    rfl

/-- The names of a later row are added, as far as they are new. -/
lemma names_append (ps qs : List Parameter) :
    names (ps ++ qs) = names ps ++ (names qs).filter (· ∉ names ps) := by
  induction qs using List.reverseRecOn with
  | nil => simp [names]
  | append_singleton qs q ih =>
    rw [← List.append_assoc, names_concat, names_concat, ih]
    by_cases hps : q.name ∈ names ps <;> by_cases hqs : q.name ∈ names qs <;>
      simp [hps, hqs]

lemma nodup_names (ps : List Parameter) : (names ps).Nodup := by
  induction ps using List.reverseRecOn with
  | nil => exact List.nodup_nil
  | append_singleton ps q ih =>
    rw [names_concat]
    split
    · exact ih
    · rename_i h
      rw [← List.concat_eq_append]
      exact List.Nodup.concat h ih

lemma merged?_eq_none : merged? ps n = none ↔ n ∉ names ps := by
  simp [merged?, mem_names]

lemma name_of_merged? (h : merged? ps n = some p) : p.name = n := by
  obtain ⟨first, hfirst, rfl⟩ := Option.map_eq_some_iff.1 h
  simpa using List.find?_some hfirst

lemma find?_filterMap_merged (ps : List Parameter) (n : Text) (ns : List Text) :
    (ns.filterMap (merged? ps)).find? (·.name = n) = if n ∈ ns then merged? ps n else none := by
  induction ns with
  | nil => rfl
  | cons m ns ih =>
    cases hm : merged? ps m with
    | none =>
      rw [List.filterMap_cons_none hm, ih]
      by_cases hmn : n = m
      · subst hmn
        simp [hm]
      · simp [hmn]
    | some p =>
      rw [List.filterMap_cons_some hm, List.find?_cons]
      by_cases hmn : n = m
      · subst hmn
        simp [hm, name_of_merged? hm]
      · have hne : p.name ≠ n := fun h => hmn (h.symm.trans (name_of_merged? hm))
        simp [hne, hmn, ih]

/-- Among what becomes of the names, each name is found again. -/
lemma find?_merged (ps : List Parameter) (n : Text) :
    ((names ps).filterMap (merged? ps)).find? (·.name = n) = merged? ps n := by
  rw [find?_filterMap_merged]
  split
  · rfl
  · rename_i h
    exact (merged?_eq_none.2 h).symm

/-! ### Another default -/

/-- A parameter with the default that its name has in a row of parameters, if there is one. -/
def overriddenBy (p : Parameter) (qs : List Parameter) : Parameter :=
  match qs.find? (·.name = p.name) with
  | some q => p.withDefault q.default
  | none => p

lemma overriddenBy_merged (p : Parameter) (ps : List Parameter) :
    p.overriddenBy ((names ps).filterMap (merged? ps)) =
      p.withDefault (lastDefault ps p.name) := by
  rw [overriddenBy, find?_merged]
  cases h : merged? ps p.name with
  | none =>
    have hnot : ∀ q ∈ ps, q.name ≠ p.name := fun q hq hname =>
      merged?_eq_none.1 h (mem_names.2 ⟨q, hq, hname⟩)
    rw [lastDefault_of_notMem hnot]
    rfl
  | some q =>
    obtain ⟨first, -, rfl⟩ := Option.map_eq_some_iff.1 h
    rfl

end Parameter

open Parameter

namespace Declarations

lemma ofList_concat (ps : List Parameter) (q : Parameter) :
    ofList (ps ++ [q]) = (ofList ps).add q := by
  simp [ofList]

/-- What a row of declarations comes to. -/
theorem parameters_ofList (ps : List Parameter) :
    (ofList ps).parameters = (names ps).filterMap (merged? ps) := by
  induction ps using List.reverseRecOn with
  | nil => rfl
  | append_singleton ps q ih =>
    have hfind := find?_merged ps q.name
    rw [← ih] at hfind
    rw [ofList_concat, add, hfind]
    cases hq : merged? ps q.name with
    | none =>
      -- a new name comes last, and what is said of the others does not change
      have hnot : q.name ∉ names ps := merged?_eq_none.1 hq
      have hold : (names ps).filterMap (merged? (ps ++ [q])) = (ofList ps).parameters := by
        rw [ih]
        refine List.filterMap_congr fun n hn => merged?_append_of_notMem ps ?_
        rintro q' hq' rfl
        exact hnot (List.mem_singleton.1 hq' ▸ hn)
      rw [names_concat, if_neg hnot, List.filterMap_append, hold,
        List.filterMap_cons_some ((merged?_append_of_none hq [q]).trans (merged?_singleton q))]
      rfl
    | some first =>
      -- a known name keeps its place, and may only get another default
      have hmem : q.name ∈ names ps := by
        by_contra hnot
        rw [merged?_eq_none.2 hnot] at hq
        exact absurd hq (by simp)
      rw [names_concat, if_pos hmem, ih, List.map_filterMap]
      refine List.filterMap_congr fun n hn => ?_
      by_cases hqn : q.name = n
      · subst hqn
        rw [merged?_append_of_some hq, lastDefault_singleton, hq, Option.map_some,
          if_pos (name_of_merged? hq)]
      · rw [merged?_append_of_notMem ps (by simpa using hqn)]
        cases hp : merged? ps n with
        | none => rfl
        | some p =>
          have hne : p.name ≠ q.name := fun h => hqn (h.symm.trans (name_of_merged? hp))
          rw [Option.map_some, if_neg hne]

/-- The names are those that are declared. -/
lemma names_parameters (ps : List Parameter) :
    (ofList ps).parameters.map Parameter.name = names ps := by
  have hname : ∀ n ∈ names ps, (merged? ps n).map Parameter.name = some n := by
    intro n hn
    cases hp : merged? ps n with
    | none => exact absurd hn (merged?_eq_none.1 hp)
    | some p => rw [Option.map_some, name_of_merged? hp]
  rw [parameters_ofList, List.map_filterMap, List.filterMap_congr hname, List.filterMap_some]

/-- What two rows of declarations come to, one behind the other. -/
theorem parameters_append (ps qs : List Parameter) :
    (ofList (ps ++ qs)).parameters =
      (ofList ps).parameters.map (·.overriddenBy (ofList qs).parameters) ++
        (ofList qs).parameters.filter fun q =>
          q.name ∉ (ofList ps).parameters.map Parameter.name := by
  have hknown : ∀ n ∈ names ps, merged? (ps ++ qs) n =
      (merged? ps n).map (·.overriddenBy (ofList qs).parameters) := by
    intro n hn
    cases h : merged? ps n with
    | none => exact absurd hn (merged?_eq_none.1 h)
    | some p =>
      rw [merged?_append_of_some h, Option.map_some, parameters_ofList, overriddenBy_merged,
        name_of_merged? h]
  have hnew : ∀ n ∈ (names qs).filter (· ∉ names ps), merged? (ps ++ qs) n = merged? qs n := by
    intro n hn
    have hnot : n ∉ names ps := by simpa using (List.mem_filter.1 hn).2
    exact merged?_append_of_none (merged?_eq_none.2 hnot) qs
  have hfilter : ((names qs).filter (· ∉ names ps)).filterMap (merged? qs) =
      (ofList qs).parameters.filter fun q => q.name ∉ names ps := by
    rw [parameters_ofList, List.filter_filterMap, List.filterMap_filter]
    refine List.filterMap_congr fun n _ => ?_
    cases h : merged? qs n with
    | none => simp
    | some q => simp [Option.filter, name_of_merged? h]
  rw [names_parameters, parameters_ofList (ps ++ qs), names_append, List.filterMap_append,
    List.filterMap_congr hknown, List.filterMap_congr hnew, hfilter, ← List.map_filterMap,
    ← parameters_ofList ps]

/-- What becomes of a name is the only parameter of that name. -/
lemma merged?_of_mem_parameters {ps : List Parameter} {p : Parameter}
    (h : p ∈ (ofList ps).parameters) : merged? ps p.name = some p := by
  rw [parameters_ofList] at h
  obtain ⟨n, -, hp⟩ := List.mem_filterMap.1 h
  rwa [name_of_merged? hp]

/-- A parameter is the first declaration of its name, but for the default. -/
lemma exists_first_of_mem_parameters {ps : List Parameter} {p : Parameter}
    (h : p ∈ (ofList ps).parameters) :
    ∃ first ∈ ps, first.name = p.name ∧ p = { first with default := lastDefault ps p.name } := by
  obtain ⟨first, hfirst, hp⟩ := Option.map_eq_some_iff.1 (merged?_of_mem_parameters h)
  exact ⟨first, List.mem_of_find?_eq_some hfirst, by simpa using List.find?_some hfirst, hp.symm⟩

/-- Every declaration counts among the parameters, under the kind of the first one of its name. -/
lemma exists_mem_parameters {ps : List Parameter} {q : Parameter} (h : q ∈ ps) :
    ∃ first ∈ ps, first.name = q.name ∧ ∃ r ∈ (ofList ps).parameters, r.kind = first.kind := by
  have hname : q.name ∈ names ps := mem_names.2 ⟨q, h, rfl⟩
  cases hr : merged? ps q.name with
  | none => exact absurd hname (merged?_eq_none.1 hr)
  | some r =>
    have hmem : r ∈ (ofList ps).parameters := by
      rw [parameters_ofList]
      exact List.mem_filterMap.2 ⟨q.name, hname, hr⟩
    obtain ⟨first, hfirst, rfl⟩ := Option.map_eq_some_iff.1 hr
    exact ⟨first, List.mem_of_find?_eq_some hfirst, by simpa using List.find?_some hfirst, _, hmem,
      rfl⟩

end Declarations

end TemplateFill
