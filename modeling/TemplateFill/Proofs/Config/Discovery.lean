import TemplateFill.Config.Discovery
import TemplateFill.Proofs.Config.Stored
import TemplateFill.Proofs.Text.Pieces

/-!
# One file at most is read for the configuration

The search asks about one path only, which is the one that is named or else the standard place
(`Config.search_finds`).  Every configuration that it finds is the standard one or has been read
from the file at that path, and has no defect; every fault names the path.

* `Config.discover_reads_one`: what is asked, and what is found, for all files and variables.
-/

namespace TemplateFill

/-! ### What a search asks -/

/-- A question about a path. -/
inductive Question where
  /-- Does the path name something? -/
  | contains (p : Path)
  /-- What is the text of the file? -/
  | read (p : Path)
  deriving DecidableEq

/-- The path that a question is about. -/
def Question.path : Question → Path
  | .contains p | .read p => p

/-- Whether the content of a file is asked for. -/
def Question.isRead : Question → Bool
  | .contains _ => false
  | .read _ => true

/-- The answers of a view, with the questions put on record. -/
def FileView.recorded (f : FileView) : FileAccess (StateM (List Question)) where
  contains p := do
    modify (· ++ [.contains p])
    return f.contains p
  read p := do
    modify (· ++ [.read p])
    return f.read p

/-- What is found and what has been asked, when a search goes on after the given questions. -/
def onRecord {α : Type} (qs : List Question) (action : StateM (List Question) α) :
    α × List Question :=
  (action.run qs).run

/-! ### Where a path leads -/

namespace Path

/-- The name of a single file or directory. -/
structure IsName (name : Text) : Prop where
  ne_nil : name ≠ []
  slash_notMem : '/' ∉ name
  ne_dot : name ≠ ['.']
  ne_dots : name ≠ ['.', '.']

/-- A name behind a path leads one step further. -/
lemma parts_join {name : Text} (h : IsName name) (w : List Text) (d : Path) :
    parts w (d.join name) = parts w d ++ [name] := by
  have hhead : name.head? ≠ some '/' := fun hslash =>
    h.slash_notMem (List.mem_of_mem_head? hslash)
  have hname : Text.pieces '/' name = [name] := Text.pieces_of_notMem h.slash_notMem
  rw [join, if_neg hhead]
  split
  · rename_i hend
    rcases hend with hnil | hslash
    · obtain rfl : d = [] := List.isEmpty_iff.1 hnil
      simp [parts, hhead, hname, h.ne_nil, h.ne_dot, h.ne_dots, Text.pieces]
    · -- the empty piece behind the last slash leads nowhere
      obtain ⟨b, rfl⟩ := List.getLast?_eq_some_iff.1 hslash
      have hfront : (b ++ '/' :: name).head? = (b ++ ['/']).head? := by cases b <;> rfl
      rw [List.append_assoc]
      simp only [parts, List.singleton_append, hfront, Text.pieces_append, List.foldl_append, hname]
      simp [Text.pieces, h.ne_nil, h.ne_dot, h.ne_dots]
  · rename_i hend
    have hne : d ≠ [] := fun hnil => hend (Or.inl (by simp [hnil]))
    have hfront : (d ++ '/' :: name).head? = d.head? := by
      cases d with
      | nil => exact absurd rfl hne
      | cons c d => rfl
    simp only [parts, hfront, Text.pieces_append, List.foldl_append, hname]
    simp [h.ne_nil, h.ne_dot, h.ne_dots]

end Path

namespace Config

open Yaml

variable {files : FileView} {v : Variables} {named place : Option Path} {p : Path}

/-! ### Where the configuration is looked for -/

/-- The path at which a configuration is looked for, if there is one. -/
inductive LooksAt (v : Variables) : Option Path → Option Path → Prop
  | named (p : Path) : LooksAt v (some p) (some p)
  | configHome {d : Path} (hd : v.configHome = some d) (hne : d ≠ []) :
    LooksAt v none (some ((d.join "cmdfill").join "config.yaml"))
  | home {d : Path} (hunset : v.configHome = none ∨ v.configHome = some [])
    (hd : v.home = some d) (hne : d ≠ []) :
    LooksAt v none (some (((d.join ".config").join "cmdfill").join "config.yaml"))
  | nowhere (hunset : v.configHome = none ∨ v.configHome = some [])
    (hhome : v.home = none ∨ v.home = some []) : LooksAt v none none

lemma filter_of_ne {x : Option Path} {d : Path} (hx : x = some d) (hne : d ≠ []) :
    x.filter (!List.isEmpty ·) = some d := by
  rw [hx]
  exact Option.filter_some_pos (by simpa using hne)

lemma filter_of_unset {x : Option Path} (h : x = none ∨ x = some []) :
    x.filter (!List.isEmpty ·) = none := by
  rcases h with rfl | rfl <;> rfl

lemma unset_or_set (x : Option Path) : (x = none ∨ x = some []) ∨ ∃ d, x = some d ∧ d ≠ [] := by
  rcases x with _ | _ | ⟨c, d⟩
  · exact Or.inl (Or.inl rfl)
  · exact Or.inl (Or.inr rfl)
  · exact Or.inr ⟨c :: d, rfl, List.cons_ne_nil c d⟩

lemma LooksAt.eq_or (h : LooksAt v named place) : place = named.or v.standardPath? := by
  cases h with
  | named p => rfl
  | configHome hd hne =>
    rw [Option.none_or, Variables.standardPath?, filter_of_ne hd hne]
    rfl
  | home hunset hd hne =>
    rw [Option.none_or, Variables.standardPath?, filter_of_unset hunset, filter_of_ne hd hne]
    rfl
  | nowhere hunset hhome =>
    rw [Option.none_or, Variables.standardPath?, filter_of_unset hunset, filter_of_unset hhome]
    rfl

/-- There is always one path, or none, at which a configuration is looked for. -/
lemma exists_looksAt (v : Variables) (named : Option Path) : ∃ place, LooksAt v named place := by
  cases named with
  | some p => exact ⟨_, .named p⟩
  | none =>
    rcases unset_or_set v.configHome with hunset | ⟨d, hd, hne⟩
    · rcases unset_or_set v.home with hhome | ⟨d, hd, hne⟩
      · exact ⟨_, .nowhere hunset hhome⟩
      · exact ⟨_, .home hunset hd hne⟩
    · exact ⟨_, .configHome hd hne⟩

/-- What is named goes before the standard place. -/
lemma looksAt_iff : LooksAt v named place ↔ place = named.or v.standardPath? := by
  refine ⟨LooksAt.eq_or, ?_⟩
  rintro rfl
  obtain ⟨place, h⟩ := exists_looksAt v named
  rwa [← h.eq_or]

/-! ### What is found there -/

/-- What a search asks before it has read the file at a path: whether there is one, unless it is
named. -/
def asked (named : Option Path) (p : Path) : List Question :=
  if named.isSome then [.read p] else [.contains p, .read p]

/-- What a search finds, and what it has asked then. -/
inductive Finds (files : FileView) (v : Variables) (named : Option Path) :
    Except LoadFault Config → List Question → Prop
  | nowhere (h : LooksAt v named none) : Finds files v named (.ok standard) []
  | missing {p : Path} (h : LooksAt v named (some p)) (hnamed : named = none)
    (hmissing : files.contains p = false) : Finds files v named (.ok standard) [.contains p]
  | inaccessible {p : Path} {why : FileError} (h : LooksAt v named (some p))
    (hthere : named = none → files.contains p = true) (hread : files.read p = .error why) :
    Finds files v named (.error (.inaccessible p why)) (asked named p)
  | content {p : Path} {s : Text} (h : LooksAt v named (some p))
    (hthere : named = none → files.contains p = true) (hread : files.read p = .ok s) :
    Finds files v named ((read s).mapError (.wrong p)) (asked named p)

lemma load_inaccessible {why : FileError} (hread : files.read p = .error why)
    (qs : List Question) :
    (load files.access p).run = .error (.inaccessible p why) ∧
      onRecord qs (load files.recorded p) = (.error (.inaccessible p why), qs ++ [.read p]) := by
  simp [load, onRecord, FileView.access, FileView.recorded, hread]

lemma load_content {s : Text} (hread : files.read p = .ok s) (qs : List Question) :
    (load files.access p).run = (read s).mapError (.wrong p) ∧
      onRecord qs (load files.recorded p) = ((read s).mapError (.wrong p), qs ++ [.read p]) := by
  simp [load, onRecord, FileView.access, FileView.recorded, hread]

lemma loadIfPresent_missing (h : files.contains p = false) (qs : List Question) :
    (loadIfPresent files.access p).run = .ok standard ∧
      onRecord qs (loadIfPresent files.recorded p) = (.ok standard, qs ++ [.contains p]) := by
  simp [loadIfPresent, onRecord, FileView.access, FileView.recorded, h]

lemma loadIfPresent_there (h : files.contains p = true) (qs : List Question) :
    (loadIfPresent files.access p).run = (load files.access p).run ∧
      onRecord qs (loadIfPresent files.recorded p) =
        onRecord (qs ++ [.contains p]) (load files.recorded p) := by
  simp [loadIfPresent, onRecord, FileView.access, FileView.recorded, h]

/-- A file that is there is loaded, after what a search asks before. -/
lemma search_of_there (h : LooksAt v named (some p))
    (hthere : named = none → files.contains p = true) :
    ∃ qs, qs ++ [.read p] = asked named p ∧
      onRecord [] (search files.recorded v named) = onRecord qs (load files.recorded p) ∧
      discover files v named = (load files.access p).run := by
  have hplace := h.eq_or
  unfold discover search
  cases named with
  | some q =>
    obtain rfl : p = q := Option.some.inj hplace
    exact ⟨[], rfl, rfl, rfl⟩
  | none =>
    rw [Option.none_or] at hplace
    rw [← hplace]
    obtain ⟨hload, hrecord⟩ := loadIfPresent_there (hthere rfl) []
    exact ⟨[.contains p], rfl, hrecord, hload⟩

/-- What there is to find is found, with the questions that go with it. -/
lemma Finds.search_eq {r : Except LoadFault Config} {qs : List Question}
    (h : Finds files v named r qs) :
    onRecord [] (search files.recorded v named) = (r, qs) ∧ discover files v named = r := by
  cases h with
  | nowhere h =>
    obtain ⟨rfl, hstandard⟩ := Option.or_eq_none_iff.1 h.eq_or.symm
    unfold discover search
    rw [hstandard]
    exact ⟨rfl, rfl⟩
  | missing h hnamed hmissing =>
    subst hnamed
    have hplace := h.eq_or
    rw [Option.none_or] at hplace
    obtain ⟨hload, hrecord⟩ := loadIfPresent_missing hmissing []
    unfold discover search
    rw [← hplace]
    exact ⟨hrecord, hload⟩
  | inaccessible h hthere hread =>
    obtain ⟨qs, hqs, hrecord, hload⟩ := search_of_there h hthere
    obtain ⟨hresult, hasked⟩ := load_inaccessible hread qs
    rw [hrecord, hasked, hload, hresult, hqs]
    exact ⟨rfl, rfl⟩
  | content h hthere hread =>
    obtain ⟨qs, hqs, hrecord, hload⟩ := search_of_there h hthere
    obtain ⟨hresult, hasked⟩ := load_content hread qs
    rw [hrecord, hasked, hload, hresult, hqs]
    exact ⟨rfl, rfl⟩

/-- There is always something to find. -/
lemma exists_finds (files : FileView) (v : Variables) (named : Option Path) :
    ∃ r qs, Finds files v named r qs := by
  obtain ⟨place, h⟩ := exists_looksAt v named
  cases place with
  | none => exact ⟨_, _, .nowhere h⟩
  | some p =>
    by_cases hmissing : named = none ∧ files.contains p = false
    · exact ⟨_, _, .missing h hmissing.1 hmissing.2⟩
    · have hthere : named = none → files.contains p = true := by simpa using hmissing
      cases hread : files.read p with
      | error why => exact ⟨_, _, .inaccessible h hthere hread⟩
      | ok s => exact ⟨_, _, .content h hthere hread⟩

/-- What a search finds depends on the path at which it looks, and on nothing else. -/
theorem search_finds (files : FileView) (v : Variables) (named : Option Path) :
    ∃ qs, onRecord [] (search files.recorded v named) = (discover files v named, qs) ∧
      Finds files v named (discover files v named) qs := by
  obtain ⟨r, qs, h⟩ := exists_finds files v named
  obtain ⟨hrecord, hfound⟩ := h.search_eq
  rw [hfound]
  exact ⟨qs, hrecord, h⟩

/-! ### What holds of every configuration and of every fault -/

lemma defect?_of_read {s : Text} {c : Config} (h : read s = .ok c) : c.defect? = none := by
  unfold read at h
  split at h
  · exact absurd h (by simp)
  · split at h
    · exact absurd h (by simp)
    · rename_i hdefect
      obtain rfl := Except.ok.inj h
      exact hdefect

/-- A configuration without defects gives every command some time, and not too much. -/
lemma timeout_of_defect? {c : Config} (h : c.defect? = none) :
    (Duration.ofSeconds 1).nanos ≤ c.resolver.timeout.nanos ∧
      c.resolver.timeout.nanos ≤ (Duration.ofSeconds 5).nanos := by
  have hlongest : longestTimeout = 5 := rfl
  have htimeout : c.timeoutSeconds ≠ 0 ∧ c.timeoutSeconds ≤ 5 := by
    unfold defect? at h
    split_ifs at h
    omega
  have hsecond : ∀ n, (Duration.ofSeconds n).nanos = n * 1000000000 := fun _ => rfl
  have hresolver : c.resolver.timeout.nanos =
      min (Duration.ofSeconds c.timeoutSeconds).nanos (Duration.ofSeconds 5).nanos := rfl
  rw [hresolver, hsecond, hsecond, hsecond]
  omega

/-- A fault is one of the configuration, and its text names the path. -/
lemma error_of_fault {f : LoadFault} {p : Path}
    (h : (∃ why, f = .inaccessible p why) ∨ ∃ why, f = .wrong p why) :
    ∃ text, f.error = .configuration text ∧ p <:+: text ∧ f.error.exitCode = 2 := by
  refine ⟨f.message, rfl, ?_, rfl⟩
  rcases h with ⟨why, rfl⟩ | ⟨why, rfl⟩
  · unfold LoadFault.message
    dsimp only
    rw [List.append_assoc]
    exact List.infix_append _ _ _
  · unfold LoadFault.message
    exact List.infix_append _ _ _

/-! ### The one file -/

/-- What is found at a path is found there, whatever is at any other path. -/
lemma Finds.congr {files' : FileView} {r : Except LoadFault Config} {qs : List Question}
    (h : Finds files v named r qs)
    (hsame : ∀ p, LooksAt v named (some p) →
      files'.contains p = files.contains p ∧ files'.read p = files.read p) :
    Finds files' v named r qs := by
  cases h with
  | nowhere h => exact .nowhere h
  | missing h hnamed hmissing => exact .missing h hnamed ((hsame _ h).1.trans hmissing)
  | inaccessible h hthere hread =>
    exact .inaccessible h (fun hn => (hsame _ h).1.trans (hthere hn)) ((hsame _ h).2.trans hread)
  | content h hthere hread =>
    exact .content h (fun hn => (hsame _ h).1.trans (hthere hn)) ((hsame _ h).2.trans hread)

/-- What is asked is about the path at which the configuration is looked for, and its file is read
once at most. -/
lemma Finds.questions {r : Except LoadFault Config} {qs : List Question}
    (h : Finds files v named r qs) :
    (∀ q ∈ qs, LooksAt v named (some q.path)) ∧ qs.countP (·.isRead) ≤ 1 := by
  have hasked : ∀ p, LooksAt v named (some p) →
      (∀ q ∈ asked named p, LooksAt v named (some q.path)) ∧
        (asked named p).countP (·.isRead) ≤ 1 := by
    intro p hp
    unfold asked
    split <;> simpa [Question.path, Question.isRead] using hp
  cases h with
  | nowhere h => simp
  | missing h hnamed hmissing => simpa [Question.path, Question.isRead] using h
  | inaccessible h hthere hread => exact hasked _ h
  | content h hthere hread => exact hasked _ h

lemma read_mem_asked (named : Option Path) (p : Path) : .read p ∈ asked named p := by
  unfold asked
  split <;> simp

/-- A configuration that is found is the standard one, or it is what the file holds that was
read. -/
lemma Finds.ok_cases {c : Config} {qs : List Question} (h : Finds files v named (.ok c) qs) :
    c = standard ∨ ∃ p s, .read p ∈ qs ∧ files.read p = .ok s ∧ read s = .ok c := by
  generalize hr : (Except.ok c : Except LoadFault Config) = r at h
  cases h with
  | nowhere h => exact Or.inl (Except.ok.inj hr)
  | missing h hnamed hmissing => exact Or.inl (Except.ok.inj hr)
  | inaccessible h hthere hread => exact absurd hr (by simp)
  | @content p s h hthere hread =>
    refine Or.inr ⟨p, s, read_mem_asked named p, hread, ?_⟩
    cases hs : read s with
    | error why => exact absurd hr (by simp [hs, Except.mapError])
    | ok c' =>
      rw [hs] at hr
      exact congrArg Except.ok (Except.ok.inj hr).symm

/-- A fault is about the file that was read. -/
lemma Finds.error_cases {f : LoadFault} {qs : List Question}
    (h : Finds files v named (.error f) qs) :
    ∃ p, .read p ∈ qs ∧ ((∃ why, f = .inaccessible p why) ∨ ∃ why, f = .wrong p why) := by
  generalize hr : (Except.error f : Except LoadFault Config) = r at h
  cases h with
  | nowhere h => exact absurd hr (by simp)
  | missing h hnamed hmissing => exact absurd hr (by simp)
  | @inaccessible p why h hthere hread =>
    exact ⟨p, read_mem_asked named p, Or.inl ⟨why, Except.error.inj hr⟩⟩
  | @content p s h hthere hread =>
    refine ⟨p, read_mem_asked named p, Or.inr ?_⟩
    cases hs : read s with
    | ok c => exact absurd hr (by simp [hs, Except.mapError])
    | error why =>
      rw [hs] at hr
      exact ⟨why, Except.error.inj hr⟩

lemma isName_directory : Path.IsName "cmdfill" := ⟨by decide, by decide, by decide, by decide⟩

lemma isName_file : Path.IsName "config.yaml" := ⟨by decide, by decide, by decide, by decide⟩

lemma isName_hidden : Path.IsName ".config" := ⟨by decide, by decide, by decide, by decide⟩

/-- What is found as the configuration, for all variables and files.

There is one path at which the configuration is looked for: the one that is named, or else
`cmdfill/config.yaml` in the directory of configurations, or in `.config` in the home directory if
that variable is not set or empty; if both are, there is none.

All that is asked of the files is about this path, and the file is read once at most, so that what
is found does not depend on any other file.  If there is no path, or if nothing is at the standard one,
then the standard configuration is found; if nothing is at the path that is named, that is a fault.
Otherwise it is what the file holds, or a fault.

A configuration that is found has no defect, and gives commands between one and five seconds.  It is
the standard one or is read from the file.  A fault is one of the configuration, with the exit code
2, and names the path of the file that was read. -/
theorem discover_reads_one (v : Variables) (named : Option Path) :
    (∃ place, ∀ other, LooksAt v named other ↔ other = place) ∧
      (∀ (w : List Text) (d : Path),
        ((d.join "cmdfill").join "config.yaml").parts w =
            d.parts w ++ ["cmdfill".toList, "config.yaml".toList] ∧
          (((d.join ".config").join "cmdfill").join "config.yaml").parts w =
            d.parts w ++ [".config".toList, "cmdfill".toList, "config.yaml".toList]) ∧
      ∀ files : FileView,
        (∃ qs, onRecord [] (search files.recorded v named) = (discover files v named, qs) ∧
          (∀ q ∈ qs, LooksAt v named (some q.path)) ∧ qs.countP (·.isRead) ≤ 1 ∧
          (∀ c, discover files v named = .ok c → c = standard ∨
            ∃ p s, .read p ∈ qs ∧ files.read p = .ok s ∧ read s = .ok c) ∧
          ∀ f, discover files v named = .error f → ∃ p text, .read p ∈ qs ∧
            f.error = .configuration text ∧ p <:+: text ∧ f.error.exitCode = 2) ∧
        (∀ c, discover files v named = .ok c → c.defect? = none ∧
          (Duration.ofSeconds 1).nanos ≤ c.resolver.timeout.nanos ∧
          c.resolver.timeout.nanos ≤ (Duration.ofSeconds 5).nanos) ∧
        (LooksAt v named none → discover files v named = .ok standard) ∧
        (∀ p, LooksAt v named (some p) →
          (files.contains p = false →
            (named = none → discover files v named = .ok standard) ∧
              (named = some p → ∃ why, discover files v named = .error (.inaccessible p why))) ∧
          (files.contains p = true →
            (∀ why, files.read p = .error why →
              discover files v named = .error (.inaccessible p why)) ∧
              ∀ s, files.read p = .ok s →
                discover files v named = (read s).mapError (.wrong p))) ∧
        ∀ files' : FileView, (∀ p, LooksAt v named (some p) →
            files'.contains p = files.contains p ∧ files'.read p = files.read p) →
          discover files' v named = discover files v named := by
  refine ⟨⟨_, fun other => looksAt_iff⟩, ?_, ?_⟩
  · intro w d
    constructor
    · rw [Path.parts_join isName_file, Path.parts_join isName_directory, List.append_assoc]
      rfl
    · rw [Path.parts_join isName_file, Path.parts_join isName_directory,
        Path.parts_join isName_hidden, List.append_assoc, List.append_assoc]
      rfl
  intro files
  obtain ⟨qs, hrecord, hfinds⟩ := search_finds files v named
  have hok : ∀ c, discover files v named = .ok c → c = standard ∨
      ∃ p s, .read p ∈ qs ∧ files.read p = .ok s ∧ read s = .ok c := by
    intro c hc
    rw [hc] at hfinds
    exact hfinds.ok_cases
  refine ⟨⟨qs, hrecord, hfinds.questions.1, hfinds.questions.2, hok, ?_⟩, ?_, ?_, ?_, ?_⟩
  · intro f hf
    rw [hf] at hfinds
    obtain ⟨p, hp, hfault⟩ := hfinds.error_cases
    obtain ⟨text, herror⟩ := error_of_fault hfault
    exact ⟨p, text, hp, herror⟩
  · intro c hc
    have hdefect : c.defect? = none := by
      rcases hok c hc with rfl | ⟨p, s, -, -, hread⟩
      · rfl
      · exact defect?_of_read hread
    exact ⟨hdefect, timeout_of_defect? hdefect⟩
  · intro h
    exact (Finds.nowhere h).search_eq.2
  · intro p hp
    constructor
    · intro hmissing
      constructor
      · intro hnamed
        exact (Finds.missing hp hnamed hmissing).search_eq.2
      · -- a named file is read without asking whether it is there
        intro hnamed
        obtain ⟨why, hwhy⟩ := files.exists_of_missing p hmissing
        have hthere : named = none → files.contains p = true := fun hnone =>
          absurd (hnone.symm.trans hnamed) (by simp)
        exact ⟨why, (Finds.inaccessible hp hthere hwhy).search_eq.2⟩
    · intro hthere
      constructor
      · intro why hread
        exact (Finds.inaccessible hp (fun _ => hthere) hread).search_eq.2
      · intro s hread
        exact (Finds.content hp (fun _ => hthere) hread).search_eq.2
  · intro files' hsame
    exact (hfinds.congr hsame).search_eq.2

/-- A file in the home directory that does not count while the directory of configurations is set,
and does when that variable is empty; one that is named and has a defect; and one that is named and
is not there. -/
theorem discover_reads_one_places :
    let files : FileView := FileTree.view
      ⟨.directory [("h", .directory [(".config", .directory [("cmdfill",
        .directory [("config.yaml", .file "resolve_timeout_secs: 2")])])]),
        ("c.yaml", .file "resolve_timeout_secs: 9")], []⟩
    let v : Variables := ⟨some "/x", some "/h"⟩
    discover files v none = .ok standard ∧
      discover files { v with configHome := some [] } none =
        .ok { standard with timeoutSeconds := 2 } ∧
      discover files v (some "/c.yaml") = .error (.wrong "/c.yaml" (.defect (.longTimeout 9))) ∧
      (∃ why, discover files v (some "/d.yaml") = .error (.inaccessible "/d.yaml" why)) ∧
      ∃ text, (LoadFault.wrong "/c.yaml" (.defect (.longTimeout 9))).error = .configuration text ∧
        "/c.yaml".toList <:+: text := by
  intro files v
  let timeout (n : Text) : Tree :=
    .mapping none [(.scalar none "resolve_timeout_secs" .plain, .scalar none n .plain)]
  have htwo : read "resolve_timeout_secs: 2" = .ok { standard with timeoutSeconds := 2 } := by
    have htree : Tree.read "resolve_timeout_secs: 2" = some (timeout "2") := by decide +kernel
    exact (read_of_tree htree rfl).1 rfl
  have hnine : read "resolve_timeout_secs: 9" = .error (.defect (.longTimeout 9)) := by
    have htree : Tree.read "resolve_timeout_secs: 9" = some (timeout "9") := by decide +kernel
    have hc : ofTree? (timeout "9") = some { standard with timeoutSeconds := 9 } := rfl
    exact (read_of_tree htree hc).2 _ rfl
  have hx : LooksAt v none (some "/x/cmdfill/config.yaml") :=
    @LooksAt.configHome v "/x" rfl (by decide)
  have hh : LooksAt { v with configHome := some [] } none
      (some "/h/.config/cmdfill/config.yaml") :=
    @LooksAt.home { v with configHome := some [] } "/h" (Or.inr rfl) rfl (by decide)
  obtain ⟨-, -, hunset⟩ := discover_reads_one v none
  obtain ⟨-, -, hempty⟩ := discover_reads_one { v with configHome := some [] } none
  obtain ⟨-, -, hnamed⟩ := discover_reads_one v (some "/c.yaml")
  obtain ⟨-, -, hmissing⟩ := discover_reads_one v (some "/d.yaml")
  have hdefect : discover files v (some "/c.yaml") =
      .error (.wrong "/c.yaml" (.defect (.longTimeout 9))) := by
    have hfound := ((hnamed files).2.2.2.1 _ (.named "/c.yaml")).2 rfl
    rw [hfound.2 _ rfl, hnine]
    rfl
  refine ⟨(((hunset files).2.2.2.1 _ hx).1 rfl).1 rfl, ?_, hdefect,
    (((hmissing files).2.2.2.1 _ (.named "/d.yaml")).1 rfl).2 rfl, ?_⟩
  · have hfound := ((hempty files).2.2.2.1 _ hh).2 rfl
    rw [hfound.2 _ rfl, htwo]
    rfl
  · obtain ⟨qs, -, hpaths, -, -, hfault⟩ := (hnamed files).1
    obtain ⟨p, text, hmem, htext, hinfix, -⟩ := hfault _ hdefect
    have hpath : p = "/c.yaml".toList := Option.some.inj (hpaths _ hmem).eq_or
    rw [hpath] at hinfix
    exact ⟨text, htext, hinfix⟩

end Config

end TemplateFill
