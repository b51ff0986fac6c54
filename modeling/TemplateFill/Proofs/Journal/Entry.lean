import TemplateFill.Journal.Entry
import TemplateFill.Proofs.Journal.Timestamp
import TemplateFill.Proofs.Json.RoundTrip

/-!
# Entries that come back from their lines

The line of an entry holds no control character, so nothing in an entry ends its line early
(`Journal.Entry.isPrintable_line`).  An entry that is *sound*, with a time that a time stamp may
have, a session number of 64 bits, and details that a text holds without loss, is read back from its
line (`Journal.Entry.read_of_isSound`).
-/

namespace TemplateFill

namespace Journal

/-- The words for actions are told apart. -/
lemma Action.ofLabel?_label (a : Action) : Action.ofLabel? a.label = some a := by
  cases a <;> rfl

namespace Entry

open Json

variable {e : Entry}

/-- What holds of the entries that a line holds without loss. -/
structure IsSound (e : Entry) : Prop where
  isInstant : e.time.IsInstant
  session_lt : e.session < 2 ^ 64
  isExact : e.details.IsExact
  /-- The details are inside the object of the entry. -/
  depth_lt : e.details.depth < Source.deepest

/-- An entry is on one line, and nothing in it ends the line. -/
lemma isPrintable_line (e : Entry) : e.line.IsPrintable := isPrintable_compact e.toJson

lemma lf_notMem_line (e : Entry) : '\n' ∉ e.line :=
  fun h => absurd (isPrintable_line e _ h) (by decide)

lemma cr_notMem_line (e : Entry) : '\r' ∉ e.line :=
  fun h => absurd (isPrintable_line e _ h) (by decide)

lemma fits_session (h : e.session < 2 ^ 64) : Fits e.session := by
  constructor <;> omega

/-- The line of a sound entry spells the tokens of its object. -/
lemma spells_line (h : e.IsSound) : Spells e.line e.toJson.toTokens := by
  refine spells_compact (.object fun m hm => ?_)
  simp only [List.mem_cons, List.mem_append] at hm
  rcases hm with rfl | rfl | rfl | hm | hm
  · exact .string _
  · exact .string _
  · exact .integer (fits_session h.session_lt)
  · cases hparam : e.parameter with
    | none => simp [hparam, memberOf] at hm
    | some p =>
      obtain rfl : m = ("param".toList, .string p) := by simpa [hparam, memberOf] using hm
      exact .string _
  · obtain rfl : m = ("details".toList, e.details) := by simpa [memberOf] using hm
    exact h.isExact.isWhole

/-- The members of an entry are found by their names. -/
lemma fields?_toSource (e : Entry) :
    e.toJson.toSource.fields? ["ts", "action", "session", "param", "details"] =
      some [some (.atom (some (.string e.time.write))),
        some (.atom (some (.string e.action.label))), some (.atom (some (.integer e.session))),
        e.parameter.map fun p => .atom (some (.string p)), some e.details.toSource] := by
  rw [toJson]
  cases e.parameter <;> rfl

/-- A sound entry is read back from its line. -/
theorem read_of_isSound (h : e.IsSound) : Entry.read e.line = some e := by
  have hsource : Source.read e.line = some e.toJson.toSource := read_of_spells (spells_line h)
  have hfields := fields?_toSource e
  obtain ⟨members, hobject⟩ : ∃ members, e.toJson.toSource = .object members :=
    ⟨_, by rw [toJson, toSource]⟩
  have htime : (Source.atom (some (.string e.time.write))).text? = some e.time.write := rfl
  have haction : readAction (.atom (some (.string e.action.label))) = some e.action :=
    Action.ofLabel?_label e.action
  have hsession : readSession (.atom (some (.integer e.session))) = some e.session := by
    simp [readSession]
  have hdetails : e.details.toSource.value? 1 = some e.details :=
    value?_toSource h.isExact (Nat.succ_le_of_lt h.depth_lt)
  rw [hobject] at hsource hfields
  rw [Entry.read, hsource, Option.bind_eq_bind, Option.bind_some, ofSource?, hfields]
  simp only [Option.bind_eq_bind, Option.bind_some, htime, Timestamp.read_write h.isInstant,
    haction, hsession, hdetails]
  obtain ⟨⟨action, session, parameter, details⟩, time⟩ := e
  cases parameter <;> rfl

/-- What is written for an entry whose time comes from a text is one line, from which the entry is
read, and for the entry that is read the same line is written. -/
theorem line_roundTrip {s : Text} (htime : Timestamp.read s = some e.time)
    (hsession : e.session < 2 ^ 64) (hexact : e.details.IsExact) (hdepth : e.details.depth ≤ 120) :
    ('\n' ∉ e.line ∧ '\r' ∉ e.line) ∧ Entry.read e.line = some e ∧
      (Entry.read e.line).map line = some e.line := by
  have hdeep : e.details.depth < Source.deepest := Nat.lt_of_le_of_lt hdepth (by decide)
  have hread : Entry.read e.line = some e :=
    read_of_isSound ⟨Timestamp.isInstant_of_read htime, hsession, hexact, hdeep⟩
  exact ⟨⟨lf_notMem_line e, cr_notMem_line e⟩, hread, by rw [hread, Option.map_some]⟩

/-- An entry in a leap second, whose parameter and details hold line breaks, quotes, numbers of both
signs and a character beyond sixteen bits. -/
theorem line_roundTrip_leapSecond :
    let e : Entry := ⟨⟨.resolveFailed, 18446744073709551615, some "a\"\n\x01".toList,
      .object [("n".toList, .array [.integer (-9223372036854775808), .bool true]),
        ("reason".toList, .string "\r\n😀".toList)]⟩, ⟨17166, 86399, 1250000000⟩⟩
    ('\n' ∉ e.line ∧ '\r' ∉ e.line) ∧ Entry.read e.line = some e ∧
      (Entry.read e.line).map line = some e.line := by
  intro e
  have htime : Timestamp.read "2017-01-01 01:59:60.25+02:00" = some e.time := by decide
  have hexact : e.details.IsExact := by
    refine .object (by decide) ?_
    simp only [List.forall_mem_cons, List.not_mem_nil, false_implies, implies_true, and_true]
    refine ⟨.array ?_, .string _⟩
    simp only [List.forall_mem_cons, List.not_mem_nil, false_implies, implies_true, and_true]
    exact ⟨.integer ⟨by decide, by decide⟩, .bool _⟩
  exact line_roundTrip htime (by decide) hexact (by decide)

end Entry

end Journal

end TemplateFill
