import TemplateFill.Journal.Timestamp
import TemplateFill.Json.Reader
import TemplateFill.Json.Writer
import TemplateFill.Session.Loop

/-!
# Journal entries

An entry says at what time what happened to which session, with details that depend on what it
was.  It is written as one line of JSON and read back from it.  The members of its details are kept
sorted by name.
-/

namespace TemplateFill

namespace Journal

/-- What an entry reports. -/
inductive Action where
  | sessionStart
  | resolveOk
  | resolveFailed
  | staleDiscarded
  | submit
  | cancel
  deriving DecidableEq, Repr

namespace Action

/-- The word for an action. -/
def label : Action → Text
  | .sessionStart => "session_start"
  | .resolveOk => "resolve_ok"
  | .resolveFailed => "resolve_failed"
  | .staleDiscarded => "stale_discarded"
  | .submit => "submit"
  | .cancel => "cancel"

/-- All actions. -/
def all : List Action :=
  [.sessionStart, .resolveOk, .resolveFailed, .staleDiscarded, .submit, .cancel]

/-- The action that a word stands for. -/
def ofLabel? (s : Text) : Option Action := all.find? (·.label = s)

end Action

/-- An entry without its time. -/
structure Note where
  action : Action
  session : Nat
  /-- The name of the parameter, for what happens to a single one. -/
  parameter : Option Text
  details : Json

/-- What is noted of an occurrence in a session. -/
def Note.ofOccurrence (session : Nat) : Occurrence → Note
  | .started template parameters pending =>
    ⟨.sessionStart, session, none, .sortedObject
      [("template", .string template), ("params", .ofNat parameters),
        ("pending", .ofNat pending)]⟩
  | .resolved name options =>
    ⟨.resolveOk, session, some name, .sortedObject [("options", .ofNat options)]⟩
  | .failed name why =>
    ⟨.resolveFailed, session, some name, .sortedObject [("reason", .string why.message)]⟩
  | .discarded other =>
    ⟨.staleDiscarded, session, none, .sortedObject [("from_session", .ofNat other)]⟩
  | .submitted command =>
    ⟨.submit, session, none, .sortedObject [("command", .string command)]⟩
  | .cancelled pending => ⟨.cancel, session, none, .sortedObject [("pending", .ofNat pending)]⟩

/-- The notes of a session that has been driven to its end. -/
def Note.ofRun (session : Nat) (r : Run) : List Note :=
  r.occurrences.map (Note.ofOccurrence session)

/-- An entry of a journal. -/
structure Entry extends Note where
  time : Timestamp

namespace Entry

/-- An entry as a JSON object. -/
def toJson (e : Entry) : Json :=
  .object <|
    ("ts", .string e.time.write) :: ("action", .string e.action.label)
      :: ("session", .ofNat e.session)
      :: (Json.memberOf "param" (e.parameter.map .string) ++ Json.memberOf "details" (some e.details))

/-- The line of an entry. -/
def line (e : Entry) : Text := e.toJson.compact

/-- The action that a JSON text names: a word, or an object whose only member has that word as its
name and holds nothing. -/
def readAction : Json.Source → Option Action
  | .atom (some (.string s)) => Action.ofLabel? s
  | .object [(some s, .atom (some .null))] => Action.ofLabel? s
  | _ => none

/-- The number of a session that a JSON text holds. -/
def readSession : Json.Source → Option Nat
  | .atom (some (.integer i)) => if 0 ≤ i then some i.toNat else none
  | _ => none

/-- The name of a parameter that a JSON text holds; `null` stands for none. -/
def readParameter : Json.Source → Option (Option Text)
  | .atom (some .null) => some none
  | .atom (some (.string s)) => some (some s)
  | _ => none

/-- The entry that a JSON text holds: an object, whose members may come in any order and of which
only the parameter may be missing, or an array of all of them in order. -/
def ofSource? (v : Json.Source) : Option Entry := do
  let [ts, action, session, parameter, details] ←
    v.fields? ["ts", "action", "session", "param", "details"] | none
  let parameter ← match v, parameter with
    | .array _, none => none
    | _, none => some none
    | _, some p => readParameter p
  return {
    time := ← Timestamp.read (← (← ts).text?)
    action := ← readAction (← action)
    session := ← readSession (← session)
    parameter := parameter
    details := ← (← details).value? 1 }

/-- The entry on a line. -/
def read (line : Text) : Option Entry := do ofSource? (← Json.Source.read line)

end Entry

end Journal

end TemplateFill
