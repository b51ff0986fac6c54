import TemplateFill.Text.Basic

/-!
# Data sorted by name

Data whose members have no order of their own are kept *sorted*: by name, with each name once.
`Text.insertNamed` puts a member into a sorted list and replaces an earlier member of that name.
-/

namespace TemplateFill

namespace Text

/-- The order of texts by their characters' code points. -/
def order (a b : Text) : Ordering := compareOfLessAndEq a b

/-- A member is put into its place among sorted members; one of the same name is replaced. -/
def insertNamed {α : Type} (name : Text) (a : α) : List (Text × α) → List (Text × α)
  | [] => [(name, a)]
  | m :: ms =>
    match order name m.1 with
    | .lt => (name, a) :: m :: ms
    | .eq => (name, a) :: ms
    | .gt => m :: insertNamed name a ms

/-- Members sorted by name; of those with the same name the last one counts. -/
def sortNamed {α : Type} (members : List (Text × α)) : List (Text × α) :=
  members.foldl (fun ms m => insertNamed m.1 m.2 ms) []

end Text

end TemplateFill
