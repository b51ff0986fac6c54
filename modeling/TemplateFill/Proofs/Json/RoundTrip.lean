import TemplateFill.Json.Reader
import TemplateFill.Proofs.Json.OneLine
import TemplateFill.Proofs.Json.Token
import TemplateFill.Proofs.Text.Named

/-!
# Values that come back from their text

A value spells its tokens, on one line (`Json.spells_compact`) as over several
(`Json.spells_pretty`), the reader makes of these tokens the source of the value, whatever arrays
and objects are open around it (`Json.foldlM_advance`), and the source stands for the value, unless
it is nested too deeply (`Json.value?_toSource`).

The tokens come back from the values that are *whole*: they hold no floating point number, and their
numbers fit into 64 bits.  A value that is *exact* comes back itself: the names in its objects
ascend as well.
-/

namespace TemplateFill

namespace Json

open Text

/-! ### Whole and exact values -/

/-- A value whose numbers a text can hold without loss. -/
inductive IsWhole : Json → Prop
  | null : IsWhole .null
  | bool (b : Bool) : IsWhole (.bool b)
  | integer {i : Int} (h : Fits i) : IsWhole (.integer i)
  | string (s : Text) : IsWhole (.string s)
  | array {items : List Json} (h : ∀ v ∈ items, IsWhole v) : IsWhole (.array items)
  | object {members : List (Text × Json)} (h : ∀ m ∈ members, IsWhole m.2) :
      IsWhole (.object members)

/-- A value that a text can hold without loss. -/
inductive IsExact : Json → Prop
  | null : IsExact .null
  | bool (b : Bool) : IsExact (.bool b)
  | integer {i : Int} (h : Fits i) : IsExact (.integer i)
  | string (s : Text) : IsExact (.string s)
  | array {items : List Json} (h : ∀ v ∈ items, IsExact v) : IsExact (.array items)
  | object {members : List (Text × Json)} (ascending : (members.map Prod.fst).Pairwise (· < ·))
      (h : ∀ m ∈ members, IsExact m.2) : IsExact (.object members)

lemma IsExact.isWhole {v : Json} (h : v.IsExact) : v.IsWhole := by
  induction h with
  | null => exact .null
  | bool b => exact .bool b
  | integer h => exact .integer h
  | string s => exact .string s
  | array _ ih => exact .array ih
  | object _ _ ih => exact .object ih

mutual

/-- The number of arrays and objects around the innermost place of a value. -/
def depth : Json → Nat
  | .array items => itemsDepth items + 1
  | .object members => membersDepth members + 1
  | _ => 0

/-- The greatest depth of a list of items. -/
def itemsDepth : List Json → Nat
  | [] => 0
  | v :: vs => max (depth v) (itemsDepth vs)

/-- The greatest depth of a list of members. -/
def membersDepth : List (Text × Json) → Nat
  | [] => 0
  | m :: ms => max (depth m.2) (membersDepth ms)

end

/-! ### The tokens of a value -/

/-- Rows of tokens with a comma between neighbours. -/
def commas : List (List Token) → List Token
  | [] => []
  | p :: ps => p ++ ps.flatMap (Token.comma :: ·)

mutual

/-- The tokens of a value. -/
def toTokens : Json → List Token
  | .null => [.null]
  | .bool b => [.bool b]
  | .integer i => [.number (some (.integer i))]
  | .real n b => [.number (some (.real n b))]
  | .string s => [.string (some s)]
  | .array items => .openArray :: (commas (itemsToTokens items) ++ [.closeArray])
  | .object members => .openObject :: (commas (membersToTokens members) ++ [.closeObject])

/-- The tokens of the items of an array, each on its own. -/
def itemsToTokens : List Json → List (List Token)
  | [] => []
  | v :: vs => toTokens v :: itemsToTokens vs

/-- The tokens of the members of an object, each on its own. -/
def membersToTokens : List (Text × Json) → List (List Token)
  | [] => []
  | m :: ms => (.string (some m.1) :: .colon :: toTokens m.2) :: membersToTokens ms

end

mutual

/-- A value as it is written. -/
def toSource : Json → Source
  | .array items => .array (itemsToSource items)
  | .object members => .object (membersToSource members)
  | v => .atom (some v)

/-- The items of an array as they are written. -/
def itemsToSource : List Json → List Source
  | [] => []
  | v :: vs => toSource v :: itemsToSource vs

/-- The members of an object as they are written. -/
def membersToSource : List (Text × Json) → List (Option Text × Source)
  | [] => []
  | m :: ms => (some m.1, toSource m.2) :: membersToSource ms

end

lemma itemsToTokens_eq (items : List Json) : itemsToTokens items = items.map toTokens := by
  induction items with
  | nil => rfl
  | cons v vs ih => rw [itemsToTokens, ih, List.map_cons]

/-- The tokens of a member of an object. -/
def memberToTokens (m : Text × Json) : List Token := .string (some m.1) :: .colon :: toTokens m.2

lemma membersToTokens_eq (members : List (Text × Json)) :
    membersToTokens members = members.map memberToTokens := by
  induction members with
  | nil => rfl
  | cons m ms ih => rw [membersToTokens, ih, List.map_cons, memberToTokens]

lemma itemsToSource_eq (items : List Json) : itemsToSource items = items.map toSource := by
  induction items with
  | nil => rfl
  | cons v vs ih => rw [itemsToSource, ih, List.map_cons]

lemma membersToSource_eq (members : List (Text × Json)) :
    membersToSource members = members.map fun m => (some m.1, toSource m.2) := by
  induction members with
  | nil => rfl
  | cons m ms ih => rw [membersToSource, ih, List.map_cons]

/-! ### What is written spells the tokens -/

/-- Pieces that spell tokens, between brackets that are tokens and with commas and blanks between
them, spell the tokens of all. -/
lemma spells_enclosed {α : Type} {text : α → Text} {row : α → List Token} {as : List α}
    (h : ∀ a ∈ as, Spells (text a) (row a)) {opening closing : Char} {first last : Token}
    (hopening : IsSign opening first) (hclosing : IsSign closing last)
    (hstops : goesOn closing = false) {b b' : Text} (hb : ∀ c ∈ b, isSpace c = true)
    (hb' : ∀ c ∈ b', isSpace c = true) :
    Spells (opening :: (b ++ (join (',' :: b) (as.map text) ++ (b' ++ [closing]))))
      (first :: (commas (as.map row) ++ [last])) := by
  have hrest : ∀ as : List α, (∀ a ∈ as, Spells (text a) (row a)) →
      Spells ((as.map text).flatMap ((',' :: b) ++ ·)) ((as.map row).flatMap (Token.comma :: ·)) ∧
        Stops goesOn ((as.map text).flatMap ((',' :: b) ++ ·)) := by
    intro as
    induction as with
    | nil => exact fun _ => ⟨spells_nil, stops_nil⟩
    | cons a as ih =>
      intro h
      rw [List.forall_mem_cons] at h
      obtain ⟨hspells, hstops⟩ := ih h.2
      have hpiece : Spells (',' :: (b ++ text a)) (Token.comma :: row a) :=
        .cons isSign_comma (h.1.blanks hb)
      exact ⟨hpiece.append hspells hstops, stops_cons (by decide)⟩
  have hjoin : Spells (join (',' :: b) (as.map text)) (commas (as.map row)) := by
    cases as with
    | nil => exact spells_nil
    | cons a as =>
      rw [List.forall_mem_cons] at h
      obtain ⟨hspells, hstops⟩ := hrest as h.2
      rw [List.map_cons, List.map_cons, join_cons]
      exact h.1.append hspells hstops
  have hclose : Spells (b' ++ [closing]) [last] :=
    (Spells.cons hclosing spells_nil).blanks hb'
  exact .cons hopening
    ((hjoin.append hclose (stops_append (stops_blanks hb') (stops_cons hstops))).blanks hb)

/-- A member of an object spells its name, a colon and its value, with blanks behind the colon. -/
lemma spells_member {m : Text × Json} {s b : Text} (hb : ∀ c ∈ b, isSpace c = true)
    (h : Spells s m.2.toTokens) : Spells (quote m.1 ++ ':' :: (b ++ s)) (memberToTokens m) := by
  refine (spells_quote m.1).append ?_ (stops_cons (by decide))
  exact .cons isSign_colon (h.blanks hb)

/-- A whole value on one line spells its tokens. -/
theorem spells_compact {v : Json} (h : v.IsWhole) : Spells v.compact v.toTokens := by
  have hnil : ∀ c ∈ ([] : Text), isSpace c = true := by simp
  induction h with
  | null =>
    refine spells_of_read (fun c hc => ?_) fun r _ => by simp [compact, readToken]
    obtain rfl : 'n' = c := Option.some.inj hc
    decide
  | bool b =>
    refine spells_of_read (fun c hc => ?_) fun r _ => by cases b <;> simp [compact, readToken]
    cases b with
    | false =>
      obtain rfl : 'f' = c := Option.some.inj hc
      decide
    | true =>
      obtain rfl : 't' = c := Option.some.inj hc
      decide
  | integer h => exact spells_ofInt h
  | string s => exact spells_quote s
  | array _ ih =>
    rw [compact, toTokens, compactItems_eq, itemsToTokens_eq]
    exact spells_enclosed ih isSign_openArray isSign_closeArray (by decide) hnil hnil
  | object _ ih =>
    rw [compact, toTokens, compactMembers_eq, membersToTokens_eq]
    exact spells_enclosed (fun m hm => spells_member hnil (ih m hm)) isSign_openObject
      isSign_closeObject (by decide) hnil hnil

/-! ### Values over several lines -/

lemma isSpace_of_mem_newLine {level : Nat} {c : Char} (hc : c ∈ newLine level) :
    isSpace c = true := by
  rcases List.mem_cons.1 hc with rfl | hc
  · decide
  · obtain ⟨-, rfl⟩ := List.mem_replicate.1 hc
    decide

lemma prettyItems_eq (level : Nat) (items : List Json) :
    prettyItems level items = items.map (prettyAt (level + 1)) := by
  induction items with
  | nil => rfl
  | cons v vs ih => rw [prettyItems, ih, List.map_cons]

lemma prettyMembers_eq (level : Nat) (members : List (Text × Json)) :
    prettyMembers level members =
      members.map fun m => quote m.1 ++ ':' :: ([' '] ++ prettyAt (level + 1) m.2) := by
  induction members with
  | nil => rfl
  | cons m ms ih =>
    rw [prettyMembers, ih, List.map_cons, List.append_assoc]
    rfl

/-- Pieces on lines of their own spell the same as on one line. -/
lemma spells_bracketed {α : Type} {text : α → Text} {row : α → List Token} {as : List α}
    (h : ∀ a ∈ as, Spells (text a) (row a)) {opening closing : Char} {first last : Token}
    (hopening : IsSign opening first) (hclosing : IsSign closing last)
    (hstops : goesOn closing = false) (level : Nat) :
    Spells (bracketed level opening closing (as.map text))
      (first :: (commas (as.map row) ++ [last])) := by
  cases as with
  | nil => exact .cons hopening (.cons hclosing spells_nil)
  | cons a as =>
    have hline : ∀ n, ∀ c ∈ newLine n, isSpace c = true := fun _ _ => isSpace_of_mem_newLine
    have hspells := spells_enclosed h hopening hclosing hstops (hline (level + 1)) (hline level)
    simpa [bracketed] using hspells

/-- A whole value over several lines spells its tokens. -/
theorem spells_pretty {v : Json} (h : v.IsWhole) (level : Nat) :
    Spells (v.prettyAt level) v.toTokens := by
  have hspace : ∀ c ∈ [' '], isSpace c = true := List.forall_mem_singleton.2 rfl
  induction h generalizing level with
  | null => exact spells_compact .null
  | bool b => exact spells_compact (.bool b)
  | integer h => exact spells_compact (.integer h)
  | string s => exact spells_compact (.string s)
  | array _ ih =>
    rw [prettyAt, toTokens, prettyItems_eq, itemsToTokens_eq]
    exact spells_bracketed (fun v hv => ih v hv (level + 1)) isSign_openArray isSign_closeArray
      (by decide) level
  | object _ ih =>
    rw [prettyAt, toTokens, prettyMembers_eq, membersToTokens_eq]
    exact spells_bracketed (fun m hm => spells_member hspace (ih m hm (level + 1)))
      isSign_openObject isSign_closeObject (by decide) level

/-! ### What the reader makes of the tokens -/

lemma advance_string {fs : List Frame} (h : wantsValue fs = true) (s : Option Text) :
    advance (.within fs) (.string s) = place (.atom (s.map .string)) fs := by
  match fs with
  | [] => rfl
  | .arrayStart :: fs => rfl
  | .arrayItem _ :: fs => rfl
  | .objectValue _ _ :: fs => rfl

variable {fs : List Frame}

/-- After an item, a row of further ones is taken in until the array is closed. -/
lemma foldlM_advance_items {items : List Json}
    (ih : ∀ v ∈ items, ∀ fs, wantsValue fs = true →
      v.toTokens.foldlM advance (.within fs) = place v.toSource fs) (read : List Source) :
    ((items.map toTokens).flatMap (Token.comma :: ·) ++ [Token.closeArray]).foldlM advance
        (.within (.arrayNext read :: fs)) =
      place (.array (read.reverse ++ items.map toSource)) fs := by
  induction items generalizing read with
  | nil => simp [advance]
  | cons v items ih' =>
    rw [List.forall_mem_cons] at ih
    obtain ⟨hv, hitems⟩ := ih
    rw [List.map_cons, List.flatMap_cons, List.append_assoc, List.cons_append, List.foldlM_cons,
      advance, Option.bind_eq_bind, Option.bind_some, List.foldlM_append, hv _ rfl, place,
      Option.bind_eq_bind, Option.bind_some, ih' hitems]
    simp

/-- After a member, a row of further ones is taken in until the object is closed. -/
lemma foldlM_advance_members {members : List (Text × Json)}
    (ih : ∀ m ∈ members, ∀ fs, wantsValue fs = true →
      m.2.toTokens.foldlM advance (.within fs) = place m.2.toSource fs)
    (read : List (Option Text × Source)) :
    ((members.map memberToTokens).flatMap (Token.comma :: ·) ++ [Token.closeObject]).foldlM advance
        (.within (.objectNext read :: fs)) =
      place (.object (read.reverse ++ members.map fun m => (some m.1, m.2.toSource))) fs := by
  induction members generalizing read with
  | nil => simp [advance]
  | cons m members ih' =>
    rw [List.forall_mem_cons] at ih
    obtain ⟨hm, hmembers⟩ := ih
    simp only [List.map_cons, List.flatMap_cons, memberToTokens, List.append_assoc,
      List.cons_append, List.foldlM_cons, advance, Option.bind_eq_bind, Option.bind_some]
    rw [List.foldlM_append, hm _ rfl, place, Option.bind_eq_bind, Option.bind_some, ih' hmembers]
    simp

/-- Of the tokens of a value the reader makes its source, and puts it where one is wanted. -/
theorem foldlM_advance (v : Json) (fs : List Frame) (h : wantsValue fs = true) :
    v.toTokens.foldlM advance (.within fs) = place v.toSource fs := by
  induction v using induction generalizing fs with
  | null => simp [toTokens, toSource, advance]
  | bool b => simp [toTokens, toSource, advance]
  | integer i => simp [toTokens, toSource, advance]
  | real n b => simp [toTokens, toSource, advance]
  | string s => simp [toTokens, toSource, advance_string h]
  | array items ih =>
    rw [toTokens, toSource, itemsToTokens_eq, itemsToSource_eq, List.foldlM_cons, advance, if_pos h,
      Option.bind_eq_bind, Option.bind_some]
    cases items with
    | nil => simp [commas, advance]
    | cons v items =>
      rw [List.forall_mem_cons] at ih
      obtain ⟨hv, hitems⟩ := ih
      rw [List.map_cons, commas, List.append_assoc, List.foldlM_append, hv _ rfl, place,
        Option.bind_eq_bind, Option.bind_some, foldlM_advance_items hitems]
      rfl
  | object members ih =>
    rw [toTokens, toSource, membersToTokens_eq, membersToSource_eq, List.foldlM_cons, advance,
      if_pos h, Option.bind_eq_bind, Option.bind_some]
    cases members with
    | nil => simp [commas, advance]
    | cons m members =>
      rw [List.forall_mem_cons] at ih
      obtain ⟨hm, hmembers⟩ := ih
      simp only [List.map_cons, commas, memberToTokens, List.append_assoc, List.cons_append,
        List.foldlM_cons, advance, Option.bind_eq_bind, Option.bind_some]
      rw [List.foldlM_append, hm _ rfl, place, Option.bind_eq_bind, Option.bind_some,
        foldlM_advance_members hmembers]
      rfl

/-- A text that spells the tokens of a value is read as the source of the value. -/
lemma read_of_spells {s : Text} {v : Json} (h : Spells s v.toTokens) :
    Source.read s = some v.toSource := by
  have hfold := foldlM_advance v [] rfl
  rw [place] at hfold
  simp [Source.read, h.tokens_eq, hfold]

/-! ### What the source stands for -/

lemma itemsDepth_toSource {items : List Json} (h : ∀ v ∈ items, v.toSource.depth = v.depth) :
    Source.itemsDepth (itemsToSource items) = itemsDepth items := by
  induction items with
  | nil => rfl
  | cons v items ih =>
    rw [List.forall_mem_cons] at h
    rw [itemsToSource, Source.itemsDepth, itemsDepth, h.1, ih h.2]

lemma membersDepth_toSource {members : List (Text × Json)}
    (h : ∀ m ∈ members, m.2.toSource.depth = m.2.depth) :
    Source.membersDepth (membersToSource members) = membersDepth members := by
  induction members with
  | nil => rfl
  | cons m members ih =>
    rw [List.forall_mem_cons] at h
    rw [membersToSource, Source.membersDepth, membersDepth, h.1, ih h.2]

/-- The source of a value is nested as deeply as the value. -/
lemma depth_toSource (v : Json) : v.toSource.depth = v.depth := by
  induction v using induction with
  | array items ih => rw [toSource, Source.depth, depth, itemsDepth_toSource ih]
  | object members ih => rw [toSource, Source.depth, depth, membersDepth_toSource ih]
  | _ => rfl

lemma itemsToJson?_toSource {items : List Json} (h : ∀ v ∈ items, v.toSource.toJson? = some v) :
    Source.itemsToJson? (itemsToSource items) = some items := by
  induction items with
  | nil => rfl
  | cons v items ih =>
    rw [List.forall_mem_cons] at h
    simp [itemsToSource, Source.itemsToJson?, h.1, ih h.2]

lemma membersToJson?_toSource {members : List (Text × Json)}
    (h : ∀ m ∈ members, m.2.toSource.toJson? = some m.2) :
    Source.membersToJson? (membersToSource members) = some members := by
  induction members with
  | nil => rfl
  | cons m members ih =>
    rw [List.forall_mem_cons] at h
    simp [membersToSource, Source.membersToJson?, h.1, ih h.2]

/-- The source of an exact value stands for the value: the names in its objects ascend as they
are. -/
lemma toJson?_toSource {v : Json} (h : v.IsExact) : v.toSource.toJson? = some v := by
  induction h with
  | array _ ih =>
    rw [toSource, Source.toJson?, itemsToJson?_toSource ih, Option.map_some]
  | object ascending _ ih =>
    rw [toSource, Source.toJson?, membersToJson?_toSource ih, Option.map_some, sortedObject,
      sortNamed_of_ascending ascending]
  | _ => rfl

/-- The source of an exact value that is not nested too deeply stands for the value. -/
theorem value?_toSource {v : Json} (h : v.IsExact) {outer : Nat}
    (hdepth : v.depth + outer ≤ Source.deepest) : v.toSource.value? outer = some v := by
  rw [Source.value?, depth_toSource, if_pos hdepth, toJson?_toSource h]

end Json

end TemplateFill
