/-
What holds of every document that a text can be. A property that documents inherit from
their parts is kept by the reader: it holds of all that is still open and of all that is
handed on, however far the reader has come, if it holds of the tokens.

The reader writes the members of an object by their keys, so that of two members of one key
the later one counts, and an object is finished only when it is handed on. So of a finished
object it may be taken for granted that its keys are distinct.
-/

import Parley.Json.Reader
import Parley.Proofs.Roster
import Parley.Proofs.Rows

namespace Parley.Json

variable {holds : Json → Prop} {named : Text → Prop}

/-- Members with distinct keys, of which one thing holds, and values, of which another does. -/
structure Members (holds : Json → Prop) (named : Text → Prop) (members : List (Text × Json)) :
    Prop where
  distinct : (members.map Prod.fst).Nodup
  keys : ∀ member ∈ members, named member.1
  each : ∀ member ∈ members, holds member.2

/-- What a document inherits from its text, its items or its members. -/
structure Inherited (holds : Json → Prop) (named : Text → Prop) : Prop where
  string : ∀ text, named text → holds (.string text)
  array : ∀ items, (∀ item ∈ items, holds item) → holds (.array items)
  object : ∀ members, Members holds named members → holds (.object members)

theorem Members.nil : Members holds named [] :=
  ⟨List.nodup_nil, List.forall_mem_nil _, List.forall_mem_nil _⟩

theorem Members.upsert {members : List (Text × Json)} (opened : Members holds named members)
    {key : Text} (keyed : named key) {document : Json} (held : holds document) :
    Members holds named (upsert Prod.fst (key, document) members) where
  distinct := nodup_map_upsert Prod.fst (key, document) opened.distinct
  keys member among := by
    obtain rfl | before := mem_upsert among
    · exact keyed
    · exact opened.keys member before
  each member among := by
    obtain rfl | before := mem_upsert among
    · exact held
    · exact opened.each member before

/-! ### Tokens -/

/-- It holds of what a token is. -/
def Token.Holds (holds : Json → Prop) (named : Text → Prop) : Token → Prop
  | .scalar document => holds document
  | .key text => named text
  | _ => True

/-- It holds of all tokens if it holds of those outside of strings, and of the strings. -/
theorem holds_tokens (plain : ∀ char rest, (plainToken char rest).1.Holds holds named)
    (strings : ∀ symbols, named ⟨joinHalves symbols⟩) (index : Nat) (text : List Char) :
    ∀ located ∈ tokens index text, located.token.Holds holds named := by
  fun_induction tokens index text with
  | case1 index => exact List.forall_mem_singleton.2 trivial
  | case2 index char rest gap ih => exact ih
  | case3 index rest symbols next tail found gap ih =>
    exact List.forall_mem_cons.2 ⟨strings symbols, ih⟩
  | case4 index rest fault found gap => exact List.forall_mem_singleton.2 trivial
  | case5 index char rest gap quote token more found ih =>
    have here := plain char rest
    rw [found] at here
    exact List.forall_mem_cons.2 ⟨here, ih⟩

/-! ### Readings -/

/-- It holds of what is still open. -/
def Frame.Holds (holds : Json → Prop) (named : Text → Prop) : Frame → Prop
  | .array items => ∀ item ∈ items, holds item
  | .object members => Members holds named members
  | .member members key => Members holds named members ∧ named key

/-- It holds of all that was read. -/
structure Reading.Holds (holds : Json → Prop) (named : Text → Prop) (reading : Reading) : Prop where
  frames : ∀ frame ∈ reading.frames, frame.Holds holds named
  ending : ∀ document, reading.waiting = .ending document → holds document

namespace Reading

variable {frames : List Frame}

theorem holds_deliver (opened : ∀ frame ∈ frames, frame.Holds holds named) {document : Json}
    (held : holds document) : (deliver frames document).Holds holds named := by
  cases frames with
  | nil =>
    refine ⟨opened, ?_⟩
    rintro _ ⟨⟩
    exact held
  | cons frame outer =>
    obtain ⟨here, others⟩ := List.forall_mem_cons.1 opened
    cases frame with
    | array items =>
      exact ⟨List.forall_mem_cons.2 ⟨List.forall_mem_cons.2 ⟨held, here⟩, others⟩, nofun⟩
    | object members => exact ⟨opened, nofun⟩
    | member members key =>
      exact ⟨List.forall_mem_cons.2 ⟨Members.upsert here.1 here.2 held, others⟩, nofun⟩

section

variable (inherited : Inherited holds named)
include inherited

theorem holds_takeValue (opened : ∀ frame ∈ frames, frame.Holds holds named) {index : Nat}
    {token : Token} (held : token.Holds holds named) {after : Reading}
    (taken : takeValue frames index token = .ok after) : after.Holds holds named := by
  cases token with
  | scalar document =>
    cases taken
    exact holds_deliver opened held
  | key text =>
    cases taken
    exact holds_deliver opened (inherited.string text held)
  | beginArray =>
    cases taken
    exact ⟨List.forall_mem_cons.2 ⟨List.forall_mem_nil _, opened⟩, nofun⟩
  | beginObject =>
    cases taken
    exact ⟨List.forall_mem_cons.2 ⟨Members.nil, opened⟩, nofun⟩
  | _ => cases taken

omit inherited in
theorem holds_takeKey (opened : ∀ frame ∈ frames, frame.Holds holds named) {index : Nat}
    {token : Token} (held : token.Holds holds named) {after : Reading}
    (taken : takeKey frames index token = .ok after) : after.Holds holds named := by
  rw [takeKey.eq_def] at taken
  split at taken
  · next text members outer =>
    cases taken
    obtain ⟨here, others⟩ := List.forall_mem_cons.1 opened
    exact ⟨List.forall_mem_cons.2 ⟨⟨here, held⟩, others⟩, nofun⟩
  · cases taken
  · cases taken

theorem holds_take {reading after : Reading} (all : reading.Holds holds named) {located : Located}
    (held : located.token.Holds holds named) (taken : reading.take located = .ok after) :
    after.Holds holds named := by
  obtain ⟨opened, ending⟩ := all
  obtain ⟨frames, waiting⟩ := reading
  obtain ⟨index, token⟩ := located
  rw [take.eq_def] at taken
  dsimp only at taken opened ending held
  have handed {items : List Json} {outer : List Frame}
      (opened : ∀ frame ∈ .array items :: outer, frame.Holds holds named) :
      (deliver outer (.array items.reverse)).Holds holds named := by
    obtain ⟨here, others⟩ := List.forall_mem_cons.1 opened
    exact holds_deliver others
      (inherited.array _ fun item member => here item (List.mem_reverse.1 member))
  have handedOn {members : List (Text × Json)} {outer : List Frame}
      (opened : ∀ frame ∈ .object members :: outer, frame.Holds holds named) :
      (deliver outer (.object members)).Holds holds named := by
    obtain ⟨here, others⟩ := List.forall_mem_cons.1 opened
    exact holds_deliver others (inherited.object members here)
  split at taken
  -- The end of an array hands on its items, the end of an object its members.
  next items outer =>
    cases taken
    exact handed opened
  next => exact holds_takeValue inherited opened held taken
  next => exact holds_takeValue inherited opened held taken
  next members outer =>
    cases taken
    exact handedOn opened
  next => exact holds_takeKey opened held taken
  next => exact holds_takeKey opened held taken
  next =>
    cases taken
    exact ⟨opened, nofun⟩
  next => cases taken
  next items outer =>
    cases taken
    exact ⟨opened, nofun⟩
  next members outer =>
    cases taken
    exact ⟨opened, nofun⟩
  next items outer =>
    cases taken
    exact handed opened
  next members outer =>
    cases taken
    exact handedOn opened
  next => cases taken
  next document =>
    cases taken
    refine ⟨List.forall_mem_nil _, ?_⟩
    rintro _ ⟨⟩
    exact ending document rfl
  next => cases taken

end

end Reading

/-- What documents inherit, and holds of the tokens, holds of what a text is read as. -/
theorem Inherited.of_read (inherited : Inherited holds named)
    (plain : ∀ char rest, (plainToken char rest).1.Holds holds named)
    (strings : ∀ symbols, named ⟨joinHalves symbols⟩) {text : List Char} {document : Json}
    (done : read text = .ok document) : holds document := by
  rw [read.eq_def] at done
  split at done
  · cases done
  · rw [ofTokens] at done
    cases taken : (tokens 0 text).foldlM Reading.take Reading.start with
    | error fault =>
      rw [taken] at done
      cases done
    | ok final =>
      have held := holds_tokens plain strings 0 text
      have start : Reading.start.Holds holds named := ⟨List.forall_mem_nil _, nofun⟩
      have all := foldlM_keeps (fun located among _ _ before stepped =>
        Reading.holds_take inherited before (held located among) stepped) start taken
      rw [taken] at done
      obtain ⟨frames, waiting⟩ := final
      cases waiting with
      | ending last =>
        cases done
        exact all.ending document rfl
      | _ => cases done

end Parley.Json
