/-
This file settles what the variables are to an expression. An expression reads its
variables where they stand and hands their values on, and a value loses nothing by
being written down as a literal and read again. So an expression in which every
variable is replaced by the value that a store holds for it comes to what the
expression itself comes to with that store, and makes the same calls, whatever the
variables are by then.

That needs functions which are aloof: they look at no variable and write none. With
other variables they come to the same and leave those as they found them, which is one
equation for both. The operators are aloof, and so are the two functions that every
dialogue adds to them.
-/

import Parley.Proofs.Engine.Postorder
import Parley.Proofs.Library

namespace Parley

variable {Host Answer First Second : Type}

/-! ### Computations that are aloof -/

/-- A world with other variables. -/
def World.withStore (store : Store) (world : World Host) : World Host := { world with store }

namespace Act

/-- What a computation comes to, with other variables in the world that it leaves. -/
def withStore (store : Store) :
    EStateM.Result Fault (World Host) Answer → EStateM.Result Fault (World Host) Answer
  | .ok answer after => .ok answer (after.withStore store)
  | .error fault after => .error fault (after.withStore store)

/-- A computation looks at no variable and writes none. -/
def Aloof (act : Act Host Answer) : Prop :=
  ∀ world store, act (world.withStore store) = withStore store (act world)

namespace Aloof

theorem pure (answer : Answer) : (Pure.pure answer : Act Host Answer).Aloof := fun _ _ => rfl

theorem throw (fault : Fault) : (MonadExcept.throw fault : Act Host Answer).Aloof := fun _ _ => rfl

theorem bind {first : Act Host First} {next : First → Act Host Second} (begins : first.Aloof)
    (goesOn : ∀ answer, (next answer).Aloof) : (first >>= next).Aloof := by
  intro world store
  rw [bind_apply, bind_apply, begins world store]
  cases first world with
  | ok answer after => exact goesOn answer after store
  | error fault after => rfl

theorem valueOf (literal : Literal) : (Act.valueOf literal : Act Host Value).Aloof := by
  unfold Act.valueOf
  cases literal.toValue with
  | ok value => exact pure value
  | error collection => exact throw _

/-- What is aloof writes no variable. -/
theorem keeps {act : Act Host Answer} (aloof : act.Aloof) :
    act.Keeps fun before after => after.store = before.store := by
  intro world
  have same : act world = withStore world.store (act world) := aloof world world.store
  rw [after, same]
  cases act world <;> rfl

end Aloof

end Act

/-! ### Functions that are aloof -/

/-- A function of the host that looks at no variable and writes none. -/
def HostFunction.Aloof (function : HostFunction Host) : Prop :=
  ∀ running operands store other host,
    function running operands other host =
      { function running operands store host with store := other }

/-- What a function does is aloof, unless it is a function of the host that is not. -/
def Implementation.Aloof : Implementation Host → Prop
  | .host function => function.Aloof
  | _ => True

namespace Shelf

theorem aloof_runHost {function : HostFunction Host} (aloof : function.Aloof)
    (operands : List Value) : (runHost function operands).Aloof := by
  intro world store
  have answered : function (world.withStore store).executing operands
      (world.withStore store).store (world.withStore store).host =
      { function world.executing operands world.store world.host with store } :=
    aloof world.executing operands world.store store world.host
  rw [runHost_apply, runHost_apply, answered]
  dsimp only
  cases (function world.executing operands world.store world.host).result with
  | ok literal =>
    exact Act.Aloof.valueOf literal
      { world with
        store := (function world.executing operands world.store world.host).store
        host := (function world.executing operands world.store world.host).host } store
  | error fault => rfl

theorem aloof_perform {call : LibraryId → Text → List Value → Act Host Value}
    (calls : ∀ place name operands, (call place name operands).Aloof) (operands : List Value)
    {implementation : Implementation Host} (aloof : implementation.Aloof) :
    (perform call operands implementation).Aloof := by
  cases implementation with
  | operator operator => exact .pure _
  | inequality home => exact .bind (calls _ _ _) fun _ => .pure _
  | visited => exact fun _ _ => rfl
  | assertion =>
    unfold perform
    dsimp only
    split
    · exact .pure _
    · exact fun _ _ => rfl
  | forward home target => exact calls _ _ _
  | host function => exact aloof_runHost aloof operands

/-- On a shelf of aloof functions all calls are aloof. -/
theorem aloof_callWithin {shelf : Shelf Host}
    (aloof : ∀ library ∈ shelf.libraries, ∀ function ∈ library.entries,
      function.implementation.Aloof)
    (steps : Nat) (place : LibraryId) (name : Text) (operands : List Value) :
    (shelf.callWithin steps place name operands).Aloof := by
  induction steps generalizing place name operands with
  | zero => exact .throw _
  | succ steps inductionHypothesis =>
    rw [callWithin, Library.lookup]
    cases found : (shelf.library place).get? name with
    | none => exact .throw _
    | some function =>
      have member : function ∈ (shelf.library place).entries := List.mem_of_find?_eq_some found
      have here : function.implementation.Aloof := by
        rw [library] at member
        cases there : shelf.libraries[place]? with
        | none =>
          rw [there] at member
          cases member
        | some library =>
          rw [there] at member
          exact aloof library (List.mem_of_getElem? there) function member
      dsimp only
      split
      · exact .throw _
      · exact aloof_perform inductionHypothesis operands here

theorem aloof_standard {home : LibraryId} {function : Function Host}
    (standard : function ∈ (Library.standard home).entries) : function.implementation.Aloof := by
  obtain made | nothing := Roster.mem_insertAll standard
  · obtain ⟨operator, -, rfl⟩ := List.mem_map.1 made
    cases operator <;> trivial
  · cases nothing

theorem aloof_first {function : Function Host}
    (first : function ∈ Dialogue.firstLibrary.entries) : function.implementation.Aloof := by
  obtain builtin | imported := Roster.mem_insertAll first
  · simp only [Dialogue.builtins, List.mem_cons, List.not_mem_nil, or_false] at builtin
    obtain rfl | rfl := builtin <;> trivial
  · obtain standard | nothing := Roster.mem_insertAll imported
    · exact aloof_standard standard
    · cases nothing

/-- All functions of a new dialogue are aloof, and so are the calls of them. -/
theorem aloof_new (store : Store) (host : Host) (debugSink errorSink : Bool) (place : LibraryId)
    (name : Text) (operands : List Value) :
    ((Dialogue.new store host debugSink errorSink).shelf.call place name operands).Aloof := by
  refine aloof_callWithin (fun library member function => ?_) _ place name operands
  have listed : library ∈ [Library.standard 0, Dialogue.firstLibrary] := member
  simp only [List.mem_cons, List.not_mem_nil, or_false] at listed
  obtain rfl | rfl := listed
  · exact aloof_standard
  · exact aloof_first

end Shelf

/-! ### Values in the places of variables -/

namespace Expression

mutual

/-- An expression with the values of a store in the places of its variables; a variable that is not
set is null. -/
def substitute (store : Store) : Expression → Expression
  | literal written => literal written
  | read name => literal (.ofValue ((store.find? name).getD .null))
  | call function operands => call function (substituteAll store operands)
  | foreign => foreign

/-- Expressions with the values of a store in the places of their variables. -/
def substituteAll (store : Store) : List Expression → List Expression
  | [] => []
  | expression :: rest => substitute store expression :: substituteAll store rest

end

mutual

/-- The variables that occur in an expression, from left to right. -/
def reads : Expression → List Text
  | read name => [name]
  | call _ operands => readsAll operands
  | _ => []

/-- The variables that occur in expressions. -/
def readsAll : List Expression → List Text
  | [] => []
  | expression :: rest => reads expression ++ readsAll rest

end

/-- Two stores have the same values for some variables; what is not set is null. -/
def AgreeOn (names : List Text) (first second : Store) : Prop :=
  ∀ name ∈ names, (first.find? name).getD .null = (second.find? name).getD .null

mutual

/-- Stores that agree on the variables of an expression put the same values in their places. -/
theorem substitute_congr {first second : Store} :
    ∀ expression : Expression, AgreeOn expression.reads first second →
      expression.substitute first = expression.substitute second
  | .literal _, _ | .foreign, _ => rfl
  | .read name, agree => by
    rw [substitute, substitute, agree name (List.mem_singleton_self name)]
  | .call function operands, agree => by
    rw [substitute, substitute, substituteAll_congr operands agree]

theorem substituteAll_congr {first second : Store} :
    ∀ expressions : List Expression, AgreeOn (readsAll expressions) first second →
      substituteAll first expressions = substituteAll second expressions
  | [], _ => rfl
  | expression :: rest, agree => by
    have here : AgreeOn expression.reads first second := fun name member =>
      agree name (List.mem_append_left _ member)
    have behind : AgreeOn (readsAll rest) first second := fun name member =>
      agree name (List.mem_append_right _ member)
    rw [substituteAll, substituteAll, substitute_congr expression here,
      substituteAll_congr rest behind]

end

end Expression

/-- A value that is written as a literal is the value of the literal. -/
theorem Literal.toValue_ofValue (value : Value) : (ofValue value).toValue = .ok value := by
  cases value <;> rfl

namespace Engine

section

variable {One Other : Type} {call : Text → List Value → Act One Value}
  {call' : Text → List Value → Act Other Value} {relation : World One → World Other → Prop}
  {store : Store}

mutual

/-- Wherever an expression finds the variables of a store, it goes along with the expression that
has their values in their places. -/
theorem alike_substitute (holds : ∀ {one other}, relation one other → one.store = store)
    (calls : ∀ name operands, Act.Alike relation (call name operands) (call' name operands)) :
    ∀ expression : Expression,
      Act.Alike relation (evaluate call expression) (evaluate call' (expression.substitute store))
  | .literal written => .valueOf written
  | .read name => fun one other related => by
    have written : evaluate call' (Expression.substitute store (.read name)) other =
        .ok ((store.find? name).getD .null) other := by
      rw [Expression.substitute, evaluate, Act.valueOf, Literal.toValue_ofValue]
      rfl
    have read : evaluate call (.read name) one = .ok ((one.store.find? name).getD .null) one := rfl
    rw [written, read, holds related]
    exact .ok _ related
  | .call function operands =>
    .bind (alike_substituteAll holds calls operands) fun _ => calls _ _
  | .foreign => .throw _

theorem alike_substituteAll (holds : ∀ {one other}, relation one other → one.store = store)
    (calls : ∀ name operands, Act.Alike relation (call name operands) (call' name operands)) :
    ∀ expressions : List Expression,
      Act.Alike relation (evaluateAll call expressions)
        (evaluateAll call' (Expression.substituteAll store expressions))
  | [] => .pure _
  | expression :: rest =>
    .bind (alike_substitute holds calls expression) fun _ =>
      .bind (alike_substituteAll holds calls rest) fun _ => .pure _

end

end

/-! ### Evaluations that go alike -/

/-- A call that is made, with other variables in the world in which it is made. -/
def Invocation.withStore (store : Store) (invocation : Invocation Host) : Invocation Host :=
  { invocation with world := invocation.world.withStore store }

/-- One world has the variables of one store, and the other differs from it in those of another. -/
def Restocked (first second : Store) (one other : World Host) : Prop :=
  one.store = first ∧ other = one.withStore second

/-- So it is with two worlds whose hosts keep a record of the calls, and with the calls. -/
def RestockedRecords (first second : Store)
    (one other : World (Host × List (Invocation Host))) : Prop :=
  Restocked first second one.bare other.bare ∧
    other.host.2 = one.host.2.map (Invocation.withStore second)

/-- A world has the variables of a store, and is compared with itself. -/
def Holding {One : Type} (store : Store) (one other : World One) : Prop :=
  one.store = store ∧ one = other

/-- What writes no variable can be compared with itself as long as the variables are those of one
store. -/
theorem alike_holding {One Answer : Type} {act : Act One Answer}
    (keeps : act.Keeps fun before after => after.store = before.store) (store : Store) :
    Act.Alike (Holding store) act act := by
  rintro one _ ⟨rfl, rfl⟩
  cases done : act one with
  | ok answer after => exact .ok answer ⟨keeps.of_ok done, rfl⟩
  | error fault after => exact .error fault ⟨keeps.of_error done, rfl⟩

variable {call : Text → List Value → Act Host Value}
  (aloof : ∀ name operands, (call name operands).Aloof) (first second : Store)

include aloof

theorem alike_restocked (name : Text) (operands : List Value) :
    Act.Alike (Restocked first second) (call name operands) (call name operands) := by
  rintro one _ ⟨rfl, rfl⟩
  rw [aloof name operands one second]
  cases done : call name operands one with
  | ok value after => exact .ok value ⟨(aloof name operands).keeps.of_ok done, rfl⟩
  | error fault after => exact .error fault ⟨(aloof name operands).keeps.of_error done, rfl⟩

theorem alike_restockedRecords (name : Text) (operands : List Value) :
    Act.Alike (RestockedRecords first second) (watch call noted name operands)
      (watch call noted name operands) := by
  rintro one other ⟨restocked, records⟩
  have agree := alike_restocked aloof first second name operands one.bare other.bare restocked
  have noted' : other.host.2 ++ noted name operands other.bare =
      (one.host.2 ++ noted name operands one.bare).map (Invocation.withStore second) := by
    rw [List.map_append, records, restocked.2]
    rfl
  unfold watch
  generalize call name operands one.bare = result at agree ⊢
  generalize call name operands other.bare = result' at agree ⊢
  cases agree with
  | ok value related => exact .ok value ⟨related, noted'⟩
  | error fault related => exact .error fault ⟨related, noted'⟩

/-- With the variables of its world written in their places, an expression comes to the same
whatever the variables are. -/
theorem evaluate_withStore (expression : Expression) (world : World Host) :
    evaluate call (expression.substitute world.store) (world.withStore second) =
      Act.withStore second (evaluate call expression world) := by
  have agree := alike_substitute (fun related => related.1)
    (alike_restocked aloof world.store second) expression world _ ⟨rfl, rfl⟩
  generalize evaluate call expression world = result at agree ⊢
  generalize evaluate call _ _ = result' at agree ⊢
  cases agree with
  | ok value related => exact congrArg _ related.2
  | error fault related => exact congrArg _ related.2

/-- So do the calls that it makes. -/
theorem invoked_withStore (expression : Expression) (world : World Host) :
    invoked call (expression.substitute world.store) (world.withStore second) =
      (invoked call expression world).map (Invocation.withStore second) := by
  have agree := alike_substitute (fun related => related.1.1)
    (alike_restockedRecords aloof world.store second) expression (world.recording [])
    ((world.withStore second).recording []) ⟨⟨rfl, rfl⟩, rfl⟩
  exact agree.after.2

/-- With the variables of its world written in their places, an expression comes to what it comes to
without. -/
theorem evaluate_inPlace (expression : Expression) (world : World Host) :
    evaluate call (expression.substitute world.store) world = evaluate call expression world := by
  have agree := alike_substitute (fun related => related.1)
    (fun name operands => alike_holding (aloof name operands).keeps world.store) expression
    world world ⟨rfl, rfl⟩
  generalize evaluate call expression world = result at agree ⊢
  generalize evaluate call _ _ = result' at agree ⊢
  cases agree with
  | ok value related => exact congrArg _ related.2.symm
  | error fault related => exact congrArg _ related.2.symm

/-- So do the calls that it makes. -/
theorem invoked_inPlace (expression : Expression) (world : World Host) :
    invoked call (expression.substitute world.store) world = invoked call expression world := by
  have keeps (name : Text) (operands : List Value) :
      (watch call noted name operands).Keeps fun before after => after.store = before.store := by
    intro watched
    unfold Act.after watch
    cases done : call name operands watched.bare with
    | ok value after => exact (aloof name operands).keeps.of_ok done
    | error fault after => exact (aloof name operands).keeps.of_error done
  have agree := alike_substitute (fun related => related.1)
    (fun name operands => alike_holding (keeps name operands) world.store) expression
    (world.recording []) (world.recording []) ⟨rfl, rfl⟩
  exact congrArg (fun left => left.host.2) agree.after.2.symm

end Engine

namespace Shelf

/-- A library whose functions are aloof has none under any name that is not. -/
theorem aloof_call {shelf : Shelf Host} {place : LibraryId}
    (aloof : ∀ function ∈ (shelf.library place).entries, ∀ operands,
      (shelf.call place function.name operands).Aloof) (name : Text) (operands : List Value) :
    (shelf.call place name operands).Aloof := by
  cases found : (shelf.library place).get? name with
  | none =>
    rw [call, callWithin, Library.lookup, found]
    exact .throw _
  | some function =>
    obtain ⟨member, rfl⟩ := Roster.get?_eq_some_iff.1 found
    exact aloof function member operands

/-- Variables are to an expression no more than their values. Take any library whose functions look
at no variable and write none, any expression and any world. With the values that the world holds
for its variables in their places, the expression comes to the same value or the same fault with any
other variables, makes the same calls with the same operands, and leaves the same world but for the
variables. So other variables make no difference if they agree on those that occur in the
expression. -/
theorem evaluate_substitute {shelf : Shelf Host} {place : LibraryId}
    (aloof : ∀ function ∈ (shelf.library place).entries, ∀ operands,
      (shelf.call place function.name operands).Aloof)
    (expression : Expression) (world : World Host) (other : Store) :
    Engine.evaluate (shelf.call place) (expression.substitute world.store)
        (world.withStore other) =
      Act.withStore other (Engine.evaluate (shelf.call place) expression world) ∧
    Engine.invoked (shelf.call place) (expression.substitute world.store) (world.withStore other) =
      (Engine.invoked (shelf.call place) expression world).map
        (Engine.Invocation.withStore other) ∧
    (Expression.AgreeOn expression.reads world.store other →
      Engine.evaluate (shelf.call place) expression (world.withStore other) =
          Act.withStore other (Engine.evaluate (shelf.call place) expression world) ∧
        Engine.invoked (shelf.call place) expression (world.withStore other) =
          (Engine.invoked (shelf.call place) expression world).map
            (Engine.Invocation.withStore other)) := by
  have evaluated := Engine.evaluate_withStore (aloof_call aloof) other expression
  have invoked := Engine.invoked_withStore (aloof_call aloof) other expression
  refine ⟨evaluated world, invoked world, fun agree => ?_⟩
  have same := Expression.substitute_congr expression agree
  have evaluatedInPlace := Engine.evaluate_inPlace (aloof_call aloof) expression
    (world.withStore other)
  have invokedInPlace := Engine.invoked_inPlace (aloof_call aloof) expression
    (world.withStore other)
  constructor
  · calc
      Engine.evaluate (shelf.call place) expression (world.withStore other) =
          Engine.evaluate (shelf.call place) (expression.substitute other)
            (world.withStore other) := evaluatedInPlace.symm
      _ = Act.withStore other (Engine.evaluate (shelf.call place) expression world) := by
        rw [← same, evaluated world]
  · calc
      Engine.invoked (shelf.call place) expression (world.withStore other) =
          Engine.invoked (shelf.call place) (expression.substitute other)
            (world.withStore other) := invokedInPlace.symm
      _ = (Engine.invoked (shelf.call place) expression world).map
          (Engine.Invocation.withStore other) := by
        rw [← same, invoked world]

/-- Where the guest is Ada, asking for the guest is asking for Ada, also when there is no guest any
more. -/
theorem evaluate_substitute_guest :
    Engine.evaluate ((Dialogue.new Roster.empty () true true).shelf.call Dialogue.home)
        (.call "EqualTo" [.literal (.string "Ada"), .literal (.string "Ada")])
        { store := Roster.empty, host := () } =
      .ok (.bool true) { store := Roster.empty, host := () } := by
  have substituted := (evaluate_substitute
    (fun function _ operands => aloof_new Roster.empty () true true Dialogue.home function.name
      operands)
    (.call "EqualTo" [.read "$guest", .literal (.string "Ada")])
    { store := Ledger.put Roster.empty "$guest" (.string "Ada"), host := () } Roster.empty).1
  exact substituted.trans (by rfl)

end Shelf

end Parley
