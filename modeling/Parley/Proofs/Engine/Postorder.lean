/-
This file says in which order an expression is evaluated. Written in post-order, an
expression is a list of stations: a literal to be taken, a variable to be read, or a
function to be called with some number of operands. Evaluating the expression is passing
its stations one after the other, with the values that nothing has taken yet on a stack.
No station is passed over, whatever the functions are; so the calls that are made, and
what each of them is handed, can be read off the stations.

A station is passed in the world that the stations before it have left. So a variable has
the value that the earlier calls have given it, and where a station fails, nothing behind
it has been done.
-/

import Parley.Proofs.Engine.Positions

namespace Parley

variable {Host : Type}

/-! ### Stations -/

/-- A station of an expression that is written in post-order. A call holds the number of its
operands, which stand before it. -/
inductive Station where
  | literal (written : Literal)
  | read (name : Text)
  | call (function : Text) (count : Nat)
  | foreign

/-- The function that a station calls, if it calls one. -/
def Station.function? : Station → Option Text
  | .call function _ => some function
  | _ => none

/-- The functions that stations call, in order. -/
def Station.functions (stations : List Station) : List Text := stations.filterMap Station.function?

theorem Station.functions_append (first second : List Station) :
    functions (first ++ second) = functions first ++ functions second :=
  List.filterMap_append

namespace Expression

mutual

/-- An expression in post-order. -/
def stations : Expression → List Station
  | literal written => [.literal written]
  | read name => [.read name]
  | call function operands => stationsAll operands ++ [.call function operands.length]
  | foreign => [.foreign]

/-- Expressions in post-order, from left to right. -/
def stationsAll : List Expression → List Station
  | [] => []
  | expression :: rest => stations expression ++ stationsAll rest

end

/-- A call that stands in an expression: the stations before those of its operands, and those behind
it. -/
structure Occurrence (expression : Expression) where
  before : List Station
  function : Text
  operands : List Expression
  behind : List Station
  stations_eq : expression.stations =
    before ++ (stationsAll operands ++ .call function operands.length :: behind)

/-- The number of calls that stand before a call in post-order. -/
def Occurrence.number {expression : Expression} (occurrence : expression.Occurrence) : Nat :=
  (Station.functions (occurrence.before ++ stationsAll occurrence.operands)).length

mutual

/-- What stands before a call ends with its operands. -/
theorem exists_operands (expression : Expression) {passed behind : List Station} {function : Text}
    {count : Nat} (split : expression.stations = passed ++ .call function count :: behind) :
    ∃ before operands, passed = before ++ stationsAll operands ∧ count = operands.length := by
  have member : Station.call function count ∈ expression.stations := by
    rw [split]
    exact List.mem_append_right _ List.mem_cons_self
  cases expression with
  | literal written => cases List.mem_singleton.1 member
  | read name => cases List.mem_singleton.1 member
  | foreign => cases List.mem_singleton.1 member
  | call own operands =>
    rw [stations] at split
    rcases List.eq_nil_or_concat' behind with rfl | ⟨behind, last, rfl⟩
    · -- It is the call itself.
      obtain ⟨rfl, same⟩ := List.append_inj' split rfl
      cases same
      exact ⟨[], operands, rfl, rfl⟩
    · rw [← List.cons_append, ← List.append_assoc] at split
      exact exists_operandsAll operands (List.append_inj' split rfl).1

theorem exists_operandsAll (expressions : List Expression) {passed behind : List Station}
    {function : Text} {count : Nat}
    (split : stationsAll expressions = passed ++ .call function count :: behind) :
    ∃ before operands, passed = before ++ stationsAll operands ∧ count = operands.length := by
  cases expressions with
  | nil => simp [stationsAll] at split
  | cons expression rest =>
    have later {between : List Station}
        (split : stationsAll rest = between ++ .call function count :: behind) :
        ∃ before operands, expression.stations ++ between = before ++ stationsAll operands ∧
          count = operands.length := by
      obtain ⟨before, operands, rfl, counted⟩ := exists_operandsAll rest split
      exact ⟨expression.stations ++ before, operands, (List.append_assoc _ _ _).symm, counted⟩
    rw [stationsAll] at split
    rcases List.append_eq_append_iff.1 split with ⟨between, rfl, others⟩ | ⟨between, own, others⟩
    · exact later others
    · rcases between with _ | ⟨station, between⟩
      · rw [List.append_nil] at own
        have found := @later [] others.symm
        rwa [List.append_nil, own] at found
      · cases others
        exact exists_operands expression own

end

end Expression

namespace Engine

variable (call : Text → List Value → Act Host Value)

/-! ### Passing stations -/

/-- Passes a station: takes the operands of a call off the stack, and puts the value on it. The
latest value comes first. -/
def pass : Station → List Value → Act Host (List Value)
  | .literal written, stack => do
    let value ← Act.valueOf written
    return value :: stack
  | .read name, stack => do
    let world ← get
    return (world.store.find? name).getD .null :: stack
  | .call function count, stack => do
    let value ← call function (stack.take count).reverse
    return value :: stack.drop count
  | .foreign, _ => throw .unknownExpression

/-- Passes stations one after the other. -/
def passAll : List Station → List Value → Act Host (List Value)
  | [], stack => return stack
  | station :: rest, stack => do
    let stack ← pass call station stack
    passAll rest stack

theorem passAll_append (first second : List Station) (stack : List Value) :
    passAll call (first ++ second) stack = passAll call first stack >>= passAll call second := by
  induction first generalizing stack with
  | nil => rfl
  | cons station rest inductionHypothesis =>
    simp only [List.cons_append, passAll, inductionHypothesis, bind_assoc]

/-- There is one value for each expression. -/
theorem length_evaluateAll {expressions : List Expression} {values : List Value}
    {world after : World Host} (done : evaluateAll call expressions world = .ok values after) :
    values.length = expressions.length := by
  induction expressions generalizing values world with
  | nil =>
    cases done
    rfl
  | cons expression rest inductionHypothesis =>
    rw [evaluateAll] at done
    obtain ⟨value, between, _, done⟩ := bind_eq_ok done
    obtain ⟨others, final, found, done⟩ := bind_eq_ok done
    cases done
    rw [List.length_cons, List.length_cons, inductionHypothesis found]

mutual

/-- Passing the stations of an expression is evaluating it. -/
theorem passAll_stations (expression : Expression) (stack : List Value) :
    passAll call expression.stations stack = do
      let value ← evaluate call expression
      return value :: stack := by
  cases expression with
  | literal written => simp only [Expression.stations, passAll, pass, evaluate, bind_pure]
  | read name =>
    simp only [Expression.stations, passAll, pass, evaluate, bind_pure, bind_assoc, pure_bind]
  | foreign =>
    funext world
    rfl
  | call function operands =>
    rw [Expression.stations, passAll_append, passAll_stationsAll, evaluate]
    funext world
    simp only [bind_assoc, pure_bind]
    rw [bind_apply, bind_apply]
    cases done : evaluateAll call operands world with
    | error fault after => rfl
    | ok values after =>
      have counted : operands.length = values.reverse.length := by
        rw [List.length_reverse, length_evaluateAll call done]
      dsimp only
      rw [passAll, pass, counted, List.take_left, List.drop_left, List.reverse_reverse]
      simp only [passAll, bind_pure]

/-- Passing the stations of expressions leaves all their values, the last one on top. -/
theorem passAll_stationsAll (expressions : List Expression) (stack : List Value) :
    passAll call (Expression.stationsAll expressions) stack = do
      let values ← evaluateAll call expressions
      return values.reverse ++ stack := by
  cases expressions with
  | nil => rfl
  | cons expression rest =>
    rw [Expression.stationsAll, passAll_append, passAll_stations expression, evaluateAll]
    simp only [bind_assoc, pure_bind, passAll_stationsAll rest, List.reverse_cons,
      List.append_assoc, List.singleton_append]

end

/-- Stations that cannot all be passed fail at the first that cannot. -/
theorem passAll_eq_error {stations : List Station} {stack : List Value} {world after : World Host}
    {fault : Fault} (fails : passAll call stations stack world = .error fault after) :
    ∃ passed station behind below between, stations = passed ++ station :: behind ∧
      passAll call passed stack world = .ok below between ∧
      pass call station below between = .error fault after := by
  induction stations generalizing stack world with
  | nil => cases fails
  | cons station rest inductionHypothesis =>
    rw [passAll, bind_apply] at fails
    cases first : pass call station stack world with
    | error fault' after' =>
      rw [first] at fails
      cases fails
      exact ⟨[], station, rest, stack, world, rfl, rfl, first⟩
    | ok stack' world' =>
      rw [first] at fails
      obtain ⟨passed, next, behind, below, between, rfl, before, here⟩ := inductionHypothesis fails
      refine ⟨station :: passed, next, behind, below, between, rfl, ?_, here⟩
      rw [passAll, bind_apply, first]
      exact before

/-! ### Invocations -/

/-- A call that is made: the function, its operands, and the world in which it is called. -/
structure Invocation (Host : Type) where
  function : Text
  operands : List Value
  world : World Host

/-- The call that is made at a station, if one is. -/
def invocation? (stack : List Value) (world : World Host) : Station → Option (Invocation Host)
  | .call function count => some ⟨function, (stack.take count).reverse, world⟩
  | _ => none

/-- The calls that are made when stations are passed, in order; none is made behind a fault. -/
def invocations : List Station → List Value → World Host → List (Invocation Host)
  | [], _, _ => []
  | station :: rest, stack, world =>
    (invocation? stack world station).toList ++
      match pass call station stack world with
      | .ok stack after => invocations rest stack after
      | .error _ _ => []

theorem invocations_append (first second : List Station) (stack : List Value) (world : World Host) :
    invocations call (first ++ second) stack world =
      invocations call first stack world ++
        match passAll call first stack world with
        | .ok stack after => invocations call second stack after
        | .error _ _ => [] := by
  induction first generalizing stack world with
  | nil => rfl
  | cons station rest inductionHypothesis =>
    rw [List.cons_append, invocations, invocations, passAll, bind_apply, List.append_assoc]
    cases pass call station stack world with
    | ok stack after => exact congrArg _ (inductionHypothesis stack after)
    | error fault after => rfl

theorem functions_invocation? (stack : List Value) (world : World Host) (station : Station) :
    (invocation? stack world station).toList.map Invocation.function =
      Station.functions [station] := by
  cases station <;> rfl

theorem length_invocation? (stack : List Value) (world : World Host) (station : Station) :
    (invocation? stack world station).toList.length = (Station.functions [station]).length := by
  rw [← functions_invocation? stack world, List.length_map]

/-- Stations that are all passed make one call for each of those that are calls. -/
theorem functions_invocations {stations : List Station} {stack final : List Value}
    {world after : World Host} (passed : passAll call stations stack world = .ok final after) :
    (invocations call stations stack world).map Invocation.function =
      Station.functions stations := by
  induction stations generalizing stack world with
  | nil => rfl
  | cons station rest inductionHypothesis =>
    obtain ⟨stack', world', first, passed⟩ := bind_eq_ok passed
    rw [invocations, first, List.map_append, functions_invocation?, inductionHypothesis passed]
    exact (Station.functions_append [station] rest).symm

/-- A call that is made is made at one of the stations, with the values that stand on top of the
stack there. -/
theorem getElem?_invocations {stations : List Station} {stack : List Value} {world : World Host}
    {index : Nat} {invocation : Invocation Host}
    (found : (invocations call stations stack world)[index]? = some invocation) :
    ∃ passed count behind below, stations = passed ++ .call invocation.function count :: behind ∧
      passAll call passed stack world = .ok below invocation.world ∧
      invocation.operands = (below.take count).reverse ∧
      (Station.functions passed).length = index := by
  induction stations generalizing stack world index with
  | nil => cases found
  | cons station rest inductionHypothesis =>
    rw [invocations] at found
    by_cases early : index < (invocation? stack world station).toList.length
    · rw [List.getElem?_append_left early] at found
      cases station with
      | call function count =>
        obtain rfl : index = 0 := Nat.lt_one_iff.1 early
        cases found
        exact ⟨[], count, rest, stack, rfl, rfl, rfl, rfl⟩
      | _ => cases early
    · rw [List.getElem?_append_right (Nat.not_lt.1 early)] at found
      cases first : pass call station stack world with
      | error fault after =>
        rw [first] at found
        cases found
      | ok stack' world' =>
        rw [first] at found
        obtain ⟨passed, count, behind, below, rfl, before, operands, counted⟩ :=
          inductionHypothesis found
        refine ⟨station :: passed, count, behind, below, rfl, ?_, operands, ?_⟩
        · rw [passAll, bind_apply, first]
          exact before
        · rw [length_invocation?] at early counted
          rw [← List.singleton_append, Station.functions_append, List.length_append, counted]
          omega

/-! ### The calls of an evaluation -/

/-- Writes down a call. -/
def noted : Text → List Value → World Host → List (Invocation Host) :=
  fun function operands world => [⟨function, operands, world⟩]

/-- The calls that the evaluation of an expression makes, as a host that keeps a record of them has
written them down. -/
def invoked (expression : Expression) (world : World Host) : List (Invocation Host) :=
  ((evaluate (watch call noted) expression).after (world.recording [])).host.2

theorem pass_watch (station : Station) (stack : List Value) (world : World Host)
    (record : List (Invocation Host)) :
    pass (watch call noted) station stack (world.recording record) =
      match pass call station stack world with
      | .ok stack' after =>
        .ok stack' (after.recording (record ++ (invocation? stack world station).toList))
      | .error fault after =>
        .error fault (after.recording (record ++ (invocation? stack world station).toList)) := by
  cases station with
  | literal written =>
    simp only [invocation?, Option.toList_none, List.append_nil]
    rw [pass, pass, bind_apply, bind_apply, Act.valueOf, Act.valueOf]
    cases written.toValue <;> rfl
  | read name =>
    simp only [invocation?, Option.toList_none, List.append_nil]
    rfl
  | call function count =>
    have bare : (world.recording record).bare = world := rfl
    rw [pass, pass, bind_apply, bind_apply, watch, bare]
    cases call function (stack.take count).reverse world <;> rfl
  | foreign =>
    simp only [invocation?, Option.toList_none, List.append_nil]
    rfl

theorem passAll_watch (stations : List Station) (stack : List Value) (world : World Host)
    (record : List (Invocation Host)) :
    passAll (watch call noted) stations stack (world.recording record) =
      match passAll call stations stack world with
      | .ok stack' after =>
        .ok stack' (after.recording (record ++ invocations call stations stack world))
      | .error fault after =>
        .error fault (after.recording (record ++ invocations call stations stack world)) := by
  induction stations generalizing stack world record with
  | nil =>
    rw [invocations, List.append_nil]
    rfl
  | cons station rest inductionHypothesis =>
    rw [passAll, passAll, bind_apply, bind_apply, pass_watch, invocations]
    cases pass call station stack world with
    | ok stack' after =>
      dsimp only
      rw [inductionHypothesis, List.append_assoc]
    | error fault after =>
      rw [List.append_nil]

/-- The calls that are written down are those of the stations. -/
theorem invoked_eq (expression : Expression) (world : World Host) :
    invoked call expression world = invocations call expression.stations [] world := by
  have passed := passAll_watch call expression.stations [] world []
  have same := after_bind_return (evaluate (watch call noted) expression) (fun value => [value])
    (world.recording [])
  rw [invoked, ← same, ← passAll_stations, Act.after, passed]
  cases passAll call expression.stations [] world <;> rfl

/-- An expression is evaluated station by station. -/
structure InOrder (expression : Expression) (world : World Host) : Prop where
  /-- The calls are written down on the side: the evaluation comes to the same. -/
  recorded : evaluate (watch call noted) expression (world.recording []) =
    match evaluate call expression world with
    | .ok value after => .ok value (after.recording (invoked call expression world))
    | .error fault after => .error fault (after.recording (invoked call expression world))
  /-- All stations are passed, in post-order; what fails among them is the first to fail. -/
  stations : passAll call expression.stations [] world =
    (do let value ← evaluate call expression; return [value] : Act Host (List Value)) world
  /-- Where there is a value, every call that stands in the expression was made once, in
  post-order. -/
  complete : ∀ value after, evaluate call expression world = .ok value after →
    (invoked call expression world).map Invocation.function = Station.functions expression.stations
  /-- A fault is that of the first station that fails, and no call behind that station was made. -/
  broken : ∀ fault after, evaluate call expression world = .error fault after →
    ∃ passed station behind stack between,
      expression.stations = passed ++ station :: behind ∧
        passAll call passed [] world = .ok stack between ∧
        pass call station stack between = .error fault after ∧
        (invoked call expression world).map Invocation.function =
          Station.functions (passed ++ [station])
  /-- Every call that was made stands in the expression, with as many calls before it, and has been
  handed the values of its operands, evaluated where they stand. -/
  given : ∀ index invocation, (invoked call expression world)[index]? = some invocation →
    ∃ (occurrence : expression.Occurrence) (stack : List Value) (between : World Host),
      occurrence.function = invocation.function ∧ occurrence.number = index ∧
        passAll call occurrence.before [] world = .ok stack between ∧
        evaluateAll call occurrence.operands between = .ok invocation.operands invocation.world

/-- What is evaluated comes to what its stations come to. -/
theorem evaluate_eq_ok {expression : Expression} {world after : World Host} {value : Value}
    (done : evaluate call expression world = .ok value after) :
    passAll call expression.stations [] world = .ok [value] after := by
  rw [passAll_stations, bind_apply, done]
  rfl

theorem evaluate_eq_error_iff {expression : Expression} {world after : World Host}
    {fault : Fault} :
    evaluate call expression world = .error fault after ↔
      passAll call expression.stations [] world = .error fault after := by
  rw [passAll_stations, bind_apply]
  cases evaluate call expression world with
  | ok value between => exact ⟨by rintro ⟨⟩, by rintro ⟨⟩⟩
  | error fault between =>
    constructor
    · rintro ⟨⟩
      rfl
    · rintro ⟨⟩
      rfl

theorem inOrder (expression : Expression) (world : World Host) :
    InOrder call expression world where
  recorded := by
    have agree := alike_evaluate likeness_bare (watch_bare call noted) expression
      (world.recording []) world rfl
    rw [invoked, Act.after]
    generalize evaluate (watch call noted) expression (world.recording []) = result at agree ⊢
    generalize evaluate call expression world = result' at agree ⊢
    cases agree with
    | ok value related =>
      cases related
      rfl
    | error fault related =>
      cases related
      rfl
  stations := congrFun (passAll_stations call expression []) world
  complete value after done := by
    rw [invoked_eq]
    exact functions_invocations call (evaluate_eq_ok call done)
  broken fault after fails := by
    obtain ⟨passed, station, behind, stack, between, split, before, here⟩ :=
      passAll_eq_error call ((evaluate_eq_error_iff call).1 fails)
    refine ⟨passed, station, behind, stack, between, split, before, here, ?_⟩
    rw [invoked_eq, split, invocations_append, before, List.map_append,
      functions_invocations call before, Station.functions_append]
    dsimp only
    rw [invocations, here, List.append_nil, functions_invocation?]
  given index invocation found := by
    rw [invoked_eq] at found
    obtain ⟨passed, count, behind, below, split, before, operands, counted⟩ :=
      getElem?_invocations call found
    obtain ⟨first, own, rfl, rfl⟩ := Expression.exists_operands expression split
    rw [passAll_append] at before
    obtain ⟨stack, between, begins, evaluated⟩ := bind_eq_ok before
    rw [passAll_stationsAll] at evaluated
    obtain ⟨values, after, evaluated, returned⟩ := bind_eq_ok evaluated
    cases returned
    refine ⟨⟨first, invocation.function, own, behind, ?_⟩, stack, between, rfl, counted, begins, ?_⟩
    · rw [split, List.append_assoc]
    · have taken : (values.reverse ++ stack).take own.length = values.reverse := by
        rw [← length_evaluateAll call evaluated, ← List.length_reverse, List.take_left]
      rw [operands, taken, List.reverse_reverse]
      exact evaluated

/-- Where the operands of a call are evaluated and the call then fails, the expression fails. -/
theorem evaluate_of_occurrence {expression : Expression} (occurrence : expression.Occurrence)
    {world between after final : World Host} {stack values : List Value} {fault : Fault}
    (begins : passAll call occurrence.before [] world = .ok stack between)
    (evaluated : evaluateAll call occurrence.operands between = .ok values after)
    (fails : call occurrence.function values after = .error fault final) :
    evaluate call expression world = .error fault final := by
  rw [evaluate_eq_error_iff, occurrence.stations_eq, passAll_append, bind_apply, begins]
  dsimp only
  rw [passAll_append, bind_apply, passAll_stationsAll, bind_apply, evaluated]
  have taken : ((values.reverse ++ stack).take occurrence.operands.length).reverse = values := by
    rw [← length_evaluateAll call evaluated, ← List.length_reverse, List.take_left,
      List.reverse_reverse]
  show passAll call _ (values.reverse ++ stack) after = _
  rw [passAll, bind_apply, pass, bind_apply, taken, fails]

end Engine

/-! ### Refused calls -/

namespace Shelf

/-- Why a library refuses to call a function with some number of operands, if it does: it has no
function of that name, or one that takes another number. -/
def refusal? (shelf : Shelf Host) (place : LibraryId) (name : Text) (count : Nat) : Option Fault :=
  match (shelf.library place).get? name with
  | none => some (.functionNotFound name)
  | some function =>
    if count ≠ function.arity then some (.arityMismatch function.name function.arity count)
    else none

/-- A call that is refused does nothing but fail. -/
theorem call_of_refusal {shelf : Shelf Host} {place : LibraryId} {name : Text}
    {operands : List Value} {fault : Fault}
    (refused : shelf.refusal? place name operands.length = some fault) (world : World Host) :
    shelf.call place name operands world = .error fault world := by
  rw [refusal?] at refused
  rw [call, callWithin, Library.lookup]
  cases found : (shelf.library place).get? name with
  | none =>
    rw [found] at refused
    cases refused
    rfl
  | some function =>
    rw [found] at refused
    dsimp only at refused ⊢
    split at refused
    next other =>
      cases refused
      rw [if_pos other]
      rfl
    next => cases refused

/-- Expressions are evaluated in post-order, whatever the library holds and in whatever world: every
call is made once, behind its operands and with their values, and the first station that fails ends
the evaluation. A function that is unknown, or that takes another number of operands, is refused
once the operands are evaluated, and before anything else is done. -/
theorem evaluate_inOrder (shelf : Shelf Host) (place : LibraryId) (expression : Expression)
    (world : World Host) :
    Engine.InOrder (shelf.call place) expression world ∧
      ∀ (occurrence : expression.Occurrence) (stack values : List Value)
        (between after : World Host) (fault : Fault),
        Engine.passAll (shelf.call place) occurrence.before [] world = .ok stack between →
        Engine.evaluateAll (shelf.call place) occurrence.operands between = .ok values after →
        shelf.refusal? place occurrence.function occurrence.operands.length = some fault →
        Engine.evaluate (shelf.call place) expression world = .error fault after := by
  refine ⟨Engine.inOrder (shelf.call place) expression world, ?_⟩
  intro occurrence stack values between after fault begins evaluated refused
  rw [← Engine.length_evaluateAll (shelf.call place) evaluated] at refused
  exact Engine.evaluate_of_occurrence (shelf.call place) occurrence begins evaluated
    (call_of_refusal refused after)

/-- A library whose only function sets the variable `x`. -/
def setting : Shelf Unit where
  libraries := [Roster.ofList [⟨"set", 0, .host fun _ _ store host =>
    ⟨.ok .null, store.put "x" (.bool true), host⟩⟩]]

/-- A function that is unknown is refused in the world that its operands leave, where the variable
is set already. -/
theorem evaluate_inOrder_setting :
    Engine.evaluate (setting.call 0) (.call "missing" [.call "set" [], .read "x"])
        { store := Roster.empty, host := () } =
      .error (.functionNotFound "missing")
        { store := Ledger.put Roster.empty "x" (.bool true), host := () } :=
  (evaluate_inOrder setting 0 (.call "missing" [.call "set" [], .read "x"])
    { store := Roster.empty, host := () }).2 ⟨[], "missing", [.call "set" [], .read "x"], [], rfl⟩
    [] [.null, .bool true] { store := Roster.empty, host := () }
    { store := Ledger.put Roster.empty "x" (.bool true), host := () } (.functionNotFound "missing")
    rfl rfl rfl

end Shelf

end Parley
