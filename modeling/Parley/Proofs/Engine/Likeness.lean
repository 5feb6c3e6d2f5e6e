/-
This file compares two runs of one body. The engine looks at nothing in the world
but the variables, and hands everything else on to the functions that a body
calls. So if two worlds have the same variables, and the functions that are called
cannot tell the two apart, a pull cannot either: it comes to the same result in
both, and leaves two worlds that again cannot be told apart.

The two worlds may belong to hosts of different kinds. One of them may therefore
carry a record that the other has not, which is how the calls of a body are
written down elsewhere.
-/

import Parley.Engine
import Parley.Proofs.Act

namespace Parley

variable {One Other First Second : Type}

/-! ### Computations that go alike -/

/-- Two computations come to the same: the same answer or the same fault, in states that stand in a
relation. -/
inductive Agree {State State' Answer : Type} (relation : State → State' → Prop) :
    EStateM.Result Fault State Answer → EStateM.Result Fault State' Answer → Prop
  | ok {one other} (answer : Answer) : relation one other →
    Agree relation (.ok answer one) (.ok answer other)
  | error {one other} (fault : Fault) : relation one other →
    Agree relation (.error fault one) (.error fault other)

/-- What two computations come to alike they come to alike one after the other. -/
theorem Agree.bind {State State' : Type} {relation : State → State' → Prop}
    {first : EStateM Fault State First} {first' : EStateM Fault State' First}
    {next : First → EStateM Fault State Second} {next' : First → EStateM Fault State' Second}
    {one : State} {other : State'} (begins : Agree relation (first one) (first' other))
    (goesOn : ∀ answer one other, relation one other →
      Agree relation (next answer one) (next' answer other)) :
    Agree relation ((first >>= next) one) ((first' >>= next') other) := by
  rw [bind_apply, bind_apply]
  generalize first one = result at begins ⊢
  generalize first' other = result' at begins ⊢
  cases begins with
  | ok answer between => exact goesOn answer _ _ between
  | error fault between => exact .error fault between

/-- Two computations come to what is compared: answers in one relation and states in another, or the
same fault and states in the relation. -/
inductive Accord {State Answer : Type} (answers : Answer → Answer → Prop)
    (states : State → State → Prop) :
    EStateM.Result Fault State Answer → EStateM.Result Fault State Answer → Prop
  | ok {answer answer' one other} : answers answer answer' → states one other →
    Accord answers states (.ok answer one) (.ok answer' other)
  | error {one other} (fault : Fault) : states one other →
    Accord answers states (.error fault one) (.error fault other)

theorem Accord.bind {State : Type} {states : State → State → Prop} {answers : First → First → Prop}
    {answers' : Second → Second → Prop} {first first' : EStateM Fault State First}
    {next next' : First → EStateM Fault State Second} {one other : State}
    (begins : Accord answers states (first one) (first' other))
    (goesOn : ∀ {answer answer' one other}, answers answer answer' → states one other →
      Accord answers' states (next answer one) (next' answer' other)) :
    Accord answers' states ((first >>= next) one) ((first' >>= next') other) := by
  rw [bind_apply, bind_apply]
  generalize first one = result at begins ⊢
  generalize first' other = result' at begins ⊢
  cases begins with
  | ok answers states => exact goesOn answers states
  | error fault states => exact .error fault states

theorem Accord.mono {State Answer : Type} {states : State → State → Prop}
    {answers answers' : Answer → Answer → Prop} {result result' : EStateM.Result Fault State Answer}
    (accord : Accord answers states result result')
    (weaker : ∀ answer answer', answers answer answer' → answers' answer answer') :
    Accord answers' states result result' := by
  cases accord with
  | ok answers states => exact .ok (weaker _ _ answers) states
  | error fault states => exact .error fault states

/-- What can be compared behind the same computation can be compared from its beginning. -/
theorem Accord.behind {State : Type} {answers : Second → Second → Prop}
    (first : EStateM Fault State First) {next next' : First → EStateM Fault State Second}
    {state : State}
    (goesOn : ∀ answer state, Accord answers Eq (next answer state) (next' answer state)) :
    Accord answers Eq ((first >>= next) state) ((first >>= next') state) := by
  rw [bind_apply, bind_apply]
  cases first state with
  | ok answer state => exact goesOn answer state
  | error fault state => exact .error fault rfl

/-- What a computation comes to can be compared with itself. -/
theorem Accord.refl {State Answer : Type} {answers : Answer → Answer → Prop}
    (result : EStateM.Result Fault State Answer)
    (reflexive : ∀ answer, answers answer answer) : Accord answers Eq result result := by
  cases result with
  | ok answer state => exact .ok (reflexive answer) rfl
  | error fault state => exact .error fault rfl

/-- Where a computation comes to the same as one that can be compared with a third, it can be
compared with the third itself. -/
theorem Agree.accord {State Answer : Type} {states : State → State → Prop}
    {answers : Answer → Answer → Prop} {first second third : EStateM.Result Fault State Answer}
    (agree : Agree states first second) (accord : Accord answers Eq second third) :
    Accord answers states first third := by
  cases agree with
  | ok answer related =>
    cases accord with
    | ok answers same => exact .ok answers (same ▸ related)
  | error fault related =>
    cases accord with
    | error fault same => exact .error fault (same ▸ related)

/-- From worlds that stand in a relation two computations come to the same. -/
def Act.Alike {Answer : Type} (relation : World One → World Other → Prop)
    (act : Act One Answer) (act' : Act Other Answer) : Prop :=
  ∀ one other, relation one other → Agree relation (act one) (act' other)

/-- A relation between worlds that the engine cannot see through: worlds in it have the same
variables, and notes and assignments lead from it to it. -/
structure Likeness (relation : World One → World Other → Prop) : Prop where
  store : ∀ {one other}, relation one other → one.store = other.store
  note : ∀ {one other} note, relation one other → relation (one.note note) (other.note note)
  write : ∀ {one other} store, relation one other →
    relation { one with store } { other with store }

variable {relation : World One → World Other → Prop}

namespace Act.Alike

theorem pure {Answer : Type} (answer : Answer) :
    Alike relation (Pure.pure answer : Act One Answer) (Pure.pure answer : Act Other Answer) :=
  fun _ _ related => .ok answer related

theorem throw {Answer : Type} (fault : Fault) :
    Alike relation (MonadExcept.throw fault : Act One Answer)
      (MonadExcept.throw fault : Act Other Answer) :=
  fun _ _ related => .error fault related

theorem changing {change : World One → World One} {change' : World Other → World Other}
    (keeps : ∀ one other, relation one other → relation (change one) (change' other)) :
    Alike relation (modify change : Act One Unit) (modify change' : Act Other Unit) :=
  fun one other related => .ok () (keeps one other related)

theorem bind {first : Act One First} {first' : Act Other First} {next : First → Act One Second}
    {next' : First → Act Other Second} (begins : Alike relation first first')
    (goesOn : ∀ answer, Alike relation (next answer) (next' answer)) :
    Alike relation (first >>= next) (first' >>= next') :=
  fun one other related => .bind (begins one other related) goesOn

theorem valueOf (literal : Literal) :
    Alike relation (Act.valueOf literal : Act One Value) (Act.valueOf literal) := by
  unfold Act.valueOf
  cases literal.toValue with
  | ok value => exact .pure value
  | error collection => exact .throw _

end Act.Alike

/-! ### Bodies that go alike -/

namespace Engine

variable {call : Text → List Value → Act One Value} {call' : Text → List Value → Act Other Value}

mutual

theorem alike_evaluate (likeness : Likeness relation)
    (calls : ∀ name operands, Act.Alike relation (call name operands) (call' name operands)) :
    ∀ expression : Expression,
      Act.Alike relation (evaluate call expression) (evaluate call' expression)
  | .literal written => .valueOf written
  | .read name => fun one other related => by
    -- Here, and nowhere else, the engine looks at the world itself.
    have same : (one.store.find? name).getD .null = (other.store.find? name).getD .null := by
      rw [likeness.store related]
    show Agree relation (.ok ((one.store.find? name).getD .null) one)
      (.ok ((other.store.find? name).getD .null) other)
    rw [same]
    exact .ok _ related
  | .call function operands =>
    .bind (alike_evaluateAll likeness calls operands) fun _ => calls _ _
  | .foreign => .throw _

theorem alike_evaluateAll (likeness : Likeness relation)
    (calls : ∀ name operands, Act.Alike relation (call name operands) (call' name operands)) :
    ∀ expressions : List Expression,
      Act.Alike relation (evaluateAll call expressions) (evaluateAll call' expressions)
  | [] => .pure _
  | expression :: rest =>
    .bind (alike_evaluate likeness calls expression) fun _ =>
      .bind (alike_evaluateAll likeness calls rest) fun _ => .pure _

end

theorem alike_note (likeness : Likeness relation) (note : Note) :
    Act.Alike relation (Act.note note : Act One Unit) (Act.note note) :=
  .changing fun _ _ => likeness.note note

theorem alike_finish (likeness : Likeness relation) (name : Text) (next : Option Text) :
    Act.Alike relation (finish name next : Act One (Result × Traversal)) (finish name next) :=
  .bind (alike_note likeness _) fun _ => .pure _

variable (likeness : Likeness relation)
  (calls : ∀ name operands, Act.Alike relation (call name operands) (call' name operands))

include likeness calls

theorem alike_admits (condition : Option Expression) :
    Act.Alike relation (admits call condition) (admits call' condition) := by
  cases condition with
  | none => exact .pure _
  | some condition => exact .bind (alike_evaluate likeness calls condition) fun _ => .pure _

theorem alike_available (replies : List (Reply Statement)) :
    Act.Alike relation (available call replies) (available call' replies) := by
  induction replies with
  | nil => exact .pure _
  | cons reply rest ih =>
    exact .bind (alike_admits likeness calls _) fun _ => .bind ih fun _ => .pure _

theorem alike_advance (name : Text) (statements : List Statement) :
    Act.Alike relation (advance call name statements) (advance call' name statements) := by
  induction statements using advance.induct with
  | case1 =>
    rw [advance, advance]
    exact alike_finish likeness name none
  | case2 text rest =>
    rw [advance, advance]
    exact .pure _
  | case3 text rest =>
    rw [advance, advance]
    exact .pure _
  | case4 expression rest ih =>
    rw [advance, advance]
    exact .bind (alike_evaluate likeness calls expression) fun _ => ih
  | case5 target expression rest ih =>
    rw [advance, advance]
    refine .bind (alike_evaluate likeness calls expression) fun value => ?_
    refine .bind (alike_note likeness _) fun _ => ?_
    refine .bind (.changing fun one other related => ?_) fun _ => ih
    -- `write` is about one store for both worlds, which they have had before the assignment.
    show relation { one with store := one.store.put target value }
      { other with store := other.store.put target value }
    rw [likeness.store related]
    exact likeness.write _ related
  | case6 otherwise rest ih =>
    rw [advance, advance]
    exact ih
  | case7 condition body clauses otherwise rest inBody inOthers =>
    rw [advance, advance]
    refine .bind (alike_evaluate likeness calls condition) fun value => ?_
    split
    · exact inBody
    · exact inOthers
  | case8 replies rest ih =>
    rw [advance, advance]
    refine .bind (alike_available likeness calls replies) fun offers => ?_
    split
    · exact .bind (alike_note likeness _) fun _ => ih
    · exact .pure _
  | case9 target tail =>
    rw [advance, advance]
    exact alike_finish likeness name _
  | case10 tail =>
    rw [advance, advance]
    exact .throw _

/-- Two worlds that cannot be told apart by the functions that are called cannot be told apart by a
pull. -/
theorem alike_pull (chosen : Option Nat) (traversal : Traversal) :
    Act.Alike relation (pull call chosen traversal) (pull call' chosen traversal) := by
  have onward (name : Text) (statements : List Statement) :
      Act.Alike relation
        (do let result ← advance call name statements; return some result)
        (do let result ← advance call' name statements; return some result) :=
    .bind (alike_advance likeness calls name statements) fun _ => .pure _
  cases traversal with
  | fresh node => exact .bind (alike_note likeness _) fun _ => onward _ _
  | within name rest => exact onward _ _
  | offered name replies rest =>
    cases chosen with
    | none => exact .throw _
    | some index =>
      unfold pull
      dsimp only
      split
      · exact .throw _
      · exact .bind (alike_note likeness _) fun _ => onward _ _
  | ended => exact .pure _

end Engine

/-! ### Functions that go alike -/

/-- A relation between worlds that no function can see through: worlds in it differ in what no
function looks at, and whatever functions do leads from it to it. -/
structure Resemblance {Host : Type} (relation : World Host → World Host → Prop) : Prop
    extends Likeness relation where
  same : ∀ {one other}, relation one other → one.host = other.host ∧ one.visited = other.visited ∧
    one.current = other.current ∧ one.executing = other.executing
  rewrite : ∀ {one other} store host, relation one other →
    relation { one with store, host } { other with store, host }
  stop : ∀ {one other}, relation one other →
    relation { one with stopping := true } { other with stopping := true }

namespace Shelf

variable {Host : Type}

theorem runHost_apply (function : HostFunction Host) (operands : List Value)
    (world : World Host) :
    runHost function operands world =
      (match (function world.executing operands world.store world.host).result with
        | .ok literal => Act.valueOf literal
        | .error fault => throw fault : Act Host Value)
        { world with
          store := (function world.executing operands world.store world.host).store
          host := (function world.executing operands world.store world.host).host } := rfl

variable {relation : World Host → World Host → Prop} (resemblance : Resemblance relation)

include resemblance

theorem alike_runHost (function : HostFunction Host) (operands : List Value) :
    Act.Alike relation (runHost function operands) (runHost function operands) := by
  intro one other related
  obtain ⟨host, -, -, executing⟩ := resemblance.same related
  have store := resemblance.store related
  have answered : function one.executing operands one.store one.host =
      function other.executing operands other.store other.host := by
    rw [host, executing, store]
  have written := resemblance.rewrite
    (function other.executing operands other.store other.host).store
    (function other.executing operands other.store other.host).host related
  rw [runHost_apply, runHost_apply, answered]
  cases (function other.executing operands other.store other.host).result with
  | ok literal => exact Act.Alike.valueOf literal _ _ written
  | error fault => exact .error fault written

theorem alike_perform {call : LibraryId → Text → List Value → Act Host Value}
    (calls : ∀ place name operands,
      Act.Alike relation (call place name operands) (call place name operands))
    (operands : List Value) (implementation : Implementation Host) :
    Act.Alike relation (perform call operands implementation)
      (perform call operands implementation) := by
  cases implementation with
  | operator operator => exact .pure _
  | inequality home => exact .bind (calls _ _ _) fun _ => .pure _
  | visited =>
    intro one other related
    obtain ⟨-, visited, -, -⟩ := resemblance.same related
    have opened (world : World Host) : perform call operands .visited world =
        .ok (.bool (((operands.head?).getD .null).toText ∈ world.visited)) world := rfl
    rw [opened, opened, visited]
    exact .ok _ related
  | assertion =>
    unfold perform
    dsimp only
    split
    · exact .pure _
    · intro one other related
      obtain ⟨-, -, current, -⟩ := resemblance.same related
      have noted := resemblance.stop (resemblance.note (.assertFailed other.current) related)
      -- What is noted names the current node, so this is where the current nodes must be the same.
      rw [bind_apply, bind_apply]
      show Agree relation
        (.ok Value.null { one.note (.assertFailed one.current) with stopping := true })
        (.ok Value.null { other.note (.assertFailed other.current) with stopping := true })
      rw [current]
      exact .ok _ noted
  | forward home target => exact calls _ _ _
  | host function => exact alike_runHost resemblance function operands

theorem alike_callWithin (shelf : Shelf Host) (steps : Nat) (place : LibraryId) (name : Text)
    (operands : List Value) :
    Act.Alike relation (shelf.callWithin steps place name operands)
      (shelf.callWithin steps place name operands) := by
  induction steps generalizing place name operands with
  | zero => exact .throw _
  | succ steps ih =>
    unfold callWithin
    split
    · exact .throw _
    · split
      · exact .throw _
      · exact alike_perform resemblance ih operands _

/-- Two worlds that no function can tell apart cannot be told apart by a call. -/
theorem alike_call (shelf : Shelf Host) (place : LibraryId) (name : Text)
    (operands : List Value) :
    Act.Alike relation (shelf.call place name operands) (shelf.call place name operands) :=
  alike_callWithin resemblance shelf _ place name operands

end Shelf

end Parley
