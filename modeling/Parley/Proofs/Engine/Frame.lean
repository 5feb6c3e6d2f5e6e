/-
This file says what running a body leaves alone. A body writes into the log,
writes variables, changes the state of the host through the host's functions, and
may set the stop flag; it does nothing else to the world. So every relation
between worlds that allows these four and can be passed along step by step holds
between the world before a pull and the world after it, also where the pull fails.
-/

import Mathlib
import Parley.Engine
import Parley.Proofs.Act

namespace Parley

variable {Host Answer First Second : Type}

/-! ### Computations that keep to a relation -/

/-- The world that a computation leaves, whether or not it fails. -/
def Act.after (act : Act Host Answer) (world : World Host) : World Host :=
  match act world with
  | .ok _ world => world
  | .error _ world => world

/-- The world that a computation leaves stands in a relation to the world it began in. -/
def Act.Keeps (relation : World Host → World Host → Prop) (act : Act Host Answer) : Prop :=
  ∀ world, relation world (act.after world)

namespace Act.Keeps

variable {relation : World Host → World Host → Prop} {act : Act Host Answer}
  {world final : World Host}

theorem of_ok (keeps : act.Keeps relation) {answer : Answer} (done : act world = .ok answer final) :
    relation world final := by
  have step := keeps world
  rwa [Act.after, done] at step

theorem of_error (keeps : act.Keeps relation) {fault : Fault}
    (failed : act world = .error fault final) : relation world final := by
  have step := keeps world
  rwa [Act.after, failed] at step

end Act.Keeps

/-- A relation between worlds that can be passed along step by step. -/
structure Steady (relation : World Host → World Host → Prop) : Prop where
  refl : ∀ world, relation world world
  trans : ∀ {first second third}, relation first second → relation second third →
    relation first third

/-- A relation between worlds that a body keeps to if the functions do that it calls. -/
structure Plain (relation : World Host → World Host → Prop) : Prop extends Steady relation where
  log : ∀ world note, note.channel = .log → relation world (world.note note)
  assign : ∀ world store, relation world { world with store }

/-- A relation between worlds that whatever a body does keeps to. -/
structure Ordinary (relation : World Host → World Host → Prop) : Prop where
  refl : ∀ world, relation world world
  trans : ∀ {first second third}, relation first second → relation second third →
    relation first third
  log : ∀ world note, note.channel = .log → relation world (world.note note)
  write : ∀ world store host, relation world { world with store, host }
  stop : ∀ world, relation world { world with stopping := true }

variable {relation : World Host → World Host → Prop}

namespace Steady

theorem pure (steady : Steady relation) (answer : Answer) :
    (Pure.pure answer : Act Host Answer).Keeps relation := steady.refl

theorem throw (steady : Steady relation) (fault : Fault) :
    (MonadExcept.throw fault : Act Host Answer).Keeps relation := steady.refl

theorem bind (steady : Steady relation) {first : Act Host First}
    {next : First → Act Host Second} (keepsFirst : first.Keeps relation)
    (keepsNext : ∀ answer, (next answer).Keeps relation) : (first >>= next).Keeps relation := by
  intro world
  unfold Act.after
  rw [bind_apply]
  cases result : first world with
  | error fault between => exact keepsFirst.of_error result
  | ok answer between => exact steady.trans (keepsFirst.of_ok result) (keepsNext answer between)

/-- Looking at the world before going on changes nothing. -/
theorem look (steady : Steady relation) {next : World Host → Act Host Answer}
    (keepsNext : ∀ world, (next world).Keeps relation) :
    ((get : Act Host (World Host)) >>= next).Keeps relation :=
  steady.bind steady.refl keepsNext

theorem valueOf (steady : Steady relation) (literal : Literal) :
    (Act.valueOf literal : Act Host Value).Keeps relation := by
  unfold Act.valueOf
  cases literal.toValue with
  | ok value => exact steady.pure value
  | error collection => exact steady.throw _

end Steady

theorem Plain.note (plain : Plain relation) (note : Note) (log : note.channel = .log) :
    (Act.note note : Act Host Unit).Keeps relation := fun world => plain.log world note log

namespace Ordinary

theorem steady (ordinary : Ordinary relation) : Steady relation :=
  ⟨ordinary.refl, ordinary.trans⟩

theorem plain (ordinary : Ordinary relation) : Plain relation where
  toSteady := ordinary.steady
  log := ordinary.log
  assign world store := ordinary.write world store world.host

end Ordinary

/-! ### Functions -/

namespace Shelf

variable (shelf : Shelf Host)

theorem keeps_runHost (ordinary : Ordinary relation) (function : HostFunction Host)
    (operands : List Value) : (runHost function operands).Keeps relation := by
  intro world
  have written := ordinary.write world
    (function world.executing operands world.store world.host).store
    (function world.executing operands world.store world.host).host
  refine ordinary.trans written ?_
  cases answer : (function world.executing operands world.store world.host).result with
  | ok literal =>
    have valued := ordinary.steady.valueOf literal
      { world with
        store := (function world.executing operands world.store world.host).store
        host := (function world.executing operands world.store world.host).host }
    simpa [Act.after, runHost, bind_apply, answer, get, getThe, MonadStateOf.get, EStateM.get,
      set, EStateM.set] using valued
  | error fault =>
    simpa [Act.after, runHost, bind_apply, answer, get, getThe, MonadStateOf.get, EStateM.get,
      set, EStateM.set, throw, throwThe, MonadExceptOf.throw, EStateM.throw] using ordinary.refl _

theorem keeps_perform (ordinary : Ordinary relation)
    {call : LibraryId → Text → List Value → Act Host Value}
    (keeps : ∀ place name operands, (call place name operands).Keeps relation)
    (operands : List Value) (implementation : Implementation Host) :
    (perform call operands implementation).Keeps relation := by
  cases implementation with
  | operator operator => exact ordinary.steady.pure _
  | inequality home => exact ordinary.steady.bind (keeps _ _ _) fun _ => ordinary.steady.pure _
  | visited => exact ordinary.steady.look fun _ => ordinary.steady.pure _
  | assertion =>
    unfold perform
    dsimp only
    split
    · exact ordinary.steady.pure _
    · exact ordinary.steady.look fun world =>
        ordinary.steady.bind (ordinary.plain.note _ rfl) fun _ =>
          ordinary.steady.bind ordinary.stop fun _ => ordinary.steady.pure _
  | forward home target => exact keeps _ _ _
  | host function => exact keeps_runHost ordinary function operands

theorem keeps_callWithin (ordinary : Ordinary relation) (steps : Nat) (place : LibraryId)
    (name : Text) (operands : List Value) :
    (shelf.callWithin steps place name operands).Keeps relation := by
  induction steps generalizing place name operands with
  | zero => exact ordinary.steady.throw _
  | succ steps ih =>
    unfold callWithin
    split
    · exact ordinary.steady.throw _
    · split
      · exact ordinary.steady.throw _
      · exact keeps_perform ordinary ih operands _

theorem keeps_call (ordinary : Ordinary relation) (place : LibraryId) (name : Text)
    (operands : List Value) : (shelf.call place name operands).Keeps relation :=
  shelf.keeps_callWithin ordinary _ place name operands

end Shelf

/-! ### Bodies -/

namespace Engine

variable {call : Text → List Value → Act Host Value}

mutual

theorem keeps_evaluate (steady : Steady relation)
    (keeps : ∀ name operands, (call name operands).Keeps relation) :
    ∀ expression : Expression, (evaluate call expression).Keeps relation
  | .literal written => steady.valueOf written
  | .read _ => steady.look fun _ => steady.pure _
  | .call _ operands =>
    steady.bind (keeps_evaluateAll steady keeps operands) fun _ => keeps _ _
  | .foreign => steady.throw _

theorem keeps_evaluateAll (steady : Steady relation)
    (keeps : ∀ name operands, (call name operands).Keeps relation) :
    ∀ expressions : List Expression, (evaluateAll call expressions).Keeps relation
  | [] => steady.pure _
  | expression :: rest =>
    steady.bind (keeps_evaluate steady keeps expression) fun _ =>
      steady.bind (keeps_evaluateAll steady keeps rest) fun _ => steady.pure _

end

section

variable (steady : Steady relation)
  (keeps : ∀ name operands, (call name operands).Keeps relation)

include steady keeps

theorem keeps_admits (condition : Option Expression) :
    (admits call condition).Keeps relation := by
  cases condition with
  | none => exact steady.pure _
  | some condition =>
    exact steady.bind (keeps_evaluate steady keeps condition) fun _ => steady.pure _

theorem keeps_available (replies : List (Reply Statement)) :
    (available call replies).Keeps relation := by
  induction replies with
  | nil => exact steady.pure _
  | cons reply rest ih =>
    exact steady.bind (keeps_admits steady keeps _) fun _ =>
      steady.bind ih fun _ => steady.pure _

end

theorem keeps_finish (plain : Plain relation) (name : Text) (next : Option Text) :
    (finish name next : Act Host _).Keeps relation :=
  plain.bind (plain.note _ rfl) fun _ => plain.pure _

section

variable (plain : Plain relation)
  (keeps : ∀ name operands, (call name operands).Keeps relation)

include plain keeps

theorem keeps_advance (name : Text) (statements : List Statement) :
    (advance call name statements).Keeps relation := by
  induction statements using advance.induct with
  | case1 =>
    rw [advance]
    exact keeps_finish plain name none
  | case2 text rest =>
    rw [advance]
    exact plain.pure _
  | case3 text rest =>
    rw [advance]
    exact plain.pure _
  | case4 expression rest ih =>
    rw [advance]
    exact plain.bind (keeps_evaluate plain.toSteady keeps expression) fun _ => ih
  | case5 target expression rest ih =>
    rw [advance]
    refine plain.bind (keeps_evaluate plain.toSteady keeps expression) fun value => ?_
    refine plain.bind (plain.note _ rfl) fun _ => ?_
    exact plain.bind (fun world => plain.assign world _) fun _ => ih
  | case6 otherwise rest ih =>
    rw [advance]
    exact ih
  | case7 condition body clauses otherwise rest inBody inOthers =>
    rw [advance]
    refine plain.bind (keeps_evaluate plain.toSteady keeps condition) fun value => ?_
    split
    · exact inBody
    · exact inOthers
  | case8 replies rest ih =>
    rw [advance]
    refine plain.bind (keeps_available plain.toSteady keeps replies) fun offers => ?_
    split
    · exact plain.bind (plain.note _ rfl) fun _ => ih
    · exact plain.pure _
  | case9 target tail =>
    rw [advance]
    exact keeps_finish plain name _
  | case10 tail =>
    rw [advance]
    exact plain.throw _

/-- A pull keeps to a relation if the functions do that are called. -/
theorem pull_keeps (chosen : Option Nat) (traversal : Traversal) :
    (pull call chosen traversal).Keeps relation := by
  have onward (name : Text) (statements : List Statement) :
      (do let result ← advance call name statements; return some result : Act Host _).Keeps
        relation :=
    plain.bind (keeps_advance plain keeps name statements) fun _ => plain.pure _
  cases traversal with
  | fresh node => exact plain.bind (plain.note _ rfl) fun _ => onward _ _
  | within name rest => exact onward _ _
  | offered name replies rest =>
    cases chosen with
    | none => exact plain.throw _
    | some index =>
      unfold pull
      dsimp only
      split
      · exact plain.throw _
      · exact plain.bind (plain.note _ rfl) fun _ => onward _ _
  | ended => exact plain.pure _

end

/-- A pull keeps to every relation that whatever a body does keeps to. -/
theorem keeps_pull (ordinary : Ordinary relation)
    (keeps : ∀ name operands, (call name operands).Keeps relation) (chosen : Option Nat)
    (traversal : Traversal) : (pull call chosen traversal).Keeps relation :=
  pull_keeps ordinary.plain keeps chosen traversal

end Engine

end Parley
