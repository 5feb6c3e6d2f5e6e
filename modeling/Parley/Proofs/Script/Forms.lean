/-
What a document is compiled to, form by form. The compiler asks first which form a
document has and then compiles its parts. The laws here say when it succeeds and
with what, one law for each of its functions, and are all that the theory of
scripts knows of the compiler: what a form is compiled to is a relation, which can
be read in both directions.
-/

import Parley.Script.Body

namespace Parley

/-- Two steps come to an answer if the first comes to one from which the second does. -/
theorem Except.bind_eq_ok_iff {Failure First Second : Type} {first : Except Failure First}
    {next : First → Except Failure Second} {answer : Second} :
    (first >>= next) = .ok answer ↔ ∃ middle, first = .ok middle ∧ next middle = .ok answer := by
  cases first with
  | error failure => simp [bind, Except.bind]
  | ok middle => simp [bind, Except.bind]

namespace Body

variable {place : Place} {document : Json}

/-! ### Expressions -/

theorem expressions_nil : expressions place [] = .ok [] := by
  rw [expressions]

theorem expressions_cons {rest : List Json} {compiled : List Expression} :
    expressions place (document :: rest) = .ok compiled ↔
      ∃ first others, expression place document = .ok first ∧
        expressions place rest = .ok others ∧ compiled = first :: others := by
  rw [expressions, Except.bind_eq_ok_iff]
  refine exists_congr fun first => ?_
  rw [Except.bind_eq_ok_iff]
  constructor
  · rintro ⟨same, others, onward, returned⟩
    cases returned
    exact ⟨others, same, onward, rfl⟩
  · rintro ⟨others, same, onward, rfl⟩
    exact ⟨same, others, onward, rfl⟩

/-- What an expression of a form is compiled to. -/
inductive ExpressionOf (place : Place) : ExpressionForm → Expression → Prop
  | literal (written : Literal) : ExpressionOf place (.literal written) (.literal written)
  | read (name : Text) : ExpressionOf place (.read name) (.read name)
  | call {function : Text} {items : List Json} {operands : List Expression}
    (parts : expressions place items = .ok operands) :
    ExpressionOf place (.call function (some items)) (.call function operands)
  | operator {name : Text} {items : List Json} {operator : Operator} {operands : List Expression}
    (known : Operator.ofName? name = some operator)
    (parts : expressions place items = .ok operands)
    (counted : operands.length = operator.arity) :
    ExpressionOf place (.operator name (some items)) (.call operator.name operands)

theorem expression_iff {compiled : Expression} :
    expression place document = .ok compiled ↔
      ExpressionOf place document.expressionForm compiled := by
  rw [expression]
  split
  next written shown =>
    rw [shown]
    constructor
    · intro done
      cases done
      exact .literal written
    · intro done
      cases done
      rfl
  next name shown =>
    rw [shown]
    constructor
    · intro done
      cases done
      exact .read name
    · intro done
      cases done
      rfl
  next function items shown =>
    rw [shown, Except.bind_eq_ok_iff]
    constructor
    · rintro ⟨operands, parts, returned⟩
      cases returned
      exact .call parts
    · intro done
      cases done with
      | call parts => exact ⟨_, parts, rfl⟩
  next function shown =>
    rw [shown]
    constructor
    · intro done
      cases done
    · intro done
      cases done
  next name operands shown =>
    split
    next absent _ =>
      rw [shown]
      constructor
      · intro done
        cases done
      · intro done
        cases done with
        | operator known _ _ =>
          rw [absent] at known
          cases known
    next =>
      rw [shown]
      constructor
      · intro done
        cases done
      · intro done
        cases done
    next operator items _ known =>
      rw [shown, Except.bind_eq_ok_iff]
      constructor
      · rintro ⟨operands, parts, returned⟩
        split at returned
        next counted =>
          cases returned
          exact .operator known parts counted
        next => cases returned
      · intro done
        cases done with
        | operator same parts counted =>
          obtain rfl := Option.some.inj (known.symm.trans same)
          exact ⟨_, parts, if_pos counted⟩
  next shown =>
    rw [shown]
    constructor
    · intro done
      cases done
    · intro done
      cases done

/-! ### Blocks -/

theorem block_iff {compiled : List Statement} :
    block place document = .ok compiled ↔
      ∃ items, document.items? = some items ∧ statements place 0 items = .ok compiled := by
  rw [block]
  split
  next absent => simp [absent, refuse]
  next items list => simp [list]

theorem statements_nil (index : Nat) : statements place index [] = .ok [] := by
  rw [statements]

theorem statements_cons {index : Nat} {rest : List Json} {compiled : List Statement} :
    statements place index (document :: rest) = .ok compiled ↔
      ∃ first others, statement (place.below (.statement index)) document = .ok first ∧
        statements place (index + 1) rest = .ok others ∧ compiled = first :: others := by
  rw [statements, Except.bind_eq_ok_iff]
  refine exists_congr fun first => ?_
  rw [Except.bind_eq_ok_iff]
  constructor
  · rintro ⟨same, others, onward, returned⟩
    cases returned
    exact ⟨others, same, onward, rfl⟩
  · rintro ⟨others, same, onward, rfl⟩
    exact ⟨same, others, onward, rfl⟩

/-- What a block that may be left out is compiled to: it is empty then. -/
inductive OtherwiseOf (place : Place) : Option Json → List Statement → Prop
  | absent : OtherwiseOf place none []
  | written {part : Json} {compiled : List Statement} (body : block place part = .ok compiled) :
    OtherwiseOf place (some part) compiled

/-- What a statement of a form is compiled to. -/
inductive StatementOf (place : Place) (document : Json) : StatementForm → Statement → Prop
  | say (text : Text) : StatementOf place document (.say text) (.say text)
  | command (text : Text) : StatementOf place document (.command text) (.command text)
  | call {called : Expression} (whole : expression place document = .ok called) :
    StatementOf place document .call (.evaluate called)
  | assign (name : Text) {part : Json} {value : Expression}
    (assigned : expression place part = .ok value) :
    StatementOf place document (.assign name part) (.assign name value)
  | branch {condition body : Json} {items : List Json} {otherwise : Option Json}
    {first : Expression} {inner : List Statement} {others : List (Clause Statement)}
    {final : List Statement} (tested : expression place condition = .ok first)
    (inside : block place body = .ok inner) (further : clauses place 0 items = .ok others)
    (last : OtherwiseOf (place.below .otherwise) otherwise final) :
    StatementOf place document (.branch condition body (some items) otherwise)
      (.branch (⟨first, inner⟩ :: others) final)
  | choice {items : List Json} {offered : List (Reply Statement)}
    (parts : replies place 0 items = .ok offered) :
    StatementOf place document (.choice items) (.choice offered)
  | jump (target : Text) : StatementOf place document (.jump target) (.jump target)

theorem statement_iff {compiled : Statement} :
    statement place document = .ok compiled ↔
      StatementOf place document document.statementForm compiled := by
  rw [statement]
  split
  next text shown =>
    rw [shown]
    constructor
    · intro done
      cases done
      exact .say text
    · intro done
      cases done
      rfl
  next text shown =>
    rw [shown]
    constructor
    · intro done
      cases done
      exact .command text
    · intro done
      cases done
      rfl
  next shown =>
    rw [shown, Except.bind_eq_ok_iff]
    constructor
    · rintro ⟨called, whole, returned⟩
      cases returned
      exact .call whole
    · intro done
      cases done with
      | call whole => exact ⟨_, whole, rfl⟩
  next name part shown =>
    rw [shown, Except.bind_eq_ok_iff]
    constructor
    · rintro ⟨value, assigned, returned⟩
      cases returned
      exact .assign name assigned
    · intro done
      cases done with
      | assign _ assigned => exact ⟨_, assigned, rfl⟩
  next condition body extras otherwise shown =>
    constructor
    · intro done
      obtain ⟨first, tested, done⟩ := Except.bind_eq_ok_iff.1 done
      obtain ⟨inner, inside, done⟩ := Except.bind_eq_ok_iff.1 done
      split at done
      next => cases done
      next items =>
        obtain ⟨others, further, done⟩ := Except.bind_eq_ok_iff.1 done
        obtain ⟨final, last, returned⟩ := Except.bind_eq_ok_iff.1 done
        cases returned
        rw [shown]
        refine .branch tested inside further ?_
        split at last
        next =>
          cases last
          exact .absent
        next => exact .written last
    · intro done
      rw [shown] at done
      cases done with
      | branch tested inside further last =>
        refine Except.bind_eq_ok_iff.2 ⟨_, tested, ?_⟩
        refine Except.bind_eq_ok_iff.2 ⟨_, inside, ?_⟩
        refine Except.bind_eq_ok_iff.2 ⟨_, further, ?_⟩
        refine Except.bind_eq_ok_iff.2 ⟨_, ?_, rfl⟩
        cases last with
        | absent => rfl
        | written body => exact body
  next items shown =>
    rw [shown, Except.bind_eq_ok_iff]
    constructor
    · rintro ⟨offered, parts, returned⟩
      cases returned
      exact .choice parts
    · intro done
      cases done with
      | choice parts => exact ⟨_, parts, rfl⟩
  next target shown =>
    rw [shown]
    constructor
    · intro done
      cases done
      exact .jump target
    · intro done
      cases done
      rfl
  next shown =>
    rw [shown]
    constructor
    · intro done
      cases done
    · intro done
      cases done

/-! ### Clauses and replies -/

theorem clauses_nil (index : Nat) : clauses place index [] = .ok [] := by
  rw [clauses]

theorem clauses_cons {index : Nat} {rest : List Json} {compiled : List (Clause Statement)} :
    clauses place index (document :: rest) = .ok compiled ↔
      ∃ form condition body others, document.clauseForm? = some form ∧
        expression (place.below (.clause index)) form.condition = .ok condition ∧
        block (place.below (.clause index)) form.body = .ok body ∧
        clauses place (index + 1) rest = .ok others ∧ compiled = ⟨condition, body⟩ :: others := by
  rw [clauses]
  split
  next absent => simp [absent, refuse]
  next form found =>
    constructor
    · intro done
      obtain ⟨condition, tested, done⟩ := Except.bind_eq_ok_iff.1 done
      obtain ⟨body, inside, done⟩ := Except.bind_eq_ok_iff.1 done
      obtain ⟨others, further, returned⟩ := Except.bind_eq_ok_iff.1 done
      cases returned
      exact ⟨form, condition, body, others, found, tested, inside, further, rfl⟩
    · rintro ⟨same, condition, body, others, again, tested, inside, further, rfl⟩
      obtain rfl := Option.some.inj (found.symm.trans again)
      refine Except.bind_eq_ok_iff.2 ⟨_, tested, ?_⟩
      refine Except.bind_eq_ok_iff.2 ⟨_, inside, ?_⟩
      exact Except.bind_eq_ok_iff.2 ⟨_, further, rfl⟩

/-- What the target of a reply is compiled to: a jump, if it is written. -/
inductive TargetOf : Option (Option Text) → List Statement → Prop
  | absent : TargetOf none []
  | written (target : Text) : TargetOf (some (some target)) [.jump target]

/-- What the condition of a reply is compiled to. -/
inductive ConditionOf (place : Place) : Option Json → Option Expression → Prop
  | absent : ConditionOf place none none
  | written {part : Json} {condition : Expression}
    (tested : expression place part = .ok condition) :
    ConditionOf place (some part) (some condition)

theorem otherwise_iff {place : Place} {part : Option Json} {compiled : List Statement} :
    (match _given : part with
      | none => .ok []
      | some part => block place part : Except LoadFault (List Statement)) = .ok compiled ↔
      OtherwiseOf place part compiled := by
  constructor
  · intro done
    split at done
    next =>
      cases done
      exact .absent
    next => exact .written done
  · intro last
    cases last with
    | absent => rfl
    | written body => exact body

theorem target_iff {place : Place} {target : Option (Option Text)} {jump : List Statement} :
    (match target with
      | none => .ok []
      | some none => refuse place .target
      | some (some target) => .ok [Statement.jump target] : Except LoadFault (List Statement)) =
      .ok jump ↔ TargetOf target jump := by
  constructor
  · intro done
    split at done
    next =>
      cases done
      exact .absent
    next => cases done
    next target =>
      cases done
      exact .written target
  · intro leaves
    cases leaves with
    | absent => rfl
    | written target => rfl

theorem condition_iff {place : Place} {part : Option Json} {condition : Option Expression} :
    (match part with
      | none => .ok none
      | some part => do
        let condition ← expression place part
        return some condition : Except LoadFault (Option Expression)) = .ok condition ↔
      ConditionOf place part condition := by
  constructor
  · intro done
    split at done
    next =>
      cases done
      exact .absent
    next =>
      obtain ⟨condition, tested, returned⟩ := Except.bind_eq_ok_iff.1 done
      cases returned
      exact .written tested
  · intro tested
    cases tested with
    | absent => rfl
    | written tested => exact Except.bind_eq_ok_iff.2 ⟨_, tested, rfl⟩

theorem replies_nil (index : Nat) : replies place index [] = .ok [] := by
  rw [replies]

theorem replies_cons {index : Nat} {rest : List Json} {compiled : List (Reply Statement)} :
    replies place index (document :: rest) = .ok compiled ↔
      ∃ form body jump condition others, document.replyForm? = some form ∧
        OtherwiseOf (place.below (.reply index)) form.body body ∧ TargetOf form.target jump ∧
        ConditionOf (place.below (.reply index)) form.condition condition ∧
        replies place (index + 1) rest = .ok others ∧
        compiled = ⟨form.text, body ++ jump, condition⟩ :: others := by
  rw [replies]
  split
  next absent => simp [absent, refuse]
  next form found =>
    constructor
    · intro done
      obtain ⟨body, inside, done⟩ := Except.bind_eq_ok_iff.1 done
      obtain ⟨jump, leaves, done⟩ := Except.bind_eq_ok_iff.1 done
      obtain ⟨condition, tested, done⟩ := Except.bind_eq_ok_iff.1 done
      obtain ⟨others, further, returned⟩ := Except.bind_eq_ok_iff.1 done
      cases returned
      exact ⟨form, body, jump, condition, others, found, otherwise_iff.1 inside,
        target_iff.1 leaves, condition_iff.1 tested, further, rfl⟩
    · rintro ⟨same, body, jump, condition, others, again, inside, leaves, tested, further, rfl⟩
      obtain rfl := Option.some.inj (found.symm.trans again)
      refine Except.bind_eq_ok_iff.2 ⟨body, otherwise_iff.2 inside, ?_⟩
      refine Except.bind_eq_ok_iff.2 ⟨jump, target_iff.2 leaves, ?_⟩
      refine Except.bind_eq_ok_iff.2 ⟨condition, condition_iff.2 tested, ?_⟩
      exact Except.bind_eq_ok_iff.2 ⟨_, further, rfl⟩

end Body

end Parley
