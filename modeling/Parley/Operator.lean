/-
The standard operators. Arithmetic takes its operands as numbers, logic as truth
values. Addition joins texts as soon as one operand is a string, and equality
takes the left operand as the kind of the right one.
-/

import Parley.Value

namespace Parley

/-- A standard operator. -/
inductive Operator where
  | add
  | minus
  | unaryMinus
  | divide
  | multiply
  | equalTo
  | notEqualTo
  | greaterThan
  | greaterThanOrEqualTo
  | lessThan
  | lessThanOrEqualTo
  | and
  | or
  | xor
  | not
  deriving DecidableEq, Repr

namespace Operator

/-- The operators in the order in which a library lists them. -/
def all : List Operator :=
  [add, minus, unaryMinus, divide, multiply, equalTo, notEqualTo, greaterThan,
    greaterThanOrEqualTo, lessThan, lessThanOrEqualTo, and, or, xor, not]

/-- The name that a script calls an operator by. -/
def name : Operator → Text
  | add => "Add"
  | minus => "Minus"
  | unaryMinus => "UnaryMinus"
  | divide => "Divide"
  | multiply => "Multiply"
  | equalTo => "EqualTo"
  | notEqualTo => "NotEqualTo"
  | greaterThan => "GreaterThan"
  | greaterThanOrEqualTo => "GreaterThanOrEqualTo"
  | lessThan => "LessThan"
  | lessThanOrEqualTo => "LessThanOrEqualTo"
  | and => "And"
  | or => "Or"
  | xor => "Xor"
  | not => "Not"

/-- The operator of a name. -/
def ofName? (wanted : Text) : Option Operator := all.find? fun operator => operator.name = wanted

/-- The number of operands. -/
def arity : Operator → Nat
  | unaryMinus | not => 1
  | _ => 2

/-- The sum of two values: their texts joined if one is a string, else the sum of their numbers. -/
def sum (left right : Value) : Value :=
  if left.isString || right.isString then .string (left.toText ++ right.toText)
  else .number (left.toNumber.add right.toNumber)

/-- Equality of values, the left one taken as the kind of the right one. -/
def equal (left : Value) : Value → Bool
  | .number number => left.toNumber.equals number
  | .string text => left.toText = text
  | .bool truth => left.holds = truth
  | .null => left.isNull

/-- What an operator of two operands yields. -/
def binary (operator : Operator) (left right : Value) : Value :=
  match operator with
  | add => sum left right
  | minus => .number (left.toNumber.sub right.toNumber)
  | divide => .number (left.toNumber.div right.toNumber)
  | multiply => .number (left.toNumber.mul right.toNumber)
  | equalTo => .bool (equal left right)
  | notEqualTo => .bool !(equal left right)
  | greaterThan => .bool (right.toNumber.less left.toNumber)
  | greaterThanOrEqualTo => .bool (right.toNumber.lessOrEqual left.toNumber)
  | lessThan => .bool (left.toNumber.less right.toNumber)
  | lessThanOrEqualTo => .bool (left.toNumber.lessOrEqual right.toNumber)
  | and => .bool (left.holds && right.holds)
  | or => .bool (left.holds || right.holds)
  | xor => .bool (left.holds ^^ right.holds)
  | unaryMinus | not => .null

/-- What an operator yields for operands of its number; for any other number it yields null, but
libraries count the operands first. -/
def apply (operator : Operator) (operands : List Value) : Value :=
  match operator, operands with
  | unaryMinus, [operand] => .number operand.toNumber.neg
  | not, [operand] => .bool !operand.holds
  | operator, [left, right] => binary operator left right
  | _, _ => .null

end Operator

end Parley
