import CSharpLayout.Spelling

/-! Operators of expressions and of operator declarations. -/

namespace CSharpLayout

inductive AssignmentOperator where
  | assign
  | add
  | subtract
  | multiply
  | divide
  | modulus
  | shiftLeft
  | shiftRight
  | bitwiseAnd
  | bitwiseOr
  | exclusiveOr
  deriving DecidableEq, Repr

def AssignmentOperator.token : AssignmentOperator → String
  | .assign => "="
  | .add => "+="
  | .subtract => "-="
  | .multiply => "*="
  | .divide => "/="
  | .modulus => "%="
  | .shiftLeft => "<<="
  | .shiftRight => ">>="
  | .bitwiseAnd => "&="
  | .bitwiseOr => "|="
  | .exclusiveOr => "^="

instance : Spelled AssignmentOperator where
  all := [.assign, .add, .subtract, .multiply, .divide, .modulus, .shiftLeft, .shiftRight,
    .bitwiseAnd, .bitwiseOr, .exclusiveOr]
  spelling
    | .assign => "Assign"
    | .add => "Add"
    | .subtract => "Subtract"
    | .multiply => "Multiply"
    | .divide => "Divide"
    | .modulus => "Modulus"
    | .shiftLeft => "ShiftLeft"
    | .shiftRight => "ShiftRight"
    | .bitwiseAnd => "BitwiseAnd"
    | .bitwiseOr => "BitwiseOr"
    | .exclusiveOr => "ExclusiveOr"

inductive BinaryOperator where
  | bitwiseAnd
  | bitwiseOr
  | conditionalAnd
  | conditionalOr
  | exclusiveOr
  | greaterThan
  | greaterThanOrEqual
  | equality
  | inequality
  | lessThan
  | lessThanOrEqual
  | add
  | subtract
  | multiply
  | divide
  | modulus
  | shiftLeft
  | shiftRight
  | nullCoalescing
  deriving DecidableEq, Repr

def BinaryOperator.token : BinaryOperator → String
  | .bitwiseAnd => "&"
  | .bitwiseOr => "|"
  | .conditionalAnd => "&&"
  | .conditionalOr => "||"
  | .exclusiveOr => "^"
  | .greaterThan => ">"
  | .greaterThanOrEqual => ">="
  | .equality => "=="
  | .inequality => "!="
  | .lessThan => "<"
  | .lessThanOrEqual => "<="
  | .add => "+"
  | .subtract => "-"
  | .multiply => "*"
  | .divide => "/"
  | .modulus => "%"
  | .shiftLeft => "<<"
  | .shiftRight => ">>"
  | .nullCoalescing => "??"

instance : Spelled BinaryOperator where
  all := [.bitwiseAnd, .bitwiseOr, .conditionalAnd, .conditionalOr, .exclusiveOr, .greaterThan,
    .greaterThanOrEqual, .equality, .inequality, .lessThan, .lessThanOrEqual, .add, .subtract,
    .multiply, .divide, .modulus, .shiftLeft, .shiftRight, .nullCoalescing]
  spelling
    | .bitwiseAnd => "BitwiseAnd"
    | .bitwiseOr => "BitwiseOr"
    | .conditionalAnd => "ConditionalAnd"
    | .conditionalOr => "ConditionalOr"
    | .exclusiveOr => "ExclusiveOr"
    | .greaterThan => "GreaterThan"
    | .greaterThanOrEqual => "GreaterThanOrEqual"
    | .equality => "Equality"
    | .inequality => "InEquality"
    | .lessThan => "LessThan"
    | .lessThanOrEqual => "LessThanOrEqual"
    | .add => "Add"
    | .subtract => "Subtract"
    | .multiply => "Multiply"
    | .divide => "Divide"
    | .modulus => "Modulus"
    | .shiftLeft => "ShiftLeft"
    | .shiftRight => "ShiftRight"
    | .nullCoalescing => "NullCoalescing"

inductive UnaryOperator where
  | not
  | bitNot
  | minus
  | plus
  | increment
  | decrement
  | postIncrement
  | postDecrement
  | dereference
  | addressOf
  | await
  deriving DecidableEq, Repr

namespace UnaryOperator

def token : UnaryOperator → String
  | .not => "!"
  | .bitNot => "~"
  | .minus => "-"
  | .plus => "+"
  | .increment => "++"
  | .decrement => "--"
  | .postIncrement => "++"
  | .postDecrement => "--"
  | .dereference => "*"
  | .addressOf => "&"
  | .await => "await"

def followsOperand : UnaryOperator → Bool
  | .postIncrement => true
  | .postDecrement => true
  | _ => false

end UnaryOperator

instance : Spelled UnaryOperator where
  all := [.not, .bitNot, .minus, .plus, .increment, .decrement, .postIncrement, .postDecrement,
    .dereference, .addressOf, .await]
  spelling
    | .not => "Not"
    | .bitNot => "BitNot"
    | .minus => "Minus"
    | .plus => "Plus"
    | .increment => "Increment"
    | .decrement => "Decrement"
    | .postIncrement => "PostIncrement"
    | .postDecrement => "PostDecrement"
    | .dereference => "Dereference"
    | .addressOf => "AddressOf"
    | .await => "Await"

inductive OverloadableOperator where
  | logicalNot
  | onesComplement
  | increment
  | decrement
  | true
  | false
  | unaryPlus
  | unaryNegation
  | addition
  | subtraction
  | multiply
  | division
  | modulus
  | bitwiseAnd
  | bitwiseOr
  | exclusiveOr
  | leftShift
  | rightShift
  | equality
  | inequality
  | greaterThan
  | lessThan
  | greaterThanOrEqual
  | lessThanOrEqual
  | implicit
  | explicit
  deriving DecidableEq, Repr

namespace OverloadableOperator

def token? : OverloadableOperator → Option String
  | .logicalNot => some "!"
  | .onesComplement => some "~"
  | .increment => some "++"
  | .decrement => some "--"
  | .true => some "true"
  | .false => some "false"
  | .unaryPlus => some "+"
  | .unaryNegation => some "-"
  | .addition => some "+"
  | .subtraction => some "-"
  | .multiply => some "*"
  | .division => some "/"
  | .modulus => some "%"
  | .bitwiseAnd => some "&"
  | .bitwiseOr => some "|"
  | .exclusiveOr => some "^"
  | .leftShift => some "<<"
  | .rightShift => some ">>"
  | .equality => some "=="
  | .inequality => some "!="
  | .greaterThan => some ">"
  | .lessThan => some "<"
  | .greaterThanOrEqual => some ">="
  | .lessThanOrEqual => some "<="
  | .implicit => none
  | .explicit => none

def isConversion : OverloadableOperator → Bool
  | .implicit => Bool.true
  | .explicit => Bool.true
  | _ => Bool.false

end OverloadableOperator

instance : Spelled OverloadableOperator where
  all := [.logicalNot, .onesComplement, .increment, .decrement, .true, .false, .unaryPlus,
    .unaryNegation, .addition, .subtraction, .multiply, .division, .modulus, .bitwiseAnd,
    .bitwiseOr, .exclusiveOr, .leftShift, .rightShift, .equality, .inequality, .greaterThan,
    .lessThan, .greaterThanOrEqual, .lessThanOrEqual, .implicit, .explicit]
  spelling
    | .logicalNot => "LogicalNot"
    | .onesComplement => "OnesComplement"
    | .increment => "Increment"
    | .decrement => "Decrement"
    | .true => "True"
    | .false => "False"
    | .unaryPlus => "UnaryPlus"
    | .unaryNegation => "UnaryNegation"
    | .addition => "Addition"
    | .subtraction => "Subtraction"
    | .multiply => "Multiply"
    | .division => "Division"
    | .modulus => "Modulus"
    | .bitwiseAnd => "BitwiseAnd"
    | .bitwiseOr => "BitwiseOr"
    | .exclusiveOr => "ExclusiveOr"
    | .leftShift => "LeftShift"
    | .rightShift => "RightShift"
    | .equality => "Equality"
    | .inequality => "Inequality"
    | .greaterThan => "GreaterThan"
    | .lessThan => "LessThan"
    | .greaterThanOrEqual => "GreaterThanOrEqual"
    | .lessThanOrEqual => "LessThanOrEqual"
    | .implicit => "Implicit"
    | .explicit => "Explicit"

end CSharpLayout
