/-!
The operators of expressions and the groups that the checks of operands tell apart.
-/

namespace TypedSql

inductive Operator where
  | eq
  | ne
  | lt
  | le
  | gt
  | ge
  | and
  | or
  | like
  | notLike
  | isIn
  | notIn
  | isNull
  | isNotNull
  | add
  | sub
  | mul
  | div
  | mod
  deriving DecidableEq, Repr, Inhabited

namespace Operator

def all : List Operator :=
  [eq, ne, lt, le, gt, ge, and, or, like, notLike, isIn, notIn, isNull, isNotNull, add, sub, mul,
    div, mod]

/-- The operator as it stands in SQL. -/
def symbol : Operator → String
  | eq => "="
  | ne => "!="
  | lt => "<"
  | le => "<="
  | gt => ">"
  | ge => ">="
  | and => "AND"
  | or => "OR"
  | like => "LIKE"
  | notLike => "NOT LIKE"
  | isIn => "IN"
  | notIn => "NOT IN"
  | isNull => "IS NULL"
  | isNotNull => "IS NOT NULL"
  | add => "+"
  | sub => "-"
  | mul => "*"
  | div => "/"
  | mod => "%"

/-- The operator's name in the developer's view of a tree. -/
def tagWord : Operator → String
  | eq => "Eq"
  | ne => "Ne"
  | lt => "Lt"
  | le => "Le"
  | gt => "Gt"
  | ge => "Ge"
  | and => "And"
  | or => "Or"
  | like => "Like"
  | notLike => "NotLike"
  | isIn => "In"
  | notIn => "NotIn"
  | isNull => "IsNull"
  | isNotNull => "IsNotNull"
  | add => "Add"
  | sub => "Sub"
  | mul => "Mul"
  | div => "Div"
  | mod => "Mod"

def ofSymbol? (symbol : String) : Option Operator :=
  all.find? (·.symbol == symbol)

/-- Operators that stand behind their only operand. -/
def isUnary : Operator → Bool
  | isNull | isNotNull => true
  | _ => false

def isComparison : Operator → Bool
  | eq | ne | lt | le | gt | ge => true
  | _ => false

def isLogical : Operator → Bool
  | and | or => true
  | _ => false

def isArithmetic : Operator → Bool
  | add | sub | mul | div | mod => true
  | _ => false

end Operator

end TypedSql
