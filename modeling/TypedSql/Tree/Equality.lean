import TypedSql.Tree.Fold
import TypedSql.Value.Equality

/-!
Equality of trees and what of a tree goes into its hash. Two trees are equal when they have the
same shape, the same names and tags, and literals that are equal as values.
-/

namespace TypedSql

/-! ### Equality -/

/-- Whether two lists have the same length and agree item by item. -/
def agree {α β : Type} (test : α → β → Bool) : List α → List β → Bool
  | [], [] => true
  | a :: as, b :: bs => test a b && agree test as bs
  | _, _ => false

/-- Whether two optional values are both missing or agree. -/
def agree? {α β : Type} (test : α → β → Bool) : Option α → Option β → Bool
  | none, none => true
  | some a, some b => test a b
  | _, _ => false

/-- Whether the clauses of a statement pass the tests that stand in the places of its parts. -/
def Clauses.agree {ε σ : Type} (tests : Clauses (ε → Bool) (σ → Bool)) (c : Clauses ε σ) : Bool :=
  let holds := fun {α : Type} (test : α → Bool) (x : α) => test x
  tests.table == c.table &&
    TypedSql.agree holds tests.projection c.projection &&
    TypedSql.agree (fun t j => t.kind == j.kind && t.table == j.table && t.on j.on)
      tests.joins c.joins &&
    agree? holds tests.filter c.filter &&
    TypedSql.agree holds tests.groupBy c.groupBy &&
    agree? holds tests.having c.having &&
    TypedSql.agree (fun t o => t.direction == o.direction && t.expr o.expr)
      tests.orderBy c.orderBy &&
    tests.limit == c.limit &&
    tests.offset == c.offset &&
    tests.columns == c.columns &&
    TypedSql.agree (TypedSql.agree holds) tests.rows c.rows &&
    agree? holds tests.source c.source &&
    TypedSql.agree (fun t a => t.column == a.column && t.value a.value)
      tests.assignments c.assignments &&
    tests.returning == c.returning

/-- The traversal that turns a tree into the test of being equal to it. -/
def equalityAlgebra : Algebra (Expr → Bool) (Statement → Bool) where
  column table column aliasName type
    | .column table' column' aliasName' type' =>
      table == table' && column == column' && aliasName == aliasName' && type == type'
    | _ => false
  literal value type
    | .literal value' type' => value == value' && type == type'
    | _ => false
  unary op operand
    | .unary op' operand' => op == op' && operand operand'
    | _ => false
  binary op left right type
    | .binary op' left' right' type' =>
      op == op' && left left' && right right' && type == type'
    | _ => false
  call function arguments type
    | .call function' arguments' type' =>
      function == function' && agree (fun test e => test e) arguments arguments' &&
        type == type'
    | _ => false
  caseWhen branches otherwise type
    | .caseWhen branches' otherwise' type' =>
      agree (fun test b => test.1 b.1 && test.2 b.2) branches branches' &&
        agree? (fun test e => test e) otherwise otherwise' && type == type'
    | _ => false
  subquery statement type
    | .subquery statement' type' => statement statement' && type == type'
    | _ => false
  statement kind resultType clauses s :=
    kind == s.kind && resultType == s.resultType && clauses.agree s.clauses

def Expr.same (a b : Expr) : Bool :=
  a.fold equalityAlgebra b

def Statement.same (a b : Statement) : Bool :=
  a.fold equalityAlgebra b

instance : BEq Expr := ⟨Expr.same⟩

instance : BEq Statement := ⟨Statement.same⟩

/-! ### Hashes -/

/-- A list in a hash: its length and then its items. -/
def hashList {α : Type} (hash : α → List HashDatum) (items : List α) : List HashDatum :=
  .length items.length :: items.flatMap hash

/-- An optional part in a hash: whether it is there, and what it is. -/
def hashOption {α : Type} (hash : α → List HashDatum) : Option α → List HashDatum
  | none => [.flag false]
  | some a => .flag true :: hash a

def hashText (s : String) : List HashDatum :=
  [.text s]

def Table.hashData (t : Table) : List HashDatum :=
  .text t.name :: hashOption hashText t.aliasName

/-- The clauses of a statement in its hash, given the data of its parts. -/
def Clauses.hashData (c : Clauses (List HashDatum) (List HashDatum)) : List HashDatum :=
  hashOption Table.hashData c.table ++
    hashList id c.projection ++
    hashList (fun j => .tag j.kind.tagWord :: (j.table.hashData ++ j.on)) c.joins ++
    hashOption id c.filter ++
    hashList id c.groupBy ++
    hashOption id c.having ++
    hashList (fun o => o.expr ++ [.tag o.direction.tagWord]) c.orderBy ++
    hashOption (fun n => [.integer n]) c.limit ++
    hashOption (fun n => [.integer n]) c.offset ++
    hashOption (hashList hashText) c.columns ++
    hashList (hashList id) c.rows ++
    hashOption id c.source ++
    hashList (fun a => .text a.column :: a.value) c.assignments ++
    hashList hashText c.returning

/-- The traversal that collects what goes into a hash. -/
def hashAlgebra : Algebra (List HashDatum) (List HashDatum) where
  column table column aliasName type :=
    .tag "Column" :: .text table :: .text column :: (hashOption hashText aliasName ++
      [.tag type.tagWord])
  literal value type := .tag "Literal" :: (value.hashData ++ [.tag type.tagWord])
  unary op operand := .tag "Unary" :: (operand ++ [.tag op.tagWord])
  binary op left right type :=
    .tag "Binary" :: (left ++ .tag op.tagWord :: (right ++ [.tag type.tagWord]))
  call function arguments type :=
    .tag "Function" :: .text function :: (hashList id arguments ++ [.tag type.tagWord])
  caseWhen branches otherwise type :=
    .tag "Case" :: (hashList (fun b => b.1 ++ b.2) branches ++ hashOption id otherwise ++
      [.tag type.tagWord])
  subquery statement type := .tag "Subquery" :: (statement ++ [.tag type.tagWord])
  statement kind resultType clauses :=
    .tag kind.tagWord :: .tag resultType.tagWord :: clauses.hashData

def Expr.hashData (e : Expr) : List HashDatum :=
  e.fold hashAlgebra

def Statement.hashData (s : Statement) : List HashDatum :=
  s.fold hashAlgebra

end TypedSql
