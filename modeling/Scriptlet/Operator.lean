set_option autoImplicit false

namespace Scriptlet

inductive Arity where
  | unary
  | binary
deriving DecidableEq, Repr

inductive Associativity where
  | leftToRight
  | rightToLeft
deriving DecidableEq, Repr

-- An operator with its priority; the lower the priority, the tighter it binds.
structure Operator where
  lexeme : String
  arity : Arity
  priority : Nat
  associativity : Associativity
deriving DecidableEq, Repr

namespace Operator

def unary (lexeme : String) (priority : Nat) : Operator :=
  ⟨lexeme, .unary, priority, .rightToLeft⟩

def binary (lexeme : String) (priority : Nat) : Operator :=
  ⟨lexeme, .binary, priority, .leftToRight⟩

def table : List Operator :=
  [ unary "+" 1, unary "-" 1, unary "!" 1,
    binary "*" 2, binary "/" 2, binary "%" 2,
    binary "+" 3, binary "-" 3,
    binary "<" 5, binary "<=" 5, binary ">" 5, binary ">=" 5,
    binary "==" 6, binary "!=" 6,
    binary "&&" 10,
    binary "||" 11,
    { binary "=" 13 with associativity := .rightToLeft } ]

def find? (lexeme : String) (arity : Arity) : Option Operator :=
  table.find? fun operator => operator.arity = arity && operator.lexeme = lexeme

def isLexeme (lexeme : String) : Bool :=
  table.any fun operator => operator.lexeme = lexeme

def isBeginning (candidate : String) : Bool :=
  table.any fun operator => candidate.toList.isPrefixOf operator.lexeme.toList

end Operator

structure OperatorGroup where
  priority : Nat
  members : List Operator
deriving DecidableEq, Repr

namespace OperatorGroup

def find? (group : OperatorGroup) (lexeme : String) : Option Operator :=
  group.members.find? fun operator => operator.lexeme = lexeme

def contains (group : OperatorGroup) (lexeme : String) : Bool :=
  (group.find? lexeme).isSome

def insert (operator : Operator) : List OperatorGroup → List OperatorGroup
  | [] => [⟨operator.priority, [operator]⟩]
  | group :: groups =>
      if group.priority = operator.priority then
        { group with members := group.members ++ [operator] } :: groups
      else if group.priority < operator.priority then
        ⟨operator.priority, [operator]⟩ :: group :: groups
      else
        group :: insert operator groups

end OperatorGroup

def binaryGroups : List OperatorGroup :=
  (Operator.table.filter fun operator => operator.arity = .binary).foldl
    (fun groups operator => OperatorGroup.insert operator groups) []

end Scriptlet
