import Scriptlet.Expr.OpenChain
import Scriptlet.Fault

/-!
The grammar as a parser that moves through all tokens of a text, trivia included. A rule that does not
apply may have gone past trivia, but past nothing else.
-/

set_option autoImplicit false

namespace Scriptlet

structure Parser where
  tokens : List Token
  position : Nat := 0
deriving DecidableEq, Repr

abbrev Parse := EStateM (Stop SyntacticError) Parser

def Parser.skipTrivia (parser : Parser) : Parser :=
  let trivia := (parser.tokens.drop parser.position).takeWhile fun token => !token.isSignificant
  { parser with position := parser.position + trivia.length }

def Parser.advance (parser : Parser) : Parser := { parser with position := parser.position + 1 }

namespace Parse

def outOfFuel {α : Type} : Parse α := throw .outOfFuel

def fail {α : Type} (line : Nat) (fault : SyntacticFault) : Parse α := throw (.failed ⟨line, fault⟩)

def peek : Parse (Option Token) := do
  modify Parser.skipTrivia
  let parser ← get
  return parser.tokens[parser.position]?

def acceptIf (test : Token → Bool) : Parse (Option Token) := do
  match ← peek with
  | none => return none
  | some token =>
      if test token then
        modify Parser.advance
        return some token
      else
        return none

def accept (text : String) : Parse (Option Token) := acceptIf fun token => token.text = text

def acceptKind (kind : TokenKind) : Parse (Option Token) := acceptIf fun token => token.kind = kind

def line : Parse Nat := do
  match ← peek with
  | some token => return token.line
  | none =>
      let parser ← get
      return (parser.tokens.getLast?.map Token.line).getD 1

def expected {α : Type} (what : Expectation) : Parse α := do
  let line ← line
  let found ← peek
  fail line (.expected what (found.map Token.toLexeme))

def expect (text : String) : Parse Token := do
  match ← accept text with
  | some token => return token
  | none => expected (.lexeme text)

def expectKind (kind : TokenKind) : Parse Token := do
  match ← acceptKind kind with
  | some token => return token
  | none => expected (.kind kind)

def require (what : Expectation) : Option Expr → Parse Expr
  | some read => return read
  | none => expected what

-- A construct that its first word tells from all others, whatever the kind of this token.
def construct (word : String) (behind : Nat → Parse Expr) : Parse (Option Expr) := do
  match ← accept word with
  | none => return none
  | some token => return some (← behind token.line)

def blockOf (statements : Parse (List Expr)) (line : Nat) : Parse Expr := do
  let inner ← statements
  let _ ← expect "\x7d"
  return .block line inner

def otherwise (first second : Parse (Option Expr)) : Parse (Option Expr) := do
  match ← first with
  | some read => return some read
  | none => second

def constructs (declaration conditional loop block : Nat → Parse Expr) : Parse (Option Expr) :=
  otherwise (construct "let" declaration) <| otherwise (construct "if" conditional) <|
    otherwise (construct "while" loop) (construct "\x7b" block)

mutual

def statements : Nat → Parse (List Expr)
  | 0 => outOfFuel
  | fuel + 1 => do
      match ← statement fuel with
      | none => return []
      | some first =>
          let others ← statements fuel
          return first :: others
termination_by structural fuel => fuel

-- A semicolon is taken behind an expression, and also tried where there is none.
def statement : Nat → Parse (Option Expr)
  | 0 => outOfFuel
  | fuel + 1 => do
      match ← accept ";" with
      | some semicolon => return some (.empty semicolon.line)
      | none =>
          let read ← expression fuel
          let _ ← accept ";"
          return read
termination_by structural fuel => fuel

def expression : Nat → Parse (Option Expr)
  | 0 => outOfFuel
  | fuel + 1 => binary fuel 0
termination_by structural fuel => fuel

-- Level 0 is the loosest group of operators, and the level behind the last group is that of the
-- unary expressions.
def binary : Nat → Nat → Parse (Option Expr)
  | 0, _ => outOfFuel
  | fuel + 1, level =>
      match binaryGroups[level]? with
      | none => unary fuel
      | some group => do
          match ← binary fuel (level + 1) with
          | none => return none
          | some operand =>
              match ← continuation fuel group level with
              | none => return some operand
              | some operations => return some (operations.fill operand)
termination_by structural fuel => fuel

def continuation : Nat → OperatorGroup → Nat → Parse (Option OpenChain)
  | 0, _, _ => outOfFuel
  | fuel + 1, group, level => do
      match ← acceptIf fun token => token.kind = .operator && group.contains token.text with
      | none => return none
      | some token =>
          match group.find? token.text with
          | none => fail token.line (.unknownBinaryOperator token.text)
          | some operator =>
              match ← binary fuel (level + 1) with
              | none => fail token.line (.missingOperand token.text)
              | some operand =>
                  let deeper ← continuation fuel group level
                  return some (.extend ⟨operator, token.line, operand⟩ deeper)
termination_by structural fuel => fuel

def unary : Nat → Parse (Option Expr)
  | 0 => outOfFuel
  | fuel + 1 => do
      match ← acceptKind .operator with
      | none => primary fuel
      | some token =>
          match Operator.find? token.text .unary with
          | none => fail token.line (.invalidUnaryOperator token.text)
          | some operator =>
              match ← primary fuel with
              | none => fail token.line (.missingOperand token.text)
              | some operand => return some (.unary token.line operator.lexeme operand)
termination_by structural fuel => fuel

def primary : Nat → Parse (Option Expr)
  | 0 => outOfFuel
  | fuel + 1 => do
      match ← acceptKind .identifier with
      | some name =>
          match ← accept "(" with
          | none => return some (.identifier name.line name.text)
          | some _ =>
              let arguments ← arguments fuel
              return some (.call name.line name.text arguments)
      | none =>
          match ← accept "(" with
          | some _ =>
              let inner ← require .expression (← expression fuel)
              let _ ← expect ")"
              return some inner
          | none =>
              match ← acceptKind .literal with
              | some literal => return some (.literal literal.line literal.text)
              | none =>
                  constructs (declaration fuel) (conditional fuel) (loop fuel) (blockOf (statements fuel))
termination_by structural fuel => fuel

def arguments : Nat → Parse (List Expr)
  | 0 => outOfFuel
  | fuel + 1 => do
      match ← expression fuel with
      | none =>
          let _ ← expect ")"
          return []
      | some first =>
          match ← accept ")" with
          | some _ => return [first]
          | none =>
              let _ ← expect ","
              let others ← arguments fuel
              return first :: others
termination_by structural fuel => fuel

def declaration : Nat → Nat → Parse Expr
  | 0, _ => outOfFuel
  | fuel + 1, line => do
      let name ← expectKind .identifier
      match ← accept "=" with
      | none => return .declare line name.text none
      | some _ =>
          let initializer ← require .expression (← expression fuel)
          return .declare line name.text (some initializer)
termination_by structural fuel => fuel

def conditional : Nat → Nat → Parse Expr
  | 0, _ => outOfFuel
  | fuel + 1, line => do
      let test ← condition fuel
      let thenBranch ← require .statementAfterTest (← statement fuel)
      match ← accept "else" with
      | none => return .branch line test thenBranch none
      | some _ =>
          let elseBranch ← require .statementAfterElse (← statement fuel)
          return .branch line test thenBranch (some elseBranch)
termination_by structural fuel => fuel

def loop : Nat → Nat → Parse Expr
  | 0, _ => outOfFuel
  | fuel + 1, line => do
      let test ← condition fuel
      let body ← require .statementAfterTest (← statement fuel)
      return .loop line test body
termination_by structural fuel => fuel

def condition : Nat → Parse Expr
  | 0 => outOfFuel
  | fuel + 1 => do
      let _ ← expect "("
      let test ← require .testExpression (← expression fuel)
      let _ ← expect ")"
      return test

termination_by structural fuel => fuel
end

def statementExpression (fuel : Nat) : Parse (Option Expr) :=
  constructs (declaration fuel) (conditional fuel) (loop fuel) (blockOf (statements fuel))

def program (fuel : Nat) : Parse Program := do
  let read ← statements fuel
  match ← peek with
  | none => return ⟨read⟩
  | some token => fail token.line (.trailingInput token.toLexeme)

end Parse

end Scriptlet
