import Scriptlet.Sink
import Scriptlet.Stop
import Scriptlet.Token
import Scriptlet.Value

set_option autoImplicit false

namespace Scriptlet

structure Located (κ : Type) where
  line : Nat
  cause : κ
deriving DecidableEq, Repr

def Located.message {κ : Type} (describe : κ → String) (error : Located κ) : String :=
  "Error on line " ++ Nat.repr error.line ++ ": " ++ describe error.cause

inductive LexicalFault where
  | invalidCharacter (character : Char)
  | unterminatedString
  | fractionalPartExpected (text : String)
  | unknownOperator (candidate : String)
deriving DecidableEq, Repr

namespace LexicalFault

def message : LexicalFault → String
  | invalidCharacter character => "Invalid character '" ++ character.toString ++ "'."
  | unterminatedString => "Unterminated string literal."
  | fractionalPartExpected text => "Fractional part expected in '" ++ text ++ "'."
  | unknownOperator candidate => "Unknown operator '" ++ candidate ++ "'."

end LexicalFault

inductive Expectation where
  | lexeme (text : String)
  | kind (expected : TokenKind)
  | expression
  | testExpression
  | statementAfterTest
  | statementAfterElse
deriving DecidableEq, Repr

def Expectation.message : Expectation → String
  | .lexeme text => "`" ++ text ++ "`"
  | .kind expected => "`" ++ expected.name ++ "`"
  | .expression => "an expression"
  | .testExpression => "a test expression"
  | .statementAfterTest => "a statement after the test expression"
  | .statementAfterElse => "a statement after `else`"

inductive SyntacticFault where
  | expected (what : Expectation) (found : Option Lexeme)
  | missingOperand (operator : String)
  | invalidUnaryOperator (operator : String)
  | unknownBinaryOperator (operator : String)
  | trailingInput (found : Lexeme)
deriving DecidableEq, Repr

namespace SyntacticFault

def message : SyntacticFault → String
  | expected what (some found) => "expected " ++ what.message ++ ", got " ++ found.render ++ "."
  | expected what none => "expected " ++ what.message ++ ", reached end of file."
  | missingOperand operator => "Expected an operand after '" ++ operator ++ "'."
  | invalidUnaryOperator operator => "Invalid unary operator '" ++ operator ++ "'."
  | unknownBinaryOperator operator => "Binary operator not found: '" ++ operator ++ "'."
  | trailingInput found => "Expected a statement, got " ++ found.render ++ "."

end SyntacticFault

inductive SemanticFault where
  | redeclaration (name : String)
  | undefinedVariable (name : String)
  | undefinedFunction (name : String)
  | invalidAssignmentTarget
  | nonBooleanCondition
deriving DecidableEq, Repr

namespace SemanticFault

def message : SemanticFault → String
  | redeclaration name => "Variable '" ++ name ++ "' has already been declared."
  | undefinedVariable name => "Undefined variable '" ++ name ++ "'."
  | undefinedFunction name => "Undefined reference to function '" ++ name ++ "'."
  | invalidAssignmentTarget => "Expected a variable name to the left of an assignment."
  | nonBooleanCondition => "Expected boolean in test expression result."

end SemanticFault

inductive RuntimeFault where
  | undefinedSymbol (name : String)
  | undefinedFunction (name : String)
  | argumentCountMismatch (function : String) (expected found : Nat)
  | argumentKindMismatch (function : String) (position : Nat) (expected found : ValueKind)
  | resultKindMismatch (function : String) (expected found : ValueKind)
  | expectedBoolean (found : ValueKind)
  | expectedNumber (found : ValueKind)
  | invalidAssignmentTarget
  | unsupportedOperator (operator : String)
  | invalidLiteral (text : String)
  | output (fault : WriteFault)
deriving DecidableEq, Repr

namespace RuntimeFault

def message : RuntimeFault → String
  | undefinedSymbol name => "Undefined symbol '" ++ name ++ "'."
  | undefinedFunction name => "Undefined function '" ++ name ++ "'."
  | argumentCountMismatch function expected found =>
      "Invalid number of arguments for '" ++ function ++ "'. Expected " ++ Nat.repr expected ++
        " got " ++ Nat.repr found ++ "."
  | argumentKindMismatch function position expected found =>
      "Argument " ++ Nat.repr position ++ " of '" ++ function ++ "' must be " ++ expected.name ++
        ", got " ++ found.name ++ "."
  | resultKindMismatch function expected found =>
      "'" ++ function ++ "' must return " ++ expected.name ++ ", got " ++ found.name ++ "."
  | expectedBoolean found => "Expected a boolean, got " ++ found.name ++ "."
  | expectedNumber found => "Expected a number, got " ++ found.name ++ "."
  | invalidAssignmentTarget => "Expected a variable name to the left of an assignment."
  | unsupportedOperator operator => "Unsupported operator '" ++ operator ++ "'."
  | invalidLiteral text => "Invalid literal '" ++ text ++ "'."
  | output fault => "Failed to write output: " ++ fault.message ++ "."

end RuntimeFault

abbrev LexicalError := Located LexicalFault
abbrev SyntacticError := Located SyntacticFault
abbrev SemanticError := Located SemanticFault
abbrev RuntimeError := Located RuntimeFault

inductive Failure where
  | lexical (error : LexicalError)
  | syntactic (error : SyntacticError)
  | semantic (error : SemanticError)
  | runtime (error : RuntimeError)
  | output (fault : WriteFault)
deriving DecidableEq, Repr

namespace Failure

def message : Failure → String
  | lexical error => error.message LexicalFault.message
  | syntactic error => error.message SyntacticFault.message
  | semantic error => error.message SemanticFault.message
  | runtime error => error.message RuntimeFault.message
  | output fault => "Failed to write output: " ++ fault.message ++ "."

end Failure

end Scriptlet
