set_option autoImplicit false

namespace Scriptlet

inductive TokenKind where
  | keyword
  | operator
  | separator
  | literal
  | identifier
  | comment
  | whitespace
deriving DecidableEq, Repr

namespace TokenKind

def name : TokenKind → String
  | .keyword => "Keyword"
  | .operator => "Operator"
  | .separator => "Separator"
  | .literal => "Literal"
  | .identifier => "Identifier"
  | .comment => "Comment"
  | .whitespace => "Whitespace"

-- Trivia separates tokens and means nothing by itself.
def isTrivia : TokenKind → Bool
  | .comment | .whitespace => true
  | _ => false

end TokenKind

structure Lexeme where
  kind : TokenKind
  text : String
deriving DecidableEq, Repr

def Lexeme.render (lexeme : Lexeme) : String :=
  "(" ++ lexeme.kind.name ++ ":" ++ lexeme.text ++ ")"

structure Token extends Lexeme where
  line : Nat
deriving DecidableEq, Repr

def Token.isSignificant (token : Token) : Bool := !token.kind.isTrivia

end Scriptlet
