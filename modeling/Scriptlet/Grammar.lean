import Scriptlet.Expr.OpenChain
import Scriptlet.Fault

/-!
The grammar as a reader of significant tokens.

Each rule takes the tokens that are left and answers what it read and the tokens behind it. A rule
that does not apply answers `none` and takes nothing; a rule that has begun either completes or
fails. `endLine` is the line on which a missing token is reported when no token is left.
-/

set_option autoImplicit false

namespace Scriptlet.Grammar

abbrev Answer := Except (Stop SyntacticError)

def acceptIf (test : Token → Bool) : List Token → Option (Token × List Token)
  | [] => none
  | token :: rest => if test token then some (token, rest) else none

def accept (text : String) (tokens : List Token) : Option (Token × List Token) :=
  acceptIf (fun token => token.text = text) tokens

def acceptKind (kind : TokenKind) (tokens : List Token) : Option (Token × List Token) :=
  acceptIf (fun token => token.kind = kind) tokens

def skip (text : String) (tokens : List Token) : List Token :=
  match accept text tokens with
  | some (_, rest) => rest
  | none => tokens

def fail {α : Type} (line : Nat) (fault : SyntacticFault) : Answer α :=
  .error (.failed ⟨line, fault⟩)

def failExpected {α : Type} (endLine : Nat) (what : Expectation) : List Token → Answer α
  | [] => fail endLine (.expected what none)
  | token :: _ => fail token.line (.expected what (some token.toLexeme))

def expect (endLine : Nat) (text : String) (tokens : List Token) : Answer (Token × List Token) :=
  match accept text tokens with
  | some taken => .ok taken
  | none => failExpected endLine (.lexeme text) tokens

def expectKind (endLine : Nat) (kind : TokenKind) (tokens : List Token) : Answer (Token × List Token) :=
  match acceptKind kind tokens with
  | some taken => .ok taken
  | none => failExpected endLine (.kind kind) tokens

def require (endLine : Nat) (what : Expectation) (tokens : List Token) :
    Option (Expr × List Token) → Answer (Expr × List Token)
  | some read => .ok read
  | none => failExpected endLine what tokens

variable (endLine : Nat)

mutual

def statements : Nat → List Token → Answer (List Expr × List Token)
  | 0, _ => .error .outOfFuel
  | fuel + 1, tokens => do
      match ← statement fuel tokens with
      | none => return ([], tokens)
      | some (first, rest) =>
          let (others, rest) ← statements fuel rest
          return (first :: others, rest)

def statement : Nat → List Token → Answer (Option (Expr × List Token))
  | 0, _ => .error .outOfFuel
  | fuel + 1, tokens =>
      match accept ";" tokens with
      | some (semicolon, rest) => return some (.empty semicolon.line, rest)
      | none => do
          match ← expression fuel tokens with
          | none => return none
          | some (read, rest) => return some (read, skip ";" rest)

def expression : Nat → List Token → Answer (Option (Expr × List Token))
  | 0, _ => .error .outOfFuel
  | fuel + 1, tokens => chain fuel binaryGroups tokens

def chain : Nat → List OperatorGroup → List Token → Answer (Option (Expr × List Token))
  | 0, _, _ => .error .outOfFuel
  | fuel + 1, [], tokens => unary fuel tokens
  | fuel + 1, group :: tighter, tokens => do
      match ← chain fuel tighter tokens with
      | none => return none
      | some (operand, rest) =>
          match ← continuation fuel group tighter rest with
          | (none, rest) => return some (operand, rest)
          | (some operations, rest) => return some (operations.fill operand, rest)

def continuation :
    Nat → OperatorGroup → List OperatorGroup → List Token → Answer (Option OpenChain × List Token)
  | 0, _, _, _ => .error .outOfFuel
  | fuel + 1, group, tighter, tokens =>
      match acceptIf (fun token => token.kind = .operator && group.contains token.text) tokens with
      | none => return (none, tokens)
      | some (token, rest) =>
          match group.find? token.text with
          | none => fail token.line (.unknownBinaryOperator token.text)
          | some operator => do
              match ← chain fuel tighter rest with
              | none => fail token.line (.missingOperand token.text)
              | some (operand, rest) =>
                  let (deeper, rest) ← continuation fuel group tighter rest
                  return (some (.extend ⟨operator, token.line, operand⟩ deeper), rest)

def unary : Nat → List Token → Answer (Option (Expr × List Token))
  | 0, _ => .error .outOfFuel
  | fuel + 1, tokens =>
      match acceptKind .operator tokens with
      | none => primary fuel tokens
      | some (token, rest) =>
          match Operator.find? token.text .unary with
          | none => fail token.line (.invalidUnaryOperator token.text)
          | some operator => do
              match ← primary fuel rest with
              | none => fail token.line (.missingOperand token.text)
              | some (operand, rest) =>
                  return some (.unary token.line operator.lexeme operand, rest)

def primary : Nat → List Token → Answer (Option (Expr × List Token))
  | 0, _ => .error .outOfFuel
  | _ + 1, [] => return none
  | fuel + 1, first :: rest =>
      if first.kind = .identifier then
        match accept "(" rest with
        | none => return some (.identifier first.line first.text, rest)
        | some (_, rest) => do
            let (arguments, rest) ← arguments fuel rest
            return some (.call first.line first.text arguments, rest)
      else if first.text = "(" then do
        let (inner, rest) ← require endLine .expression rest (← expression fuel rest)
        let (_, rest) ← expect endLine ")" rest
        return some (inner, rest)
      else if first.kind = .literal then
        return some (.literal first.line first.text, rest)
      else if first.text = "let" then do
        let (read, rest) ← declaration fuel first.line rest
        return some (read, rest)
      else if first.text = "if" then do
        let (read, rest) ← conditional fuel first.line rest
        return some (read, rest)
      else if first.text = "while" then do
        let (read, rest) ← loop fuel first.line rest
        return some (read, rest)
      else if first.text = "\x7b" then do
        let (inner, rest) ← statements fuel rest
        let (_, rest) ← expect endLine "\x7d" rest
        return some (.block first.line inner, rest)
      else
        return none

def arguments : Nat → List Token → Answer (List Expr × List Token)
  | 0, _ => .error .outOfFuel
  | fuel + 1, tokens => do
      match ← expression fuel tokens with
      | none =>
          let (_, rest) ← expect endLine ")" tokens
          return ([], rest)
      | some (first, rest) =>
          match accept ")" rest with
          | some (_, rest) => return ([first], rest)
          | none =>
              let (_, rest) ← expect endLine "," rest
              let (others, rest) ← arguments fuel rest
              return (first :: others, rest)

def declaration : Nat → Nat → List Token → Answer (Expr × List Token)
  | 0, _, _ => .error .outOfFuel
  | fuel + 1, line, tokens => do
      let (name, rest) ← expectKind endLine .identifier tokens
      match accept "=" rest with
      | none => return (.declare line name.text none, rest)
      | some (_, rest) =>
          let (initializer, rest) ← require endLine .expression rest (← expression fuel rest)
          return (.declare line name.text (some initializer), rest)

def conditional : Nat → Nat → List Token → Answer (Expr × List Token)
  | 0, _, _ => .error .outOfFuel
  | fuel + 1, line, tokens => do
      let (test, rest) ← condition fuel tokens
      let (thenBranch, rest) ← require endLine .statementAfterTest rest (← statement fuel rest)
      match accept "else" rest with
      | none => return (.branch line test thenBranch none, rest)
      | some (_, rest) =>
          let (elseBranch, rest) ← require endLine .statementAfterElse rest (← statement fuel rest)
          return (.branch line test thenBranch (some elseBranch), rest)

def loop : Nat → Nat → List Token → Answer (Expr × List Token)
  | 0, _, _ => .error .outOfFuel
  | fuel + 1, line, tokens => do
      let (test, rest) ← condition fuel tokens
      let (body, rest) ← require endLine .statementAfterTest rest (← statement fuel rest)
      return (.loop line test body, rest)

def condition : Nat → List Token → Answer (Expr × List Token)
  | 0, _ => .error .outOfFuel
  | fuel + 1, tokens => do
      let (_, rest) ← expect endLine "(" tokens
      let (test, rest) ← require endLine .testExpression rest (← expression fuel rest)
      let (_, rest) ← expect endLine ")" rest
      return (test, rest)

end

-- The constructs that are statements and operands alike. The text of the first token decides, not its kind.
def statementExpression (fuel : Nat) : List Token → Answer (Option (Expr × List Token))
  | [] => return none
  | first :: rest =>
      if first.text = "let" then do
        let (read, rest) ← declaration endLine fuel first.line rest
        return some (read, rest)
      else if first.text = "if" then do
        let (read, rest) ← conditional endLine fuel first.line rest
        return some (read, rest)
      else if first.text = "while" then do
        let (read, rest) ← loop endLine fuel first.line rest
        return some (read, rest)
      else if first.text = "\x7b" then do
        let (inner, rest) ← statements endLine fuel rest
        let (_, rest) ← expect endLine "\x7d" rest
        return some (.block first.line inner, rest)
      else
        return none

theorem primary_last (fuel : Nat) (first : Token) (rest : List Token)
    (name : first.kind ≠ .identifier) (opening : first.text ≠ "(") (literal : first.kind ≠ .literal) :
    primary endLine (fuel + 1) (first :: rest) = statementExpression endLine fuel (first :: rest) := by
  rw [primary, if_neg name, if_neg opening, if_neg literal, statementExpression]

def program (fuel : Nat) (tokens : List Token) : Answer Program := do
  let (read, rest) ← statements endLine fuel tokens
  match rest with
  | [] => return ⟨read⟩
  | token :: _ => fail token.line (.trailingInput token.toLexeme)

section Tokens

variable {test : Token → Bool} {text : String} {kind : TokenKind} {token : Token} (rest : List Token)

theorem accept_if_cons_pos (passes : test token = true) : acceptIf test (token :: rest) = some (token, rest) := by
  rw [acceptIf, if_pos passes]

theorem accept_if_cons_neg (fails : ¬ test token = true) : acceptIf test (token :: rest) = none := by
  rw [acceptIf, if_neg fails]

@[simp] theorem accept_cons_pos (same : token.text = text) : accept text (token :: rest) = some (token, rest) :=
  accept_if_cons_pos rest (by simpa using same)

@[simp] theorem accept_cons_neg (other : token.text ≠ text) : accept text (token :: rest) = none :=
  accept_if_cons_neg rest (by simpa using other)

@[simp] theorem accept_kind_cons_pos (same : token.kind = kind) :
    acceptKind kind (token :: rest) = some (token, rest) :=
  accept_if_cons_pos rest (by simpa using same)

@[simp] theorem accept_kind_cons_neg (other : token.kind ≠ kind) : acceptKind kind (token :: rest) = none :=
  accept_if_cons_neg rest (by simpa using other)

variable {endLine : Nat}

@[simp] theorem expect_cons_pos (same : token.text = text) :
    expect endLine text (token :: rest) = .ok (token, rest) := by
  rw [expect, accept_cons_pos rest same]

@[simp] theorem expect_cons_neg (other : token.text ≠ text) :
    expect endLine text (token :: rest) = failExpected endLine (.lexeme text) (token :: rest) := by
  rw [expect, accept_cons_neg rest other]

@[simp] theorem expect_kind_cons_pos (same : token.kind = kind) :
    expectKind endLine kind (token :: rest) = .ok (token, rest) := by
  rw [expectKind, accept_kind_cons_pos rest same]

@[simp] theorem expect_kind_cons_neg (other : token.kind ≠ kind) :
    expectKind endLine kind (token :: rest) = failExpected endLine (.kind kind) (token :: rest) := by
  rw [expectKind, accept_kind_cons_neg rest other]

@[simp] theorem skip_cons_pos (same : token.text = text) : skip text (token :: rest) = rest := by
  rw [skip, accept_cons_pos rest same]

@[simp] theorem skip_cons_neg (other : token.text ≠ text) : skip text (token :: rest) = token :: rest := by
  rw [skip, accept_cons_neg rest other]

end Tokens

end Scriptlet.Grammar
