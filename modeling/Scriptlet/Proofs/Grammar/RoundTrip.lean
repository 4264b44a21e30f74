import Scriptlet.Proofs.Expr.Spelling
import Scriptlet.Proofs.Grammar.Derivation
import Scriptlet.Proofs.Grammar.Precedence

/-!
The programs that can be read are the well-formed ones.

Whatever scanned tokens derive is well-formed (`derives_well_formed`), and the spelling of a well-formed
program is read as that program, up to its lines. The second half goes over the tree: each expression is
read up to the parenthesis that closes it, which no rule goes beyond.
-/

set_option autoImplicit false

namespace Scriptlet

open Grammar

def Grammar.Phrase.WellFormed : Phrase → Prop
  | .statements read => WellFormedAll .statement read
  | .statement read => read.WellFormed .statement
  | .expression read => read.WellFormed .operand
  | .primary read => read.WellFormed .operand
  | .arguments read => WellFormedAll .operand read

theorem operator_of_found {text : String} {arity : Arity} {operator : Operator}
    (found : Operator.find? text arity = some operator) : IsOperator arity operator.lexeme := by
  obtain ⟨-, -, rfl⟩ := find_eq_some found
  exact ⟨operator, found⟩

theorem name_of_scanned (token : Token) (scanned : token.toLexeme.IsScanned)
    (kind : token.kind = .identifier) : IsName token.text := by
  have same : token.toLexeme = ⟨.identifier, token.text⟩ := by rw [← kind]
  exact same ▸ scanned

theorem literal_of_scanned (token : Token) (scanned : token.toLexeme.IsScanned)
    (kind : token.kind = .literal) : IsLiteral token.text := by
  have same : token.toLexeme = ⟨.literal, token.text⟩ := by rw [← kind]
  exact same ▸ scanned

theorem derives_well_formed {tokens : List Token} {phrase : Phrase} (derives : Derives tokens phrase)
    (scanned : ∀ token ∈ tokens, token.toLexeme.IsScanned) : phrase.WellFormed := by
  induction derives with
  | noStatements => trivial
  | moreStatements read continues ih ihOthers =>
      rw [List.forall_mem_append] at scanned
      exact ⟨ih scanned.1, ihOthers scanned.2⟩
  | lone semicolon text => rfl
  | unended read ih => exact well_formed_statement (ih scanned)
  | ended read semicolon text ih =>
      rw [List.forall_mem_append] at scanned
      exact well_formed_statement (ih scanned.1)
  | unsigned read ih => exact ih scanned
  | signed sign kind known read ih =>
      rw [List.forall_mem_cons] at scanned
      exact ⟨operator_of_found known, ih scanned.2⟩
  | joined token kind known before behind ihLeft ihRight =>
      rw [List.forall_mem_append, List.forall_mem_cons] at scanned
      exact ⟨operator_of_found known, ihLeft scanned.1, ihRight scanned.2.2⟩
  | name token kind => exact name_of_scanned token (scanned token List.mem_cons_self) kind
  | call token opening kind opens read ih =>
      rw [List.forall_mem_cons, List.forall_mem_cons] at scanned
      exact ⟨name_of_scanned token scanned.1 kind, ih scanned.2.2⟩
  | parenthesized opening closing opens closes read ih =>
      rw [List.cons_append, List.forall_mem_cons, List.forall_mem_append] at scanned
      exact ih scanned.2.1
  | literal token kind => exact literal_of_scanned token (scanned token List.mem_cons_self) kind
  | declare keyword name declares kind =>
      exact name_of_scanned name (scanned name (by simp)) kind
  | initialized keyword name equals declares kind gives read ih =>
      rw [List.forall_mem_cons, List.forall_mem_cons, List.forall_mem_cons] at scanned
      exact ⟨name_of_scanned name scanned.2.1 kind, ih scanned.2.2.2⟩
  | branch keyword opening closing branches opens closes test read ihTest ihThen =>
      simp only [List.cons_append, List.forall_mem_cons, List.forall_mem_append] at scanned
      exact ⟨ihTest scanned.2.2.1, ihThen scanned.2.2.2.2⟩
  | alternative keyword opening closing separating branches opens closes separates test read other
      ihTest ihThen ihElse =>
      simp only [List.cons_append, List.forall_mem_cons, List.forall_mem_append] at scanned
      exact ⟨ihTest scanned.2.2.1.1, ihThen scanned.2.2.1.2.2, ihElse scanned.2.2.2.2⟩
  | loop keyword opening closing loops opens closes test read ihTest ihBody =>
      simp only [List.cons_append, List.forall_mem_cons, List.forall_mem_append] at scanned
      exact ⟨ihTest scanned.2.2.1, ihBody scanned.2.2.2.2⟩
  | block opening closing opens closes read ih =>
      rw [List.cons_append, List.forall_mem_cons, List.forall_mem_append] at scanned
      exact ih scanned.2.1
  | noArguments closing closes => trivial
  | lastArgument closing closes read ih =>
      rw [List.forall_mem_append] at scanned
      exact ⟨ih scanned.1, trivial⟩
  | moreArguments comma separates read continues ih ihOthers =>
      rw [List.forall_mem_append, List.forall_mem_cons] at scanned
      exact ⟨ih scanned.1, ihOthers scanned.2.2⟩

section Levels

variable {endLine : Nat} {tokens rest : List Token} {expr : Expr}

theorem chain_of_unary (groups : List OperatorGroup)
    (read : Reads (unary endLine · tokens) (some (expr, rest))) (behind : Behind groups rest) :
    Reads (chain endLine · groups tokens) (some (expr, rest)) := by
  induction groups with
  | nil =>
      apply reads_succ
      simpa only [chain] using read
  | cons group tighter ih =>
      have tight := ih (behind_mono (fun _ member => List.mem_cons_of_mem _ member) behind)
      have stops : Reads (continuation endLine · group tighter rest) (OpenChain.ofLinks [], rest) :=
        continuation_reads_none behind
      exact chain_reads tight stops

theorem chain_of_nothing (groups : List OperatorGroup) (read : Reads (unary endLine · tokens) none) :
    Reads (chain endLine · groups tokens) none := by
  induction groups with
  | nil =>
      apply reads_succ
      simpa only [chain] using read
  | cons group tighter ih =>
      apply reads_succ
      simp only [chain]
      exact reads_bind ih (reads_ok none)

theorem expression_of_unary (read : Reads (unary endLine · tokens) (some (expr, rest)))
    (behind : Behind binaryGroups rest) :
    Reads (expression endLine · tokens) (some (expr, rest)) := by
  apply reads_succ
  simpa only [expression] using chain_of_unary binaryGroups read behind

theorem expression_of_primary (starts : acceptKind .operator tokens = none)
    (read : Reads (primary endLine · tokens) (some (expr, rest))) (behind : Behind binaryGroups rest) :
    Reads (expression endLine · tokens) (some (expr, rest)) := by
  apply expression_of_unary _ behind
  apply reads_succ
  simpa only [unary, starts] using read

theorem expression_of_nothing (starts : acceptKind .operator tokens = none)
    (read : Reads (primary endLine · tokens) none) : Reads (expression endLine · tokens) none := by
  apply reads_succ
  simp only [expression]
  apply chain_of_nothing
  apply reads_succ
  simpa only [unary, starts] using read

end Levels

theorem behind_separator (token : Token) (rest : List Token) (kind : token.kind = .separator)
    (text : token.text ≠ "(") : Behind binaryGroups (token :: rest) := by
  constructor
  · simp [text]
  · intro group member
    simp [acceptIf, isContinued, kind]

def Ends (rest : List Token) : Prop :=
  rest = [] ∨ ∃ closer behind, rest = closer :: behind ∧ closer.toLexeme = ⟨.separator, "\x7d"⟩

theorem statement_none (endLine : Nat) (rest : List Token) (ends : Ends rest) :
    Reads (statement endLine · rest) none := by
  have nothing : accept ";" rest = none ∧ acceptKind .operator rest = none ∧
      Reads (primary endLine · rest) none := by
    rcases ends with rfl | ⟨closer, behind, rfl, closes⟩
    · refine ⟨rfl, rfl, reads_succ ?_⟩
      simp only [primary]
      exact reads_ok none
    · have kind : closer.kind = .separator := congrArg Lexeme.kind closes
      have text : closer.text = "\x7d" := congrArg Lexeme.text closes
      refine ⟨by simp [text], by simp [kind], reads_succ ?_⟩
      simp only [primary_closer endLine _ closer behind ⟨kind, by simp [text]⟩]
      exact reads_ok none
  apply reads_succ
  simp only [statement, nothing.1]
  exact reads_bind (expression_of_nothing nothing.2.1 nothing.2.2) (reads_ok none)

-- The reading is done on tokens without lines and carried over to those of the text.
def placed (lexemes : List Lexeme) : List Token := lexemes.map fun lexeme => ⟨lexeme, 0⟩

@[simp] theorem placed_cons (lexeme : Lexeme) (lexemes : List Lexeme) :
    placed (lexeme :: lexemes) = ⟨lexeme, 0⟩ :: placed lexemes := rfl

@[simp] theorem placed_append (front back : List Lexeme) : placed (front ++ back) = placed front ++ placed back :=
  List.map_append

theorem placed_parenthesized (inside : List Lexeme) (rest : List Token) :
    placed (parenthesized inside) ++ rest =
      ⟨⟨.separator, "("⟩, 0⟩ :: (placed inside ++ ⟨⟨.separator, ")"⟩, 0⟩ :: rest) := by
  simp [parenthesized, placed]

def ReadBack (expr : Expr) : Prop :=
  ∀ (endLine : Nat) (rest : List Token),
    Reads (expression endLine · (placed expr.lexemes ++ ⟨⟨.separator, ")"⟩, 0⟩ :: rest))
      (some (expr.mapLines fun _ => 0, ⟨⟨.separator, ")"⟩, 0⟩ :: rest))

section Parts

variable {expr : Expr} (back : ReadBack expr) (endLine : Nat) (rest : List Token)
include back

theorem parenthesized_primary :
    Reads (primary endLine · (placed (parenthesized expr.lexemes) ++ rest))
      (some (expr.mapLines fun _ => 0, rest)) := by
  rw [placed_parenthesized]
  exact primary_reads_parenthesized rfl rfl (back endLine rest)

theorem parenthesized_readable :
    Operand.Readable ⟨placed (parenthesized expr.lexemes), expr.mapLines fun _ => 0⟩ := by
  intro endLine rest notCalled
  apply reads_succ
  exact parenthesized_primary back endLine rest

theorem parenthesized_expression (behind : Behind binaryGroups rest) :
    Reads (expression endLine · (placed (parenthesized expr.lexemes) ++ rest))
      (some (expr.mapLines fun _ => 0, rest)) :=
  expression_of_primary rfl (parenthesized_primary back endLine rest) behind

theorem parenthesized_condition :
    Reads (condition endLine · (placed (parenthesized (parenthesized expr.lexemes)) ++ rest))
      (expr.mapLines fun _ => 0, rest) := by
  have inner := parenthesized_expression back endLine (⟨⟨.separator, ")"⟩, 0⟩ :: rest)
    (behind_separator _ rest rfl (by decide))
  rw [placed_parenthesized]
  apply reads_succ
  simp only [condition]
  exact reads_bind (reads_expect endLine "(" _ _ rfl) (reads_bind inner (reads_bind (reads_ok _)
    (reads_bind (reads_expect endLine ")" _ rest rfl) (reads_ok _))))

end Parts

theorem ended_statement (expr : Expr) (wellFormed : expr.WellFormed .statement)
    (back : expr.WellFormed .operand → ReadBack expr) (endLine : Nat) (rest : List Token) :
    Reads (statement endLine · (placed (expr.ended expr.lexemes) ++ rest))
      (some (expr.mapLines fun _ => 0, rest)) := by
  rcases ended_cases expr expr.lexemes with ⟨line, rfl, alone⟩ | ⟨nonempty, apart⟩
  · rw [alone]
    apply reads_succ
    exact reads_ok _
  · have inner := parenthesized_expression (back (well_formed_operand wellFormed nonempty)) endLine
      (⟨⟨.separator, ";"⟩, 0⟩ :: rest) (behind_separator _ rest rfl (by decide))
    rw [apart, placed_append, List.append_assoc]
    apply reads_succ
    exact reads_bind inner (reads_ok _)

theorem back_of_primary {expr : Expr}
    (starts : ∀ rest, acceptKind .operator (placed expr.lexemes ++ rest) = none)
    (read : ∀ (endLine : Nat) (rest : List Token),
      Reads (primary endLine · (placed expr.lexemes ++ ⟨⟨.separator, ")"⟩, 0⟩ :: rest))
        (some (expr.mapLines fun _ => 0, ⟨⟨.separator, ")"⟩, 0⟩ :: rest))) : ReadBack expr := by
  intro endLine rest
  exact expression_of_primary (starts _) (read endLine rest) (behind_separator _ rest rfl (by decide))

theorem literal_back (line : Nat) (text : String) (known : IsLiteral text) :
    ReadBack (.literal line text) := by
  have notParenthesis : text ≠ "(" := scanned_not_parenthesis ⟨.literal, text⟩ known (by simp)
  refine back_of_primary (fun _ => rfl) fun endLine rest => ?_
  apply reads_succ
  simp only [Expr.lexemes, placed_cons, List.cons_append, primary, reduceCtorEq, if_false,
    if_neg notParenthesis, if_true]
  exact reads_ok _

theorem name_back (line : Nat) (name : String) : ReadBack (.identifier line name) := by
  refine back_of_primary (fun _ => rfl) fun endLine rest => ?_
  apply reads_succ
  exact reads_ok _

theorem declare_back (line : Nat) (name : String) : ReadBack (.declare line name none) := by
  refine back_of_primary (fun _ => rfl) fun endLine rest => ?_
  have declares : Reads (declaration endLine · 0 (placed [⟨.identifier, name⟩] ++
      ⟨⟨.separator, ")"⟩, 0⟩ :: rest)) (.declare 0 name none, ⟨⟨.separator, ")"⟩, 0⟩ :: rest) := by
    apply reads_succ
    exact reads_ok _
  apply reads_succ
  exact reads_bind declares (reads_ok _)

theorem initialized_back (line : Nat) (name : String) (initializer : Expr) (back : ReadBack initializer) :
    ReadBack (.declare line name (some initializer)) := by
  refine back_of_primary (fun _ => rfl) fun endLine rest => ?_
  have inner := parenthesized_expression back endLine (⟨⟨.separator, ")"⟩, 0⟩ :: rest)
    (behind_separator _ rest rfl (by decide))
  have declares : Reads (declaration endLine · 0 (⟨⟨.identifier, name⟩, 0⟩ :: ⟨⟨.operator, "="⟩, 0⟩ ::
      placed (parenthesized initializer.lexemes) ++ ⟨⟨.separator, ")"⟩, 0⟩ :: rest))
      (.declare 0 name (some (initializer.mapLines fun _ => 0)), ⟨⟨.separator, ")"⟩, 0⟩ :: rest) := by
    apply reads_succ
    exact reads_bind (reads_expect_kind endLine .identifier _ _ rfl)
      (reads_bind inner (reads_bind (reads_ok _) (reads_ok _)))
  apply reads_succ
  exact reads_bind declares (reads_ok _)

theorem branch_back (line : Nat) (condition thenBranch : Expr) (test : ReadBack condition)
    (wellFormed : thenBranch.WellFormed .statement)
    (back : thenBranch.WellFormed .operand → ReadBack thenBranch) :
    ReadBack (.branch line condition thenBranch none) := by
  refine back_of_primary (fun _ => rfl) fun endLine rest => ?_
  have branches : Reads (conditional endLine · 0
      (placed (parenthesized (parenthesized condition.lexemes)) ++
        (placed (thenBranch.ended thenBranch.lexemes) ++ ⟨⟨.separator, ")"⟩, 0⟩ :: rest)))
      (.branch 0 (condition.mapLines fun _ => 0) (thenBranch.mapLines fun _ => 0) none,
        ⟨⟨.separator, ")"⟩, 0⟩ :: rest) := by
    apply reads_succ
    exact reads_bind (parenthesized_condition test endLine _)
      (reads_bind (ended_statement thenBranch wellFormed back endLine _)
        (reads_bind (reads_ok _) (reads_ok _)))
  rw [Expr.lexemes, List.cons_append, placed_cons, placed_append, List.cons_append, List.append_assoc]
  apply reads_succ
  exact reads_bind branches (reads_ok _)

theorem alternative_back (line : Nat) (condition thenBranch elseBranch : Expr)
    (test : ReadBack condition) (wellFormed : thenBranch.WellFormed .statement)
    (back : thenBranch.WellFormed .operand → ReadBack thenBranch)
    (otherWellFormed : elseBranch.WellFormed .statement)
    (otherBack : elseBranch.WellFormed .operand → ReadBack elseBranch) :
    ReadBack (.branch line condition thenBranch (some elseBranch)) := by
  refine back_of_primary (fun _ => rfl) fun endLine rest => ?_
  have branches : Reads (conditional endLine · 0
      (placed (parenthesized (parenthesized condition.lexemes)) ++
        (placed (thenBranch.ended thenBranch.lexemes) ++ ⟨⟨.keyword, "else"⟩, 0⟩ ::
          (placed (elseBranch.ended elseBranch.lexemes) ++ ⟨⟨.separator, ")"⟩, 0⟩ :: rest))))
      (.branch 0 (condition.mapLines fun _ => 0) (thenBranch.mapLines fun _ => 0)
        (some (elseBranch.mapLines fun _ => 0)), ⟨⟨.separator, ")"⟩, 0⟩ :: rest) := by
    apply reads_succ
    exact reads_bind (parenthesized_condition test endLine _)
      (reads_bind (ended_statement thenBranch wellFormed back endLine _)
        (reads_bind (reads_ok _)
          (reads_bind (ended_statement elseBranch otherWellFormed otherBack endLine _)
            (reads_bind (reads_ok _) (reads_ok _)))))
  rw [Expr.lexemes, List.cons_append, List.cons_append, placed_cons, placed_append, placed_append,
    placed_cons, List.cons_append, List.append_assoc, List.append_assoc, List.cons_append]
  apply reads_succ
  exact reads_bind branches (reads_ok _)

theorem loop_back (line : Nat) (condition body : Expr) (test : ReadBack condition)
    (wellFormed : body.WellFormed .statement) (back : body.WellFormed .operand → ReadBack body) :
    ReadBack (.loop line condition body) := by
  refine back_of_primary (fun _ => rfl) fun endLine rest => ?_
  have loops : Reads (loop endLine · 0
      (placed (parenthesized (parenthesized condition.lexemes)) ++
        (placed (body.ended body.lexemes) ++ ⟨⟨.separator, ")"⟩, 0⟩ :: rest)))
      (.loop 0 (condition.mapLines fun _ => 0) (body.mapLines fun _ => 0),
        ⟨⟨.separator, ")"⟩, 0⟩ :: rest) := by
    apply reads_succ
    exact reads_bind (parenthesized_condition test endLine _)
      (reads_bind (ended_statement body wellFormed back endLine _)
        (reads_bind (reads_ok _) (reads_ok _)))
  rw [Expr.lexemes, List.cons_append, placed_cons, placed_append, List.cons_append, List.append_assoc]
  apply reads_succ
  exact reads_bind loops (reads_ok _)

theorem unary_back (line : Nat) (operator : String) (operand : Expr)
    (known : IsOperator .unary operator) (back : ReadBack operand) :
    ReadBack (.unary line operator operand) := by
  intro endLine rest
  obtain ⟨entry, found⟩ := known
  obtain ⟨-, -, lexeme⟩ := find_eq_some found
  have inner := parenthesized_primary back endLine (⟨⟨.separator, ")"⟩, 0⟩ :: rest)
  apply expression_of_unary _ (behind_separator _ rest rfl (by decide))
  rw [Expr.lexemes, placed_cons, List.cons_append, Expr.mapLines, ← lexeme]
  apply reads_succ
  simp only [unary, accept_kind_cons_pos, lexeme, found]
  exact reads_bind inner (reads_ok _)

theorem pair_grouping (first second : Operand) (joint : Joint) (grouping : Grouping)
    (items : grouping.items = [.operand first, .joint joint, .operand second])
    (ordered : grouping.Ordered) : grouping = .joined (.single first) joint (.single second) := by
  refine Grouping.ordered_unique _ _ (fun p q inFirst inSecond => ?_) items ordered ?_
  · obtain rfl : p = joint := by simpa [items] using inFirst
    have same : q = p := by simpa [Grouping.items] using inSecond
    rw [same]
    exact fun _ => rfl
  · exact ⟨trivial, trivial, by simp [Grouping.root?], by simp [Grouping.root?]⟩

theorem binary_back (line : Nat) (operator : String) (left right : Expr)
    (known : IsOperator .binary operator) (leftBack : ReadBack left) (rightBack : ReadBack right) :
    ReadBack (.binary line operator left right) := by
  intro endLine rest
  obtain ⟨entry, found⟩ := known
  obtain ⟨-, -, rfl⟩ := find_eq_some found
  let parts : Chain := ⟨⟨placed (parenthesized left.lexemes), left.mapLines fun _ => 0⟩,
    [(⟨⟨⟨.operator, entry.lexeme⟩, 0⟩, entry⟩,
      ⟨placed (parenthesized right.lexemes), right.mapLines fun _ => 0⟩)]⟩
  have others : ∀ part ∈ parts.others, part.1.Known ∧ part.2.Readable := by
    intro part member
    obtain rfl := List.mem_singleton.mp member
    exact ⟨⟨rfl, found⟩, parenthesized_readable rightBack⟩
  obtain ⟨grouping, items, ordered, read⟩ := grouping_read endLine parts
    (⟨⟨.separator, ")"⟩, 0⟩ :: rest) (parenthesized_readable leftBack) others
    (behind_separator _ rest rfl (by decide))
  -- Of two operands there is one grouping only, so that no other can have been read.
  rw [pair_grouping _ _ _ grouping items ordered] at read
  simpa [parts, Chain.tokens, Chain.tokensOf, Grouping.expr, Expr.lexemes] using read

theorem call_back (line : Nat) (name : String) (arguments : List Expr)
    (back : ∀ (endLine : Nat) (rest : List Token),
      Reads (Grammar.arguments endLine · (placed (lexemesOfArguments arguments) ++ rest))
        (mapLinesOfAll (fun _ => 0) arguments, rest)) : ReadBack (.call line name arguments) := by
  refine back_of_primary (fun _ => rfl) fun endLine rest => ?_
  apply reads_succ
  exact reads_bind (back endLine _) (reads_ok _)

theorem block_back (line : Nat) (statements : List Expr)
    (back : ∀ (endLine : Nat) (rest : List Token), Ends rest →
      Reads (Grammar.statements endLine · (placed (lexemesOfStatements statements) ++ rest))
        (mapLinesOfAll (fun _ => 0) statements, rest)) : ReadBack (.block line statements) := by
  refine back_of_primary (fun _ => rfl) fun endLine rest => ?_
  have inner := back endLine (⟨⟨.separator, "\x7d"⟩, 0⟩ :: ⟨⟨.separator, ")"⟩, 0⟩ :: rest)
    (.inr ⟨_, _, rfl, rfl⟩)
  rw [Expr.lexemes, List.cons_append, placed_cons, placed_append, List.cons_append, List.append_assoc]
  apply reads_succ
  exact reads_bind inner (reads_bind (reads_expect endLine "\x7d" _ _ rfl) (reads_ok _))

mutual

theorem read_back (expr : Expr) (wellFormed : expr.WellFormed .operand) : ReadBack expr := by
  match expr with
  | .block line statements =>
      exact block_back line statements (statements_back statements wellFormed)
  | .declare line name none => exact declare_back line name
  | .declare line name (some initializer) =>
      exact initialized_back line name initializer (read_back initializer wellFormed.2)
  | .branch line condition thenBranch none =>
      exact branch_back line condition thenBranch (read_back condition wellFormed.1) wellFormed.2
        (read_back thenBranch)
  | .branch line condition thenBranch (some elseBranch) =>
      exact alternative_back line condition thenBranch elseBranch (read_back condition wellFormed.1)
        wellFormed.2.1 (read_back thenBranch) wellFormed.2.2 (read_back elseBranch)
  | .loop line condition body =>
      exact loop_back line condition body (read_back condition wellFormed.1) wellFormed.2
        (read_back body)
  | .binary line operator left right =>
      exact binary_back line operator left right wellFormed.1 (read_back left wellFormed.2.1)
        (read_back right wellFormed.2.2)
  | .unary line operator operand =>
      exact unary_back line operator operand wellFormed.1 (read_back operand wellFormed.2)
  | .literal line text =>
      exact literal_back line text wellFormed
  | .identifier line name => exact name_back line name
  | .call line name arguments =>
      exact call_back line name arguments (arguments_back arguments wellFormed.2)
  | .empty _ => cases wellFormed

theorem statements_back (exprs : List Expr) (wellFormed : WellFormedAll .statement exprs)
    (endLine : Nat) (rest : List Token) (ends : Ends rest) :
    Reads (statements endLine · (placed (lexemesOfStatements exprs) ++ rest))
      (mapLinesOfAll (fun _ => 0) exprs, rest) := by
  match exprs with
  | [] =>
      apply reads_succ
      exact reads_bind (statement_none endLine rest ends) (reads_ok _)
  | first :: others =>
      simp only [WellFormedAll] at wellFormed
      rw [lexemesOfStatements, placed_append, List.append_assoc]
      apply reads_succ
      exact reads_bind (ended_statement first wellFormed.1 (read_back first) endLine _)
        (reads_bind (statements_back others wellFormed.2 endLine rest ends) (reads_ok _))

theorem arguments_back (exprs : List Expr) (wellFormed : WellFormedAll .operand exprs)
    (endLine : Nat) (rest : List Token) :
    Reads (arguments endLine · (placed (lexemesOfArguments exprs) ++ rest))
      (mapLinesOfAll (fun _ => 0) exprs, rest) := by
  match exprs with
  | [] =>
      have nothing : Reads (primary endLine · (placed [⟨.separator, ")"⟩] ++ rest)) none := by
        apply reads_succ
        exact reads_ok none
      apply reads_succ
      exact reads_bind (expression_of_nothing rfl nothing)
        (reads_bind (reads_expect endLine ")" _ rest rfl) (reads_ok _))
  | [last] =>
      simp only [WellFormedAll] at wellFormed
      have inner := parenthesized_expression (read_back last wellFormed.1) endLine
        (⟨⟨.separator, ")"⟩, 0⟩ :: rest) (behind_separator _ rest rfl (by decide))
      rw [lexemesOfArguments, placed_append, List.append_assoc]
      apply reads_succ
      exact reads_bind inner (reads_ok _)
  | first :: second :: others =>
      have inner := parenthesized_expression (read_back first wellFormed.1) endLine
        (⟨⟨.separator, ","⟩, 0⟩ :: (placed (lexemesOfArguments (second :: others)) ++ rest))
        (behind_separator _ _ rfl (by decide))
      rw [lexemesOfArguments, placed_append, placed_cons, List.append_assoc, List.cons_append]
      apply reads_succ
      exact reads_bind inner (reads_bind (reads_expect endLine "," _ _ rfl)
        (reads_bind (arguments_back (second :: others) wellFormed.2 endLine rest) (reads_ok _)))

end

theorem placed_alike (lexemes : List Lexeme) (tokens : List Token)
    (same : tokens.map Token.toLexeme = lexemes) :
    Alike (fun _ => 0) [] (placed lexemes) tokens := by
  subst same
  apply alike_of_map_eq rfl
  simp [placed]

theorem program_well_formed (source : String) (tokens : List Token) (program : Program)
    (scanned : tokenize source = .ok tokens) (read : Program.ofTokens tokens = .ok program) :
    program.WellFormed := by
  refine derives_well_formed (program_derives tokens program read) fun token member => ?_
  exact ⟨source, tokens, scanned, token, (List.mem_filter.mp member).1, rfl⟩

theorem spelling_read (program : Program) (wellFormed : program.WellFormed) :
    ∃ tokens parsed, tokenize program.spelling = .ok tokens ∧ Program.ofTokens tokens = .ok parsed ∧
      parsed.withoutLines = program.withoutLines := by
  obtain ⟨tokens, scanned, spelled⟩ := spelling_scanned program wellFormed
  have reads := statements_back program.statements wellFormed 0 [] (.inl rfl)
  rw [List.append_nil] at reads
  obtain ⟨parsed, answer, same⟩ := program_of_alike _ tokens 0 _ reads (placed_alike _ _ spelled)
  refine ⟨tokens, parsed, scanned, answer, ?_⟩
  rw [map_lines_of_all_map] at same
  exact congrArg Program.mk same

mutual

theorem map_lines_well_formed (view : Nat → Nat) (place : Place) (expr : Expr) :
    (expr.mapLines view).WellFormed place ↔ expr.WellFormed place := by
  match expr with
  | .block _ statements => simp [map_lines_all_well_formed view .statement statements]
  | .declare _ _ none => simp
  | .declare _ _ (some initializer) => simp [map_lines_well_formed view .operand initializer]
  | .branch _ condition thenBranch none =>
      simp [map_lines_well_formed view .operand condition, map_lines_well_formed view .statement thenBranch]
  | .branch _ condition thenBranch (some elseBranch) =>
      simp [map_lines_well_formed view .operand condition, map_lines_well_formed view .statement thenBranch,
        map_lines_well_formed view .statement elseBranch]
  | .loop _ condition body =>
      simp [map_lines_well_formed view .operand condition, map_lines_well_formed view .statement body]
  | .binary _ _ left right =>
      simp [map_lines_well_formed view .operand left, map_lines_well_formed view .operand right]
  | .unary _ _ operand => simp [map_lines_well_formed view .operand operand]
  | .literal _ _ => simp
  | .identifier _ _ => simp
  | .call _ _ arguments => simp [map_lines_all_well_formed view .operand arguments]
  | .empty _ => simp

theorem map_lines_all_well_formed (view : Nat → Nat) (place : Place) (exprs : List Expr) :
    WellFormedAll place (mapLinesOfAll view exprs) ↔ WellFormedAll place exprs := by
  match exprs with
  | [] => simp
  | first :: others =>
      simp [map_lines_well_formed view place first, map_lines_all_well_formed view place others]

end

theorem without_lines_well_formed (program : Program) :
    program.withoutLines.WellFormed ↔ program.WellFormed :=
  map_lines_all_well_formed _ _ _

/-- Up to their lines, the programs that are read from source texts are the well-formed ones, and each
of these is read from its spelling. -/
theorem read_iff_well_formed (program : Program) :
    ((∃ source tokens parsed, tokenize source = .ok tokens ∧ Program.ofTokens tokens = .ok parsed ∧
      parsed.withoutLines = program.withoutLines) ↔ program.WellFormed) ∧
    (program.WellFormed →
      ∃ tokens parsed, tokenize program.spelling = .ok tokens ∧ Program.ofTokens tokens = .ok parsed ∧
        parsed.withoutLines = program.withoutLines) := by
  refine ⟨⟨?_, fun wellFormed => ?_⟩, spelling_read program⟩
  · rintro ⟨source, tokens, parsed, scanned, read, same⟩
    have parsedWellFormed := program_well_formed source tokens parsed scanned read
    rwa [← without_lines_well_formed, same, without_lines_well_formed] at parsedWellFormed
  · obtain ⟨tokens, parsed, answers⟩ := spelling_read program wellFormed
    exact ⟨program.spelling, tokens, parsed, answers⟩

-- The program `if (a < 1) let b; else ;`.
def sampleProgram : Program :=
  ⟨[.branch 1 (.binary 1 "<" (.identifier 1 "a") (.literal 1 "1")) (.declare 1 "b" none)
    (some (.empty 1))]⟩

theorem sample_program_read : sampleProgram.WellFormed ∧
    sampleProgram.spelling = "( if ( ( ( a ) < ( 1 ) ) ) ( let b ) ; else ; ) ;" ∧
    ∃ tokens parsed, tokenize sampleProgram.spelling = .ok tokens ∧
      Program.ofTokens tokens = .ok parsed ∧ parsed.withoutLines = sampleProgram.withoutLines := by
  have wellFormed : sampleProgram.WellFormed := by
    simp only [Program.WellFormed, sampleProgram, WellFormedAll, Expr.WellFormed]
    exact ⟨⟨⟨⟨_, rfl⟩, scanned_alone .identifier 'a' [] rfl, scanned_alone .literal '1' [] rfl⟩,
      scanned_alone .identifier 'b' [] rfl, trivial⟩, trivial⟩
  exact ⟨wellFormed, by decide, (read_iff_well_formed sampleProgram).2 wellFormed⟩

end Scriptlet
