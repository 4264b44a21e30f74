import Scriptlet.Proofs.Grammar.Production

/-!
What may stand behind an expression, and why it does no harm to take from it.

The productions leave open whether `(`, an operator, `;` or `else` goes on with what stands before it or
begins something new. `Sequel` gives the symbols behind an expression, and the main statement
`sequel_absorbed` says that such a token can be taken at once: the symbols produce what is then left.
-/

set_option autoImplicit false

namespace Scriptlet.Grammar

def Covers (strong weak : List Symbol) : Prop := ∀ tokens, Produces weak tokens → Produces strong tokens

theorem covers_optional (inner symbols : List Symbol) : Covers (.optional inner :: symbols) symbols :=
  fun _ produced => .skip produced

theorem covers_many (inner symbols : List Symbol) : Covers (.many inner :: symbols) symbols :=
  fun _ produced => .stop produced

-- The induction is on the derivation: as long as there are symbols in front, they are rewritten as before.
theorem covers_behind {strong weak : List Symbol} (front : List Symbol) (covers : Covers strong weak) :
    Covers (front ++ strong) (front ++ weak) := by
  intro tokens produced
  generalize whole : front ++ weak = symbols at produced
  induction produced generalizing front with
  | nothing =>
      obtain ⟨rfl, rfl⟩ := List.append_eq_nil_iff.mp whole
      exact covers _ .nothing
  | lexeme token same rest ih =>
      cases front with
      | nil =>
          cases whole
          exact covers _ (.lexeme token same rest)
      | cons first front =>
          cases whole
          exact .lexeme token same (ih front rfl)
  | kind token same rest ih =>
      cases front with
      | nil =>
          cases whole
          exact covers _ (.kind token same rest)
      | cons first front =>
          cases whole
          exact .kind token same (ih front rfl)
  | operator token kind known rest ih =>
      cases front with
      | nil =>
          cases whole
          exact covers _ (.operator token kind known rest)
      | cons first front =>
          cases whole
          exact .operator token kind known (ih front rfl)
  | rule production member rest ih =>
      cases front with
      | nil =>
          cases whole
          exact covers _ (.rule production member rest)
      | cons first front =>
          cases whole
          have rewritten := ih (production ++ front) (List.append_assoc _ _ _)
          rw [List.append_assoc] at rewritten
          exact .rule production member rewritten
  | skip rest ih =>
      cases front with
      | nil =>
          cases whole
          exact covers _ (.skip rest)
      | cons first front =>
          cases whole
          exact .skip (ih front rfl)
  | @use symbols tokens inner rest ih =>
      cases front with
      | nil =>
          cases whole
          exact covers _ (.use rest)
      | cons first front =>
          cases whole
          have rewritten := ih (inner ++ front) (List.append_assoc _ _ _)
          rw [List.append_assoc] at rewritten
          exact .use rewritten
  | stop rest ih =>
      cases front with
      | nil =>
          cases whole
          exact covers _ (.stop rest)
      | cons first front =>
          cases whole
          exact .stop (ih front rfl)
  | @again symbols tokens inner rest ih =>
      cases front with
      | nil =>
          cases whole
          exact covers _ (.again rest)
      | cons first front =>
          cases whole
          have rewritten := ih (inner ++ .many inner :: front) (by simp)
          rw [List.append_assoc] at rewritten
          exact .again rewritten

section Forms

variable {symbols : List Symbol} {tokens : List Token}

theorem produces_lexeme {lexeme : Lexeme} (produced : Produces (.lexeme lexeme :: symbols) tokens) :
    ∃ token rest, tokens = token :: rest ∧ token.toLexeme = lexeme ∧ Produces symbols rest := by
  cases produced with
  | lexeme token same rest => exact ⟨token, _, rfl, same, rest⟩

theorem statement_forms (produced : Produces (.rule .statement :: symbols) tokens) :
    (∃ semicolon rest, tokens = semicolon :: rest ∧ semicolon.toLexeme = ⟨.separator, ";"⟩ ∧
      Produces symbols rest) ∨ Produces (.rule .expression :: ending :: symbols) tokens := by
  cases produced with
  | rule production member rest =>
      simp only [productions, List.mem_cons, List.not_mem_nil, or_false] at member
      rcases member with rfl | rfl
      · exact .inl (produces_lexeme rest)
      · exact .inr rest

theorem expression_form (produced : Produces (.rule .expression :: symbols) tokens) :
    Produces (.rule .unary :: operations :: symbols) tokens := by
  cases produced with
  | rule production member rest =>
      obtain rfl := List.mem_singleton.mp member
      exact rest

theorem unary_forms (produced : Produces (.rule .unary :: symbols) tokens) :
    (∃ sign rest, tokens = sign :: rest ∧ sign.kind = .operator ∧
      (Operator.find? sign.text .unary).isSome = true ∧ Produces (.rule .primary :: symbols) rest) ∨
    Produces (.rule .primary :: symbols) tokens := by
  cases produced with
  | rule production member rest =>
      simp only [productions, List.mem_cons, List.not_mem_nil, or_false] at member
      rcases member with rfl | rfl
      · cases rest with
        | operator sign kind known rest => exact .inl ⟨sign, _, rfl, kind, known, rest⟩
      · exact .inr rest

theorem arguments_form (produced : Produces (.rule .arguments :: symbols) tokens) :
    ∃ opening rest, tokens = opening :: rest ∧ opening.toLexeme = ⟨.separator, "("⟩ ∧
      Produces (argumentList :: .separator ")" :: symbols) rest := by
  cases produced with
  | rule production member rest =>
      obtain rfl := List.mem_singleton.mp member
      exact produces_lexeme rest

theorem further_arguments_forms
    (produced : Produces (furtherArguments :: lastComma :: .separator ")" :: symbols) tokens) :
    Produces (.separator "," :: argumentList :: .separator ")" :: symbols) tokens ∨
      Produces (.separator ")" :: symbols) tokens := by
  cases produced with
  | again produced =>
      obtain ⟨comma, rest, rfl, same, listed⟩ := produces_lexeme produced
      exact .inl (.lexeme comma same (.use listed))
  | stop produced =>
      cases produced with
      | use produced =>
          obtain ⟨comma, rest, rfl, same, closed⟩ := produces_lexeme produced
          exact .inl (.lexeme comma same (.skip closed))
      | skip closed => exact .inr closed

end Forms

inductive PrimaryForm (symbols : List Symbol) (first : Token) (rest : List Token) : Prop where
  | name (kind : first.kind = .identifier)
      (behind : Produces (.optional [.rule .arguments] :: symbols) rest)
  | parenthesized (opens : first.toLexeme = ⟨.separator, "("⟩)
      (behind : Produces (.rule .expression :: .separator ")" :: symbols) rest)
  | literal (kind : first.kind = .literal) (behind : Produces symbols rest)
  | declare (declares : first.toLexeme = ⟨.keyword, "let"⟩)
      (behind : Produces (.kind .identifier :: initializer :: symbols) rest)
  | branch (branches : first.toLexeme = ⟨.keyword, "if"⟩)
      (behind : Produces (.separator "(" :: .rule .expression :: .separator ")" :: .rule .statement ::
        alternative :: symbols) rest)
  | loop (loops : first.toLexeme = ⟨.keyword, "while"⟩)
      (behind : Produces (.separator "(" :: .rule .expression :: .separator ")" :: .rule .statement ::
        symbols) rest)
  | block (opens : first.toLexeme = ⟨.separator, "\x7b"⟩)
      (behind : Produces (statementList :: .separator "\x7d" :: symbols) rest)

theorem primary_forms {symbols : List Symbol} {tokens : List Token}
    (produced : Produces (.rule .primary :: symbols) tokens) :
    ∃ first rest, tokens = first :: rest ∧ PrimaryForm symbols first rest := by
  cases produced with
  | rule production member rest =>
      simp only [productions, List.mem_cons, List.not_mem_nil, or_false] at member
      rcases member with rfl | rfl | rfl | rfl | rfl | rfl | rfl
      · cases rest with
        | kind token kind behind => exact ⟨token, _, rfl, .name kind behind⟩
      · obtain ⟨first, behind, rfl, opens, inside⟩ := produces_lexeme rest
        exact ⟨first, behind, rfl, .parenthesized opens inside⟩
      · cases rest with
        | kind token kind behind => exact ⟨token, _, rfl, .literal kind behind⟩
      · obtain ⟨first, behind, rfl, declares, inside⟩ := produces_lexeme rest
        exact ⟨first, behind, rfl, .declare declares inside⟩
      · obtain ⟨first, behind, rfl, branches, inside⟩ := produces_lexeme rest
        exact ⟨first, behind, rfl, .branch branches inside⟩
      · obtain ⟨first, behind, rfl, loops, inside⟩ := produces_lexeme rest
        exact ⟨first, behind, rfl, .loop loops inside⟩
      · obtain ⟨first, behind, rfl, opens, inside⟩ := produces_lexeme rest
        exact ⟨first, behind, rfl, .block opens inside⟩

section Starts

variable {symbols : List Symbol} {first : Token} {rest : List Token}

theorem primary_form (produced : Produces (.rule .primary :: symbols) (first :: rest)) :
    PrimaryForm symbols first rest := by
  obtain ⟨_, _, same, form⟩ := primary_forms produced
  cases same
  exact form

theorem primary_not_operator (form : PrimaryForm symbols first rest) : first.kind ≠ .operator := by
  cases form with
  | name kind | literal kind => simp [kind]
  | parenthesized same | declare same | branch same | loop same | block same => simp [same]

theorem primary_not_continuing (form : PrimaryForm symbols first rest) :
    first.toLexeme ∉ [⟨.separator, ";"⟩, ⟨.keyword, "else"⟩] := by
  intro continuing
  simp only [List.mem_cons, List.not_mem_nil, or_false] at continuing
  cases form with
  | name kind | literal kind => rcases continuing with same | same <;> simp [same] at kind
  | parenthesized other | declare other | branch other | loop other | block other =>
      rcases continuing with same | same <;> simp [same] at other

theorem expression_not_continuing (produced : Produces (.rule .expression :: symbols) (first :: rest)) :
    first.toLexeme ∉ [⟨.separator, ";"⟩, ⟨.keyword, "else"⟩] := by
  rcases unary_forms (expression_form produced) with ⟨sign, _, cut, kind, -⟩ | primary
  · cases cut
    intro continuing
    simp only [List.mem_cons, List.not_mem_nil, or_false] at continuing
    rcases continuing with same | same <;> simp [same] at kind
  · exact primary_not_continuing (primary_form primary)

end Starts

def EndsStatements (symbols : List Symbol) : Prop :=
  symbols = [] ∨ ∃ more, symbols = .separator "\x7d" :: more

inductive Sequel : List Symbol → Prop where
  | statements {symbols : List Symbol} (ends : EndsStatements symbols) :
      Sequel (statementList :: symbols)
  | closed (symbols : List Symbol) : Sequel (.separator ")" :: symbols)
  | arguments (symbols : List Symbol) :
      Sequel (furtherArguments :: lastComma :: .separator ")" :: symbols)
  | ended {symbols : List Symbol} (sequel : Sequel symbols) : Sequel (ending :: symbols)
  | alternative {symbols : List Symbol} (sequel : Sequel symbols) : Sequel (alternative :: symbols)
  | operations {symbols : List Symbol} (sequel : Sequel symbols) : Sequel (operations :: symbols)

-- The first token belongs to somebody further out, or the symbols produce what is left without it. An
-- operator in front of an operand is taken alike whether it joins the operand or begins a statement.
inductive Absorbed (symbols : List Symbol) (token : Token) (rest : List Token) : Prop where
  | closer (closes : IsCloser token)
  | semicolon (same : token.toLexeme = ⟨.separator, ";"⟩) (behind : Produces symbols rest)
  | alternative (same : token.toLexeme = ⟨.keyword, "else"⟩)
      (behind : Produces (.rule .statement :: symbols) rest)
  | operation (kind : token.kind = .operator)
      (behind : Produces (.rule .unary :: operations :: symbols) rest)
  | primary (produced : Produces (.rule .primary :: operations :: symbols) (token :: rest))

section Absorbing

variable {symbols strong weak : List Symbol} {token : Token} {rest : List Token}

theorem absorbed_covers (covers : Covers strong weak) (absorbed : Absorbed weak token rest) :
    Absorbed strong token rest := by
  cases absorbed with
  | closer closes => exact .closer closes
  | semicolon same behind => exact .semicolon same (covers rest behind)
  | alternative same behind =>
      exact .alternative same (covers_behind [.rule .statement] covers rest behind)
  | operation kind behind =>
      exact .operation kind (covers_behind [.rule .unary, operations] covers rest behind)
  | primary produced =>
      exact .primary (covers_behind [.rule .primary, operations] covers (token :: rest) produced)

theorem separator_absorbed (text : String) (closes : text ∈ [")", "\x7d", ","])
    (produced : Produces (.separator text :: weak) (token :: rest)) : Absorbed symbols token rest := by
  cases produced with
  | lexeme _ same _ =>
      have known : token.text = text := congrArg Lexeme.text same
      exact .closer ⟨congrArg Lexeme.kind same, known ▸ closes⟩

theorem statements_cover_ending (symbols : List Symbol) :
    Covers (statementList :: symbols) (ending :: statementList :: symbols) := by
  intro tokens produced
  cases produced with
  | skip rest => exact rest
  | use rest => exact .again (.rule [.separator ";"] (by simp) rest)

theorem expression_absorbed (produced : Produces (.rule .expression :: symbols) (token :: rest)) :
    Absorbed symbols token rest := by
  rcases unary_forms (expression_form produced) with ⟨sign, behind, same, kind, -, operand⟩ | primary
  · cases same
    exact .operation kind (.rule [.rule .primary] (by simp) operand)
  · exact .primary primary

theorem statements_absorbed (ends : EndsStatements symbols)
    (produced : Produces (statementList :: symbols) (token :: rest)) :
    Absorbed (statementList :: symbols) token rest := by
  cases produced with
  | stop produced =>
      rcases ends with rfl | ⟨more, rfl⟩
      · cases produced
      · exact separator_absorbed "\x7d" (by simp) produced
  | again produced =>
      rcases statement_forms produced with ⟨semicolon, behind, cut, same, others⟩ | expression
      · cases cut
        exact .semicolon same others
      · have covered := covers_behind [.rule .expression] (statements_cover_ending symbols) _ expression
        exact expression_absorbed covered

theorem sequel_absorbed (sequel : Sequel symbols) (produced : Produces symbols (token :: rest)) :
    Absorbed symbols token rest := by
  induction sequel with
  | statements ends => exact statements_absorbed ends produced
  | closed symbols => exact separator_absorbed ")" (by simp) produced
  | arguments symbols =>
      cases produced with
      | again produced => exact separator_absorbed "," (by simp) produced
      | stop produced =>
          cases produced with
          | use produced => exact separator_absorbed "," (by simp) produced
          | skip produced => exact separator_absorbed ")" (by simp) produced
  | @ended symbols sequel ih =>
      cases produced with
      | skip produced => exact absorbed_covers (covers_optional _ _) (ih produced)
      | use produced =>
          cases produced with
          | lexeme _ same behind => exact .semicolon same (.skip behind)
  | @alternative symbols sequel ih =>
      cases produced with
      | skip produced => exact absorbed_covers (covers_optional _ _) (ih produced)
      | use produced =>
          cases produced with
          | lexeme _ same behind =>
              exact .alternative same (covers_behind [.rule .statement] (covers_optional _ _) rest behind)
  | @operations symbols sequel ih =>
      cases produced with
      | stop produced => exact absorbed_covers (covers_many _ _) (ih produced)
      | again produced =>
          cases produced with
          | operator _ kind _ behind =>
              exact .operation kind
                (covers_behind [.rule .unary, operations] (covers_many _ _) rest behind)

end Absorbing

section Commitments

variable {symbols : List Symbol} {token : Token} {rest : List Token} (sequel : Sequel symbols)
include sequel

theorem semicolon_taken (same : token.toLexeme = ⟨.separator, ";"⟩)
    (produced : Produces (ending :: symbols) (token :: rest)) : Produces symbols rest := by
  cases produced with
  | use produced =>
      cases produced with
      | lexeme _ _ behind => exact behind
  | skip produced =>
      cases sequel_absorbed sequel produced with
      | closer closes => simp [IsCloser, same] at closes
      | semicolon _ behind => exact behind
      | alternative other behind => simp [same] at other
      | operation kind behind => simp [same] at kind
      | primary produced => exact absurd (by simp [same]) (primary_not_continuing (primary_form produced))

theorem alternative_taken (same : token.toLexeme = ⟨.keyword, "else"⟩)
    (produced : Produces (alternative :: symbols) (token :: rest)) :
    Produces (.rule .statement :: symbols) rest := by
  cases produced with
  | use produced =>
      cases produced with
      | lexeme _ _ behind => exact behind
  | skip produced =>
      cases sequel_absorbed sequel produced with
      | closer closes => simp [IsCloser, same] at closes
      | semicolon other behind => simp [same] at other
      | alternative _ behind => exact behind
      | operation kind behind => simp [same] at kind
      | primary produced => exact absurd (by simp [same]) (primary_not_continuing (primary_form produced))

theorem operation_taken (operator : token.kind = .operator)
    (produced : Produces (operations :: symbols) (token :: rest)) :
    Produces (.rule .unary :: operations :: symbols) rest := by
  cases produced with
  | again produced =>
      cases produced with
      | operator _ _ _ behind => exact behind
  | stop produced =>
      cases sequel_absorbed sequel produced with
      | closer closes => simp [IsCloser, operator] at closes
      | semicolon same behind => simp [same] at operator
      | alternative same behind => simp [same] at operator
      | operation _ behind => exact behind
      | primary produced => exact absurd operator (primary_not_operator (primary_form produced))

theorem call_taken (opens : token.toLexeme = ⟨.separator, "("⟩)
    (produced : Produces (.optional [.rule .arguments] :: operations :: symbols) (token :: rest)) :
    Produces (argumentList :: .separator ")" :: operations :: symbols) rest := by
  cases produced with
  | use produced =>
      obtain ⟨_, _, cut, -, behind⟩ := arguments_form produced
      cases cut
      exact behind
  | skip produced =>
      cases produced with
      | again produced =>
          cases produced with
          | operator _ kind _ behind => simp [opens] at kind
      | stop produced =>
          cases sequel_absorbed sequel produced with
          | closer closes => simp [IsCloser, opens] at closes
          | semicolon other behind => simp [opens] at other
          | alternative other behind => simp [opens] at other
          | operation kind behind => simp [opens] at kind
          | primary produced =>
              cases primary_form produced with
              | parenthesized _ inside =>
                  have single : Covers (furtherArguments :: lastComma :: .separator ")" :: operations ::
                      symbols) (.separator ")" :: operations :: symbols) :=
                    fun _ closed => .stop (.skip closed)
                  exact .use (covers_behind [.rule .expression] single rest inside)
              | name kind | literal kind => simp [opens] at kind
              | declare other | branch other | loop other | block other => simp [opens] at other

theorem initializer_taken (gives : token.toLexeme = ⟨.operator, "="⟩)
    (produced : Produces (initializer :: operations :: symbols) (token :: rest)) :
    Produces (.rule .expression :: operations :: symbols) rest := by
  cases produced with
  | use produced =>
      cases produced with
      | lexeme _ _ behind => exact behind
  | skip produced =>
      have assigned := operation_taken sequel (congrArg Lexeme.kind gives) produced
      exact covers_behind [.rule .expression] (covers_many _ _) rest (produces_expression assigned)

end Commitments

end Scriptlet.Grammar
