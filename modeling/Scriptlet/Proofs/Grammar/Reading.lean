import Scriptlet.Parser.Program
import Scriptlet.Proofs.Grammar.Alike

/-!
What a rule reads, whatever the fuel.

A rule reads a result if it gives it from some fuel on. Readings compose like the rules, without a
count of the fuel they need, and `expression_of_reads` and `program_of_reads` say that what is
read in this sense is what a cursor answers.
-/

set_option autoImplicit false

namespace Scriptlet.Grammar

def Reads {α : Type} (rule : Nat → Answer α) (result : α) : Prop :=
  ∃ least, ∀ fuel, least ≤ fuel → rule fuel = .ok result

theorem reads_ok {α : Type} (result : α) : Reads (fun _ => .ok result) result :=
  ⟨0, fun _ _ => rfl⟩

theorem reads_expect (endLine : Nat) (text : String) (token : Token) (rest : List Token)
    (same : token.text = text) : Reads (fun _ => expect endLine text (token :: rest)) (token, rest) := by
  rw [expect_cons_pos rest same]
  exact reads_ok (token, rest)

theorem reads_expect_kind (endLine : Nat) (kind : TokenKind) (token : Token) (rest : List Token)
    (same : token.kind = kind) :
    Reads (fun _ => expectKind endLine kind (token :: rest)) (token, rest) := by
  rw [expect_kind_cons_pos rest same]
  exact reads_ok (token, rest)

theorem reads_bind {α β : Type} {first : Nat → Answer α} {next : Nat → α → Answer β} {middle : α}
    {result : β} (read : Reads first middle) (continues : Reads (fun fuel => next fuel middle) result) :
    Reads (fun fuel => first fuel >>= next fuel) result := by
  obtain ⟨least, enough⟩ := read
  obtain ⟨more, behind⟩ := continues
  refine ⟨max least more, fun fuel bound => ?_⟩
  change first fuel >>= next fuel = .ok result
  rw [enough fuel (by omega)]
  exact behind fuel (by omega)

theorem reads_succ {α : Type} {rule : Nat → Answer α} {result : α}
    (read : Reads (fun fuel => rule (fuel + 1)) result) : Reads rule result := by
  obtain ⟨least, enough⟩ := read
  refine ⟨least + 1, fun fuel bound => ?_⟩
  obtain ⟨fuel, rfl⟩ : ∃ less, fuel = less + 1 := ⟨fuel - 1, by omega⟩
  exact enough fuel (by omega)

theorem reads_unique {α : Type} {rule : Nat → Answer α} {result other : α} (read : Reads rule result)
    (again : Reads rule other) : result = other := by
  obtain ⟨least, answers⟩ := read
  obtain ⟨more, agrees⟩ := again
  have same := (answers (max least more) (by omega)).symm.trans (agrees (max least more) (by omega))
  exact Except.ok.inj same

theorem reads_of_follows {α : Type} {same : α → α → Prop} {rule : Nat → Answer α} {suffix : List Token}
    {view : Nat → Nat} {left : Answer α} {a result : α} (least : Nat) (answered : left = .ok a)
    (follows : ∀ fuel, least ≤ fuel → Follows view suffix same left (rule fuel))
    (exact : ∀ b, same a b → b = result) : Reads rule result := by
  refine ⟨least, fun fuel bound => ?_⟩
  have related := follows fuel bound
  rw [answered] at related
  obtain ⟨b, answers, alike⟩ := related
  rw [answers, exact b alike]

theorem alike_whole (left right : List Token) (alike : Alike id [] left right) : left = right := by
  induction alike with
  | ended => rfl
  | closed closer rest part closes => cases part
  | taken left right lefts rights same alike ih =>
      obtain ⟨lexemes, lines⟩ := same
      cases left
      cases right
      cases lexemes
      cases lines
      rw [ih]

theorem same_expr_id {left right : Expr} (same : SameExpr id left right) : left = right := by
  rwa [SameExpr, map_lines_id, map_lines_id] at same

theorem same_exprs_id {left right : List Expr} (same : SameExprs id left right) : left = right := by
  rwa [SameExprs, map_lines_of_all_id, map_lines_of_all_id] at same

theorem some_alike_whole {tokens others : List Token} {left right : Option (Expr × List Token)}
    (alike : Option.Rel (SameRead (SameExpr id)) left right ∧
      Alike id [] (untaken tokens left) (untaken others right)) : left = right := by
  obtain ⟨same, behind⟩ := alike
  cases same with
  | none => rfl
  | some same => rw [Prod.ext (same_expr_id same) (alike_whole _ _ behind)]

theorem whole_refl (tokens : List Token) : Alike id [] tokens tokens :=
  alike_of_map_eq rfl tokens tokens rfl

theorem answer_of_reads {α : Type} {same : α → α → Prop} {rule : Nat → Answer α} {result : α}
    {fuel : Nat} (read : Reads rule result) (enough : rule fuel ≠ .error .outOfFuel)
    (follows : ∀ more, fuel ≤ more → Follows id [] same (rule fuel) (rule more))
    (exact : ∀ a b, same a b → a = b) : rule fuel = .ok result := by
  obtain ⟨least, answers⟩ := read
  have related := follows (max fuel least) (by omega)
  rw [answers (max fuel least) (by omega)] at related
  match answer : rule fuel, related with
  | .ok a, ⟨b, equal, alike⟩ =>
      cases equal
      rw [exact _ _ alike]
  | .error (.failed error), failing =>
      obtain ⟨other, impossible, -⟩ := failing rfl
      cases impossible
  | .error .outOfFuel, _ => exact absurd answer enough

theorem expression_of_reads (cursor : Cursor) (read : Expr) (rest : List Token)
    (reads : Reads (expression cursor.endLine · cursor.tokens) (some (read, rest))) :
    cursor.expression? = .ok (some (read, ⟨rest, cursor.endLine⟩)) := by
  have answer := answer_of_reads reads cursor.expression_enough
    (fun more bound => (rules_follow (fun _ => rfl) bound).expression (whole_refl cursor.tokens))
    (fun _ _ alike => some_alike_whole alike)
  unfold Cursor.expression?
  rw [(settle_eq_ok _ _ _).mpr answer]
  rfl

theorem expression_answer (cursor behind : Cursor) (read : Expr)
    (answered : cursor.expression? = .ok (some (read, behind))) :
    expression cursor.endLine cursor.fuel cursor.tokens = .ok (some (read, behind.tokens)) := by
  unfold Cursor.expression? at answered
  match answer : Stop.settle _ cursor.expression_enough with
  | .error error =>
      rw [answer] at answered
      cases answered
  | .ok none =>
      rw [answer] at answered
      cases answered
  | .ok (some (first, rest)) =>
      rw [answer] at answered
      cases answered
      exact (settle_eq_ok _ _ _).mp answer

theorem reads_of_expression {cursor behind : Cursor} {expr : Expr}
    (read : cursor.expression? = .ok (some (expr, behind))) :
    Reads (expression cursor.endLine · cursor.tokens) (some (expr, behind.tokens)) :=
  reads_of_follows cursor.fuel (expression_answer cursor behind expr read)
    (fun _ bound => (rules_follow (fun _ => rfl) bound).expression (whole_refl cursor.tokens))
    (fun _ related => (some_alike_whole related).symm)

theorem program_ok_iff (tokens : List Token) (program : Program) :
    Program.ofTokens tokens = .ok program ↔
      statements (Cursor.ofTokens tokens).endLine (Cursor.ofTokens tokens).fuel
        (Cursor.ofTokens tokens).tokens = .ok (program.statements, []) := by
  rw [program_of_tokens, Cursor.program, settle_eq_ok, Grammar.program]
  cases statements _ _ _ with
  | error stop =>
      constructor
      · rintro ⟨⟩
      · rintro ⟨⟩
  | ok answer =>
      obtain ⟨read, rest⟩ := answer
      cases rest with
      | nil =>
          constructor
          · rintro ⟨⟩
            rfl
          · rintro ⟨⟩
            rfl
      | cons token rest =>
          constructor
          · rintro ⟨⟩
          · rintro ⟨⟩

theorem program_error_iff (tokens : List Token) (error : SyntacticError) :
    Program.ofTokens tokens = .error error ↔
      statements (Cursor.ofTokens tokens).endLine (Cursor.ofTokens tokens).fuel
          (Cursor.ofTokens tokens).tokens = .error (.failed error) ∨
        ∃ read token rest, statements (Cursor.ofTokens tokens).endLine (Cursor.ofTokens tokens).fuel
          (Cursor.ofTokens tokens).tokens = .ok (read, token :: rest) ∧
          error = ⟨token.line, .trailingInput token.toLexeme⟩ := by
  rw [program_of_tokens, Cursor.program, settle_eq_error, Grammar.program]
  cases statements _ _ _ with
  | error stop =>
      constructor
      · rintro ⟨⟩
        exact .inl rfl
      · rintro (⟨⟨⟩⟩ | ⟨_, _, _, ⟨⟩, _⟩)
        rfl
  | ok answer =>
      obtain ⟨read, rest⟩ := answer
      cases rest with
      | nil =>
          constructor
          · rintro ⟨⟩
          · rintro (⟨⟨⟩⟩ | ⟨_, _, _, ⟨⟩, _⟩)
      | cons token rest =>
          constructor
          · rintro ⟨⟩
            exact .inr ⟨read, token, rest, rfl, rfl⟩
          · rintro (⟨⟨⟩⟩ | ⟨_, _, _, ⟨⟩, rfl⟩)
            rfl

theorem reads_of_program (tokens : List Token) (program : Program)
    (answered : Program.ofTokens tokens = .ok program) :
    Reads (statements (Cursor.ofTokens tokens).endLine · (Cursor.ofTokens tokens).tokens)
      (program.statements, []) :=
  reads_of_follows _ ((program_ok_iff tokens program).mp answered)
    (fun _ bound => (rules_follow (fun _ => rfl) bound).statements (whole_refl _))
    (fun _ related => Prod.ext (same_exprs_id related.1).symm (alike_whole _ _ related.2).symm)

theorem program_of_reads (tokens : List Token) (read : List Expr)
    (reads : Reads (statements (Cursor.ofTokens tokens).endLine · (Cursor.ofTokens tokens).tokens)
      (read, [])) : Program.ofTokens tokens = .ok ⟨read⟩ := by
  refine (program_ok_iff tokens ⟨read⟩).mpr (answer_of_reads reads ?_
    (fun more bound => (rules_follow (fun _ => rfl) bound).statements (whole_refl _))
    (fun _ _ alike => Prod.ext (same_exprs_id alike.1) (alike_whole _ _ alike.2)))
  exact settled_not_out_of_fuel ((settles _ _).statements _ (by unfold Cursor.fuel; omega))

theorem program_of_alike (left tokens : List Token) (endLine : Nat) (read : List Expr)
    (reads : Reads (statements endLine · left) (read, []))
    (alike : Alike (fun _ => 0) [] left (Cursor.ofTokens tokens).tokens) :
    ∃ program, Program.ofTokens tokens = .ok program ∧
      mapLinesOfAll (fun _ => 0) program.statements = mapLinesOfAll (fun _ => 0) read := by
  obtain ⟨fuel, answers⟩ := reads
  have related := (rules_follow (fun _ => rfl) (Nat.le_refl fuel) :
    RulesFollow (fun _ => 0) [] endLine (Cursor.ofTokens tokens).endLine fuel fuel).statements alike
  have first : statements endLine fuel left = .ok (read, []) := answers fuel (Nat.le_refl fuel)
  rw [first] at related
  obtain ⟨⟨other, rest⟩, answer, same, behind⟩ := related
  obtain rfl := alike_nil behind
  refine ⟨⟨other⟩, program_of_reads tokens other ?_, same.symm⟩
  refine reads_of_follows fuel answer (fun more bound =>
    (rules_follow (fun _ => rfl) bound).statements (whole_refl _)) ?_
  intro again related
  exact Prod.ext (same_exprs_id related.1).symm (alike_nil related.2)

theorem expression_before_closer (cursor behind : Cursor) (read : Expr)
    (answered : cursor.expression? = .ok (some (read, behind))) (all : behind.tokens = [])
    (closer : Token) (rest : List Token) (closes : IsCloser closer) (endLine : Nat) :
    Reads (expression endLine · (cursor.tokens ++ closer :: rest)) (some (read, closer :: rest)) := by
  have answer := expression_answer cursor behind read answered
  rw [all] at answer
  have alike : Alike id (closer :: rest) cursor.tokens (cursor.tokens ++ closer :: rest) :=
    alike_append cursor.tokens (.closed closer rest rfl closes)
  have ends : closer :: rest = [] → id cursor.endLine = id endLine := fun whole => nomatch whole
  refine reads_of_follows cursor.fuel answer (fun fuel bound =>
    (rules_follow ends bound).expression alike) fun other related => ?_
  obtain ⟨same, behind⟩ := related
  cases same with
  | some same => exact congrArg some (Prod.ext (same_expr_id same).symm (alike_nil behind))

end Scriptlet.Grammar
