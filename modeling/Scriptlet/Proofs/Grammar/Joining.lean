import Scriptlet.Proofs.Grammar.Juncture

set_option autoImplicit false

namespace Scriptlet.Grammar

theorem statement_reads {endLine fuel : Nat} {tokens : List Token} {found : Option (Expr × List Token)}
    (answered : statement endLine fuel tokens = .ok found) : Reads (statement endLine · tokens) found :=
  reads_of_follows fuel answered
    (fun _ bound => (rules_follow (fun _ => rfl) bound).statement (whole_refl tokens))
    (fun _ related => (some_alike_whole related).symm)

theorem statements_of_nothing {endLine fuel : Nat} {read : List Expr} {rest : List Token}
    (answered : statements endLine fuel [] = .ok (read, rest)) : read = [] := by
  obtain ⟨taken, cut, derives⟩ := (rules_derive endLine fuel).statements [] _ answered
  exact no_statements derives (List.append_eq_nil_iff.mp cut.symm).1

-- The induction is on the fuel of the first run. Its last statement takes the semicolon, and the second
-- program follows.
theorem statements_joined {front back tokens : List Token} {semicolon : Token}
    (juncture : Juncture front semicolon back) {endLine otherLine fuel : Nat} {read others : List Expr}
    (within : tokens <:+ front) (some : tokens ≠ [])
    (answered : statements endLine fuel tokens = .ok (read, []))
    (continues : Reads (statements otherLine · back) (others, [])) :
    Reads (statements otherLine · (tokens ++ semicolon :: back)) (read ++ others, []) := by
  induction fuel generalizing tokens read with
  | zero => cases answered
  | succ fuel ih =>
      rcases statements_cases answered with ⟨-, -, empty⟩ | ⟨first, behind, exprs, found, further, rfl⟩
      · exact absurd empty.symm some
      · have join := rules_join juncture endLine otherLine fuel
        obtain ⟨_, other, related | ⟨-, ⟨⟩⟩⟩ := join.statement within _ found
        cases related with
        | @some _ _ right leaves =>
            have remaining : Reads (statements otherLine · right) (exprs ++ others, []) := by
              cases leaves with
              | ahead within more => exact ih within more further
              | taken =>
                  obtain rfl := statements_of_nothing further
                  exact continues
            apply reads_succ
            simp only [statements]
            refine reads_bind (statement_reads other) ?_
            exact reads_bind remaining (reads_ok _)

def BeginsLikeSequel (tokens : List Token) : Prop :=
  ∃ first rest, tokens = first :: rest ∧ first.text ∈ [";", "+", "-"]

theorem stands_alone {tokens : List Token} (written : ∀ token ∈ tokens, token.toLexeme.IsWritten)
    (produced : Produces [.rule .program] tokens) (apart : ¬BeginsLikeSequel tokens) :
    StandsAlone tokens := by
  cases tokens with
  | nil => exact ⟨rfl, rfl, fun _ _ => rfl⟩
  | cons first rest =>
      have texts : first.text ∉ [";", "+", "-"] := fun member => apart ⟨first, rest, rfl, member⟩
      have begins : Produces [.rule .expression, ending, statementList] (first :: rest) := by
        cases produced with
        | rule production member listed =>
            obtain rfl := List.mem_singleton.mp member
            cases listed with
            | stop none => cases none
            | again produced =>
                rcases statement_forms produced with ⟨semicolon, behind, cut, same, -⟩ | expression
                · cases cut
                  simp [same] at texts
                · exact expression
      constructor
      · have other : first.text ≠ ";" := fun same => texts (by simp [same])
        simp [other]
      · have other : first.text ≠ "else" := by
          intro same
          have known : Lexeme.IsWritten ⟨.keyword, "else"⟩ := written_keyword "else" (by decide)
          have lexeme := written_unique (written first List.mem_cons_self) known same
          exact expression_not_continuing begins (by simp [lexeme])
        simp [other]
      · intro group level
        have refused : isContinued group first = false := by
          by_contra continued
          simp only [isContinued, Bool.not_eq_false, Bool.and_eq_true, decide_eq_true_eq] at continued
          obtain ⟨operator, found⟩ := Option.isSome_iff_exists.mp continued.2
          rcases unary_forms (expression_form begins) with ⟨sign, behind, cut, -, known, -⟩ | primary
          · cases cut
            obtain ⟨unary, isUnary⟩ := Option.isSome_iff_exists.mp known
            exact texts (List.mem_cons_of_mem _ (sign_of_both isUnary (find_of_group level found)))
          · exact primary_not_operator (primary_form primary) continued.1
        simp [acceptIf, refused]

theorem significant_joined (first second : List Token) {semicolon : Token}
    (separates : semicolon.toLexeme = ⟨.separator, ";"⟩) :
    (first ++ semicolon :: second).filter Token.isSignificant =
      first.filter Token.isSignificant ++ semicolon :: second.filter Token.isSignificant := by
  have significant : semicolon.isSignificant = true := by
    simp [Token.isSignificant, separates, TokenKind.isTrivia]
  rw [List.filter_append, List.filter_cons_of_pos significant]

end Scriptlet.Grammar

namespace Scriptlet

open Grammar

section Joining

variable {first second : List Token} {program further : Program} {semicolon : Token}

-- The semicolon may always be read as a statement of its own, so what is joined can be read.
theorem joined_readable (written : ∀ token ∈ first.filter Token.isSignificant, token.toLexeme.IsWritten)
    (writtenToo : ∀ token ∈ second.filter Token.isSignificant, token.toLexeme.IsWritten)
    (separates : semicolon.toLexeme = ⟨.separator, ";"⟩)
    (read : Program.ofTokens first = .ok program) (readToo : Program.ofTokens second = .ok further) :
    ∃ joined, Program.ofTokens (first ++ semicolon :: second) = .ok joined := by
  have lone : Derives [semicolon] (.statement (.empty semicolon.line)) :=
    .lone semicolon (by simp [separates])
  have derives := derives_append (program_derives first program read)
    (.moreStatements lone (program_derives second further readToo))
  have known : Lexeme.IsWritten ⟨.separator, ";"⟩ := written_separator ';' rfl
  have writtenAll : ∀ token ∈ first.filter Token.isSignificant ++
      semicolon :: second.filter Token.isSignificant, token.toLexeme.IsWritten := by
    rw [List.forall_mem_append, List.forall_mem_cons, separates]
    exact ⟨written, known, writtenToo⟩
  have produced := program_of_derives derives writtenAll
  rw [← significant_joined first second separates] at writtenAll
  apply produced_program_read writtenAll
  rw [significant_joined first second separates]
  exact produced

theorem reads_behind (readToo : Program.ofTokens second = .ok further) (first : List Token)
    (semicolon : Token) :
    Reads (statements (Cursor.ofTokens (first ++ semicolon :: second)).endLine ·
      (second.filter Token.isSignificant)) (further.statements, []) := by
  cases second with
  | nil =>
      cases readToo
      apply reads_succ
      exact reads_bind (statement_none _ [] (.inl rfl)) (reads_ok _)
  | cons token rest =>
      have ends : (Cursor.ofTokens (first ++ semicolon :: token :: rest)).endLine =
          (Cursor.ofTokens (token :: rest)).endLine := by
        simp only [Cursor.ofTokens, List.getLast?_append_cons, List.getLast?_cons_cons]
      rw [ends]
      exact reads_of_program _ _ readToo

theorem statements_of_joined
    (juncture : Juncture (first.filter Token.isSignificant) semicolon (second.filter Token.isSignificant))
    (some : first.filter Token.isSignificant ≠ [])
    (read : Program.ofTokens first = .ok program) (readToo : Program.ofTokens second = .ok further) :
    Program.ofTokens (first ++ semicolon :: second) = .ok ⟨program.statements ++ further.statements⟩ := by
  apply program_of_reads
  have joined := statements_joined juncture List.suffix_rfl some ((program_ok_iff first program).mp read)
    (reads_behind readToo first semicolon)
  rw [← significant_joined first second juncture.separates] at joined
  exact joined

end Joining

/-- A semicolon between the tokens of two sources joins their programs: the statements of the second follow
those of the first. This may fail only if the first source ends with a conditional or a loop and the second begins
with `;`, `+` or `-`, and what is joined is read in any case. -/
theorem semicolon_joins_programs (source other : String) (first second : List Token)
    (program further : Program) (last semicolon : Token)
    (scanned : tokenize source = .ok first) (scannedToo : tokenize other = .ok second)
    (ends : (first.filter Token.isSignificant).getLast? = some last) (unended : last.text ≠ ";")
    (separates : semicolon.toLexeme = ⟨.separator, ";"⟩)
    (read : Program.ofTokens first = .ok program) (readToo : Program.ofTokens second = .ok further) :
    ∃ joined, Program.ofTokens (first ++ semicolon :: second) = .ok joined ∧
      (¬(EndsWithBranch (first.filter Token.isSignificant) ∧
          BeginsLikeSequel (second.filter Token.isSignificant)) →
        joined.statements = program.statements ++ further.statements) := by
  have writtenToo := significant_written scannedToo
  by_cases ambiguous : EndsWithBranch (first.filter Token.isSignificant) ∧
      BeginsLikeSequel (second.filter Token.isSignificant)
  · obtain ⟨joined, answered⟩ :=
      joined_readable (significant_written scanned) writtenToo separates read readToo
    exact ⟨joined, answered, fun clear => absurd ambiguous clear⟩
  · have juncture : Juncture (first.filter Token.isSignificant) semicolon
        (second.filter Token.isSignificant) := by
      constructor
      · exact separates
      · rintro final ⟨front, whole⟩
        rw [← whole, List.getLast?_concat, Option.some.injEq] at ends
        rw [ends]
        exact unended
      · intro branch
        exact stands_alone writtenToo (program_produced scannedToo readToo)
          fun begins => ambiguous ⟨branch, begins⟩
    have some : first.filter Token.isSignificant ≠ [] := by
      intro empty
      simp [empty] at ends
    exact ⟨_, statements_of_joined juncture some read readToo, fun _ => rfl⟩

-- The tokens of `if(c)a` or `while(c)a`.
def branchTokens (word : String) : List Token :=
  [⟨⟨.keyword, word⟩, 1⟩, ⟨⟨.separator, "("⟩, 1⟩, ⟨⟨.identifier, "c"⟩, 1⟩, ⟨⟨.separator, ")"⟩, 1⟩,
    ⟨⟨.identifier, "a"⟩, 1⟩]

theorem loop_joined_with_name :
    tokenize "while(c)a" = .ok (branchTokens "while") ∧ tokenize "b" = .ok [⟨⟨.identifier, "b"⟩, 1⟩] ∧
      Program.ofTokens (branchTokens "while" ++ [⟨⟨.separator, ";"⟩, 1⟩, ⟨⟨.identifier, "b"⟩, 1⟩]) =
        .ok ⟨[.loop 1 (.identifier 1 "c") (.identifier 1 "a"), .identifier 1 "b"]⟩ := by
  have scanned : tokenize "while(c)a" = .ok (branchTokens "while") := by decide +kernel
  have scannedToo : tokenize "b" = .ok [⟨⟨.identifier, "b"⟩, 1⟩] := by decide +kernel
  obtain ⟨joined, answered, same⟩ := semicolon_joins_programs _ _ _ _
    ⟨[.loop 1 (.identifier 1 "c") (.identifier 1 "a")]⟩ ⟨[.identifier 1 "b"]⟩ ⟨⟨.identifier, "a"⟩, 1⟩
    ⟨⟨.separator, ";"⟩, 1⟩ scanned scannedToo rfl (by decide) rfl rfl rfl
  have apart : ¬BeginsLikeSequel [⟨⟨.identifier, "b"⟩, 1⟩] := by
    rintro ⟨first, rest, ⟨⟩, texts⟩
    simp at texts
  obtain ⟨statements⟩ := joined
  obtain rfl := same fun ambiguous => apart ambiguous.2
  exact ⟨scanned, scannedToo, answered⟩

def sequelTokens : List (String × List Token) :=
  [(";", [⟨⟨.separator, ";"⟩, 1⟩]), ("+b", [⟨⟨.operator, "+"⟩, 1⟩, ⟨⟨.identifier, "b"⟩, 1⟩]),
    ("-b", [⟨⟨.operator, "-"⟩, 1⟩, ⟨⟨.identifier, "b"⟩, 1⟩])]

theorem branch_absorbs_sequel :
    (tokenize "if(c)a" = .ok (branchTokens "if") ∧ tokenize "while(c)a" = .ok (branchTokens "while")) ∧
      ∀ word ∈ ["if", "while"], ∀ sequel ∈ sequelTokens, tokenize sequel.1 = .ok sequel.2 ∧
        ∃ program further joined, Program.ofTokens (branchTokens word) = .ok program ∧
          Program.ofTokens sequel.2 = .ok further ∧
          Program.ofTokens (branchTokens word ++ ⟨⟨.separator, ";"⟩, 1⟩ :: sequel.2) = .ok joined ∧
          joined.statements ≠ program.statements ++ further.statements := by
  refine ⟨⟨by decide +kernel, by decide +kernel⟩, ?_⟩
  intro word known sequel member
  simp only [sequelTokens, List.mem_cons, List.not_mem_nil, or_false] at known member
  rcases known with rfl | rfl <;> rcases member with rfl | rfl | rfl <;>
    exact ⟨by decide +kernel, _, _, _, rfl, rfl, rfl, by simp⟩

end Scriptlet
