import Scriptlet.Proofs.Analysis.Lines
import Scriptlet.Proofs.Evaluation.Raised
import Scriptlet.Proofs.Grammar.Blame
import Scriptlet.Proofs.Grammar.Derivation
import Scriptlet.Proofs.Script.Conclusion
import Scriptlet.Proofs.Token.Lossless

set_option autoImplicit false

namespace Scriptlet

def Failure.line? : Failure → Option Nat
  | .lexical error => some error.line
  | .syntactic error => some error.line
  | .semantic error => some error.line
  | .runtime error => some error.line
  | .output _ => none

-- The source is cut in two, and the second part starts on the given line.
structure StartsOn (source : String) (front back : List Char) (line : Nat) : Prop where
  whole : front ++ back = source.toList
  counted : line = 1 + front.count '\n'

def TokenOn (source : String) (line : Nat) : Prop :=
  ∃ before token behind, tokenize source = .ok (before ++ token :: behind) ∧ token.line = line ∧
    StartsOn source (textOf before) (textOf (token :: behind)) line

def FaultAt (source : String) (error : LexicalError) : Prop :=
  ∃ tokens rest, (Scanner.ofSource source).items = tokens.map .ok ++ [.error error] ∧
    StartsOn source (textOf tokens) rest error.line ∧ NextItem rest (.error error.cause)

def Failure.PointsInto (source : String) : Failure → Prop
  | .lexical error => FaultAt source error
  | .syntactic error => TokenOn source error.line
  | .semantic error => TokenOn source error.line
  | .runtime error => TokenOn source error.line
  | .output _ => True

section Scanning

variable {source : String}

theorem starts_within {front back : List Char} {line : Nat} (starts : StartsOn source front back line) :
    1 ≤ line ∧ line ≤ 1 + source.toList.count '\n' := by
  rw [starts.counted, ← starts.whole, List.count_append]
  omega

theorem tokenize_scans (source : String) :
    (∃ tokens, tokenize source = .ok tokens ∧ Scans (.ofSource source) tokens none) ∨
      ∃ tokens error, tokenize source = .error error ∧ Scans (.ofSource source) tokens (some error) := by
  obtain ⟨tokens, fault, scans⟩ := scanner_scans (.ofSource source)
  cases fault with
  | none =>
      refine .inl ⟨tokens, ?_, scans⟩
      rw [tokenize, scans.items, Option.toList_none, List.map_nil, List.append_nil]
      exact map_m_of_map_ok tokens
  | some error =>
      refine .inr ⟨tokens, error, ?_, scans⟩
      rw [tokenize, scans.items]
      exact map_m_of_fault tokens error

theorem fault_of_scan {error : LexicalError} (scanned : tokenize source = .error error) :
    FaultAt source error := by
  obtain ⟨tokens, found, -⟩ | ⟨tokens, fault, found, scans⟩ := tokenize_scans source
  · rw [scanned] at found
    cases found
  · rw [scanned] at found
    cases found
    obtain ⟨rest, whole, next⟩ := scans.broken error rfl
    exact ⟨tokens, rest, scans.items, ⟨whole, scans.faultLine error rfl⟩, next⟩

theorem token_of_member {tokens : List Token} (scanned : tokenize source = .ok tokens) {token : Token}
    (member : token ∈ tokens) : TokenOn source token.line := by
  obtain ⟨all, found, scans⟩ | ⟨all, fault, found, -⟩ := tokenize_scans source
  · rw [scanned] at found
    cases found
    obtain ⟨before, behind, rfl⟩ := List.append_of_mem member
    have whole : textOf (before ++ token :: behind) = source.toList := scans.whole rfl
    rw [textOf, List.flatMap_append] at whole
    exact ⟨before, token, behind, scanned, rfl, whole, scans.lines before token behind rfl⟩
  · rw [scanned] at found
    cases found

end Scanning

section Reading

open Grammar

def LinesFrom (tokens : List Token) (nodes : List Expr) : Prop :=
  ∀ node ∈ nodes, ∃ token ∈ tokens, token.line = node.line

variable {tokens fewer : List Token} {nodes more : List Expr}

theorem lines_nil : LinesFrom tokens [] := List.forall_mem_nil _

theorem lines_cons {node : Expr} {token : Token} (member : token ∈ tokens) (line : token.line = node.line)
    (others : LinesFrom tokens nodes) : LinesFrom tokens (node :: nodes) :=
  List.forall_mem_cons.mpr ⟨⟨token, member, line⟩, others⟩

theorem lines_append (first : LinesFrom tokens nodes) (second : LinesFrom tokens more) :
    LinesFrom tokens (nodes ++ more) :=
  List.forall_mem_append.mpr ⟨first, second⟩

theorem lines_within (lines : LinesFrom fewer nodes) (within : ∀ token ∈ fewer, token ∈ tokens) :
    LinesFrom tokens nodes := by
  intro node member
  obtain ⟨token, found, line⟩ := lines node member
  exact ⟨token, within token found, line⟩

theorem derives_lines {phrase : Phrase} (derives : Derives tokens phrase) :
    LinesFrom tokens phrase.nodes := by
  induction derives with
  | noStatements => exact lines_nil
  | moreStatements _ _ first others =>
      exact lines_append (lines_within first (by simp +contextual))
        (lines_within others (by simp +contextual))
  | lone semicolon => exact lines_cons List.mem_cons_self rfl lines_nil
  | unended _ lines => exact lines
  | ended _ _ _ lines => exact lines_within lines (by simp +contextual)
  | unsigned _ lines => exact lines
  | signed sign _ _ _ lines =>
      exact lines_cons List.mem_cons_self rfl (lines_within lines (by simp +contextual))
  | joined token _ _ _ _ left right =>
      apply lines_cons (List.mem_append_right _ List.mem_cons_self) rfl
      exact lines_append (lines_within left (by simp +contextual))
        (lines_within right (by simp +contextual))
  | name token => exact lines_cons List.mem_cons_self rfl lines_nil
  | call token opening _ _ _ lines =>
      exact lines_cons List.mem_cons_self rfl (lines_within lines (by simp +contextual))
  | parenthesized opening closing _ _ _ lines => exact lines_within lines (by simp +contextual)
  | literal token => exact lines_cons List.mem_cons_self rfl lines_nil
  | declare keyword => exact lines_cons List.mem_cons_self rfl lines_nil
  | initialized keyword name equals _ _ _ _ lines =>
      exact lines_cons List.mem_cons_self rfl (lines_within lines (by simp +contextual))
  | branch keyword opening closing _ _ _ _ _ condition thenBranch =>
      apply lines_cons List.mem_cons_self rfl
      exact lines_append (lines_within condition (by simp +contextual))
        (lines_within thenBranch (by simp +contextual))
  | alternative keyword opening closing separating _ _ _ _ _ _ _ condition thenBranch elseBranch =>
      apply lines_cons List.mem_cons_self rfl
      apply lines_append
      · exact lines_append (lines_within condition (by simp +contextual))
          (lines_within thenBranch (by simp +contextual))
      · exact lines_within elseBranch (by simp +contextual)
  | loop keyword opening closing _ _ _ _ _ condition body =>
      apply lines_cons List.mem_cons_self rfl
      exact lines_append (lines_within condition (by simp +contextual))
        (lines_within body (by simp +contextual))
  | block opening closing _ _ _ lines =>
      exact lines_cons List.mem_cons_self rfl (lines_within lines (by simp +contextual))
  | noArguments => exact lines_nil
  | lastArgument closing _ _ lines =>
      exact lines_append (lines_within lines (by simp +contextual)) lines_nil
  | moreArguments comma _ _ _ first others =>
      exact lines_append (lines_within first (by simp +contextual))
        (lines_within others (by simp +contextual))

theorem blamed_token {error : SyntacticError} (failed : Program.ofTokens tokens = .error error) :
    ∃ token ∈ tokens, token.line = error.line := by
  cases program_blames tokens error failed with
  | ended what =>
      cases last : tokens.getLast? with
      | none =>
          rw [List.getLast?_eq_none_iff.mp last] at failed
          cases failed
      | some token => exact ⟨token, List.mem_of_getLast? last, by simp [Cursor.ofTokens, last]⟩
  | expected what token member => exact ⟨token, (List.mem_filter.mp member).1, rfl⟩
  | operand token member => exact ⟨token, (List.mem_filter.mp member).1, rfl⟩
  | sign token member => exact ⟨token, (List.mem_filter.mp member).1, rfl⟩
  | trailing token member => exact ⟨token, (List.mem_filter.mp member).1, rfl⟩

end Reading

section Failures

variable {source : String} {tokens : List Token} {program : Program}

theorem token_of_node (scanned : tokenize source = .ok tokens) (read : Program.ofTokens tokens = .ok program)
    {node : Expr} (member : node ∈ nodesOfAll program.statements) : TokenOn source node.line := by
  obtain ⟨token, found, line⟩ := derives_lines (Grammar.program_derives tokens program read) node member
  rw [← line]
  exact token_of_member scanned (List.mem_filter.mp found).1

theorem stages_point (source : String) : Script.Stages source (Failure.PointsInto source) where
  scanning scanned := fault_of_scan scanned
  reading := by
    intro tokens error scanned failed
    obtain ⟨token, member, line⟩ := blamed_token failed
    rw [Failure.PointsInto, ← line]
    exact token_of_member scanned member
  checking := by
    intro tokens program survey after error scanned read failed
    obtain ⟨node, member, line⟩ := check_line program survey after error failed
    rw [Failure.PointsInto, ← line]
    exact token_of_node scanned read member
  executing := by
    intro tokens program fuel context after error scanned read failed
    have permitted : Permitted (fun error => TokenOn source error.line) (nodesOfAll program.statements) :=
      fun node member _ _ => token_of_node scanned read member
    have raises := execute_raises fuel program permitted context
    rw [Eval.Meets, failed] at raises
    exact raises error rfl
  writing _ := trivial

theorem token_within {line : Nat} (token : TokenOn source line) :
    1 ≤ line ∧ line ≤ 1 + source.toList.count '\n' := by
  obtain ⟨_, _, _, -, -, starts⟩ := token
  exact starts_within starts

theorem points_within {failure : Failure} (points : failure.PointsInto source) :
    ∀ line ∈ failure.line?, 1 ≤ line ∧ line ≤ 1 + source.toList.count '\n' := by
  intro line carried
  cases failure with
  | lexical error =>
      cases carried
      obtain ⟨_, _, -, starts, -⟩ := points
      exact starts_within starts
  | syntactic error | semantic error | runtime error =>
      cases carried
      exact token_within points
  | output fault => cases carried

end Failures

/-- A failure of an evaluation or of a run, whatever sections are asked for and wherever the output goes, points
to a line on which a token of the source starts or, if it is lexical, the text that is no token. This is a line
that the source has. -/
theorem failures_point_into_source (fuel : Nat) (options : Options) (source : String)
    (transcript after : Transcript) (failure : Failure)
    (failed : Script.evaluate fuel source transcript = .error (.failed failure) after ∨
      Script.run fuel options source transcript = .error (.failed failure) after) :
    failure.PointsInto source ∧
      ∀ line ∈ failure.line?, 1 ≤ line ∧ line ≤ 1 + source.toList.count '\n' := by
  have points : failure.PointsInto source := by
    rcases failed with evaluated | ran
    · have concluded := Script.evaluate_concludes (stages_point source) fuel transcript
      rw [evaluated] at concluded
      exact concluded
    · have concluded := Script.run_concludes (stages_point source) fuel options transcript
      rw [ran] at concluded
      exact concluded
  exact ⟨points, points_within points⟩

-- A text that ends too early: its last token is a comment, and the end is missed on the line of that comment.
theorem open_parenthesis_points :
    (∃ after, Script.evaluate 0 "(// a\n// b" {} =
      .error (.failed (.syntactic ⟨2, .expected .expression none⟩)) after) ∧
    TokenOn "(// a\n// b" 2 := by
  have scanned : tokenize "(// a\n// b" =
      .ok [⟨⟨.separator, "("⟩, 1⟩, ⟨⟨.comment, "// a"⟩, 1⟩, ⟨⟨.whitespace, "\n"⟩, 1⟩,
        ⟨⟨.comment, "// b"⟩, 2⟩] := by
    decide +kernel
  have failed : ∃ after, Script.evaluate 0 "(// a\n// b" {} =
      .error (.failed (.syntactic ⟨2, .expected .expression none⟩)) after := by
    rw [Script.evaluate, Script.scan, scanned]
    exact ⟨_, rfl⟩
  obtain ⟨after, failed⟩ := failed
  exact ⟨⟨after, failed⟩, (failures_point_into_source 0 {} _ {} after _ (.inl failed)).1⟩

end Scriptlet
