import Mathlib.Data.List.Forall2
import Scriptlet.Proofs.Grammar.Production

/-!
Argument lists and their commas.

The commas of an argument list are those that stand in no brackets inside it. Cut there, the list gives the
arguments of the call one by one (`Listed`), except that a comma may stand behind the last of them. Every
comma of a program belongs to such a list (`commas_separate_arguments`).
-/

set_option autoImplicit false

namespace Scriptlet.Grammar

def nest (depth : Nat) (token : Token) : Option Nat :=
  if token.text ∈ ["(", "\x7b"] then some (depth + 1)
  else if token.text ∈ [")", "\x7d"] then
    match depth with
    | 0 => none
    | outer + 1 => some outer
  else some depth

-- The tokens up to the bracket that closes them, cut at the commas behind which no bracket is open.
def piecesFrom : Nat → List Token → List (List Token)
  | _, [] => [[]]
  | depth, token :: rest =>
      if depth = 0 ∧ token.text = "," then [] :: piecesFrom 0 rest
      else
        match nest depth token with
        | none => [[]]
        | some depth => (piecesFrom depth rest).modifyHead (token :: ·)

def pieces (tokens : List Token) : List (List Token) := piecesFrom 0 tokens

def ownCommas (tokens : List Token) : Nat := (pieces tokens).length - 1

def Balanced (tokens : List Token) : Prop := tokens.foldlM nest 0 = some 0

def HasTrailingComma (tokens : List Token) : Prop :=
  ∃ earlier comma closing rest, tokens = earlier ++ comma :: closing :: rest ∧ Balanced earlier ∧
    comma.text = "," ∧ closing.text = ")"

structure Passes (front : List Token) (depth inner : Nat) : Prop where
  level : front.foldlM nest depth = some inner
  whole : ∀ rest, piecesFrom depth (front ++ rest) = (piecesFrom inner rest).modifyHead (front ++ ·)

def IsPlain (token : Token) : Prop := token.text ∉ ["(", "\x7b", ")", "\x7d", ","]

section Passing

variable {front back : List Token} {depth middle inner : Nat} {token : Token}

theorem passes_nil (depth : Nat) : Passes [] depth depth where
  level := rfl
  whole rest := by
    rw [List.nil_append]
    cases piecesFrom depth rest <;> rfl

theorem passes_append (first : Passes front depth middle) (second : Passes back middle inner) :
    Passes (front ++ back) depth inner where
  level := by rw [List.foldlM_append, first.level]; exact second.level
  whole rest := by
    rw [List.append_assoc, first.whole, second.whole, List.modifyHead_modifyHead]
    congr 1
    funext piece
    exact (List.append_assoc front back piece).symm

theorem passes_token (nested : nest depth token = some inner) (inside : ¬(depth = 0 ∧ token.text = ",")) :
    Passes [token] depth inner where
  level := by simp [nested]
  whole rest := by simp [piecesFrom, inside, nested]

theorem passes_cons (first : Passes [token] depth middle) (others : Passes back middle inner) :
    Passes (token :: back) depth inner :=
  passes_append first others

theorem passes_plain (depth : Nat) (plain : IsPlain token) : Passes [token] depth depth := by
  simp only [IsPlain, List.mem_cons, List.not_mem_nil, or_false, not_or] at plain
  exact passes_token (by simp [nest, plain]) (by simp [plain])

theorem passes_opening (depth : Nat) (opens : token.text ∈ ["(", "\x7b"]) :
    Passes [token] depth (depth + 1) := by
  have inside : token.text ≠ "," := fun comma => by simp [comma] at opens
  exact passes_token (by simp only [nest, if_pos opens]) (by simp [inside])

theorem passes_closing (depth : Nat) (closes : token.text ∈ [")", "\x7d"]) :
    Passes [token] (depth + 1) depth := by
  have noOpening : token.text ∉ ["(", "\x7b"] := by
    intro opening
    simp only [List.mem_cons, List.not_mem_nil, or_false] at opening
    rcases opening with text | text <;> simp [text] at closes
  exact passes_token (by simp only [nest, if_neg noOpening, if_pos closes]) (by simp)

theorem passes_comma (depth : Nat) (comma : token.text = ",") : Passes [token] (depth + 1) (depth + 1) :=
  passes_token (by simp [nest, comma]) (by simp)

theorem plain_of_kind (written : token.toLexeme.IsWritten) (kind : token.kind ≠ .separator) :
    IsPlain token := by
  have apart (c : Char) (separates : isSeparator c = true) : token.text ≠ String.ofList [c] := by
    intro text
    have same := written_unique written (written_separator c separates) text
    exact kind (congrArg Lexeme.kind same)
  intro member
  simp only [List.mem_cons, List.not_mem_nil, or_false] at member
  rcases member with text | text | text | text | text
  · exact apart '(' rfl text
  · exact apart '\x7b' rfl text
  · exact apart ')' rfl text
  · exact apart '\x7d' rfl text
  · exact apart ',' rfl text

theorem pieces_comma (rest : List Token) (comma : token.text = ",") :
    pieces (token :: rest) = [] :: pieces rest := by
  simp [pieces, piecesFrom, comma]

theorem pieces_argument (passes : Passes front 0 0) (comma : token.text = ",") (rest : List Token) :
    pieces (front ++ token :: rest) = front :: pieces rest := by
  rw [pieces, passes.whole, ← pieces, pieces_comma rest comma, List.modifyHead_cons, List.append_nil]

theorem pieces_closing (rest : List Token) (closes : token.text = ")") : pieces (token :: rest) = [[]] := by
  simp [pieces, piecesFrom, nest, closes]

end Passing

abbrev ReadAs (items : List (List Token)) (arguments : List Expr) : Prop :=
  List.Forall₂ (fun item argument => Derives item (.expression argument)) items arguments

-- Cut at its own commas, an argument list gives its arguments one by one. There is an empty piece behind a
-- trailing comma, and if there are no arguments.
inductive Listed (tokens : List Token) (arguments : List Expr) : Prop where
  | none (closed : ∃ closing rest, tokens = closing :: rest ∧ closing.text = ")") (empty : arguments = [])
      (single : pieces tokens = [[]])
  | all (each : ReadAs (pieces tokens) arguments)
  | trailing (trails : HasTrailingComma tokens) (items : List (List Token))
      (last : pieces tokens = items ++ [[]]) (each : ReadAs items arguments)

theorem balanced_cons {front back : List Token} {comma : Token} (separates : comma.text = ",")
    (first : Balanced front) (second : Balanced back) : Balanced (front ++ comma :: back) := by
  have passed : nest 0 comma = some 0 := by simp [nest, separates]
  rw [Balanced] at first second ⊢
  simp [List.foldlM_append, first, passed, second]

theorem listed_cons {front back : List Token} {comma : Token} {first : Expr} {others : List Expr}
    (read : Derives front (.expression first)) (passes : Passes front 0 0) (separates : comma.text = ",")
    (listed : Listed back others) : Listed (front ++ comma :: back) (first :: others) := by
  have cut := pieces_argument passes separates back
  cases listed with
  | none closed empty single =>
      obtain ⟨closing, rest, rfl, closes⟩ := closed
      subst empty
      have trails : HasTrailingComma (front ++ comma :: closing :: rest) :=
        ⟨front, comma, closing, rest, rfl, passes.level, separates, closes⟩
      exact .trailing trails [front] (by rw [cut, single]; rfl) (.cons read .nil)
  | all each => exact .all (by rw [cut]; exact .cons read each)
  | trailing trails items last each =>
      obtain ⟨earlier, further, closing, rest, rfl, level, isComma, closes⟩ := trails
      have trails : HasTrailingComma (front ++ comma :: (earlier ++ further :: closing :: rest)) :=
        ⟨front ++ comma :: earlier, further, closing, rest, by simp,
          balanced_cons separates passes.level level, isComma, closes⟩
      exact .trailing trails (front :: items) (by rw [cut, last]; rfl) (.cons read each)

def GoesOn (left behind : List Token) (arguments : List Expr) : Prop :=
  (∃ item rest argument, behind = item ++ rest ∧ Derives item (.expression argument) ∧
    arguments[(pieces left).length]? = some argument) ∨
  ∃ closing rest, behind = closing :: rest ∧ closing.text = ")" ∧ arguments.length = (pieces left).length

structure Separates (left : List Token) (comma : Token) (behind : List Token) (arguments : List Expr) :
    Prop where
  own : Balanced left
  listed : Listed (left ++ comma :: behind) arguments
  goesOn : GoesOn left behind arguments

def InCall (nodes : List Expr) (before : List Token) (comma : Token) (behind : List Token) : Prop :=
  ∃ front name opening left arguments, before = front ++ name :: opening :: left ∧
    name.kind = .identifier ∧ opening.text = "(" ∧
    Expr.call name.line name.text arguments ∈ nodes ∧ Separates left comma behind arguments

def CommasInCalls (nodes : List Expr) (tokens : List Token) : Prop :=
  ∀ before comma behind rest, tokens = before ++ comma :: behind → comma.text = "," →
    InCall nodes before comma (behind ++ rest)

section Commas

variable {tokens front back : List Token} {nodes more : List Expr} {token : Token}

theorem in_call_behind {before behind : List Token} {comma : Token} (front : List Token)
    (found : InCall nodes before comma behind) (within : nodes ⊆ more) :
    InCall more (front ++ before) comma behind := by
  obtain ⟨outer, name, opening, left, arguments, rfl, kind, opens, member, separates⟩ := found
  exact ⟨front ++ outer, name, opening, left, arguments, by simp, kind, opens, within member, separates⟩

theorem commas_within (commas : CommasInCalls nodes tokens) (within : nodes ⊆ more) :
    CommasInCalls more tokens := by
  intro before comma behind rest splits text
  exact in_call_behind [] (commas before comma behind rest splits text) within

theorem commas_nil (nodes : List Expr) : CommasInCalls nodes [] := by
  intro before comma behind rest splits
  simp at splits

theorem append_splits {before behind : List Token} {comma : Token}
    (splits : front ++ back = before ++ comma :: behind) :
    (∃ inner, front = before ++ comma :: inner ∧ behind = inner ++ back) ∨
      ∃ inner, before = front ++ inner ∧ back = inner ++ comma :: behind := by
  rcases List.append_eq_append_iff.mp splits with ⟨inner, rfl, cut⟩ | ⟨inner, rfl, cut⟩
  · exact .inr ⟨inner, rfl, cut⟩
  · cases inner with
    | nil => exact .inr ⟨[], by simp, cut.symm⟩
    | cons first inner =>
        cases cut
        exact .inl ⟨inner, rfl, rfl⟩

theorem commas_append (first : CommasInCalls nodes front) (second : CommasInCalls nodes back) :
    CommasInCalls nodes (front ++ back) := by
  intro before comma behind rest splits text
  rcases append_splits splits with ⟨inner, rfl, rfl⟩ | ⟨inner, rfl, rfl⟩
  · rw [List.append_assoc]
    exact first before comma inner (back ++ rest) rfl text
  · exact in_call_behind front (second inner comma behind rest rfl text) fun _ member => member

theorem commas_single (nodes : List Expr) (other : token.text ≠ ",") : CommasInCalls nodes [token] := by
  intro before comma behind rest splits text
  cases before with
  | nil =>
      cases splits
      exact absurd text other
  | cons first before => simp at splits

end Commas

structure Bracketed (nodes : List Expr) (tokens : List Token) : Prop where
  passes : ∀ depth, Passes tokens depth depth
  commas : CommasInCalls nodes tokens

section Bracketing

variable {tokens front back : List Token} {nodes more : List Expr} {token opening closing : Token}

theorem bracketed_within (bracketed : Bracketed nodes tokens) (within : nodes ⊆ more) :
    Bracketed more tokens :=
  ⟨bracketed.passes, commas_within bracketed.commas within⟩

theorem bracketed_append (first : Bracketed nodes front) (second : Bracketed nodes back) :
    Bracketed nodes (front ++ back) where
  passes depth := passes_append (first.passes depth) (second.passes depth)
  commas := commas_append first.commas second.commas

theorem bracketed_token (nodes : List Expr) (plain : IsPlain token) : Bracketed nodes [token] where
  passes depth := passes_plain depth plain
  commas := by
    apply commas_single
    intro comma
    simp [IsPlain, comma] at plain

theorem bracketed_text {text : String} (nodes : List Expr) (same : token.text = text)
    (plain : text ∉ ["(", "\x7b", ")", "\x7d", ","]) : Bracketed nodes [token] := by
  apply bracketed_token
  rw [IsPlain, same]
  exact plain

theorem bracketed_kind (nodes : List Expr) (written : token.toLexeme.IsWritten)
    (kind : token.kind ≠ .separator) : Bracketed nodes [token] :=
  bracketed_token nodes (plain_of_kind written kind)

theorem bracketed_cons (first : Bracketed nodes [token]) (others : Bracketed nodes back) :
    Bracketed nodes (token :: back) :=
  bracketed_append first others

theorem bracketed_enclosed (opens : opening.text ∈ ["(", "\x7b"]) (closes : closing.text ∈ [")", "\x7d"])
    (inside : Bracketed nodes tokens) : Bracketed nodes (opening :: tokens ++ [closing]) where
  passes depth := passes_append (passes_cons (passes_opening depth opens) (inside.passes (depth + 1)))
    (passes_closing depth closes)
  commas := by
    have first : CommasInCalls nodes [opening] := commas_single nodes fun comma => by simp [comma] at opens
    have last : CommasInCalls nodes [closing] := commas_single nodes fun comma => by simp [comma] at closes
    exact commas_append (commas_append first inside.commas) last

theorem bracketed_guarded {word : String} {keyword : Token} (begins : keyword.text = word)
    (plain : word ∉ ["(", "\x7b", ")", "\x7d", ","]) (opens : opening.text = "(")
    (closes : closing.text = ")") (test : Bracketed nodes front) (guarded : Bracketed nodes back) :
    Bracketed nodes (keyword :: opening :: front ++ closing :: back) := by
  have tested : Bracketed nodes (opening :: front ++ [closing]) :=
    bracketed_enclosed (by simp [opens]) (by simp [closes]) test
  have whole := bracketed_cons (bracketed_text nodes begins plain) (bracketed_append tested guarded)
  rwa [List.append_assoc] at whole

end Bracketing

structure ArgumentTokens (arguments : List Expr) (tokens : List Token) : Prop where
  closes : ∀ depth, Passes tokens (depth + 1) depth
  listed : ∀ rest, Listed (tokens ++ rest) arguments
  commas : ∀ left comma behind rest, tokens = left ++ comma :: behind → comma.text = "," →
    (Balanced left ∧ GoesOn left (behind ++ rest) arguments) ∨
      InCall (nodesOfAll arguments) left comma (behind ++ rest)

section Arguments

variable {tokens front back : List Token} {first : Expr} {others arguments : List Expr}
  {token opening closing comma : Token}

theorem argument_tokens_none (closes : closing.text = ")") : ArgumentTokens [] [closing] where
  closes depth := passes_closing depth (by simp [closes])
  listed rest := .none ⟨closing, rest, rfl, closes⟩ rfl (pieces_closing rest closes)
  commas left comma behind rest splits text := by
    have found : CommasInCalls (nodesOfAll []) [closing] := commas_single _ (by simp [closes])
    exact .inr (found left comma behind rest splits text)

theorem argument_tokens_last (closes : closing.text = ")") (read : Derives tokens (.expression first))
    (bracketed : Bracketed first.nodes tokens) : ArgumentTokens [first] (tokens ++ [closing]) where
  closes depth := passes_append (bracketed.passes (depth + 1)) (passes_closing depth (by simp [closes]))
  listed rest := by
    apply Listed.all
    rw [List.append_assoc, pieces, (bracketed.passes 0).whole, ← pieces, List.singleton_append,
      pieces_closing rest closes, List.modifyHead_cons, List.append_nil]
    exact .cons read .nil
  commas left comma behind rest splits text := by
    have last : CommasInCalls first.nodes [closing] := commas_single _ (by simp [closes])
    have found := commas_append bracketed.commas last left comma behind rest splits text
    exact .inr (in_call_behind [] found (List.subset_append_left _ _))

theorem goes_on_first (passes : Passes front 0 0) (continues : Derives back (.arguments others))
    (rest : List Token) : GoesOn front (back ++ rest) (first :: others) := by
  have single : pieces front = [front] := by
    have whole := passes.whole []
    rwa [List.append_nil, piecesFrom, List.modifyHead_cons, List.append_nil] at whole
  rw [GoesOn, single]
  cases continues with
  | noArguments closing closes => exact .inr ⟨closing, rest, rfl, closes, rfl⟩
  | lastArgument closing closes read => exact .inl ⟨_, _, _, List.append_assoc _ _ _, read, rfl⟩
  | moreArguments comma separates read continues =>
      exact .inl ⟨_, _, _, List.append_assoc _ _ _, read, rfl⟩

theorem goes_on_cons {left behind : List Token} (passes : Passes front 0 0) (separates : comma.text = ",")
    (goesOn : GoesOn left behind others) : GoesOn (front ++ comma :: left) behind (first :: others) := by
  rw [GoesOn, pieces_argument passes separates, List.length_cons]
  rcases goesOn with ⟨item, rest, argument, cut, read, found⟩ | ⟨closing, rest, cut, closes, count⟩
  · exact .inl ⟨item, rest, argument, cut, read, found⟩
  · exact .inr ⟨closing, rest, cut, closes, by rw [List.length_cons, count]⟩

theorem argument_tokens_more (separates : comma.text = ",") (read : Derives front (.expression first))
    (continues : Derives back (.arguments others)) (bracketed : Bracketed first.nodes front)
    (inside : ArgumentTokens others back) : ArgumentTokens (first :: others) (front ++ comma :: back) where
  closes depth := passes_append (bracketed.passes (depth + 1))
    (passes_cons (passes_comma depth separates) (inside.closes depth))
  listed rest := by
    rw [List.append_assoc]
    exact listed_cons read (bracketed.passes 0) separates (inside.listed rest)
  commas left other behind rest splits text := by
    have passes := bracketed.passes 0
    rcases append_splits splits with ⟨inner, rfl, rfl⟩ | ⟨inner, rfl, cut⟩
    · rw [List.append_assoc]
      have found := bracketed.commas left other inner (comma :: back ++ rest) rfl text
      exact .inr (in_call_behind [] found (List.subset_append_left _ _))
    · cases inner with
      | nil =>
          cases cut
          rw [List.append_nil]
          exact .inl ⟨passes.level, goes_on_first passes continues rest⟩
      | cons head inner =>
          obtain ⟨rfl, rfl⟩ := List.cons.inj cut
          rcases inside.commas inner other behind rest rfl text with ⟨own, goesOn⟩ | found
          · exact .inl ⟨balanced_cons separates passes.level own, goes_on_cons passes separates goesOn⟩
          · rw [List.append_cons]
            exact .inr (in_call_behind _ found (List.subset_append_right _ _))

theorem bracketed_call (kind : token.kind = .identifier) (written : token.toLexeme.IsWritten)
    (opens : opening.text = "(") (inside : ArgumentTokens arguments tokens) :
    Bracketed (Expr.call token.line token.text arguments).nodes (token :: opening :: tokens) := by
  have name := bracketed_kind (Expr.call token.line token.text arguments).nodes written (by simp [kind])
  constructor
  · intro depth
    exact passes_cons (name.passes depth)
      (passes_cons (passes_opening depth (by simp [opens])) (inside.closes depth))
  · intro before comma behind rest splits text
    have bracket : CommasInCalls (Expr.call token.line token.text arguments).nodes [opening] :=
      commas_single _ (by simp [opens])
    have splits : [token] ++ [opening] ++ tokens = before ++ comma :: behind := splits
    rcases append_splits splits with ⟨inner, cut, rfl⟩ | ⟨left, rfl, rfl⟩
    · rw [List.append_assoc]
      exact commas_append name.commas bracket before comma inner _ cut text
    · rcases inside.commas left comma behind rest rfl text with ⟨own, goesOn⟩ | found
      · have listed := inside.listed rest
        rw [List.append_assoc] at listed
        exact ⟨[], token, opening, left, arguments, rfl, kind, opens, List.mem_cons_self,
          own, listed, goesOn⟩
      · exact in_call_behind _ found (List.subset_cons_self _ _)

end Arguments

def Phrase.Separated (tokens : List Token) : Phrase → Prop
  | .arguments read => ArgumentTokens read tokens
  | phrase => Bracketed phrase.nodes tokens

theorem derives_separated {tokens : List Token} {phrase : Phrase} (derives : Derives tokens phrase)
    (written : ∀ token ∈ tokens, token.toLexeme.IsWritten) : phrase.Separated tokens := by
  induction derives with
  | noStatements => exact ⟨passes_nil, commas_nil _⟩
  | moreStatements read continues ih ihOthers =>
      rw [List.forall_mem_append] at written
      exact bracketed_append (bracketed_within (ih written.1) (List.subset_append_left _ _))
        (bracketed_within (ihOthers written.2) (List.subset_append_right _ _))
  | lone semicolon text => exact bracketed_text _ text (by decide)
  | unended read ih => exact ih written
  | ended read semicolon text ih =>
      rw [List.forall_mem_append] at written
      exact bracketed_append (ih written.1) (bracketed_text _ text (by decide))
  | unsigned read ih => exact ih written
  | signed sign kind known read ih =>
      rw [List.forall_mem_cons] at written
      exact bracketed_cons (bracketed_kind _ written.1 (by simp [kind]))
        (bracketed_within (ih written.2) (List.subset_cons_self _ _))
  | joined token kind known before behind ihLeft ihRight =>
      rw [List.forall_mem_append, List.forall_mem_cons] at written
      exact bracketed_append (bracketed_within (ihLeft written.1) (by simp))
        (bracketed_cons (bracketed_kind _ written.2.1 (by simp [kind]))
          (bracketed_within (ihRight written.2.2) (by simp)))
  | name token kind | literal token kind =>
      rw [List.forall_mem_singleton] at written
      exact bracketed_kind _ written (by simp [kind])
  | call token opening kind opens read ih =>
      rw [List.forall_mem_cons, List.forall_mem_cons] at written
      exact bracketed_call kind written.1 opens (ih written.2.2)
  | parenthesized opening closing opens closes read ih =>
      rw [List.forall_mem_append, List.forall_mem_cons] at written
      exact bracketed_enclosed (by simp [opens]) (by simp [closes]) (ih written.1.2)
  | declare keyword name declares kind =>
      rw [List.forall_mem_cons, List.forall_mem_singleton] at written
      exact bracketed_cons (bracketed_text _ declares (by decide))
        (bracketed_kind _ written.2 (by simp [kind]))
  | initialized keyword name equals declares kind gives read ih =>
      rw [List.forall_mem_cons, List.forall_mem_cons, List.forall_mem_cons] at written
      exact bracketed_cons (bracketed_text _ declares (by decide))
        (bracketed_cons (bracketed_kind _ written.2.1 (by simp [kind]))
          (bracketed_cons (bracketed_text _ gives (by decide))
            (bracketed_within (ih written.2.2.2) (List.subset_cons_self _ _))))
  | branch keyword opening closing branches opens closes test read ihTest ihThen =>
      simp only [List.cons_append, List.forall_mem_cons, List.forall_mem_append] at written
      exact bracketed_guarded branches (by decide) opens closes
        (bracketed_within (ihTest written.2.2.1) (by simp))
        (bracketed_within (ihThen written.2.2.2.2) (by simp))
  | alternative keyword opening closing separating branches opens closes separates test read other
      ihTest ihThen ihElse =>
      simp only [List.cons_append, List.append_assoc, List.forall_mem_cons, List.forall_mem_append]
        at written
      obtain ⟨-, -, tested, -, thens, -, elses⟩ := written
      have otherwise := bracketed_cons (bracketed_text _ separates (by decide)) (ihElse elses)
      exact bracketed_append
        (bracketed_guarded branches (by decide) opens closes
          (bracketed_within (ihTest tested) (by simp))
          (bracketed_within (ihThen thens) (by intro; simp +contextual)))
        (bracketed_within otherwise (by intro; simp +contextual))
  | loop keyword opening closing loops opens closes test read ihTest ihBody =>
      simp only [List.cons_append, List.forall_mem_cons, List.forall_mem_append] at written
      exact bracketed_guarded loops (by decide) opens closes
        (bracketed_within (ihTest written.2.2.1) (by simp))
        (bracketed_within (ihBody written.2.2.2.2) (by simp))
  | block opening closing opens closes read ih =>
      rw [List.forall_mem_append, List.forall_mem_cons] at written
      exact bracketed_enclosed (by simp [opens]) (by simp [closes])
        (bracketed_within (ih written.1.2) (List.subset_cons_self _ _))
  | noArguments closing closes => exact argument_tokens_none closes
  | lastArgument closing closes read ih =>
      rw [List.forall_mem_append] at written
      exact argument_tokens_last closes read (ih written.1)
  | moreArguments comma separates read continues ih ihOthers =>
      rw [List.forall_mem_append, List.forall_mem_cons] at written
      exact argument_tokens_more separates read continues (ih written.1) (ihOthers written.2.2)

theorem pieces_from_not_empty (depth : Nat) (tokens : List Token) : piecesFrom depth tokens ≠ [] := by
  induction tokens generalizing depth with
  | nil => simp [piecesFrom]
  | cons token rest ih =>
      rw [piecesFrom]
      by_cases separates : depth = 0 ∧ token.text = ","
      · rw [if_pos separates]
        exact List.cons_ne_nil _ _
      · rw [if_neg separates]
        cases nest depth token with
        | none => exact List.cons_ne_nil _ _
        | some inner => simpa using ih inner

-- The induction is on the tokens before the comma, at whatever depth they start.
theorem pieces_from_append {earlier : List Token} {depth : Nat} {comma : Token} (tail : List Token)
    (level : earlier.foldlM nest depth = some 0) (text : comma.text = ",") :
    piecesFrom depth (earlier ++ comma :: tail) = piecesFrom depth earlier ++ pieces tail := by
  induction earlier generalizing depth with
  | nil =>
      cases level
      exact pieces_comma tail text
  | cons token rest ih =>
      rw [List.foldlM_cons, Option.bind_eq_bind, Option.bind_eq_some_iff] at level
      obtain ⟨inner, nested, level⟩ := level
      by_cases own : depth = 0 ∧ token.text = ","
      · obtain ⟨rfl, separates⟩ := own
        have outside : inner = 0 := by simpa [nest, separates] using nested.symm
        subst outside
        simp [piecesFrom, separates, ih level]
      · obtain ⟨first, others, cut⟩ := List.exists_cons_of_ne_nil (pieces_from_not_empty inner rest)
        simp [piecesFrom, own, nested, ih level, cut]

theorem not_trailing_of_read {tokens : List Token} {arguments : List Expr}
    (each : ReadAs (pieces tokens) arguments) : ¬HasTrailingComma tokens := by
  rintro ⟨earlier, comma, closing, rest, rfl, balanced, text, closes⟩
  have last : [] ∈ pieces (earlier ++ comma :: closing :: rest) := by
    rw [pieces, pieces_from_append _ balanced text, pieces_closing rest closes]
    simp
  have full := (List.forall₂_and_left _ _).mp
    (each.imp fun _ _ read => ⟨expression_not_empty read, read⟩)
  exact full.1 [] last rfl

theorem listed_count {left behind : List Token} {comma : Token} {arguments : List Expr}
    (listed : Listed (left ++ comma :: behind) arguments) (own : Balanced left) (text : comma.text = ",") :
    (¬HasTrailingComma (left ++ comma :: behind) ∧
      arguments.length = ownCommas (left ++ comma :: behind) + 1) ∨
    (HasTrailingComma (left ++ comma :: behind) ∧
      arguments.length = ownCommas (left ++ comma :: behind)) := by
  have cut : pieces (left ++ comma :: behind) = pieces left ++ pieces behind :=
    pieces_from_append behind own text
  have before := List.length_pos_iff.mpr (pieces_from_not_empty 0 left)
  have after := List.length_pos_iff.mpr (pieces_from_not_empty 0 behind)
  have several : 2 ≤ (pieces (left ++ comma :: behind)).length := by
    rw [cut, List.length_append]
    exact Nat.add_le_add before after
  cases listed with
  | none closed empty single => simp [single] at several
  | all each =>
      refine .inl ⟨not_trailing_of_read each, ?_⟩
      rw [ownCommas, ← each.length_eq]
      omega
  | trailing trails items last each =>
      refine .inr ⟨trails, ?_⟩
      rw [ownCommas, last, ← each.length_eq]
      simp

end Scriptlet.Grammar

namespace Scriptlet

open Grammar

/-- Every comma of a program stands in the argument list of a call of its tree. The next argument follows it,
or the closing parenthesis does. The call has an argument for each comma of the list and one more, unless the
last comma stands directly before the parenthesis. -/
theorem commas_separate_arguments (source : String) (tokens : List Token) (program : Program)
    (scanned : tokenize source = .ok tokens) (read : Program.ofTokens tokens = .ok program)
    (before behind : List Token) (comma : Token)
    (splits : tokens.filter Token.isSignificant = before ++ comma :: behind) (text : comma.text = ",") :
    ∃ front name opening left arguments, before = front ++ name :: opening :: left ∧
      name.kind = .identifier ∧ opening.text = "(" ∧ Balanced left ∧
      Expr.call name.line name.text arguments ∈ nodesOfAll program.statements ∧
      GoesOn left behind arguments ∧
      ((¬HasTrailingComma (left ++ comma :: behind) ∧
          arguments.length = ownCommas (left ++ comma :: behind) + 1) ∨
        (HasTrailingComma (left ++ comma :: behind) ∧
          arguments.length = ownCommas (left ++ comma :: behind))) := by
  have separated := derives_separated (program_derives tokens program read) (significant_written scanned)
  have found := Bracketed.commas separated before comma behind [] splits text
  rw [List.append_nil] at found
  obtain ⟨front, name, opening, left, arguments, cut, kind, opens, member, separates⟩ := found
  exact ⟨front, name, opening, left, arguments, cut, kind, opens, separates.own, member, separates.goesOn,
    listed_count separates.listed separates.own text⟩

-- The tokens of `f(g(a,b),c)`.
def nestedTokens : List Token :=
  [⟨⟨.identifier, "f"⟩, 1⟩, ⟨⟨.separator, "("⟩, 1⟩, ⟨⟨.identifier, "g"⟩, 1⟩, ⟨⟨.separator, "("⟩, 1⟩,
    ⟨⟨.identifier, "a"⟩, 1⟩, ⟨⟨.separator, ","⟩, 1⟩, ⟨⟨.identifier, "b"⟩, 1⟩, ⟨⟨.separator, ")"⟩, 1⟩,
    ⟨⟨.separator, ","⟩, 1⟩, ⟨⟨.identifier, "c"⟩, 1⟩, ⟨⟨.separator, ")"⟩, 1⟩]

theorem outer_comma_separates :
    tokenize "f(g(a,b),c)" = .ok nestedTokens ∧
      Program.ofTokens nestedTokens =
        .ok ⟨[.call 1 "f" [.call 1 "g" [.identifier 1 "a", .identifier 1 "b"], .identifier 1 "c"]]⟩ ∧
      ∃ front name opening left arguments, nestedTokens.take 8 = front ++ name :: opening :: left ∧
        Balanced left ∧ GoesOn left (nestedTokens.drop 9) arguments ∧
        Expr.call name.line name.text arguments ∈ nodesOfAll
          [.call 1 "f" [.call 1 "g" [.identifier 1 "a", .identifier 1 "b"], .identifier 1 "c"]] := by
  have scanned : tokenize "f(g(a,b),c)" = .ok nestedTokens := by decide +kernel
  obtain ⟨front, name, opening, left, arguments, cut, -, -, own, member, goesOn, -⟩ :=
    commas_separate_arguments _ _ _ scanned rfl (nestedTokens.take 8) (nestedTokens.drop 9)
      ⟨⟨.separator, ","⟩, 1⟩ rfl rfl
  exact ⟨scanned, rfl, front, name, opening, left, arguments, cut, own, goesOn, member⟩

-- The tokens of `f(a,)`.
def trailingTokens : List Token :=
  [⟨⟨.identifier, "f"⟩, 1⟩, ⟨⟨.separator, "("⟩, 1⟩, ⟨⟨.identifier, "a"⟩, 1⟩, ⟨⟨.separator, ","⟩, 1⟩,
    ⟨⟨.separator, ")"⟩, 1⟩]

theorem trailing_comma_read :
    tokenize "f(a,)" = .ok trailingTokens ∧
      Program.ofTokens trailingTokens = .ok ⟨[.call 1 "f" [.identifier 1 "a"]]⟩ ∧
      ownCommas (trailingTokens.drop 2) = 1 ∧ HasTrailingComma (trailingTokens.drop 2) := by
  refine ⟨by decide +kernel, rfl, by decide, ?_⟩
  exact ⟨[⟨⟨.identifier, "a"⟩, 1⟩], ⟨⟨.separator, ","⟩, 1⟩, ⟨⟨.separator, ")"⟩, 1⟩, [], rfl, rfl, rfl, rfl⟩

end Scriptlet
