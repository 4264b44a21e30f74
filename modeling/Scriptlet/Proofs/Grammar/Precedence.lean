import Mathlib.Data.List.TakeWhile
import Scriptlet.Proofs.Grammar.Grouping
import Scriptlet.Proofs.Grammar.Reading
import Scriptlet.Proofs.Operator.Table
import Scriptlet.Proofs.Token.Spacing

/-!
Precedence and associativity: a chain of operands is read as its one ordered grouping.

Each level of the table reads the operands of the next tighter level, and what it reads of a chain are
the longest stretches without an operator of its own. The induction `levels_read` is over the levels;
within a level, `continuation_read` goes from one stretch to the next.
-/

set_option autoImplicit false

namespace Scriptlet

open Grammar

structure Chain where
  first : Operand
  others : List (Joint × Operand)

namespace Chain

def tokensOf (others : List (Joint × Operand)) : List Token :=
  others.flatMap fun part => part.1.token :: part.2.tokens

def itemsOf (others : List (Joint × Operand)) : List Item :=
  others.flatMap fun part => [.joint part.1, .operand part.2]

def tokens (chain : Chain) : List Token := chain.first.tokens ++ tokensOf chain.others

def items (chain : Chain) : List Item := .operand chain.first :: itemsOf chain.others

end Chain

def Joint.Known (joint : Joint) : Prop :=
  joint.token.kind = .operator ∧ Operator.find? joint.token.text .binary = some joint.operator

-- The tokens are read as the value, whatever comes next unless it makes a call of them.
def Operand.Readable (operand : Operand) : Prop :=
  ∀ (endLine : Nat) (rest : List Token), accept "(" rest = none →
    Reads (unary endLine · (operand.tokens ++ rest)) (some (operand.value, rest))

def isContinued (group : OperatorGroup) (token : Token) : Bool :=
  token.kind = .operator && group.contains token.text

structure Behind (groups : List OperatorGroup) (rest : List Token) : Prop where
  notCalled : accept "(" rest = none
  notContinued : ∀ group ∈ groups, acceptIf (isContinued group) rest = none

theorem behind_mono {groups fewer : List OperatorGroup} {rest : List Token}
    (subset : ∀ group ∈ fewer, group ∈ groups) (behind : Behind groups rest) : Behind fewer rest :=
  ⟨behind.notCalled, fun group member => behind.notContinued group (subset group member)⟩

theorem behind_joint {groups : List OperatorGroup} (joint : Joint) (rest : List Token)
    (known : joint.Known) (levels : ∀ group ∈ groups, group ∈ binaryGroups)
    (looser : ∀ group ∈ groups, joint.operator.priority ≠ group.priority) :
    Behind groups (joint.token :: rest) := by
  constructor
  · simp [operator_not_parenthesis known.2]
  · intro group member
    have absent := group_find (levels group member) known.2
    rw [if_neg (looser group member)] at absent
    simp [acceptIf, isContinued, OperatorGroup.contains, absent]

section Level

variable {endLine : Nat} {group : OperatorGroup} {tighter : List OperatorGroup}

theorem continuation_reads_none {rest : List Token} (behind : Behind (group :: tighter) rest) :
    Reads (continuation endLine · group tighter rest) (none, rest) := by
  have stops := behind.notContinued group List.mem_cons_self
  unfold isContinued at stops
  refine reads_succ ?_
  simp only [continuation, stops]
  exact reads_ok (none, rest)

theorem continuation_reads_some {joint : Joint} {tokens rest behind : List Token} {operand : Expr}
    {deeper : Option OpenChain} (level : group ∈ binaryGroups) (known : joint.Known)
    (same : joint.operator.priority = group.priority)
    (read : Reads (chain endLine · tighter tokens) (some (operand, rest)))
    (continues : Reads (continuation endLine · group tighter rest) (deeper, behind)) :
    Reads (continuation endLine · group tighter (joint.token :: tokens))
      (some (.extend ⟨joint.operator, joint.token.line, operand⟩ deeper), behind) := by
  have found := group_find level known.2
  rw [if_pos same] at found
  refine reads_succ ?_
  simp only [continuation, acceptIf, known.1, OperatorGroup.contains, found, decide_true,
    Option.isSome_some, Bool.and_true, if_true]
  exact reads_bind read (reads_bind continues (reads_ok _))

theorem chain_reads {tokens rest behind : List Token} {operand : Expr} {links : List Link}
    (read : Reads (chain endLine · tighter tokens) (some (operand, rest)))
    (continues : Reads (continuation endLine · group tighter rest) (OpenChain.ofLinks links, behind)) :
    Reads (chain endLine · (group :: tighter) tokens)
      (some (OpenChain.grouped operand links, behind)) := by
  refine reads_succ ?_
  simp only [chain]
  refine reads_bind read (reads_bind continues ?_)
  cases links with
  | nil => exact reads_ok _
  | cons link others =>
      rw [← OpenChain.fill_of_links]
      exact reads_ok _

end Level

def Joinable (groups : List OperatorGroup) (part : Joint × Operand) : Prop :=
  part.1.Known ∧ part.2.Readable ∧ ∃ group ∈ groups, group.priority = part.1.operator.priority

def LevelsRead (endLine : Nat) (groups : List OperatorGroup) : Prop :=
  ∀ (parts : Chain) (rest : List Token), parts.first.Readable →
    (∀ part ∈ parts.others, Joinable groups part) → Behind groups rest →
    ∃ grouping : Grouping, grouping.items = parts.items ∧ grouping.Ordered ∧
      Reads (chain endLine · groups (parts.tokens ++ rest)) (some (grouping.expr, rest))

theorem root_mem (grouping : Grouping) (root : Operator) (isRoot : root ∈ grouping.root?) :
    ∃ joint, .joint joint ∈ grouping.items ∧ joint.operator = root := by
  cases grouping with
  | single operand => cases isRoot
  | joined left joint right =>
      cases isRoot
      exact ⟨joint, by simp [Grouping.items], rfl⟩

theorem joint_mem_items (parts : Chain) (joint : Joint) :
    .joint joint ∈ parts.items ↔ ∃ part ∈ parts.others, part.1 = joint := by
  simp [Chain.items, Chain.itemsOf, eq_comm]

theorem root_tighter {priority : Nat} (grouping : Grouping) (parts : Chain)
    (spelled : grouping.items = parts.items)
    (below : ∀ part ∈ parts.others, part.1.operator.priority < priority) :
    ∀ root ∈ grouping.root?, root.priority < priority := by
  intro root isRoot
  obtain ⟨joint, member, rfl⟩ := root_mem grouping root isRoot
  rw [spelled, joint_mem_items] at member
  obtain ⟨part, inOthers, rfl⟩ := member
  exact below part inOthers

section Stretch

variable {endLine : Nat} {group : OperatorGroup} {tighter : List OperatorGroup}
  (levels : group :: tighter <:+ binaryGroups) (tight : LevelsRead endLine tighter)
include levels

theorem tighter_less (other : OperatorGroup) (member : other ∈ tighter) :
    other.priority < group.priority :=
  (List.pairwise_cons.mp (groups_descend.sublist levels.sublist)).1 other member

def isTight (group : OperatorGroup) (part : Joint × Operand) : Bool :=
  part.1.operator.priority < group.priority

theorem joinable_tighter (part : Joint × Operand) (joinable : Joinable (group :: tighter) part)
    (isTighter : isTight group part = true) : Joinable tighter part := by
  obtain ⟨known, readable, level, member, same⟩ := joinable
  simp only [isTight, decide_eq_true_eq] at isTighter
  rcases List.mem_cons.mp member with rfl | inTighter
  · omega
  · exact ⟨known, readable, level, inTighter, same⟩

theorem same_level (part : Joint × Operand) (joinable : Joinable (group :: tighter) part)
    (loose : isTight group part = false) : part.1.operator.priority = group.priority := by
  obtain ⟨-, -, level, member, same⟩ := joinable
  simp only [isTight, decide_eq_false_iff_not] at loose
  rcases List.mem_cons.mp member with rfl | inTighter
  · exact same.symm
  · have less := tighter_less levels level inTighter
    omega

theorem behind_stretch (others : List (Joint × Operand)) (rest : List Token)
    (joinable : ∀ part ∈ others, Joinable (group :: tighter) part)
    (loose : ∀ part ∈ others.head?, isTight group part = false)
    (behind : Behind (group :: tighter) rest) : Behind tighter (Chain.tokensOf others ++ rest) := by
  cases others with
  | nil => exact behind_mono (fun _ member => List.mem_cons_of_mem _ member) behind
  | cons part others =>
      have same := same_level levels part (joinable part List.mem_cons_self) (loose part rfl)
      refine behind_joint part.1 _ (joinable part List.mem_cons_self).1 (fun other member => ?_)
        fun other member => ?_
      · exact levels.subset (List.mem_cons_of_mem _ member)
      · have less := tighter_less levels other member
        omega

include tight

theorem stretch_read (first : Operand) (others : List (Joint × Operand)) (rest : List Token)
    (readable : first.Readable) (joinable : ∀ part ∈ others, Joinable (group :: tighter) part)
    (behind : Behind (group :: tighter) rest) :
    ∃ grouping : Grouping,
      grouping.items ++ Chain.itemsOf (others.dropWhile (isTight group)) =
        .operand first :: Chain.itemsOf others ∧
      grouping.Ordered ∧ (∀ root ∈ grouping.root?, root.priority < group.priority) ∧
      Reads (chain endLine · tighter (first.tokens ++ Chain.tokensOf others ++ rest))
        (some (grouping.expr, Chain.tokensOf (others.dropWhile (isTight group)) ++ rest)) := by
  have cut := List.takeWhile_append_dropWhile (p := isTight group) (l := others)
  generalize frontEq : others.takeWhile (isTight group) = front at cut
  generalize backEq : others.dropWhile (isTight group) = back at cut ⊢
  have isTighter : ∀ part ∈ front, isTight group part = true := by
    intro part member
    rw [← frontEq] at member
    exact List.mem_takeWhile_imp member
  have loose : ∀ part ∈ back.head?, isTight group part = false := by
    intro part isHead
    have stops := List.head?_dropWhile_not (isTight group) others
    rw [backEq, isHead] at stops
    exact stops
  have inOthers : ∀ part ∈ front ++ back, Joinable (group :: tighter) part := cut ▸ joinable
  obtain ⟨grouping, spelled, ordered, read⟩ := tight ⟨first, front⟩ (Chain.tokensOf back ++ rest)
    readable
    (fun part member => joinable_tighter levels part (inOthers part (List.mem_append_left _ member))
      (isTighter part member))
    (behind_stretch levels back rest (fun part member => inOthers part (List.mem_append_right _ member))
      loose behind)
  refine ⟨grouping, ?_, ordered, root_tighter grouping _ spelled fun part member => ?_, ?_⟩
  · rw [spelled, ← cut]
    simp [Chain.items, Chain.itemsOf]
  · simpa [isTight] using isTighter part member
  · rw [← cut]
    simpa [Chain.tokens, Chain.tokensOf] using read

theorem continuation_read (others : List (Joint × Operand)) (rest : List Token)
    (joinable : ∀ part ∈ others, Joinable (group :: tighter) part)
    (loose : ∀ part ∈ others.head?, isTight group part = false)
    (behind : Behind (group :: tighter) rest) :
    ∃ parts : List (Joint × Grouping),
      parts.flatMap (fun part => .joint part.1 :: part.2.items) = Chain.itemsOf others ∧
      (∀ part ∈ parts, part.1.Known ∧ part.1.operator.priority = group.priority) ∧
      (∀ part ∈ parts, part.2.Ordered ∧ ∀ root ∈ part.2.root?, root.priority < group.priority) ∧
      Reads (continuation endLine · group tighter (Chain.tokensOf others ++ rest))
        (OpenChain.ofLinks (parts.map Grouping.link), rest) := by
  match others with
  | [] => exact ⟨[], rfl, by simp, by simp, continuation_reads_none behind⟩
  | (joint, operand) :: others =>
      have here := joinable _ List.mem_cons_self
      have further := fun part member => joinable part (List.mem_cons_of_mem _ member)
      have same := same_level levels _ here (loose _ rfl)
      obtain ⟨grouping, spelled, ordered, below, read⟩ :=
        stretch_read levels tight operand others rest here.2.1 further behind
      have shorter := (List.dropWhile_sublist (isTight group) (l := others)).length_le
      have stops := List.head?_dropWhile_not (isTight group) others
      obtain ⟨parts, items, joints, tighters, continues⟩ :=
        continuation_read (others.dropWhile (isTight group)) rest
          (fun part member => further part ((List.dropWhile_sublist _).subset member))
          (fun part isHead => by rw [isHead] at stops; exact stops) behind
      refine ⟨(joint, grouping) :: parts, ?_, ?_, ?_, ?_⟩
      · simp only [List.flatMap_cons, items, List.cons_append, spelled]
        rfl
      · intro part member
        rcases List.mem_cons.mp member with rfl | inParts
        · exact ⟨here.1, same⟩
        · exact joints part inParts
      · intro part member
        rcases List.mem_cons.mp member with rfl | inParts
        · exact ⟨ordered, below⟩
        · exact tighters part inParts
      · have reads := continuation_reads_some (levels.subset List.mem_cons_self) here.1 same read continues
        simpa [Chain.tokensOf, OpenChain.ofLinks, Grouping.link] using reads
termination_by others.length

end Stretch

theorem levels_read_nil (endLine : Nat) : LevelsRead endLine [] := by
  rintro ⟨first, others⟩ rest readable joinable behind
  cases others with
  | nil =>
      refine ⟨.single first, rfl, trivial, reads_succ ?_⟩
      simpa only [chain, Chain.tokens, Chain.tokensOf, List.flatMap_nil, List.append_nil, Grouping.expr] using
        readable endLine rest behind.notCalled
  | cons part others =>
      obtain ⟨-, -, group, absent, -⟩ := joinable part List.mem_cons_self
      cases absent

theorem levels_read_cons (endLine : Nat) (group : OperatorGroup) (tighter : List OperatorGroup)
    (levels : group :: tighter <:+ binaryGroups) (tight : LevelsRead endLine tighter) :
    LevelsRead endLine (group :: tighter) := by
  rintro ⟨first, others⟩ rest readable joinable behind
  obtain ⟨grouping, spelled, ordered, below, read⟩ :=
    stretch_read levels tight first others rest readable joinable behind
  have stops := List.head?_dropWhile_not (isTight group) others
  obtain ⟨parts, items, joints, tighters, continues⟩ :=
    continuation_read levels tight (others.dropWhile (isTight group)) rest
      (fun part member => joinable part ((List.dropWhile_sublist _).subset member))
      (fun part isHead => by rw [isHead] at stops; exact stops) behind
  refine ⟨grouping.join parts, ?_, ?_, ?_⟩
  · rw [Grouping.join_items, items, spelled]
    rfl
  · cases parts with
    | nil => exact ordered
    | cons part parts =>
        obtain ⟨known, level⟩ := joints part List.mem_cons_self
        refine (Grouping.join_ordered group.priority part.1.operator.associativity grouping _ ordered
          (fun root isRoot => .inl (below root isRoot)) (fun other member => ?_) tighters).1
        obtain ⟨otherKnown, otherLevel⟩ := joints other member
        exact ⟨otherLevel, uniform_associativity otherKnown.2 known.2 (otherLevel.trans level.symm)⟩
  · rw [Grouping.join_expr]
    exact chain_reads read continues

theorem levels_read (endLine : Nat) (groups : List OperatorGroup) (levels : groups <:+ binaryGroups) :
    LevelsRead endLine groups := by
  induction groups with
  | nil => exact levels_read_nil endLine
  | cons group tighter ih =>
      exact levels_read_cons endLine group tighter levels
        (ih ((List.suffix_cons group tighter).trans levels))

theorem grouping_read (endLine : Nat) (parts : Chain) (rest : List Token)
    (readable : parts.first.Readable)
    (others : ∀ part ∈ parts.others, part.1.Known ∧ part.2.Readable)
    (behind : Behind binaryGroups rest) :
    ∃ grouping : Grouping, grouping.items = parts.items ∧ grouping.Ordered ∧
      Reads (expression endLine · (parts.tokens ++ rest)) (some (grouping.expr, rest)) := by
  obtain ⟨grouping, spelled, ordered, read⟩ :=
    levels_read endLine binaryGroups (List.suffix_refl _) parts rest readable
      (fun part member => ⟨(others part member).1, (others part member).2,
        group_of_known (others part member).1.2⟩) behind
  refine ⟨grouping, spelled, ordered, reads_succ ?_⟩
  simpa only [expression] using read

inductive ClosedPrimary : List Token → Expr → Prop where
  | literal (token : Token) (kind : token.kind = .literal) :
      ClosedPrimary [token] (.literal token.line token.text)
  | name (token : Token) (kind : token.kind = .identifier) :
      ClosedPrimary [token] (.identifier token.line token.text)
  | parenthesized (opening closing : Token) (inside : List Token) (inner : Expr) (behind : Cursor)
      (opens : opening.toLexeme = ⟨.separator, "("⟩) (closes : closing.toLexeme = ⟨.separator, ")"⟩)
      (read : (Cursor.ofTokens inside).expression? = .ok (some (inner, behind)))
      (all : behind.tokens = []) :
      ClosedPrimary (opening :: inside.filter Token.isSignificant ++ [closing]) inner

inductive Operand.IsClosed : Operand → Prop where
  | plain (tokens : List Token) (value : Expr) (primary : ClosedPrimary tokens value) :
      IsClosed ⟨tokens, value⟩
  | signed (sign : Token) (tokens : List Token) (value : Expr) (operator : Operator)
      (kind : sign.kind = .operator) (known : Operator.find? sign.text .unary = some operator)
      (primary : ClosedPrimary tokens value) :
      IsClosed ⟨sign :: tokens, .unary sign.line operator.lexeme value⟩

theorem closing_closes {closing : Token} (closes : closing.toLexeme = ⟨.separator, ")"⟩) : IsCloser closing := by
  have kind : closing.kind = .separator := congrArg Lexeme.kind closes
  have text : closing.text = ")" := congrArg Lexeme.text closes
  exact ⟨kind, by simp [text]⟩

theorem primary_reads_parenthesized {endLine : Nat} {opening closing : Token} {inside rest : List Token}
    {inner : Expr} (opens : opening.toLexeme = ⟨.separator, "("⟩)
    (closes : closing.toLexeme = ⟨.separator, ")"⟩)
    (read : Reads (expression endLine · (inside ++ closing :: rest)) (some (inner, closing :: rest))) :
    Reads (primary endLine · (opening :: (inside ++ closing :: rest))) (some (inner, rest)) := by
  have opensKind : opening.kind = .separator := congrArg Lexeme.kind opens
  have opensText : opening.text = "(" := congrArg Lexeme.text opens
  have closesText : closing.text = ")" := congrArg Lexeme.text closes
  refine reads_succ ?_
  simp only [primary, opensKind, opensText, reduceCtorEq, if_false, if_true]
  exact reads_bind read (reads_bind (reads_ok (inner, closing :: rest))
    (reads_bind (reads_expect endLine ")" closing rest closesText) (reads_ok _)))

theorem primary_reads_closed (endLine : Nat) (tokens rest : List Token) (value : Expr)
    (closed : ClosedPrimary tokens value) (scanned : ∀ token ∈ tokens, token.toLexeme.IsScanned)
    (notCalled : accept "(" rest = none) :
    Reads (primary endLine · (tokens ++ rest)) (some (value, rest)) := by
  cases closed with
  | literal token kind =>
      have notParenthesis := scanned_not_parenthesis token.toLexeme (scanned token List.mem_cons_self)
        (by simp [kind])
      refine reads_succ ?_
      simp only [List.singleton_append, primary, kind, reduceCtorEq, if_false, if_neg notParenthesis,
        if_true]
      exact reads_ok _
  | name token kind =>
      refine reads_succ ?_
      simp only [List.singleton_append, primary, kind, if_true, notCalled]
      exact reads_ok _
  | parenthesized opening closing inside inner behind opens closes read all =>
      have within := expression_before_closer (Cursor.ofTokens inside) behind value read all closing rest
        (closing_closes closes) endLine
      simp only [List.cons_append, List.append_assoc, List.nil_append]
      exact primary_reads_parenthesized opens closes within

theorem closed_starts (tokens rest : List Token) (value : Expr) (closed : ClosedPrimary tokens value) :
    acceptKind .operator (tokens ++ rest) = none := by
  cases closed with
  | literal token kind => simp [kind]
  | name token kind => simp [kind]
  | parenthesized opening closing inside inner behind opens closes read all =>
      have opensKind : opening.kind = .separator := congrArg Lexeme.kind opens
      simp [opensKind]

theorem closed_readable (operand : Operand) (closed : operand.IsClosed)
    (scanned : ∀ token ∈ operand.tokens, token.toLexeme.IsScanned) : operand.Readable := by
  intro endLine rest notCalled
  cases closed with
  | plain tokens value primary =>
      have reads := primary_reads_closed endLine tokens rest value primary scanned notCalled
      refine reads_succ ?_
      simpa only [unary, closed_starts tokens rest value primary] using reads
  | signed sign tokens value operator kind known primary =>
      have reads := primary_reads_closed endLine tokens rest value primary
        (fun token member => scanned token (List.mem_cons_of_mem _ member)) notCalled
      refine reads_succ ?_
      simp only [List.cons_append, unary, accept_kind_cons_pos _ kind, known]
      exact reads_bind reads (reads_ok _)

structure Chain.IsClosed (parts : Chain) : Prop where
  first : parts.first.IsClosed
  others : ∀ part ∈ parts.others, part.1.Known ∧ part.2.IsClosed
  scanned : ∀ token ∈ parts.tokens, token.toLexeme.IsScanned

/-- A chain is read whole, as the one ordered grouping of its operands and operators. -/
theorem chain_read_as_ordered (parts : Chain) (closed : parts.IsClosed) (tokens : List Token)
    (spelled : tokens.filter Token.isSignificant = parts.tokens) :
    ∃ grouping : Grouping,
      (grouping.items = parts.items ∧ grouping.Ordered) ∧
      (∀ other : Grouping, other.items = parts.items → other.Ordered → other = grouping) ∧
      (Cursor.ofTokens tokens).expression? =
        .ok (some (grouping.expr, ⟨[], (Cursor.ofTokens tokens).endLine⟩)) := by
  have others : ∀ part ∈ parts.others, part.1.Known ∧ part.2.Readable := by
    intro part member
    obtain ⟨known, isClosed⟩ := closed.others part member
    refine ⟨known, closed_readable part.2 isClosed fun token inPart => closed.scanned token ?_⟩
    exact List.mem_append_right _ (List.mem_flatMap.mpr ⟨part, member, List.mem_cons_of_mem _ inPart⟩)
  have first := closed_readable parts.first closed.first fun token member =>
    closed.scanned token (List.mem_append_left _ member)
  obtain ⟨grouping, items, ordered, reads⟩ := grouping_read (Cursor.ofTokens tokens).endLine parts []
    first others ⟨rfl, fun _ _ => rfl⟩
  refine ⟨grouping, ⟨items, ordered⟩, fun other otherItems otherOrdered => ?_, ?_⟩
  · have known : ∀ joint, .joint joint ∈ parts.items → joint.Known := by
      intro joint member
      obtain ⟨part, inOthers, rfl⟩ := (joint_mem_items parts joint).mp member
      exact (others part inOthers).1
    refine Grouping.ordered_unique other grouping (fun p q inOther inGrouping => ?_)
      (otherItems.trans items.symm) otherOrdered ordered
    exact uniform_associativity (known p (otherItems ▸ inOther)).2 (known q (items ▸ inGrouping)).2
  · rw [List.append_nil, ← spelled] at reads
    exact expression_of_reads (Cursor.ofTokens tokens) grouping.expr [] reads

-- The chain `a = (b) - -2`.
def sampleChain : Chain where
  first := ⟨[⟨⟨.identifier, "a"⟩, 1⟩], .identifier 1 "a"⟩
  others :=
    [ (⟨⟨⟨.operator, "="⟩, 1⟩, ⟨"=", .binary, 13, .rightToLeft⟩⟩,
        ⟨[⟨⟨.separator, "("⟩, 1⟩, ⟨⟨.identifier, "b"⟩, 1⟩, ⟨⟨.separator, ")"⟩, 1⟩],
          .identifier 1 "b"⟩),
      (⟨⟨⟨.operator, "-"⟩, 1⟩, ⟨"-", .binary, 3, .leftToRight⟩⟩,
        ⟨[⟨⟨.operator, "-"⟩, 1⟩, ⟨⟨.literal, "2"⟩, 1⟩], .unary 1 "-" (.literal 1 "2")⟩) ]

theorem sample_chain_closed : sampleChain.IsClosed where
  first := .plain _ _ (.name _ rfl)
  others := by
    intro part member
    simp only [sampleChain, List.mem_cons, List.not_mem_nil, or_false] at member
    rcases member with rfl | rfl
    · exact ⟨⟨rfl, rfl⟩, .plain _ _ (.parenthesized ⟨⟨.separator, "("⟩, 1⟩ ⟨⟨.separator, ")"⟩, 1⟩
        [⟨⟨.identifier, "b"⟩, 1⟩] (.identifier 1 "b") ⟨[], 1⟩ rfl rfl rfl rfl)⟩
    · exact ⟨⟨rfl, rfl⟩, .signed _ _ _ ⟨"-", .unary, 1, .rightToLeft⟩ rfl rfl (.literal _ rfl)⟩
  scanned := by
    intro token member
    simp only [sampleChain, Chain.tokens, Chain.tokensOf, List.flatMap_cons, List.flatMap_nil,
      List.cons_append, List.nil_append, List.append_nil, List.mem_cons, List.not_mem_nil,
      or_false] at member
    rcases member with rfl | rfl | rfl | rfl | rfl | rfl | rfl | rfl
    · exact scanned_alone .identifier 'a' [] rfl
    · exact scanned_alone .operator '=' [] rfl
    · exact scanned_alone .separator '(' [] rfl
    · exact scanned_alone .identifier 'b' [] rfl
    · exact scanned_alone .separator ')' [] rfl
    · exact scanned_alone .operator '-' [] rfl
    · exact scanned_alone .operator '-' [] rfl
    · exact scanned_alone .literal '2' [] rfl

theorem sample_chain_read : sampleChain.IsClosed ∧
    sampleChain.tokens.filter Token.isSignificant = sampleChain.tokens ∧
    ∃ grouping : Grouping,
      (grouping.items = sampleChain.items ∧ grouping.Ordered) ∧
      (∀ other : Grouping, other.items = sampleChain.items → other.Ordered → other = grouping) ∧
      (Cursor.ofTokens sampleChain.tokens).expression? = .ok (some (grouping.expr, ⟨[], 1⟩)) :=
  ⟨sample_chain_closed, by decide,
    chain_read_as_ordered sampleChain sample_chain_closed sampleChain.tokens (by decide)⟩

end Scriptlet
