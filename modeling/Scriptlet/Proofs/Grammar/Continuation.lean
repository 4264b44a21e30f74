import Scriptlet.Proofs.Grammar.Derivation
import Scriptlet.Proofs.Grammar.Precedence

/-!
What one level makes of its operators.

`Linked` says which operators and operands a level finds behind its first operand, whatever sides the operators
lean to. The level keeps exactly these as open operations (`continuation_iff_linked`), although it puts the last
one together first, and filling them in groups the operands as they are met from left to right.
-/

set_option autoImplicit false

namespace Scriptlet

open Grammar

inductive Linked (endLine : Nat) (group : OperatorGroup) (tighter : List OperatorGroup) :
    List Token → List Link → List Token → Prop where
  | none {tokens : List Token} (stops : acceptIf (isContinued group) tokens = none) :
      Linked endLine group tighter tokens [] tokens
  | next {token : Token} {tokens behind rest : List Token} {operator : Operator} {operand : Expr}
      {others : List Link} (kind : token.kind = .operator)
      (found : group.find? token.text = some operator)
      (read : Reads (chain endLine · tighter tokens) (some (operand, behind)))
      (continues : Linked endLine group tighter behind others rest) :
      Linked endLine group tighter (token :: tokens) (⟨operator, token.line, operand⟩ :: others) rest

section Level

variable {endLine : Nat} {group : OperatorGroup} {tighter : List OperatorGroup}

theorem chain_reads_answer (fuel : Nat) {groups : List OperatorGroup} {tokens : List Token}
    {answer : Option (Expr × List Token)} (answered : chain endLine fuel groups tokens = .ok answer) :
    Reads (chain endLine · groups tokens) answer :=
  reads_of_follows fuel answered
    (fun _ bound => (rules_follow (fun _ => rfl) bound).chain groups (whole_refl tokens))
    (fun _ related => (some_alike_whole related).symm)

theorem linked_reads {tokens rest : List Token} {links : List Link}
    (linked : Linked endLine group tighter tokens links rest) :
    Reads (continuation endLine · group tighter tokens) (OpenChain.ofLinks links, rest) := by
  induction linked with
  | none stops =>
      unfold isContinued at stops
      apply reads_succ
      simp only [continuation, stops]
      exact reads_ok _
  | next kind found read continues ih =>
      apply reads_succ
      simp only [continuation, acceptIf, kind, OperatorGroup.contains, found, decide_true,
        Option.isSome_some, Bool.and_true, if_true]
      exact reads_bind read (reads_bind ih (reads_ok _))

-- The induction is on the fuel, as one operator is read for each step of it.
theorem linked_of_continuation (fuel : Nat) (tokens : List Token) :
    Yields (fun answer => ∃ links, Linked endLine group tighter tokens links answer.2 ∧
      answer.1 = OpenChain.ofLinks links) (continuation endLine fuel group tighter tokens) := by
  induction fuel generalizing tokens with
  | zero => exact yields_error _ .outOfFuel
  | succ fuel ih =>
      rw [continuation]
      cases accepted : acceptIf (fun token => token.kind = .operator && group.contains token.text) tokens with
      | none => exact yields_ok ⟨[], .none accepted, rfl⟩
      | some taken =>
          obtain ⟨token, behind⟩ := taken
          obtain ⟨rfl, test⟩ := accept_if_cons accepted
          simp only [Bool.and_eq_true, decide_eq_true_eq] at test
          obtain ⟨operator, found⟩ := Option.isSome_iff_exists.mp test.2
          simp only [found]
          have reads : Yields (Reads (chain endLine · tighter behind)) (chain endLine fuel tighter behind) :=
            fun _ answered => chain_reads_answer fuel answered
          refine yields_bind reads fun answer read => ?_
          cases answer with
          | none => exact yields_error _ _
          | some answer =>
              refine yields_bind (ih answer.2) fun further continues => ?_
              obtain ⟨others, linked, deeper⟩ := continues
              exact yields_ok ⟨_ :: others, .next test.1 found read linked, by rw [OpenChain.ofLinks, deeper]⟩

theorem continuation_iff_linked (tokens rest : List Token) (operations : Option OpenChain) :
    Reads (continuation endLine · group tighter tokens) (operations, rest) ↔
      ∃ links, Linked endLine group tighter tokens links rest ∧ operations = OpenChain.ofLinks links := by
  constructor
  · rintro ⟨least, answers⟩
    exact linked_of_continuation least tokens _ (answers least (Nat.le_refl least))
  · rintro ⟨links, linked, rfl⟩
    exact linked_reads linked

end Level

/-- The open operations that one level keeps are those of the links it finds. Any nonempty list of links has
such operations, and filling in an operand groups it with the links as their operators lean, one after the
other; so does the level with its first operand. -/
theorem links_group_as_they_lean :
    (∀ (endLine : Nat) (group : OperatorGroup) (tighter : List OperatorGroup) (tokens rest : List Token)
      (operations : Option OpenChain),
      Reads (continuation endLine · group tighter tokens) (operations, rest) ↔
        ∃ links, Linked endLine group tighter tokens links rest ∧ operations = OpenChain.ofLinks links) ∧
    (∀ links : List Link, links ≠ [] → ∃ operations, OpenChain.ofLinks links = some operations ∧
      ∀ first, operations.fill first = OpenChain.grouped first links) ∧
    (∀ (endLine : Nat) (group : OperatorGroup) (tighter : List OperatorGroup)
      (tokens behind rest : List Token) (first : Expr) (links : List Link),
      Reads (chain endLine · tighter tokens) (some (first, behind)) →
      Linked endLine group tighter behind links rest →
      Reads (chain endLine · (group :: tighter) tokens) (some (OpenChain.grouped first links, rest))) := by
  refine ⟨fun _ _ _ tokens rest operations => continuation_iff_linked tokens rest operations, ?_, ?_⟩
  · intro links nonempty
    cases links with
    | nil => exact absurd rfl nonempty
    | cons link others => exact ⟨_, rfl, fun first => OpenChain.fill_of_links first link others⟩
  · intro endLine group tighter tokens behind rest first links read linked
    exact chain_reads read (linked_reads linked)

def mixedGroup : OperatorGroup :=
  ⟨3, [.binary "-" 3, { Operator.binary "=" 3 with associativity := .rightToLeft }]⟩

-- The tokens of `a - b = c - d` behind the name `a`.
def mixedTokens : List Token :=
  [⟨⟨.operator, "-"⟩, 1⟩, ⟨⟨.identifier, "b"⟩, 1⟩, ⟨⟨.operator, "="⟩, 2⟩, ⟨⟨.identifier, "c"⟩, 2⟩,
    ⟨⟨.operator, "-"⟩, 3⟩, ⟨⟨.identifier, "d"⟩, 3⟩]

theorem mixed_level_grouped :
    Reads (chain 3 · [mixedGroup] (⟨⟨.identifier, "a"⟩, 1⟩ :: mixedTokens))
      (some (.binary 2 "=" (.binary 1 "-" (.identifier 1 "a") (.identifier 1 "b"))
        (.binary 3 "-" (.identifier 2 "c") (.identifier 3 "d")), [])) := by
  have linked : Linked 3 mixedGroup [] mixedTokens
      [⟨.binary "-" 3, 1, .identifier 1 "b"⟩,
        ⟨{ Operator.binary "=" 3 with associativity := .rightToLeft }, 2, .identifier 2 "c"⟩,
        ⟨.binary "-" 3, 3, .identifier 3 "d"⟩] [] :=
    .next rfl rfl (chain_reads_answer 3 rfl) (.next rfl rfl (chain_reads_answer 3 rfl)
      (.next rfl rfl (chain_reads_answer 3 rfl) (.none rfl)))
  exact links_group_as_they_lean.2.2 3 mixedGroup [] _ mixedTokens [] (.identifier 1 "a") _
    (chain_reads_answer 3 rfl) linked

end Scriptlet
