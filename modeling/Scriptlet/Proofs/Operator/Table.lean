import Scriptlet.Operator

set_option autoImplicit false

namespace Scriptlet

theorem find_eq_some {text : String} {arity : Arity} {operator : Operator}
    (found : Operator.find? text arity = some operator) :
    operator ∈ Operator.table ∧ operator.arity = arity ∧ operator.lexeme = text := by
  have member := List.mem_of_find?_eq_some found
  have passes := List.find?_some found
  simp only [Bool.and_eq_true, decide_eq_true_eq] at passes
  exact ⟨member, passes⟩

theorem uniform_associativity {first second : Operator} {firstText secondText : String}
    (firstKnown : Operator.find? firstText .binary = some first)
    (secondKnown : Operator.find? secondText .binary = some second)
    (same : first.priority = second.priority) : first.associativity = second.associativity := by
  have table : ∀ p ∈ Operator.table, ∀ q ∈ Operator.table, p.arity = .binary → q.arity = .binary →
      p.priority = q.priority → p.associativity = q.associativity := by decide
  obtain ⟨inTable, binary, -⟩ := find_eq_some firstKnown
  obtain ⟨inTable', binary', -⟩ := find_eq_some secondKnown
  exact table _ inTable _ inTable' binary binary' same

theorem group_find {group : OperatorGroup} (level : group ∈ binaryGroups) {text : String}
    {operator : Operator} (known : Operator.find? text .binary = some operator) :
    group.find? text = if operator.priority = group.priority then some operator else none := by
  have groups : ∀ group ∈ binaryGroups, ∀ operator ∈ Operator.table, operator.arity = .binary →
      group.find? operator.lexeme =
        if operator.priority = group.priority then some operator else none := by decide
  obtain ⟨inTable, binary, lexeme⟩ := find_eq_some known
  rw [← lexeme]
  exact groups group level _ inTable binary

theorem find_of_group {group : OperatorGroup} (level : group ∈ binaryGroups) {text : String}
    {operator : Operator} (found : group.find? text = some operator) :
    Operator.find? text .binary = some operator := by
  have members : ∀ group ∈ binaryGroups, ∀ operator ∈ group.members,
      Operator.find? operator.lexeme .binary = some operator := by decide
  have member := List.mem_of_find?_eq_some found
  have same := List.find?_some found
  rw [decide_eq_true_eq] at same
  rw [← same]
  exact members group level operator member

theorem group_of_known {text : String} {operator : Operator}
    (known : Operator.find? text .binary = some operator) :
    ∃ group ∈ binaryGroups, group.priority = operator.priority := by
  have groups : ∀ operator ∈ Operator.table, operator.arity = .binary →
      ∃ group ∈ binaryGroups, group.priority = operator.priority := by decide
  obtain ⟨inTable, binary, -⟩ := find_eq_some known
  exact groups _ inTable binary

theorem groups_descend : binaryGroups.Pairwise fun looser tighter =>
    tighter.priority < looser.priority := by decide

theorem operator_not_parenthesis {text : String} {arity : Arity} {operator : Operator}
    (known : Operator.find? text arity = some operator) : text ≠ "(" := by
  have table : ∀ operator ∈ Operator.table, operator.lexeme ≠ "(" := by decide
  obtain ⟨inTable, -, lexeme⟩ := find_eq_some known
  rw [← lexeme]
  exact table _ inTable

theorem sign_of_both {text : String} {sign operator : Operator}
    (unary : Operator.find? text .unary = some sign) (binary : Operator.find? text .binary = some operator) :
    text ∈ ["+", "-"] := by
  have table : ∀ sign ∈ Operator.table, ∀ operator ∈ Operator.table, sign.arity = .unary →
      operator.arity = .binary → operator.lexeme = sign.lexeme → sign.lexeme ∈ ["+", "-"] := by decide
  obtain ⟨inTable, isUnary, rfl⟩ := find_eq_some unary
  obtain ⟨inTable', isBinary, lexeme⟩ := find_eq_some binary
  exact table _ inTable _ inTable' isUnary isBinary lexeme

end Scriptlet
