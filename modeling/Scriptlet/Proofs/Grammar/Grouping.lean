import Mathlib.Data.List.Basic
import Scriptlet.Expr.OpenChain
import Scriptlet.Token

/-!
How a chain of operands and operators groups.

A grouping is a tree over the operands of a chain. It is ordered if every operation holds only
tighter operations on either side, apart from those of its own priority on the side it leans to.
`ordered_unique` says that a chain has at most one ordered grouping, and `join_ordered` that joining
tighter groupings from left to right gives one.
-/

set_option autoImplicit false

namespace Scriptlet

structure Operand where
  tokens : List Token
  value : Expr

structure Joint where
  token : Token
  operator : Operator

inductive Item where
  | operand (operand : Operand)
  | joint (joint : Joint)

inductive Grouping where
  | single (operand : Operand)
  | joined (left : Grouping) (joint : Joint) (right : Grouping)

namespace Grouping

def items : Grouping → List Item
  | single operand => [.operand operand]
  | joined left joint right => left.items ++ .joint joint :: right.items

def expr : Grouping → Expr
  | single operand => operand.value
  | joined left joint right =>
      .binary joint.token.line joint.operator.lexeme left.expr right.expr

def root? : Grouping → Option Operator
  | single _ => none
  | joined _ joint _ => some joint.operator

-- Whether an operation may stand below another one on a side that is leant to by the given
-- associativity.
def Fits (side : Associativity) (inner outer : Operator) : Prop :=
  inner.priority < outer.priority ∨ inner.priority = outer.priority ∧ outer.associativity = side

def Ordered : Grouping → Prop
  | single _ => True
  | joined left joint right =>
      left.Ordered ∧ right.Ordered ∧
        (∀ inner ∈ left.root?, Fits .leftToRight inner joint.operator) ∧
        (∀ inner ∈ right.root?, Fits .rightToLeft inner joint.operator)

theorem joint_below_root (grouping : Grouping) (joint : Joint) (ordered : grouping.Ordered)
    (member : .joint joint ∈ grouping.items) :
    ∃ root ∈ grouping.root?, joint.operator.priority ≤ root.priority := by
  induction grouping with
  | single operand => simp [items] at member
  | joined left outer right leftIh rightIh =>
      obtain ⟨leftOrdered, rightOrdered, leftFits, rightFits⟩ := ordered
      refine ⟨outer.operator, rfl, ?_⟩
      simp only [items, List.mem_append, List.mem_cons, Item.joint.injEq] at member
      rcases member with inLeft | same | inRight
      · obtain ⟨root, isRoot, below⟩ := leftIh leftOrdered inLeft
        rcases leftFits root isRoot with less | ⟨equal, -⟩ <;> omega
      · exact same ▸ Nat.le_refl _
      · obtain ⟨root, isRoot, below⟩ := rightIh rightOrdered inRight
        rcases rightFits root isRoot with less | ⟨equal, -⟩ <;> omega

theorem fits_of_mem (side : Associativity) (grouping : Grouping) (joint : Joint) (outer : Operator)
    (ordered : grouping.Ordered) (member : .joint joint ∈ grouping.items)
    (fits : ∀ inner ∈ grouping.root?, Fits side inner outer) : Fits side joint.operator outer := by
  obtain ⟨root, isRoot, below⟩ := joint_below_root grouping joint ordered member
  rcases fits root isRoot with less | ⟨equal, leans⟩
  · exact .inl (by omega)
  · by_cases strict : joint.operator.priority < outer.priority
    · exact .inl strict
    · exact .inr ⟨by omega, leans⟩

theorem no_crossing (before behind : Operator)
    (uniform : before.priority = behind.priority → before.associativity = behind.associativity)
    (inLeft : Fits .leftToRight before behind) (inRight : Fits .rightToLeft behind before) : False := by
  rcases inLeft with less | ⟨equal, leansLeft⟩
  · rcases inRight with more | ⟨equal, -⟩ <;> omega
  · rcases inRight with more | ⟨-, leansRight⟩
    · omega
    · rw [uniform equal, leansLeft] at leansRight
      cases leansRight

theorem cut_cases {α : Type} (before behind before' behind' : List α) (a b : α)
    (same : before ++ a :: behind = before' ++ b :: behind') :
    (before = before' ∧ a = b ∧ behind = behind') ∨ (a ∈ before' ∧ b ∈ behind) ∨
      (b ∈ before ∧ a ∈ behind') := by
  rcases List.append_eq_append_iff.mp same with ⟨between, front, back⟩ | ⟨between, front, back⟩
  · cases between with
    | nil =>
        simp only [List.nil_append, List.cons.injEq, List.append_nil] at front back
        exact .inl ⟨front.symm, back⟩
    | cons first between =>
        simp only [List.cons_append, List.cons.injEq] at back
        exact .inr (.inl ⟨by simp [front, back.1], by simp [back.2]⟩)
  · cases between with
    | nil =>
        simp only [List.nil_append, List.cons.injEq, List.append_nil] at front back
        exact .inl ⟨front, back.1.symm, back.2.symm⟩
    | cons first between =>
        simp only [List.cons_append, List.cons.injEq] at back
        exact .inr (.inr ⟨by simp [front, back.1], by simp [back.2]⟩)

theorem ordered_unique (left right : Grouping)
    (uniform : ∀ first second : Joint, .joint first ∈ left.items → .joint second ∈ right.items →
      first.operator.priority = second.operator.priority →
      first.operator.associativity = second.operator.associativity)
    (same : left.items = right.items) (leftOrdered : left.Ordered) (rightOrdered : right.Ordered) :
    left = right := by
  induction left generalizing right with
  | single operand =>
      cases right with
      | single other =>
          simp only [items, List.cons.injEq, Item.operand.injEq, and_true] at same
          rw [same]
      | joined l joint r =>
          have member : Item.joint joint ∈ (single operand).items := by rw [same]; simp [items]
          simp [items] at member
  | joined l joint r leftIh rightIh =>
      cases right with
      | single other =>
          have member : Item.joint joint ∈ (single other).items := by rw [← same]; simp [items]
          simp [items] at member
      | joined l' joint' r' =>
          obtain ⟨lOrdered, rOrdered, lFits, rFits⟩ := leftOrdered
          obtain ⟨lOrdered', rOrdered', lFits', rFits'⟩ := rightOrdered
          have roots := uniform joint joint' (by simp [items]) (by simp [items])
          rcases cut_cases _ _ _ _ _ _ same with ⟨fronts, joints, backs⟩ | ⟨before, behind⟩ |
            ⟨before, behind⟩
          · cases joints
            have lefts := leftIh l'
              (fun a b inA inB => uniform a b (by simp [items, inA]) (by simp [items, inB]))
              fronts lOrdered lOrdered'
            have rights := rightIh r'
              (fun a b inA inB => uniform a b (by simp [items, inA]) (by simp [items, inB]))
              backs rOrdered rOrdered'
            rw [lefts, rights]
          · have inLeft := fits_of_mem .leftToRight l' joint joint'.operator lOrdered' before lFits'
            have inRight := fits_of_mem .rightToLeft r joint' joint.operator rOrdered behind rFits
            exact (no_crossing _ _ roots inLeft inRight).elim
          · have inLeft := fits_of_mem .leftToRight l joint' joint.operator lOrdered before lFits
            have inRight := fits_of_mem .rightToLeft r' joint joint'.operator rOrdered' behind rFits'
            exact (no_crossing _ _ (fun equal => (roots equal.symm).symm) inLeft inRight).elim

def join : Grouping → List (Joint × Grouping) → Grouping
  | first, [] => first
  | first, (joint, next) :: others =>
      match joint.operator.associativity with
      | .rightToLeft => joined first joint (next.join others)
      | .leftToRight => (joined first joint next).join others

theorem join_items (first : Grouping) (others : List (Joint × Grouping)) :
    (first.join others).items =
      first.items ++ others.flatMap fun part => .joint part.1 :: part.2.items := by
  induction others generalizing first with
  | nil => simp [join]
  | cons part others ih =>
      cases leans : part.1.operator.associativity <;> simp [join, leans, ih, items]

theorem join_ordered (priority : Nat) (side : Associativity) (first : Grouping)
    (others : List (Joint × Grouping)) (ordered : first.Ordered)
    (below : ∀ root ∈ first.root?, root.priority < priority ∨
      root.priority = priority ∧ side = .leftToRight)
    (joints : ∀ part ∈ others, part.1.operator.priority = priority ∧
      part.1.operator.associativity = side)
    (tighter : ∀ part ∈ others, part.2.Ordered ∧ ∀ root ∈ part.2.root?, root.priority < priority) :
    (first.join others).Ordered ∧ ∀ root ∈ (first.join others).root?, root.priority ≤ priority := by
  induction others generalizing first with
  | nil =>
      refine ⟨ordered, fun root isRoot => ?_⟩
      rcases below root isRoot with less | ⟨equal, -⟩ <;> omega
  | cons part others ih =>
      obtain ⟨joint, next⟩ := part
      obtain ⟨level, leans⟩ := joints _ List.mem_cons_self
      obtain ⟨nextOrdered, nextBelow⟩ := tighter _ List.mem_cons_self
      dsimp only at level leans nextOrdered nextBelow
      have otherJoints := fun part member => joints part (List.mem_cons_of_mem _ member)
      have otherTighter := fun part member => tighter part (List.mem_cons_of_mem _ member)
      have leftFits : ∀ root ∈ first.root?, Fits .leftToRight root joint.operator := by
        intro root isRoot
        simpa only [Fits, level, leans] using below root isRoot
      cases side with
      | rightToLeft =>
          have rest := ih next nextOrdered (fun root isRoot => .inl (nextBelow root isRoot))
            otherJoints otherTighter
          simp only [join, leans]
          refine ⟨⟨ordered, rest.1, leftFits, fun root isRoot => ?_⟩, ?_⟩
          · have bound := rest.2 root isRoot
            simp only [Fits, level, leans, and_true]
            omega
          · rintro root ⟨⟩
            exact Nat.le_of_eq level
      | leftToRight =>
          simp only [join, leans]
          refine ih _ ⟨ordered, nextOrdered, leftFits, fun root isRoot => .inl ?_⟩ ?_ otherJoints
            otherTighter
          · exact level ▸ nextBelow root isRoot
          · rintro root ⟨⟩
            exact .inr ⟨level, rfl⟩

end Grouping

namespace OpenChain

-- What links of one level group to, read off their associativities one after the other.
def grouped : Expr → List Link → Expr
  | first, [] => first
  | first, link :: others =>
      match link.operator.associativity with
      | .rightToLeft => Link.apply { link with operand := grouped link.operand others } first
      | .leftToRight => grouped (link.apply first) others

def ofLinks : List Link → Option OpenChain
  | [] => none
  | link :: others => some (extend link (ofLinks others))

theorem fill_graft (operand : Expr) (link : Link) (operations : OpenChain) :
    (operations.graft link).fill operand = operations.fill (link.apply operand) := by
  induction operations with
  | hole outer => rfl
  | nested left outer ih => rw [graft, fill, ih, fill]

theorem extend_right (link : Link) (deeper : OpenChain)
    (leans : link.operator.associativity = .rightToLeft) :
    extend link (some deeper) = hole { link with operand := deeper.fill link.operand } := by
  rw [extend, leans]

theorem extend_left (link : Link) (deeper : OpenChain)
    (leans : link.operator.associativity = .leftToRight) :
    extend link (some deeper) = deeper.graft link := by
  rw [extend, leans]

theorem fill_of_links (first : Expr) (link : Link) (others : List Link) :
    (extend link (ofLinks others)).fill first = grouped first (link :: others) := by
  induction others generalizing first link with
  | nil => cases leans : link.operator.associativity <;> simp [ofLinks, extend, fill, grouped, leans]
  | cons next others ih =>
      cases leans : link.operator.associativity with
      | rightToLeft =>
          rw [ofLinks, extend_right link _ leans, fill, ih]
          conv_rhs => rw [grouped, leans]
      | leftToRight =>
          rw [ofLinks, extend_left link _ leans, fill_graft, ih]
          conv_rhs => rw [grouped, leans]

end OpenChain

namespace Grouping

def link (part : Joint × Grouping) : Link := ⟨part.1.operator, part.1.token.line, part.2.expr⟩

theorem join_expr (first : Grouping) (others : List (Joint × Grouping)) :
    (first.join others).expr = OpenChain.grouped first.expr (others.map link) := by
  induction others generalizing first with
  | nil => rfl
  | cons part others ih =>
      cases leans : part.1.operator.associativity <;>
        simp [join, leans, ih, expr, OpenChain.grouped, link, Link.apply]

end Grouping

end Scriptlet
