import Scriptlet.Expr.OpenChain
import Scriptlet.Expr.Tree
import Scriptlet.Fault

/-!
Trees and errors up to their lines. A view says what is kept of a line: everything, if it is the identity,
and nothing, if it is constant.
-/

set_option autoImplicit false

namespace Scriptlet

@[simp] def Expr.label : Expr → String
  | block _ _ => "Block"
  | declare _ name _ => "Let " ++ name
  | branch _ _ _ _ => "If"
  | loop _ _ _ => "While"
  | binary _ operator _ _ => "Binary " ++ operator
  | unary _ operator _ => "Unary " ++ operator
  | literal _ text => "Literal " ++ text
  | identifier _ name => "Identifier " ++ name
  | call _ name _ => "Invocation " ++ name
  | empty _ => "Empty"

@[simp] def Expr.parts : Expr → List Expr
  | .block _ statements => statements
  | .declare _ _ initializer => initializer.toList
  | .branch _ condition thenBranch elseBranch => condition :: thenBranch :: elseBranch.toList
  | .loop _ condition body => [condition, body]
  | .binary _ _ left right => [left, right]
  | .unary _ _ operand => [operand]
  | .call _ _ arguments => arguments
  | .literal _ _ | .identifier _ _ | .empty _ => []

mutual

@[simp] def Expr.nodes : Expr → List Expr
  | .block line statements => .block line statements :: nodesOfAll statements
  | .declare line name none => [.declare line name none]
  | .declare line name (some initializer) =>
      .declare line name (some initializer) :: initializer.nodes
  | .branch line condition thenBranch none =>
      .branch line condition thenBranch none :: (condition.nodes ++ thenBranch.nodes)
  | .branch line condition thenBranch (some elseBranch) =>
      .branch line condition thenBranch (some elseBranch) ::
        (condition.nodes ++ thenBranch.nodes ++ elseBranch.nodes)
  | .loop line condition body => .loop line condition body :: (condition.nodes ++ body.nodes)
  | .binary line operator left right =>
      .binary line operator left right :: (left.nodes ++ right.nodes)
  | .unary line operator operand => .unary line operator operand :: operand.nodes
  | .literal line text => [.literal line text]
  | .identifier line name => [.identifier line name]
  | .call line name arguments => .call line name arguments :: nodesOfAll arguments
  | .empty line => [.empty line]

@[simp] def nodesOfAll : List Expr → List Expr
  | [] => []
  | first :: others => first.nodes ++ nodesOfAll others

end

theorem rows_of_parts (depth : Nat) (expr : Expr) :
    expr.rows depth = ⟨depth, expr.label, expr.line⟩ :: rowsOfAll (depth + 1) expr.parts := by
  cases expr with
  | declare _ _ initializer =>
      cases initializer <;> simp [Expr.rows, rowsOfAll]
  | branch _ _ _ elseBranch =>
      cases elseBranch <;> simp [Expr.rows, rowsOfAll]
  | _ => simp [Expr.rows, rowsOfAll]

theorem nodes_of_parts (expr : Expr) : expr.nodes = expr :: nodesOfAll expr.parts := by
  cases expr with
  | declare _ _ initializer => cases initializer <;> simp
  | branch _ _ _ elseBranch => cases elseBranch <;> simp
  | _ => simp

-- What holds of trees if it holds of the parts of the first and of the others. The parts have fewer nodes.
theorem parts_induction {holds : List Expr → Prop} (nil : holds [])
    (cons : ∀ first others, holds first.parts → holds others → holds (first :: others)) (exprs : List Expr) :
    holds exprs := by
  induction length : (nodesOfAll exprs).length using Nat.strongRecOn generalizing exprs with
  | ind size smaller =>
      cases exprs with
      | nil => exact nil
      | cons first others =>
          have total : size = 1 + (nodesOfAll first.parts).length + (nodesOfAll others).length := by
            rw [← length, nodesOfAll, nodes_of_parts first, List.length_append, List.length_cons]
            omega
          exact cons first others (smaller _ (by omega) first.parts rfl) (smaller _ (by omega) others rfl)

mutual

@[simp] def Expr.mapLines (view : Nat → Nat) : Expr → Expr
  | .block line statements => .block (view line) (mapLinesOfAll view statements)
  | .declare line name none => .declare (view line) name none
  | .declare line name (some initializer) =>
      .declare (view line) name (some (initializer.mapLines view))
  | .branch line condition thenBranch none =>
      .branch (view line) (condition.mapLines view) (thenBranch.mapLines view) none
  | .branch line condition thenBranch (some elseBranch) =>
      .branch (view line) (condition.mapLines view) (thenBranch.mapLines view)
        (some (elseBranch.mapLines view))
  | .loop line condition body => .loop (view line) (condition.mapLines view) (body.mapLines view)
  | .binary line operator left right =>
      .binary (view line) operator (left.mapLines view) (right.mapLines view)
  | .unary line operator operand => .unary (view line) operator (operand.mapLines view)
  | .literal line text => .literal (view line) text
  | .identifier line name => .identifier (view line) name
  | .call line name arguments => .call (view line) name (mapLinesOfAll view arguments)
  | .empty line => .empty (view line)

@[simp] def mapLinesOfAll (view : Nat → Nat) : List Expr → List Expr
  | [] => []
  | first :: others => first.mapLines view :: mapLinesOfAll view others

end

def Program.withoutLines (program : Program) : Program :=
  ⟨mapLinesOfAll (fun _ => 0) program.statements⟩

def Located.mapLine {κ : Type} (view : Nat → Nat) (error : Located κ) : Located κ :=
  ⟨view error.line, error.cause⟩

def Row.mapLine (view : Nat → Nat) (row : Row) : Row := { row with line := view row.line }

def Link.mapLines (view : Nat → Nat) (link : Link) : Link :=
  ⟨link.operator, view link.line, link.operand.mapLines view⟩

def OpenChain.mapLines (view : Nat → Nat) : OpenChain → OpenChain
  | hole link => hole (link.mapLines view)
  | nested left link => nested (left.mapLines view) (link.mapLines view)

section Parts

variable (view : Nat → Nat) (expr : Expr)

@[simp] theorem line_map_lines : (expr.mapLines view).line = view expr.line := by
  cases expr with
  | declare _ _ initializer => cases initializer <;> rfl
  | branch _ _ _ elseBranch => cases elseBranch <;> rfl
  | _ => rfl

@[simp] theorem label_map_lines : (expr.mapLines view).label = expr.label := by
  cases expr with
  | declare _ _ initializer => cases initializer <;> rfl
  | branch _ _ _ elseBranch => cases elseBranch <;> rfl
  | _ => rfl

@[simp] theorem parts_map_lines : (expr.mapLines view).parts = mapLinesOfAll view expr.parts := by
  cases expr with
  | declare _ _ initializer => cases initializer <;> simp
  | branch _ _ _ elseBranch => cases elseBranch <;> simp
  | _ => simp

theorem map_lines_of_fixed (here : view expr.line = expr.line)
    (within : mapLinesOfAll view expr.parts = expr.parts) : expr.mapLines view = expr := by
  cases expr with
  | declare _ _ initializer => cases initializer <;> simp_all
  | branch _ _ _ elseBranch => cases elseBranch <;> simp_all
  | _ => simp_all

theorem map_lines_of_twice (outer inner : Nat → Nat)
    (within : mapLinesOfAll outer (mapLinesOfAll inner expr.parts) = mapLinesOfAll (outer ∘ inner) expr.parts) :
    (expr.mapLines inner).mapLines outer = expr.mapLines (outer ∘ inner) := by
  cases expr with
  | declare _ _ initializer => cases initializer <;> simp_all
  | branch _ _ _ elseBranch => cases elseBranch <;> simp_all
  | _ => simp_all

end Parts

theorem map_lines_of_all_fixed (view : Nat → Nat) (exprs : List Expr)
    (fixed : ∀ node ∈ nodesOfAll exprs, view node.line = node.line) : mapLinesOfAll view exprs = exprs := by
  induction exprs using parts_induction with
  | nil => rfl
  | cons first others inParts inOthers =>
      rw [nodesOfAll, nodes_of_parts, List.cons_append, List.forall_mem_cons, List.forall_mem_append] at fixed
      obtain ⟨here, within, further⟩ := fixed
      rw [mapLinesOfAll, map_lines_of_fixed view first here (inParts within), inOthers further]

theorem map_lines_of_all_id (exprs : List Expr) : mapLinesOfAll id exprs = exprs :=
  map_lines_of_all_fixed id exprs fun _ _ => rfl

theorem map_lines_id (expr : Expr) : expr.mapLines id = expr :=
  map_lines_of_fixed id expr rfl (map_lines_of_all_id expr.parts)

theorem map_lines_of_all_map (outer inner : Nat → Nat) (exprs : List Expr) :
    mapLinesOfAll outer (mapLinesOfAll inner exprs) = mapLinesOfAll (outer ∘ inner) exprs := by
  induction exprs using parts_induction with
  | nil => rfl
  | cons first others inParts inOthers =>
      simp only [mapLinesOfAll, map_lines_of_twice first outer inner inParts, inOthers]

theorem rows_of_all_map_lines (view : Nat → Nat) (depth : Nat) (exprs : List Expr) :
    rowsOfAll depth (mapLinesOfAll view exprs) = (rowsOfAll depth exprs).map (Row.mapLine view) := by
  induction exprs using parts_induction generalizing depth with
  | nil => rfl
  | cons first others inParts inOthers =>
      rw [mapLinesOfAll, rowsOfAll, rowsOfAll, rows_of_parts, rows_of_parts, label_map_lines, line_map_lines,
        parts_map_lines, inParts, inOthers, List.map_append, List.map_cons]
      rfl

theorem tree_without_lines (program : Program) : program.withoutLines.tree = program.tree := by
  have texts : Row.text ∘ Row.mapLine (fun _ => 0) = Row.text := rfl
  rw [Program.tree, Program.tree, Program.rows, Program.withoutLines, rows_of_all_map_lines, List.map_map,
    texts]
  rfl

theorem map_lines_apply (view : Nat → Nat) (link : Link) (left : Expr) :
    (link.apply left).mapLines view = (link.mapLines view).apply (left.mapLines view) := by
  simp only [Link.apply, Expr.mapLines, Link.mapLines]

theorem map_lines_fill (view : Nat → Nat) (operand : Expr) (operations : OpenChain) :
    (operations.fill operand).mapLines view =
      (operations.mapLines view).fill (operand.mapLines view) := by
  induction operations with
  | hole link => exact map_lines_apply view link operand
  | nested left link ih =>
      rw [OpenChain.fill, map_lines_apply, ih]
      rfl

theorem map_lines_graft (view : Nat → Nat) (link : Link) (operations : OpenChain) :
    (operations.graft link).mapLines view = (operations.mapLines view).graft (link.mapLines view) := by
  induction operations with
  | hole outer => rfl
  | nested left outer ih => simp only [OpenChain.graft, OpenChain.mapLines, ih]

theorem map_lines_extend (view : Nat → Nat) (link : Link) (deeper : Option OpenChain) :
    (OpenChain.extend link deeper).mapLines view =
      OpenChain.extend (link.mapLines view) (deeper.map (OpenChain.mapLines view)) := by
  cases deeper with
  | none => rfl
  | some deeper =>
      cases leans : link.operator.associativity with
      | rightToLeft =>
          simp only [OpenChain.extend, leans, Link.mapLines, Option.map_some, OpenChain.mapLines,
            map_lines_fill]
      | leftToRight =>
          rw [OpenChain.extend, leans, Option.map_some, OpenChain.extend]
          simp only [Link.mapLines, leans]
          exact map_lines_graft view link deeper

end Scriptlet
