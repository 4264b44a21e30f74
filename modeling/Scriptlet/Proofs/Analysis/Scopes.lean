import Scriptlet.Analysis
import Scriptlet.Proofs.SymbolTable.Valid

set_option autoImplicit false

namespace Scriptlet

-- The names of the declarations that may be left out when the program runs: those for which the way up
-- to the nearest block, or to the root, leads out of a branch or a loop body. The flag says whether it
-- does so above the tree at hand.
mutual

def Expr.conditionalNames (inside : Bool) : Expr → List String
  | .block _ statements => conditionalNamesOfAll false statements
  | .declare _ name none => if inside then [name] else []
  | .declare _ name (some initializer) =>
      initializer.conditionalNames inside ++ if inside then [name] else []
  | .branch _ condition thenBranch none =>
      condition.conditionalNames inside ++ thenBranch.conditionalNames true
  | .branch _ condition thenBranch (some elseBranch) =>
      condition.conditionalNames inside ++ thenBranch.conditionalNames true ++
        elseBranch.conditionalNames true
  | .loop _ condition body => condition.conditionalNames inside ++ body.conditionalNames true
  | .binary _ _ left right => left.conditionalNames inside ++ right.conditionalNames inside
  | .unary _ _ operand => operand.conditionalNames inside
  | .literal _ _ => []
  | .identifier _ _ => []
  | .call _ _ arguments => conditionalNamesOfAll inside arguments
  | .empty _ => []

def conditionalNamesOfAll (inside : Bool) : List Expr → List String
  | [] => []
  | first :: others => first.conditionalNames inside ++ conditionalNamesOfAll inside others

end

def Program.conditionalNames (program : Program) : List String :=
  conditionalNamesOfAll false program.statements

namespace Survey

def scopes (survey : Survey) : List (List String) := survey.symbols.declared

theorem scopes_leave (survey : Survey) : survey.leaveScope.scopes = survey.scopes.tail := by
  unfold leaveScope
  cases left : survey.symbols.leave? with
  | none =>
      dsimp only
      rw [scopes, survey.symbols.leave_closed left, List.tail_nil]
  | some answer => exact survey.symbols.leave_declared answer.2 answer.1 left

theorem scopes_declare (survey : Survey) (name : String) (fresh : survey.isDeclaredHere name = false) :
    (survey.declare name).scopes = survey.scopes.modifyHead (name :: ·) := by
  unfold declare
  cases done : survey.symbols.declare name .none with
  | none =>
      dsimp only
      rw [scopes, survey.symbols.declare_closed name .none done, List.modifyHead_nil]
  | some answer => exact survey.symbols.declare_fresh answer.2 name .none answer.1 fresh done

end Survey

section Inversion

variable {survey after : Survey}

theorem check_bind {α β : Type} {first : Check α} {next : α → Check β} {result : β}
    (checked : (first >>= next) survey = .ok result after) :
    ∃ middle between, first survey = .ok middle between ∧ next middle between = .ok result after := by
  change EStateM.bind first next survey = .ok result after at checked
  unfold EStateM.bind at checked
  cases answer : first survey with
  | ok middle between =>
      rw [answer] at checked
      exact ⟨middle, between, rfl, checked⟩
  | error error between =>
      rw [answer] at checked
      cases checked

theorem check_unless {condition : Bool} {line : Nat} {fault : SemanticFault} {check : Check Unit}
    (checked : (if condition then do Check.fail line fault; check else check) survey = .ok () after) :
    condition = false ∧ check survey = .ok () after := by
  cases condition with
  | true => cases checked
  | false => exact ⟨rfl, checked⟩

theorem check_in_scope {check : Check Unit} (checked : Check.inScope check survey = .ok () after) :
    ∃ inner, check survey.enterScope = .ok () inner ∧ after = inner.leaveScope := by
  unfold Check.inScope at checked
  cases answer : check survey.enterScope with
  | ok _ inner =>
      rw [answer] at checked
      cases checked
      exact ⟨inner, rfl, rfl⟩
  | error error inner =>
      rw [answer] at checked
      cases checked

theorem check_declare {line : Nat} {name : String}
    (checked : (Check.declare line name) survey = .ok () after) :
    survey.isDeclaredHere name = false ∧ after = survey.declare name := by
  change (if survey.isDeclaredHere name then Check.fail line (.redeclaration name)
    else modify (Survey.declare name)) survey = _ at checked
  cases here : survey.isDeclaredHere name with
  | true =>
      rw [here] at checked
      cases checked
  | false =>
      rw [here] at checked
      cases checked
      exact ⟨rfl, rfl⟩

theorem check_initialized {line : Nat} {name : String} {initializer : Expr}
    (checked : (Expr.declare line name (some initializer)).check survey = .ok () after) :
    ∃ middle, initializer.check survey = .ok () middle ∧ middle.isDeclaredHere name = false ∧
      after = middle.declare name := by
  simp only [Expr.check] at checked
  obtain ⟨⟨⟩, middle, first, last⟩ := check_bind checked
  exact ⟨middle, first, check_declare last⟩

theorem check_branch {line : Nat} {condition thenBranch : Expr}
    (checked : (Expr.branch line condition thenBranch none).check survey = .ok () after) :
    ∃ tested, condition.check survey = .ok () tested ∧ thenBranch.check tested = .ok () after := by
  simp only [Expr.check] at checked
  obtain ⟨⟨⟩, tested, first, rest⟩ := check_bind (check_unless checked).2
  obtain ⟨⟨⟩, last, second, done⟩ := check_bind rest
  cases done
  exact ⟨tested, first, second⟩

theorem check_alternative {line : Nat} {condition thenBranch elseBranch : Expr}
    (checked : (Expr.branch line condition thenBranch (some elseBranch)).check survey = .ok () after) :
    ∃ tested middle, condition.check survey = .ok () tested ∧ thenBranch.check tested = .ok () middle ∧
      elseBranch.check middle = .ok () after := by
  simp only [Expr.check] at checked
  obtain ⟨⟨⟩, tested, first, rest⟩ := check_bind (check_unless checked).2
  obtain ⟨⟨⟩, middle, second, third⟩ := check_bind rest
  exact ⟨tested, middle, first, second, third⟩

theorem check_loop {line : Nat} {condition body : Expr}
    (checked : (Expr.loop line condition body).check survey = .ok () after) :
    ∃ tested, condition.check survey = .ok () tested ∧ body.check tested = .ok () after := by
  simp only [Expr.check] at checked
  obtain ⟨⟨⟩, tested, first, second⟩ := check_bind (check_unless checked).2
  exact ⟨tested, first, second⟩

theorem check_binary {line : Nat} {operator : String} {left right : Expr}
    (checked : (Expr.binary line operator left right).check survey = .ok () after) :
    (operator = "=" → left.isIdentifier = true) ∧
      ∃ middle, left.check survey = .ok () middle ∧ right.check middle = .ok () after := by
  simp only [Expr.check] at checked
  obtain ⟨target, rest⟩ := check_unless checked
  obtain ⟨⟨⟩, middle, first, second⟩ := check_bind rest
  refine ⟨fun assigns => ?_, middle, first, second⟩
  simpa [assigns] using target

theorem check_identifier {line : Nat} {name : String}
    (checked : (Expr.identifier line name).check survey = .ok () after) :
    survey.isVisible name = true ∧ after = survey := by
  simp only [Expr.check] at checked
  obtain ⟨current, same, got, rest⟩ := check_bind checked
  cases got
  cases visible : survey.isVisible name with
  | true =>
      rw [visible] at rest
      cases rest
      exact ⟨rfl, rfl⟩
  | false =>
      rw [visible] at rest
      cases rest

theorem check_call {line : Nat} {name : String} {arguments : List Expr}
    (checked : (Expr.call line name arguments).check survey = .ok () after) :
    (∃ builtin, Builtin.find? name = some builtin) ∧ checkAll arguments survey = .ok () after := by
  simp only [Expr.check] at checked
  obtain ⟨known, rest⟩ := check_unless checked
  exact ⟨Option.isSome_iff_exists.mp (by simpa using known), rest⟩

theorem check_all_cons {first : Expr} {others : List Expr}
    (checked : checkAll (first :: others) survey = .ok () after) :
    ∃ middle, first.check survey = .ok () middle ∧ checkAll others middle = .ok () after := by
  simp only [checkAll] at checked
  obtain ⟨⟨⟩, middle, here, further⟩ := check_bind checked
  exact ⟨middle, here, further⟩

end Inversion

inductive Grown (gained : String → Prop) : List (List String) → List (List String) → Prop where
  | closed : Grown gained [] []
  | opened (names more : List String) (outer : List (List String)) (all : ∀ name ∈ more, gained name) :
      Grown gained (names :: outer) ((more ++ names) :: outer)

section Growth

variable {gained : String → Prop} {before between after : List (List String)}

theorem grown_refl (scopes : List (List String)) : Grown gained scopes scopes := by
  cases scopes with
  | nil => exact .closed
  | cons names outer => exact .opened names [] outer (by simp)

theorem grown_trans (first : Grown gained before between) (second : Grown gained between after) :
    Grown gained before after := by
  cases first with
  | closed => exact second
  | opened names more outer all =>
      cases second with
      | opened _ others _ further =>
          rw [← List.append_assoc]
          exact .opened names (others ++ more) outer (List.forall_mem_append.mpr ⟨further, all⟩)

theorem grown_mono {wider : String → Prop} (implies : ∀ name, gained name → wider name)
    (grown : Grown gained before after) : Grown wider before after := by
  cases grown with
  | closed => exact .closed
  | opened names more outer all =>
      exact .opened names more outer fun name member => implies name (all name member)

theorem grown_declare (survey : Survey) (name : String) (fresh : survey.isDeclaredHere name = false)
    (allowed : gained name) : Grown gained survey.scopes (survey.declare name).scopes := by
  rw [survey.scopes_declare name fresh]
  cases survey.scopes with
  | nil => exact .closed
  | cons scope outer => exact .opened scope [name] outer (by simpa using allowed)

theorem grown_enter (survey inner : Survey)
    (grown : Grown gained survey.enterScope.scopes inner.scopes) :
    ∃ names, inner.scopes = names :: survey.scopes := by
  change Grown gained ([] :: survey.scopes) inner.scopes at grown
  generalize inner.scopes = scopes at grown
  cases grown
  exact ⟨_, rfl⟩

theorem grown_leave (survey inner : Survey)
    (grown : Grown gained survey.enterScope.scopes inner.scopes) :
    inner.leaveScope.scopes = survey.scopes := by
  obtain ⟨names, scopes⟩ := grown_enter survey inner grown
  rw [Survey.scopes_leave, scopes, List.tail_cons]

end Growth

mutual

theorem check_grows (expr : Expr) (inside : Bool) (conditional : String → Prop)
    (all : ∀ name ∈ expr.conditionalNames inside, conditional name) (survey after : Survey)
    (checked : expr.check survey = .ok () after) :
    Grown (fun name => inside = true → conditional name) survey.scopes after.scopes := by
  match expr with
  | .block _ statements =>
      simp only [Expr.check] at checked
      obtain ⟨inner, within, rfl⟩ := check_in_scope checked
      have grown := check_all_grows statements false conditional all survey.enterScope inner within
      rw [grown_leave survey inner grown]
      exact grown_refl _
  | .declare line name none =>
      simp only [Expr.conditionalNames] at all
      obtain ⟨fresh, rfl⟩ := check_declare checked
      exact grown_declare survey name fresh fun isInside => all name (by simp [isInside])
  | .declare line name (some initializer) =>
      simp only [Expr.conditionalNames, List.forall_mem_append] at all
      obtain ⟨middle, first, fresh, rfl⟩ := check_initialized checked
      exact grown_trans (check_grows initializer inside conditional all.1 survey middle first)
        (grown_declare middle name fresh fun isInside => all.2 name (by simp [isInside]))
  | .branch _ condition thenBranch none =>
      simp only [Expr.conditionalNames, List.forall_mem_append] at all
      obtain ⟨tested, first, second⟩ := check_branch checked
      have branch := check_grows thenBranch true conditional all.2 tested after second
      exact grown_trans (check_grows condition inside conditional all.1 survey tested first)
        (grown_mono (fun name gained _ => gained rfl) branch)
  | .branch _ condition thenBranch (some elseBranch) =>
      simp only [Expr.conditionalNames, List.forall_mem_append] at all
      obtain ⟨tested, middle, first, second, third⟩ := check_alternative checked
      have branch := check_grows thenBranch true conditional all.1.2 tested middle second
      have other := check_grows elseBranch true conditional all.2 middle after third
      exact grown_trans (check_grows condition inside conditional all.1.1 survey tested first)
        (grown_mono (fun name gained _ => gained rfl) (grown_trans branch other))
  | .loop _ condition body =>
      simp only [Expr.conditionalNames, List.forall_mem_append] at all
      obtain ⟨tested, first, second⟩ := check_loop checked
      have turn := check_grows body true conditional all.2 tested after second
      exact grown_trans (check_grows condition inside conditional all.1 survey tested first)
        (grown_mono (fun name gained _ => gained rfl) turn)
  | .binary _ _ left right =>
      simp only [Expr.conditionalNames, List.forall_mem_append] at all
      obtain ⟨-, middle, first, second⟩ := check_binary checked
      exact grown_trans (check_grows left inside conditional all.1 survey middle first)
        (check_grows right inside conditional all.2 middle after second)
  | .unary _ _ operand =>
      simp only [Expr.conditionalNames] at all
      simp only [Expr.check] at checked
      exact check_grows operand inside conditional all survey after checked
  | .literal _ _ =>
      cases checked
      exact grown_refl _
  | .identifier line name =>
      obtain ⟨-, rfl⟩ := check_identifier checked
      exact grown_refl _
  | .call _ name arguments =>
      simp only [Expr.conditionalNames] at all
      exact check_all_grows arguments inside conditional all survey after (check_call checked).2
  | .empty _ =>
      cases checked
      exact grown_refl _

theorem check_all_grows (exprs : List Expr) (inside : Bool) (conditional : String → Prop)
    (all : ∀ name ∈ conditionalNamesOfAll inside exprs, conditional name) (survey after : Survey)
    (checked : checkAll exprs survey = .ok () after) :
    Grown (fun name => inside = true → conditional name) survey.scopes after.scopes := by
  match exprs with
  | [] =>
      cases checked
      exact grown_refl _
  | first :: others =>
      simp only [conditionalNamesOfAll, List.forall_mem_append] at all
      obtain ⟨middle, here, further⟩ := check_all_cons checked
      exact grown_trans (check_grows first inside conditional all.1 survey middle here)
        (check_all_grows others inside conditional all.2 middle after further)

end

theorem analyze_ok (program : Program) (accepted : program.analyze = .ok ()) :
    ∃ inner, checkAll program.statements (Survey.enterScope {}) = .ok () inner := by
  unfold Program.analyze at accepted
  cases answer : program.check {} with
  | error error survey =>
      rw [answer] at accepted
      cases accepted
  | ok _ survey =>
      obtain ⟨⟨⟩, left, checked, -⟩ := check_bind answer
      obtain ⟨inner, within, -⟩ := check_in_scope checked
      exact ⟨inner, within⟩

end Scriptlet
