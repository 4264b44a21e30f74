import Scriptlet.Fault
import Scriptlet.Record
import Scriptlet.SymbolTable

set_option autoImplicit false

namespace Scriptlet

structure Context where
  symbols : SymbolTable := {}
  output : Sink := {}
  depth : Nat := 0
  log : Log := []

namespace Context

def record (entry : Record) (context : Context) : Context :=
  { context with log := entry :: context.log }

def trace (event : Event) (context : Context) : Context :=
  { context with log := .step context.depth event :: context.log }

def indent (context : Context) : Context := { context with depth := context.depth + 1 }

def unindent (context : Context) : Context := { context with depth := context.depth - 1 }

def enterScope (context : Context) : Context :=
  { context with symbols := context.symbols.enter }

def leaveScope (context : Context) : Context :=
  match context.symbols.leave? with
  | none => context
  | some (names, symbols) => { context with symbols, log := .released names :: context.log }

def declare (name : String) (value : Value) (context : Context) : Context :=
  match context.symbols.declare name value with
  | none => context
  | some (_, symbols) => { context with symbols }

section Fields

variable (context : Context) (name : String) (value : Value)

@[simp] theorem leave_scope_depth : context.leaveScope.depth = context.depth := by
  unfold leaveScope
  cases context.symbols.leave? <;> rfl

@[simp] theorem declare_depth : (context.declare name value).depth = context.depth := by
  unfold declare
  cases context.symbols.declare name value <;> rfl

@[simp] theorem declare_log : (context.declare name value).log = context.log := by
  unfold declare
  cases context.symbols.declare name value <;> rfl

end Fields

end Context

end Scriptlet
