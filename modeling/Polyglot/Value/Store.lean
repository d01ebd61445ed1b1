import Polyglot.Value.Basic

/-! Scopes. A store holds every scope ever opened, numbered in the order of opening; a scope holds
its own names and the number of the scope around it, which was opened before. Scopes are shared:
whoever holds the number sees the names bound later. -/
namespace Polyglot

/-- Names and their values, each name once. -/
abbrev Bindings := List (String × Value)

def Bindings.find? (name : String) (bindings : Bindings) : Option Value :=
  bindings.lookup name

/-- Binds a name anew, in its old place if it has one. -/
def Bindings.bind (name : String) (value : Value) : Bindings → Bindings
  | [] => [(name, value)]
  | entry :: rest =>
    if entry.1 == name then (name, value) :: rest else entry :: Bindings.bind name value rest

structure Scope where
  bindings : Bindings
  /-- The scope around this one. -/
  outer : Option ScopeId

structure Store where
  scopes : Array Scope

namespace Store

def empty : Store := ⟨#[]⟩

/-- Opens a scope without names; its number is the number of scopes opened before. -/
def openScope (outer : Option ScopeId) (store : Store) : ScopeId × Store :=
  (store.scopes.size, ⟨store.scopes.push ⟨[], outer⟩⟩)

def bind (id : ScopeId) (name : String) (value : Value) (store : Store) : Store :=
  ⟨store.scopes.modify id fun scope => { scope with bindings := scope.bindings.bind name value }⟩

def own? (store : Store) (name : String) (id : ScopeId) : Option Value :=
  store.scopes[id]?.bind fun scope => scope.bindings.find? name

def outer? (store : Store) (id : ScopeId) : Option ScopeId :=
  store.scopes[id]?.bind Scope.outer

def chainWithin (store : Store) : Nat → ScopeId → List ScopeId
  | 0, _ => []
  | bound + 1, id =>
    id :: match store.outer? id with
      | some outer => store.chainWithin bound outer
      | none => []

/-- A scope and those around it, the nearest first. The numbers fall from one to the next, so the
first number bounds their count. -/
def chain (store : Store) (id : ScopeId) : List ScopeId :=
  store.chainWithin (id + 1) id

/-- The value of a name as seen from a scope: that of the nearest scope that binds it. -/
def find? (store : Store) (name : String) (id : ScopeId) : Option Value :=
  (store.chain id).findSome? (store.own? name)

/-- The value of a name, that of a builtin function if no scope binds it. -/
def get? (store : Store) (name : String) (id : ScopeId) : Option Value :=
  match store.find? name id with
  | some value => some value
  | none => (Builtin.ofName? name).map .builtin

end Store

end Polyglot
