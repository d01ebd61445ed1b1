import Polyglot.Run.Execute

/-! Workspaces: scopes held by hand. A handle is a number given out in order; several handles may
hold the same scope. Through a handle a scope can be enclosed, read, written and run in. -/
namespace Polyglot

structure Workspace where
  /-- The scopes that the handles hold. -/
  handles : Array ScopeId
  machine : Machine

namespace Workspace

def empty : Workspace := ⟨#[], .initial⟩

def nextHandle (workspace : Workspace) : Nat :=
  workspace.handles.size

def scope? (workspace : Workspace) (handle : Nat) : Option ScopeId :=
  workspace.handles[handle]?

def openScope (workspace : Workspace) (outer : Option ScopeId) : Workspace :=
  let (id, store) := workspace.machine.store.openScope outer
  ⟨workspace.handles.push id, { workspace.machine with store }⟩

def new (workspace : Workspace) : Workspace :=
  workspace.openScope none

def enclose (workspace : Workspace) (handle : Nat) : Workspace :=
  match workspace.scope? handle with
  | some outer => workspace.openScope (some outer)
  | none => workspace

/-- The next handle holds the same scope. -/
def clone (workspace : Workspace) (handle : Nat) : Workspace :=
  match workspace.scope? handle with
  | some id => { workspace with handles := workspace.handles.push id }
  | none => workspace

def get? (workspace : Workspace) (handle : Nat) (name : String) : Option Value :=
  (workspace.scope? handle).bind (workspace.machine.store.get? name)

def set (workspace : Workspace) (handle : Nat) (name : String) (value : Value) : Workspace :=
  match workspace.scope? handle with
  | some id =>
    let store := workspace.machine.store.bind id name value
    { workspace with machine := { workspace.machine with store } }
  | none => workspace

/-- Binds the value that a name has in one scope in another one; none if it has no value. -/
def copy? (workspace : Workspace) (handle : Nat) (name : String) (target : Nat) (newName : String) :
    Option Workspace :=
  (workspace.get? handle name).map (workspace.set target newName)

def same (workspace : Workspace) (first second : Nat) : Bool :=
  workspace.scope? first == workspace.scope? second

/-- Whether two names have the same value, or both none. -/
def equal (workspace : Workspace) (first : Nat) (name : String) (second : Nat)
    (otherName : String) : Bool :=
  match workspace.get? first name, workspace.get? second otherName with
  | some a, some b => a.same b
  | none, none => true
  | _, _ => false

def run? (workspace : Workspace) (settings : Settings) (handle : Nat) (text : String) :
    Option (Outcome × List Event × Workspace) :=
  (workspace.scope? handle).map fun id =>
    let execution := execute settings id text workspace.machine
    (execution.outcome, execution.reading ++ execution.running,
      { workspace with machine := execution.machine })

end Workspace

end Polyglot
