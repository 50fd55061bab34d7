import Projection.Pattern.Piece

/-! The groups of a regular expression that are open at a place. What stands side by side in a
group, what is repeated and what a group holds is deeper than its parts. -/

set_option autoImplicit false

namespace Projection.Pattern

/-- Items side by side, each with its depth. -/
structure Run where
  others : Option Nat := none
  last : Option (Nat × Bool) := none
  deriving DecidableEq, Repr

namespace Run

def add (run : Run) (depth : Nat) (repeatable : Bool) : Run where
  others :=
    match run.last with
    | none => none
    | some (previous, _) => some (max previous (run.others.getD 0))
  last := some (depth, repeatable)

def repeatLast? (run : Run) : Option Run :=
  match run.last with
  | some (depth, true) => some { run with last := some (depth + 1, true) }
  | _ => none

def depth (run : Run) : Nat :=
  match run.last, run.others with
  | none, _ => 0
  | some (last, _), none => last
  | some (last, _), some others => max last others + 1

end Run

/-- Branches of which one holds, the last as far as it has been read. -/
structure Group where
  branches : Option Nat := none
  run : Run := {}
  deriving DecidableEq, Repr

namespace Group

def add (group : Group) (depth : Nat) : Group := { group with run := group.run.add depth true }

def nextBranch (group : Group) : Group :=
  { branches := some (max group.run.depth (group.branches.getD 0)) }

def depth (group : Group) : Nat :=
  match group.branches with
  | none => group.run.depth
  | some branches => max group.run.depth branches + 1

end Group

structure State where
  flags : Flags := {}
  names : List (List Char) := []
  group : Group := {}
  outer : List (Flags × Group) := []
  deriving DecidableEq, Repr

namespace State

def addIf (state : State) (allowed : Bool) (depth : Nat) : Option State :=
  if allowed then some { state with group := state.group.add depth } else none

def enter (state : State) (change : FlagChange) : State :=
  { state with
    flags := state.flags.change change
    group := {}
    outer := (state.flags, state.group) :: state.outer }

def leave? (state : State) : Option State :=
  match state.outer with
  | [] => none
  | (flags, group) :: outer =>
    some { state with flags, group := group.add (state.group.depth + 1), outer }

/-- Takes in a piece. Characters are not known by their other case, by their categories or as parts
of words, and bytes stand for ASCII alone. -/
def step (state : State) : Piece → Option State
  | .literal _ => state.addIf (!state.flags.needsCases) 0
  | .byte c =>
    state.addIf (if state.flags.unicode then !state.flags.ignoreCase else c.toNat < 128) 0
  | .anyChar => state.addIf state.flags.unicode 0
  | .anchor => state.addIf true 0
  | .wordEdge => state.addIf (!state.flags.unicode) 0
  | .category negated => state.addIf (!state.flags.unicode && !negated) 0
  | .bracket depth => state.addIf true depth
  | .repetition => state.group.run.repeatLast?.map fun run =>
      { state with group := { state.group with run } }
  | .bar => some { state with group := state.group.nextBranch }
  | .opening none change => some (state.enter change)
  | .opening (some name) change =>
    if name ∈ state.names then none
    else some ({ state with names := name :: state.names }.enter change)
  | .closing => state.leave?
  | .setting change =>
    some { state with
      flags := state.flags.change change
      group := { state.group with run := state.group.run.add 0 false } }

def depthLimit : Nat := 250

def isComplete (state : State) : Bool := state.outer.isEmpty && state.group.depth ≤ depthLimit

end State

end Projection.Pattern
