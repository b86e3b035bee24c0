/-
Machines that take octets one by one.  A machine is drafted state by state, and
a draft that takes more room than the limit fails.  Every state takes the same
room; a state with a list of ways on takes more for each of them.
-/

import FlashScript.Text.Pattern

namespace FlashScript

inductive MachineState where
  /-- Leads on without an octet. -/
  | pass (next : Nat)
  /-- Leads on without an octet where the condition holds. -/
  | look (condition : Look) (next : Nat)
  | octet (run : CharSet.Run) (next : Nat)
  | octets (ways : List (CharSet.Run × Nat))
  /-- Leads to several states without an octet. -/
  | fork (ways : Array Nat)
  | found

namespace MachineState

/-- A way on of a state, with the octets that it is for. -/
def octetWayRoom : Nat := 8

def forkWayRoom : Nat := 4

def waysRoom : MachineState → Nat
  | .octets ways => ways.length * octetWayRoom
  | .fork ways => ways.size * forkWayRoom
  | _ => 0

/-- The state with a way to another one: a fork has one more way, and all else
leads there. -/
def leadTo (next : Nat) : MachineState → MachineState
  | .pass _ => .pass next
  | .look condition _ => .look condition next
  | .octet run _ => .octet run next
  | .octets ways => .octets ways
  | .fork ways => .fork (ways.push next)
  | .found => .found

def moreRoom : MachineState → Nat
  | .fork _ => forkWayRoom
  | _ => 0

end MachineState

structure MachineDraft where
  states : Array MachineState
  waysRoom : Nat

namespace MachineDraft

def empty : MachineDraft :=
  { states := #[]
    waysRoom := 0 }

def stateRoom : Nat := 32

def limit : Nat := 10485760

def room (draft : MachineDraft) : Nat :=
  draft.states.size * stateRoom + draft.waysRoom

end MachineDraft

/-- Drafting fails when the draft gets too large. -/
abbrev Drafting := StateT MachineDraft Option

/-- A part of a machine, from its first state to its last. -/
structure MachinePart where
  first : Nat
  last : Nat

namespace Drafting

/-- Where a new state leads until it is linked. -/
def unlinked : Nat := 0

def keep {α : Type} (draft : MachineDraft) (result : α) :
    Option (α × MachineDraft) :=
  if MachineDraft.limit < draft.room then none else some (result, draft)

def add (state : MachineState) : Drafting Nat := fun draft =>
  let room := state.waysRoom
  let grown : MachineDraft :=
    { states := draft.states.push state
      waysRoom := draft.waysRoom + room }
  keep grown (grown.states.size - 1)

def link (number next : Nat) : Drafting Unit := fun draft =>
  let states := draft.states.modify number (MachineState.leadTo next)
  let more := (states[number]?.map MachineState.moreRoom).getD 0
  keep { states := states, waysRoom := draft.waysRoom + more } ()

def addOne (state : MachineState) : Drafting MachinePart := do
  let number ← add state
  return { first := number, last := number }

def addPass : Drafting MachinePart :=
  addOne (.pass unlinked)

def addFork : Drafting Nat :=
  add (.fork #[])

/-- Goes on from a part with another one. -/
def followWith (whole : MachinePart) (part : Drafting MachinePart) :
    Drafting MachinePart := do
  let next ← part
  link whole.last next.first
  return { whole with last := next.last }

def chain : List (Drafting MachinePart) → Drafting MachinePart
  | [] => addPass
  | first :: later => do later.foldlM followWith (← first)

def followTimes (part : Drafting MachinePart) :
    Nat → MachinePart → Drafting MachinePart
  | 0, whole => return whole
  | count + 1, whole => do followTimes part count (← followWith whole part)

def times (part : Drafting MachinePart) : Nat → Drafting MachinePart
  | 0 => addPass
  | count + 1 => do followTimes part count (← part)

/-- A way from a fork through a part. -/
def branch (fork last : Nat) (part : MachinePart) : Drafting Unit := do
  link fork part.first
  link part.last last

def choice : List (Drafting MachinePart) → Drafting MachinePart
  | [] => addPass
  | [only] => only
  | first :: second :: later => do
      let first ← first
      let second ← second
      let fork ← addFork
      let last ← add (.pass unlinked)
      branch fork last first
      branch fork last second
      later.forM (fun part => do branch fork last (← part))
      return { first := fork, last := last }

/-! ### Repetitions -/

def optional (part : Drafting MachinePart) : Drafting MachinePart := do
  let fork ← addFork
  let body ← part
  let last ← add (.pass unlinked)
  link fork body.first
  link fork last
  link body.last last
  return { first := fork, last := last }

/-- A part any number of times.  If it may take no octets, the way back and the
way around it are states of their own. -/
def anyTimes (part : Drafting MachinePart) (consumes : Bool) :
    Drafting MachinePart := do
  if consumes then
    let fork ← addFork
    let body ← part
    link fork body.first
    link body.last fork
    return { first := fork, last := fork }
  else
    let body ← part
    let again ← addFork
    link body.last again
    link again body.first
    let around ← addFork
    let last ← add (.pass unlinked)
    link around body.first
    link around last
    link again last
    return { first := around, last := last }

def onceOrMore (part : Drafting MachinePart) : Drafting MachinePart := do
  let body ← part
  let again ← addFork
  link body.last again
  link again body.first
  return { first := body.first, last := again }

/-- Parts that may each be left out together with all that follow. -/
def optionalTimes (part : Drafting MachinePart) (exit : Nat) :
    Nat → Nat → Drafting Unit
  | 0, last => link last exit
  | count + 1, last => do
      let fork ← addFork
      let body ← part
      link last fork
      link fork body.first
      link fork exit
      optionalTimes part exit count body.last

def timesBetween (part : Drafting MachinePart) (least extra : Nat) :
    Drafting MachinePart := do
  let required ← times part least
  let exit ← add (.pass unlinked)
  optionalTimes part exit extra required.last
  return { first := required.first, last := exit }

def repetition (part : Drafting MachinePart) (consumes : Bool) (least : Nat) :
    Option Nat → Drafting MachinePart
  | none =>
      match least with
      | 0 => anyTimes part consumes
      | 1 => onceOrMore part
      | least + 2 => do
          followWith (← times part (least + 1)) (onceOrMore part)
  | some most =>
      if least = 0 && most = 1 then optional part
      else if most ≤ least then times part least
      else timesBetween part least (most - least)

end Drafting

end FlashScript
