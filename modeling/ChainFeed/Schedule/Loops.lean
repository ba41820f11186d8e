import ChainFeed.Schedule.Control

/-!
# The loops of a schedule

A start from rest makes a loop. A loop that is **ready** asks to be let in and then either begins a
run or ends; when its run comes to an end it goes on or ends with the schedule; between runs it
**sleeps** until a time or until it is called off. Loops act one at a time and in any order, so what
can happen to a schedule is the sequences of the **moves** of this module.
-/

namespace ChainFeed.Schedule

/-- What a loop is doing. -/
inductive Doing where
  /-- About to ask for a run. -/
  | ready
  /-- Running the task since `began`, with the end due at `due`. -/
  | working (began due : Nat)
  /-- Sleeping until `due`. -/
  | sleeping (due : Nat)
  deriving DecidableEq, Repr

/-- A loop of a schedule. -/
structure Loop where
  /-- The generation that the loop belongs to. -/
  generation : Nat
  /-- What the loop is doing. -/
  doing : Doing
  deriving DecidableEq, Repr

/-- The control of a schedule with its loops. -/
structure Loops where
  /-- The control. -/
  control : Control
  /-- The loops that have not ended, the oldest first. -/
  loops : List Loop
  deriving DecidableEq, Repr

/-- Something that happens to a schedule. -/
inductive Move where
  /-- The schedule is started. -/
  | start
  /-- The schedule is stopped, or nobody holds it any more. -/
  | stop
  /-- The loop of a generation asks for a run that would last from `began` to `due`. -/
  | ask (generation began due : Nat)
  /-- The run of a generation's loop comes to its end; the loop goes on at once, or first sleeps
  until a time. -/
  | finish (generation : Nat) (wake : Option Nat)
  /-- The loop of a generation wakes up. -/
  | wake (generation : Nat)
  deriving DecidableEq, Repr

namespace Loops

/-- A schedule that was never started. -/
def initial : Loops := ⟨Control.initial, []⟩

/-- What the loop of a generation is doing, if there is one. -/
def doing? (generation : Nat) (s : Loops) : Option Doing :=
  (s.loops.find? (·.generation == generation)).map (·.doing)

/-- The schedule whose loop of a generation is doing something else. -/
def set (generation : Nat) (doing : Doing) (s : Loops) : Loops :=
  { s with
    loops := s.loops.map fun l => if l.generation = generation then { l with doing } else l }

/-- The schedule without the loop of a generation. -/
def drop (generation : Nat) (s : Loops) : Loops :=
  { s with loops := s.loops.filter (·.generation ≠ generation) }

/-- The schedule after a start. -/
def start (s : Loops) : Loops :=
  match s.control.start with
  | (control, some generation) => ⟨control, s.loops ++ [⟨generation, .ready⟩]⟩
  | (control, none) => { s with control }

/-- The schedule after a stop. -/
def stop (s : Loops) : Loops := { s with control := s.control.stop }

/-- The schedule after the loop of a generation asked for a run. -/
def ask (generation began due : Nat) (s : Loops) : Loops :=
  if s.control.admits generation then
    { s with control := s.control.beginRun }.set generation (.working began due)
  else s.drop generation

/-- The schedule after the run of a generation's loop came to its end. -/
def finish (generation : Nat) (wake : Option Nat) (s : Loops) : Loops :=
  let next := { s with control := s.control.endRun }
  if s.control.goesOn then
    next.set generation (match wake with
      | some due => .sleeping due
      | none => .ready)
  else next.drop generation

/-- The schedule after a move. A loop moves only if it is doing what the move presupposes. -/
def step (s : Loops) : Move → Loops
  | .start => s.start
  | .stop => s.stop
  | .ask generation began due =>
    if s.doing? generation = some .ready then s.ask generation began due else s
  | .finish generation wake =>
    match s.doing? generation with
    | some (.working ..) => s.finish generation wake
    | _ => s
  | .wake generation =>
    match s.doing? generation with
    | some (.sleeping _) => s.set generation .ready
    | _ => s

/-- The schedule after a sequence of moves. -/
def run (s : Loops) (moves : List Move) : Loops := moves.foldl step s

end Loops

end ChainFeed.Schedule
