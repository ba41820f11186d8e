/-!
# The control of a schedule

A schedule runs one task again and again, without overlap. Its **control** says in which **phase**
it is and which **loop** may run the task: every start from rest makes a new **generation**, and
only the loop of the current generation is let in. A stop lets a run that is under way come to its
end, and a start before that end takes the stop back.
-/

namespace ChainFeed.Schedule

/-- The phases of a schedule. -/
inductive Phase where
  /-- Nothing is going to run. -/
  | idle
  /-- The next run is to come. -/
  | scheduled
  /-- A run is under way. -/
  | running
  /-- A run is under way and none follows. -/
  | stopping
  deriving DecidableEq, Repr

/-- The name of a phase. -/
def Phase.name : Phase → String
  | idle => "Idle"
  | scheduled => "Scheduled"
  | running => "Running"
  | stopping => "Stopping"

/-- The control of a schedule. -/
structure Control where
  /-- The phase that the schedule is in. -/
  phase : Phase
  /-- The generation of the loop that may run the task. -/
  generation : Nat
  deriving DecidableEq, Repr

namespace Control

/-- The control of a schedule that was never started. -/
def initial : Control := ⟨.idle, 0⟩

/-- Whether the schedule is not at rest. -/
def isActive (control : Control) : Bool := control.phase ≠ .idle

/-- The control after a start, and the generation of the loop that the start calls for, if it calls
for one. -/
def start (control : Control) : Control × Option Nat :=
  match control.phase with
  | .idle => (⟨.scheduled, control.generation + 1⟩, some (control.generation + 1))
  | .stopping => ({ control with phase := .running }, none)
  | .scheduled | .running => (control, none)

/-- The control after a stop. -/
def stop (control : Control) : Control :=
  match control.phase with
  | .scheduled => { control with phase := .idle }
  | .running => { control with phase := .stopping }
  | .idle | .stopping => control

/-- Whether the loop of a generation may begin a run. -/
def admits (generation : Nat) (control : Control) : Bool :=
  control.generation == generation && control.phase == .scheduled

/-- The control after a run began. -/
def beginRun (control : Control) : Control := { control with phase := .running }

/-- The control after a run came to its end, however it ended. -/
def endRun (control : Control) : Control :=
  match control.phase with
  | .running => { control with phase := .scheduled }
  | .stopping => { control with phase := .idle }
  | .idle | .scheduled => control

/-- Whether the loop that ran the task goes on when its run comes to its end. -/
def goesOn (control : Control) : Bool := control.phase == .running

/-- Whether the loop of a generation is called off while it sleeps. -/
def callsOff (generation : Nat) (control : Control) : Bool :=
  control.generation != generation || control.phase == .idle

end Control

end ChainFeed.Schedule
