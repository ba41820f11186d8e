import ChainFeed.Schedule.Timeline

/-!
# Planned runs

A **plan** lays down how long each run of a task takes and how it ends; the last entry holds for all
further runs. Planned runs write a log of what happened when.
-/

namespace ChainFeed.Schedule

/-- How a run may end. -/
inductive Ending where
  /-- With success. -/
  | ok
  /-- With an error. -/
  | error
  /-- With a panic. -/
  | panic
  deriving DecidableEq, Repr

/-- One run of a plan. -/
structure PlannedRun where
  /-- How long the run takes, in milliseconds. -/
  duration : Nat
  /-- How the run ends. -/
  ending : Ending
  deriving DecidableEq, Repr

/-- Something that a log tells about a run. -/
inductive Happening where
  /-- The run began. -/
  | began
  /-- The run ended. -/
  | ended (ending : Ending)
  deriving DecidableEq, Repr

/-- A line of a log. -/
structure LogLine where
  /-- What happened. -/
  what : Happening
  /-- The number of the run, beginning with one. -/
  run : Nat
  /-- When it happened. -/
  time : Nat
  deriving DecidableEq, Repr

/-- The runs of a task so far. -/
structure RunLog where
  /-- How many runs began. -/
  runs : Nat
  /-- What happened, the last line first. -/
  lines : List LogLine
  deriving Repr

namespace RunLog

/-- The log of a task that never ran. -/
def empty : RunLog := ⟨0, []⟩

end RunLog

/-- A run that takes no time and succeeds. -/
def PlannedRun.trivial : PlannedRun := ⟨0, .ok⟩

/-- The planned run with a number. -/
def planned (plan : List PlannedRun) (run : Nat) : PlannedRun :=
  (plan[run - 1]?).getD (plan.getLast?.getD PlannedRun.trivial)

/-- The task that follows a plan. -/
def plannedTask (plan : List PlannedRun) : Task RunLog where
  begin now log :=
    let run := log.runs + 1
    ((planned plan run).duration, ⟨run, ⟨.began, run, now⟩ :: log.lines⟩)
  finish now log :=
    { log with lines := ⟨.ended (planned plan log.runs).ending, log.runs, now⟩ :: log.lines }

end ChainFeed.Schedule
