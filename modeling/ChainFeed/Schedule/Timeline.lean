import ChainFeed.Schedule.Loops

/-!
# Schedules in time

On a **timeline** every loop moves as soon as it can: a loop that is ready asks at once, a run takes
as long as its task says, and a sleep ends when it is due or called off. The time between two moves
passes at once. After a run, the next one begins an interval after that run began, or immediately if
the run took longer, so runs that were missed never pile up.

What the task does is up to its **world**, which it changes when a run begins and when it ends.
-/

namespace ChainFeed.Schedule

/-- A task that works on a world. -/
structure Task (ω : Type) where
  /-- How long a run takes that begins at a time, and the world when it has begun. -/
  begin : Nat → ω → Nat × ω
  /-- The world when a run ends at a time. -/
  finish : Nat → ω → ω

/-- A schedule of a task, at a time. -/
structure Timeline (ω : Type) where
  /-- The time in milliseconds. -/
  now : Nat
  /-- The schedule. -/
  schedule : Loops
  /-- The world that the task works on. -/
  world : ω

namespace Timeline

variable {ω : Type}

/-- A timeline that begins with a world. -/
def begin (world : ω) : Timeline ω := ⟨0, Loops.initial, world⟩

/-- The phase of the schedule. -/
def phase (t : Timeline ω) : Phase := t.schedule.control.phase

/-- The timeline after a start. -/
def start (t : Timeline ω) : Timeline ω := { t with schedule := t.schedule.step .start }

/-- The timeline after a stop. -/
def stop (t : Timeline ω) : Timeline ω := { t with schedule := t.schedule.step .stop }

/-- The timeline after a change of the world. -/
def change (f : ω → ω) (t : Timeline ω) : Timeline ω := { t with world := f t.world }

/-! ### Moves at one time -/

/-- When a loop wakes up whose run began at `began` and is over: after the rest of the interval, if
there is any. -/
def wakeTime (interval began now : Nat) : Option Nat :=
  if began + interval ≤ now then none else some (began + interval)

/-- The timeline after the move that the loop of a generation can make now, if it can make one. -/
def move (interval : Nat) (task : Task ω) (generation : Nat) (t : Timeline ω) : Timeline ω :=
  match t.schedule.doing? generation with
  | none => t
  | some .ready =>
    if t.schedule.control.admits generation then
      let (duration, world) := task.begin t.now t.world
      ⟨t.now, t.schedule.step (.ask generation t.now (t.now + duration)), world⟩
    else { t with schedule := t.schedule.step (.ask generation t.now t.now) }
  | some (.working began due) =>
    if due ≤ t.now then
      ⟨t.now, t.schedule.step (.finish generation (wakeTime interval began t.now)),
        task.finish t.now t.world⟩
    else t
  | some (.sleeping due) =>
    if due ≤ t.now ∨ t.schedule.control.callsOff generation then
      { t with schedule := t.schedule.step (.wake generation) }
    else t

/-- The timeline after all moves that the loop of a generation can make now: the end of a run or of
a sleep, the next run, and its end if it takes no time. -/
def moves (interval : Nat) (task : Task ω) (t : Timeline ω) (generation : Nat) : Timeline ω :=
  (((t.move interval task generation).move interval task generation).move interval task generation)

/-- The timeline after all moves that can be made now. -/
def settle (interval : Nat) (task : Task ω) (t : Timeline ω) : Timeline ω :=
  (t.schedule.loops.map (·.generation)).foldl (moves interval task) t

theorem now_move (interval : Nat) (task : Task ω) (generation : Nat) (t : Timeline ω) :
    (t.move interval task generation).now = t.now := by
  unfold move
  repeat' split
  all_goals rfl

theorem now_moves (interval : Nat) (task : Task ω) (t : Timeline ω) (generation : Nat) :
    (t.moves interval task generation).now = t.now := by
  simp only [moves, now_move]

theorem now_settle (interval : Nat) (task : Task ω) (t : Timeline ω) :
    (t.settle interval task).now = t.now := by
  have h (generations : List Nat) (t : Timeline ω) :
      (generations.foldl (moves interval task) t).now = t.now := by
    induction generations generalizing t with
    | nil => rfl
    | cons g rest ih => rw [List.foldl_cons, ih, now_moves]
  exact h _ t

/-! ### Time passing -/

/-- When the loop has something to do. -/
def dueOf (l : Loop) : Option Nat :=
  match l.doing with
  | .ready => none
  | .working _ due => some due
  | .sleeping due => some due

/-- When the next loop has something to do. -/
def nextDue? (t : Timeline ω) : Option Nat :=
  (t.schedule.loops.filterMap dueOf).min?

/-- The timeline at the time `limit`, before the moves that can be made only then, or at the first
earlier time at which the phase is one that is `awaited`. -/
def advance (interval : Nat) (task : Task ω) (awaited : Phase → Bool) (limit : Nat)
    (t : Timeline ω) : Timeline ω :=
  let settled := t.settle interval task
  if awaited settled.phase then settled
  else
    match settled.nextDue? with
    | some due =>
      if _h : t.now < due ∧ due < limit then
        advance interval task awaited limit { settled with now := due }
      else { settled with now := max t.now limit }
    | none => { settled with now := max t.now limit }
termination_by limit - t.now
decreasing_by omega

/-- The timeline after a number of milliseconds. -/
def sleep (interval : Nat) (task : Task ω) (ms : Nat) (t : Timeline ω) : Timeline ω :=
  t.advance interval task (fun _ => false) (t.now + ms)

/-- The timeline when the schedule is at rest, or after a number of milliseconds if it does not come
to rest before. -/
def awaitRest (interval : Nat) (task : Task ω) (ms : Nat) (t : Timeline ω) : Timeline ω :=
  if t.phase = .idle then t else t.advance interval task (· == .idle) (t.now + ms)

end Timeline

end ChainFeed.Schedule
