import ChainFeed.Proofs.Schedule.Exclusion

/-!
# Courses of a timeline

A **course** is what happens on a timeline, one event after the other: starts and stops, which may
come at any time, moves of the loops, and time that passes. In virtual time a loop that can move
does so before time passes, and time does not pass beyond the end of a run or of a sleep; a course
that keeps to this is **permitted** (`Timeline.Permits`). In which order the loops move, and whether
a call comes before or behind the moves of its time, is left open.
-/

namespace ChainFeed.Schedule

/-- Something that happens on a timeline. -/
inductive Event where
  /-- The schedule is started. -/
  | start
  /-- The schedule is stopped, or nobody holds it any more. -/
  | stop
  /-- The loop of a generation moves. -/
  | move (generation : Nat)
  /-- Time passes, up to `time`. -/
  | pass (time : Nat)
  deriving DecidableEq, Repr

/-- Whether an event is a start or a stop. -/
def Event.isCall : Event → Bool
  | start | stop => true
  | move _ | pass _ => false

namespace Timeline

variable {ω : Type}

/-- The timeline after an event. -/
def after (interval : Nat) (task : Task ω) (t : Timeline ω) : Event → Timeline ω
  | .start => t.start
  | .stop => t.stop
  | .move generation => t.move interval task generation
  | .pass time => { t with now := time }

/-- The timeline after a course. -/
def along (interval : Nat) (task : Task ω) (t : Timeline ω) (course : List Event) : Timeline ω :=
  course.foldl (after interval task) t

/-- Whether a loop can move now. -/
def canMove (t : Timeline ω) (l : Loop) : Bool :=
  match l.doing with
  | .ready => true
  | .working _ due => due ≤ t.now
  | .sleeping due => due ≤ t.now || t.schedule.control.callsOff l.generation

/-- Whether an event may be the next one: time passes only when no loop can move, and not beyond the
time at which one can. -/
def Allows (t : Timeline ω) : Event → Prop
  | .pass time => t.now ≤ time ∧
      ∀ l ∈ t.schedule.loops, t.canMove l = false ∧ ∀ due ∈ dueOf l, time ≤ due
  | .start | .stop | .move _ => True

/-- Whether every event of a course may be the next one. -/
def Permits (interval : Nat) (task : Task ω) (t : Timeline ω) : List Event → Prop
  | [] => True
  | e :: course => t.Allows e ∧ (t.after interval task e).Permits interval task course

instance (t : Timeline ω) (e : Event) : Decidable (t.Allows e) :=
  match e with
  | .pass time => inferInstanceAs (Decidable (t.now ≤ time ∧
      ∀ l ∈ t.schedule.loops, t.canMove l = false ∧ ∀ due ∈ dueOf l, time ≤ due))
  | .start | .stop | .move _ => inferInstanceAs (Decidable True)

instance decidablePermits (interval : Nat) (task : Task ω) (t : Timeline ω) :
    (course : List Event) → Decidable (t.Permits interval task course)
  | [] => inferInstanceAs (Decidable True)
  | e :: course =>
    have := decidablePermits interval task (t.after interval task e) course
    inferInstanceAs
      (Decidable (t.Allows e ∧ (t.after interval task e).Permits interval task course))

variable {interval : Nat} {task : Task ω} {t : Timeline ω}

theorem along_append (course more : List Event) :
    t.along interval task (course ++ more) =
      (t.along interval task course).along interval task more :=
  List.foldl_append

theorem along_cons (e : Event) (course : List Event) :
    t.along interval task (e :: course) =
      (t.after interval task e).along interval task course := rfl

theorem permits_append {course more : List Event} :
    t.Permits interval task (course ++ more) ↔
      t.Permits interval task course ∧
        (t.along interval task course).Permits interval task more := by
  induction course generalizing t with
  | nil => simp [Permits, along]
  | cons e course ih => rw [List.cons_append, Permits, Permits, ih, and_assoc, along_cons]

/-- Moves are allowed at all times. -/
theorem permits_moves (generations : List Nat) :
    t.Permits interval task (generations.map .move) := by
  induction generations generalizing t with
  | nil => trivial
  | cons g rest ih => exact ⟨trivial, ih⟩

/-! ### The schedule along a course -/

theorem after_reaches (e : Event) : t.schedule.Reaches (t.after interval task e).schedule := by
  cases e with
  | start => exact .step _ .start
  | stop => exact .step _ .stop
  | move g => exact move_reaches interval task g t
  | pass time => exact .refl _

theorem along_reaches (course : List Event) :
    t.schedule.Reaches (t.along interval task course).schedule := by
  induction course generalizing t with
  | nil => exact .refl _
  | cons e course ih => exact (after_reaches e).trans ih

end Timeline

/-- Control and loops stay in step along every course. -/
theorem Loops.InStep.of_reaches {s u : Loops} (h : s.InStep) (hr : s.Reaches u) : u.InStep := by
  obtain ⟨moves, rfl⟩ := hr
  exact h.run moves

end ChainFeed.Schedule
