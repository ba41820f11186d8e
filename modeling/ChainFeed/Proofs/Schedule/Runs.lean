import ChainFeed.Proofs.Schedule.Settling
import ChainFeed.Schedule.Plan

/-!
# What the log of a plan tells

The timeline of a plan along a permitted course keeps a log that is fixed by when the runs began
(`Front.Logged`): a run that is over ended exactly its duration after it began, with the ending that
the plan lays down, and behind the runs that are over comes the one that is under way, if there is
one. A run **begins** with an event that adds its first line; the runs are numbered without a gap
(`Timeline.exists_begins`).
-/

namespace ChainFeed.Schedule

variable {interval : Nat} {plan : List PlannedRun}

/-- The log of runs that are over, by the times at which they began, the last one first. -/
def RunLog.ended (plan : List PlannedRun) : List Nat → List LogLine
  | [] => []
  | began :: earlier =>
    let run := earlier.length + 1
    ⟨.ended (planned plan run).ending, run, began + (planned plan run).duration⟩ ::
      ⟨.began, run, began⟩ :: ended plan earlier

theorem takesTime_plannedTask (h : ∀ run, 0 < max interval (planned plan run).duration) :
    (plannedTask plan).TakesTime interval :=
  fun _ log => h (log.runs + 1)

namespace Front

variable {v : Front RunLog} {starts : List Nat} {e : Event}

/-! ### The log of a front -/

/-- A front of which runs that began at `starts` are over, and whose log says so. Nothing is overdue
on it, and a run takes as long as is laid down. -/
inductive Logged (plan : List PlannedRun) (starts : List Nat) : Front RunLog → Prop
  /-- At rest. -/
  | rest (g now : Nat) :
      Logged plan starts ⟨g, .rest, now, ⟨starts.length, RunLog.ended plan starts⟩⟩
  /-- About to begin a run. -/
  | ready (g now : Nat) :
      Logged plan starts ⟨g, .ready, now, ⟨starts.length, RunLog.ended plan starts⟩⟩
  /-- Between two runs. -/
  | asleep (g due now : Nat) (timely : now ≤ due) :
      Logged plan starts ⟨g, .asleep due, now, ⟨starts.length, RunLog.ended plan starts⟩⟩
  /-- With one more run under way. -/
  | busy (g began now : Nat) (last : Bool)
      (timely : now ≤ began + (planned plan (starts.length + 1)).duration) :
      Logged plan starts
        ⟨g, .busy began (began + (planned plan (starts.length + 1)).duration) last, now,
          ⟨starts.length + 1, ⟨.began, starts.length + 1, began⟩ :: RunLog.ended plan starts⟩⟩

/-- Time is kept and runs are logged whatever a loop does. -/
theorem Logged.move (h : v.Logged plan starts) :
    ∃ starts', (v.move interval (plannedTask plan)).Logged plan starts' := by
  cases h with
  | rest g now => exact ⟨starts, .rest g now⟩
  | ready g now => exact ⟨starts, .busy g now now false (Nat.le_add_right _ _)⟩
  | asleep g due now htimely =>
    unfold Front.move
    dsimp only
    split
    · exact ⟨starts, .ready g now⟩
    · exact ⟨starts, .asleep g due now htimely⟩
  | busy g began now last htimely =>
    unfold Front.move
    dsimp only
    split
    · rename_i hdue
      -- the run ends just when it is due
      obtain rfl : now = began + (planned plan (starts.length + 1)).duration :=
        Nat.le_antisymm htimely hdue
      cases last with
      | true => exact ⟨began :: starts, .rest g _⟩
      | false =>
        unfold Timeline.wakeTime
        rw [if_neg Bool.false_ne_true]
        split
        · exact ⟨began :: starts, .ready g _⟩
        · rename_i hwake
          exact ⟨began :: starts, .asleep g _ _ (Nat.le_of_not_le hwake)⟩
    · exact ⟨starts, .busy g began now last htimely⟩

variable (interval) in
theorem Logged.after (h : v.Logged plan starts) (ha : v.Allows e) :
    ∃ starts', (v.after interval (plannedTask plan) e).Logged plan starts' := by
  cases e with
  | start =>
    cases h with
    | rest g now => exact ⟨starts, .ready _ now⟩
    | ready g now => exact ⟨starts, .ready g now⟩
    | asleep g due now htimely => exact ⟨starts, .asleep g due now htimely⟩
    | busy g began now last htimely => exact ⟨starts, .busy g began now false htimely⟩
  | stop =>
    cases h with
    | rest g now => exact ⟨starts, .rest g now⟩
    | ready g now => exact ⟨starts, .rest g now⟩
    | asleep g due now htimely => exact ⟨starts, .rest g now⟩
    | busy g began now last htimely => exact ⟨starts, .busy g began now true htimely⟩
  | move g =>
    unfold Front.after
    dsimp only
    split
    · exact h.move
    · exact ⟨starts, h⟩
  | pass time =>
    obtain ⟨-, hready, hdue⟩ := ha
    cases h with
    | rest g now => exact ⟨starts, .rest g time⟩
    | ready g now => exact absurd rfl hready
    | asleep g due now htimely => exact ⟨starts, .asleep g due time (hdue due rfl).2⟩
    | busy g began now last htimely => exact ⟨starts, .busy g began time last (hdue _ rfl).2⟩

/-- **The log is fixed by when the runs began**, along every permitted course. -/
theorem Logged.along (h : v.Logged plan starts) {course : List Event}
    (hp : v.Permits interval (plannedTask plan) course) :
    ∃ starts', (v.along interval (plannedTask plan) course).Logged plan starts' := by
  induction course generalizing v starts with
  | nil => exact ⟨starts, h⟩
  | cons e course ih =>
    obtain ⟨starts', h'⟩ := h.after interval hp.1
    exact ih h' hp.2

/-! ### The first line of a run -/

variable (interval plan) in
/-- The log is longer by the first line of a run, or the number of runs is what it was. -/
theorem world_after (v : Front RunLog) (e : Event) :
    let u := v.after interval (plannedTask plan) e
    (u.world.runs = v.world.runs ∧
      ∀ run time, u.world.lines ≠ ⟨.began, run, time⟩ :: v.world.lines) ∨
    (v.stand = .ready ∧
      u = { v with
        stand := .busy v.now (v.now + (planned plan (v.world.runs + 1)).duration) false
        world := ⟨v.world.runs + 1, ⟨.began, v.world.runs + 1, v.now⟩ :: v.world.lines⟩ }) := by
  have hsame (run time : Nat) : v.world.lines ≠ ⟨.began, run, time⟩ :: v.world.lines :=
    (List.cons_ne_self _ _).symm
  cases e with
  | start => exact .inl ⟨rfl, hsame⟩
  | stop => exact .inl ⟨rfl, hsame⟩
  | pass time => exact .inl ⟨rfl, hsame⟩
  | move g =>
    intro u
    have hu : u = if g = v.generation then v.move interval (plannedTask plan) else v := rfl
    split at hu
    · unfold Front.move at hu
      split at hu
      · exact .inl ⟨by rw [hu], by rw [hu]; exact hsame⟩
      · rename_i hready
        exact .inr ⟨hready, hu⟩
      · split at hu
        · exact .inl ⟨by rw [hu], by rw [hu]; exact hsame⟩
        · exact .inl ⟨by rw [hu], by rw [hu]; exact hsame⟩
      · split at hu
        · -- the new line tells of an end
          refine .inl ⟨by rw [hu]; rfl, fun run time heq => ?_⟩
          rw [hu] at heq
          cases heq
        · exact .inl ⟨by rw [hu], by rw [hu]; exact hsame⟩
    · exact .inl ⟨by rw [hu], by rw [hu]; exact hsame⟩

end Front

namespace Timeline

variable {course more : List Event} {run : Nat}

/-! ### The timeline of a plan -/

/-- The timeline of a plan along a course. -/
def ofPlan (interval : Nat) (plan : List PlannedRun) (course : List Event) : Timeline RunLog :=
  (Timeline.begin RunLog.empty).along interval (plannedTask plan) course

/-- Whether a course is permitted from the beginning. -/
def Possible (interval : Nat) (plan : List PlannedRun) (course : List Event) : Prop :=
  (Timeline.begin RunLog.empty).Permits interval (plannedTask plan) course

instance (interval : Nat) (plan : List PlannedRun) (course : List Event) :
    Decidable (Possible interval plan course) :=
  decidablePermits interval (plannedTask plan) _ course

/-- Whether a run begins with the last event of a course, so that its first line is added. -/
def Begins (interval : Nat) (plan : List PlannedRun) (course : List Event) (run : Nat) : Prop :=
  ∃ before e, course = before ++ [e] ∧ (ofPlan interval plan course).world.lines =
    ⟨.began, run, (ofPlan interval plan course).now⟩ :: (ofPlan interval plan before).world.lines

theorem inStep_ofPlan (course : List Event) : (ofPlan interval plan course).schedule.InStep :=
  Loops.InStep.initial.of_reaches (along_reaches course)

theorem front_ofPlan_append (course more : List Event) :
    (ofPlan interval plan (course ++ more)).front =
      (ofPlan interval plan course).front.along interval (plannedTask plan) more := by
  rw [ofPlan, along_append]
  exact front_along _ _ (inStep_ofPlan course) more

variable (interval plan) in
theorem front_ofPlan_concat (course : List Event) (e : Event) :
    (ofPlan interval plan (course ++ [e])).front =
      (ofPlan interval plan course).front.after interval (plannedTask plan) e :=
  front_ofPlan_append course [e]

theorem possible_append : Possible interval plan (course ++ more) ↔ Possible interval plan course ∧
    (ofPlan interval plan course).Permits interval (plannedTask plan) more :=
  permits_append

theorem Possible.permits_front (h : Possible interval plan (course ++ more)) :
    (ofPlan interval plan course).front.Permits interval (plannedTask plan) more :=
  (possible_append.mp h).2.front (inStep_ofPlan course)

theorem Possible.logged (h : Possible interval plan course) :
    ∃ starts, (ofPlan interval plan course).front.Logged plan starts := by
  have hbegin : (ofPlan interval plan []).front.Logged plan [] := .rest 0 0
  have hpermits : (ofPlan interval plan []).front.Permits interval (plannedTask plan) course :=
    Possible.permits_front h
  have hlogged := hbegin.along hpermits
  rwa [← front_ofPlan_append] at hlogged

/-! ### Where runs begin -/

theorem begins_concat {e : Event} : Begins interval plan (course ++ [e]) run ↔
    (ofPlan interval plan (course ++ [e])).world.lines =
      ⟨.began, run, (ofPlan interval plan (course ++ [e])).now⟩ ::
        (ofPlan interval plan course).world.lines := by
  refine ⟨?_, fun h => ⟨course, e, rfl, h⟩⟩
  rintro ⟨before, e', heq, h⟩
  obtain ⟨rfl, -⟩ := List.append_inj' heq rfl
  exact h

variable (interval plan) in
/-- The front when a run has just begun. -/
theorem begins_or_not (course : List Event) (e : Event) :
    ((ofPlan interval plan (course ++ [e])).world.runs = (ofPlan interval plan course).world.runs ∧
      ∀ run, ¬Begins interval plan (course ++ [e]) run) ∨
    Begins interval plan (course ++ [e]) ((ofPlan interval plan course).world.runs + 1) ∧
      ∃ g lines, (ofPlan interval plan (course ++ [e])).front =
        let now := (ofPlan interval plan (course ++ [e])).now
        let run := (ofPlan interval plan course).world.runs + 1
        ⟨g, .busy now (now + (planned plan run).duration) false, now, ⟨run, lines⟩⟩ := by
  have hfront := front_ofPlan_concat interval plan course e
  rcases Front.world_after interval plan
    (ofPlan interval plan course).front e with ⟨hruns, hlines⟩ | ⟨-, hbegins⟩
  · rw [← hfront] at hruns hlines
    exact .inl ⟨hruns, fun run h => hlines run _ (begins_concat.mp h)⟩
  · have hafter := hfront.trans hbegins
    have hnow : (ofPlan interval plan (course ++ [e])).now = (ofPlan interval plan course).now :=
      congrArg Front.now hafter
    have hlines : (ofPlan interval plan (course ++ [e])).world.lines =
        ⟨.began, (ofPlan interval plan course).world.runs + 1, (ofPlan interval plan course).now⟩ ::
          (ofPlan interval plan course).world.lines :=
      congrArg (fun v => v.world.lines) hafter
    rw [hnow]
    exact .inr ⟨begins_concat.mpr (hnow ▸ hlines), _, _, hafter⟩

variable (interval plan) in
/-- An event begins the next run, or none. -/
theorem runs_concat (course : List Event) (e : Event) :
    ((ofPlan interval plan (course ++ [e])).world.runs = (ofPlan interval plan course).world.runs ∧
      ∀ run, ¬Begins interval plan (course ++ [e]) run) ∨
    (ofPlan interval plan (course ++ [e])).world.runs =
        (ofPlan interval plan course).world.runs + 1 ∧
      Begins interval plan (course ++ [e]) ((ofPlan interval plan course).world.runs + 1) := by
  refine (begins_or_not _ _ course e).imp_right fun ⟨hbegins, g, lines, hfront⟩ => ⟨?_, hbegins⟩
  exact congrArg (fun v => v.world.runs) hfront

variable (interval plan) in
theorem runs_le_append (course more : List Event) :
    (ofPlan interval plan course).world.runs ≤
      (ofPlan interval plan (course ++ more)).world.runs := by
  induction more using List.reverseRecOn with
  | nil => rw [List.append_nil]
  | append_singleton more e ih =>
    rw [← List.append_assoc]
    rcases runs_concat interval plan (course ++ more) e with
      ⟨hruns, -⟩ | ⟨hruns, -⟩ <;> omega

/-- Runs are numbered one after the other. -/
theorem runs_of_begins {e : Event} (h : Begins interval plan (course ++ [e]) run) :
    (ofPlan interval plan course).world.runs + 1 = run ∧
      (ofPlan interval plan (course ++ [e])).world.runs = run := by
  rcases runs_concat interval plan course e with
    ⟨-, hnone⟩ | ⟨hruns, hbegins⟩
  · exact absurd h (hnone run)
  · have hlines := (begins_concat.mp h).symm.trans (begins_concat.mp hbegins)
    obtain rfl : run = (ofPlan interval plan course).world.runs + 1 :=
      congrArg LogLine.run (List.cons.inj hlines).1
    exact ⟨rfl, hruns⟩

theorem Begins.runs_eq (h : Begins interval plan course run) :
    (ofPlan interval plan course).world.runs = run := by
  obtain ⟨before, e, rfl, -⟩ := id h
  exact (runs_of_begins h).2

theorem runs_lt_of_begins (h : Begins interval plan (course ++ more) run) (hmore : more ≠ []) :
    (ofPlan interval plan course).world.runs < run := by
  obtain ⟨more, e, rfl⟩ := (List.eq_nil_or_concat more).resolve_left hmore
  rw [List.concat_eq_append, ← List.append_assoc] at h
  have hlast := (runs_of_begins h).1
  have hle := runs_le_append interval plan course more
  omega

/-- No run begins twice. -/
theorem Begins.once (h : Begins interval plan course run)
    (hagain : Begins interval plan (course ++ more) run) : more = [] := by
  by_contra hmore
  exact (runs_lt_of_begins hagain hmore).ne h.runs_eq

/-- A loop is busy with a run that has just begun. -/
theorem front_of_begins (h : Begins interval plan course run) :
    ∃ g lines, (ofPlan interval plan course).front =
      let now := (ofPlan interval plan course).now
      ⟨g, .busy now (now + (planned plan run).duration) false, now, ⟨run, lines⟩⟩ := by
  obtain ⟨before, e, rfl, -⟩ := id h
  rcases begins_or_not interval plan before e with
    ⟨-, hnone⟩ | ⟨-, hfront⟩
  · exact absurd h (hnone run)
  · rwa [(runs_of_begins h).1] at hfront

/-- **Every run that has a number began.** -/
theorem exists_begins (hpos : 0 < run) (hrun : run ≤ (ofPlan interval plan course).world.runs) :
    ∃ earlier later, course = earlier ++ later ∧ Begins interval plan earlier run := by
  induction course using List.reverseRecOn with
  | nil => exact absurd hpos (Nat.not_lt_of_le hrun)
  | append_singleton course e ih =>
    rcases runs_concat interval plan course e with
      ⟨hruns, -⟩ | ⟨hruns, hbegins⟩
    · obtain ⟨earlier, later, rfl, hbegins⟩ := ih (hruns ▸ hrun)
      exact ⟨earlier, later ++ [e], List.append_assoc _ _ _, hbegins⟩
    · rcases Nat.lt_or_ge (ofPlan interval plan course).world.runs run with hlt | hge
      · obtain rfl : run = (ofPlan interval plan course).world.runs + 1 := by omega
        exact ⟨course ++ [e], [], (List.append_nil _).symm, hbegins⟩
      · obtain ⟨earlier, later, rfl, hearlier⟩ := ih hge
        exact ⟨earlier, later ++ [e], List.append_assoc _ _ _, hearlier⟩

end Timeline

end ChainFeed.Schedule
