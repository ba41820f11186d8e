import ChainFeed.Proofs.Schedule.Runs

/-!
# How a schedule stops

A stop never touches a run that is under way: the run comes to its end when it is due, and only then
the schedule is at rest (`Front.WindsUp`). A stop at any other time brings it to rest at once. No
run begins afterwards unless the schedule is started again. Whoever waits for rest, without calls
meanwhile, gets it at the end of that run, or at once, or never while runs are to follow
(`Timeline.stops_cooperatively`).
-/

namespace ChainFeed.Schedule

variable {interval : Nat} {plan : List PlannedRun}

/-- Whether a log tells of a run that is under way, and when it began. -/
def RunLog.UnderWay (run began : Nat) (log : RunLog) : Prop :=
  ∃ earlier, log.lines = ⟨.began, run, began⟩ :: earlier

/-- The log behind the end of its last run. -/
def RunLog.close (plan : List PlannedRun) (done : Nat) (log : RunLog) : RunLog :=
  (plannedTask plan).finish done log

theorem RunLog.close_lines (done : Nat) (log : RunLog) : (log.close plan done).lines =
    ⟨.ended (planned plan log.runs).ending, log.runs, done⟩ :: log.lines := rfl

namespace Front

variable {v : Front RunLog} {e : Event} {began done : Nat} {last : Bool} {log : RunLog}

/-- A front on which the run that was under way, with the log as it was then, is the last one. -/
inductive WindsUp (plan : List PlannedRun) (began done : Nat) (log : RunLog) : Front RunLog → Prop
  /-- The run is still under way. -/
  | underWay (g now : Nat) (timely : now ≤ done) :
      WindsUp plan began done log ⟨g, .busy began done true, now, log⟩
  /-- The run ended when it was due. -/
  | ended (g now : Nat) (late : done ≤ now) :
      WindsUp plan began done log ⟨g, .rest, now, log.close plan done⟩

theorem WindsUp.after (h : v.WindsUp plan began done log) (ha : v.Allows e) (he : e ≠ .start) :
    (v.after interval (plannedTask plan) e).WindsUp plan began done log := by
  cases e with
  | start => exact absurd rfl he
  | stop =>
    cases h with
    | underWay g now htimely => exact .underWay g now htimely
    | ended g now hlate => exact .ended g now hlate
  | move k =>
    cases h with
    | underWay g now htimely =>
      dsimp only [Front.after, Front.move]
      split
      · split
        · rename_i hdue
          obtain rfl : now = done := Nat.le_antisymm htimely hdue
          exact .ended g now hdue
        · exact .underWay g now htimely
      · exact .underWay g now htimely
    | ended g now hlate =>
      dsimp only [Front.after, Front.move]
      split <;> exact .ended g now hlate
  | pass time =>
    obtain ⟨hnow, -, hdue⟩ := ha
    cases h with
    | underWay g now htimely => exact .underWay g time (hdue done rfl).2
    | ended g now hlate => exact .ended g time (hlate.trans hnow)

/-- A last run winds up whatever happens but a start. -/
theorem WindsUp.along (h : v.WindsUp plan began done log) {course : List Event}
    (hp : v.Permits interval (plannedTask plan) course) (hstart : .start ∉ course) :
    (v.along interval (plannedTask plan) course).WindsUp plan began done log := by
  induction course generalizing v with
  | nil => exact h
  | cons e course ih =>
    obtain ⟨he, hrest⟩ := not_or.mp (mt List.mem_cons.mpr hstart)
    exact ih (h.after hp.1 (Ne.symm he)) hp.2 hrest

variable {ω : Type} {task : Task ω} {w : Front ω}

variable (interval task) in
theorem along_rest (h : w.stand = .rest) {course : List Event} (hstart : .start ∉ course) :
    (w.along interval task course).stand = .rest ∧
      (w.along interval task course).world = w.world := by
  induction course generalizing w with
  | nil => exact ⟨h, rfl⟩
  | cons e course ih =>
    obtain ⟨he, hrest⟩ := not_or.mp (mt List.mem_cons.mpr hstart)
    obtain ⟨hstand, hworld⟩ := after_rest interval task h (Ne.symm he)
    obtain ⟨hlast, hsame⟩ := ih hstand hrest
    exact ⟨hlast, hsame.trans hworld⟩

theorem goesOn_along (h : w.stand.goesOn) {course : List Event} (hstop : .stop ∉ course) :
    (w.along interval task course).stand.goesOn := by
  induction course generalizing w with
  | nil => exact h
  | cons e course ih =>
    obtain ⟨he, hrest⟩ := not_or.mp (mt List.mem_cons.mpr hstop)
    exact ih (goesOn_after h (Ne.symm he)) hrest

variable (interval plan) in
/-- Nothing is ever taken out of a log. -/
theorem lines_suffix_move (v : Front RunLog) :
    v.world.lines <:+ (v.move interval (plannedTask plan)).world.lines := by
  unfold Front.move
  split
  · exact List.suffix_refl _
  · exact List.suffix_cons _ _
  · split <;> exact List.suffix_refl _
  · split
    · exact List.suffix_cons _ _
    · exact List.suffix_refl _

variable (interval plan) in
theorem lines_suffix_along (v : Front RunLog) (course : List Event) :
    v.world.lines <:+ (v.along interval (plannedTask plan) course).world.lines := by
  induction course generalizing v with
  | nil => exact List.suffix_refl _
  | cons e course ih =>
    refine List.IsSuffix.trans ?_ (ih (v.after interval (plannedTask plan) e))
    cases e with
    | start => exact List.suffix_refl _
    | stop => exact List.suffix_refl _
    | pass time => exact List.suffix_refl _
    | move g =>
      dsimp only [Front.after]
      split
      · exact lines_suffix_move _ _ v
      · exact List.suffix_refl _

variable (interval plan) in
/-- A run that is due ends with the next move. -/
theorem move_of_due (h : v.stand = .busy began v.now last) :
    v.move interval (plannedTask plan) = { v with
      stand := if last then .rest else .goOn (Timeline.wakeTime interval began v.now)
      world := v.world.close plan v.now } := by
  rw [move, h]
  exact if_pos (Nat.le_refl _)

end Front

namespace Timeline

variable {t : Timeline RunLog} {course before since : List Event} {began due limit : Nat}
  {last : Bool}

/-! ### The end of a run -/

theorem lines_settle_suffix (hs : t.schedule.InStep) (awaited : Phase → Bool) (limit : Nat) :
    (t.settle interval (plannedTask plan)).world.lines <:+
      (t.advance interval (plannedTask plan) awaited limit).world.lines := by
  obtain ⟨more, -, heq, -⟩ := elapses_of_settle interval (plannedTask plan) awaited limit hs
  have hsettled : (t.settle interval (plannedTask plan)).schedule.InStep := inStep_settle hs
  have hfront := front_along interval (plannedTask plan) hsettled more
  have hlines := Front.lines_suffix_along interval plan (t.settle interval (plannedTask plan)).front
    more
  rw [← hfront, ← heq] at hlines
  exact hlines

/-- A run that is due ends before time passes. -/
theorem close_settle_suffix (hs : t.schedule.InStep) (h : t.front.stand = .busy began t.now last) :
    (t.world.close plan t.now).lines <:+
      (t.settle interval (plannedTask plan)).world.lines := by
  have hfront := front_settle interval (plannedTask plan) hs
  have hmove := Front.move_of_due interval plan h
  have hlines := (Front.lines_suffix_move interval plan
    (t.front.move interval (plannedTask plan))).trans (Front.lines_suffix_move interval plan _)
  rw [← hfront, hmove] at hlines
  exact hlines

variable (interval plan) in
/-- **A run that is under way is carried to its end.** -/
theorem close_sleep_suffix {ms : Nat} (hs : t.schedule.InStep)
    (h : t.front.stand = .busy began due last) (htimely : t.now ≤ due)
    (hms : due < t.now + ms) : (t.world.close plan due).lines <:+
      (t.sleep interval (plannedTask plan) ms).world.lines := by
  rcases htimely.eq_or_lt with rfl | hlater
  · exact (close_settle_suffix hs h).trans (lines_settle_suffix hs _ _)
  · obtain ⟨u, hu, hfront, hadvance⟩ := advance_to_due interval (plannedTask plan) hs h hlater
    have hnow : u.now = due := congrArg Front.now hfront
    have hworld : u.world = t.world := congrArg Front.world hfront
    have hstand : u.front.stand = .busy began u.now last := by
      rw [hfront, hnow]
      exact h
    rw [sleep, hadvance _ _ rfl hms, ← hworld, ← hnow]
    exact (close_settle_suffix hu hstand).trans (lines_settle_suffix hu _ _)

theorem inStep_awaitRest {ω : Type} (interval : Nat) (task : Task ω) {t : Timeline ω} (ms : Nat)
    (hs : t.schedule.InStep) : (t.awaitRest interval task ms).schedule.InStep := by
  unfold awaitRest
  split
  · exact hs
  · exact hs.of_reaches (advance_reaches interval task _ _ t)

/-- A last run that is due leaves the schedule at rest before time passes. -/
theorem advance_of_last (hs : t.schedule.InStep) (h : t.front.stand = .busy began t.now true)
    (limit : Nat) :
    (t.advance interval (plannedTask plan) (· == .idle) limit).front =
      ⟨t.front.generation, .rest, t.now, t.world.close plan t.now⟩ := by
  have hfront : (t.settle interval (plannedTask plan)).front =
      ⟨t.front.generation, .rest, t.now, t.world.close plan t.now⟩ := by
    rw [front_settle _ _ hs, Front.move_of_due _ _ h]
    rfl
  have hphase : (t.settle interval (plannedTask plan)).phase = .idle := by
    rw [← phase_front (inStep_settle hs), hfront]
    rfl
  rw [advance, hphase]
  exact hfront

variable (interval plan) in
/-- **Rest comes exactly when the last run ends**, for one who waits long enough. -/
theorem front_awaitRest_of_last {ms : Nat} (hs : t.schedule.InStep)
    (h : t.front.stand = .busy began due true) (htimely : t.now ≤ due) (hms : due < t.now + ms) :
    (t.awaitRest interval (plannedTask plan) ms).front =
      ⟨t.front.generation, .rest, due, t.world.close plan due⟩ := by
  have hphase : t.phase = .stopping := by
    rw [← phase_front hs, h]
    rfl
  rw [awaitRest, if_neg (by simp [hphase])]
  rcases htimely.eq_or_lt with rfl | hlater
  · exact advance_of_last hs h _
  · obtain ⟨u, hu, hfront, hadvance⟩ := advance_to_due interval (plannedTask plan) hs h hlater
    have hnow : u.now = due := congrArg Front.now hfront
    have hstand : u.front.stand = .busy began u.now true := by
      rw [hfront, hnow]
      exact h
    have hworld : u.world = t.world := congrArg Front.world hfront
    rw [hadvance _ _ (by rw [hphase]; rfl) hms, advance_of_last hu hstand, hfront, hnow, hworld]

variable (interval plan) in
/-- Rest does not come before the last run ends. -/
theorem front_awaitRest_before {ms : Nat} (hs : t.schedule.InStep)
    (h : t.front.stand = .busy began due true) (hms : t.now + ms < due) :
    (t.awaitRest interval (plannedTask plan) ms).front = { t.front with now := t.now + ms } := by
  have hphase : t.phase = .stopping := by
    rw [← phase_front hs, h]
    rfl
  rw [awaitRest, if_neg (by simp [hphase])]
  exact front_advance_before_due hs h (Nat.le_add_right _ _) hms (by rw [hphase]; rfl)

/-- Rest does not come while runs are to follow. -/
theorem awaitRest_of_goesOn (hs : t.schedule.InStep) (h : t.front.stand.goesOn) (ms : Nat) :
    (t.awaitRest interval (plannedTask plan) ms).phase ≠ .idle ∧
      (t.awaitRest interval (plannedTask plan) ms).now = t.now + ms := by
  have hactive {u : Timeline RunLog} (hu : u.schedule.InStep) (hgo : u.front.stand.goesOn) :
      u.phase ≠ .idle := by
    have hphase := Stand.goesOn_iff.mp hgo
    rw [phase_front hu] at hphase
    rintro hidle
    simp [hidle] at hphase
  have hlimit : t.awaitRest interval (plannedTask plan) ms =
      t.advance interval (plannedTask plan) (· == .idle) (t.now + ms) := if_neg (hactive hs h)
  obtain ⟨course, hcalls, heq, -⟩ := elapses_advance interval (plannedTask plan) (· == .idle)
    (t.now + ms) hs
  have hidle : (t.advance interval (plannedTask plan) (· == .idle) (t.now + ms)).phase ≠ .idle := by
    rw [heq]
    refine hactive (hs.of_reaches (along_reaches course)) ?_
    rw [front_along _ _ hs]
    refine Front.goesOn_along h fun hstop => ?_
    exact Bool.noConfusion (hcalls _ hstop)
  have hnow := (now_advance interval (plannedTask plan) (· == .idle)
    (t.now + ms) t).resolve_left (by simpa using hidle)
  rw [hlimit]
  exact ⟨hidle, hnow.trans (by omega)⟩

/-! ### Every stop is cooperative and exact -/

/-- How runs end and how the schedule comes to rest, as a course tells. -/
structure Cooperative (interval : Nat) (plan : List PlannedRun) (course : List Event) : Prop where
  /-- Every run that began is over and ended its duration after it began, but for the one that is
  under way. -/
  carried : ∃ starts, let t := ofPlan interval plan course
    (t.phase.isBusy = false ∧ t.world.lines = RunLog.ended plan starts) ∨
    (t.phase.isBusy = true ∧ ∃ began, t.world.lines =
      ⟨.began, starts.length + 1, began⟩ :: RunLog.ended plan starts)
  /-- The run under way is not overdue, and ends its duration after it began as time passes. -/
  ends : ∀ run began, (ofPlan interval plan course).world.UnderWay run began →
    let t := ofPlan interval plan course
    let due := began + (planned plan run).duration
    t.now ≤ due ∧ ∀ ms, due < t.now + ms →
      (⟨.ended (planned plan run).ending, run, due⟩ :: t.world.lines) <:+
        (t.sleep interval (plannedTask plan) ms).world.lines
  /-- A stop between runs brings the schedule to rest at once, until it is started again. -/
  rests : ∀ before since, course = before ++ .stop :: since → .start ∉ since →
    (ofPlan interval plan before).phase.isBusy = false →
    (ofPlan interval plan course).phase = .idle ∧
      (ofPlan interval plan course).world = (ofPlan interval plan before).world
  /-- A stop during a run brings the schedule to rest exactly when that run ends, until it is
  started again. -/
  windsUp : ∀ before since run began, course = before ++ .stop :: since → .start ∉ since →
    (ofPlan interval plan before).world.UnderWay run began →
    let t := ofPlan interval plan course
    let due := began + (planned plan run).duration
    let lines := (ofPlan interval plan before).world.lines
    (t.phase = .stopping ∧ t.now ≤ due ∧ t.world.lines = lines) ∨
    (t.phase = .idle ∧ due ≤ t.now ∧
      t.world.lines = ⟨.ended (planned plan run).ending, run, due⟩ :: lines)
  /-- Rest is there at once if it is there. -/
  rest_awaited : ∀ ms, (ofPlan interval plan course).phase = .idle →
    (ofPlan interval plan course).awaitRest interval (plannedTask plan) ms =
      ofPlan interval plan course
  /-- Rest comes exactly when the last run ends. -/
  end_awaited : ∀ run began ms, (ofPlan interval plan course).phase = .stopping →
    (ofPlan interval plan course).world.UnderWay run began →
    let t := ofPlan interval plan course
    let u := t.awaitRest interval (plannedTask plan) ms
    let due := began + (planned plan run).duration
    (due < t.now + ms → u.phase = .idle ∧ u.now = due ∧
      u.world.lines = ⟨.ended (planned plan run).ending, run, due⟩ :: t.world.lines) ∧
    (t.now + ms < due → u.phase = .stopping ∧ u.now = t.now + ms)
  /-- Rest does not come while runs are to follow. -/
  never_awaited : ∀ ms, let t := ofPlan interval plan course
    (t.phase = .scheduled ∨ t.phase = .running) →
    let u := t.awaitRest interval (plannedTask plan) ms
    u.phase ≠ .idle ∧ u.now = t.now + ms

/-- How the schedule stands while a run is under way. -/
theorem Possible.underWay (hposs : Possible interval plan course) {run began : Nat}
    (h : (ofPlan interval plan course).world.UnderWay run began) :
    ∃ last, (ofPlan interval plan course).front.stand =
        .busy began (began + (planned plan run).duration) last ∧
      (ofPlan interval plan course).now ≤ began + (planned plan run).duration ∧
      (ofPlan interval plan course).world.runs = run := by
  obtain ⟨starts, hlogged⟩ := hposs.logged
  obtain ⟨rest, hlines⟩ := h
  generalize hfront : (ofPlan interval plan course).front = v at hlogged
  have hworld : (ofPlan interval plan course).world = v.world := congrArg Front.world hfront
  have hnow : (ofPlan interval plan course).now = v.now := congrArg Front.now hfront
  rw [hworld] at hlines ⊢
  rw [hnow]
  have hended {log : List LogLine} (hlog : log = RunLog.ended plan starts) :
      log ≠ ⟨.began, run, began⟩ :: rest := by
    cases starts with
    | nil => simp [hlog, RunLog.ended]
    | cons s starts => simp [hlog, RunLog.ended]
  cases hlogged with
  | rest g now => exact absurd hlines (hended rfl)
  | ready g now => exact absurd hlines (hended rfl)
  | asleep g due now htimely => exact absurd hlines (hended rfl)
  | busy g b now last htimely =>
    cases hlines
    exact ⟨last, rfl, htimely, rfl⟩

theorem front_ofPlan_stop (before since : List Event) :
    (ofPlan interval plan (before ++ .stop :: since)).front =
      (ofPlan interval plan before).front.stop.along interval (plannedTask plan) since :=
  front_ofPlan_append before (.stop :: since)

theorem Possible.carried (hposs : Possible interval plan course) :
    ∃ starts, let t := ofPlan interval plan course
      (t.phase.isBusy = false ∧ t.world.lines = RunLog.ended plan starts) ∨
      (t.phase.isBusy = true ∧ ∃ began, t.world.lines =
        ⟨.began, starts.length + 1, began⟩ :: RunLog.ended plan starts) := by
  obtain ⟨starts, hlogged⟩ := hposs.logged
  have hs : (ofPlan interval plan course).schedule.InStep := inStep_ofPlan course
  have hphase := phase_front hs
  have hworld : (ofPlan interval plan course).front.world = (ofPlan interval plan course).world :=
    rfl
  refine ⟨starts, ?_⟩
  dsimp only
  rw [← hphase, ← hworld]
  clear hphase hworld
  generalize (ofPlan interval plan course).front = v at hlogged
  cases hlogged with
  | rest g now => exact .inl ⟨rfl, rfl⟩
  | ready g now => exact .inl ⟨rfl, rfl⟩
  | asleep g due now htimely => exact .inl ⟨rfl, rfl⟩
  | busy g began now last htimely => exact .inr ⟨by cases last <;> rfl, began, rfl⟩

theorem rest_of_stop (hstart : .start ∉ since)
    (hfree : (ofPlan interval plan before).phase.isBusy = false) :
    (ofPlan interval plan (before ++ .stop :: since)).phase = .idle ∧
      (ofPlan interval plan (before ++ .stop :: since)).world =
        (ofPlan interval plan before).world := by
  have hstop : (ofPlan interval plan before).front.stop.stand = .rest := by
    rw [← phase_front (inStep_ofPlan before)] at hfree
    exact Stand.stop_of_not_busy hfree
  obtain ⟨hrest, hworld⟩ := Front.along_rest interval (plannedTask plan) hstop
    hstart
  rw [← front_ofPlan_stop] at hrest hworld
  refine ⟨?_, hworld⟩
  rw [← phase_front (inStep_ofPlan _), hrest]
  rfl

theorem windsUp_of_stop (hposs : Possible interval plan (before ++ .stop :: since))
    (hstart : .start ∉ since) {run began : Nat}
    (h : (ofPlan interval plan before).world.UnderWay run began) :
    (ofPlan interval plan (before ++ .stop :: since)).front.WindsUp plan began
      (began + (planned plan run).duration) (ofPlan interval plan before).world := by
  obtain ⟨last, hstand, htimely, -⟩ := (possible_append.mp hposs).1.underWay h
  have hstop : (ofPlan interval plan before).front.stop =
      ⟨(ofPlan interval plan before).front.generation, .busy began
        (began + (planned plan run).duration) true, (ofPlan interval plan before).now,
        (ofPlan interval plan before).world⟩ := by
    rw [Front.stop, hstand]
    rfl
  have hpermits : (ofPlan interval plan before).front.stop.Permits interval (plannedTask plan)
      since := hposs.permits_front.2
  rw [front_ofPlan_stop]
  rw [hstop] at hpermits ⊢
  exact (Front.WindsUp.underWay _ _ htimely).along hpermits hstart

/-- A run that is under way ends its duration after it began as time passes. -/
theorem Possible.ends (hposs : Possible interval plan course) {run began ms : Nat}
    (h : (ofPlan interval plan course).world.UnderWay run began)
    (hms : began + (planned plan run).duration < (ofPlan interval plan course).now + ms) :
    (⟨.ended (planned plan run).ending, run, began + (planned plan run).duration⟩ ::
        (ofPlan interval plan course).world.lines) <:+
      ((ofPlan interval plan course).sleep interval (plannedTask plan) ms).world.lines := by
  obtain ⟨last, hstand, htimely, hruns⟩ := hposs.underWay h
  have hclose := close_sleep_suffix interval plan (inStep_ofPlan course) hstand htimely hms
  rwa [RunLog.close_lines, hruns] at hclose

/-- Behind a stop during a run, the schedule is stopping until the run ends, and idle from then on.
-/
theorem stopping_or_idle_of_stop (hposs : Possible interval plan (before ++ .stop :: since))
    (hstart : .start ∉ since) {run began : Nat}
    (h : (ofPlan interval plan before).world.UnderWay run began) :
    let t := ofPlan interval plan (before ++ .stop :: since)
    let due := began + (planned plan run).duration
    let lines := (ofPlan interval plan before).world.lines
    (t.phase = .stopping ∧ t.now ≤ due ∧ t.world.lines = lines) ∨
    (t.phase = .idle ∧ due ≤ t.now ∧
      t.world.lines = ⟨.ended (planned plan run).ending, run, due⟩ :: lines) := by
  obtain ⟨-, -, -, hruns⟩ := (possible_append.mp hposs).1.underWay h
  have hwinds := windsUp_of_stop hposs hstart h
  have hs : (ofPlan interval plan (before ++ .stop :: since)).schedule.InStep := inStep_ofPlan _
  have hphase := phase_front hs
  generalize hfront : (ofPlan interval plan (before ++ .stop :: since)).front = v at hwinds hphase
  have hnow : (ofPlan interval plan (before ++ .stop :: since)).now = v.now :=
    congrArg Front.now hfront
  have hworld : (ofPlan interval plan (before ++ .stop :: since)).world = v.world :=
    congrArg Front.world hfront
  dsimp only
  rw [← hphase, hnow, hworld]
  cases hwinds with
  | underWay g now htimely => exact .inl ⟨rfl, htimely, rfl⟩
  | ended g now hlate =>
    refine .inr ⟨rfl, hlate, ?_⟩
    rw [RunLog.close_lines, hruns]

/-- While the schedule is stopping, the run under way is the last one. -/
theorem Possible.busy_of_stopping (hposs : Possible interval plan course) {run began : Nat}
    (hphase : (ofPlan interval plan course).phase = .stopping)
    (h : (ofPlan interval plan course).world.UnderWay run began) :
    (ofPlan interval plan course).front.stand =
      .busy began (began + (planned plan run).duration) true := by
  obtain ⟨last, hstand, -, -⟩ := hposs.underWay h
  rw [← phase_front (inStep_ofPlan course), hstand] at hphase
  cases last with
  | false => cases hphase
  | true => exact hstand

/-- Whoever waits for rest until after the last run ends gets it exactly then. -/
theorem Possible.awaitRest_end (hposs : Possible interval plan course) {run began ms : Nat}
    (hphase : (ofPlan interval plan course).phase = .stopping)
    (h : (ofPlan interval plan course).world.UnderWay run began)
    (hms : began + (planned plan run).duration < (ofPlan interval plan course).now + ms) :
    let u := (ofPlan interval plan course).awaitRest interval (plannedTask plan) ms
    let due := began + (planned plan run).duration
    u.phase = .idle ∧ u.now = due ∧
      u.world.lines = ⟨.ended (planned plan run).ending, run, due⟩ ::
        (ofPlan interval plan course).world.lines := by
  obtain ⟨-, -, htimely, hruns⟩ := hposs.underWay h
  have hs : (ofPlan interval plan course).schedule.InStep := inStep_ofPlan course
  have hfront := front_awaitRest_of_last interval plan hs (hposs.busy_of_stopping hphase h) htimely
    hms
  have hlines := congrArg (fun v => v.world.lines) hfront
  rw [RunLog.close_lines, hruns] at hlines
  refine ⟨?_, congrArg Front.now hfront, hlines⟩
  rw [← phase_front (inStep_awaitRest interval (plannedTask plan) ms hs), hfront]
  rfl

/-- Whoever does not wait that long is left waiting. -/
theorem Possible.awaitRest_before (hposs : Possible interval plan course) {run began ms : Nat}
    (hphase : (ofPlan interval plan course).phase = .stopping)
    (h : (ofPlan interval plan course).world.UnderWay run began)
    (hms : (ofPlan interval plan course).now + ms < began + (planned plan run).duration) :
    let u := (ofPlan interval plan course).awaitRest interval (plannedTask plan) ms
    u.phase = .stopping ∧ u.now = (ofPlan interval plan course).now + ms := by
  have hs : (ofPlan interval plan course).schedule.InStep := inStep_ofPlan course
  have hstand := hposs.busy_of_stopping hphase h
  have hfront := front_awaitRest_before interval plan hs hstand hms
  refine ⟨?_, congrArg Front.now hfront⟩
  rw [← phase_front (inStep_awaitRest interval (plannedTask plan) ms hs), hfront]
  exact congrArg Stand.phase hstand

/-- **Stopping is cooperative and exact**, whatever is called when, how long runs take and how they
end. -/
theorem stops_cooperatively (hposs : Possible interval plan course) :
    Cooperative interval plan course where
  carried := hposs.carried
  ends run began h := by
    obtain ⟨-, -, htimely, -⟩ := hposs.underWay h
    exact ⟨htimely, fun ms hms => hposs.ends h hms⟩
  rests before since hcourse hstart hfree := by
    subst hcourse
    exact rest_of_stop hstart hfree
  windsUp before since run began hcourse hstart h := by
    subst hcourse
    exact stopping_or_idle_of_stop hposs hstart h
  rest_awaited ms hidle := if_pos hidle
  end_awaited run began ms hphase h :=
    ⟨fun hms => hposs.awaitRest_end hphase h hms, fun hms => hposs.awaitRest_before hphase h hms⟩
  never_awaited ms hphase := by
    refine awaitRest_of_goesOn (inStep_ofPlan course) (Stand.goesOn_iff.mpr ?_) ms
    rwa [phase_front (inStep_ofPlan course)]

/-- Two stops during a run that is going to panic. -/
theorem stops_cooperatively_of_sample :
    let plan := [⟨30, .ok⟩, ⟨50, .panic⟩]
    let course := [.start, .move 1, .pass 30, .move 1, .pass 100, .move 1, .move 1, .pass 120,
      .stop, .stop]
    Possible 100 plan course ∧ Cooperative 100 plan course ∧
      (ofPlan 100 plan course).phase = .stopping ∧
      ((ofPlan 100 plan course).awaitRest 100 (plannedTask plan) 1000).now = 150 := by
  intro plan course
  have hposs : Possible 100 plan course := by decide
  have hstops := stops_cooperatively hposs
  have hphase : (ofPlan 100 plan course).phase = .stopping := by decide
  have hrest := (hstops.end_awaited 2 100 1000 hphase ⟨_, rfl⟩).1 (by decide)
  exact ⟨hposs, hstops, hphase, hrest.2.1⟩

end Timeline

end ChainFeed.Schedule
