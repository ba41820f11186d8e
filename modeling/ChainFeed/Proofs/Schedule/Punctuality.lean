import ChainFeed.Proofs.Schedule.Runs

/-!
# When runs begin

A loop that counts always **expects** its next run at one certain time (`Front.Expects`): when the
interval since its last run began is over and that run has ended, or at once if a start has just
made the loop. Nothing that happens meanwhile moves that time, unless the schedule comes to rest,
and the run begins exactly then. So every run of a plan is explained by what came before
(`Timeline.punctual`): by the run before it, or by the start that left rest. As the next run is
counted from the beginning of the last one, runs that were missed never pile up.
-/

namespace ChainFeed.Schedule

variable {interval : Nat} {plan : List PlannedRun}

namespace Front

variable {v : Front RunLog} {e : Event} {run due : Nat}

/-- A front after a number of runs whose next one is to begin at a time. -/
inductive Expects (interval run due : Nat) : Front RunLog → Prop
  /-- The next run is to begin now. -/
  | ready (g : Nat) (lines : List LogLine) : Expects interval run due ⟨g, .ready, due, ⟨run, lines⟩⟩
  /-- The loop sleeps until the time comes. -/
  | asleep (g now : Nat) (lines : List LogLine) (timely : now ≤ due) :
      Expects interval run due ⟨g, .asleep due, now, ⟨run, lines⟩⟩
  /-- The last run is under way; it is followed by a sleep unless it takes the interval or more. -/
  | busy (g began done now : Nat) (last : Bool) (lines : List LogLine) (timely : now ≤ done)
      (next : max (began + interval) done = due) :
      Expects interval run due ⟨g, .busy began done last, now, ⟨run, lines⟩⟩

namespace Expects

theorem now_le (h : v.Expects interval run due) : v.now ≤ due := by
  cases h with
  | ready g lines => exact Nat.le_refl _
  | asleep g now lines htimely => exact htimely
  | busy g began done now last lines htimely hnext => exact htimely.trans (by omega)

theorem runs_eq (h : v.Expects interval run due) : v.world.runs = run := by
  cases h with
  | ready g lines => rfl
  | asleep g now lines htimely => rfl
  | busy g began done now last lines htimely hnext => rfl

/-- The move of a loop begins the run that was expected, or the run is still expected. -/
theorem move (h : v.Expects interval run due)
    (hactive : (v.move interval (plannedTask plan)).stand ≠ .rest) :
    (v.move interval (plannedTask plan)).Expects interval run due ∨
      (v.move interval (plannedTask plan)).now = due ∧
        (v.move interval (plannedTask plan)).world.runs = run + 1 := by
  cases h with
  | ready g lines => exact .inr ⟨rfl, rfl⟩
  | asleep g now lines htimely =>
    left
    unfold Front.move
    dsimp only
    split
    · rename_i hdue
      obtain rfl : now = due := Nat.le_antisymm htimely hdue
      exact .ready g lines
    · exact .asleep g now lines htimely
  | busy g began done now last lines htimely hnext =>
    left
    unfold Front.move at hactive ⊢
    dsimp only at hactive ⊢
    split at hactive
    · rename_i hdue
      obtain rfl : now = done := Nat.le_antisymm htimely hdue
      rw [if_pos hdue]
      cases last with
      | true => exact absurd rfl hactive
      | false =>
        rw [if_neg Bool.false_ne_true]
        unfold Timeline.wakeTime
        split
        · -- the run took the interval or more, so the next one begins now
          rename_i hover
          obtain rfl : now = due := by omega
          exact .ready g _
        · rename_i hrest
          obtain rfl : began + interval = due := by omega
          exact .asleep g now _ (Nat.le_of_not_le hrest)
    · rename_i hdue
      rw [if_neg hdue]
      exact .busy g began done now last lines htimely hnext

/-- **The time of the next run is kept**, by every event that may be the next one, unless it brings
the schedule to rest or begins the run. -/
theorem after (h : v.Expects interval run due) (ha : v.Allows e)
    (hactive : (v.after interval (plannedTask plan) e).stand ≠ .rest) :
    (v.after interval (plannedTask plan) e).Expects interval run due ∨
      (v.after interval (plannedTask plan) e).now = due ∧
        (v.after interval (plannedTask plan) e).world.runs = run + 1 := by
  cases e with
  | start =>
    left
    cases h with
    | ready g lines => exact .ready g lines
    | asleep g now lines htimely => exact .asleep g now lines htimely
    | busy g began done now last lines htimely hnext =>
      exact .busy g began done now false lines htimely hnext
  | stop =>
    left
    cases h with
    | ready g lines => exact absurd rfl hactive
    | asleep g now lines htimely => exact absurd rfl hactive
    | busy g began done now last lines htimely hnext =>
      exact .busy g began done now true lines htimely hnext
  | move g =>
    unfold Front.after at hactive ⊢
    dsimp only at hactive ⊢
    split at hactive
    · rename_i hg
      rw [if_pos hg]
      exact h.move hactive
    · rename_i hg
      rw [if_neg hg]
      exact .inl h
  | pass time =>
    left
    obtain ⟨-, hready, hdue⟩ := ha
    cases h with
    | ready g lines => exact absurd rfl hready
    | asleep g now lines htimely => exact .asleep g time lines (hdue due rfl).2
    | busy g began done now last lines htimely hnext =>
      exact .busy g began done time last lines (hdue done rfl).2 hnext

end Expects

end Front

namespace Timeline

variable {course earlier later : List Event} {run due : Nat}

/-- Whether the schedule is not at rest behind the first part of a course, nor at any moment of what
comes later. -/
def Unbroken (interval : Nat) (plan : List PlannedRun) (earlier later : List Event) : Prop :=
  ∀ p, p <+: later → (ofPlan interval plan (earlier ++ p)).phase ≠ .idle

theorem stand_ne_rest : (ofPlan interval plan course).front.stand ≠ .rest ↔
    (ofPlan interval plan course).phase ≠ .idle := by
  rw [← phase_front (inStep_ofPlan course), ne_eq, ne_eq, Stand.phase_eq_idle]

theorem Unbroken.behind {mid : List Event} (h : Unbroken interval plan earlier (mid ++ later)) :
    Unbroken interval plan (earlier ++ mid) later := by
  intro p hp
  rw [List.append_assoc]
  exact h (mid ++ p) ((List.prefix_append_right_inj mid).mpr hp)

theorem Unbroken.of_append {more : List Event}
    (h : Unbroken interval plan earlier (later ++ more)) :
    Unbroken interval plan earlier later :=
  fun p hp => h p (hp.trans (List.prefix_append _ _))

/-- What is expected begins exactly when it is, or is still expected. -/
theorem begins_or_expects (hposs : Possible interval plan (earlier ++ later))
    (hunbroken : Unbroken interval plan earlier later)
    (h : (ofPlan interval plan earlier).front.Expects interval run due) :
    (∃ p, p <+: later ∧ Begins interval plan (earlier ++ p) (run + 1) ∧
      (ofPlan interval plan (earlier ++ p)).now = due) ∨
    (ofPlan interval plan (earlier ++ later)).front.Expects interval run due := by
  induction later using List.reverseRecOn with
  | nil =>
    rw [List.append_nil]
    exact .inr h
  | append_singleton later e ih =>
    rw [← List.append_assoc] at hposs
    rcases ih (possible_append.mp hposs).1 hunbroken.of_append with ⟨p, hp, hbegins⟩ | hexpects
    · exact .inl ⟨p, hp.trans (List.prefix_append _ _), hbegins⟩
    · have hactive := stand_ne_rest.mpr (hunbroken (later ++ [e]) (List.prefix_refl _))
      rw [← List.append_assoc, front_ofPlan_concat] at hactive
      have hafter := hexpects.after hposs.permits_front.1 hactive
      rw [← front_ofPlan_concat, List.append_assoc] at hafter
      refine hafter.symm.imp_left fun ⟨hnow, hruns⟩ => ?_
      refine ⟨later ++ [e], List.prefix_refl _, ?_, hnow⟩
      -- the number of runs has grown, so this event begins one
      have hold : (ofPlan interval plan (earlier ++ later)).world.runs = run := hexpects.runs_eq
      have hnew : (ofPlan interval plan (earlier ++ (later ++ [e]))).world.runs = run + 1 := hruns
      rw [← List.append_assoc] at hnew ⊢
      rcases runs_concat interval plan (earlier ++ later) e with
        ⟨hsame, -⟩ | ⟨-, hbegins⟩
      · omega
      · rwa [hold] at hbegins

/-- A run that has just begun tells when the next one is to begin. -/
theorem expects_of_begins (h : Begins interval plan course run) :
    (ofPlan interval plan course).front.Expects interval run
      ((ofPlan interval plan course).now + max interval (planned plan run).duration) := by
  obtain ⟨g, lines, hfront⟩ := front_of_begins h
  rw [hfront]
  exact .busy g _ _ _ _ lines (Nat.le_add_right _ _) (by omega)

/-- A start that leaves rest tells that the next run is to begin now. -/
theorem expects_of_start (hidle : (ofPlan interval plan course).phase = .idle) :
    (ofPlan interval plan (course ++ [.start])).front.Expects interval
      (ofPlan interval plan course).world.runs (ofPlan interval plan course).now := by
  have hrest : (ofPlan interval plan course).front.stand = .rest := by
    rwa [← Stand.phase_eq_idle, phase_front (inStep_ofPlan course)]
  have hstart : (ofPlan interval plan course).front.start =
      ⟨(ofPlan interval plan course).front.generation + 1, .ready,
        (ofPlan interval plan course).now, (ofPlan interval plan course).world⟩ := by
    rw [Front.start, hrest]
    rfl
  rw [front_ofPlan_concat, Front.after, hstart]
  exact .ready _ _

/-- What is not at rest has been started, and not come to rest since. -/
theorem exists_start (hactive : (ofPlan interval plan course).phase ≠ .idle) :
    ∃ before since, course = before ++ .start :: since ∧
      (ofPlan interval plan before).phase = .idle ∧
      Unbroken interval plan (before ++ [.start]) since := by
  induction course using List.reverseRecOn with
  | nil => exact absurd rfl hactive
  | append_singleton course e ih =>
    by_cases hidle : (ofPlan interval plan course).phase = .idle
    · -- only a start leaves rest
      have hrest : (ofPlan interval plan course).front.stand = .rest := by
        rwa [← Stand.phase_eq_idle, phase_front (inStep_ofPlan course)]
      have hstart : e = .start := by
        by_contra hne
        refine stand_ne_rest.mpr hactive ?_
        rw [front_ofPlan_concat]
        exact (Front.after_rest _ _ hrest hne).1
      subst hstart
      refine ⟨course, [], rfl, hidle, fun p hp => ?_⟩
      rw [List.prefix_nil.mp hp, List.append_nil]
      exact hactive
    · obtain ⟨before, since, rfl, hbefore, hunbroken⟩ := ih hidle
      refine ⟨before, since ++ [e], by simp, hbefore, fun p hp => ?_⟩
      rcases List.prefix_concat_iff.mp hp with rfl | hp
      · simpa using hactive
      · exact hunbroken p hp

/-! ### Every beginning is explained -/

/-- When runs begin, as a course tells. -/
structure Punctual (interval : Nat) (plan : List PlannedRun) (course : List Event) : Prop where
  /-- Runs begin one after the other, beginning with number one. -/
  numbered : ∀ run, Begins interval plan course run →
    0 < run ∧ ∀ k, 0 < k → k ≤ run → ∃ earlier, earlier <+: course ∧ Begins interval plan earlier k
  /-- No run begins twice. -/
  once : ∀ earlier later run, course = earlier ++ later → Begins interval plan earlier run →
    Begins interval plan course run → later = []
  /-- If the schedule does not come to rest between two runs, the second one begins when the first
  one is over and the interval since its beginning too. -/
  succeeds : ∀ earlier later run, course = earlier ++ later → Begins interval plan earlier run →
    Begins interval plan course (run + 1) → Unbroken interval plan earlier later →
    (ofPlan interval plan course).now =
      (ofPlan interval plan earlier).now + max interval (planned plan run).duration
  /-- Otherwise, or if it is the first one, a run begins at the time of the start that left rest for
  the last time. -/
  restarts : ∀ run, Begins interval plan course (run + 1) →
    (∀ earlier later, course = earlier ++ later → Begins interval plan earlier run →
      ¬Unbroken interval plan earlier later) →
    ∃ before since, course = before ++ .start :: since ∧
      (ofPlan interval plan before).phase = .idle ∧
      Unbroken interval plan (before ++ [.start]) since ∧
      (ofPlan interval plan course).now = (ofPlan interval plan before).now
  /-- The next run is never left out unless the schedule comes to rest. -/
  follows : ∀ earlier later run, course = earlier ++ later → Begins interval plan earlier run →
    Unbroken interval plan earlier later →
    (ofPlan interval plan earlier).now + max interval (planned plan run).duration <
      (ofPlan interval plan course).now →
    ∃ p, p <+: later ∧ Begins interval plan (earlier ++ p) (run + 1)
  /-- The run that a start from rest calls for is never left out unless the schedule comes to rest
  again. -/
  answers : ∀ before since, course = before ++ .start :: since →
    (ofPlan interval plan before).phase = .idle →
    Unbroken interval plan (before ++ [.start]) since →
    (ofPlan interval plan before).now < (ofPlan interval plan course).now →
    ∃ p, p <+: since ∧ Begins interval plan (before ++ [.start] ++ p)
      ((ofPlan interval plan before).world.runs + 1)
  /-- Without calls, the course goes on for any time, in the way that time passes on a timeline. -/
  continues : ∀ ms, ∃ more, (∀ e ∈ more, e.isCall = false) ∧
    Possible interval plan (course ++ more) ∧
    ofPlan interval plan (course ++ more) =
      (ofPlan interval plan course).sleep interval (plannedTask plan) ms ∧
    (ofPlan interval plan (course ++ more)).now = (ofPlan interval plan course).now + ms

theorem now_of_succeeds (hposs : Possible interval plan (earlier ++ later))
    (h : Begins interval plan earlier run)
    (hnext : Begins interval plan (earlier ++ later) (run + 1))
    (hunbroken : Unbroken interval plan earlier later) :
    (ofPlan interval plan (earlier ++ later)).now =
      (ofPlan interval plan earlier).now + max interval (planned plan run).duration := by
  rcases begins_or_expects hposs hunbroken (expects_of_begins h) with
    ⟨p, ⟨rest, rfl⟩, hbegins, hnow⟩ | hexpects
  · rw [← List.append_assoc] at hnext
    rw [hbegins.once hnext, List.append_nil]
    exact hnow
  · have hruns : (ofPlan interval plan (earlier ++ later)).world.runs = run := hexpects.runs_eq
    have hnew := hnext.runs_eq
    omega

theorem exists_start_of_begins (hposs : Possible interval plan course)
    (h : Begins interval plan course (run + 1))
    (hbroken : ∀ earlier later, course = earlier ++ later → Begins interval plan earlier run →
      ¬Unbroken interval plan earlier later) :
    ∃ before since, course = before ++ .start :: since ∧
      (ofPlan interval plan before).phase = .idle ∧
      Unbroken interval plan (before ++ [.start]) since ∧
      (ofPlan interval plan course).now = (ofPlan interval plan before).now := by
  have hactive : (ofPlan interval plan course).phase ≠ .idle := by
    obtain ⟨g, lines, hfront⟩ := front_of_begins h
    exact stand_ne_rest.mp (by rw [hfront]; exact Stand.noConfusion)
  obtain ⟨before, since, hcourse, hidle, hunbroken⟩ := exists_start hactive
  refine ⟨before, since, hcourse, hidle, hunbroken, ?_⟩
  have hlt : (ofPlan interval plan before).world.runs < run + 1 :=
    runs_lt_of_begins (hcourse ▸ h) (List.cons_ne_nil _ _)
  obtain rfl : course = before ++ [.start] ++ since := by simpa using hcourse
  have hstart := expects_of_start hidle
  rcases begins_or_expects hposs hunbroken hstart with ⟨p, ⟨rest, rfl⟩, hbegins, hnow⟩ | hexpects
  · rcases Nat.lt_or_ge (ofPlan interval plan before).world.runs run with hless | hge
    · -- otherwise the run before this one began behind the start, and no rest came in between
      have hruns : run ≤ (ofPlan interval plan (before ++ [.start] ++ (p ++ rest))).world.runs := by
        rw [h.runs_eq]
        exact Nat.le_succ run
      obtain ⟨earlier, later, heq, hearlier⟩ := exists_begins (by omega) hruns
      refine absurd ?_ (hbroken earlier later heq hearlier)
      rcases List.prefix_or_prefix_of_prefix ⟨later, heq.symm⟩
        (List.prefix_append (before ++ [.start]) (p ++ rest)) with ⟨mid, hmid⟩ | ⟨mid, rfl⟩
      · have hle := runs_le_append interval plan earlier mid
        have hold : (ofPlan interval plan (before ++ [.start])).world.runs =
            (ofPlan interval plan before).world.runs := hstart.runs_eq
        have hnew := hearlier.runs_eq
        rw [hmid] at hle
        omega
      · rw [List.append_assoc _ mid] at heq
        rw [List.append_cancel_left heq] at hunbroken
        exact hunbroken.behind
    · obtain rfl : run = (ofPlan interval plan before).world.runs := by omega
      rw [← List.append_assoc] at h
      rw [hbegins.once h, List.append_nil]
      exact hnow
  · have hruns : (ofPlan interval plan (before ++ [.start] ++ since)).world.runs =
        (ofPlan interval plan before).world.runs := hexpects.runs_eq
    have hnew := h.runs_eq
    omega

/-- **Runs begin on time**: when they do is explained by what came before, whatever is called when,
how long runs take and how they end. -/
theorem punctual (hpos : ∀ run, 0 < max interval (planned plan run).duration)
    (hposs : Possible interval plan course) : Punctual interval plan course where
  numbered run h := by
    have hruns := h.runs_eq
    obtain ⟨before, e, rfl, -⟩ := id h
    have hlast := (runs_of_begins h).1
    refine ⟨by omega, fun k hk hle => ?_⟩
    obtain ⟨earlier, later, heq, hbegins⟩ := exists_begins hk (hruns ▸ hle)
    exact ⟨earlier, ⟨later, heq.symm⟩, hbegins⟩
  once earlier later run hcourse h hagain := by
    subst hcourse
    exact h.once hagain
  succeeds earlier later run hcourse h hnext hunbroken := by
    subst hcourse
    exact now_of_succeeds hposs h hnext hunbroken
  restarts run h hbroken := exists_start_of_begins hposs h hbroken
  follows earlier later run hcourse h hunbroken hlate := by
    subst hcourse
    rcases begins_or_expects hposs hunbroken (expects_of_begins h) with
      ⟨p, hp, hbegins, -⟩ | hexpects
    · exact ⟨p, hp, hbegins⟩
    · exact absurd hexpects.now_le (Nat.not_le_of_lt hlate)
  answers before since hcourse hidle hunbroken hlate := by
    obtain rfl : course = before ++ [.start] ++ since := by simpa using hcourse
    rcases begins_or_expects hposs hunbroken (expects_of_start hidle) with
      ⟨p, hp, hbegins, -⟩ | hexpects
    · exact ⟨p, hp, hbegins⟩
    · exact absurd hexpects.now_le (Nat.not_le_of_lt hlate)
  continues ms := by
    obtain ⟨more, hcalls, hmore, hpermits⟩ := elapses_advance interval (plannedTask plan)
      (fun _ => false) ((ofPlan interval plan course).now + ms) (inStep_ofPlan course)
    have hsleep : ofPlan interval plan (course ++ more) =
        (ofPlan interval plan course).sleep interval (plannedTask plan) ms :=
      (along_append course more).trans hmore.symm
    refine ⟨more, hcalls, ?_, hsleep, ?_⟩
    · exact possible_append.mpr ⟨hposs, hpermits (takesTime_plannedTask hpos)⟩
    · rw [hsleep, now_sleep]

/-- A stop that is taken back while a run is under way, a run that takes longer than the interval,
and a start while a loop is still asleep that was called off. -/
theorem punctual_of_sample :
    let plan := [⟨30, .ok⟩, ⟨150, .panic⟩, ⟨10, .error⟩]
    let course := [.start, .move 1, .pass 10, .stop, .start, .pass 30, .move 1, .pass 100, .move 1,
      .move 1, .pass 250, .move 1, .move 1, .pass 260, .move 1, .pass 300, .stop, .start, .move 2]
    Possible 100 plan course ∧ Punctual 100 plan course ∧
      ((ofPlan 100 plan course).world.lines.filter (·.what == .began)).map (·.time) =
        [300, 250, 100, 0] := by
  intro plan course
  have hposs : Possible 100 plan course := by decide
  exact ⟨hposs, punctual (fun run => by omega) hposs, by decide⟩

end Timeline

end ChainFeed.Schedule
