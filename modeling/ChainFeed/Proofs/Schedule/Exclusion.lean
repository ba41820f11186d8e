import Mathlib.Data.List.Induction
import Mathlib.Data.List.Nodup
import Mathlib.Order.Nat
import ChainFeed.Schedule.Timeline

/-!
# One run at a time

The loops of a schedule move one at a time and in any order, between starts and stops that come at
any time. A loop that was called off may still be asleep when the next start makes another one, and
the end of a run looks at the phase alone. All the same, the control and the loops stay **in step**
(`Loops.InStep`): no two loops share a generation, the current generation has a loop unless the
schedule is at rest, and the loops that run the task are, at all times, the loop of the current
generation while the phase says that a run is under way, and none otherwise.

A generation is **past** (`Control.IsPast`) once a later one has begun, or once a stop has brought
the schedule to rest. It stays past whatever happens, so its loop never runs the task again
(`underWay_run`).

On a timeline the loops make moves of this kind and no others (`Timeline.advance_reaches`).
-/

namespace ChainFeed.Schedule

/-- Whether a run is under way in a phase. -/
def Phase.isBusy : Phase → Bool
  | running | stopping => true
  | idle | scheduled => false

/-- Whether a loop is running the task. -/
def Doing.isWorking : Doing → Bool
  | working .. => true
  | ready | sleeping _ => false

namespace Loops

/-- The generations of the loops that have not ended. -/
def generations (s : Loops) : List Nat := s.loops.map (·.generation)

/-- The generations of the loops that are running the task. -/
def underWay (s : Loops) : List Nat := (s.loops.filter (·.doing.isWorking)).map (·.generation)

theorem run_append (s : Loops) (moves more : List Move) :
    s.run (moves ++ more) = (s.run moves).run more :=
  List.foldl_append

variable {s : Loops} {g : Nat} {d : Doing} {c : Control}

/-! ### Loops by generation -/

@[simp]
theorem generations_set : (s.set g d).generations = s.generations := by
  rw [generations, generations, set, List.map_map]
  refine List.map_congr_left fun l _ => ?_
  dsimp only [Function.comp]
  split <;> rfl

theorem generations_drop : (s.drop g).generations = s.generations.filter (· ≠ g) := by
  rw [generations, generations, drop, List.filter_map]
  rfl

@[simp]
theorem control_drop : (s.drop g).control = s.control := rfl

theorem exists_of_doing? (h : s.doing? g = some d) :
    ∃ l ∈ s.loops, l.generation = g ∧ l.doing = d := by
  obtain ⟨l, hfind, rfl⟩ := Option.map_eq_some_iff.mp h
  exact ⟨l, List.mem_of_find?_eq_some hfind, by simpa using List.find?_some hfind, rfl⟩

/-! ### Control and loops -/

/-- A schedule whose control and loops say the same. -/
structure InStep (s : Loops) : Prop where
  /-- No two loops share a generation. -/
  nodup : s.generations.Nodup
  /-- No loop is of a later generation than the control. -/
  le : ∀ l ∈ s.loops, l.generation ≤ s.control.generation
  /-- Unless the schedule is at rest, its generation has a loop. -/
  current : s.control.phase ≠ .idle → s.control.generation ∈ s.generations
  /-- The loop of the current generation runs the task while a run is under way, and no other loop
  ever does. -/
  working_iff : ∀ l ∈ s.loops, l.doing.isWorking ↔
    l.generation = s.control.generation ∧ s.control.phase.isBusy

namespace InStep

theorem initial : Loops.initial.InStep where
  nodup := List.nodup_nil
  le _ h := by cases h
  current h := absurd rfl h
  working_iff _ h := by cases h

/-- What a loop is doing tells whether a run of its generation is under way. -/
theorem isWorking_iff (h : s.InStep) (hd : s.doing? g = some d) :
    d.isWorking ↔ g = s.control.generation ∧ s.control.phase.isBusy := by
  obtain ⟨l, hl, rfl, rfl⟩ := exists_of_doing? hd
  exact h.working_iff l hl

/-- A loop that does not run the task is not the one that the phase tells of. -/
theorem not_busy (h : s.InStep) (hd : s.doing? g = some d) (hrest : d.isWorking = false) :
    ¬(g = s.control.generation ∧ s.control.phase.isBusy) := by
  rw [← h.isWorking_iff hd, hrest]
  exact Bool.false_ne_true

/-- A change of the control stays in step with a loop that does something else, if no other loop is
concerned. -/
theorem set (h : s.InStep) (hgen : c.generation = s.control.generation)
    (hactive : c.phase ≠ .idle → s.control.phase ≠ .idle)
    (hd : d.isWorking ↔ g = c.generation ∧ c.phase.isBusy)
    (hother : g ≠ c.generation → c.phase.isBusy = s.control.phase.isBusy) :
    (Loops.set g d { s with control := c }).InStep where
  nodup := by
    rw [generations_set]
    exact h.nodup
  le l hl := by
    obtain ⟨k, hk, rfl⟩ := List.mem_map.mp hl
    have hle : k.generation ≤ c.generation := hgen ▸ h.le k hk
    dsimp only [Loops.set]
    split <;> exact hle
  current hphase := by
    rw [generations_set]
    exact hgen ▸ h.current (hactive hphase)
  working_iff l hl := by
    obtain ⟨k, hk, rfl⟩ := List.mem_map.mp hl
    have hkw := h.working_iff k hk
    dsimp only [Loops.set]
    split
    · rename_i hkg
      rw [hkg]
      exact hd
    · rename_i hkg
      rw [hkw, ← hgen]
      -- the other loops are idle on both sides, unless the run under way is not that of `g`
      by_cases hg : g = c.generation
      · have hne : k.generation ≠ c.generation := hg ▸ hkg
        exact iff_of_false (fun hk => hne hk.1) fun hk => hne hk.1
      · rw [hother hg]

/-- A change of the control stays in step with the end of a loop, if no other loop is concerned. -/
theorem drop (h : s.InStep) (hgen : c.generation = s.control.generation)
    (hactive : c.phase ≠ .idle → s.control.phase ≠ .idle ∧ g ≠ c.generation)
    (hother : g ≠ c.generation → c.phase.isBusy = s.control.phase.isBusy) :
    (Loops.drop g { s with control := c }).InStep where
  nodup := by
    rw [generations_drop]
    exact h.nodup.filter _
  le l hl := hgen ▸ h.le l (List.mem_of_mem_filter hl)
  current hphase := by
    obtain ⟨hold, hne⟩ := hactive hphase
    rw [generations_drop, List.mem_filter]
    exact ⟨hgen ▸ h.current hold, decide_eq_true hne.symm⟩
  working_iff l hl := by
    obtain ⟨hl, hlg⟩ := List.mem_filter.mp hl
    rw [h.working_iff l hl, ← hgen, control_drop]
    by_cases hg : g = c.generation
    · have hne : l.generation ≠ c.generation := hg ▸ of_decide_eq_true hlg
      exact iff_of_false (fun hl => hne hl.1) fun hl => hne hl.1
    · rw [hother hg]

/-! ### Moves -/

/-- A start from rest makes a loop of a generation that no other loop has. -/
theorem start (h : s.InStep) : s.start.InStep := by
  have hcurrent := h.current
  have hworking := h.working_iff
  unfold Loops.start Control.start
  cases hphase : s.control.phase with
  | idle =>
    have hlt : ∀ l ∈ s.loops, l.generation < s.control.generation + 1 :=
      fun l hl => Nat.lt_succ_of_le (h.le l hl)
    refine ⟨?_, ?_, ?_, ?_⟩
    · rw [generations, List.map_append]
      refine List.nodup_append.mpr ⟨h.nodup, List.nodup_singleton _, ?_⟩
      rintro a ha b hb rfl
      obtain ⟨l, hl, rfl⟩ := List.mem_map.mp ha
      exact absurd (List.mem_singleton.mp hb) (hlt l hl).ne
    · rintro l hl
      rcases List.mem_append.mp hl with hl | hl
      · exact (hlt l hl).le
      · obtain rfl := List.mem_singleton.mp hl
        exact Nat.le_refl _
    · intro _
      rw [generations, List.map_append]
      exact List.mem_append_right _ List.mem_cons_self
    · rintro l hl
      refine iff_of_false ?_ fun hbusy => Bool.false_ne_true hbusy.2
      rcases List.mem_append.mp hl with hl | hl
      · rw [hworking l hl, hphase]
        exact fun hbusy => Bool.false_ne_true hbusy.2
      · obtain rfl := List.mem_singleton.mp hl
        exact Bool.false_ne_true
  | scheduled => exact h
  | running => exact h
  | stopping =>
    rw [hphase] at hcurrent hworking
    exact ⟨h.nodup, h.le, fun _ => hcurrent (by decide), hworking⟩

theorem stop (h : s.InStep) : s.stop.InStep := by
  have hcurrent := h.current
  have hworking := h.working_iff
  unfold Loops.stop Control.stop
  cases hphase : s.control.phase with
  | idle => exact h
  | scheduled =>
    rw [hphase] at hworking
    exact ⟨h.nodup, h.le, fun hidle => absurd rfl hidle, hworking⟩
  | running =>
    rw [hphase] at hcurrent hworking
    exact ⟨h.nodup, h.le, fun _ => hcurrent (by decide), hworking⟩
  | stopping => exact h

/-- A loop that is let in runs the task; one that is not let in is not the loop of a schedule that
is going to run. -/
theorem ask (h : s.InStep) (hd : s.doing? g = some .ready) (began due : Nat) :
    (s.ask g began due).InStep := by
  unfold Loops.ask Control.admits
  split
  · rename_i hadmits
    obtain ⟨hgen, hphase⟩ : s.control.generation = g ∧ s.control.phase = .scheduled := by
      simpa using hadmits
    refine h.set rfl (fun _ => by simp [hphase]) ?_ fun hne => absurd hgen.symm hne
    exact iff_of_true rfl ⟨hgen.symm, rfl⟩
  · rename_i hadmits
    refine h.drop rfl (fun hphase => ⟨hphase, ?_⟩) fun _ => rfl
    -- the loop of an active schedule is either let in or running the task
    rintro rfl
    refine h.not_busy hd rfl ⟨rfl, ?_⟩
    cases hcases : s.control.phase with
    | idle => exact absurd hcases hphase
    | scheduled => simp [hcases] at hadmits
    | running => rfl
    | stopping => rfl

/-- The end of a run concerns the loop of the current generation, because no other one runs. -/
theorem finish (h : s.InStep) {began due : Nat} (hd : s.doing? g = some (.working began due))
    (wake : Option Nat) : (s.finish g wake).InStep := by
  obtain ⟨rfl, hbusy⟩ := (h.isWorking_iff hd).mp rfl
  unfold Loops.finish Control.goesOn Control.endRun
  dsimp only
  cases hphase : s.control.phase with
  | idle => simp [hphase, Phase.isBusy] at hbusy
  | scheduled => simp [hphase, Phase.isBusy] at hbusy
  | running =>
    refine h.set rfl (fun _ => by simp [hphase]) ?_ fun hne => absurd rfl hne
    cases wake with
    | none => exact iff_of_false Bool.false_ne_true fun hbusy => Bool.false_ne_true hbusy.2
    | some due => exact iff_of_false Bool.false_ne_true fun hbusy => Bool.false_ne_true hbusy.2
  | stopping => exact h.drop rfl (fun hactive => absurd rfl hactive) fun hne => absurd rfl hne

theorem wake (h : s.InStep) {due : Nat} (hd : s.doing? g = some (.sleeping due)) :
    (s.set g .ready).InStep :=
  h.set rfl id (iff_of_false Bool.false_ne_true (h.not_busy hd rfl)) fun _ => rfl

/-- **Every move keeps control and loops in step.** -/
theorem step (h : s.InStep) (move : Move) : (s.step move).InStep := by
  cases move with
  | start => exact h.start
  | stop => exact h.stop
  | ask g began due =>
    rw [Loops.step]
    split
    · rename_i hd
      exact h.ask hd began due
    · exact h
  | finish g wake =>
    rw [Loops.step]
    split
    · rename_i hd
      exact h.finish hd wake
    · exact h
  | wake g =>
    rw [Loops.step]
    split
    · rename_i hd
      exact h.wake hd
    · exact h

theorem run (h : s.InStep) (moves : List Move) : (s.run moves).InStep := by
  induction moves generalizing s with
  | nil => exact h
  | cons move moves ih => exact ih (h.step move)

/-- One run is under way, of the current generation, or none, as the phase says. -/
theorem underWay_eq (h : s.InStep) :
    s.underWay = if s.control.phase.isBusy then [s.control.generation] else [] := by
  have hfilter : s.underWay =
      s.generations.filter fun g => g = s.control.generation ∧ s.control.phase.isBusy := by
    rw [underWay, generations, List.filter_map]
    refine congrArg _ (List.filter_congr fun l hl => ?_)
    exact Bool.eq_iff_iff.mpr ((h.working_iff l hl).trans decide_eq_true_iff.symm)
  rw [hfilter]
  split
  · rename_i hbusy
    have hactive : s.control.phase ≠ .idle := fun hidle => by simp [hidle, Phase.isBusy] at hbusy
    simp only [hbusy, and_true]
    rw [List.filter_eq, List.count_eq_one_of_mem h.nodup (h.current hactive)]
    rfl
  · rename_i hbusy
    exact List.filter_eq_nil_iff.mpr fun g _ hg => hbusy (of_decide_eq_true hg).2

end InStep

end Loops

/-! ### Past generations -/

/-- Whether a generation is over: a later one has begun, or the schedule came to rest. -/
def Control.IsPast (g : Nat) (c : Control) : Prop :=
  g < c.generation ∨ g = c.generation ∧ c.phase = .idle

namespace Loops

variable {s : Loops} {g : Nat}

/-- What is over stays over. -/
theorem isPast_step (h : s.control.IsPast g) (move : Move) : (s.step move).control.IsPast g := by
  -- unless the schedule is at rest, the generation is an earlier one, and moves keep generations
  have hlt : s.control.phase ≠ .idle → g < s.control.generation :=
    fun hactive => h.resolve_right fun hrest => hactive hrest.2
  cases move with
  | start =>
    dsimp only [step, start, Control.start]
    cases hphase : s.control.phase with
    | idle => exact .inl (Nat.lt_succ_of_le (h.elim Nat.le_of_lt fun hrest => hrest.1.le))
    | scheduled => exact h
    | running => exact h
    | stopping => exact .inl (hlt (by simp [hphase]))
  | stop =>
    dsimp only [step, stop, Control.stop]
    cases hphase : s.control.phase with
    | idle => exact h
    | scheduled => exact .inl (hlt (by simp [hphase]))
    | running => exact .inl (hlt (by simp [hphase]))
    | stopping => exact h
  | ask generation began due =>
    rw [step]
    split
    · unfold ask
      split
      · rename_i hadmits
        have hphase : s.control.phase = .scheduled := by
          simp only [Control.admits, Bool.and_eq_true, beq_iff_eq] at hadmits
          exact hadmits.2
        exact .inl (hlt (by simp [hphase]))
      · exact h
    · exact h
  | finish generation wake =>
    rw [step]
    split
    · have hend : s.control.endRun.IsPast g := by
        unfold Control.endRun
        cases hphase : s.control.phase with
        | idle => exact h
        | scheduled => exact h
        | running => exact .inl (hlt (by simp [hphase]))
        | stopping => exact .inl (hlt (by simp [hphase]))
      unfold finish
      dsimp only
      split <;> exact hend
    · exact h
  | wake generation =>
    rw [step]
    split <;> exact h

theorem isPast_run (h : s.control.IsPast g) (moves : List Move) :
    (s.run moves).control.IsPast g := by
  induction moves generalizing s with
  | nil => exact h
  | cons move moves ih => exact ih (isPast_step h move)

/-- The loop of a generation that is over does not run the task. -/
theorem InStep.notMem_underWay (h : s.InStep) (hpast : s.control.IsPast g) : g ∉ s.underWay := by
  rw [h.underWay_eq]
  split
  · rename_i hbusy
    rw [List.mem_singleton]
    rcases hpast with hlt | ⟨-, hidle⟩
    · exact hlt.ne
    · simp [hidle, Phase.isBusy] at hbusy
  · exact List.not_mem_nil

/-- **At most one run is under way, and no loop is lost.** Whatever happens to a schedule, in
whatever order: while the phase says that a run is under way, the loop of the current generation
runs the task and no other one does, and otherwise no loop does; the loops are of different
generations, and unless the schedule is at rest, exactly one is of the current generation; a loop of
an earlier generation, or one that was there when the schedule came to rest, never runs the task
again. -/
theorem underWay_run (moves : List Move) :
    let s := initial.run moves
    s.underWay = (if s.control.phase.isBusy then [s.control.generation] else []) ∧
    s.generations.Nodup ∧
    (s.control.phase ≠ .idle → s.generations.count s.control.generation = 1) ∧
    ∀ l ∈ s.loops, l.generation < s.control.generation ∨ s.control.phase = .idle →
      ∀ more, l.generation ∉ (s.run more).underWay := by
  intro s
  have h : s.InStep := InStep.initial.run moves
  refine ⟨h.underWay_eq, h.nodup, fun hactive => ?_, fun l hl hover more => ?_⟩
  · exact List.count_eq_one_of_mem h.nodup (h.current hactive)
  · have hpast : s.control.IsPast l.generation := by
      rcases hover with hlt | hidle
      · exact .inl hlt
      · exact (h.le l hl).lt_or_eq.imp_right fun heq => ⟨heq, hidle⟩
    exact (h.run more).notMem_underWay (isPast_run hpast more)

/-- A loop that was called off sleeps on while a start makes another one; a start while the run of
that one is to be the last keeps it going. -/
example : (initial.run [.start, .ask 1 0 5, .finish 1 (some 20), .stop, .start, .ask 2 7 12, .stop,
    .start]).underWay = [2] := by decide

/-! ### On a timeline -/

/-- Whether moves lead from one schedule to another. -/
def Reaches (s t : Loops) : Prop := ∃ moves, t = s.run moves

namespace Reaches

variable {t u : Loops}

theorem refl (s : Loops) : s.Reaches s := ⟨[], rfl⟩

theorem step (s : Loops) (move : Move) : s.Reaches (s.step move) := ⟨[move], rfl⟩

theorem trans (hst : s.Reaches t) (htu : t.Reaches u) : s.Reaches u := by
  obtain ⟨moves, rfl⟩ := hst
  obtain ⟨more, rfl⟩ := htu
  exact ⟨moves ++ more, (run_append _ _ _).symm⟩

end Reaches

end Loops

namespace Timeline

open Loops

variable {ω : Type} (interval : Nat) (task : Task ω)

theorem move_reaches (g : Nat) (t : Timeline ω) :
    t.schedule.Reaches (t.move interval task g).schedule := by
  -- a loop that can move makes one move
  have hstep := Reaches.step t.schedule
  unfold move
  split
  · exact .refl _
  · split
    · exact hstep (.ask g t.now _)
    · exact hstep (.ask g t.now t.now)
  · split
    · exact hstep (.finish g _)
    · exact .refl _
  · split
    · exact hstep (.wake g)
    · exact .refl _

theorem settle_reaches (t : Timeline ω) :
    t.schedule.Reaches (t.settle interval task).schedule := by
  have hmoves (g : Nat) (t : Timeline ω) :
      t.schedule.Reaches (t.moves interval task g).schedule :=
    ((move_reaches interval task g t).trans (move_reaches interval task g _)).trans
      (move_reaches interval task g _)
  unfold settle
  generalize t.schedule.loops.map (·.generation) = generations
  induction generations generalizing t with
  | nil => exact .refl _
  | cons g rest ih => exact (hmoves g t).trans (ih _)

/-- **Time passes by moves of the loops.** So what holds after all sequences of moves holds on every
timeline. -/
theorem advance_reaches (awaited : Phase → Bool) (limit : Nat) (t : Timeline ω) :
    t.schedule.Reaches (t.advance interval task awaited limit).schedule := by
  have hsettle := settle_reaches interval task t
  fun_induction advance interval task awaited limit t with
  | case1 => exact hsettle
  | case2 t settled _ due _ _ ih => exact hsettle.trans (ih (settle_reaches interval task _))
  | case3 => exact hsettle
  | case4 => exact hsettle

end Timeline

end ChainFeed.Schedule
