import ChainFeed.Proofs.Schedule.Front

/-!
# How time passes

On a timeline all loops are **settled** before time passes: each makes up to three moves. Loops that
do not count end in doing so (`Timeline.counts_of_mem_settle`), and the front makes three moves of
its own (`Timeline.front_settle`). If every run or the interval takes time, the front is then
**steady**: it cannot move before a later time. So time passes along courses without calls, and then
along permitted ones (`Timeline.elapses_advance`); without that condition it still comes to the end
of a run that is under way (`Timeline.advance_to_due`).
-/

namespace ChainFeed.Schedule

variable {ω : Type}

/-- A task of which, at an interval, no two runs begin at the same time. -/
def Task.TakesTime (interval : Nat) (task : Task ω) : Prop :=
  ∀ now world, 0 < max interval (task.begin now world).1

/-! ### Steady fronts -/

namespace Front

variable {interval : Nat} {task : Task ω} {v : Front ω}

/-- Whether the loop cannot move before a later time. -/
def Steady (v : Front ω) : Prop := v.stand ≠ .ready ∧ ∀ due ∈ v.stand.due?, v.now < due

theorem generation_move : (v.move interval task).generation = v.generation := by
  unfold move
  split
  · rfl
  · rfl
  · split <;> rfl
  · split <;> rfl

theorem now_move : (v.move interval task).now = v.now := by
  unfold move
  split
  · rfl
  · rfl
  · split <;> rfl
  · split <;> rfl

theorem move_rest (h : v.stand = .rest) : v.move interval task = v := by
  rw [move, h]

variable (interval task) in
/-- A schedule at rest stays there, and no run begins, until it is started. -/
theorem after_rest {e : Event} (h : v.stand = .rest) (he : e ≠ .start) :
    (v.after interval task e).stand = .rest ∧ (v.after interval task e).world = v.world := by
  cases e with
  | start => exact absurd rfl he
  | stop =>
    rw [after, stop, h]
    exact ⟨rfl, rfl⟩
  | move g =>
    rw [after, move_rest h]
    split <;> exact ⟨h, rfl⟩
  | pass time => exact ⟨h, rfl⟩

/-- A loop goes on until it is stopped. -/
theorem goesOn_after {e : Event} (h : v.stand.goesOn) (he : e ≠ .stop) :
    (v.after interval task e).stand.goesOn := by
  cases e with
  | start => exact Stand.goesOn_start _
  | stop => exact absurd rfl he
  | move g =>
    dsimp only [after]
    split
    · exact goesOn_move _ _ h
    · exact h
  | pass time => exact h

theorem move_of_steady (h : v.Steady) : v.move interval task = v := by
  obtain ⟨hready, hdue⟩ := h
  unfold move
  split
  · rfl
  · rename_i hstand
    exact absurd hstand hready
  · rename_i due hstand
    have hlt : v.now < due := hdue due (by simp [hstand, Stand.due?])
    exact if_neg hlt.not_ge
  · rename_i began due last hstand
    have hlt : v.now < due := hdue due (by simp [hstand, Stand.due?])
    exact if_neg hlt.not_ge

theorem steady_rest (h : v.stand = .rest) : v.Steady := by simp [Steady, h, Stand.due?]

theorem steady_asleep {due : Nat} (h : v.stand = .asleep due) : v.Steady ↔ v.now < due := by
  simp [Steady, h, Stand.due?]

theorem steady_busy {began due : Nat} {last : Bool} (h : v.stand = .busy began due last) :
    v.Steady ↔ v.now < due := by
  simp [Steady, h, Stand.due?]

/-- A loop that has just begun a run is steady after one move. -/
theorem steady_move_of_began {due : Nat} {last : Bool} (h : v.stand = .busy v.now due last)
    (hpos : v.now < max (v.now + interval) due) : (v.move interval task).Steady := by
  rw [move, h]
  dsimp only
  split
  · rename_i hdue
    -- a run that took no time is followed by a sleep
    have hwake : Timeline.wakeTime interval v.now v.now = some (v.now + interval) :=
      if_neg (by omega)
    cases last with
    | true => exact steady_rest rfl
    | false =>
      rw [if_neg Bool.false_ne_true, hwake]
      refine (steady_asleep rfl).mpr ?_
      dsimp only
      omega
  · rename_i hdue
    exact (steady_busy h).mpr (Nat.lt_of_not_le hdue)

theorem steady_move_of_ready (hpos : task.TakesTime interval) (h : v.stand = .ready) :
    ((v.move interval task).move interval task).Steady := by
  have hbegin : (v.move interval task).stand =
      .busy v.now (v.now + (task.begin v.now v.world).1) false := by
    rw [move, h]
  have hnow : (v.move interval task).now = v.now := now_move
  refine steady_move_of_began (by rw [hbegin, hnow]) ?_
  have htime := hpos v.now v.world
  rw [hnow]
  omega

/-- **Three moves settle a loop**: the end of a run or of a sleep, the next run, and its end if it
takes no time. -/
theorem steady_moves (hpos : task.TakesTime interval) :
    (((v.move interval task).move interval task).move interval task).Steady := by
  by_cases hsteady : v.Steady
  · rwa [move_of_steady hsteady, move_of_steady hsteady, move_of_steady hsteady]
  rcases hstand : v.stand with _ | _ | due | ⟨began, due, last⟩
  · exact absurd (steady_rest hstand) hsteady
  · have htwo := steady_move_of_ready hpos hstand
    rwa [move_of_steady htwo]
  · have hdue : due ≤ v.now := by
      rw [steady_asleep hstand] at hsteady
      exact Nat.le_of_not_lt hsteady
    refine steady_move_of_ready hpos ?_
    rw [move, hstand]
    exact congrArg Front.stand (if_pos hdue)
  · have hdue : due ≤ v.now := by
      rw [steady_busy hstand] at hsteady
      exact Nat.le_of_not_lt hsteady
    have hmove : (v.move interval task).stand =
        if last then .rest else .goOn (Timeline.wakeTime interval began v.now) := by
      rw [move, hstand]
      exact congrArg Front.stand (if_pos hdue)
    cases last with
    | true =>
      have hrest : (v.move interval task).stand = .rest := hmove
      rw [move_rest hrest, move_rest hrest]
      exact steady_rest hrest
    | false =>
      rw [if_neg Bool.false_ne_true] at hmove
      unfold Timeline.wakeTime at hmove
      split at hmove
      · exact steady_move_of_ready hpos hmove
      · rename_i hwake
        have hone : (v.move interval task).Steady := by
          rw [steady_asleep hmove, now_move]
          exact Nat.lt_of_not_le hwake
        rwa [move_of_steady hone, move_of_steady hone]

end Front

/-! ### Settled loops -/

namespace Loops

variable {s : Loops} {g : Nat}

theorem doing?_drop_self : (s.drop g).doing? g = none := by
  rw [doing?_eq_none, generations_drop]
  simp

theorem aside_of_none (h : s.doing? g = none) : s.aside g = s := by
  rw [aside, h]

theorem not_counts_aside (h : ¬s.counts g) : ¬(s.aside g).counts g := by
  rwa [counts, control_aside]

/-- A loop that does not count and is not running the task ends within two moves. -/
theorem doing?_aside_aside (hd : ∀ began due, s.doing? g ≠ some (.working began due)) :
    ((s.aside g).aside g).doing? g = none := by
  rcases h : s.doing? g with _ | ⟨_ | ⟨began, due⟩ | due⟩
  · rw [aside_of_none h, aside_of_none h, h]
  · have hdrop : s.aside g = s.drop g := by rw [aside, h]
    rw [hdrop, aside_of_none doing?_drop_self, doing?_drop_self]
  · exact absurd h (hd began due)
  · have hset : s.aside g = s.set g .ready := by rw [aside, h]
    have hdrop : (s.set g .ready).aside g = (s.set g .ready).drop g := by
      rw [aside, doing?_set_self h]
    rw [hset, hdrop, doing?_drop_self]

theorem doing?_ask_of_ne {h : Nat} (hne : h ≠ g) (began due : Nat) :
    (s.ask g began due).doing? h = s.doing? h := by
  unfold ask
  split
  · exact doing?_set_of_ne hne _
  · exact doing?_drop_of_ne hne

theorem doing?_finish_of_ne {h : Nat} (hne : h ≠ g) (wake : Option Nat) :
    (s.finish g wake).doing? h = s.doing? h := by
  unfold finish
  dsimp only
  split
  · exact doing?_set_of_ne hne _
  · exact doing?_drop_of_ne hne

end Loops

namespace Timeline

open Loops

variable {interval : Nat} {task : Task ω} {t : Timeline ω} {g h : Nat}

/-- A loop has settled if it counts or has ended. -/
def Settled (g : Nat) (t : Timeline ω) : Prop :=
  t.schedule.counts g ∨ t.schedule.doing? g = none

theorem inStep_move (hs : t.schedule.InStep) : (t.move interval task g).schedule.InStep :=
  hs.of_reaches (move_reaches interval task g t)

theorem doing?_move_of_ne (hne : h ≠ g) :
    (t.move interval task g).schedule.doing? h = t.schedule.doing? h := by
  rcases hd : t.schedule.doing? g with _ | ⟨_ | ⟨began, due⟩ | due⟩
  · simp only [move, hd]
  · simp only [move, hd, Loops.step, if_true]
    split <;> exact doing?_ask_of_ne hne _ _
  · simp only [move, hd, Loops.step]
    split
    · exact doing?_finish_of_ne hne _
    · rfl
  · simp only [move, hd, Loops.step]
    split
    · exact doing?_set_of_ne hne _
    · rfl

theorem settled_move_of_ne (hs : t.schedule.InStep) (hne : h ≠ g) (ht : t.Settled h) :
    (t.move interval task g).Settled h := by
  rcases ht with hcounts | hnone
  · -- only one loop counts, so the other one changes nothing but itself
    have hg : ¬t.schedule.counts g := fun hg => hne (hcounts.1.trans hg.1.symm)
    refine .inl ?_
    rw [move_eq_aside hs hg, counts, control_aside]
    exact hcounts
  · exact .inr ((doing?_move_of_ne hne).trans hnone)

variable (interval task) in
theorem counts_move_of_goesOn (hs : t.schedule.InStep) (hgo : t.front.stand.goesOn) :
    (t.move interval task t.schedule.control.generation).schedule.counts
      t.schedule.control.generation := by
  have hfront := front_move_generation interval task hs
  have hgeneration := (congrArg Front.generation hfront).trans Front.generation_move
  have hmove : (t.move interval task t.schedule.control.generation).schedule.InStep :=
    inStep_move hs
  have hphase := phase_front hmove
  have hmoved := Stand.goesOn_iff.mp (Front.goesOn_move interval task hgo)
  rw [← hfront, hphase] at hmoved
  refine ⟨hgeneration.symm, fun hidle => ?_⟩
  rw [phase, hidle] at hmoved
  simp at hmoved

theorem settled_move (hs : t.schedule.InStep) (ht : t.Settled g) :
    (t.move interval task g).Settled g := by
  rcases ht with ⟨rfl, hactive⟩ | hnone
  · have hstands := hs.stands
    have hgo := counts_move_of_goesOn interval task hs
    generalize t.schedule.stand = a at hstands
    rw [front_eq hstands] at hgo
    cases hstands with
    | rest hphase => exact absurd hphase hactive
    | ready hphase hd => exact .inl (hgo rfl)
    | asleep due hphase hd => exact .inl (hgo rfl)
    | running began due hphase hd => exact .inl (hgo rfl)
    | stopping began due hphase hd =>
      rw [move_of_stopping hphase hd]
      split
      · exact .inr doing?_drop_self
      · exact .inl ⟨rfl, hactive⟩
  · have hsame : t.move interval task g = t := by rw [move, hnone]
    rw [hsame]
    exact .inr hnone

theorem settled_moves_of_ne (hs : t.schedule.InStep) (hne : h ≠ g) (ht : t.Settled h) :
    (t.moves interval task g).Settled h :=
  settled_move_of_ne (inStep_move (inStep_move hs)) hne
    (settled_move_of_ne (inStep_move hs) hne (settled_move_of_ne hs hne ht))

/-- **Three moves settle every loop**: one that does not count wakes up, asks in vain and ends. -/
theorem settled_moves (hs : t.schedule.InStep) : (t.moves interval task g).Settled g := by
  have hs₁ : (t.move interval task g).schedule.InStep := inStep_move hs
  have hs₂ : ((t.move interval task g).move interval task g).schedule.InStep := inStep_move hs₁
  by_cases hcounts : t.schedule.counts g
  · exact settled_move hs₂ (settled_move hs₁ (settled_move hs (.inl hcounts)))
  · have hd (began due : Nat) : t.schedule.doing? g ≠ some (.working began due) := by
      intro hd
      obtain ⟨hgen, hbusy⟩ := (hs.isWorking_iff hd).mp rfl
      refine hcounts ⟨hgen, fun hidle => ?_⟩
      simp [hidle, Phase.isBusy] at hbusy
    refine settled_move hs₂ (.inr ?_)
    rw [move_eq_aside hs hcounts] at hs₁ ⊢
    rw [move_eq_aside hs₁ (not_counts_aside hcounts)]
    exact doing?_aside_aside hd

theorem inStep_moves (hs : t.schedule.InStep) : (t.moves interval task g).schedule.InStep :=
  inStep_move (inStep_move (inStep_move hs))

/-- Loops that have settled stay so while the others settle. -/
theorem settled_foldl_moves (hs : t.schedule.InStep) {generations : List Nat}
    (ht : ∀ g ∉ generations, t.Settled g) (g : Nat) :
    (generations.foldl (moves interval task) t).Settled g := by
  induction generations generalizing t with
  | nil => exact ht g List.not_mem_nil
  | cons h rest ih =>
    refine ih (inStep_moves hs) fun g hg => ?_
    by_cases hgh : g = h
    · rw [hgh]
      exact settled_moves hs
    · refine settled_moves_of_ne hs hgh (ht g fun hmem => ?_)
      exact (List.mem_cons.mp hmem).elim hgh hg

theorem inStep_settle (hs : t.schedule.InStep) : (t.settle interval task).schedule.InStep :=
  hs.of_reaches (settle_reaches interval task t)

/-- Only the loop that counts is left when all loops are settled. -/
theorem counts_of_mem_settle (hs : t.schedule.InStep) {l : Loop}
    (hl : l ∈ (t.settle interval task).schedule.loops) :
    (t.settle interval task).schedule.counts l.generation := by
  have hsettled : (t.settle interval task).Settled l.generation :=
    settled_foldl_moves hs (fun g hg => .inr (doing?_eq_none.mpr hg)) _
  refine hsettled.resolve_right fun hnone => ?_
  exact doing?_eq_none.mp hnone (List.mem_map_of_mem hl)

/-! ### The front of a settled timeline -/

theorem front_moves (hs : t.schedule.InStep) : (t.moves interval task g).front =
    if g = t.front.generation then
      ((t.front.move interval task).move interval task).move interval task
    else t.front := by
  rw [moves, front_move (inStep_move (inStep_move hs)), front_move (inStep_move hs), front_move hs]
  split <;> simp_all [Front.generation_move]

theorem front_foldl_moves (hs : t.schedule.InStep) {generations : List Nat}
    (hnodup : generations.Nodup) : (generations.foldl (moves interval task) t).front =
    if t.front.generation ∈ generations then
      ((t.front.move interval task).move interval task).move interval task
    else t.front := by
  induction generations generalizing t with
  | nil => rfl
  | cons g rest ih =>
    obtain ⟨hg, hrest⟩ := List.nodup_cons.mp hnodup
    rw [List.foldl_cons, ih (inStep_moves hs) hrest, front_moves hs]
    by_cases hgen : g = t.front.generation
    · simp [hgen, Front.generation_move, hgen ▸ hg]
    · simp [hgen, Ne.symm hgen]

variable (interval task) in
/-- Settling moves the front three times. -/
theorem front_settle (hs : t.schedule.InStep) : (t.settle interval task).front =
    ((t.front.move interval task).move interval task).move interval task := by
  refine (front_foldl_moves hs hs.nodup).trans ?_
  split
  · rfl
  · rename_i hnone
    -- without a loop of its generation the schedule is at rest
    have hrest : t.front.stand = .rest := by
      rw [← Stand.phase_eq_idle, phase_front hs]
      exact not_not.mp fun hactive => hnone (hs.current hactive)
    rw [Front.move_rest hrest, Front.move_rest hrest, Front.move_rest hrest]

/-- What a loop that counts is doing is how the schedule stands. -/
theorem front_eq_of_mem (hs : t.schedule.InStep) {l : Loop} (hl : l ∈ t.schedule.loops)
    (hcounts : t.schedule.counts l.generation) :
    t.schedule.doing? t.schedule.control.generation = some l.doing := by
  rw [← hcounts.1]
  rcases hd : t.schedule.doing? l.generation with _ | d
  · exact absurd (List.mem_map_of_mem hl) (doing?_eq_none.mp hd)
  · obtain ⟨k, hk, hkl, rfl⟩ := exists_of_doing? hd
    rw [List.inj_on_of_nodup_map hs.nodup hk hl hkl]

/-- If only the loop that counts is left, time may pass as far as the front allows. -/
theorem Allows.of_front (hs : t.schedule.InStep)
    (hall : ∀ l ∈ t.schedule.loops, t.schedule.counts l.generation) {e : Event}
    (h : t.front.Allows e) : t.Allows e := by
  cases e with
  | start => trivial
  | stop => trivial
  | move g => trivial
  | pass time =>
    obtain ⟨hnow, hready, hdue⟩ := h
    refine ⟨hnow, fun l hl => ?_⟩
    have hdoing := front_eq_of_mem hs hl (hall l hl)
    have hgen := (hall l hl).1
    have hstands := hs.stands
    rw [Timeline.front] at hready hdue
    generalize t.schedule.stand = a at hstands hready hdue
    cases hstands with
    | rest hphase => exact absurd hphase (hall l hl).2
    | ready hphase hd => exact absurd rfl hready
    | asleep due hphase hd =>
      obtain ⟨hlt, hle⟩ := hdue due rfl
      have hld : l.doing = .sleeping due := Option.some.inj (hdoing.symm.trans hd)
      simp [canMove, dueOf, hld, hgen, Control.callsOff, hphase, hlt, hle]
    | running began due hphase hd =>
      obtain ⟨hlt, hle⟩ := hdue due rfl
      have hld : l.doing = .working began due := Option.some.inj (hdoing.symm.trans hd)
      simp [canMove, dueOf, hld, hlt, hle]
    | stopping began due hphase hd =>
      obtain ⟨hlt, hle⟩ := hdue due rfl
      have hld : l.doing = .working began due := Option.some.inj (hdoing.symm.trans hd)
      simp [canMove, dueOf, hld, hlt, hle]

/-- If only the loop that counts is left, the front tells when there is something to do. -/
theorem nextDue?_of_counts (hs : t.schedule.InStep)
    (hall : ∀ l ∈ t.schedule.loops, t.schedule.counts l.generation) :
    t.nextDue? = t.front.stand.due? := by
  have hstands := hs.stands
  rw [nextDue?, front]
  rcases hloops : t.schedule.loops with _ | ⟨l, _ | ⟨k, rest⟩⟩
  · have hidle : t.schedule.control.phase = .idle := by
      refine not_not.mp fun hactive => ?_
      have hcurrent := hs.current hactive
      rw [generations, hloops] at hcurrent
      exact List.not_mem_nil hcurrent
    rw [(Stands.rest hidle).eq]
    rfl
  · have hl : l ∈ t.schedule.loops := hloops ▸ List.mem_singleton_self l
    have hdoing := front_eq_of_mem hs hl (hall l hl)
    generalize t.schedule.stand = a at hstands
    cases hstands with
    | rest hphase => exact absurd hphase (hall l hl).2
    | ready hphase hd =>
      have hld : l.doing = .ready := Option.some.inj (hdoing.symm.trans hd)
      simp [dueOf, hld, Stand.due?]
    | asleep due hphase hd =>
      have hld : l.doing = .sleeping due := Option.some.inj (hdoing.symm.trans hd)
      simp [dueOf, hld, Stand.due?]
    | running began due hphase hd =>
      have hld : l.doing = .working began due := Option.some.inj (hdoing.symm.trans hd)
      simp [dueOf, hld, Stand.due?]
    | stopping began due hphase hd =>
      have hld : l.doing = .working began due := Option.some.inj (hdoing.symm.trans hd)
      simp [dueOf, hld, Stand.due?]
  · -- two loops would share the generation
    have hnodup := hs.nodup
    rw [generations, hloops] at hnodup
    have hl := (hall l (hloops ▸ List.mem_cons_self)).1
    have hk := (hall k (hloops ▸ List.mem_cons_of_mem _ List.mem_cons_self)).1
    simp [hl, hk] at hnodup

theorem nextDue?_settle (hs : t.schedule.InStep) :
    (t.settle interval task).nextDue? = (t.settle interval task).front.stand.due? :=
  nextDue?_of_counts (inStep_settle hs) fun _ hl => counts_of_mem_settle hs hl

/-! ### Time passing -/

theorem settle_eq_along : t.settle interval task = t.along interval task
    (t.schedule.generations.flatMap fun g => [.move g, .move g, .move g]) := by
  rw [settle]
  change List.foldl (moves interval task) t t.schedule.generations = _
  generalize t.schedule.generations = generations
  induction generations generalizing t with
  | nil => rfl
  | cons g rest ih =>
    rw [List.foldl_cons, ih, List.flatMap_cons, along_append]
    rfl

variable (interval task) in
/-- Time comes to the limit unless an awaited phase comes before. -/
theorem now_advance (awaited : Phase → Bool) (limit : Nat) (t : Timeline ω) :
    awaited (t.advance interval task awaited limit).phase = true ∨
      (t.advance interval task awaited limit).now = max t.now limit := by
  fun_induction advance interval task awaited limit t with
  | case1 t settled hawaited => exact .inl hawaited
  | case2 t settled hawaited due hnext hdue ih =>
    refine ih.imp_right fun hnow => hnow.trans ?_
    dsimp only
    omega
  | case3 => exact .inr rfl
  | case4 => exact .inr rfl

theorem now_sleep (ms : Nat) (t : Timeline ω) : (t.sleep interval task ms).now = t.now + ms := by
  have hnow := (now_advance interval task (fun _ => false) (t.now + ms) t).resolve_left
    Bool.false_ne_true
  rw [sleep, hnow]
  omega

theorem steady_settle (hs : t.schedule.InStep) (hpos : task.TakesTime interval) :
    (t.settle interval task).front.Steady := by
  rw [front_settle _ _ hs]
  exact Front.steady_moves hpos

/-- Whether a course without calls leads from one timeline to another, and a permitted one if every
run or the interval takes time. -/
def Elapses (interval : Nat) (task : Task ω) (t u : Timeline ω) : Prop :=
  ∃ course, (∀ e ∈ course, e.isCall = false) ∧ u = t.along interval task course ∧
    (task.TakesTime interval → t.Permits interval task course)

namespace Elapses

variable {u w : Timeline ω}

theorem trans (htu : t.Elapses interval task u) (huw : u.Elapses interval task w) :
    t.Elapses interval task w := by
  obtain ⟨course, hcalls, rfl, hpermits⟩ := htu
  obtain ⟨more, hmore, rfl, hlater⟩ := huw
  refine ⟨course ++ more, fun e he => ?_, (along_append course more).symm, fun hpos => ?_⟩
  · exact (List.mem_append.mp he).elim (hcalls e) (hmore e)
  · exact permits_append.mpr ⟨hpermits hpos, hlater hpos⟩

theorem refl (t : Timeline ω) : t.Elapses interval task t :=
  ⟨[], by simp, rfl, fun _ => trivial⟩

theorem settle (t : Timeline ω) : t.Elapses interval task (t.settle interval task) := by
  refine ⟨(t.schedule.generations.flatMap fun g => [g, g, g]).map .move, ?_, ?_, fun _ =>
    permits_moves _⟩
  · simp [Event.isCall]
  · rw [settle_eq_along, List.map_flatMap]
    rfl

/-- Time may pass as soon as all loops are settled, until one has something to do. -/
theorem pass (hs : t.schedule.InStep) {time : Nat} (hnow : t.now ≤ time)
    (hdue : ∀ due ∈ (t.settle interval task).nextDue?, t.now < due → time ≤ due) :
    (t.settle interval task).Elapses interval task { t.settle interval task with now := time } := by
  refine ⟨[.pass time], by simp [Event.isCall], rfl, fun hpos => ⟨?_, trivial⟩⟩
  obtain ⟨hready, hlater⟩ := steady_settle hs hpos
  refine .of_front (inStep_settle hs) (fun _ hl => counts_of_mem_settle hs hl) ⟨?_, hready, ?_⟩
  · exact (now_settle interval task t).trans_le hnow
  · intro due hd
    have hlt : t.now < due := (now_settle interval task t) ▸ hlater due hd
    exact ⟨hlater due hd, hdue due (nextDue?_settle hs ▸ hd) hlt⟩

end Elapses

variable (interval task) in
/-- Behind the moves of the present time, time passes. -/
theorem elapses_of_settle (awaited : Phase → Bool) (limit : Nat) (hs : t.schedule.InStep) :
    (t.settle interval task).Elapses interval task (t.advance interval task awaited limit) := by
  fun_induction advance interval task awaited limit t with
  | case1 t settled => exact .refl _
  | case2 t settled _ due hnext hdue ih =>
    refine .trans (.pass hs hdue.1.le ?_) (.trans (.settle _) (ih (inStep_settle hs)))
    intro d hd _
    exact (Option.some.inj (hnext.symm.trans hd)).le
  | case3 t settled _ due hnext hdue =>
    refine .pass hs (le_max_left _ _) fun d hd hlater => ?_
    obtain rfl : due = d := Option.some.inj (hnext.symm.trans hd)
    omega
  | case4 t settled _ hnext =>
    refine .pass hs (le_max_left _ _) fun d hd => ?_
    cases hnext.symm.trans hd

variable (interval task) in
/-- **Time passes along courses without calls**, and if every run or the interval takes time, along
permitted ones. -/
theorem elapses_advance (awaited : Phase → Bool) (limit : Nat) (hs : t.schedule.InStep) :
    t.Elapses interval task (t.advance interval task awaited limit) :=
  (Elapses.settle t).trans (elapses_of_settle _ _ awaited limit hs)

/-! ### While a run is under way -/

variable (interval task) in
/-- Nothing happens before the run under way is due. -/
theorem settle_of_busy {began due : Nat} {last : Bool} (hs : t.schedule.InStep)
    (hstand : t.front.stand = .busy began due last) (hlater : t.now < due) :
    (t.settle interval task).front = t.front ∧ (t.settle interval task).phase = t.phase ∧
      (t.settle interval task).nextDue? = some due := by
  have hsteady : t.front.Steady := (Front.steady_busy hstand).mpr hlater
  have hfront : (t.settle interval task).front = t.front := by
    rw [front_settle _ _ hs, Front.move_of_steady hsteady, Front.move_of_steady hsteady,
      Front.move_of_steady hsteady]
  refine ⟨hfront, ?_, ?_⟩
  · rw [← phase_front (inStep_settle hs), hfront, phase_front hs]
  · rw [nextDue?_settle hs, hfront, hstand]
    rfl

variable (interval task) in
/-- Time passes until the run under way is due. -/
theorem advance_to_due {began due : Nat} {last : Bool} (hs : t.schedule.InStep)
    (hstand : t.front.stand = .busy began due last) (hlater : t.now < due) :
    ∃ u : Timeline ω, u.schedule.InStep ∧ u.front = { t.front with now := due } ∧
      ∀ awaited limit, awaited t.phase = false → due < limit →
        t.advance interval task awaited limit = u.advance interval task awaited limit := by
  obtain ⟨hfront, hphase, hnext⟩ := settle_of_busy interval task hs hstand
    hlater
  refine ⟨{ t.settle interval task with now := due }, inStep_settle hs,
    congrArg (fun v => { v with now := due }) hfront, fun awaited limit hawaited hlimit => ?_⟩
  rw [advance, hphase, hawaited, hnext]
  simp [hlater, hlimit]

/-- Time passes up to a limit that comes before the run under way is due. -/
theorem front_advance_before_due {began due limit : Nat} {last : Bool} (hs : t.schedule.InStep)
    (hstand : t.front.stand = .busy began due last) (hnow : t.now ≤ limit) (hlimit : limit < due)
    {awaited : Phase → Bool} (hawaited : awaited t.phase = false) :
    (t.advance interval task awaited limit).front = { t.front with now := limit } := by
  obtain ⟨hfront, hphase, hnext⟩ := settle_of_busy interval task hs hstand
    (hnow.trans_lt hlimit)
  have hadvance : t.advance interval task awaited limit =
      { t.settle interval task with now := limit } := by
    rw [advance, hphase, hawaited, hnext]
    simp [hlimit.not_gt, max_eq_right hnow]
  rw [hadvance]
  exact congrArg (fun v => { v with now := limit }) hfront

end Timeline

end ChainFeed.Schedule
