import ChainFeed.Proofs.Schedule.Course

/-!
# One loop stands for all

However many loops a schedule has, only the loop of the current generation counts, and that only
unless the schedule is at rest. The **front** of a timeline keeps the generation, how the schedule
**stands** with that loop, the time and the world, and forgets the other loops. What an event makes
of the front depends on nothing else (`Timeline.front_after`): a loop of an earlier generation, or
one that a stop has called off, may still wake up and ask for a run, but nothing comes of it.

So what a timeline does along a course is what one loop does (`Timeline.front_along`), and a
permitted course is permitted for that loop (`Timeline.Permits.front`).
-/

namespace ChainFeed.Schedule

/-- How a schedule stands with the loop of its generation. -/
inductive Stand where
  /-- The schedule is at rest. -/
  | rest
  /-- The loop is about to begin a run. -/
  | ready
  /-- The loop sleeps until `due`. -/
  | asleep (due : Nat)
  /-- The loop runs the task since `began`, with the end due at `due`; no run follows if it is the
  `last` one. -/
  | busy (began due : Nat) (last : Bool)
  deriving DecidableEq, Repr

namespace Stand

/-- The phase of a schedule that stands like this. -/
def phase : Stand → Phase
  | rest => .idle
  | ready => .scheduled
  | asleep _ => .scheduled
  | busy _ _ false => .running
  | busy _ _ true => .stopping

/-- How a schedule stands after a start. -/
def start : Stand → Stand
  | rest => ready
  | ready => ready
  | asleep due => asleep due
  | busy began due _ => busy began due false

/-- How a schedule stands after a stop. -/
def stop : Stand → Stand
  | rest => rest
  | ready => rest
  | asleep _ => rest
  | busy began due _ => busy began due true

/-- How a schedule stands whose loop goes on after a run, at once or after a sleep. -/
def goOn : Option Nat → Stand
  | some due => asleep due
  | none => ready

/-- When the loop has something to do, if time has to pass before. -/
def due? : Stand → Option Nat
  | rest => none
  | ready => none
  | asleep due => some due
  | busy _ due _ => some due

/-- Whether another run follows unless a stop comes. -/
def goesOn : Stand → Bool
  | rest => false
  | ready => true
  | asleep _ => true
  | busy _ _ last => !last

theorem goesOn_goOn (wake : Option Nat) : (goOn wake).goesOn = true := by
  cases wake <;> rfl

theorem goesOn_start (a : Stand) : a.start.goesOn = true := by
  cases a <;> rfl

theorem goesOn_iff {a : Stand} : a.goesOn ↔ a.phase = .scheduled ∨ a.phase = .running := by
  cases a with
  | busy b d last => cases last <;> simp [phase, goesOn]
  | _ => simp [phase, goesOn]

/-- A stop between runs leads to rest. -/
theorem stop_of_not_busy {a : Stand} (h : a.phase.isBusy = false) : a.stop = .rest := by
  cases a with
  | busy b d last => cases last <;> cases h
  | _ => rfl

theorem phase_eq_idle {a : Stand} : a.phase = .idle ↔ a = rest := by
  cases a with
  | busy b d last => cases last <;> simp [phase]
  | _ => simp [phase]

end Stand

/-- What counts of a timeline. -/
structure Front (ω : Type) where
  /-- The generation of the loop that counts. -/
  generation : Nat
  /-- How the schedule stands with that loop. -/
  stand : Stand
  /-- The time. -/
  now : Nat
  /-- The world that the task works on. -/
  world : ω

namespace Front

variable {ω : Type}

/-- The front after a start. -/
def start (v : Front ω) : Front ω :=
  { v with
    generation := if v.stand = .rest then v.generation + 1 else v.generation
    stand := v.stand.start }

/-- The front after a stop. -/
def stop (v : Front ω) : Front ω := { v with stand := v.stand.stop }

/-- The front after the move that the loop can make now, if it can make one. -/
def move (interval : Nat) (task : Task ω) (v : Front ω) : Front ω :=
  match v.stand with
  | .rest => v
  | .ready =>
    let (duration, world) := task.begin v.now v.world
    { v with stand := .busy v.now (v.now + duration) false, world }
  | .asleep due => if due ≤ v.now then { v with stand := .ready } else v
  | .busy began due last =>
    if due ≤ v.now then
      { v with
        stand := if last then .rest else .goOn (Timeline.wakeTime interval began v.now)
        world := task.finish v.now v.world }
    else v

/-- A loop goes on until a stop comes. -/
theorem goesOn_move (interval : Nat) (task : Task ω) {v : Front ω} (h : v.stand.goesOn) :
    (v.move interval task).stand.goesOn := by
  unfold move
  split
  · exact h
  · rfl
  · split
    · rfl
    · exact h
  · rename_i began due last hstand
    split
    · have hlast : last = false := by simpa [hstand, Stand.goesOn] using h
      rw [hlast]
      exact Stand.goesOn_goOn _
    · exact h

/-- The front after an event. -/
def after (interval : Nat) (task : Task ω) (v : Front ω) : Event → Front ω
  | .start => v.start
  | .stop => v.stop
  | .move generation => if generation = v.generation then v.move interval task else v
  | .pass time => { v with now := time }

/-- The front after a course. -/
def along (interval : Nat) (task : Task ω) (v : Front ω) (course : List Event) : Front ω :=
  course.foldl (after interval task) v

/-- Whether an event may be the next one. -/
def Allows (v : Front ω) : Event → Prop
  | .pass time => v.now ≤ time ∧ v.stand ≠ .ready ∧ ∀ due ∈ v.stand.due?, v.now < due ∧ time ≤ due
  | .start | .stop | .move _ => True

/-- Whether every event of a course may be the next one. -/
def Permits (interval : Nat) (task : Task ω) (v : Front ω) : List Event → Prop
  | [] => True
  | e :: course => v.Allows e ∧ (v.after interval task e).Permits interval task course

end Front

/-! ### What a loop is doing after an update -/

namespace Loops

variable {s : Loops} {g h : Nat} {d : Doing}

theorem doing?_set_self (hd : s.doing? g = some d) (e : Doing) :
    (s.set g e).doing? g = some e := by
  obtain ⟨l, hfind, -⟩ := Option.map_eq_some_iff.mp hd
  have hkeep : ((fun l : Loop => l.generation == g) ∘
      fun l => if l.generation = g then { l with doing := e } else l) =
      fun l => l.generation == g := by
    funext l
    dsimp only [Function.comp]
    split <;> rfl
  have hlg : l.generation = g := by simpa using List.find?_some hfind
  rw [doing?, set, List.find?_map, hkeep, hfind, Option.map_some, Option.map_some, if_pos hlg]

theorem doing?_set_of_ne (hne : h ≠ g) (e : Doing) : (s.set g e).doing? h = s.doing? h := by
  have hkeep : ((fun l : Loop => l.generation == h) ∘
      fun l => if l.generation = g then { l with doing := e } else l) =
      fun l => l.generation == h := by
    funext l
    dsimp only [Function.comp]
    split <;> rfl
  rw [doing?, doing?, set, List.find?_map, hkeep, Option.map_map]
  refine Option.map_congr fun l hl => ?_
  have hlh : l.generation = h := by simpa using List.find?_some hl
  exact congrArg Loop.doing (if_neg fun hlg => hne (hlh.symm.trans hlg))

theorem doing?_drop_of_ne (hne : h ≠ g) : (s.drop g).doing? h = s.doing? h := by
  rw [doing?, doing?, drop, List.find?_filter]
  congr 2
  funext l
  by_cases hl : l.generation = h
  · simp [hl, hne]
  · simp [hl]

theorem doing?_eq_none : s.doing? g = none ↔ g ∉ s.generations := by
  simp [doing?, generations, List.find?_eq_none]

/-! ### How a schedule stands -/

/-- How the schedule stands with the loop of its generation. -/
def stand (s : Loops) : Stand :=
  if s.control.phase = .idle then .rest
  else
    match s.doing? s.control.generation with
    | some .ready => .ready
    | some (.sleeping due) => .asleep due
    | some (.working began due) => .busy began due (s.control.phase = .stopping)
    | none => .rest

/-- How the phase and the loop of the generation go together. -/
inductive Stands (s : Loops) : Stand → Prop
  /-- A schedule at rest, whatever its loops do. -/
  | rest (phase : s.control.phase = .idle) : s.Stands .rest
  /-- A loop that is about to begin a run. -/
  | ready (phase : s.control.phase = .scheduled)
      (doing : s.doing? s.control.generation = some .ready) : s.Stands .ready
  /-- A loop that sleeps between two runs. -/
  | asleep (due : Nat) (phase : s.control.phase = .scheduled)
      (doing : s.doing? s.control.generation = some (.sleeping due)) : s.Stands (.asleep due)
  /-- A loop that runs the task and goes on afterwards. -/
  | running (began due : Nat) (phase : s.control.phase = .running)
      (doing : s.doing? s.control.generation = some (.working began due)) :
      s.Stands (.busy began due false)
  /-- A loop that runs the task for the last time. -/
  | stopping (began due : Nat) (phase : s.control.phase = .stopping)
      (doing : s.doing? s.control.generation = some (.working began due)) :
      s.Stands (.busy began due true)

theorem Stands.eq {a : Stand} (h : s.Stands a) : s.stand = a := by
  cases h with
  | rest hphase => rw [stand, if_pos hphase]
  | ready hphase hd => simp [stand, hphase, hd]
  | asleep due hphase hd => simp [stand, hphase, hd]
  | running began due hphase hd => simp [stand, hphase, hd]
  | stopping began due hphase hd => simp [stand, hphase, hd]

theorem Stands.phase_eq {a : Stand} (h : s.Stands a) : a.phase = s.control.phase := by
  cases h with
  | rest hphase => exact hphase.symm
  | ready hphase => exact hphase.symm
  | asleep due hphase => exact hphase.symm
  | running began due hphase => exact hphase.symm
  | stopping began due hphase => exact hphase.symm

/-- A schedule whose control and loops say the same stands somehow. -/
theorem InStep.stands (hs : s.InStep) : s.Stands s.stand := by
  by_cases hidle : s.control.phase = .idle
  · rw [(Stands.rest hidle).eq]
    exact .rest hidle
  · obtain ⟨d, hd⟩ : ∃ d, s.doing? s.control.generation = some d := by
      refine Option.ne_none_iff_exists'.mp fun hnone => ?_
      exact doing?_eq_none.mp hnone (hs.current hidle)
    have hworking : d.isWorking ↔ s.control.phase.isBusy := by
      simpa using hs.isWorking_iff hd
    -- the phase tells whether the loop runs the task
    obtain ⟨a, ha⟩ : ∃ a, s.Stands a := by
      cases d with
      | ready =>
        cases hphase : s.control.phase with
        | scheduled => exact ⟨_, .ready hphase hd⟩
        | _ => simp_all [Doing.isWorking, Phase.isBusy]
      | sleeping due =>
        cases hphase : s.control.phase with
        | scheduled => exact ⟨_, .asleep due hphase hd⟩
        | _ => simp_all [Doing.isWorking, Phase.isBusy]
      | working began due =>
        cases hphase : s.control.phase with
        | running => exact ⟨_, .running began due hphase hd⟩
        | stopping => exact ⟨_, .stopping began due hphase hd⟩
        | _ => simp_all [Doing.isWorking, Phase.isBusy]
    rwa [ha.eq]

/-- The stand depends on the control and on the loop of the generation only. -/
theorem stand_congr {u : Loops} (hc : u.control = s.control)
    (hd : s.control.phase ≠ .idle →
      u.doing? s.control.generation = s.doing? s.control.generation) : u.stand = s.stand := by
  rw [stand, stand, hc]
  by_cases hidle : s.control.phase = .idle
  · rw [if_pos hidle, if_pos hidle]
  · rw [if_neg hidle, if_neg hidle, hd hidle]

/-! ### Calls -/

theorem Stands.start {a : Stand} (h : s.Stands a) (hs : s.InStep) :
    s.start.Stands a.start ∧ s.start.control.generation =
      if a = .rest then s.control.generation + 1 else s.control.generation := by
  cases h with
  | rest hphase =>
    have hstart : s.start = ⟨⟨.scheduled, s.control.generation + 1⟩,
        s.loops ++ [⟨s.control.generation + 1, .ready⟩]⟩ := by
      simp [Loops.start, Control.start, hphase]
    -- no loop is of a later generation
    have hnew : s.loops.find? (·.generation == s.control.generation + 1) = none := by
      refine List.find?_eq_none.mpr fun l hl heq => ?_
      have hle := hs.le l hl
      simp only [beq_iff_eq] at heq
      omega
    rw [hstart]
    refine ⟨.ready rfl ?_, rfl⟩
    rw [doing?, List.find?_append, hnew]
    simp
  | ready hphase hd =>
    have hstart : s.start = s := by simp [Loops.start, Control.start, hphase]
    rw [hstart]
    exact ⟨.ready hphase hd, rfl⟩
  | asleep due hphase hd =>
    have hstart : s.start = s := by simp [Loops.start, Control.start, hphase]
    rw [hstart]
    exact ⟨.asleep due hphase hd, rfl⟩
  | running began due hphase hd =>
    have hstart : s.start = s := by simp [Loops.start, Control.start, hphase]
    rw [hstart]
    exact ⟨.running began due hphase hd, rfl⟩
  | stopping began due hphase hd =>
    have hstart : s.start = { s with control := { s.control with phase := .running } } := by
      simp [Loops.start, Control.start, hphase]
    rw [hstart]
    exact ⟨.running began due rfl hd, rfl⟩

theorem Stands.stop {a : Stand} (h : s.Stands a) :
    s.stop.Stands a.stop ∧ s.stop.control.generation = s.control.generation := by
  cases h with
  | rest hphase =>
    have hstop : s.stop = s := by simp [Loops.stop, Control.stop, hphase]
    rw [hstop]
    exact ⟨.rest hphase, rfl⟩
  | ready hphase hd =>
    refine ⟨.rest ?_, ?_⟩ <;> simp [Loops.stop, Control.stop, hphase]
  | asleep due hphase hd =>
    refine ⟨.rest ?_, ?_⟩ <;> simp [Loops.stop, Control.stop, hphase]
  | running began due hphase hd =>
    have hstop : s.stop = { s with control := { s.control with phase := .stopping } } := by
      simp [Loops.stop, Control.stop, hphase]
    rw [hstop]
    exact ⟨.stopping began due rfl hd, rfl⟩
  | stopping began due hphase hd =>
    have hstop : s.stop = s := by simp [Loops.stop, Control.stop, hphase]
    rw [hstop]
    exact ⟨.stopping began due hphase hd, rfl⟩

/-! ### Loops that do not count -/

/-- The loop of a generation counts if it is the current one and the schedule is not at rest. -/
def counts (g : Nat) (s : Loops) : Prop := g = s.control.generation ∧ s.control.phase ≠ .idle

/-- The schedule after a loop that does not count wakes up, or asks in vain. -/
def aside (g : Nat) (s : Loops) : Loops :=
  match s.doing? g with
  | some .ready => s.drop g
  | some (.sleeping _) => s.set g .ready
  | some (.working ..) | none => s

theorem control_aside : (s.aside g).control = s.control := by
  unfold aside
  split <;> rfl

theorem doing?_aside_of_ne (hne : h ≠ g) : (s.aside g).doing? h = s.doing? h := by
  unfold aside
  split
  · exact doing?_drop_of_ne hne
  · exact doing?_set_of_ne hne _
  · rfl
  · rfl

theorem stand_aside (hg : ¬s.counts g) : (s.aside g).stand = s.stand := by
  refine stand_congr control_aside fun hactive => doing?_aside_of_ne ?_
  rintro rfl
  exact hg ⟨rfl, hactive⟩

end Loops

namespace Timeline

open Loops

variable {ω : Type} {interval : Nat} {task : Task ω} {t : Timeline ω} {g : Nat}

/-- What counts of the timeline. -/
def front (t : Timeline ω) : Front ω :=
  ⟨t.schedule.control.generation, t.schedule.stand, t.now, t.world⟩

theorem phase_front (hs : t.schedule.InStep) : t.front.stand.phase = t.phase :=
  hs.stands.phase_eq

/-! ### Events -/

theorem front_start (hs : t.schedule.InStep) : t.start.front = t.front.start := by
  obtain ⟨hstands, hgeneration⟩ := hs.stands.start hs
  exact congrArg₂ (fun g a => (⟨g, a, t.now, t.world⟩ : Front ω)) hgeneration hstands.eq

theorem front_stop (hs : t.schedule.InStep) : t.stop.front = t.front.stop := by
  obtain ⟨hstands, hgeneration⟩ := hs.stands.stop
  exact congrArg₂ (fun g a => (⟨g, a, t.now, t.world⟩ : Front ω)) hgeneration hstands.eq

/-- A loop that does not count is never let in, and does not sleep on. -/
theorem move_eq_aside (hs : t.schedule.InStep) (hg : ¬t.schedule.counts g) :
    t.move interval task g = { t with schedule := t.schedule.aside g } := by
  have hadmits : t.schedule.control.admits g = false := by
    rw [Bool.eq_false_iff]
    intro hadmits
    simp only [Control.admits, Bool.and_eq_true, beq_iff_eq] at hadmits
    exact hg ⟨hadmits.1.symm, by simp [hadmits.2]⟩
  have hoff : t.schedule.control.callsOff g = true := by
    by_cases hgen : g = t.schedule.control.generation
    · have hidle : t.schedule.control.phase = .idle :=
        not_not.mp fun hactive => hg ⟨hgen, hactive⟩
      simp [Control.callsOff, hidle]
    · simp [Control.callsOff, Ne.symm hgen]
  unfold move aside
  rcases hd : t.schedule.doing? g with _ | ⟨_ | ⟨began, due⟩ | due⟩
  · rfl
  · simp [hadmits, Loops.step, hd, Loops.ask]
  · -- only the loop that counts runs the task
    obtain ⟨hgen, hbusy⟩ := (hs.isWorking_iff hd).mp rfl
    refine absurd ⟨hgen, fun hidle => ?_⟩ hg
    simp [hidle, Phase.isBusy] at hbusy
  · simp [hoff, Loops.step, hd]

theorem front_move_of_not_counts (hs : t.schedule.InStep) (hg : ¬t.schedule.counts g) :
    (t.move interval task g).front = t.front := by
  rw [move_eq_aside hs hg, front, front, stand_aside hg, control_aside]

theorem front_eq {a : Stand} (h : t.schedule.Stands a) :
    t.front = ⟨t.schedule.control.generation, a, t.now, t.world⟩ := by
  rw [front, h.eq]

/-- A run that is the last one takes its loop with it. -/
theorem move_of_stopping {began due : Nat} (hphase : t.schedule.control.phase = .stopping)
    (hd : t.schedule.doing? t.schedule.control.generation = some (.working began due)) :
    t.move interval task t.schedule.control.generation =
      if due ≤ t.now then
        ⟨t.now, { t.schedule with control := { t.schedule.control with phase := .idle } }.drop
          t.schedule.control.generation, task.finish t.now t.world⟩
      else t := by
  simp [move, hd, Loops.step, Loops.finish, Control.goesOn, Control.endRun, hphase]

variable (interval task) in
/-- The loop of the generation does what the front says. -/
theorem front_move_generation (hs : t.schedule.InStep) :
    (t.move interval task t.schedule.control.generation).front = t.front.move interval task := by
  have hstands := hs.stands
  generalize t.schedule.stand = a at hstands
  rw [front_eq hstands]
  cases hstands with
  | rest hphase =>
    rw [front_move_of_not_counts hs fun hcounts => hcounts.2 hphase, front_eq (.rest hphase)]
    rfl
  | ready hphase hd =>
    have hmove : t.move interval task t.schedule.control.generation =
        ⟨t.now, { t.schedule with control := t.schedule.control.beginRun }.set
          t.schedule.control.generation (.working t.now (t.now + (task.begin t.now t.world).1)),
          (task.begin t.now t.world).2⟩ := by
      simp [move, hd, Control.admits, hphase, Loops.step, Loops.ask]
    rw [hmove]
    exact front_eq (.running _ _ rfl (doing?_set_self hd _))
  | asleep due hphase hd =>
    have hmove : t.move interval task t.schedule.control.generation =
        if due ≤ t.now then { t with
          schedule := t.schedule.set t.schedule.control.generation .ready } else t := by
      simp [move, hd, Control.callsOff, hphase, Loops.step]
    rw [hmove, Front.move]
    dsimp only
    split
    · exact front_eq (.ready hphase (doing?_set_self hd _))
    · exact front_eq (.asleep due hphase hd)
  | running began due hphase hd =>
    have hmove : t.move interval task t.schedule.control.generation =
        if due ≤ t.now then ⟨t.now, { t.schedule with control := t.schedule.control.endRun }.set
          t.schedule.control.generation (match wakeTime interval began t.now with
            | some due => .sleeping due
            | none => .ready), task.finish t.now t.world⟩ else t := by
      simp only [move, hd, Loops.step, Loops.finish, Control.goesOn, hphase]
      rfl
    have hend : t.schedule.control.endRun = { t.schedule.control with phase := .scheduled } := by
      simp [Control.endRun, hphase]
    rw [hmove, Front.move, hend]
    dsimp only
    split
    · cases wakeTime interval began t.now with
      | none => exact front_eq (.ready rfl (doing?_set_self hd _))
      | some due => exact front_eq (.asleep due rfl (doing?_set_self hd _))
    · exact front_eq (.running began due hphase hd)
  | stopping began due hphase hd =>
    rw [move_of_stopping hphase hd, Front.move]
    dsimp only
    split
    · exact front_eq (.rest rfl)
    · exact front_eq (.stopping began due hphase hd)

theorem front_move (hs : t.schedule.InStep) :
    (t.move interval task g).front =
      if g = t.front.generation then t.front.move interval task else t.front := by
  split
  · rename_i hg
    obtain rfl : g = t.schedule.control.generation := hg
    exact front_move_generation _ _ hs
  · rename_i hg
    exact front_move_of_not_counts hs fun hcounts => hg hcounts.1

/-- **One loop stands for all**: what an event makes of the front depends on the front alone. -/
theorem front_after (hs : t.schedule.InStep) (e : Event) :
    (t.after interval task e).front = t.front.after interval task e := by
  cases e with
  | start => exact front_start hs
  | stop => exact front_stop hs
  | move g => exact front_move hs
  | pass time => rfl

variable (interval task) in
theorem front_along (hs : t.schedule.InStep) (course : List Event) :
    (t.along interval task course).front = t.front.along interval task course := by
  induction course generalizing t with
  | nil => rfl
  | cons e course ih =>
    rw [along_cons, ih (hs.of_reaches (after_reaches e)), front_after hs]
    rfl

/-! ### Permission -/

/-- The loop that counts is one of those that must not be able to move when time passes. -/
theorem Allows.front (hs : t.schedule.InStep) {e : Event} (h : t.Allows e) : t.front.Allows e := by
  cases e with
  | start => trivial
  | stop => trivial
  | move g => trivial
  | pass time =>
    obtain ⟨hnow, hloops⟩ := h
    have hcurrent {d : Doing} (hd : t.schedule.doing? t.schedule.control.generation = some d) :
        t.canMove ⟨t.schedule.control.generation, d⟩ = false ∧
          ∀ due ∈ dueOf ⟨t.schedule.control.generation, d⟩, time ≤ due := by
      obtain ⟨l, hl, hlg, hld⟩ := exists_of_doing? hd
      obtain rfl : l = ⟨t.schedule.control.generation, d⟩ := by rw [← hlg, ← hld]
      exact hloops _ hl
    have hstands := hs.stands
    generalize t.schedule.stand = a at hstands
    rw [front_eq hstands]
    refine ⟨hnow, ?_⟩
    cases hstands with
    | rest hphase => simp [Stand.due?]
    | ready hphase hd => simpa [canMove] using (hcurrent hd).1
    | asleep due hphase hd =>
      obtain ⟨hmove, hdue⟩ := hcurrent hd
      simp_all [canMove, dueOf, Stand.due?]
    | running began due hphase hd =>
      obtain ⟨hmove, hdue⟩ := hcurrent hd
      simp_all [canMove, dueOf, Stand.due?]
    | stopping began due hphase hd =>
      obtain ⟨hmove, hdue⟩ := hcurrent hd
      simp_all [canMove, dueOf, Stand.due?]

theorem Permits.front (hs : t.schedule.InStep) {course : List Event}
    (h : t.Permits interval task course) : t.front.Permits interval task course := by
  induction course generalizing t with
  | nil => trivial
  | cons e course ih =>
    refine ⟨h.1.front hs, ?_⟩
    rw [← front_after hs]
    exact ih (hs.of_reaches (after_reaches e)) h.2

end Timeline

end ChainFeed.Schedule
