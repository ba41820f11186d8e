import Mathlib.Data.List.Basic
import Mathlib.Data.List.Induction
import Mathlib.Data.Set.List
import ChainFeed.Proofs.Gateway.Acts

/-!
# Many requests, move by move

A fan-out keeps its items in order and collects answers from the front (`Fanout.Orderly`). So if it
comes to answers, there is one for every item, in the order of the items, whatever the order of the
moves (`Orderly.of_outcome_ok`), and if a request has failed, it does not come to answers
(`Orderly.not_ok_of_failed`).

Every move that changes anything brings a fan-out closer to its outcome
(`Fanout.remaining_move_lt`), and there is one as long as there is no outcome
(`Fanout.exists_remaining_lt`). To take the requests one at a time is one way to get there, and
comes to what asking for one item after the other comes to (`Fanout.exists_run_eq_inTurn`).

If the wire keeps a log, the fan-out does the same, and the log holds one part for each item, which
explains where its request stands; the parts may be mixed (`Fanout.Traced`).
-/

namespace ChainFeed

/-! ### One question after another -/

namespace Asking

variable {σ β γ : Type} {x : Asking σ β} {server next : σ}

/-- Asking goes on with an answer. -/
theorem bind_of_ok {f : β → Asking σ γ} {answer : β} (h : x server = (.ok answer, next)) :
    (x >>= f) server = f answer next := by
  simp only [bind, ExceptT.bind, ExceptT.mk, ExceptT.bindCont, StateT.bind]
  rw [h]

/-- Asking ends with an error. -/
theorem bind_of_error {f : β → Asking σ γ} {e : GatewayError} (h : x server = (.error e, next)) :
    (x >>= f) server = (.error e, next) := by
  simp only [bind, ExceptT.bind, ExceptT.mk, ExceptT.bindCont, StateT.bind]
  rw [h]
  rfl

/-- Only the answer changes. -/
theorem map_apply (f : β → γ) (x : Asking σ β) (server : σ) :
    (f <$> x) server = (x server).map (·.map f) id := by
  rw [map_eq_pure_bind]
  rcases hx : x server with ⟨e | answer, next⟩
  · rw [bind_of_error hx]
    rfl
  · rw [bind_of_ok hx]
    rfl

theorem bind_eq_error_iff {f : β → Asking σ γ} {e : GatewayError} :
    ((x >>= f) server).1 = .error e ↔
      (x server).1 = .error e ∨
        ∃ answer next, x server = (.ok answer, next) ∧ (f answer next).1 = .error e := by
  rcases hx : x server with ⟨e' | answer, next⟩
  · rw [bind_of_error hx]
    constructor
    · exact fun h => .inl (congrArg Except.error (Except.error.inj h))
    · rintro (h | ⟨_, _, h, -⟩)
      · exact congrArg Except.error (Except.error.inj h)
      · cases h
  · rw [bind_of_ok hx]
    constructor
    · exact fun h => .inr ⟨answer, next, rfl, h⟩
    · rintro (h | ⟨_, _, h, herror⟩)
      · cases h
      · obtain ⟨hanswer, rfl⟩ := Prod.mk.inj h
        obtain rfl := Except.ok.inj hanswer
        exact herror

variable {ι : Type} {ask : ι → Asking σ β} {item : ι} {items : List ι}

theorem mapM_cons_of_ok {answer : β} (h : ask item server = (.ok answer, next)) :
    (item :: items).mapM ask server = (items.mapM ask next).map (·.map (answer :: ·)) id := by
  rw [List.mapM_cons, bind_of_ok h]
  rcases hrest : items.mapM ask next with ⟨e | answers, last⟩
  · exact bind_of_error hrest
  · exact bind_of_ok hrest

theorem mapM_cons_of_error {e : GatewayError} (h : ask item server = (.error e, next)) :
    (item :: items).mapM ask server = (.error e, next) := by
  rw [List.mapM_cons]
  exact bind_of_error h

/-- Asking for one item after the other ends with an error if and only if asking for one of them
does, when all items before it are answered. -/
theorem mapM_eq_error_iff {e : GatewayError} :
    (items.mapM ask server).1 = .error e ↔
      ∃ before item behind answers amid, items = before ++ item :: behind ∧
        before.mapM ask server = (.ok answers, amid) ∧ (ask item amid).1 = .error e := by
  induction items generalizing server with
  | nil =>
    rw [List.mapM_nil]
    constructor
    · intro h
      cases h
    · rintro ⟨before, item, behind, -, -, hsplit, -⟩
      exact absurd hsplit.symm (List.append_ne_nil_of_right_ne_nil _ (List.cons_ne_nil _ _))
  | cons first items ih =>
    rcases hfirst : ask first server with ⟨e' | answer, next⟩
    · rw [mapM_cons_of_error hfirst]
      constructor
      · intro heq
        obtain rfl := Except.error.inj heq
        exact ⟨[], first, items, [], server, rfl, rfl, by rw [hfirst]⟩
      · rintro ⟨_ | ⟨other, before⟩, item, behind, answers, amid, hsplit, hbefore, herror⟩
        · obtain ⟨rfl, rfl⟩ := List.cons.inj hsplit
          obtain ⟨-, rfl⟩ := Prod.mk.inj hbefore
          rw [hfirst] at herror
          rw [Except.error.inj herror]
        · obtain ⟨rfl, -⟩ := List.cons.inj hsplit
          rw [mapM_cons_of_error hfirst] at hbefore
          cases hbefore
    · have hrest : ((first :: items).mapM ask server).1 = .error e ↔
          (items.mapM ask next).1 = .error e := by
        rw [mapM_cons_of_ok hfirst, Prod.map_fst]
        cases (items.mapM ask next).1 <;> simp [Except.map]
      rw [hrest, ih]
      constructor
      · rintro ⟨before, item, behind, answers, amid, rfl, hbefore, herror⟩
        refine ⟨first :: before, item, behind, answer :: answers, amid, rfl, ?_, herror⟩
        rw [mapM_cons_of_ok hfirst, hbefore]
        rfl
      · rintro ⟨_ | ⟨other, before⟩, item, behind, answers, amid, hsplit, hbefore, herror⟩
        · obtain ⟨rfl, rfl⟩ := List.cons.inj hsplit
          obtain ⟨-, rfl⟩ := Prod.mk.inj hbefore
          rw [hfirst] at herror
          cases herror
        · obtain ⟨rfl, rfl⟩ := List.cons.inj hsplit
          rw [mapM_cons_of_ok hfirst] at hbefore
          rcases hmore : before.mapM ask next with ⟨e' | others, amid'⟩
          · rw [hmore] at hbefore
            cases hbefore
          · rw [hmore] at hbefore
            obtain ⟨-, rfl⟩ := Prod.mk.inj hbefore
            exact ⟨before, item, behind, others, amid', rfl, hmore, herror⟩

end Asking

namespace Fanout

variable {σ ι α : Type} {step : ι → Act → Standing α → σ → Standing α × σ} {limit : ℕ}
  {fanout : Fanout σ ι α}

/-! ### What a move does -/

theorem run_append (fanout : Fanout σ ι α) (moves more : List Move) :
    fanout.run step limit (moves ++ more) = (fanout.run step limit moves).run step limit more :=
  List.foldl_append

theorem run_concat (fanout : Fanout σ ι α) (moves : List Move) (m : Move) :
    fanout.run step limit (moves ++ [m]) = (fanout.run step limit moves).move step limit m :=
  List.foldl_concat _ _ _ _

theorem move_of_none {m : Move} (h : fanout.flight? limit m = none) :
    fanout.move step limit m = fanout := by
  simp only [move, h]

theorem move_fly {act : Act} {index : ℕ} {item : ι} {standing : Standing α}
    (h : fanout.flight? limit (.fly act index) = some (item, standing)) :
    fanout.move step limit (.fly act index) =
      { fanout with
        flights := fanout.flights.set index (item, (step item act standing fanout.server).1)
        server := (step item act standing fanout.server).2 } := by
  simp only [move, h]

theorem move_collect {flight : ι × Standing α} (h : fanout.flight? limit .collect = some flight) :
    fanout.move step limit .collect = { fanout with collected := fanout.collected + 1 } := by
  simp only [move, h]

theorem flight?_fly_iff {act : Act} {index : ℕ} {flight : ι × Standing α} :
    fanout.flight? limit (.fly act index) = some flight ↔
      fanout.outcome? = none ∧ index < fanout.collected + limit ∧
        fanout.flights[index]? = some flight := by
  rw [flight?]
  cases fanout.outcome? with
  | some outcome => simp
  | none => simp

theorem flight?_collect_iff {flight : ι × Standing α} :
    fanout.flight? limit .collect = some flight ↔
      fanout.flights[fanout.collected]? = some flight ∧
        ∃ answer, flight.2 = .ended (.ok answer) := by
  rw [flight?, outcome?]
  rcases fanout.flights[fanout.collected]? with _ | ⟨item, _ | _ | e | answer⟩
  · simp
  · simp [Option.filter, Standing.hasEnded]
    grind
  · simp [Option.filter, Standing.hasEnded]
    grind
  · simp
    grind
  · simp [Option.filter, Standing.hasEnded]
    grind

/-- A list with another item in the place of one of its items. -/
theorem exists_set_eq {β : Type} {xs : List β} {i : ℕ} {x : β} (h : xs[i]? = some x) (y : β) :
    ∃ before behind, xs = before ++ x :: behind ∧ xs.set i y = before ++ y :: behind := by
  obtain ⟨hi, rfl⟩ := List.getElem?_eq_some_iff.mp h
  obtain ⟨before, behind, heq, -, hset⟩ : ∃ before behind, xs = before ++ xs[i] :: behind ∧
      before.length = i ∧ xs.set i y = before ++ y :: behind := List.exists_of_set hi
  exact ⟨before, behind, heq, hset⟩

/-! ### Order -/

/-- Nothing happens any more to requests that have ended. -/
def Final (step : ι → Act → Standing α → σ → Standing α × σ) : Prop :=
  ∀ item act result server, step item act (.ended result) server = (.ended result, server)

/-- The fan-out holds the items in order, and answers to all that are collected. -/
structure Orderly (items : List ι) (fanout : Fanout σ ι α) : Prop where
  /-- The items are in order. -/
  items_eq : fanout.flights.map Prod.fst = items
  /-- What is collected is an answer. -/
  collected_ok (i : ℕ) : i < fanout.collected →
    ∃ item answer, fanout.flights[i]? = some (item, .ended (.ok answer))

/-- **Every move keeps the order**, and what is collected. -/
theorem Orderly.move {items : List ι} (h : Orderly items fanout) (hfinal : Final step) (m : Move) :
    Orderly items (fanout.move step limit m) := by
  cases hflight : fanout.flight? limit m with
  | none =>
    rw [move_of_none hflight]
    exact h
  | some flight =>
    obtain ⟨item, standing⟩ := flight
    cases m with
    | fly act index =>
      obtain ⟨-, -, hget⟩ := flight?_fly_iff.mp hflight
      rw [move_fly hflight]
      constructor
      · obtain ⟨before, behind, heq, hset⟩ :=
          exists_set_eq hget (item, (step item act standing fanout.server).1)
        rw [hset, ← h.items_eq, heq, List.map_append, List.map_append, List.map_cons, List.map_cons]
      · intro i hi
        obtain ⟨other, answer, hother⟩ := h.collected_ok i hi
        refine ⟨other, answer, ?_⟩
        rw [List.getElem?_set]
        split
        · rename_i hsame
          rw [hsame, hother] at hget
          obtain ⟨rfl, rfl⟩ := Prod.mk.inj (Option.some.inj hget)
          obtain ⟨hlt, -⟩ := List.getElem?_eq_some_iff.mp hother
          rw [if_pos (hsame ▸ hlt), hfinal]
        · exact hother
    | collect =>
      obtain ⟨hget, answer, hanswer⟩ := flight?_collect_iff.mp hflight
      obtain rfl : standing = .ended (.ok answer) := hanswer
      rw [move_collect hflight]
      refine ⟨h.items_eq, fun i hi => ?_⟩
      rcases Nat.lt_succ_iff_lt_or_eq.mp hi with hi | rfl
      · exact h.collected_ok i hi
      · exact ⟨item, answer, hget⟩

theorem Orderly.run {items : List ι} (h : Orderly items fanout) (hfinal : Final step)
    (moves : List Move) : Orderly items (fanout.run step limit moves) := by
  induction moves using List.reverseRecOn with
  | nil => exact h
  | append_singleton moves m ih =>
    rw [run_concat]
    exact ih.move hfinal m

/-- A request that came to an answer. -/
def answered (entry : ι × α) : ι × Standing α := (entry.1, .ended (.ok entry.2))

theorem filterMap_answer?_map (entries : List (ι × α)) :
    (entries.map answered).filterMap answer? = entries := by
  rw [List.filterMap_map]
  exact List.filterMap_some

/-- The next flight to collect is behind all flights if there are only answers. -/
theorem outcome?_eq_ok_iff {entries : List (ι × α)} :
    fanout.outcome? = some (.ok entries) ↔
      fanout.flights.length ≤ fanout.collected ∧ entries = fanout.flights.filterMap answer? := by
  rw [outcome?, ← List.getElem?_eq_none_iff]
  rcases fanout.flights[fanout.collected]? with _ | ⟨item, _ | _ | e | answer⟩
  · simp [eq_comm]
  · simp
  · simp
  · simp
  · simp

theorem outcome?_eq_error_iff {e : GatewayError} :
    fanout.outcome? = some (.error e) ↔
      ∃ item, fanout.flights[fanout.collected]? = some (item, .ended (.error e)) := by
  rw [outcome?]
  rcases fanout.flights[fanout.collected]? with _ | ⟨item, _ | _ | e' | answer⟩
  · simp
  · simp
  · simp
  · simp
  · simp

/-- **An outcome has one answer for each item, in order.** -/
theorem Orderly.of_outcome_ok {items : List ι} (h : Orderly items fanout)
    {entries : List (ι × α)} (hok : fanout.outcome? = some (.ok entries)) :
    fanout.flights = entries.map answered ∧ entries.map Prod.fst = items := by
  obtain ⟨hlength, rfl⟩ := outcome?_eq_ok_iff.mp hok
  have hall : fanout.flights ∈ Set.range (List.map (answered (ι := ι) (α := α))) := by
    rw [Set.range_list_map]
    intro flight hflight
    obtain ⟨i, hi, rfl⟩ := List.mem_iff_getElem.mp hflight
    obtain ⟨item, answer, hget⟩ := h.collected_ok i (by omega)
    exact ⟨(item, answer), (Option.some.inj ((List.getElem?_eq_getElem hi).symm.trans hget)).symm⟩
  obtain ⟨entries, hentries⟩ := hall
  rw [← hentries, filterMap_answer?_map]
  refine ⟨rfl, ?_⟩
  rw [← h.items_eq, ← hentries, List.map_map]
  rfl

/-- **A fan-out with a failed request has no answers.** -/
theorem Orderly.not_ok_of_failed {items : List ι} (h : Orderly items fanout) {item : ι}
    {e : GatewayError} (hfailed : (item, .ended (.error e)) ∈ fanout.flights)
    (entries : List (ι × α)) : fanout.outcome? ≠ some (.ok entries) := by
  intro hok
  rw [(h.of_outcome_ok hok).1] at hfailed
  obtain ⟨entry, -, hentry⟩ := List.mem_map.mp hfailed
  cases hentry

/-! ### Progress -/

/-- How many acts a request may still take at most. -/
def actsLeft : Standing α → ℕ
  | .due trial => 2 * trial.retries + 2
  | .awaiting trial _ => 2 * trial.retries + 1
  | .ended _ => 0

/-- How many moves that change anything a fan-out may still take at most. -/
def remaining (fanout : Fanout σ ι α) : ℕ :=
  (fanout.flights.map fun flight => actsLeft flight.2).sum +
    (fanout.flights.length - fanout.collected)

/-- Requests get on: an act changes nothing or leaves less to do, what is due can be sent, and what
is awaited arrives. -/
structure Progressive (step : ι → Act → Standing α → σ → Standing α × σ) : Prop where
  /-- An act changes nothing or leaves less to do. -/
  step_cases (item : ι) (act : Act) (standing : Standing α) (server : σ) :
    step item act standing server = (standing, server) ∨
      actsLeft (step item act standing server).1 < actsLeft standing
  /-- What is due can be sent. -/
  send (item : ι) (trial : Trial) (server : σ) :
    actsLeft (step item .send (.due trial) server).1 < actsLeft (.due trial : Standing α)
  /-- What is awaited arrives. -/
  arrive (item : ι) (trial : Trial) (exchange : Exchange) (server : σ) :
    actsLeft (step item .arrive (.awaiting trial exchange) server).1 <
      actsLeft (.awaiting trial exchange : Standing α)

/-- An act that leaves a request less to do leaves the fan-out less to do. -/
theorem remaining_fly_lt {act : Act} {index : ℕ} {item : ι} {standing : Standing α}
    (hflight : fanout.flight? limit (.fly act index) = some (item, standing))
    (hless : actsLeft (step item act standing fanout.server).1 < actsLeft standing) :
    (fanout.move step limit (.fly act index)).remaining < fanout.remaining := by
  obtain ⟨-, -, hget⟩ := flight?_fly_iff.mp hflight
  obtain ⟨before, behind, heq, hset⟩ :=
    exists_set_eq hget (item, (step item act standing fanout.server).1)
  rw [move_fly hflight, remaining, remaining, hset, heq]
  simp only [List.map_append, List.map_cons, List.sum_append, List.sum_cons, List.length_append,
    List.length_cons]
  omega

theorem remaining_collect_lt {flight : ι × Standing α}
    (hflight : fanout.flight? limit .collect = some flight) :
    (fanout.move step limit .collect).remaining < fanout.remaining := by
  obtain ⟨hget, -⟩ := flight?_collect_iff.mp hflight
  obtain ⟨hlt, -⟩ := List.getElem?_eq_some_iff.mp hget
  rw [move_collect hflight, remaining, remaining]
  dsimp only
  omega

/-- **A move that changes anything leaves less to do.** -/
theorem remaining_move_lt (hstep : Progressive step) {m : Move}
    (hchange : fanout.move step limit m ≠ fanout) :
    (fanout.move step limit m).remaining < fanout.remaining := by
  cases hflight : fanout.flight? limit m with
  | none => exact absurd (move_of_none hflight) hchange
  | some flight =>
    cases m with
    | collect => exact remaining_collect_lt hflight
    | fly act index =>
      obtain ⟨item, standing⟩ := flight
      rcases hstep.step_cases item act standing fanout.server with hsame | hless
      · obtain ⟨-, -, hget⟩ := flight?_fly_iff.mp hflight
        obtain ⟨before, behind, heq, hset⟩ := exists_set_eq hget (item, standing)
        refine absurd ?_ hchange
        rw [move_fly hflight, hsame, hset, ← heq]
      · exact remaining_fly_lt hflight hless

/-- **There is a move that changes something**, as long as there is no outcome. -/
theorem exists_remaining_lt (hstep : Progressive step) (hlimit : 0 < limit)
    (hopen : fanout.outcome? = none) :
    ∃ m, (fanout.move step limit m).remaining < fanout.remaining := by
  have hnear : fanout.collected < fanout.collected + limit := Nat.lt_add_of_pos_right hlimit
  cases hget : fanout.flights[fanout.collected]? with
  | none =>
    rw [outcome?, hget] at hopen
    cases hopen
  | some flight =>
    obtain ⟨item, _ | ⟨trial, exchange⟩ | e | answer⟩ := flight
    · rename_i trial
      exact ⟨.fly .send fanout.collected, remaining_fly_lt
        (flight?_fly_iff.mpr ⟨hopen, hnear, hget⟩) (hstep.send item trial fanout.server)⟩
    · exact ⟨.fly .arrive fanout.collected, remaining_fly_lt
        (flight?_fly_iff.mpr ⟨hopen, hnear, hget⟩)
        (hstep.arrive item trial exchange fanout.server)⟩
    · rw [outcome?_eq_error_iff.mpr ⟨item, hget⟩] at hopen
      cases hopen
    · exact ⟨.collect, remaining_collect_lt (flight?_collect_iff.mpr ⟨hget, answer, rfl⟩)⟩

/-- Each of the moves changes the fan-out. -/
def Busy (step : ι → Act → Standing α → σ → Standing α × σ) (limit : ℕ) :
    Fanout σ ι α → List Move → Prop
  | _, [] => True
  | fanout, m :: moves =>
    fanout.move step limit m ≠ fanout ∧ Busy step limit (fanout.move step limit m) moves

/-- **No run goes on for ever.** -/
theorem length_le_remaining (hstep : Progressive step) {moves : List Move}
    (hbusy : Busy step limit fanout moves) : moves.length ≤ fanout.remaining := by
  induction moves generalizing fanout with
  | nil => exact Nat.zero_le _
  | cons m moves ih =>
    have hless := remaining_move_lt hstep hbusy.1
    have hrest := ih hbusy.2
    rw [List.length_cons]
    omega

/-! ### One request at a time -/

open AccessNode (course)

theorem getElem?_length {β : Type} (before : List β) (x : β) (behind : List β) :
    (before ++ x :: behind)[before.length]? = some x := by
  simp

/-- What happens to the first request that is not collected. -/
theorem move_first (hfinal : Final step) (hlimit : 0 < limit)
    (before behind : List (ι × Standing α)) (item : ι) (act : Act) (standing : Standing α)
    (server : σ) :
    Fanout.move step limit ⟨before ++ (item, standing) :: behind, before.length, server⟩
        (.fly act before.length) =
      ⟨before ++ (item, (step item act standing server).1) :: behind, before.length,
        (step item act standing server).2⟩ := by
  let fanout : Fanout σ ι α := ⟨before ++ (item, standing) :: behind, before.length, server⟩
  have hget : fanout.flights[before.length]? = some (item, standing) :=
    getElem?_length before (item, standing) behind
  have hset (flight : ι × Standing α) :
      fanout.flights.set before.length flight = before ++ flight :: behind := by
    simp [fanout]
  cases hflight : fanout.flight? limit (.fly act before.length) with
  | some flight =>
    obtain ⟨-, -, hget'⟩ := flight?_fly_iff.mp hflight
    obtain rfl := Option.some.inj (hget.symm.trans hget')
    exact (move_fly hflight).trans (by rw [hset])
  | none =>
    -- a request that has not ended leaves the outcome open, and then the move can be made
    have hended : ∃ result, standing = .ended result := by
      by_contra hnot
      have hopen : fanout.outcome? = none := by
        rw [outcome?, hget]
        cases standing with
        | due trial => rfl
        | awaiting trial exchange => rfl
        | ended result => exact absurd ⟨result, rfl⟩ hnot
      have hnear : before.length < fanout.collected + limit := Nat.lt_add_of_pos_right hlimit
      rw [flight?_fly_iff.mpr ⟨hopen, hnear, hget⟩] at hflight
      cases hflight
    obtain ⟨result, rfl⟩ := hended
    rw [hfinal]
    exact move_of_none hflight

/-- A course of the first request that is not collected. -/
theorem run_first (hfinal : Final step) (hlimit : 0 < limit)
    (before behind : List (ι × Standing α)) (item : ι) (acts : List Act) (standing : Standing α)
    (server : σ) :
    Fanout.run step limit ⟨before ++ (item, standing) :: behind, before.length, server⟩
        (acts.map fun act => .fly act before.length) =
      ⟨before ++ (item, (course (step item) acts standing server).1) :: behind, before.length,
        (course (step item) acts standing server).2⟩ := by
  induction acts generalizing standing server with
  | nil => rfl
  | cons act acts ih =>
    rw [List.map_cons, run, List.foldl_cons, move_first hfinal hlimit, ← run, ih,
      AccessNode.course_cons]

/-- Asking for one item after the other, as long as there are answers. -/
def inTurn (ask : ι → Asking σ α) (items : List ι) : Asking σ (List (ι × α)) :=
  items.mapM fun item => do return (item, ← ask item)

theorem inTurn_of_error {ask : ι → Asking σ α} {item : ι} {items : List ι} {server next : σ}
    {e : GatewayError} (h : ask item server = (.error e, next)) :
    inTurn ask (item :: items) server = (.error e, next) := by
  rw [inTurn]
  exact Asking.mapM_cons_of_error (Asking.bind_of_error h)

theorem inTurn_of_ok {ask : ι → Asking σ α} {item : ι} {items : List ι} {server next : σ}
    {answer : α} (h : ask item server = (.ok answer, next)) :
    inTurn ask (item :: items) server =
      (inTurn ask items next).map (·.map ((item, answer) :: ·)) id := by
  have hfirst : (do return (item, ← ask item) : Asking σ (ι × α)) server =
      (.ok (item, answer), next) := Asking.bind_of_ok h
  rw [inTurn]
  exact Asking.mapM_cons_of_ok hfirst

/-- **To ask for one item after the other is one way to run a fan-out**: if a course of acts does
the same to each request as asking at one go, some moves come to the same outcome, and leave the
same of the server. -/
theorem exists_run_eq_inTurn (hfinal : Final step) (hlimit : 0 < limit) (begun : ι → Standing α)
    (acts : List Act) (ask : ι → Asking σ α)
    (hask : ∀ item server, course (step item) acts (begun item) server =
      (ask item server).map .ended id)
    (entries : List (ι × α)) (items : List ι) (server : σ) :
    let first : Fanout σ ι α :=
      ⟨entries.map answered ++ items.map fun item => (item, begun item), entries.length, server⟩
    ∃ moves,
      (first.run step limit moves).outcome? =
          some ((inTurn ask items server).1.map (entries ++ ·)) ∧
        (first.run step limit moves).server = (inTurn ask items server).2 := by
  induction items generalizing entries server with
  | nil =>
    refine ⟨[], outcome?_eq_ok_iff.mpr ⟨?_, ?_⟩, rfl⟩
    · simp [run]
    · change entries ++ [] = (entries.map answered ++ []).filterMap answer?
      rw [List.append_nil, List.append_nil, filterMap_answer?_map]
  | cons item items ih =>
    intro first
    let rest := items.map fun item => (item, begun item)
    have hlength : (entries.map answered).length = entries.length := List.length_map _
    have hget : (entries.map answered ++ (item, .ended (ask item server).1) :: rest)[
        entries.length]? = some (item, .ended (ask item server).1) := by
      rw [← hlength]
      exact getElem?_length _ _ _
    have hfirst : first.run step limit (acts.map fun act => .fly act entries.length) =
        ⟨entries.map answered ++ (item, .ended (ask item server).1) :: rest, entries.length,
          (ask item server).2⟩ := by
      have hrun := run_first hfinal hlimit (entries.map answered) rest item acts (begun item) server
      rw [hask, hlength] at hrun
      exact hrun
    rcases hanswer : ask item server with ⟨e | answer, next⟩
    · refine ⟨acts.map fun act => .fly act entries.length, ?_, ?_⟩
      · rw [hfirst, inTurn_of_error hanswer]
        rw [hanswer] at hget
        exact outcome?_eq_error_iff.mpr ⟨item, by rw [hanswer]; exact hget⟩
      · rw [hfirst, inTurn_of_error hanswer, hanswer]
    · rw [hanswer] at hfirst hget
      obtain ⟨moves, houtcome, hserver⟩ := ih (entries ++ [(item, answer)]) next
      have hcollect : Fanout.move step limit
          ⟨entries.map answered ++ (item, .ended (.ok answer)) :: rest, entries.length, next⟩
          .collect =
          ⟨(entries ++ [(item, answer)]).map answered ++ rest,
            (entries ++ [(item, answer)]).length, next⟩ := by
        rw [move_collect (flight?_collect_iff.mpr ⟨hget, answer, rfl⟩), List.map_append,
          List.append_assoc, List.length_append]
        rfl
      have hrun : first.run step limit
          ((acts.map fun act => .fly act entries.length) ++ .collect :: moves) =
          Fanout.run step limit
            ⟨(entries ++ [(item, answer)]).map answered ++ rest,
              (entries ++ [(item, answer)]).length, next⟩ moves := by
        rw [run_append, hfirst, run, List.foldl_cons, ← run, hcollect]
      refine ⟨(acts.map fun act => .fly act entries.length) ++ .collect :: moves, ?_, ?_⟩
      · rw [hrun, houtcome, inTurn_of_ok hanswer]
        rcases inTurn ask items next with ⟨e | more, last⟩
        · rfl
        · simp [Except.map]
      · rw [hrun, hserver, inTurn_of_ok hanswer]
        rfl

/-! ### With a log -/

/-- An item with where its request stands, and the part of a log that belongs to it. -/
structure Leg (ι α : Type) where
  /-- The item. -/
  item : ι
  /-- Where the request stands. -/
  standing : Standing α
  /-- What is logged of the request. -/
  part : Wire.Log

/-- The flight of a leg. -/
def Leg.flight (leg : Leg ι α) : ι × Standing α := (leg.item, leg.standing)

/-- A fan-out goes on as another one does, over a wire that keeps a log. The log holds the parts of
the legs, mixed, and each part explains where the request stands. -/
structure Traced (explains : ι → Wire.Log → Standing α → Prop) (log : Wire.Log)
    (legs : List (Leg ι α)) (fanout : Fanout σ ι α) (recorded : Fanout (σ × Wire.Log) ι α) :
    Prop where
  /-- The legs are those of the fan-out. -/
  flights_eq : fanout.flights = legs.map Leg.flight
  /-- The fan-outs agree, but for the log. -/
  recorded_eq : ∃ more, recorded = ⟨fanout.flights, fanout.collected, fanout.server, log ++ more⟩ ∧
    more.Perm (legs.flatMap Leg.part)
  /-- Each part explains where a request stands. -/
  explains (leg : Leg ι α) : leg ∈ legs → explains leg.item leg.part leg.standing

/-- Steps that do the same when the wire keeps a log, which goes on to explain where the request
stands. -/
def Logs (explains : ι → Wire.Log → Standing α → Prop)
    (step : ι → Act → Standing α → σ → Standing α × σ)
    (recorded : ι → Act → Standing α → σ × Wire.Log → Standing α × σ × Wire.Log) : Prop :=
  ∀ item part standing, explains item part standing → ∀ act server log, ∃ more,
    recorded item act standing (server, log) =
        ((step item act standing server).1, (step item act standing server).2, log ++ more) ∧
      explains item (part ++ more) (step item act standing server).1

variable {explains : ι → Wire.Log → Standing α → Prop} {log : Wire.Log} {legs : List (Leg ι α)}
  {recorded : Fanout (σ × Wire.Log) ι α}
  {recordedStep : ι → Act → Standing α → σ × Wire.Log → Standing α × σ × Wire.Log}

theorem Traced.flight?_eq (h : Traced explains log legs fanout recorded) (m : Move) :
    recorded.flight? limit m = fanout.flight? limit m := by
  obtain ⟨more, rfl, -⟩ := h.recorded_eq
  rfl

/-- **A move does the same when the wire keeps a log.** -/
theorem Traced.move (hlogs : Logs explains step recordedStep)
    (h : Traced explains log legs fanout recorded) (m : Move) :
    ∃ legs, Traced explains log legs (fanout.move step limit m)
      (recorded.move recordedStep limit m) := by
  have hsame : recorded.flight? limit m = fanout.flight? limit m := h.flight?_eq m
  cases hflight : fanout.flight? limit m with
  | none =>
    rw [move_of_none hflight, move_of_none (hsame.trans hflight)]
    exact ⟨legs, h⟩
  | some flight =>
    obtain ⟨more, rfl, hperm⟩ := h.recorded_eq
    cases m with
    | collect =>
      rw [move_collect hflight, move_collect (hsame.trans hflight)]
      exact ⟨legs, h.flights_eq, ⟨more, rfl, hperm⟩, h.explains⟩
    | fly act index =>
      obtain ⟨item, standing⟩ := flight
      obtain ⟨-, -, hget⟩ := flight?_fly_iff.mp hflight
      rw [h.flights_eq, List.getElem?_map, Option.map_eq_some_iff] at hget
      obtain ⟨leg, hleg, hlegflight⟩ := hget
      obtain ⟨rfl, rfl⟩ := Prod.mk.inj hlegflight
      obtain ⟨rest, hstep, hexplains⟩ := hlogs leg.item leg.part leg.standing
        (h.explains leg (List.mem_of_getElem? hleg)) act fanout.server (log ++ more)
      let next : Leg ι α :=
        ⟨leg.item, (step leg.item act leg.standing fanout.server).1, leg.part ++ rest⟩
      obtain ⟨before, behind, hlegs, hset⟩ := exists_set_eq hleg next
      rw [move_fly hflight, move_fly (hsame.trans hflight)]
      refine ⟨legs.set index next, ?_, ⟨more ++ rest, ?_, ?_⟩, ?_⟩
      · rw [List.map_set, h.flights_eq]
        rfl
      · rw [hstep, List.append_assoc]
      · rw [hset, List.flatMap_append, List.flatMap_cons]
        rw [hlegs, List.flatMap_append, List.flatMap_cons] at hperm
        refine (hperm.append_right rest).trans ?_
        rw [List.append_assoc, List.append_assoc, List.append_assoc]
        exact (List.perm_append_comm.append_left _).append_left _
      · intro other hother
        rcases List.mem_or_eq_of_mem_set hother with hother | rfl
        · exact h.explains other hother
        · exact hexplains

/-- **A run does the same when the wire keeps a log.** -/
theorem Traced.run (hlogs : Logs explains step recordedStep)
    (h : Traced explains log legs fanout recorded) (moves : List Move) :
    ∃ legs, Traced explains log legs (fanout.run step limit moves)
      (recorded.run recordedStep limit moves) := by
  induction moves using List.reverseRecOn with
  | nil => exact ⟨legs, h⟩
  | append_singleton moves m ih =>
    obtain ⟨legs, hlegs⟩ := ih
    rw [run_concat, run_concat]
    exact hlegs.move hlogs m

end Fanout

end ChainFeed
