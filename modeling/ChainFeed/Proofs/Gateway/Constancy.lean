import ChainFeed.Proofs.Gateway.Flights

/-!
# Requests to a server that does not change

A server that no request changes replies the same at any time. So a request has a **goal**: what it
comes to if its attempts go on (`AccessNode.goal`). Only running out of time turns it away from
there (`AccessNode.goal_act`).

That is why the order of requests side by side does not matter then: unless the time of a request is
over, every outcome of a fan-out is what asking for one item after the other comes to
(`Fanout.Bound.outcome_eq`).
-/

namespace ChainFeed

variable {σ ι α : Type}

/-- No request changes the server. -/
def Wire.Constant (wire : Wire σ) : Prop :=
  ∀ request server, (wire.send request server).2 = server

/-! ### One request -/

namespace AccessNode

variable {node : AccessNode} {wire : Wire σ} {endpoint : String} {query : List (String × String)}
  {read : Reader α}

theorem exchange_constant (hwire : wire.Constant) (url : Url) (server : σ) :
    (node.exchange wire url none server).2 = server := by
  rw [exchange]
  split
  · exact hwire _ server
  · rfl

theorem act_constant (hwire : wire.Constant) (act : Act) (standing : Standing α) (server : σ) :
    (node.act wire endpoint read act standing server).2 = server := by
  cases standing with
  | ended result => rw [act_ended]
  | awaiting trial exchange => cases act <;> rfl
  | due trial =>
    cases act with
    | arrive => rfl
    | expire => rfl
    | send =>
      by_cases hleft : trial.left = 0
      · rw [act_send_late hleft]
      · rw [act_send hleft, exchange_constant hwire]

theorem course_constant (hwire : wire.Constant) (acts : List Act) (standing : Standing α)
    (server : σ) : (course (node.act wire endpoint read) acts standing server).2 = server := by
  induction acts generalizing standing with
  | nil => rfl
  | cons act acts ih => rw [course_cons, act_constant hwire, ih]

theorem get_constant (hwire : wire.Constant) (server : σ) :
    (node.get wire endpoint query read server).2 = server := by
  have hcourse : (course (node.act wire endpoint read) (sweeps (node.backoff.maxRetries + 1))
      (node.begun endpoint query) server).2 = server := course_constant hwire _ _ server
  rw [get_eq_course] at hcourse
  exact hcourse

/-- The acts that are ahead of a request until it has ended, if there is time. -/
def ahead : Standing α → List Act
  | .due trial => sweeps (trial.retries + 1)
  | .awaiting trial _ => .arrive :: sweeps trial.retries
  | .ended _ => []

/-- What a request comes to if its attempts go on. -/
def goal (node : AccessNode) (wire : Wire σ) (endpoint : String) (read : Reader α) (server : σ)
    (standing : Standing α) : Standing α :=
  (course (node.act wire endpoint read) (ahead standing) standing server).1

theorem goal_ended (server : σ) (result : Except GatewayError α) :
    node.goal wire endpoint read server (.ended result) = .ended result := rfl

/-- A request that is made at one go reaches its goal. -/
theorem goal_begun (server : σ) :
    node.goal wire endpoint read server (node.begun endpoint query) =
      .ended (node.get wire endpoint query read server).1 := by
  have hcourse : (course (node.act wire endpoint read) (sweeps (node.backoff.maxRetries + 1))
      (node.begun endpoint query) server).1 =
      .ended (node.get wire endpoint query read server).1 := by
    rw [get_eq_course]
    rfl
  rw [← hcourse, begun]
  cases node.endpointUrl? endpoint query with
  | none =>
    dsimp only
    rw [goal_ended, course_ended]
  | some url => rfl

/-- **Only running out of time turns a request away from its goal.** -/
theorem goal_act (hwire : wire.Constant) {act : Act} (hact : act ≠ .expire)
    (standing : Standing α) (server : σ) :
    node.goal wire endpoint read server (node.act wire endpoint read act standing server).1 =
      node.goal wire endpoint read server standing := by
  cases standing with
  | ended result => rw [act_ended]
  | due trial =>
    cases act with
    | expire => exact absurd rfl hact
    | arrive => rfl
    | send =>
      rw [goal, goal, ahead, sweeps, course_cons]
      by_cases hleft : trial.left = 0
      · rw [act_send_late hleft, course_ended, course_ended]
      · rw [act_send hleft, exchange_constant hwire, ahead]
  | awaiting trial exchange =>
    cases act with
    | expire => exact absurd rfl hact
    | send => rfl
    | arrive =>
      have harrive : node.act wire endpoint read .arrive (.awaiting trial exchange) server =
          (trial.next node.requestTimeout (outcome endpoint read exchange), server) := rfl
      rw [goal, goal, ahead, course_cons, harrive]
      dsimp only
      cases outcome endpoint read exchange with
      | none => rw [Trial.next, course_ended, course_ended]
      | some result =>
        rw [Trial.next]
        split
        · rw [course_ended, course_ended]
        · rename_i retries hretries
          split
          · rw [hretries]
            rfl
          · rw [course_ended, course_ended]

end AccessNode

/-! ### Many requests -/

namespace Fanout

variable {step : ι → Act → Standing α → σ → Standing α × σ} {limit : ℕ} {fanout : Fanout σ ι α}
  {server : σ} {goal : ι → Standing α → Standing α} {result : ι → Except GatewayError α}

/-- Acts leave a server as it is, and no request is turned away from its goal but by running out of
time. -/
structure Aimed (step : ι → Act → Standing α → σ → Standing α × σ) (server : σ)
    (goal : ι → Standing α → Standing α) : Prop where
  /-- What has ended is at its goal. -/
  ended (item : ι) (result : Except GatewayError α) : goal item (.ended result) = .ended result
  /-- An act leaves the server as it is. -/
  server_eq (item : ι) (act : Act) (standing : Standing α) :
    (step item act standing server).2 = server
  /-- An act does not turn the request away. -/
  goal_eq (item : ι) (act : Act) (standing : Standing α) : act ≠ .expire →
    goal item (step item act standing server).1 = goal item standing

/-- Every request of a fan-out is on the way to a result that is determined by its item. -/
structure Bound (server : σ) (goal : ι → Standing α → Standing α)
    (result : ι → Except GatewayError α) (fanout : Fanout σ ι α) : Prop where
  /-- The server is as it was. -/
  server_eq : fanout.server = server
  /-- The requests are on their way. -/
  goal_eq (flight : ι × Standing α) : flight ∈ fanout.flights →
    goal flight.1 flight.2 = .ended (result flight.1)

/-- **A move keeps every request on its way**, unless it is running out of time. -/
theorem Bound.move (h : Bound server goal result fanout) (hstep : Aimed step server goal) {m : Move}
    (hm : ∀ index, m ≠ .fly .expire index) :
    Bound server goal result (fanout.move step limit m) := by
  cases hflight : fanout.flight? limit m with
  | none =>
    rw [move_of_none hflight]
    exact h
  | some flight =>
    obtain ⟨item, standing⟩ := flight
    cases m with
    | collect =>
      rw [move_collect hflight]
      exact ⟨h.server_eq, h.goal_eq⟩
    | fly act index =>
      have hact : act ≠ .expire := fun heq => hm index (by rw [heq])
      obtain ⟨-, -, hget⟩ := flight?_fly_iff.mp hflight
      rw [move_fly hflight, h.server_eq]
      refine ⟨hstep.server_eq item act standing, fun other hother => ?_⟩
      rcases List.mem_or_eq_of_mem_set hother with hother | rfl
      · exact h.goal_eq other hother
      · exact (hstep.goal_eq item act standing hact).trans
          (h.goal_eq (item, standing) (List.mem_of_getElem? hget))

theorem Bound.run (h : Bound server goal result fanout) (hstep : Aimed step server goal)
    {moves : List Move} (hmoves : ∀ index, Move.fly .expire index ∉ moves) :
    Bound server goal result (fanout.run step limit moves) := by
  induction moves using List.reverseRecOn with
  | nil => exact h
  | append_singleton moves m ih =>
    rw [run_concat]
    have hrest (index : ℕ) : Move.fly .expire index ∉ moves :=
      fun hmem => hmoves index (List.mem_append_left [m] hmem)
    have hlast (index : ℕ) : m ≠ .fly .expire index :=
      fun heq => hmoves index (List.mem_append_right moves (by rw [heq, List.mem_singleton]))
    exact (ih hrest).move hstep hlast

/-- The results of some items, as far as there are answers. -/
def resultsOf (result : ι → Except GatewayError α) (items : List ι) :
    Except GatewayError (List (ι × α)) :=
  items.mapM fun item => (result item).map (item, ·)

theorem resultsOf_eq_ok {entries : List (ι × α)}
    (h : ∀ entry ∈ entries, result entry.1 = .ok entry.2) :
    resultsOf result (entries.map Prod.fst) = .ok entries := by
  induction entries with
  | nil => rfl
  | cons entry entries ih =>
    rw [List.forall_mem_cons] at h
    have hrest := ih h.2
    rw [resultsOf] at hrest
    rw [List.map_cons, resultsOf, List.mapM_cons, h.1, hrest]
    rfl

/-- The first error in order is the result. -/
theorem resultsOf_eq_error {before behind : List ι} {item : ι} {e : GatewayError}
    (hbefore : ∀ other ∈ before, ∃ answer, result other = .ok answer) (h : result item = .error e) :
    resultsOf result (before ++ item :: behind) = .error e := by
  induction before with
  | nil =>
    rw [List.nil_append, resultsOf, List.mapM_cons, h]
    rfl
  | cons other before ih =>
    rw [List.forall_mem_cons] at hbefore
    obtain ⟨⟨answer, hanswer⟩, hrest⟩ := hbefore
    have hbehind := ih hrest
    rw [resultsOf] at hbehind
    rw [List.cons_append, resultsOf, List.mapM_cons, hbehind, hanswer]
    rfl

/-- **The outcome does not depend on the order of the moves.** -/
theorem Bound.outcome_eq (h : Bound server goal result fanout) (hstep : Aimed step server goal)
    {items : List ι} (horderly : Orderly items fanout)
    {outcome : Except GatewayError (List (ι × α))} (houtcome : fanout.outcome? = some outcome) :
    outcome = resultsOf result items := by
  have hresult (flight : ι × Standing α) (hmem : flight ∈ fanout.flights)
      (ended : Except GatewayError α) (hended : flight.2 = .ended ended) :
      result flight.1 = ended := by
    have hgoal := h.goal_eq flight hmem
    rw [hended, hstep.ended] at hgoal
    exact (Standing.ended.inj hgoal).symm
  cases outcome with
  | ok entries =>
    obtain ⟨hflights, rfl⟩ := horderly.of_outcome_ok houtcome
    have hentries : resultsOf result (entries.map Prod.fst) = .ok entries := by
      refine resultsOf_eq_ok fun entry hmem => ?_
      exact hresult (answered entry) (hflights ▸ List.mem_map_of_mem hmem) (.ok entry.2) rfl
    exact hentries.symm
  | error e =>
    obtain ⟨item, hget⟩ := outcome?_eq_error_iff.mp houtcome
    obtain ⟨hlt, hitem⟩ := List.getElem?_eq_some_iff.mp hget
    have hsplit : items = (fanout.flights.take fanout.collected).map Prod.fst ++ item ::
        (fanout.flights.drop (fanout.collected + 1)).map Prod.fst := by
      rw [← horderly.items_eq]
      conv_lhs => rw [← List.take_append_drop fanout.collected fanout.flights,
        List.drop_eq_getElem_cons hlt, hitem, List.map_append, List.map_cons]
    rw [hsplit, resultsOf_eq_error]
    · intro other hother
      obtain ⟨flight, hflight, rfl⟩ := List.mem_map.mp hother
      obtain ⟨i, hi, rfl⟩ := List.mem_take_iff_getElem.mp hflight
      obtain ⟨item, answer, hanswer⟩ := horderly.collected_ok i (by omega)
      have heq := (List.getElem?_eq_some_iff.mp hanswer).2
      exact ⟨answer, hresult _ (List.getElem_mem _) (.ok answer) (by rw [heq])⟩
    · exact hresult (item, .ended (.error e)) (List.mem_of_getElem? hget) (.error e) rfl

/-- Asking for one item after the other comes to the results of the items. -/
theorem inTurn_eq (ask : ι → Asking σ α) (hask : ∀ item, (ask item server).2 = server)
    (items : List ι) :
    inTurn ask items server = (resultsOf (fun item => (ask item server).1) items, server) := by
  induction items with
  | nil => rfl
  | cons item items ih =>
    have hserver := hask item
    rcases hanswer : ask item server with ⟨e | answer, next⟩
    · rw [hanswer] at hserver
      obtain rfl : next = server := hserver
      rw [inTurn_of_error hanswer, resultsOf, List.mapM_cons, hanswer]
      rfl
    · rw [hanswer] at hserver
      obtain rfl : next = server := hserver
      rw [inTurn_of_ok hanswer, ih, resultsOf, resultsOf, List.mapM_cons, hanswer]
      cases List.mapM (fun item => Except.map (item, ·) (ask item next).1) items with
      | error e => rfl
      | ok entries => rfl

end Fanout

end ChainFeed
