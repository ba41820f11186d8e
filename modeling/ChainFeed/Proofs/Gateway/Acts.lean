import ChainFeed.Proofs.Gateway.Retries

/-!
# One request, act by act

A request that is made at one go does the same as the acts of sending and awaiting an attempt, one
after the other (`AccessNode.course_sweeps`). So whatever its acts do to a log of the wire holds of
the request as a whole.

The part of a log that belongs to a request **explains** where the request stands
(`AccessNode.Explains`): it holds the attempts that were made, and if there is an answer, each
attempt but the last was transient and the last one is the answer (`AccessNode.Asked`). Every act
keeps this (`AccessNode.act_recorded`), whatever else is in the log.
-/

namespace ChainFeed

/-- What a wire has carried: requests, with how their exchanges ended. -/
abbrev Wire.Log := List (WireRequest × Exchange)

namespace AccessNode

variable {σ α : Type} {node : AccessNode} {wire : Wire σ} {endpoint : String}
  {query : List (String × String)} {read : Reader α}

/-! ### Sweeps -/

/-- Where a request stands after some acts, and what they leave of the server. -/
def course (step : Act → Standing α → σ → Standing α × σ) (acts : List Act) (standing : Standing α)
    (server : σ) : Standing α × σ :=
  acts.foldl (fun state act => step act state.1 state.2) (standing, server)

theorem course_cons {step : Act → Standing α → σ → Standing α × σ} (act : Act) (acts : List Act)
    (standing : Standing α) (server : σ) :
    course step (act :: acts) standing server =
      course step acts (step act standing server).1 (step act standing server).2 := rfl

/-- Attempts that are made and awaited one after the other. -/
def sweeps : ℕ → List Act
  | 0 => []
  | n + 1 => .send :: .arrive :: sweeps n

/-- An attempt that is due is made if there is time left. -/
theorem act_send {trial : Trial} (hleft : trial.left ≠ 0) (server : σ) :
    node.act wire endpoint read .send (.due trial) server =
      (.awaiting trial (node.exchange wire trial.url none server).1,
        (node.exchange wire trial.url none server).2) := if_neg hleft

/-- No attempt is made if there is no time left. -/
theorem act_send_late {trial : Trial} (hleft : trial.left = 0) (server : σ) :
    node.act wire endpoint read .send (.due trial) server =
      (.ended (.error (.timeout node.requestTimeout)), server) := if_pos hleft

theorem act_ended (act : Act) (result : Except GatewayError α) (server : σ) :
    node.act wire endpoint read act (.ended result) server = (.ended result, server) := by
  cases act <;> rfl

/-- Nothing happens any more to a request that has ended. -/
theorem course_ended (acts : List Act) (result : Except GatewayError α) (server : σ) :
    course (node.act wire endpoint read) acts (.ended result) server = (.ended result, server) := by
  induction acts with
  | nil => rfl
  | cons act acts ih => rw [course_cons, act_ended, ih]

/-- An attempt that is made and awaited, if there is time left for it. -/
theorem course_send_arrive (acts : List Act) (trial : Trial) (server : σ) (hleft : trial.left ≠ 0) :
    course (node.act wire endpoint read) (.send :: .arrive :: acts) (.due trial) server =
      course (node.act wire endpoint read) acts
        (trial.next node.requestTimeout
          (node.attemptOf wire endpoint trial.url none read server).1)
        (node.attemptOf wire endpoint trial.url none read server).2 := by
  rw [course_cons, course_cons, act_send hleft]
  rfl

/-- **Sweeps come to what the attempts of a request come to**, made at one go. -/
theorem course_sweeps (trial : Trial) (server : σ) :
    course (node.act wire endpoint read) (sweeps (trial.retries + 1)) (.due trial) server =
      (attempts node.requestTimeout (node.attemptOf wire endpoint trial.url none read)
        trial.retries trial.delays trial.left server).map .ended id := by
  obtain ⟨url, retries, delays, left⟩ := trial
  induction retries generalizing delays left server with
  | zero =>
    by_cases hleft : left = 0
    · rw [sweeps, course_cons, act_send_late hleft, course_ended, attempts, if_pos hleft]
      rfl
    · rw [sweeps, course_send_arrive _ _ _ hleft, attempts, if_neg hleft]
      rcases node.attemptOf wire endpoint url none read server with ⟨_ | result, next⟩
      · rfl
      · rfl
  | succ retries ih =>
    by_cases hleft : left = 0
    · rw [sweeps, course_cons, act_send_late hleft, course_ended, attempts, if_pos hleft]
      rfl
    · rw [sweeps, course_send_arrive _ _ _ hleft, attempts, if_neg hleft]
      rcases node.attemptOf wire endpoint url none read server with ⟨_ | result, next⟩
      · exact course_ended _ _ _
      · simp only [Trial.next]
        split
        · exact ih _ _ _
        · exact course_ended _ _ _

/-- **A request at one go is a course of acts.** -/
theorem get_eq_course (server : σ) :
    course (node.act wire endpoint read) (sweeps (node.backoff.maxRetries + 1))
        (node.begun endpoint query) server =
      (node.get wire endpoint query read server).map .ended id := by
  rw [begun]
  cases hurl : node.endpointUrl? endpoint query with
  | none =>
    have hget : node.get wire endpoint query read server =
        (.error (.decode .noEndpoint), server) := by
      rw [get, request, hurl]
    rw [hget]
    exact course_ended _ _ _
  | some url =>
    rw [get, request_eq hurl]
    exact course_sweeps _ _

/-! ### What a log says of a request -/

/-- The exchange is worth another attempt. -/
def Again (endpoint : String) (read : Reader α) (exchange : Exchange) : Prop :=
  ∃ result, outcome endpoint read exchange = some result ∧ isTransient result = true

/-- The attempts of one request, as a wire logs them. -/
def attemptsTo (node : AccessNode) (url : Url) (exchanges : List Exchange) : Wire.Log :=
  exchanges.map fun exchange => (node.requestTo url none, exchange)

/-- The part of a log is one request to an endpoint, with no more attempts than may be made: all but
the last are worth another attempt, and the last one comes to the result. -/
def Asked (node : AccessNode) (endpoint : String) (query : List (String × String))
    (read : Reader α) (part : Wire.Log) (result : Except GatewayError α) : Prop :=
  ∃ url earlier last,
    node.endpointUrl? endpoint query = some url ∧
      part = node.attemptsTo url (earlier ++ [last]) ∧
        earlier.length ≤ node.backoff.maxRetries ∧
          (∀ exchange ∈ earlier, Again endpoint read exchange) ∧
            outcome endpoint read last = some result

/-- The part of a log holds the attempts that were made before a trial. Nothing is logged of a URL
that no request can be made to. -/
structure Underway (node : AccessNode) (endpoint : String) (query : List (String × String))
    (read : Reader α) (trial : Trial) (earlier : List Exchange) (part : Wire.Log) : Prop where
  /-- The trial is one of the request. -/
  url_eq : node.endpointUrl? endpoint query = some trial.url
  /-- The attempts are counted. -/
  length_add : earlier.length + trial.retries = node.backoff.maxRetries
  /-- Each attempt was worth another one. -/
  again : ∀ exchange ∈ earlier, Again endpoint read exchange
  /-- The attempts are logged. -/
  part_eq : isReachable trial.url = true → part = node.attemptsTo trial.url earlier

/-- The part of a log explains where a request stands. Of a request that failed it need not say
anything. -/
def Explains (node : AccessNode) (endpoint : String) (query : List (String × String))
    (read : Reader α) (part : Wire.Log) : Standing α → Prop
  | .due trial => ∃ earlier, node.Underway endpoint query read trial earlier part
  | .awaiting trial exchange =>
    ∃ earlier before, node.Underway endpoint query read trial earlier before ∧
      (isReachable trial.url = true →
        part = before ++ [(node.requestTo trial.url none, exchange)]) ∧
      (isReachable trial.url = false → exchange = .broken)
  | .ended (.ok answer) => node.Asked endpoint query read part (.ok answer)
  | .ended (.error _) => True

/-- Nothing is logged of a request before it is made. -/
theorem explains_begun (node : AccessNode) (endpoint : String) (query : List (String × String))
    (read : Reader α) : node.Explains endpoint query read [] (node.begun endpoint query) := by
  rw [begun]
  cases hurl : node.endpointUrl? endpoint query with
  | none => exact trivial
  | some url =>
    exact ⟨[], hurl, Nat.zero_add _, fun _ h => absurd h List.not_mem_nil, fun _ => rfl⟩

/-- When the end of an exchange arrives, the log goes on to explain where the request stands. -/
theorem Explains.next {part : Wire.Log} {trial : Trial} {exchange : Exchange}
    (h : node.Explains endpoint query read part (.awaiting trial exchange)) :
    node.Explains endpoint query read part
      (trial.next node.requestTimeout (outcome endpoint read exchange)) := by
  obtain ⟨earlier, before, hunderway, hpart, hbroken⟩ := h
  have hlogged (hreachable : isReachable trial.url = true) :
      part = node.attemptsTo trial.url (earlier ++ [exchange]) := by
    rw [hpart hreachable, hunderway.part_eq hreachable]
    simp only [attemptsTo, List.map_append, List.map_cons, List.map_nil]
  -- an answer came from a server, so the URL could be reached
  have hended (result : Except GatewayError α)
      (hresult : outcome endpoint read exchange = some result) :
      node.Explains endpoint query read part (.ended result) := by
    cases result with
    | error e => exact trivial
    | ok answer =>
      have hreachable : isReachable trial.url = true := by
        by_contra hnot
        rw [hbroken (Bool.eq_false_iff.mpr hnot)] at hresult
        cases hresult
      have hlength := hunderway.length_add
      exact ⟨trial.url, earlier, exchange, hunderway.url_eq, hlogged hreachable, by omega,
        hunderway.again, hresult⟩
  cases hresult : outcome endpoint read exchange with
  | none => exact trivial
  | some result =>
    rw [Trial.next]
    split
    · exact hended result hresult
    · rename_i retries hretries
      have hlength := hunderway.length_add
      split
      · rename_i htransient
        refine ⟨earlier ++ [exchange], hunderway.url_eq, ?_, ?_, hlogged⟩
        · rw [List.length_append, List.length_singleton]
          dsimp only
          omega
        · intro x hx
          rcases List.mem_append.mp hx with hx | hx
          · exact hunderway.again x hx
          · obtain rfl := List.mem_singleton.mp hx
            exact ⟨result, hresult, htransient⟩
      · exact hended result hresult

/-- **An act does the same when the wire keeps a log**, and the log goes on to explain where the
request stands. -/
theorem act_recorded (wire : Wire σ) {part : Wire.Log} {standing : Standing α}
    (h : node.Explains endpoint query read part standing) (act : Act) (server : σ)
    (log : Wire.Log) :
    ∃ more, node.act wire.recorded endpoint read act standing (server, log) =
        ((node.act wire endpoint read act standing server).1,
          (node.act wire endpoint read act standing server).2, log ++ more) ∧
      node.Explains endpoint query read (part ++ more)
        (node.act wire endpoint read act standing server).1 := by
  -- most acts leave the server alone, and then nothing is logged
  have hquiet (next : Standing α) (hnext : node.Explains endpoint query read part next)
      (hplain : node.act wire endpoint read act standing server = (next, server))
      (hrecorded : node.act wire.recorded endpoint read act standing (server, log) =
        (next, server, log)) :
      ∃ more, node.act wire.recorded endpoint read act standing (server, log) =
        ((node.act wire endpoint read act standing server).1,
          (node.act wire endpoint read act standing server).2, log ++ more) ∧
      node.Explains endpoint query read (part ++ more)
        (node.act wire endpoint read act standing server).1 := by
    refine ⟨[], ?_, ?_⟩
    · rw [hplain, hrecorded, List.append_nil]
    · rw [hplain, List.append_nil]
      exact hnext
  cases standing with
  | ended result => exact hquiet _ h (act_ended act result server) (act_ended act result _)
  | awaiting trial exchange =>
    cases act with
    | send => exact hquiet _ h rfl rfl
    | arrive => exact hquiet _ h.next rfl rfl
    | expire => exact hquiet (.ended (.error (.timeout node.requestTimeout))) trivial rfl rfl
  | due trial =>
    cases act with
    | arrive => exact hquiet _ h rfl rfl
    | expire => exact hquiet (.ended (.error (.timeout node.requestTimeout))) trivial rfl rfl
    | send =>
      by_cases hleft : trial.left = 0
      · exact hquiet (.ended (.error (.timeout node.requestTimeout))) trivial
          (act_send_late hleft server) (act_send_late hleft (server, log))
      · obtain ⟨earlier, hunderway⟩ := h
        rw [act_send hleft, act_send hleft]
        by_cases hreachable : isReachable trial.url = true
        · simp only [exchange, if_pos hreachable, Wire.recorded]
          exact ⟨_, rfl, earlier, part, hunderway, fun _ => rfl,
            fun hnot => absurd hreachable (Bool.eq_false_iff.mp hnot)⟩
        · simp only [exchange, if_neg hreachable]
          exact ⟨[], by rw [List.append_nil], earlier, part, hunderway,
            fun hnot => absurd hnot hreachable, fun _ => rfl⟩

/-- **A course of acts does the same when the wire keeps a log**, and the log goes on to explain
where the request stands. -/
theorem course_recorded (wire : Wire σ) {part : Wire.Log} {standing : Standing α}
    (h : node.Explains endpoint query read part standing) (acts : List Act) (server : σ)
    (log : Wire.Log) :
    ∃ more, course (node.act wire.recorded endpoint read) acts standing (server, log) =
        ((course (node.act wire endpoint read) acts standing server).1,
          (course (node.act wire endpoint read) acts standing server).2, log ++ more) ∧
      node.Explains endpoint query read (part ++ more)
        (course (node.act wire endpoint read) acts standing server).1 := by
  induction acts generalizing part standing server log with
  | nil => exact ⟨[], by rw [List.append_nil]; rfl, by rw [List.append_nil]; exact h⟩
  | cons act acts ih =>
    obtain ⟨more, hact, hexplains⟩ := act_recorded wire h act server log
    obtain ⟨rest, hcourse, hrest⟩ := ih hexplains
      (node.act wire endpoint read act standing server).2 (log ++ more)
    refine ⟨more ++ rest, ?_, ?_⟩
    · rw [course_cons, hact, hcourse, course_cons, List.append_assoc]
    · rw [course_cons, ← List.append_assoc]
      exact hrest

/-- **A request does the same when the wire keeps a log**, and if there is an answer, the log holds
what was asked for it. -/
theorem get_recorded (node : AccessNode) (wire : Wire σ) (endpoint : String)
    (query : List (String × String)) (read : Reader α) (server : σ) (log : Wire.Log) :
    ∃ part, node.get wire.recorded endpoint query read (server, log) =
        ((node.get wire endpoint query read server).1,
          (node.get wire endpoint query read server).2, log ++ part) ∧
      ∀ answer, (node.get wire endpoint query read server).1 = .ok answer →
        node.Asked endpoint query read part (.ok answer) := by
  obtain ⟨part, hcourse, hexplains⟩ := course_recorded wire
    (node.explains_begun endpoint query read) (sweeps (node.backoff.maxRetries + 1)) server log
  rw [get_eq_course, get_eq_course] at hcourse
  rw [get_eq_course] at hexplains
  have hresult : (node.get wire.recorded endpoint query read (server, log)).1 =
      (node.get wire endpoint query read server).1 :=
    Standing.ended.inj (congrArg Prod.fst hcourse)
  have hserver : (node.get wire.recorded endpoint query read (server, log)).2 =
      ((node.get wire endpoint query read server).2, log ++ part) :=
    congrArg Prod.snd hcourse
  refine ⟨part, Prod.ext hresult hserver, fun answer hanswer => ?_⟩
  rw [Prod.map_fst, hanswer] at hexplains
  exact hexplains

end AccessNode

end ChainFeed
