import Mathlib.Algebra.BigOperators.Group.Finset.Basic
import Mathlib.Data.ENat.Lattice
import Mathlib.Tactic.IntervalCases
import ChainFeed.Gateway.Fanout

/-!
# How often a request is made

An exchange **settles** a request if it is an answer, or an error that will not go away on its own.
A request is made until an exchange settles it, but once more than it may be made again at most, and
what it comes to is what its last exchange comes to (`AccessNode.retried`). This holds as long as
the request stays **in time** (`AccessNode.InTime`): every exchange ends, and the delays between
them leave time for the last one. Otherwise the request ends with its time.

The exchanges of a request are those that the wire has with the server, one state of the server
after the other (`AccessNode.comesTo`). That a request makes so many of them, and no other, is said
with a wire that keeps a log of what it carries (`Wire.recorded`).
-/

namespace ChainFeed

/-! ### The first of its kind -/

open Classical in
/-- The position, counted from one, of the first number with a property; infinite if no number has
it. -/
noncomputable def firstPosition (p : ℕ → Prop) : ℕ∞ :=
  if h : ∃ n, p n then ((Nat.find h + 1 : ℕ) : ℕ∞) else ⊤

/-- The first number with a property is told by the property and its lack before. -/
theorem firstPosition_eq {p : ℕ → Prop} {n : ℕ} (hn : p n) (hbefore : ∀ m < n, ¬p m) :
    firstPosition p = ((n + 1 : ℕ) : ℕ∞) := by
  classical
  have h : ∃ n, p n := ⟨n, hn⟩
  have hfind : Nat.find h = n := (Nat.find_eq_iff h).mpr ⟨hn, hbefore⟩
  rw [firstPosition, dif_pos h, hfind]

/-- The first number with a property, or a bound if no number up to there has it. -/
theorem exists_eq_min_firstPosition (p : ℕ → Prop) (bound : ℕ) :
    ∃ k, ((k + 1 : ℕ) : ℕ∞) = min (firstPosition p) (bound + 1 : ℕ) ∧
      k ≤ bound ∧ (∀ n < k, ¬p n) ∧ (k = bound ∨ p k) := by
  classical
  by_cases h : ∃ n, p n
  · have heq : firstPosition p = ((Nat.find h + 1 : ℕ) : ℕ∞) :=
      firstPosition_eq (Nat.find_spec h) fun _ => Nat.find_min h
    rcases Nat.le_total (Nat.find h) bound with hle | hle
    · refine ⟨Nat.find h, ?_, hle, fun _ => Nat.find_min h, .inr (Nat.find_spec h)⟩
      rw [heq, min_eq_left (by exact_mod_cast Nat.succ_le_succ hle)]
    · refine ⟨bound, ?_, le_refl _, fun n hn => Nat.find_min h (by omega), .inl rfl⟩
      rw [heq, min_eq_right (by exact_mod_cast Nat.succ_le_succ hle)]
  · refine ⟨bound, ?_, le_refl _, fun n _ hn => h ⟨n, hn⟩, .inl rfl⟩
    rw [firstPosition, dif_neg h, min_eq_right le_top]

namespace AccessNode

variable {σ α : Type}

/-! ### One step after the other -/

section

variable {β : Type} {step : σ → β × σ}

/-- The state of a server behind some steps. -/
def behind (step : σ → β × σ) (server : σ) (n : ℕ) : σ :=
  (fun server => (step server).2)^[n] server

/-- What a step comes to that is made behind some others. -/
def comesTo (step : σ → β × σ) (server : σ) (n : ℕ) : β :=
  (step (behind step server n)).1

theorem behind_succ (server : σ) (n : ℕ) :
    behind step server (n + 1) = (step (behind step server n)).2 :=
  Function.iterate_succ_apply' _ _ _

end

/-! ### Attempts -/

section

variable {limit : Span} {attempt : σ → Option (Except GatewayError α) × σ}

/-- How many nanoseconds pass between the first attempts. -/
def waited (delays : Delays) (n : ℕ) : ℕ :=
  ∑ j ∈ Finset.range n, (Span.ofMillis (Delays.step^[j] delays).current).nanoseconds

theorem waited_succ (delays : Delays) (n : ℕ) :
    waited delays (n + 1) =
      waited delays n + (Span.ofMillis (Delays.step^[n] delays).current).nanoseconds :=
  Finset.sum_range_succ _ _

theorem waited_mono (delays : Delays) : Monotone (waited delays) := by
  apply monotone_nat_of_le_succ
  intro n
  rw [waited_succ]
  exact Nat.le_add_right _ _

variable {retries left : ℕ} {delays : Delays} {server : σ} {result : Except GatewayError α}

/-- A request ends when its time is over. -/
theorem attempts_timeout (h : left = 0 ∨ (attempt server).1 = none) :
    (attempts limit attempt retries delays left server).1 = .error (.timeout limit) := by
  by_cases hleft : left = 0
  · rw [attempts, if_pos hleft]
  · have heq : attempt server = (none, (attempt server).2) := Prod.ext (h.resolve_left hleft) rfl
    rw [attempts, if_neg hleft, heq]

/-- A transient attempt is made again, if it may be. -/
theorem attempts_of_transient (hleft : left ≠ 0) (hresult : (attempt server).1 = some result)
    (htransient : isTransient result = true) :
    attempts limit attempt (retries + 1) delays left server =
      attempts limit attempt retries delays.step
        (left - (Span.ofMillis delays.current).nanoseconds) (attempt server).2 := by
  have heq : attempt server = (some result, (attempt server).2) := Prod.ext hresult rfl
  rw [attempts, if_neg hleft, heq]
  exact if_pos htransient

/-- An attempt that is not made again is the last one. -/
theorem attempts_of_last (hleft : left ≠ 0) (hresult : (attempt server).1 = some result)
    (hlast : retries = 0 ∨ isTransient result = false) :
    attempts limit attempt retries delays left server = (result, (attempt server).2) := by
  have heq : attempt server = (some result, (attempt server).2) := Prod.ext hresult rfl
  rw [attempts, if_neg hleft, heq]
  rcases hlast with rfl | hsettled
  · rfl
  · cases retries with
    | zero => rfl
    | succ retries => exact if_neg (Bool.eq_false_iff.mp hsettled)

/-- **Transient attempts are made one after the other**, as long as they may be and time is left. -/
theorem attempts_behind {k : ℕ} (hk : k ≤ retries) (htime : ∀ n < k, waited delays n < left)
    (htransient : ∀ n < k, ∃ result, comesTo attempt server n = some result ∧
      isTransient result = true) :
    attempts limit attempt retries delays left server =
      attempts limit attempt (retries - k) (Delays.step^[k] delays) (left - waited delays k)
        (behind attempt server k) := by
  induction k with
  | zero => rfl
  | succ k ih =>
    obtain ⟨result, hresult, hagain⟩ := htransient k (Nat.lt_succ_self k)
    have hretries : retries - k = retries - (k + 1) + 1 := by omega
    have hleft : left - waited delays k ≠ 0 := by
      have := htime k (Nat.lt_succ_self k)
      omega
    rw [ih (by omega) (fun n hn => htime n (by omega)) (fun n hn => htransient n (by omega)),
      hretries, attempts_of_transient hleft hresult hagain, waited_succ, behind_succ,
      Function.iterate_succ_apply', Nat.sub_sub]

/-- An attempt settles a request if it is neither transient nor without an end. -/
def Settles (result : Option (Except GatewayError α)) : Prop :=
  ∃ r, result = some r ∧ isTransient r = false

/-- An attempt that ends and settles nothing is transient. -/
theorem transient_of_not_settles {result : Option (Except GatewayError α)}
    (hended : result ≠ none) (hsettles : ¬Settles result) :
    ∃ r, result = some r ∧ isTransient r = true := by
  obtain ⟨r, hr⟩ := Option.ne_none_iff_exists'.mp hended
  refine ⟨r, hr, ?_⟩
  rw [← Bool.not_eq_false]
  exact fun hfalse => hsettles ⟨r, hr, hfalse⟩

variable {k : ℕ}

/-- **What a request comes to that stays in time**: what its last attempt comes to. -/
theorem attempts_eq (hk : k ≤ retries) (hbefore : ∀ n < k, ¬Settles (comesTo attempt server n))
    (hlast : k = retries ∨ Settles (comesTo attempt server k))
    (hended : ∀ n ≤ k, comesTo attempt server n ≠ none) (htime : waited delays k < left) :
    ∃ result, comesTo attempt server k = some result ∧
      attempts limit attempt retries delays left server =
        (result, behind attempt server (k + 1)) := by
  obtain ⟨result, hresult⟩ := Option.ne_none_iff_exists'.mp (hended k (le_refl k))
  have hagain : ∀ n < k, ∃ result, comesTo attempt server n = some result ∧
      isTransient result = true :=
    fun n hn => transient_of_not_settles (hended n hn.le) (hbefore n hn)
  have hsettled : retries - k = 0 ∨ isTransient result = false := by
    rcases hlast with rfl | ⟨r, hr, hfalse⟩
    · exact .inl (Nat.sub_self k)
    · obtain rfl := Option.some.inj (hresult.symm.trans hr)
      exact .inr hfalse
  refine ⟨result, hresult, ?_⟩
  rw [attempts_behind hk (fun n hn => (waited_mono delays hn.le).trans_lt htime) hagain,
    attempts_of_last (by omega) hresult hsettled, behind_succ]

/-- **A request that does not stay in time ends with it.** -/
theorem attempts_eq_timeout (hk : k ≤ retries)
    (hbefore : ∀ n < k, ¬Settles (comesTo attempt server n))
    (hlate : ¬((∀ n ≤ k, comesTo attempt server n ≠ none) ∧ waited delays k < left)) :
    (attempts limit attempt retries delays left server).1 = .error (.timeout limit) := by
  classical
  -- the request ends at the first attempt that does not end, or that no time is left for
  have hexists : ∃ n, n ≤ k ∧ (comesTo attempt server n = none ∨ left ≤ waited delays n) := by
    by_contra hnone
    simp only [not_exists, not_and, not_or, not_le] at hnone
    exact hlate ⟨fun n hn => (hnone n hn).1, (hnone k (le_refl k)).2⟩
  obtain ⟨hle, hstop⟩ := Nat.find_spec hexists
  have hgoes : ∀ n < Nat.find hexists,
      comesTo attempt server n ≠ none ∧ waited delays n < left := by
    intro n hn
    have hnot := Nat.find_min hexists hn
    simp only [not_and, not_or, not_le] at hnot
    exact hnot (by omega)
  rw [attempts_behind (hle.trans hk) (fun n hn => (hgoes n hn).2)
    (fun n hn => transient_of_not_settles (hgoes n hn).1 (hbefore n (hn.trans_le hle)))]
  apply attempts_timeout
  rcases hstop with hnone | hlater
  · exact .inr hnone
  · exact .inl (by omega)

end

/-! ### Exchanges -/

/-- A request with so many exchanges before the last one stays in time. -/
structure InTime (node : AccessNode) (exchanges : ℕ → Exchange) (k : ℕ) : Prop where
  /-- Every exchange ends. -/
  ended : ∀ n ≤ k, exchanges n ≠ .silent
  /-- The delays leave time for the last exchange. -/
  waits : waited (Delays.start node.backoff) k < node.requestTimeout.nanoseconds

theorem outcome_eq_none_iff {endpoint : String} {read : Reader α} {exchange : Exchange} :
    outcome endpoint read exchange = none ↔ exchange = .silent := by
  unfold outcome
  grind

end AccessNode

/-- The wire that keeps a log of every request that it carries, and of how its exchange ends. -/
def Wire.recorded {σ : Type} (wire : Wire σ) : Wire (σ × List (WireRequest × Exchange)) where
  send request state :=
    let (exchange, server) := wire.send request state.1
    (exchange, (server, state.2 ++ [(request, exchange)]))

/-- The wire whose exchanges are told in advance, to a server that counts them. -/
def Wire.telling (exchanges : ℕ → Exchange) : Wire ℕ := ⟨fun _ n => (exchanges n, n + 1)⟩

namespace AccessNode

variable {σ α : Type}

/-- Every sequence of exchanges is the one that some wire has with some server. -/
theorem comesTo_telling (node : AccessNode) (exchanges : ℕ → Exchange) {url : Url}
    (body : Option Json) (hurl : isReachable url = true) (n : ℕ) :
    comesTo (node.exchange (.telling exchanges) url body) 0 n = exchanges n := by
  have hbehind : behind (node.exchange (.telling exchanges) url body) 0 n = n := by
    induction n with
    | zero => rfl
    | succ n ih =>
      rw [behind_succ, ih, exchange, if_pos hurl]
      rfl
  rw [comesTo, hbehind, exchange, if_pos hurl]
  rfl

/-- A wire that keeps a log carries the same exchanges, and logs them one by one. -/
theorem behind_recorded (node : AccessNode) (wire : Wire σ) {url : Url} (body : Option Json)
    (server : σ) (hurl : isReachable url = true) (n : ℕ) :
    behind (node.exchange wire.recorded url body) (server, []) n =
      (behind (node.exchange wire url body) server n,
        (List.range n).map fun j =>
          (node.requestTo url body, comesTo (node.exchange wire url body) server j)) := by
  induction n with
  | zero => rfl
  | succ n ih =>
    rw [behind_succ, ih, behind_succ, List.range_succ, List.map_append]
    simp only [exchange, comesTo, if_pos hurl, Wire.recorded, List.map_cons, List.map_nil]

/-- A wire that keeps a log carries the same exchanges. -/
theorem comesTo_recorded (node : AccessNode) (wire : Wire σ) {url : Url} (body : Option Json)
    (server : σ) (hurl : isReachable url = true) (n : ℕ) :
    comesTo (node.exchange wire.recorded url body) (server, []) n =
      comesTo (node.exchange wire url body) server n := by
  rw [comesTo, behind_recorded node wire body server hurl]
  simp only [exchange, comesTo, if_pos hurl, Wire.recorded]

/-! ### Requests -/

/-- One attempt of a request. -/
def attemptOf (node : AccessNode) (wire : Wire σ) (endpoint : String) (url : Url)
    (body : Option Json) (read : Reader α) (server : σ) : Option (Except GatewayError α) × σ :=
  (node.exchange wire url body server).map (outcome endpoint read) id

variable {node : AccessNode} {wire : Wire σ} {endpoint : String} {query : List (String × String)}
  {url : Url} {body : Option Json} {read : Reader α} {server : σ}

theorem comesTo_attemptOf (n : ℕ) :
    comesTo (node.attemptOf wire endpoint url body read) server n =
      outcome endpoint read (comesTo (node.exchange wire url body) server n) := rfl

theorem request_eq (hurl : node.endpointUrl? endpoint query = some url) :
    node.request wire endpoint query body read server =
      attempts node.requestTimeout (node.attemptOf wire endpoint url body read)
        node.backoff.maxRetries (Delays.start node.backoff) node.requestTimeout.nanoseconds
        server := by
  rw [request, hurl]
  rfl

/-- A request stays in time if all its attempts end, and the delays leave time for the last one. -/
theorem inTime_iff {k : ℕ} :
    node.InTime (comesTo (node.exchange wire url body) server) k ↔
      (∀ n ≤ k, comesTo (node.attemptOf wire endpoint url body read) server n ≠ none) ∧
        waited (Delays.start node.backoff) k < node.requestTimeout.nanoseconds := by
  simp only [comesTo_attemptOf, ne_eq, outcome_eq_none_iff]
  exact ⟨fun h => ⟨h.ended, h.waits⟩, fun h => ⟨h.1, h.2⟩⟩

/-- What a request comes to, and what it leaves of the server, if it stays in time. -/
theorem request_of_inTime (hurl : node.endpointUrl? endpoint query = some url) {k : ℕ}
    (hk : k ≤ node.backoff.maxRetries)
    (hbefore : ∀ n < k, ¬Settles (outcome endpoint read
      (comesTo (node.exchange wire url body) server n)))
    (hlast : k = node.backoff.maxRetries ∨ Settles (outcome endpoint read
      (comesTo (node.exchange wire url body) server k)))
    (htime : node.InTime (comesTo (node.exchange wire url body) server) k) :
    ∃ result, outcome endpoint read (comesTo (node.exchange wire url body) server k) =
        some result ∧
      node.request wire endpoint query body read server =
        (result, behind (node.exchange wire url body) server (k + 1)) := by
  let attempt := node.attemptOf wire endpoint url body read
  have hunsettled : ∀ n < k, ¬Settles (comesTo attempt server n) := hbefore
  obtain ⟨hended, hwaits⟩ := inTime_iff.mp htime
  rw [request_eq hurl]
  exact attempts_eq hk hunsettled hlast hended hwaits

/-- A request that does not stay in time ends with it. -/
theorem request_of_not_inTime (hurl : node.endpointUrl? endpoint query = some url) {k : ℕ}
    (hk : k ≤ node.backoff.maxRetries)
    (hbefore : ∀ n < k, ¬Settles (outcome endpoint read
      (comesTo (node.exchange wire url body) server n)))
    (hlate : ¬node.InTime (comesTo (node.exchange wire url body) server) k) :
    (node.request wire endpoint query body read server).1 =
      .error (.timeout node.requestTimeout) := by
  let attempt := node.attemptOf wire endpoint url body read
  have hunsettled : ∀ n < k, ¬Settles (comesTo attempt server n) := hbefore
  rw [request_eq hurl]
  exact attempts_eq_timeout hk hunsettled (mt inTime_iff.mpr hlate)

/-! ### What an exchange comes to -/

/-- A status of success comes to the answer that the body holds. -/
theorem outcome_success (endpoint : String) (read : Reader α) {status : ℕ} (body : List UInt8)
    (hlow : 200 ≤ status) (hhigh : status < 300) :
    outcome endpoint read (.reply status body) =
      some (match (Doc.ofBytes? (arriving status body)).bind read with
        | some answer => .ok answer
        | none => .error (.decode (.body endpoint))) := by
  have hfound : status ≠ 404 := by omega
  rw [outcome, if_neg hfound, if_pos ⟨hlow, hhigh⟩]
  cases (Doc.ofBytes? (arriving status body)).bind read with
  | none => rfl
  | some answer => rfl

/-- A status that is none of success, and does not say that there is nothing, is told as it is. -/
theorem outcome_failure (endpoint : String) (read : Reader α) {status : ℕ} (body : List UInt8)
    (hfound : status ≠ 404) (hfailure : ¬(200 ≤ status ∧ status < 300)) :
    outcome endpoint read (.reply status body) =
      some (.error (.unexpectedStatus status (Text.decodeMarked (arriving status body)))) := by
  rw [outcome, if_neg hfound, if_neg hfailure]

/-- **What is worth another attempt**: no connection, too many requests, and failures of the
server. -/
theorem isTransient_outcome_iff {endpoint : String} {read : Reader α} {exchange : Exchange}
    {result : Except GatewayError α} (h : outcome endpoint read exchange = some result) :
    isTransient result = true ↔
      exchange = .broken ∨
        ∃ status body, exchange = .reply status body ∧ (status = 429 ∨ 500 ≤ status) := by
  cases exchange with
  | silent => cases h
  | broken =>
    obtain rfl := Option.some.inj h
    exact iff_of_true rfl (.inl rfl)
  | reply status body =>
    simp only [reduceCtorEq, Exchange.reply.injEq, false_or, ↓existsAndEq, true_and]
    by_cases hfound : status = 404
    · rw [outcome, if_pos hfound] at h
      obtain rfl := Option.some.inj h
      simp [isTransient, GatewayError.isTransient, hfound]
    · by_cases hsuccess : 200 ≤ status ∧ status < 300
      · rw [outcome_success endpoint read body hsuccess.1 hsuccess.2] at h
        obtain rfl := Option.some.inj h
        have hnot : ¬(status = 429 ∨ 500 ≤ status) := by omega
        refine iff_of_false ?_ hnot
        split <;> exact Bool.false_ne_true
      · rw [outcome_failure endpoint read body hfound hsuccess] at h
        obtain rfl := Option.some.inj h
        simp [isTransient, GatewayError.isTransient]

/-! ### The law of retries -/

/-- **How often a request is made, and what it comes to.** A request to a URL is made once, and
again until an exchange settles it, but at most as often as the backoff allows: with so many
exchanges, one after the other and all of the same request, and no other, it comes to what the last
of them comes to. That is so if the request stays in time, and otherwise it ends with its time.

An exchange is transient if there is no connection, or the status is 429 or at least 500. The status
404 says that there is nothing, and every other status that is none of success is told together with
the body; a body that comes with success is the answer, or cannot be decoded. -/
theorem retried (node : AccessNode) (wire : Wire σ) (endpoint : String)
    (query : List (String × String)) (body : Option Json) (read : Reader α) (server : σ) {url : Url}
    (hurl : node.endpointUrl? endpoint query = some url) :
    let exchanges := comesTo (node.exchange wire url body) server
    (∃ k : ℕ,
      ((k + 1 : ℕ) : ℕ∞) =
        min (firstPosition fun n => Settles (outcome endpoint read (exchanges n)))
          (node.backoff.maxRetries + 1 : ℕ) ∧
      (node.InTime exchanges k →
        ∃ result, outcome endpoint read (exchanges k) = some result ∧
          (node.request wire endpoint query body read server).1 = result ∧
          (isReachable url = true →
            node.request wire.recorded endpoint query body read (server, []) =
              (result, (node.request wire endpoint query body read server).2,
                (List.range (k + 1)).map fun n => (node.requestTo url body, exchanges n)))) ∧
      (¬node.InTime exchanges k →
        (node.request wire endpoint query body read server).1 =
          .error (.timeout node.requestTimeout))) ∧
    (∀ exchange result, outcome endpoint read exchange = some result →
      (isTransient result = true ↔
        exchange = .broken ∨
          ∃ status body, exchange = .reply status body ∧ (status = 429 ∨ 500 ≤ status))) ∧
    outcome endpoint read .broken = some (.error .transport) ∧
    ∀ status body,
      (status = 404 →
        outcome endpoint read (.reply status body) = some (.error (.notFound endpoint))) ∧
      (status ≠ 404 → ¬(200 ≤ status ∧ status < 300) →
        outcome endpoint read (.reply status body) =
          some (.error (.unexpectedStatus status (Text.decodeMarked (arriving status body))))) ∧
      (200 ≤ status → status < 300 →
        outcome endpoint read (.reply status body) =
          some (match (Doc.ofBytes? (arriving status body)).bind read with
            | some answer => .ok answer
            | none => .error (.decode (.body endpoint)))) := by
  intro exchanges
  refine ⟨?_, fun _ _ => isTransient_outcome_iff, rfl, fun status body => ⟨fun h => if_pos h,
    outcome_failure endpoint read body, outcome_success endpoint read body⟩⟩
  obtain ⟨k, hcount, hk, hbefore, hlast⟩ := exists_eq_min_firstPosition
    (fun n => Settles (outcome endpoint read (exchanges n))) node.backoff.maxRetries
  refine ⟨k, hcount, fun htime => ?_, request_of_not_inTime hurl hk hbefore⟩
  obtain ⟨result, hresult, hrequest⟩ := request_of_inTime hurl hk hbefore hlast htime
  refine ⟨result, hresult, congrArg Prod.fst hrequest, fun hreachable => ?_⟩
  have hsame : comesTo (node.exchange wire.recorded url body) (server, []) = exchanges :=
    funext (comesTo_recorded node wire body server hreachable)
  have hintime : node.InTime (comesTo (node.exchange wire.recorded url body) (server, [])) k :=
    hsame ▸ htime
  obtain ⟨result', hresult', hrecorded⟩ :=
    request_of_inTime hurl hk (hsame ▸ hbefore) (hsame ▸ hlast) hintime
  rw [hsame, hresult] at hresult'
  obtain rfl := Option.some.inj hresult'
  rw [hrecorded, hrequest, behind_recorded node wire body server hreachable]

/-- No connection, then a busy server, and then what is final; an answer would come after that. -/
def sampleExchanges : ℕ → Exchange
  | 0 => .broken
  | 1 => .reply 503 []
  | 2 => .reply 404 []
  | _ => .reply 200 [34, 34]

/-- The third attempt is the last one, and the request comes to what it comes to. -/
theorem retried_of_sample :
    let node : AccessNode :=
      .standard ⟨"http", "", "", some (.domain "access.node"), none, .segments [""], none, none⟩
    (node.request (.telling sampleExchanges) "v1/blocks" [] none Doc.readText 0).1 =
      .error (.notFound "v1/blocks") := by
  intro node
  have hurl : (node.endpointUrl? "v1/blocks" []).any isReachable = true := by decide +kernel
  obtain ⟨url, hurl, hreachable⟩ := (Option.any_eq_true _ _).mp hurl
  have hexchanges : comesTo (node.exchange (.telling sampleExchanges) url none) 0 =
      sampleExchanges := funext (comesTo_telling node sampleExchanges none hreachable)
  obtain ⟨⟨k, hcount, htime, -⟩, -⟩ :=
    retried node (.telling sampleExchanges) "v1/blocks" [] none Doc.readText 0 hurl
  rw [hexchanges] at hcount htime
  have hbefore : ∀ n < 2, ¬Settles (outcome "v1/blocks" Doc.readText (sampleExchanges n)) := by
    rintro n hn ⟨result, hresult, hsettled⟩
    interval_cases n
    · obtain rfl := Option.some.inj hresult
      cases hsettled
    · obtain rfl := Option.some.inj hresult
      cases hsettled
  have hless : ((2 + 1 : ℕ) : ℕ∞) ≤ ((node.backoff.maxRetries + 1 : ℕ) : ℕ∞) :=
    Nat.cast_le.mpr (by decide)
  rw [firstPosition_eq ⟨_, rfl, rfl⟩ hbefore, min_eq_left hless, Nat.cast_inj] at hcount
  obtain rfl : k = 2 := Nat.succ_injective hcount
  have hended : ∀ n ≤ 2, sampleExchanges n ≠ .silent := by decide
  obtain ⟨result, hresult, hrequest, -⟩ := htime ⟨hended, by decide⟩
  rw [hrequest]
  exact (Option.some.inj hresult).symm

end AccessNode

end ChainFeed
