import Mathlib.Algebra.Group.Action.Defs
import Mathlib.Algebra.Order.BigOperators.Group.List
import ChainFeed.Proofs.Gateway.Carried
import ChainFeed.Proofs.Gateway.Constancy
import ChainFeed.Proofs.Gateway.Logged

/-!
# What a block carries is fetched completely, in order and once

What a block carries takes one request for the block, then one for each collection that it
guarantees, and then one for the result of each listed transaction, side by side
(`AccessNode.Fetched`). Whatever the order in which the results arrive, an answer holds the listed
transactions in order, each with the status of its own result, and behind each other the events of
the results (`AccessNode.Carries`). There is no answer if a request fails in the end or a record
does not decode (`AccessNode.fetched_once`).

To ask for one result after the other, as `AccessNode.contents` does, is one of the ways to get
there, and if the server does not change, all of them come to the same.
-/

namespace ChainFeed

open Payload

namespace AccessNode

variable {σ : Type}

/-- The part of a log is what is asked for what a block carries that lists transactions with these
results: the listing of the block, and then one request for the result of each transaction, in
whatever order. -/
def Fetched (node : AccessNode) (blockId : String) (part : Wire.Log)
    (entries : List (WrittenTransaction × WrittenResult)) : Prop :=
  ∃ listing results parts,
    part = listing ++ results ∧ node.Listed blockId listing (entries.map Prod.fst) ∧
      node.ResultsAsked entries parts ∧ results.Perm parts.flatten

/-- After some moves, every request for what a block carries has come to an answer: the
transactions are listed, and each has its result. -/
def Answered (node : AccessNode) (wire : Wire σ) (maxConcurrent : ℕ) (moves : List Move)
    (blockId : String) (server : σ) (entries : List (WrittenTransaction × WrittenResult)) : Prop :=
  ∃ later, node.listed wire blockId server = (.ok (entries.map Prod.fst), later) ∧
    (node.resultsAmid wire maxConcurrent moves (entries.map Prod.fst) later).flights =
      entries.map Fanout.answered

/-- After some moves, a request for what a block carries has failed in the end: one for its listing,
or one for the result of a transaction. -/
def Failed (node : AccessNode) (wire : Wire σ) (maxConcurrent : ℕ) (moves : List Move)
    (blockId : String) (server : σ) (e : GatewayError) : Prop :=
  node.Unlisted wire blockId server e ∨
    ∃ transactions later transaction, node.listed wire blockId server = (.ok transactions, later) ∧
      (transaction, .ended (.error e)) ∈
        (node.resultsAmid wire maxConcurrent moves transactions later).flights

section

variable {node : AccessNode} {wire : Wire σ} {maxConcurrent : ℕ} {moves : List Move}
  {blockId : String} {server : σ} {entries : List (WrittenTransaction × WrittenResult)}

/-! ### Transactions with their results -/

theorem executedAmid_of_error {later : σ} {e : GatewayError}
    (h : node.listed wire blockId server = (.error e, later)) :
    node.executedAmid wire maxConcurrent moves blockId server = (some (.error e), later) := by
  rw [executedAmid, h]

theorem executedAmid_of_ok {later : σ} {transactions : List WrittenTransaction}
    (h : node.listed wire blockId server = (.ok transactions, later)) :
    node.executedAmid wire maxConcurrent moves blockId server =
      ((node.resultsAmid wire maxConcurrent moves transactions later).outcome?,
        (node.resultsAmid wire maxConcurrent moves transactions later).server) := by
  rw [executedAmid, h]

/-- If there are results, every request has come to its answer. -/
theorem answered_of_executedAmid
    (h : (node.executedAmid wire maxConcurrent moves blockId server).1 = some (.ok entries)) :
    node.Answered wire maxConcurrent moves blockId server entries := by
  rcases hlisted : node.listed wire blockId server with ⟨e | transactions, later⟩
  · rw [executedAmid_of_error hlisted] at h
    cases h
  · rw [executedAmid_of_ok hlisted] at h
    obtain ⟨hflights, rfl⟩ :=
      (node.orderly_resultsAmid wire maxConcurrent moves transactions later).of_outcome_ok h
    exact ⟨later, hlisted, hflights⟩

/-- If every request has come to its answer, there are no other results. -/
theorem Answered.eq_of_executedAmid
    (h : node.Answered wire maxConcurrent moves blockId server entries)
    {result : Except GatewayError (List (WrittenTransaction × WrittenResult))}
    (hresult : (node.executedAmid wire maxConcurrent moves blockId server).1 = some result) :
    result = .ok entries := by
  obtain ⟨later, hlisted, hflights⟩ := h
  rw [executedAmid_of_ok hlisted] at hresult
  cases result with
  | ok others =>
    obtain ⟨-, rfl⟩ := Fanout.outcome?_eq_ok_iff.mp hresult
    rw [hflights, Fanout.filterMap_answer?_map]
  | error e =>
    obtain ⟨transaction, hget⟩ := Fanout.outcome?_eq_error_iff.mp hresult
    rw [hflights] at hget
    obtain ⟨entry, -, hentry⟩ := List.mem_map.mp (List.mem_of_getElem? hget)
    cases hentry

/-- If there is an error, it is that of a request that has failed. -/
theorem failed_of_executedAmid {e : GatewayError}
    (h : (node.executedAmid wire maxConcurrent moves blockId server).1 = some (.error e)) :
    node.Failed wire maxConcurrent moves blockId server e := by
  rcases hlisted : node.listed wire blockId server with ⟨e' | transactions, later⟩
  · rw [executedAmid_of_error hlisted] at h
    obtain rfl := Except.error.inj (Option.some.inj h)
    exact .inl ((node.listed_eq_error_iff wire blockId server _).mp (by rw [hlisted]))
  · rw [executedAmid_of_ok hlisted] at h
    obtain ⟨transaction, hget⟩ := Fanout.outcome?_eq_error_iff.mp h
    exact .inr ⟨transactions, later, transaction, hlisted, List.mem_of_getElem? hget⟩

/-- If a request has failed, there are no results. -/
theorem Failed.not_ok {e : GatewayError}
    (h : node.Failed wire maxConcurrent moves blockId server e) :
    (node.executedAmid wire maxConcurrent moves blockId server).1 ≠ some (.ok entries) := by
  intro hok
  rcases h with hunlisted | ⟨transactions, later, transaction, hlisted, hfailed⟩
  · have herror := (node.listed_eq_error_iff wire blockId server e).mpr hunlisted
    obtain ⟨later, hlisted, -⟩ := answered_of_executedAmid hok
    rw [hlisted] at herror
    cases herror
  · rw [executedAmid_of_ok hlisted] at hok
    exact (node.orderly_resultsAmid wire maxConcurrent moves transactions later).not_ok_of_failed
      hfailed entries hok

/-- **Fetching does the same when the wire keeps a log**, and the log holds what is asked. -/
theorem executedAmid_recorded (node : AccessNode) (wire : Wire σ) (maxConcurrent : ℕ)
    (moves : List Move) (blockId : String) (server : σ) (log : Wire.Log) :
    ∃ part, node.executedAmid wire.recorded maxConcurrent moves blockId (server, log) =
        ((node.executedAmid wire maxConcurrent moves blockId server).1,
          (node.executedAmid wire maxConcurrent moves blockId server).2, log ++ part) ∧
      ∀ entries,
        (node.executedAmid wire maxConcurrent moves blockId server).1 = some (.ok entries) →
          node.Fetched blockId part entries := by
  obtain ⟨listing, hrecorded, hlisting⟩ := node.logged_listed wire blockId server log
  rcases hlisted : node.listed wire blockId server with ⟨e | transactions, later⟩
  · rw [hlisted] at hrecorded
    rw [executedAmid_of_error hlisted, executedAmid_of_error hrecorded]
    exact ⟨listing, rfl, fun entries h => by cases h⟩
  · rw [hlisted] at hrecorded
    obtain ⟨hsame, results, hserver, hresults⟩ := node.resultsAmid_recorded wire maxConcurrent moves
      transactions later (log ++ listing)
    rw [executedAmid_of_ok hlisted, executedAmid_of_ok hrecorded, hsame, hserver, List.append_assoc]
    refine ⟨listing ++ results, rfl, fun entries hentries => ?_⟩
    obtain ⟨rfl, parts, hparts, hperm⟩ := hresults entries hentries
    exact ⟨listing, results, parts, rfl, hlisting _ (by rw [hlisted]), hparts, hperm⟩

/-! ### The way to an outcome -/

/-- As long as there is no outcome, there is a move that changes something. -/
theorem exists_move_of_executedAmid
    (h : (node.executedAmid wire maxConcurrent moves blockId server).1 = none) :
    ∃ transactions later m, node.listed wire blockId server = (.ok transactions, later) ∧
      node.resultsAmid wire maxConcurrent (moves ++ [m]) transactions later ≠
        node.resultsAmid wire maxConcurrent moves transactions later := by
  rcases hlisted : node.listed wire blockId server with ⟨e | transactions, later⟩
  · rw [executedAmid_of_error hlisted] at h
    cases h
  · rw [executedAmid_of_ok hlisted] at h
    have hlimit : 0 < max maxConcurrent 1 := by omega
    obtain ⟨m, hless⟩ := Fanout.exists_remaining_lt (node.progressive_resultAct wire) hlimit h
    refine ⟨transactions, later, m, rfl, fun hsame => ?_⟩
    rw [resultsAmid, Fanout.run_concat] at hsame
    rw [← resultsAmid] at hsame
    rw [hsame] at hless
    exact Nat.lt_irrefl _ hless

/-- A request takes two acts for each attempt. -/
theorem actsLeft_begun_le (node : AccessNode) (endpoint : String) (query : List (String × String)) :
    Fanout.actsLeft (node.begun endpoint query : Standing WrittenResult) ≤
      2 * node.backoff.maxRetries + 2 := by
  rw [begun]
  cases node.endpointUrl? endpoint query with
  | none => exact Nat.zero_le _
  | some url => exact Nat.le_refl _

/-- A run has at most two moves for each attempt, and one for each result, that change anything. -/
theorem length_le_of_busy {transactions : List WrittenTransaction}
    (h : Fanout.Busy (node.resultAct wire) (max maxConcurrent 1)
      (node.resultsDue transactions server) moves) :
    moves.length ≤ transactions.length * (2 * node.backoff.maxRetries + 3) := by
  refine (Fanout.length_le_remaining (node.progressive_resultAct wire) h).trans ?_
  rw [Fanout.remaining, resultsDue, List.map_map, List.length_map, Nat.sub_zero]
  have hsum := List.sum_le_card_nsmul
    (transactions.map ((fun flight => Fanout.actsLeft flight.2) ∘ fun t : WrittenTransaction =>
      (t, (node.begun (resultEndpoint t) [] : Standing WrittenResult))))
    (2 * node.backoff.maxRetries + 2) (by
      intro left hleft
      obtain ⟨t, -, rfl⟩ := List.mem_map.mp hleft
      exact node.actsLeft_begun_le (resultEndpoint t) [])
  rw [List.length_map, smul_eq_mul] at hsum
  rw [Nat.mul_succ]
  exact Nat.add_le_add_right hsum _

/-! ### One result after the other -/

/-- Transactions and results, asked for one after the other. -/
theorem executed_eq (node : AccessNode) (wire : Wire σ) (blockId : String) :
    node.executed wire blockId =
      node.listed wire blockId >>= Fanout.inTurn fun t => node.result wire t.id := by
  simp only [executed, listed, bind_assoc, pure_bind]
  rfl

/-- To ask for one result after the other is one way to fetch. -/
theorem exists_executedAmid_eq (node : AccessNode) (wire : Wire σ) (maxConcurrent : ℕ)
    (blockId : String) (server : σ) :
    ∃ moves, node.executedAmid wire maxConcurrent moves blockId server =
      (some (node.executed wire blockId server).1, (node.executed wire blockId server).2) := by
  rw [executed_eq]
  rcases hlisted : node.listed wire blockId server with ⟨e | transactions, later⟩
  · refine ⟨[], ?_⟩
    rw [executedAmid_of_error hlisted, Asking.bind_of_error hlisted]
  · have hlimit : 0 < max maxConcurrent 1 := by omega
    obtain ⟨moves, houtcome, hserver⟩ := Fanout.exists_run_eq_inTurn
      (node.final_resultAct wire) hlimit
      (fun t => node.begun (resultEndpoint t) []) (sweeps (node.backoff.maxRetries + 1))
      (fun t => node.result wire t.id) (fun _ server => get_eq_course server) [] transactions later
    have hresults : node.resultsAmid wire maxConcurrent moves transactions later =
        Fanout.run (node.resultAct wire) (max maxConcurrent 1)
          ⟨transactions.map fun t => (t, node.begun (resultEndpoint t) []), 0, later⟩ moves := rfl
    have hid (x : Except GatewayError (List (WrittenTransaction × WrittenResult))) :
        x.map ([] ++ ·) = x := by cases x <;> rfl
    rw [hid] at houtcome
    refine ⟨moves, ?_⟩
    rw [executedAmid_of_ok hlisted, Asking.bind_of_ok hlisted, hresults]
    exact Prod.ext houtcome hserver

/-- If no request changes the server and no time runs out, everything comes to what asking for one
result after the other comes to. -/
theorem executedAmid_eq_of_constant (hwire : wire.Constant)
    (hmoves : ∀ index, Move.fly .expire index ∉ moves)
    {result : Except GatewayError (List (WrittenTransaction × WrittenResult))}
    (hresult : (node.executedAmid wire maxConcurrent moves blockId server).1 = some result) :
    result = (node.executed wire blockId server).1 := by
  rw [executed_eq]
  rcases hlisted : node.listed wire blockId server with ⟨e | transactions, later⟩
  · rw [executedAmid_of_error hlisted] at hresult
    rw [Asking.bind_of_error hlisted]
    exact (Option.some.inj hresult).symm
  · rw [executedAmid_of_ok hlisted] at hresult
    rw [Asking.bind_of_ok hlisted,
      Fanout.inTurn_eq (fun t : WrittenTransaction => node.result wire t.id)
        fun t => get_constant hwire later]
    have haimed : Fanout.Aimed (node.resultAct wire) later
        fun t => node.goal wire (resultEndpoint t) WrittenResult.read later :=
      ⟨fun t result => goal_ended later result,
        fun t act standing => act_constant hwire act standing later,
        fun t act standing hact => goal_act hwire hact standing later⟩
    have hdue : Fanout.Bound later
        (fun t => node.goal wire (resultEndpoint t) WrittenResult.read later)
        (fun t => (node.result wire t.id later).1) (node.resultsDue transactions later) := by
      refine ⟨rfl, fun flight hflight => ?_⟩
      obtain ⟨t, -, rfl⟩ := List.mem_map.mp hflight
      exact goal_begun later
    exact (hdue.run haimed hmoves).outcome_eq haimed
      (node.orderly_resultsAmid wire maxConcurrent moves transactions later) hresult

end

/-! ### What a block carries -/

theorem contentsAmid_eq_ok_iff {node : AccessNode} {wire : Wire σ} {maxConcurrent : ℕ}
    {moves : List Move} {blockId : String} {server : σ} {contents : BlockContents} :
    (node.contentsAmid wire maxConcurrent moves blockId server).1 = some (.ok contents) ↔
      ∃ entries,
        (node.executedAmid wire maxConcurrent moves blockId server).1 = some (.ok entries) ∧
          contentsOf blockId entries = .ok contents := by
  rw [contentsAmid]
  rcases node.executedAmid wire maxConcurrent moves blockId server with ⟨_ | e | entries, later⟩
  · simp
  · simp [Except.bind]
  · simp [Except.bind]

theorem contentsAmid_eq_error_iff {node : AccessNode} {wire : Wire σ} {maxConcurrent : ℕ}
    {moves : List Move} {blockId : String} {server : σ} {e : GatewayError} :
    (node.contentsAmid wire maxConcurrent moves blockId server).1 = some (.error e) ↔
      (node.executedAmid wire maxConcurrent moves blockId server).1 = some (.error e) ∨
        ∃ entries,
          (node.executedAmid wire maxConcurrent moves blockId server).1 = some (.ok entries) ∧
            contentsOf blockId entries = .error e := by
  rw [contentsAmid]
  rcases node.executedAmid wire maxConcurrent moves blockId server with ⟨_ | e | entries, later⟩
  · simp
  · simp [Except.bind]
  · simp [Except.bind]

/-- The call leaves the server as it is after the executed transactions were asked for. -/
theorem contents_later (node : AccessNode) (wire : Wire σ) (blockId : String) (server : σ) :
    (node.contents wire blockId server).2 = (node.executed wire blockId server).2 := by
  rw [contents]
  rcases hexecuted : node.executed wire blockId server with ⟨e | entries, later⟩
  · rw [Asking.bind_of_error hexecuted]
  · rw [Asking.bind_of_ok hexecuted, settled]

/-- **What a block carries is fetched completely, in order and once**, with however many requests at
a time and in whatever order they come to an end.

An answer holds the transactions in the order of the listing and the events of their results, each
of them was asked for with one request, and there is an answer if every request comes to one and
every record can be decoded. If a request fails in the end, the outcome is the error of a request
that does. There is a move until there is an outcome, and it does not take more than two moves for
each attempt, and one for each result. One outcome is that of the call that asks for one result
after the other, and if no request changes the server and no time runs out, there is no other. The
transactions and the events of a block are the halves of what it carries. -/
theorem fetched_once (node : AccessNode) (wire : Wire σ) (maxConcurrent : ℕ) (blockId : String)
    (server : σ) :
    (∀ moves : List Move,
      let amid := node.contentsAmid wire maxConcurrent moves blockId server
      (∀ log, ∃ part,
        node.contentsAmid wire.recorded maxConcurrent moves blockId (server, log) =
            (amid.1, amid.2, log ++ part) ∧
          ∀ contents, amid.1 = some (.ok contents) →
            ∃ entries, node.Answered wire maxConcurrent moves blockId server entries ∧
              (∀ entry ∈ entries, Decodes entry) ∧ node.Fetched blockId part entries ∧
                Carries blockId entries contents) ∧
      (∀ entries, node.Answered wire maxConcurrent moves blockId server entries →
        (∀ entry ∈ entries, Decodes entry) → ∀ outcome, amid.1 = some outcome →
          ∃ contents, outcome = .ok contents ∧ Carries blockId entries contents) ∧
      (∀ e, node.Failed wire maxConcurrent moves blockId server e →
        ∀ outcome, amid.1 = some outcome →
          ∃ e', outcome = .error e' ∧ node.Failed wire maxConcurrent moves blockId server e') ∧
      (∀ e, amid.1 = some (.error e) →
        node.Failed wire maxConcurrent moves blockId server e ∨
          ∃ entries, node.Answered wire maxConcurrent moves blockId server entries ∧
            ∃ entry ∈ entries, ¬Decodes entry) ∧
      (amid.1 = none →
        ∃ transactions later m, node.listed wire blockId server = (.ok transactions, later) ∧
          node.resultsAmid wire maxConcurrent (moves ++ [m]) transactions later ≠
            node.resultsAmid wire maxConcurrent moves transactions later) ∧
      (∀ transactions later, node.listed wire blockId server = (.ok transactions, later) →
        Fanout.Busy (node.resultAct wire) (max maxConcurrent 1)
            (node.resultsDue transactions later) moves →
          moves.length ≤ transactions.length * (2 * node.backoff.maxRetries + 3)) ∧
      (wire.Constant → (∀ index, Move.fly .expire index ∉ moves) →
        ∀ outcome, amid.1 = some outcome → outcome = (node.contents wire blockId server).1)) ∧
    (∃ moves, node.contentsAmid wire maxConcurrent moves blockId server =
      (some (node.contents wire blockId server).1, (node.contents wire blockId server).2)) ∧
    (node.ask wire (.contents blockId) server = node.contents wire blockId server ∧
      node.ask wire (.transactions blockId) server =
        (node.contents wire blockId server).map (·.map BlockContents.transactions) id ∧
      node.ask wire (.events blockId) server =
        (node.contents wire blockId server).map (·.map BlockContents.events) id) := by
  refine ⟨fun moves => ⟨fun log => ?_, fun entries hanswered hdecodes outcome houtcome => ?_,
    fun e hfailed outcome houtcome => ?_, fun e herror => ?_, fun hopen => ?_,
    fun transactions later _ hbusy => length_le_of_busy hbusy,
    fun hwire hmoves outcome houtcome => ?_⟩, ?_, rfl, ?_, ?_⟩
  · obtain ⟨part, hrecorded, hfetched⟩ :=
      node.executedAmid_recorded wire maxConcurrent moves blockId server log
    refine ⟨part, ?_, fun contents hcontents => ?_⟩
    · rw [contentsAmid, hrecorded]
      rfl
    · obtain ⟨entries, hentries, hcontents⟩ := contentsAmid_eq_ok_iff.mp hcontents
      exact ⟨entries, answered_of_executedAmid hentries,
        (exists_contentsOf_iff blockId entries).mp ⟨contents, hcontents⟩,
        hfetched entries hentries, carries_of_contentsOf hcontents⟩
  · obtain ⟨contents, hcontents⟩ := (exists_contentsOf_iff blockId entries).mpr hdecodes
    refine ⟨contents, ?_, carries_of_contentsOf hcontents⟩
    obtain ⟨result, hresult, rfl⟩ := Option.map_eq_some_iff.mp houtcome
    obtain rfl := hanswered.eq_of_executedAmid hresult
    exact hcontents
  · obtain ⟨result, hresult, rfl⟩ := Option.map_eq_some_iff.mp houtcome
    cases result with
    | ok entries => exact absurd hresult hfailed.not_ok
    | error e' => exact ⟨e', rfl, failed_of_executedAmid hresult⟩
  · rcases contentsAmid_eq_error_iff.mp herror with hresult | ⟨entries, hentries, hcontents⟩
    · exact .inl (failed_of_executedAmid hresult)
    · refine .inr ⟨entries, answered_of_executedAmid hentries, ?_⟩
      by_contra hnot
      push Not at hnot
      obtain ⟨contents, hok⟩ := (exists_contentsOf_iff blockId entries).mpr hnot
      rw [hok] at hcontents
      cases hcontents
  · exact exists_move_of_executedAmid (Option.map_eq_none_iff.mp hopen)
  · obtain ⟨result, hresult, rfl⟩ := Option.map_eq_some_iff.mp houtcome
    rw [contents_eq, executedAmid_eq_of_constant hwire hmoves hresult]
  · obtain ⟨moves, hmoves⟩ := node.exists_executedAmid_eq wire maxConcurrent blockId server
    refine ⟨moves, ?_⟩
    rw [contentsAmid, hmoves, contents_eq, contents_later]
    rfl
  · exact Asking.map_apply _ _ _
  · exact Asking.map_apply _ _ _

/-! ### Two results, the second of which is there first -/

/-- A transaction in a collection, as an access node writes it. -/
def stagedTransaction (id : String) : Json :=
  .record [("id", .text id), ("script", .text ""), ("reference_block_id", .text ""),
    ("gas_limit", .text "1"), ("payer", .text "0x1"),
    ("proposal_key", .record [("address", .text "0x1"), ("key_index", .text "0"),
      ("sequence_number", .text "0")])]

/-- The result of a transaction that emitted an event, as an access node writes it. -/
def stagedResult (id : String) : Json :=
  .record [("status", .text "Sealed"), ("events", .list [.record [("type", .text "flow.Probe"),
    ("transaction_id", .text id), ("transaction_index", .text "0"), ("event_index", .text "0"),
    ("payload", .text "MQ==")]])]

/-- What a server replies to a request, after as many others: it is not ready for the request after
the third. -/
def stagedReply (request : WireRequest) (served : ℕ) : Exchange :=
  let reply (answer : Json) : Exchange := .reply 200 (Text.Utf8.encode answer.compact)
  if served = 3 then .reply 503 []
  else if request.path = "/v1/collections/left" then
    reply (.record [("transactions", .list [stagedTransaction "first"])])
  else if request.path = "/v1/collections/right" then
    reply (.record [("transactions", .list [stagedTransaction "second"])])
  else if request.path = "/v1/transaction_results/first" then reply (stagedResult "first")
  else if request.path = "/v1/transaction_results/second" then reply (stagedResult "second")
  else
    reply (.list [.record [
      ("header", .record [("id", .text "block"), ("parent_id", .text ""), ("height", .text "1"),
        ("timestamp", .text "2024-01-01T00:00:00Z")]),
      ("payload", .record [("collection_guarantees", .list [
        .record [("collection_id", .text "left")], .record [("collection_id", .text "right")]])])]])

/-- The wire to a server that counts what it serves. -/
def stagedWire : Wire ℕ := ⟨fun request served => (stagedReply request served, served + 1)⟩

/-- The node at the other end of the wire. -/
def stagedNode : AccessNode :=
  .standard ⟨"http", "", "", some (.domain "access.node"), none, .segments [""], none, none⟩

/-- The first result has to be asked for again, and the second one waits for it. -/
def stagedMoves : List Move :=
  [.fly .send 0, .fly .send 1, .fly .arrive 1, .fly .arrive 0, .fly .send 0, .fly .arrive 0,
    .collect, .collect]

/-- Nothing is mixed up by a result that comes early. -/
theorem fetched_once_of_staged :
    ∃ part entries contents,
      (stagedNode.contentsAmid stagedWire 2 stagedMoves "block" 0).1 = some (.ok contents) ∧
        stagedNode.Fetched "block" part entries ∧ Carries "block" entries contents ∧
          contents.transactions.map (·.id) = ["first", "second"] ∧
            contents.events.map (·.id) = ["first.0", "second.0"] := by
  have hids : (stagedNode.contentsAmid stagedWire 2 stagedMoves "block" 0).1.map (fun outcome =>
      outcome.toOption.map fun contents =>
        (contents.transactions.map (·.id), contents.events.map (·.id))) =
      some (some (["first", "second"], ["first.0", "second.0"])) := by
    decide +kernel
  obtain ⟨outcome, houtcome, hids⟩ := Option.map_eq_some_iff.mp hids
  cases outcome with
  | error e => cases hids
  | ok contents =>
    obtain ⟨part, -, hpart⟩ := ((fetched_once stagedNode stagedWire 2 "block" 0).1 stagedMoves).1 []
    obtain ⟨entries, -, -, hfetched, hcarries⟩ := hpart contents houtcome
    obtain ⟨htransactions, hevents⟩ := Prod.mk.inj (Option.some.inj hids)
    exact ⟨part, entries, contents, houtcome, hfetched, hcarries, htransactions, hevents⟩

end AccessNode

end ChainFeed
