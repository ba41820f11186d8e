import Mathlib.Data.List.Forall2
import ChainFeed.Proofs.Gateway.Flights
import ChainFeed.Proofs.Gateway.Legible

/-!
# What is asked for a block, as a wire logs it

Calls that ask one thing after the other do the same over a wire that keeps a log, and each answer
is borne out by a part of the log (`AccessNode.Logged`). So the listing of a block takes one request
for the block, and one for each collection that it guarantees (`AccessNode.logged_listed`), and the
results take one request for each transaction, whatever the order of the moves
(`AccessNode.resultsAmid_recorded`).
-/

namespace ChainFeed

open Payload

namespace AccessNode

variable {σ : Type}

/-! ### One after the other, with a log -/

/-- A call does the same when the wire keeps a log, and what is logged bears out its answers. -/
def Logged {β : Type} (call : Asking σ β) (recorded : Asking (σ × Wire.Log) β)
    (bears : Wire.Log → β → Prop) : Prop :=
  ∀ server log, ∃ part,
    recorded (server, log) = ((call server).1, (call server).2, log ++ part) ∧
      ∀ answer, (call server).1 = .ok answer → bears part answer

section

variable {β γ ι : Type} {call : Asking σ β} {recorded : Asking (σ × Wire.Log) β}
  {bears : Wire.Log → β → Prop}

theorem Logged.pure (answer : β) :
    Logged (pure answer : Asking σ β) (pure answer) fun part other => part = [] ∧ other = answer :=
  fun server log => ⟨[], by rw [List.append_nil]; rfl, fun _ h => ⟨rfl, (Except.ok.inj h).symm⟩⟩

theorem Logged.throw (e : GatewayError) :
    Logged (throw e : Asking σ β) (throw e) fun _ _ => False :=
  fun server log => ⟨[], by rw [List.append_nil]; rfl, fun _ h => by cases h⟩

theorem Logged.mono {other : Wire.Log → β → Prop} (h : Logged call recorded bears)
    (hbears : ∀ part answer, bears part answer → other part answer) :
    Logged call recorded other := by
  intro server log
  obtain ⟨part, heq, hpart⟩ := h server log
  exact ⟨part, heq, fun answer hanswer => hbears part answer (hpart answer hanswer)⟩

/-- What is asked after an answer is logged behind it. -/
theorem Logged.bind (h : Logged call recorded bears) {next : β → Asking σ γ}
    {recordedNext : β → Asking (σ × Wire.Log) γ} {bearsNext : β → Wire.Log → γ → Prop}
    (hnext : ∀ answer, Logged (next answer) (recordedNext answer) (bearsNext answer)) :
    Logged (call >>= next) (recorded >>= recordedNext) fun part last =>
      ∃ first rest answer,
        part = first ++ rest ∧ bears first answer ∧ bearsNext answer rest last := by
  intro server log
  obtain ⟨first, heq, hfirst⟩ := h server log
  rcases hcall : call server with ⟨e | answer, later⟩
  · rw [hcall] at heq
    rw [Asking.bind_of_error hcall, Asking.bind_of_error heq]
    exact ⟨first, rfl, fun _ h => by cases h⟩
  · rw [hcall] at heq
    obtain ⟨rest, hrest, hbears⟩ := hnext answer later (log ++ first)
    rw [Asking.bind_of_ok hcall, Asking.bind_of_ok heq, hrest, List.append_assoc]
    exact ⟨first ++ rest, rfl, fun last hlast => ⟨first, rest, answer, rfl,
      hfirst answer (by rw [hcall]), hbears last hlast⟩⟩

/-- What is asked for one item after the other is logged part by part. -/
theorem Logged.mapM {ask : ι → Asking σ β} {recordedAsk : ι → Asking (σ × Wire.Log) β}
    {bears : ι → Wire.Log → β → Prop}
    (h : ∀ item, Logged (ask item) (recordedAsk item) (bears item)) (items : List ι) :
    Logged (items.mapM ask) (items.mapM recordedAsk) fun part answers =>
      ∃ parts : List (Wire.Log × β),
        part = (parts.map Prod.fst).flatten ∧ answers = parts.map Prod.snd ∧
          List.Forall₂ (fun item x => bears item x.1 x.2) items parts := by
  induction items with
  | nil =>
    refine (Logged.pure []).mono ?_
    rintro part answers ⟨rfl, rfl⟩
    exact ⟨[], rfl, rfl, .nil⟩
  | cons item items ih =>
    rw [List.mapM_cons, List.mapM_cons]
    refine ((h item).bind fun answer => ih.bind fun answers => Logged.pure (answer :: answers)).mono
      ?_
    rintro part answers ⟨first, rest, answer, rfl, hanswer, more, last, others, rfl, hmore, hlast⟩
    obtain ⟨parts, rfl, rfl, hparts⟩ := hmore
    obtain ⟨rfl, rfl⟩ := hlast
    exact ⟨(first, answer) :: parts, by simp, rfl, .cons hanswer hparts⟩

end

/-- A request bears out its answer. -/
theorem logged_get {β : Type} (node : AccessNode) (wire : Wire σ) (endpoint : String)
    (query : List (String × String)) (read : Reader β) :
    Logged (node.get wire endpoint query read) (node.get wire.recorded endpoint query read)
      fun part answer => node.Asked endpoint query read part (.ok answer) :=
  node.get_recorded wire endpoint query read

/-- To find that something does not exist takes no request. -/
theorem logged_existing {β : Type} (what : String) (found : Option β) :
    Logged (existing what found : Asking σ β) (existing what found)
      fun part answer => part = [] ∧ found = some answer := by
  cases found with
  | none => exact (Logged.throw _).mono fun _ _ h => h.elim
  | some answer =>
    refine (Logged.pure answer).mono ?_
    rintro part other ⟨rfl, rfl⟩
    exact ⟨rfl, rfl⟩

/-! ### The listing of a block -/

/-- The part of a log is what is asked for the listing of a block: one request for the block, and
then one for each collection that it guarantees, in order. -/
def Listed (node : AccessNode) (blockId : String) (part : Wire.Log)
    (transactions : List WrittenTransaction) : Prop :=
  ∃ (first : Wire.Log) (blocks : List WrittenBlock) (block : WrittenBlock)
    (collections : List (Wire.Log × List WrittenTransaction)),
    node.Asked ("v1/blocks/" ++ blockId) [("expand", "payload")] (Doc.readList WrittenBlock.read)
        first (.ok blocks) ∧
      blocks.head? = some block ∧
      List.Forall₂
        (fun guarantee collection =>
          node.Asked ("v1/collections/" ++ guarantee.collectionId) [("expand", "transactions")]
            readCollection collection.1 (.ok collection.2))
        block.body.guarantees collections ∧
      part = first ++ (collections.map Prod.fst).flatten ∧
      transactions = (collections.map Prod.snd).flatten

/-- **The listing of a block takes one request for the block and one for each collection.** -/
theorem logged_listed (node : AccessNode) (wire : Wire σ) (blockId : String) :
    Logged (node.listed wire blockId) (node.listed wire.recorded blockId)
      (node.Listed blockId) := by
  have hblock := (node.logged_get wire ("v1/blocks/" ++ blockId) [("expand", "payload")]
    (Doc.readList WrittenBlock.read)).bind fun blocks =>
      logged_existing ("block " ++ blockId) blocks.head?
  have hcollections (block : WrittenBlock) :=
    Logged.mapM (fun guarantee : CollectionGuarantee =>
      node.logged_get wire ("v1/collections/" ++ guarantee.collectionId)
        [("expand", "transactions")] readCollection) block.body.guarantees
  refine (hblock.bind fun block => (hcollections block).bind fun collections =>
    Logged.pure collections.flatten).mono ?_
  rintro part transactions ⟨_, _, block, rfl, ⟨first, _, blocks, rfl, hasked, rfl, hhead⟩,
    _, _, _, rfl, ⟨collections, rfl, rfl, hall⟩, rfl, rfl⟩
  refine ⟨first, blocks, block, collections, hasked, hhead, hall, ?_, rfl⟩
  rw [List.append_nil, List.append_nil]

/-- The listing of a block fails: the request for the block does in the end, or there is no such
block, or the request for a collection does, when all those before it are answered. -/
def Unlisted (node : AccessNode) (wire : Wire σ) (blockId : String) (server : σ)
    (e : GatewayError) : Prop :=
  match node.get wire ("v1/blocks/" ++ blockId) [("expand", "payload")]
    (Doc.readList WrittenBlock.read) server with
  | (.error failure, _) => failure = e
  | (.ok [], _) => .notFound ("block " ++ blockId) = e
  | (.ok (block :: _), later) =>
    ∃ before guarantee behind collections amid,
      block.body.guarantees = before ++ guarantee :: behind ∧
        before.mapM (fun g => node.collection wire g.collectionId) later =
            (.ok collections, amid) ∧
          (node.collection wire guarantee.collectionId amid).1 = .error e

/-- **The error of a listing is that of one of its requests**, or there is no such block. -/
theorem listed_eq_error_iff (node : AccessNode) (wire : Wire σ) (blockId : String) (server : σ)
    (e : GatewayError) :
    (node.listed wire blockId server).1 = .error e ↔ node.Unlisted wire blockId server e := by
  rw [Unlisted]
  rcases hasked : node.get wire ("v1/blocks/" ++ blockId) [("expand", "payload")]
    (Doc.readList WrittenBlock.read) server with ⟨failure | _ | ⟨block, blocks⟩, later⟩
  · have hlisted : node.listed wire blockId server = (.error failure, later) :=
      Asking.bind_of_error (Asking.bind_of_error hasked)
    rw [hlisted]
    exact ⟨Except.error.inj, congrArg Except.error⟩
  · have hlisted : node.listed wire blockId server =
        (.error (.notFound ("block " ++ blockId)), later) :=
      Asking.bind_of_error (Asking.bind_of_ok hasked)
    rw [hlisted]
    exact ⟨Except.error.inj, congrArg Except.error⟩
  · have hfirst : node.firstBlock wire ("v1/blocks/" ++ blockId) [("expand", "payload")]
        ("block " ++ blockId) server = (.ok block, later) := Asking.bind_of_ok hasked
    rw [listed, Asking.bind_of_ok hfirst, Asking.bind_eq_error_iff, Asking.mapM_eq_error_iff]
    exact or_iff_left fun ⟨_, _, _, h⟩ => by cases h

/-! ### The results -/

/-- The part of a log explains where the request for a transaction's result stands. -/
def ExplainsResult (node : AccessNode) (transaction : WrittenTransaction) (part : Wire.Log)
    (standing : Standing WrittenResult) : Prop :=
  node.Explains (resultEndpoint transaction) [] WrittenResult.read part standing

theorem logs_resultAct (node : AccessNode) (wire : Wire σ) :
    Fanout.Logs node.ExplainsResult (node.resultAct wire) (node.resultAct wire.recorded) :=
  fun _ _ _ h act server log => act_recorded wire h act server log

theorem final_resultAct (node : AccessNode) (wire : Wire σ) :
    Fanout.Final (node.resultAct wire) :=
  fun _ act result server => act_ended act result server

/-- When the end of an exchange arrives, a request has less to do. -/
theorem actsLeft_next_lt {α : Type} (limit : Span) (trial : Trial)
    (outcome : Option (Except GatewayError α)) :
    Fanout.actsLeft (trial.next limit outcome) < 2 * trial.retries + 1 := by
  cases outcome with
  | none => exact Nat.succ_pos _
  | some result =>
    rw [Trial.next]
    split
    · exact Nat.succ_pos _
    · rename_i retries hretries
      split
      · simp only [Fanout.actsLeft, hretries]
        omega
      · exact Nat.succ_pos _

theorem progressive_resultAct (node : AccessNode) (wire : Wire σ) :
    Fanout.Progressive (node.resultAct wire) := by
  have hsend (item : WrittenTransaction) (trial : Trial) (server : σ) :
      Fanout.actsLeft (node.resultAct wire item .send (.due trial) server).1 <
        2 * trial.retries + 2 := by
    rw [resultAct]
    by_cases hleft : trial.left = 0
    · rw [act_send_late hleft]
      exact Nat.succ_pos _
    · rw [act_send hleft]
      exact Nat.lt_succ_self _
  refine ⟨fun item act standing server => ?_, hsend, fun item trial exchange server =>
    actsLeft_next_lt _ trial _⟩
  cases standing with
  | ended result => exact .inl (act_ended act result server)
  | due trial =>
    cases act with
    | send => exact .inr (hsend item trial server)
    | arrive => exact .inl rfl
    | expire => exact .inr (Nat.succ_pos _)
  | awaiting trial exchange =>
    cases act with
    | send => exact .inl rfl
    | arrive => exact .inr (actsLeft_next_lt _ trial _)
    | expire => exact .inr (Nat.succ_pos _)

/-- The parts of a log are what is asked for the results of some transactions: one request for
each. -/
def ResultsAsked (node : AccessNode) (entries : List (WrittenTransaction × WrittenResult))
    (parts : List Wire.Log) : Prop :=
  List.Forall₂
    (fun entry part =>
      node.Asked (resultEndpoint entry.1) [] WrittenResult.read part (.ok entry.2))
    entries parts

theorem orderly_resultsAmid (node : AccessNode) (wire : Wire σ) (maxConcurrent : ℕ)
    (moves : List Move) (transactions : List WrittenTransaction) (server : σ) :
    Fanout.Orderly transactions
      (node.resultsAmid wire maxConcurrent moves transactions server) := by
  have hdue : Fanout.Orderly transactions (node.resultsDue transactions server) := by
    refine ⟨?_, fun i hi => absurd hi (Nat.not_lt_zero i)⟩
    rw [resultsDue, List.map_map]
    exact List.map_id transactions
  exact hdue.run (node.final_resultAct wire) moves

/-- **The results take one request each**, in whatever order they arrive. -/
theorem resultsAmid_recorded (node : AccessNode) (wire : Wire σ) (maxConcurrent : ℕ)
    (moves : List Move) (transactions : List WrittenTransaction) (server : σ) (log : Wire.Log) :
    let fanout := node.resultsAmid wire maxConcurrent moves transactions server
    let recorded := node.resultsAmid wire.recorded maxConcurrent moves transactions (server, log)
    recorded.outcome? = fanout.outcome? ∧
      ∃ more, recorded.server = (fanout.server, log ++ more) ∧
        ∀ entries, fanout.outcome? = some (.ok entries) →
          entries.map Prod.fst = transactions ∧
            ∃ parts, node.ResultsAsked entries parts ∧ more.Perm parts.flatten := by
  intro fanout recorded
  have hdue : Fanout.Traced node.ExplainsResult log
      (transactions.map fun t => ⟨t, node.begun (resultEndpoint t) [], []⟩)
      (node.resultsDue transactions server) (node.resultsDue transactions (server, log)) := by
    refine ⟨?_, ⟨[], ?_, ?_⟩, fun leg hleg => ?_⟩
    · rw [List.map_map]
      rfl
    · rw [List.append_nil]
      rfl
    · simp
    · obtain ⟨t, -, rfl⟩ := List.mem_map.mp hleg
      exact node.explains_begun _ _ _
  have hrun : ∃ legs, Fanout.Traced node.ExplainsResult log legs fanout recorded :=
    hdue.run (node.logs_resultAct wire) moves
  obtain ⟨legs, hlegs⟩ := hrun
  obtain ⟨more, hrecorded, hperm⟩ := hlegs.recorded_eq
  rw [hrecorded]
  refine ⟨rfl, more, rfl, fun entries hentries => ?_⟩
  obtain ⟨hflights, hitems⟩ :=
    (node.orderly_resultsAmid wire maxConcurrent moves transactions server).of_outcome_ok hentries
  refine ⟨hitems, legs.map Fanout.Leg.part, ?_, List.flatMap_def ▸ hperm⟩
  have hanswered : entries.map Fanout.answered = legs.map Fanout.Leg.flight :=
    hflights.symm.trans hlegs.flights_eq
  rw [← List.forall₂_eq_eq_eq, List.forall₂_map_left_iff, List.forall₂_map_right_iff] at hanswered
  rw [ResultsAsked, List.forall₂_map_right_iff]
  have hall := (List.forall₂_and_left legs entries).mpr ⟨hlegs.explains, hanswered.flip⟩
  refine hall.flip.imp fun entry leg hleg => ?_
  obtain ⟨hexplains, hflight⟩ := hleg
  obtain ⟨hitem, hstanding⟩ := Prod.mk.inj hflight
  rw [← hitem, ← hstanding] at hexplains
  exact hexplains

end AccessNode

end ChainFeed
