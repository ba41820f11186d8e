import ChainFeed.Proofs.Index.Stamps
import ChainFeed.Proofs.Ingest.Likeness
import ChainFeed.Proofs.Ingest.Turns
import ChainFeed.Proofs.Polling.Session

/-!
# Starting over

A reset forgets all that a follower merged and remembers, and nothing else: the change clocks of the
indexes go on. So a follower that was reset is like one that has seen nothing
(`Follower.alike_reset`), and from then on the two tick alike, whatever they meet on their
**visits** to the chain (`Follower.Alike.ticks`).

What ticks and resets do to the index of a kind is a list of **operations** on it
(`Follower.operations`): one for each write in a journal, and one for each reset
(`Follower.index_after`). The stamps that they take are one behind the other, also across a reset.
So a client that kept its **cursor**, which is the latest stamp of an answer, receives all that the
follower merges when it starts over (`Follower.starts_over`).
-/

namespace ChainFeed

open Ingest

/-! ### The operations of a follower -/

/-- The operation that a write makes on the index of a kind, if it concerns that index. -/
def Write.operation? : Write → (kind : Kind) → Option (Index.Operation kind.Record)
  | account r, .account => some (.merge r)
  | block r, .block => some (.merge r)
  | transaction r, .transaction => some (.merge r)
  | status target reached, .transaction =>
    some (.update target ({ status := some reached } : TransactionPatch))
  | event r, .event => some (.merge r)
  | contract r, .contract => some (.merge r)
  | item r, .storageItem => some (.merge r)
  | noItem target, .storageItem => some (.delete target)
  | _, _ => none

/-- The operations that some writes make on the index of a kind, the first of which has the number
`first`, each with what the wall clock shows then. -/
def Write.operations (kind : Kind) (wall : Nat → Nat) (first : Nat) :
    List Write → List (Nat × Index.Operation kind.Record)
  | [] => []
  | w :: rest =>
    ((w.operation? kind).map (Prod.mk (wall first))).toList ++ operations kind wall (first + 1) rest

namespace Store

/-- A write makes its operation on an index. -/
theorem index_write_operation (store : Store) (now : Nat) (w : Write) (kind : Kind) :
    (store.write now w).index kind =
      (store.index kind).after ((w.operation? kind).map (Prod.mk now)).toList := by
  cases w <;> cases kind <;> rfl

/-- Writes make their operations on an index. -/
theorem index_replay_operations (store : Store) (kind : Kind) (wall : Nat → Nat) (first : Nat)
    (writes : List Write) :
    (store.replay wall first writes).index kind =
      (store.index kind).after (Write.operations kind wall first writes) := by
  induction writes generalizing store first with
  | nil => rfl
  | cons w rest ih =>
    rw [replay, ih, index_write_operation, Write.operations, Index.after_append]

end Store

namespace Follower

variable {σ τ : Type}

/-- The operations that some turns make on the index of a kind. -/
def operations (kind : Kind) (settings : Settings) :
    Follower → List (Turn σ) → List (Nat × Index.Operation kind.Record)
  | _, [] => []
  | follower, .tick scene :: rest =>
    Write.operations kind scene.moment.wall 0
        (scene.progress settings follower).journal.toList ++
      operations kind settings (scene.next settings follower) rest
  | follower, .reset :: rest => (0, .clear) :: operations kind settings follower.reset rest

theorem index_reset (follower : Follower) (kind : Kind) :
    follower.reset.store.index kind = (follower.store.index kind).clear :=
  Store.index_clear kind

/-- **All that turns do to an index are their operations.** -/
theorem index_after (kind : Kind) (settings : Settings) (follower : Follower)
    (turns : List (Turn σ)) :
    (follower.after settings turns).store.index kind =
      (follower.store.index kind).after (follower.operations kind settings turns) := by
  induction turns generalizing follower with
  | nil => rfl
  | cons turn rest ih =>
    rw [after_cons, ih]
    cases turn with
    | tick scene =>
      rw [turn_tick, Scene.store_next, Store.index_replay_operations, operations,
        Index.after_append]
    | reset =>
      rw [turn_reset, index_reset, operations, Index.after_cons]
      rfl

/-! ### Visits -/

/-- A follower visits its chain. -/
structure Visit (σ : Type) where
  /-- What happened to the chain since the visit before. -/
  change : σ → σ
  /-- When the follower ticks. -/
  moment : Moment

/-- The reports of some visits, the follower behind them and the state of its gateway. -/
def ticks (gateway : Gateway σ) (settings : Settings) :
    List (Visit σ) → σ → Follower → List Report × Follower × σ
  | [], chain, follower => ([], follower, chain)
  | visit :: rest, chain, follower =>
    let (report, follower, chain) :=
      follower.tick gateway settings visit.moment (visit.change chain)
    let (reports, follower, chain) := ticks gateway settings rest chain follower
    (report :: reports, follower, chain)

/-- A visit comes first, and what it leaves behind meets the others. -/
theorem ticks_cons (gateway : Gateway σ) (settings : Settings) (visit : Visit σ)
    (rest : List (Visit σ)) (chain : σ) (follower : Follower) :
    ticks gateway settings (visit :: rest) chain follower =
      let first := follower.tick gateway settings visit.moment (visit.change chain)
      let later := ticks gateway settings rest first.2.2 first.2.1
      (first.1 :: later.1, later.2) := by
  rw [ticks]

/-- **Followers that are alike tick alike on every visit.** -/
theorem Alike.ticks {a b : Follower} (h : a.Alike b) (gateway : Gateway σ) (settings : Settings)
    (visits : List (Visit σ)) (chain : σ) :
    (ticks gateway settings visits chain a).1 = (ticks gateway settings visits chain b).1 ∧
      (ticks gateway settings visits chain a).2.1.Alike
        (ticks gateway settings visits chain b).2.1 ∧
      (ticks gateway settings visits chain a).2.2 =
        (ticks gateway settings visits chain b).2.2 := by
  induction visits generalizing a b chain with
  | nil => exact ⟨rfl, h, rfl⟩
  | cons visit rest ih =>
    obtain ⟨hreport, hnext, hchain⟩ :=
      h.tick gateway settings visit.moment (visit.change chain)
    rw [ticks_cons, ticks_cons]
    dsimp only
    rw [hreport, hchain]
    obtain ⟨hreports, hlast, hend⟩ := ih hnext _
    exact ⟨congrArg _ hreports, hlast, hend⟩

end Follower

/-! ### What is behind a cursor -/

namespace Index

open Resource (changedAt)

variable {R : Type} [Resource R] [LawfulResource R]

/-- What did not change since an index gave out its last stamp was stored then. -/
theorem Coherent.get?_after_of_changedAt_le {index : Index R} (h : index.Coherent)
    {operations : List (Nat × Operation R)} {i : String} {r : R}
    (hr : (index.after operations).get? i = some r) (hle : changedAt r ≤ index.clock.last) :
    index.get? i = some r := by
  induction operations using List.reverseRecOn with
  | nil => exact hr
  | append_singleton operations o ih =>
    have hafter := h.after operations
    rw [after_append] at hr
    exact ih (hafter.get?_of_changedAt_le (o.2.run_step o.1 hafter) hr
      (hle.trans (h.last_le_after operations)))

/-- Behind the removal of all resources, a client receives everything that its view shows if its
cursor is one from before. -/
theorem Coherent.data_ask_after_clear {index : Index R} (h : index.Coherent)
    (operations : List (Nat × Operation R)) (view : Polling.View R) {cursor : Nat}
    (hcursor : cursor ≤ index.clock.last) :
    (view.ask cursor (index.clear.after operations)).data =
      (index.clear.after operations).toList.filter view.shows := by
  have hclear : index.clear.Coherent := h.step (Step.clear : Step 0 _ _)
  have hafter := hclear.after operations
  rw [Polling.View.ask_eq]
  refine List.filter_congr fun r hr => ?_
  -- nothing is stored from before
  have hlt : cursor < changedAt r := by
    by_contra hle
    have hbefore := hclear.get?_after_of_changedAt_le (hafter.mem_toList_iff.mp hr)
      ((Nat.not_lt.mp hle).trans hcursor)
    rw [get?_clear] at hbefore
    cases hbefore
  rw [decide_eq_true hlt, Bool.true_and]

end Index

/-! ### Resets -/

namespace Follower

variable {σ : Type}

/-- A follower that was reset is like one that has seen nothing. -/
theorem alike_reset (follower : Follower) : follower.reset.Alike initial :=
  ⟨.clear follower.store Store.empty, rfl⟩

/-- The indexes of a follower are what its operations make of empty ones. -/
theorem index_after_initial (kind : Kind) (settings : Settings) (turns : List (Turn σ)) :
    (initial.after settings turns).store.index kind =
      Index.empty.after (initial.operations kind settings turns) := by
  rw [index_after]
  cases kind <;> rfl

/-- Stamps that are given out behind a reset are greater than all that were given out before. -/
theorem lt_of_mem_issued_reset (kind : Kind) (settings : Settings) (before : List (Turn σ))
    (operations : List (Nat × Index.Operation kind.Record)) {s t : Nat}
    (hs : s ∈ (Index.empty : Index kind.Record).issued (initial.operations kind settings before))
    (ht : t ∈ ((initial.after settings before).reset.store.index kind).issued operations) :
    s < t := by
  have hlast := (Index.Coherent.empty.mem_issued hs).2
  rw [← index_after_initial] at hlast
  rw [index_reset] at ht
  have hclear : ((initial.after settings before).store.index kind).clear.Coherent :=
    (coherent_after settings before kind).step (Index.Step.clear : Index.Step 0 _ _)
  exact hlast.trans_lt (hclear.mem_issued ht).1

/-- The latest stamp of an answer before a reset is behind all that comes after it. -/
theorem latest_ask_le (kind : Kind) (settings : Settings) (before : List (Turn σ))
    (seen : Polling.View kind.Record) (bound : Nat)
    {earlier : List (Nat × Index.Operation kind.Record)}
    (hearlier : earlier <+: initial.operations kind settings before) :
    (seen.ask bound (Index.empty.after earlier)).latest ≤
      ((initial.after settings before).store.index kind).clock.last := by
  have hseen := Index.coherent_after earlier
  have hcursor : (seen.ask bound (Index.empty.after earlier)).latest ≤
      (Index.empty.after earlier).clock.last := by
    rw [Polling.View.latest_ask, latestStamp_le_iff]
    exact fun r hr => hseen.changedAt_le ((Polling.View.mem_data_ask_iff hseen).mp hr).1
  obtain ⟨rest, heq⟩ := hearlier
  rw [index_after_initial, ← heq, Index.after_append]
  exact hcursor.trans (hseen.last_le_after rest)

/-- How a follower starts over when it is reset behind some turns. -/
structure StartsOver (settings : Settings) (before : List (Turn σ)) : Prop where
  /-- It reports what a follower would that has seen nothing. -/
  reports {τ : Type} (gateway : Gateway τ) (visits : List (Visit τ)) (chain : τ) :
    (ticks gateway settings visits chain (initial.after settings before).reset).1 =
      (ticks gateway settings visits chain initial).1
  /-- It remembers what that one would. -/
  state {τ : Type} (gateway : Gateway τ) (visits : List (Visit τ)) (chain : τ) :
    (ticks gateway settings visits chain (initial.after settings before).reset).2.1.state =
      (ticks gateway settings visits chain initial).2.1.state
  /-- It stores what that one would, in the same order, stamps aside. -/
  content {τ : Type} (gateway : Gateway τ) (visits : List (Visit τ)) (chain : τ) (kind : Kind) :
    ((ticks gateway settings visits chain
      (initial.after settings before).reset).2.1.store.index kind).SameContent
        ((ticks gateway settings visits chain initial).2.1.store.index kind)
  /-- It leaves the gateway in the same state. -/
  chain {τ : Type} (gateway : Gateway τ) (visits : List (Visit τ)) (chain : τ) :
    (ticks gateway settings visits chain (initial.after settings before).reset).2.2 =
      (ticks gateway settings visits chain initial).2.2
  /-- Whatever turns come behind the reset, each stamp that an index gives out then is greater than
  all that it gave out before. -/
  stamps {τ : Type} (kind : Kind) (later : List (Turn τ)) :
    ∀ s ∈ (Index.empty : Index kind.Record).issued (initial.operations kind settings before),
      ∀ t ∈ ((initial.after settings before).reset.store.index kind).issued
        ((initial.after settings before).reset.operations kind settings later), s < t
  /-- A client that asked the index at any moment before the reset, and keeps the latest stamp of
  the answer, receives everything that its view shows at any moment behind it. -/
  received {τ : Type} (kind : Kind) (view seen : Polling.View kind.Record) (bound : Nat)
    (later : List (Turn τ)) :
    ∀ earlier, earlier <+: initial.operations kind settings before →
      ∀ behind, behind <+: (initial.after settings before).reset.operations kind settings later →
        (view.ask (seen.ask bound (Index.empty.after earlier)).latest
          (((initial.after settings before).reset.store.index kind).after behind)).data =
            (((initial.after settings before).reset.store.index kind).after
              behind).toList.filter view.shows

/-- **A reset starts over.** -/
theorem starts_over (settings : Settings) (before : List (Turn σ)) :
    StartsOver settings before := by
  have halike := (initial.after settings before).alike_reset
  exact {
    reports := fun gateway visits chain => (halike.ticks gateway settings visits chain).1
    state := fun gateway visits chain => (halike.ticks gateway settings visits chain).2.1.state
    content := fun gateway visits chain => (halike.ticks gateway settings visits chain).2.1.store
    chain := fun gateway visits chain => (halike.ticks gateway settings visits chain).2.2
    stamps := fun kind later s hs t ht => lt_of_mem_issued_reset kind settings before _ hs ht
    received := fun kind view seen bound later earlier hearlier behind _ => by
      rw [index_reset]
      exact (coherent_after settings before kind).data_ask_after_clear behind view
        (latest_ask_le kind settings before seen bound hearlier) }

end Follower

end ChainFeed
