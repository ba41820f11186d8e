import ChainFeed.Proofs.Gateway.Scripted
import ChainFeed.Proofs.Index.Content

/-!
# Statuses of stored transactions

The stored transactions **track** the statuses of a chain if each of them has the status that the
chain holds for it (`Index.Tracks`). What a chain in memory answers about its blocks has these
statuses, so merging it keeps track of them (`mergeEach_tracks`). As long as that is so, asking for
the status of stored transactions changes nothing (`store_refreshStatuses`).
-/

namespace ChainFeed

open Resource

/-- The stored transactions have the given statuses, wherever there is one. -/
def Index.Tracks (statuses : Std.TreeMap String TransactionStatus) (index : Index Transaction) :
    Prop :=
  ∀ i t, index.get? i = some t →
    t.id = i ∧ ∀ status, statuses[i]? = some status → t.status = status

/-- The transaction has the given status, if there is one for it. -/
def Transaction.Tracks (statuses : Std.TreeMap String TransactionStatus) (t : Transaction) : Prop :=
  ∀ status, statuses[t.id]? = some status → t.status = status

variable {statuses : Std.TreeMap String TransactionStatus}

namespace Index.Tracks

variable {index : Index Transaction}

theorem clear (index : Index Transaction) : index.clear.Tracks statuses := by
  intro i t ht
  rw [get?_clear] at ht
  cases ht

/-- Merging a transaction with the right status keeps track of the statuses. -/
theorem merge (h : index.Tracks statuses) {t : Transaction} (ht : t.Tracks statuses) (now : Nat) :
    (index.merge now t).2.Tracks statuses := by
  intro i r hr
  rcases get?_merge_cases hr with hr | ⟨stamps, rfl, rfl⟩ | ⟨stored, stamps, hstored, hi, rfl⟩
  · exact h i r hr
  · exact ⟨rfl, ht⟩
  · -- the stored transaction keeps its id and takes the new status
    obtain rfl : t.id = i := (h _ _ hstored).1.symm.trans hi
    exact ⟨hi, ht⟩

end Index.Tracks

namespace Ingest

namespace Progress

variable {moment : Moment} {p : Progress}

/-- The status that a transaction is merged with is the right one if the stored one is. -/
theorem settled_tracks (h : p.store.transactions.Tracks statuses) {t : Transaction}
    (ht : t.Tracks statuses) : (p.settled t).Tracks statuses := by
  unfold settled
  split
  · rename_i stored hstored
    -- a status that does not advance gives way to the stored one
    split
    · exact ht
    · exact (h _ _ hstored).2
  · exact ht

theorem mergeTransactions_tracks (h : p.store.transactions.Tracks statuses) (block : Block)
    (merged : List String) {transactions : List Transaction}
    (hall : ∀ t ∈ transactions, t.Tracks statuses) :
    (p.mergeTransactions moment block merged transactions).2.store.transactions.Tracks
      statuses := by
  induction transactions generalizing merged p with
  | nil => exact h
  | cons t rest ih =>
    rw [List.forall_mem_cons] at hall
    rw [mergeTransactions]
    split
    · exact ih (p := p.skip _) h _ hall.2
    · exact ih (h.merge (settled_tracks h hall.1) _) _ hall.2

theorem mergeBlock_tracks (h : p.store.transactions.Tracks statuses) {fetched : FetchedBlock}
    (hall : ∀ t ∈ fetched.contents.transactions, t.Tracks statuses) :
    (p.mergeBlock moment fetched).store.transactions.Tracks statuses := by
  have htransactions : (p.mergeTransactions moment fetched.block []
      fetched.contents.transactions).2.store.transactions.Tracks statuses :=
    mergeTransactions_tracks h fetched.block [] hall
  have hevents : Follows moment [.event]
      (p.mergeTransactions moment fetched.block [] fetched.contents.transactions).2
      (p.mergeContents moment fetched) :=
    mergeEvents_follows _ _ _ _
  have heq : (p.mergeContents moment fetched).store.transactions = _ :=
    hevents.index_eq (by decide : Kind.transaction ∉ [Kind.event])
  rw [mergeBlock_eq]
  exact heq ▸ htransactions

/-- Merging blocks whose transactions have the right statuses keeps track of them. -/
theorem mergeEach_tracks (h : p.store.transactions.Tracks statuses)
    {blocks : List (Nat × FetchedBlock)}
    (hall : ∀ m ∈ blocks, ∀ t ∈ m.2.contents.transactions, t.Tracks statuses) :
    (p.mergeEach moment blocks).store.transactions.Tracks statuses := by
  induction blocks generalizing p with
  | nil => exact h
  | cons m blocks ih =>
    rw [List.forall_mem_cons] at hall
    exact ih (mergeBlock_tracks h hall.1) hall.2

end Progress

/-! ### Asking for statuses -/

open Progress

/-- A chain in memory answers every question for a status at once. -/
theorem askEach_status (transactions : List Transaction) (chain : ScriptedChain) :
    askEach (fun t => ScriptedChain.gateway.ask (.status t.id)) transactions chain =
      (transactions.map fun t =>
        (t, ScriptedChain.found ("transaction " ++ t.id) chain.statuses[t.id]?), chain) := by
  induction transactions with
  | nil => rfl
  | cons t rest ih =>
    have hask : ScriptedChain.gateway.ask (.status t.id) chain =
      (ScriptedChain.found ("transaction " ++ t.id) chain.statuses[t.id]?, chain) := rfl
    rw [askEach_cons, hask, ih, List.map_cons]

/-- No status advances over itself. -/
theorem advancesOver_self (status : TransactionStatus) : status.advancesOver status = false := by
  simp [TransactionStatus.advancesOver]

/-- The status that a transaction has already is passed over. -/
theorem store_takeStatus (moment : Moment) {t : Transaction} (ht : t.Tracks statuses)
    (what : String) (p : Progress) :
    (p.takeStatus moment t (ScriptedChain.found what statuses[t.id]?)).store = p.store := by
  cases hstatus : statuses[t.id]? with
  | none => rfl
  | some status =>
    rw [ScriptedChain.found, takeStatus, ht status hstatus, advancesOver_self]
    rfl

theorem store_takeStatuses (moment : Moment) {transactions : List Transaction}
    (hall : ∀ t ∈ transactions, t.Tracks statuses) (p : Progress) :
    (p.takeStatuses moment (transactions.map fun t =>
      (t, ScriptedChain.found ("transaction " ++ t.id) statuses[t.id]?))).store = p.store := by
  induction transactions generalizing p with
  | nil => rfl
  | cons t rest ih =>
    rw [List.forall_mem_cons] at hall
    exact (ih hall.2 _).trans (store_takeStatus moment hall.1 _ p)

/-- **Asking for statuses that are tracked changes nothing.** -/
theorem store_refreshStatuses (moment : Moment) {chain : ScriptedChain} {p : Progress}
    (h : p.store.transactions.Tracks chain.statuses) :
    (refreshStatuses ScriptedChain.gateway moment chain p).1.store = p.store := by
  unfold refreshStatuses
  rw [askEach_status]
  refine store_takeStatuses moment (fun t ht => ?_) p
  obtain ⟨i, -, hi⟩ := List.mem_filterMap.mp (List.mem_of_mem_filter ht)
  obtain ⟨rfl, hstatus⟩ := h i t hi
  exact hstatus

end Ingest

end ChainFeed
