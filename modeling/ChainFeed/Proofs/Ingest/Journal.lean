import ChainFeed.Ingest.Follower
import ChainFeed.Proofs.Resource.Laws

/-!
# The journal of a tick

A tick changes its store by writes alone: the store is what a **replay** of the journal makes of
the store that the tick found (`Store.replay`). Each write concerns one kind of resource
(`Write.kind`), so an index that no write of its kind reaches stays as it is
(`Store.index_replay`).

`Progress.Follows` says that much of two moments of a tick: the later one comes after the earlier
one by writes of given kinds, and no height was merged in between. Every stage but the first
follows its start in this sense (`indexAccounts_follows`, `refreshStatuses_follows`,
`resyncStorage_follows`), and so does what the first stage does for the records of a block
(`mergeTransactions_follows`, `mergeEvents_follows`).
-/

namespace ChainFeed

/-! ### Replaying writes -/

/-- The kind of resources that a write concerns. -/
def Write.kind : Write → Kind
  | account _ => .account
  | block _ => .block
  | transaction _ | status .. => .transaction
  | event _ => .event
  | contract _ => .contract
  | item _ | noItem _ => .storageItem

/-- The index that holds the resources of a kind. -/
def Store.index (store : Store) : (kind : Kind) → Index kind.Record
  | .account => store.accounts
  | .block => store.blocks
  | .transaction => store.transactions
  | .event => store.events
  | .contract => store.contracts
  | .storageItem => store.storage

@[simp]
theorem Store.index_transaction (store : Store) :
    store.index .transaction = store.transactions := rfl

/-- The store after some writes, the first of which has the number `first`; the wall clock shows
`wall n` at the write with the number `n`. -/
def Store.replay (wall : Nat → Nat) (first : Nat) (store : Store) : List Write → Store
  | [] => store
  | write :: writes => replay wall (first + 1) (store.write (wall first) write) writes

namespace Store

variable {wall : Nat → Nat} {first : Nat} {store : Store}

theorem replay_append (writes more : List Write) :
    store.replay wall first (writes ++ more) =
      (store.replay wall first writes).replay wall (first + writes.length) more := by
  induction writes generalizing first store with
  | nil => rfl
  | cons write writes ih =>
    rw [List.cons_append, replay, ih, replay, List.length_cons, Nat.add_assoc, Nat.add_comm 1]

/-- A write reaches the index of its kind alone. -/
theorem index_write {now : Nat} {write : Write} {kind : Kind} (h : write.kind ≠ kind) :
    (store.write now write).index kind = store.index kind := by
  cases write <;> cases kind <;> first | rfl | exact absurd rfl h

/-- Writes of other kinds leave an index as it is. -/
theorem index_replay {writes : List Write} {kind : Kind} (h : ∀ w ∈ writes, w.kind ≠ kind) :
    (store.replay wall first writes).index kind = store.index kind := by
  induction writes generalizing first store with
  | nil => rfl
  | cons write writes ih =>
    rw [List.forall_mem_cons] at h
    rw [replay, ih h.2, index_write h.1]

theorem replay_items (items : List StorageItem) :
    store.replay wall first (items.map .item) =
      { store with
        storage := (Index.mergeAll (fun n => wall (first + n)) store.storage items).2 } := by
  induction items generalizing first store with
  | nil => rfl
  | cons item items ih =>
    rw [List.map_cons, replay, ih]
    simp only [Index.mergeAll, write, Nat.add_zero, Nat.add_assoc, Nat.add_comm 1]

theorem replay_noItems (ids : List String) :
    store.replay wall first (ids.map .noItem) =
      { store with storage := (Index.deleteAll store.storage ids).2 } := by
  induction ids generalizing first store with
  | nil => rfl
  | cons id ids ih =>
    rw [List.map_cons, replay, ih]
    simp only [Index.deleteAll, write]

end Store

namespace Ingest

/-! ### What queueing keeps -/

namespace State

/-- What a follower remembers about heights: the watermark and the first height. -/
def heights (state : State) : Option Nat × Option Nat := (state.watermark, state.firstHeight)

theorem watermark_eq_of_heights_eq {a b : State} (h : a.heights = b.heights) :
    a.watermark = b.watermark :=
  congrArg Prod.fst h

theorem firstHeight_eq_of_heights_eq {a b : State} (h : a.heights = b.heights) :
    a.firstHeight = b.firstHeight :=
  congrArg Prod.snd h

@[simp]
theorem heights_queue (address blockId : String) (state : State) :
    (state.queue address blockId).heights = state.heights := by
  unfold queue
  split <;> rfl

@[simp]
theorem heights_queueAll (addresses : List String) (blockId : String) (state : State) :
    (state.queueAll addresses blockId).heights = state.heights := by
  unfold queueAll
  induction addresses generalizing state with
  | nil => rfl
  | cons address addresses ih => rw [List.foldl_cons, ih, heights_queue]

@[simp]
theorem heights_queueUnseen (address : String) (state : State) :
    (state.queueUnseen address).heights = state.heights := by
  unfold queueUnseen
  split <;> rfl

@[simp]
theorem heights_queueTracked (settings : Settings) (store : Store) (state : State) :
    (state.queueTracked settings store).heights = state.heights := by
  unfold queueTracked
  generalize settings.trackedAddresses.filter _ = addresses
  induction addresses generalizing state with
  | nil => rfl
  | cons address addresses ih => rw [List.foldl_cons, ih, heights_queueUnseen]

end State

/-! ### Moments of a tick -/

namespace Progress

/-- The later progress comes after the earlier one by the writes. -/
structure Wrote (moment : Moment) (writes : List Write) (earlier later : Progress) : Prop where
  /-- The journal holds the writes. -/
  journal : later.journal.toList = earlier.journal.toList ++ writes
  /-- The store is what they make of it. -/
  store : later.store = earlier.store.replay moment.wall earlier.journal.size writes

/-- The later progress comes after the earlier one by writes of some kinds, and no height was
merged in between. -/
structure Follows (moment : Moment) (kinds : List Kind) (earlier later : Progress) : Prop where
  /-- The writes are of these kinds. -/
  wrote : ∃ writes, Wrote moment writes earlier later ∧ ∀ w ∈ writes, w.kind ∈ kinds
  /-- The watermark and the first height stay. -/
  heights : later.state.heights = earlier.state.heights

variable {moment : Moment} {kinds more : List Kind} {p q r : Progress}

theorem Wrote.nil (hstore : q.store = p.store) (hjournal : q.journal = p.journal) :
    Wrote moment [] p q :=
  ⟨by rw [hjournal, List.append_nil], hstore⟩

theorem Wrote.write (w : Write) : Wrote moment [w] p (p.write moment w) :=
  ⟨Array.toList_push, rfl⟩

/-- From the start on, the journal holds the writes and nothing else. -/
theorem Wrote.journal_of_start {writes : List Write} {store : Store} {state : State}
    (h : Wrote moment writes (start store state) q) : q.journal.toList = writes :=
  h.journal

theorem Wrote.trans {writes later : List Write} (hpq : Wrote moment writes p q)
    (hqr : Wrote moment later q r) : Wrote moment (writes ++ later) p r := by
  have hsize : q.journal.size = p.journal.size + writes.length := by
    rw [← Array.length_toList, hpq.journal, List.length_append, Array.length_toList]
  refine ⟨by rw [hqr.journal, hpq.journal, List.append_assoc], ?_⟩
  rw [hqr.store, hpq.store, hsize, Store.replay_append]

namespace Follows

/-- Nothing is written. -/
theorem of_eq (hstore : q.store = p.store) (hjournal : q.journal = p.journal)
    (hheights : q.state.heights = p.state.heights) : Follows moment kinds p q :=
  ⟨⟨[], .nil hstore hjournal, fun _ h => absurd h List.not_mem_nil⟩, hheights⟩

theorem refl (p : Progress) : Follows moment kinds p p := of_eq rfl rfl rfl

theorem skip (flaw : Flaw) (p : Progress) : Follows moment kinds p (p.skip flaw) :=
  of_eq rfl rfl rfl

theorem fail (stage : Stage) (target : String) (cause : Cause) (p : Progress) :
    Follows moment kinds p (p.fail stage target cause) :=
  of_eq rfl rfl rfl

theorem remember {change : State → State} (h : (change p.state).heights = p.state.heights) :
    Follows moment kinds p (p.remember change) :=
  of_eq rfl rfl h

theorem trans (hpq : Follows moment kinds p q) (hqr : Follows moment kinds q r) :
    Follows moment kinds p r := by
  obtain ⟨writes, hw, hkinds⟩ := hpq.wrote
  obtain ⟨later, hl, hlater⟩ := hqr.wrote
  refine ⟨⟨_, hw.trans hl, ?_⟩, hqr.heights.trans hpq.heights⟩
  intro w hmem
  exact (List.mem_append.mp hmem).elim (hkinds w) (hlater w)

theorem mono (h : Follows moment kinds p q) (hsub : kinds ⊆ more) : Follows moment more p q := by
  obtain ⟨writes, hw, hkinds⟩ := h.wrote
  exact ⟨⟨writes, hw, fun w hmem => hsub (hkinds w hmem)⟩, h.heights⟩

theorem write (w : Write) (h : w.kind ∈ kinds) : Follows moment kinds p (p.write moment w) :=
  ⟨⟨[w], .write w, fun _ hv => List.mem_singleton.mp hv ▸ h⟩, rfl⟩

theorem foldl {α : Type} {step : Progress → α → Progress} (items : List α)
    (h : ∀ p, ∀ item ∈ items, Follows moment kinds p (step p item)) (p : Progress) :
    Follows moment kinds p (items.foldl step p) := by
  induction items generalizing p with
  | nil => exact refl p
  | cons item items ih =>
    have htail := ih fun p other hmem => h p other (List.mem_cons_of_mem _ hmem)
    exact (h p item List.mem_cons_self).trans (htail _)

/-- An index that no write is made to stays as it is. -/
theorem index_eq (h : Follows moment kinds p q) {kind : Kind} (hkind : kind ∉ kinds) :
    q.store.index kind = p.store.index kind := by
  obtain ⟨writes, hw, hkinds⟩ := h.wrote
  rw [hw.store]
  exact Store.index_replay fun w hmem heq => hkind (heq ▸ hkinds w hmem)

end Follows

/-! ### Records of a block -/

theorem mergeTransaction_follows (block : Block) (transaction : Transaction) (p : Progress) :
    Follows moment [.transaction] p (p.mergeTransaction moment block transaction) :=
  (Follows.remember (State.heights_queueAll _ _ _)).trans (.write _ List.mem_cons_self)

theorem mergeTransactions_follows (block : Block) (merged : List String)
    (transactions : List Transaction) (p : Progress) :
    Follows moment [.transaction] p
      (p.mergeTransactions moment block merged transactions).2 := by
  induction transactions generalizing merged p with
  | nil => exact .refl p
  | cons transaction rest ih =>
    rw [mergeTransactions]
    split
    · exact (Follows.skip _ p).trans (ih _ _)
    · exact (mergeTransaction_follows block transaction p).trans (ih _ _)

theorem mergeEvent_follows (block : Block) (event : Event) (p : Progress) :
    Follows moment [.event] p (p.mergeEvent moment block event) :=
  (Follows.remember (State.heights_queueAll _ _ _)).trans (.write _ List.mem_cons_self)

theorem mergeEvents_follows (block : Block) (merged : List String) (events : List Event)
    (p : Progress) :
    Follows moment [.event] p (p.mergeEvents moment block merged events) := by
  induction events generalizing p with
  | nil => exact .refl p
  | cons event rest ih =>
    rw [mergeEvents]
    split
    · exact (Follows.skip _ p).trans (ih _)
    · exact (mergeEvent_follows block event p).trans (ih _)

/-! ### Accounts -/

theorem mergeAccount_follows (settings : Settings) (pending : Pending) (fetched : FetchedAccount)
    (p : Progress) :
    Follows moment [.account, .contract] p
      (p.mergeAccount settings moment pending fetched) := by
  refine (Follows.write (.account _) List.mem_cons_self).trans (Follows.foldl _ ?_ _)
  intro p contract _
  exact .write _ (List.mem_cons_of_mem _ List.mem_cons_self)

theorem takeLookup_follows (settings : Settings) (address : String) (pending : Pending)
    (lookup : Except GatewayError FetchedAccount) (p : Progress) :
    Follows moment [.account, .contract] p
      (p.takeLookup settings moment address pending lookup) := by
  cases lookup with
  | ok fetched => exact (mergeAccount_follows settings pending fetched p).trans (.of_eq rfl rfl rfl)
  | error e =>
    dsimp only [takeLookup]
    split
    · split
      · exact .remember rfl
      · exact .refl p
    · exact (Follows.fail _ _ _ p).trans (.remember rfl)

/-! ### Statuses -/

theorem advance_follows (id : String) (status : TransactionStatus) (p : Progress) :
    Follows moment [.transaction] p (p.advance moment id status) := by
  have hwrite : Follows moment [.transaction] p (p.write moment (.status id status)) :=
    .write _ List.mem_cons_self
  unfold advance
  dsimp only
  split
  · exact hwrite.trans (.of_eq rfl rfl rfl)
  · exact hwrite.trans (.fail _ _ _ _)

theorem takeStatus_follows (stored : Transaction)
    (answer : Except GatewayError TransactionStatus) (p : Progress) :
    Follows moment [.transaction] p (p.takeStatus moment stored answer) := by
  cases answer with
  | ok status =>
    dsimp only [takeStatus]
    split
    · exact advance_follows _ _ p
    · exact .refl p
  | error e =>
    dsimp only [takeStatus]
    split
    · exact .refl p
    · exact .fail _ _ _ p

/-! ### Storage -/

/-- Reconciling is the writes that it adds to the journal. -/
theorem reconcile_wrote (address : String) (listing : List StorageItem) (p : Progress) :
    Wrote moment (p.reconcileWrites moment (Address.canonical address) listing) p
      (p.reconcile moment address listing).2 where
  journal := Array.toList_appendList
  store := by
    rw [reconcileWrites, Store.replay_append, Store.replay_items, Store.replay_noItems]
    rfl

theorem reconcile_follows (address : String) (listing : List StorageItem) (p : Progress) :
    Follows moment [.storageItem] p (p.reconcile moment address listing).2 := by
  refine ⟨⟨_, reconcile_wrote address listing p, ?_⟩, rfl⟩
  intro w hmem
  rcases List.mem_append.mp hmem with h | h
  · obtain ⟨item, -, rfl⟩ := List.mem_map.mp h
    exact List.mem_cons_self
  · obtain ⟨id, -, rfl⟩ := List.mem_map.mp h
    exact List.mem_cons_self

theorem takeListing_follows (address : String) (total : SliceChange)
    (listing : Except GatewayError (List StorageItem)) (p : Progress) :
    Follows moment [.storageItem] p (p.takeListing moment address total listing).2 := by
  cases listing with
  | ok listing => exact reconcile_follows address listing p
  | error e =>
    dsimp only [takeListing]
    exact (Follows.fail _ _ _ p).trans (.remember rfl)

theorem takeListings_follows
    (listings : List (String × Except GatewayError (List StorageItem))) (total : SliceChange)
    (p : Progress) :
    Follows moment [.storageItem] p (p.takeListings moment listings total).2 := by
  induction listings generalizing total p with
  | nil => exact .refl p
  | cons listing rest ih => exact (takeListing_follows _ _ _ p).trans (ih _ _)

end Progress

/-! ### Stages -/

variable {σ : Type} (moment : Moment)

open Progress

theorem indexAccounts_follows (gateway : Gateway σ) (settings : Settings) (chain : σ)
    (p : Progress) :
    Follows moment [.account, .contract] p
      (indexAccounts gateway settings moment chain p).1 := by
  have hqueue : Follows moment [.account, .contract] p
      { p with state := { p.state.queueTracked settings p.store with pending := ∅ } } :=
    .of_eq rfl rfl (State.heights_queueTracked _ _ _)
  exact hqueue.trans (.foldl _ (fun p _ _ => takeLookup_follows settings _ _ _ p) _)

theorem refreshStatuses_follows (gateway : Gateway σ) (chain : σ) (p : Progress) :
    Follows moment [.transaction] p (refreshStatuses gateway moment chain p).1 :=
  .foldl _ (fun p _ _ => takeStatus_follows _ _ p) p

theorem listStorage_follows (gateway : Gateway σ) (addresses : List String) (chain : σ)
    (p : Progress) :
    Follows moment [.storageItem] p (listStorage gateway moment addresses chain p).1 :=
  (takeListings_follows _ _ p).trans (.of_eq rfl rfl rfl)

theorem resyncStorage_follows (gateway : Gateway σ) (settings : Settings) (chain : σ)
    (p : Progress) :
    Follows moment [.storageItem] p (resyncStorage gateway settings moment chain p).1 := by
  unfold resyncStorage
  dsimp only
  split
  · exact (Follows.remember rfl).trans (listStorage_follows moment gateway _ chain _)
  · split
    · exact .refl p
    · exact (Follows.remember rfl).trans (listStorage_follows moment gateway _ chain _)

end Ingest

end ChainFeed
