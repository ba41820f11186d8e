import ChainFeed.Proofs.Gateway.Inquiry
import ChainFeed.Proofs.Index.Agreement
import ChainFeed.Proofs.Ingest.Ledger

/-!
# Followers that are alike

Two stores are **alike** (`Store.Alike`) if all their indexes have the same content. Two followers
are alike if their stores are and they remember the same.

Nothing that a tick asks, merges, remembers or reports depends on stamps. So whatever a stage does,
it does to both of two moments of ticks that are alike (`Progress.Alike`), and the gateway is asked
the same in both. **Followers that are alike tick alike** (`Follower.Alike.tick`): they report the
same, leave the gateway in the same state, and are alike again.
-/

namespace ChainFeed

open Resource

/-! ### Stores -/

/-- All indexes of the stores have the same content. -/
def Store.Alike (a b : Store) : Prop :=
  ∀ kind, (a.index kind).SameContent (b.index kind)

namespace Store.Alike

variable {a b : Store}

/-- Two stores that hold nothing are alike. -/
theorem clear (a b : Store) : a.clear.Alike b.clear := by
  intro kind
  cases kind <;> exact .clear _ _

theorem ledger (h : a.Alike b) : a.SameLedger b :=
  ⟨h .block, h .transaction, h .event⟩

/-- The same write keeps stores alike. -/
theorem write (h : a.Alike b) (now later : Nat) (w : Write) :
    (a.write now w).Alike (b.write later w) := by
  intro kind
  by_cases hkind : w.kind = kind
  · subst hkind
    cases w with
    | account account => exact (h .account).merge now later account
    | block block => exact (h .block).merge now later block
    | transaction transaction => exact (h .transaction).merge now later transaction
    | status id status => exact (h .transaction).update now later id _
    | event event => exact (h .event).merge now later event
    | contract contract => exact (h .contract).merge now later contract
    | item item => exact (h .storageItem).merge now later item
    | noItem id => exact (h .storageItem).delete id
  · rw [index_write hkind, index_write hkind]
    exact h kind

end Store.Alike

namespace Ingest

/-! ### Moments of ticks -/

namespace Progress

/-- An account counts as last seen in the same block if the same is stored under its id. -/
theorem lastSeenIn_eq {p q : Progress} {account : Account}
    (h : (p.store.accounts.get? account.id).map unstamped =
      (q.store.accounts.get? account.id).map unstamped) (pending : Pending) :
    p.lastSeenIn pending account = q.lastSeenIn pending account := by
  have hblock (stored : Option Account) :
      stored.map (·.blockId) = (stored.map unstamped).map (·.blockId) := by
    rw [Option.map_map]
    rfl
  rw [lastSeenIn, lastSeenIn, hblock, hblock (q.store.accounts.get? account.id), h]

/-- The stores are alike, and what is remembered and reported is the same. -/
structure Alike (p q : Progress) : Prop where
  /-- The stores are alike. -/
  store : p.store.Alike q.store
  /-- What the followers remember is the same. -/
  state : p.state = q.state
  /-- The reports are the same. -/
  report : p.report = q.report

namespace Alike

variable {p q : Progress} (moment : Moment)

theorem write (h : p.Alike q) (w : Write) : (p.write moment w).Alike (q.write moment w) :=
  ⟨h.store.write _ _ w, h.state, h.report⟩

theorem remember (h : p.Alike q) (change : State → State) :
    (p.remember change).Alike (q.remember change) :=
  ⟨h.store, congrArg change h.state, h.report⟩

/-- The same change of the reports keeps them the same. -/
theorem withReport (h : p.Alike q) (change : Report → Report) :
    Alike { p with report := change p.report } { q with report := change q.report } :=
  ⟨h.store, h.state, congrArg change h.report⟩

theorem fail (h : p.Alike q) (stage : Stage) (target : String) (cause : Cause) :
    (p.fail stage target cause).Alike (q.fail stage target cause) :=
  h.withReport (·.fail stage target cause)

theorem skip (h : p.Alike q) (flaw : Flaw) : (p.skip flaw).Alike (q.skip flaw) :=
  h.withReport (·.skip)

theorem foldl {α : Type} {step : Progress → α → Progress} (items : List α)
    (hstep : ∀ p q, p.Alike q → ∀ item ∈ items, (step p item).Alike (step q item))
    (h : p.Alike q) : (items.foldl step p).Alike (items.foldl step q) := by
  induction items generalizing p q with
  | nil => exact h
  | cons item rest ih =>
    refine ih (fun p q h other hmem => hstep p q h other (List.mem_cons_of_mem _ hmem)) ?_
    exact hstep p q h item List.mem_cons_self

/-! ### Blocks -/

theorem mergeTransaction (h : p.Alike q) (block : Block) (transaction : Transaction) :
    (p.mergeTransaction moment block transaction).Alike
      (q.mergeTransaction moment block transaction) := by
  unfold Progress.mergeTransaction
  rw [settled_eq h.store.ledger]
  exact (h.remember _).write moment _

theorem mergeTransactions (h : p.Alike q) (block : Block) (merged : List String)
    (transactions : List Transaction) :
    (p.mergeTransactions moment block merged transactions).1 =
        (q.mergeTransactions moment block merged transactions).1 ∧
      (p.mergeTransactions moment block merged transactions).2.Alike
        (q.mergeTransactions moment block merged transactions).2 := by
  induction transactions generalizing merged p q with
  | nil => exact ⟨rfl, h⟩
  | cons transaction rest ih =>
    rw [Progress.mergeTransactions, Progress.mergeTransactions,
      transactionFlaw?_eq h.store.ledger]
    cases q.transactionFlaw? block transaction with
    | some flaw => exact ih (h.skip flaw) merged
    | none => exact ih (h.mergeTransaction moment block transaction) _

theorem mergeEvents (h : p.Alike q) (block : Block) (merged : List String) (events : List Event) :
    (p.mergeEvents moment block merged events).Alike
      (q.mergeEvents moment block merged events) := by
  induction events generalizing p q with
  | nil => exact h
  | cons event rest ih =>
    rw [Progress.mergeEvents, Progress.mergeEvents, eventFlaw?_eq h.store.ledger]
    cases q.eventFlaw? merged event with
    | some flaw => exact ih (h.skip flaw)
    | none => exact ih ((h.remember _).write moment _)

theorem mergeBlock (h : p.Alike q) (fetched : FetchedBlock) :
    (p.mergeBlock moment fetched).Alike (q.mergeBlock moment fetched) := by
  obtain ⟨hids, htransactions⟩ := h.mergeTransactions moment fetched.block []
    fetched.contents.transactions
  unfold Progress.mergeBlock
  dsimp only
  rw [hids]
  exact (htransactions.mergeEvents moment _ _ _).write moment _

theorem mergeHeights (h : p.Alike q)
    (fetched : List (Nat × Except GatewayError FetchedBlock)) :
    (p.mergeHeights moment fetched).Alike (q.mergeHeights moment fetched) := by
  induction fetched generalizing p q with
  | nil => exact h
  | cons first rest ih =>
    obtain ⟨height, e | block⟩ := first
    · rw [Progress.mergeHeights, Progress.mergeHeights]
      split
      · exact h
      · exact h.fail _ _ _
    · refine ih ?_
      have hblock := h.mergeBlock moment block
      exact (hblock.remember fun state => { state with watermark := some height }).withReport
        fun report => { report with blocksIngested := report.blocksIngested + 1 }

/-! ### Accounts -/

theorem takeLookup (h : p.Alike q) (settings : Settings) (address : String) (pending : Pending)
    (lookup : Except GatewayError FetchedAccount) :
    (p.takeLookup settings moment address pending lookup).Alike
      (q.takeLookup settings moment address pending lookup) := by
  cases lookup with
  | ok fetched =>
    have hmerged : (p.mergeAccount settings moment pending fetched).Alike
        (q.mergeAccount settings moment pending fetched) := by
      unfold mergeAccount
      rw [lastSeenIn_eq ((h.store .account).content_eq fetched.account.id)]
      exact .foldl _ (fun _ _ h contract _ => h.write moment (.contract contract))
        (h.write moment _)
    exact hmerged.withReport fun report =>
      { report with accountsIndexed := report.accountsIndexed + 1 }
  | error e =>
    dsimp only [Progress.takeLookup]
    split
    · split
      · exact h.remember _
      · exact h
    · exact (h.fail _ _ _).remember _

/-! ### Statuses -/

theorem takeStatus (h : p.Alike q) (stored : Transaction)
    (answer : Except GatewayError TransactionStatus) :
    (p.takeStatus moment stored answer).Alike (q.takeStatus moment stored answer) := by
  cases answer with
  | ok status =>
    dsimp only [Progress.takeStatus]
    split
    · unfold advance Index.find
      have hwritten := h.write moment (.status stored.id status)
      rcases (h.store .transaction).get?_cases stored.id with ⟨hp, hq⟩ | ⟨r, s, hp, hq, -⟩
      · rw [show p.store.transactions.get? stored.id = none from hp,
          show q.store.transactions.get? stored.id = none from hq]
        exact hwritten.fail _ _ _
      · rw [show p.store.transactions.get? stored.id = some r from hp,
          show q.store.transactions.get? stored.id = some s from hq]
        exact hwritten.withReport fun report =>
          { report with statusesRefreshed := report.statusesRefreshed + 1 }
    · exact h
  | error e =>
    dsimp only [Progress.takeStatus]
    split
    · exact h
    · exact h.fail _ _ _

/-! ### Storage -/

theorem takeListing (h : p.Alike q) (address : String) (total : SliceChange)
    (listing : Except GatewayError (List StorageItem)) :
    (p.takeListing moment address total listing).1 =
        (q.takeListing moment address total listing).1 ∧
      (p.takeListing moment address total listing).2.Alike
        (q.takeListing moment address total listing).2 := by
  cases listing with
  | ok listing =>
    obtain ⟨hchange, hstorage⟩ := (h.store .storageItem).reconcile
      (fun n => moment.wall (p.journal.size + n)) (fun n => moment.wall (q.journal.size + n))
      (Address.canonical address) listing
    refine ⟨congrArg total.plus hchange, fun kind => ?_, h.state, h.report⟩
    cases kind with
    | storageItem => exact hstorage
    | account => exact h.store .account
    | block => exact h.store .block
    | transaction => exact h.store .transaction
    | event => exact h.store .event
    | contract => exact h.store .contract
  | error e =>
    dsimp only [Progress.takeListing]
    exact ⟨rfl, (h.fail _ _ _).remember _⟩

theorem takeListings (h : p.Alike q)
    (listings : List (String × Except GatewayError (List StorageItem))) (total : SliceChange) :
    (p.takeListings moment listings total).1 = (q.takeListings moment listings total).1 ∧
      (p.takeListings moment listings total).2.Alike
        (q.takeListings moment listings total).2 := by
  induction listings generalizing p q total with
  | nil => exact ⟨rfl, h⟩
  | cons x rest ih =>
    obtain ⟨htotal, hlisted⟩ := h.takeListing moment x.1 total x.2
    rw [Progress.takeListings, Progress.takeListings]
    dsimp only
    rw [htotal]
    exact ih hlisted _

end Alike

end Progress

/-! ### Stages -/

section

variable {α β γ σ : Type}

/-- Asking about what items are mapped to gives the same answers. -/
theorem askEach_map (ask : γ → σ → β × σ) (f : α → γ) (items : List α) (chain : σ) :
    askEach ask (items.map f) chain =
      ((askEach (fun item => ask (f item)) items chain).1.map (Prod.map f id),
        (askEach (fun item => ask (f item)) items chain).2) := by
  induction items generalizing chain with
  | nil => rfl
  | cons item rest ih => rw [List.map_cons, askEach_cons, ih]; rfl

/-- What a gateway is asked about a stored transaction. -/
def askStatus (gateway : Gateway σ) (stored : Transaction) (chain : σ) :
    Except GatewayError TransactionStatus × σ :=
  gateway.ask (.status stored.id) chain

/-- The stage that asks for statuses looks at no stamps. -/
theorem refreshStatuses_eq (gateway : Gateway σ) (moment : Moment) (chain : σ) (p : Progress) :
    refreshStatuses gateway moment chain p =
      (p.takeStatuses moment
        (askEach (askStatus gateway) ((unsettled p.store).map unstamped) chain).1,
      (askEach (askStatus gateway) ((unsettled p.store).map unstamped) chain).2) := by
  rw [askEach_map, Progress.takeStatuses, List.foldl_map]
  rfl

end

namespace Progress.Alike

variable {σ : Type} {p q : Progress} (gateway : Gateway σ) (settings : Settings) (moment : Moment)
  (chain : σ)

theorem ingestBlocks (h : p.Alike q) :
    (Ingest.ingestBlocks gateway settings moment chain p).1.Alike
        (Ingest.ingestBlocks gateway settings moment chain q).1 ∧
      (Ingest.ingestBlocks gateway settings moment chain p).2 =
        (Ingest.ingestBlocks gateway settings moment chain q).2 := by
  unfold Ingest.ingestBlocks
  rcases gateway.ask .latestHeight chain with ⟨e | latest, next⟩
  · exact ⟨h.fail _ _ _, rfl⟩
  · dsimp only
    rw [h.state]
    refine ⟨mergeHeights moment ?_ _, rfl⟩
    exact ⟨h.store, rfl, h.report⟩

theorem indexAccounts (h : p.Alike q) :
    (Ingest.indexAccounts gateway settings moment chain p).1.Alike
        (Ingest.indexAccounts gateway settings moment chain q).1 ∧
      (Ingest.indexAccounts gateway settings moment chain p).2 =
        (Ingest.indexAccounts gateway settings moment chain q).2 := by
  -- the same accounts wait
  have hqueue : p.state.queueTracked settings p.store = q.state.queueTracked settings q.store := by
    have hcontains : ∀ address, p.store.accounts.contains address =
        q.store.accounts.contains address := (h.store .account).contains_eq
    rw [State.queueTracked, State.queueTracked, h.state]
    simp only [hcontains]
  unfold Ingest.indexAccounts
  dsimp only
  rw [hqueue]
  refine ⟨.foldl _ (fun _ _ h lookup _ => h.takeLookup moment settings _ _ lookup.2) ?_, rfl⟩
  exact ⟨h.store, rfl, h.report⟩

theorem refreshStatuses (h : p.Alike q) :
    (Ingest.refreshStatuses gateway moment chain p).1.Alike
        (Ingest.refreshStatuses gateway moment chain q).1 ∧
      (Ingest.refreshStatuses gateway moment chain p).2 =
        (Ingest.refreshStatuses gateway moment chain q).2 := by
  have hunsettled : (unsettled p.store).map unstamped = (unsettled q.store).map unstamped :=
    (h.store .transaction).map_unstamped_filter fun _ => rfl
  rw [refreshStatuses_eq, refreshStatuses_eq, hunsettled]
  exact ⟨.foldl _ (fun _ _ h answer _ => h.takeStatus moment answer.1 answer.2) h, rfl⟩

theorem listStorage (h : p.Alike q) (addresses : List String) :
    (Ingest.listStorage gateway moment addresses chain p).1.Alike
        (Ingest.listStorage gateway moment addresses chain q).1 ∧
      (Ingest.listStorage gateway moment addresses chain p).2 =
        (Ingest.listStorage gateway moment addresses chain q).2 := by
  unfold Ingest.listStorage
  dsimp only
  obtain ⟨htotal, hlisted⟩ := h.takeListings moment
    (askEach (fun address => gateway.ask (.storage address)) addresses chain).1 SliceChange.zero
  rw [htotal]
  exact ⟨hlisted.withReport fun report => { report with storage := some _ }, rfl⟩

theorem resyncStorage (h : p.Alike q) :
    (Ingest.resyncStorage gateway settings moment chain p).1.Alike
        (Ingest.resyncStorage gateway settings moment chain q).1 ∧
      (Ingest.resyncStorage gateway settings moment chain p).2 =
        (Ingest.resyncStorage gateway settings moment chain q).2 := by
  have haddresses : p.store.accounts.toList.map (·.address) =
      q.store.accounts.toList.map (·.address) := by
    have hunstamped := congrArg (List.map (·.address)) (h.store .account).map_unstamped_toList
    rw [List.map_map, List.map_map] at hunstamped
    exact hunstamped
  unfold Ingest.resyncStorage
  dsimp only
  rw [h.state, haddresses]
  split
  · exact (h.remember _).listStorage gateway moment chain _
  · split
    · exact ⟨h, rfl⟩
    · exact (h.remember _).listStorage gateway moment chain _

end Progress.Alike

end Ingest

/-! ### Ticks -/

open Ingest

namespace Follower

/-- The stores are alike, and the followers remember the same. -/
structure Alike (a b : Follower) : Prop where
  /-- The stores are alike. -/
  store : a.store.Alike b.store
  /-- What the followers remember is the same. -/
  state : a.state = b.state

namespace Alike

variable {σ : Type} {a b : Follower} (gateway : Gateway σ) (settings : Settings) (moment : Moment)
  (chain : σ)

theorem run (h : a.Alike b) :
    (a.run gateway settings moment chain).1.Alike (b.run gateway settings moment chain).1 ∧
      (a.run gateway settings moment chain).2 = (b.run gateway settings moment chain).2 := by
  have hstart : (Progress.start a.store a.state).Alike (Progress.start b.store b.state) :=
    ⟨h.store, h.state, rfl⟩
  rw [run_eq, run_eq]
  dsimp only
  obtain ⟨hblocks, heq⟩ := hstart.ingestBlocks gateway settings moment chain
  rw [heq]
  obtain ⟨haccounts, heq⟩ := hblocks.indexAccounts gateway settings moment _
  rw [heq]
  obtain ⟨hstatuses, heq⟩ := haccounts.refreshStatuses gateway moment _
  rw [heq]
  exact hstatuses.resyncStorage gateway settings moment _

/-- **Followers that are alike tick alike.** -/
theorem tick (h : a.Alike b) :
    (a.tick gateway settings moment chain).1 = (b.tick gateway settings moment chain).1 ∧
      (a.tick gateway settings moment chain).2.1.Alike
        (b.tick gateway settings moment chain).2.1 ∧
      (a.tick gateway settings moment chain).2.2 = (b.tick gateway settings moment chain).2.2 := by
  obtain ⟨hprogress, hchain⟩ := h.run gateway settings moment chain
  rw [tick_eq, tick_eq]
  dsimp only
  rw [hprogress.report, hprogress.state]
  exact ⟨rfl, ⟨hprogress.store, rfl⟩, hchain⟩

end Alike

end Follower

end ChainFeed
