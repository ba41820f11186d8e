import ChainFeed.Proofs.Ingest.Acceptance
import ChainFeed.Proofs.Ingest.Lookups
import ChainFeed.Proofs.Ingest.Provenance
import ChainFeed.Proofs.Ingest.Resync

/-!
# Records without an id

The transactions and events of a block are checked for an id: those without one are skipped and
counted, and beyond that the block is merged as if it did not carry them (`mergeBlock_eq_named`).

Nothing else is checked. A block, an account, a contract or a storage item without an id is stored
like any other as soon as the gateway answers with it (`Scene.BringsNameless`), so an empty id is
seen in an index if and only if such an answer was merged (`Follower.nameless_seen_iff`), and there
are such answers (`Follower.nameless_stored`).
-/

namespace ChainFeed

open Ingest

/-! ### Blocks as if without nameless records -/

namespace Ingest.FetchedBlock

/-- The block without those of its transactions and events that have no id. -/
def named (fetched : FetchedBlock) : FetchedBlock where
  block := fetched.block
  contents := ⟨fetched.contents.transactions.filter (·.id != ""),
    fetched.contents.events.filter (·.id != "")⟩

/-- How many transactions and events of the block have no id. -/
def namelessCount (fetched : FetchedBlock) : Nat :=
  fetched.contents.transactions.countP (·.id == "") + fetched.contents.events.countP (·.id == "")

end Ingest.FetchedBlock

namespace Ingest.Progress

variable {moment : Moment} {i : String} {p : Progress}

/-- The progress after `n` records that cannot be merged. -/
def skipping (n : Nat) (p : Progress) : Progress :=
  { p with report := { p.report with skippedRecords := p.report.skippedRecords + n } }

theorem skip_skipping (flaw : Flaw) (n : Nat) (p : Progress) :
    (p.skipping n).skip flaw = (p.skip flaw).skipping n := by
  simp only [skip, skipping, Report.skip, Nat.add_right_comm]

theorem skip_eq_skipping (flaw : Flaw) (n : Nat) (p : Progress) :
    (p.skipping n).skip flaw = p.skipping (n + 1) := rfl

/-- Transactions without an id are skipped and counted. -/
theorem mergeTransactions_skipping (moment : Moment) (block : Block) (merged : List String)
    (transactions : List Transaction) (n : Nat) (p : Progress) :
    (p.skipping n).mergeTransactions moment block merged transactions =
      let named := p.mergeTransactions moment block merged (transactions.filter (·.id != ""))
      (named.1, named.2.skipping (n + transactions.countP (·.id == ""))) := by
  induction transactions generalizing merged n p with
  | nil => rfl
  | cons t rest ih =>
    by_cases hid : t.id = ""
    · have hflaw : (p.skipping n).transactionFlaw? block t = some .noId := if_pos hid
      rw [mergeTransactions, hflaw]
      dsimp only
      rw [skip_eq_skipping, ih, List.filter_cons_of_neg (by simpa using hid),
        List.countP_cons_of_pos (by simpa using hid), Nat.add_right_comm, Nat.add_assoc]
    · have hflaw : (p.skipping n).transactionFlaw? block t = p.transactionFlaw? block t := rfl
      rw [mergeTransactions, hflaw, List.filter_cons_of_pos (by simpa using hid),
        List.countP_cons_of_neg (by simpa using hid), mergeTransactions]
      split
      · rw [skip_skipping, ih]
      · exact ih _ n (p.mergeTransaction moment block t)

/-- Events without an id are skipped and counted. -/
theorem mergeEvents_skipping (moment : Moment) (block : Block) (merged : List String)
    (events : List Event) (n : Nat) (p : Progress) :
    (p.skipping n).mergeEvents moment block merged events =
      (p.mergeEvents moment block merged (events.filter (·.id != ""))).skipping
        (n + events.countP (·.id == "")) := by
  induction events generalizing n p with
  | nil => rfl
  | cons e rest ih =>
    by_cases hid : e.id = ""
    · have hflaw : (p.skipping n).eventFlaw? merged e = some .noId := if_pos hid
      rw [mergeEvents, hflaw]
      dsimp only
      rw [skip_eq_skipping, ih, List.filter_cons_of_neg (by simpa using hid),
        List.countP_cons_of_pos (by simpa using hid), Nat.add_right_comm, Nat.add_assoc]
    · have hflaw : (p.skipping n).eventFlaw? merged e = p.eventFlaw? merged e := rfl
      rw [mergeEvents, hflaw, List.filter_cons_of_pos (by simpa using hid),
        List.countP_cons_of_neg (by simpa using hid), mergeEvents]
      split
      · rw [skip_skipping, ih]
      · exact ih n (p.mergeEvent moment block e)

theorem eventOrder_filter (keep : Event → Bool) (events : List Event) :
    eventOrder (events.filter keep) = (eventOrder events).filter keep := by
  simp only [eventOrder, List.filter_append, List.filter_filter, Bool.and_comm]

/-- **A block is merged as if its records without an id were absent**, beyond that they are counted.
-/
theorem mergeBlock_eq_named (moment : Moment) (fetched : FetchedBlock) (p : Progress) :
    p.mergeBlock moment fetched =
      (p.mergeBlock moment fetched.named).skipping fetched.namelessCount := by
  have htransactions := mergeTransactions_skipping moment fetched.block []
    fetched.contents.transactions 0 p
  have hevents := mergeEvents_skipping moment fetched.block
    (p.mergeTransactions moment fetched.block [] fetched.named.contents.transactions).1
    (eventOrder fetched.contents.events) (fetched.contents.transactions.countP (·.id == ""))
    (p.mergeTransactions moment fetched.block [] fetched.named.contents.transactions).2
  rw [← eventOrder_filter, (eventOrder_perm _).countP_eq] at hevents
  have hcontents : p.mergeContents moment fetched =
      (p.mergeContents moment fetched.named).skipping fetched.namelessCount := by
    rw [Nat.zero_add] at htransactions
    rw [mergeContents, show p.mergeTransactions moment fetched.block []
      fetched.contents.transactions = _ from htransactions]
    exact hevents
  rw [mergeBlock_eq, mergeBlock_eq, hcontents]
  rfl

/-! ### What a block stores without an id -/

theorem mergeTransactions_stores (block : Block) (merged : List String)
    (transactions : List Transaction) (p : Progress) :
    Stores moment "" (fun _ => False) p
      (p.mergeTransactions moment block merged transactions).2 := by
  induction transactions generalizing merged p with
  | nil => exact .refl p
  | cons t rest ih =>
    rw [mergeTransactions]
    split
    · exact (Stores.skip _ p).trans_of_none (ih _ _)
    · rename_i hflaw
      have hid : t.id ≠ "" := (transactionFlaw?_eq_none_iff.mp hflaw).1
      have hwrite : Stores moment "" (fun _ => False) p
          (p.mergeTransaction moment block t) :=
        (Stores.remember _ p).trans_of_none <| .write_of_none fun kind => by
          simp [Write.stores?, id_settled, hid]
      exact hwrite.trans_of_none (ih _ _)

theorem mergeEvents_stores (block : Block) (merged : List String) (events : List Event)
    (p : Progress) :
    Stores moment "" (fun _ => False) p (p.mergeEvents moment block merged events) := by
  induction events generalizing p with
  | nil => exact .refl p
  | cons e rest ih =>
    rw [mergeEvents]
    split
    · exact (Stores.skip _ p).trans_of_none (ih _)
    · rename_i hflaw
      have hid : e.id ≠ "" := (eventFlaw?_eq_none_iff.mp hflaw).1
      have hwrite : Stores moment "" (fun _ => False) p (p.mergeEvent moment block e) :=
        (Stores.remember _ p).trans_of_none <| .write_of_none fun kind => by
          simp [Write.stores?, id_placed, hid]
      exact hwrite.trans_of_none (ih _)

/-- Of all that a block brings, the block itself alone may be stored without an id. -/
theorem mergeHeight_stores (height : Nat) (fetched : FetchedBlock) (p : Progress) :
    Stores moment "" (fun kind => kind = .block ∧ fetched.block.id = "") p
      (p.mergeHeight moment height fetched) := by
  have hcontents : Stores moment "" (fun _ => False) p (p.mergeContents moment fetched) :=
    (mergeTransactions_stores _ _ _ p).trans_of_none (mergeEvents_stores _ _ _ _)
  have hblock : Stores moment "" (fun kind => kind = .block ∧ fetched.block.id = "")
      (p.mergeContents moment fetched) (p.mergeBlock moment fetched) :=
    (Stores.write (.block fetched.block)).congr fun kind => by
      simp only [Write.stores?, Option.some_inj, Prod.mk.injEq, eq_comm]
  have hmerged := (hcontents.trans hblock).congr fun kind => or_iff_right id
  exact hmerged.trans_of_none (.of_eq rfl rfl)

/-! ### What the other stages store -/

/-- A lookup stores the account and the contracts that it returns. -/
theorem takeLookup_stores (settings : Settings) (address : String) (waiting : Pending)
    (outcome : Except GatewayError FetchedAccount) (p : Progress) :
    Stores moment i
      (fun kind => kind = .account ∧ ReturnsAccount i outcome ∨
        kind = .contract ∧ ReturnsContract i outcome) p
      (p.takeLookup settings moment address waiting outcome) := by
  cases outcome with
  | ok fetched =>
    have hcontracts (blockId : String) (p : Progress) :
        Stores moment i (fun kind => ∃ c ∈ fetched.contractsIn blockId,
          (Write.contract c).stores? = some (kind, i)) p
          ((fetched.contractsIn blockId).foldl (fun p c => p.write moment (.contract c)) p) :=
      .foldl _ (fun p c _ => .write (.contract c)) p
    have haccount (a : Account) :
        Stores moment i (fun kind => (Write.account a).stores? = some (kind, i)) p
          (p.write moment (.account a)) :=
      .write _
    have hmerged := ((haccount (fetched.accountIn settings
      (p.lastSeenIn waiting fetched.account))).trans (hcontracts _ _)).trans_of_none
        (Stores.of_eq (q := p.takeLookup settings moment address waiting (.ok fetched)) rfl rfl)
    refine hmerged.congr fun kind => ?_
    simp only [Write.stores?, Option.some_inj, Prod.mk.injEq, ReturnsAccount, ReturnsContract,
      FetchedAccount.accountIn, FetchedAccount.contractsIn, List.mem_map, Except.ok.injEq,
      exists_eq_left']
    aesop
  | error e =>
    have hnone : Stores moment i (fun _ => False) p
        (p.takeLookup settings moment address waiting (.error e)) := by
      rw [takeLookup]
      split
      · cases waiting.afterMiss with
        | some waiting => exact .remember _ p
        | none => exact .refl p
      · exact (Stores.fail _ _ _ p).trans_of_none (.remember _ _)
    exact hnone.congr fun kind => by simp [ReturnsAccount, ReturnsContract]

/-- A status is stored with a transaction, under no new id. -/
theorem takeStatus_stores (stored : Transaction) (answer : Except GatewayError TransactionStatus)
    (p : Progress) : Stores moment i (fun _ => False) p (p.takeStatus moment stored answer) := by
  cases answer with
  | ok status =>
    rw [takeStatus]
    split
    · have hwrite : Stores moment i (fun _ => False) p
          (p.write moment (.status stored.id status)) :=
        .write_of_none fun kind => Option.some_ne_none _ |>.symm
      unfold advance
      dsimp only
      split <;> exact hwrite.trans_of_none (.of_eq rfl rfl)
    · exact .refl p
  | error e =>
    rw [takeStatus]
    split
    · exact .refl p
    · exact .fail _ _ _ p

/-- The listing holds an item with the id for the account with an address. -/
def ListsItem (i address : String) (outcome : Except GatewayError (List StorageItem)) : Prop :=
  ∃ listing, outcome = .ok listing ∧
    ∃ item ∈ Index.listedFor (Address.canonical address) listing, item.id = i

/-- A listing stores the items that it holds for its account. -/
theorem takeListing_stores (address : String) (total : SliceChange)
    (outcome : Except GatewayError (List StorageItem)) (p : Progress) :
    Stores moment i (fun kind => kind = .storageItem ∧ ListsItem i address outcome) p
      (p.takeListing moment address total outcome).2 := by
  cases outcome with
  | ok listing =>
    refine ⟨_, reconcile_wrote address listing p, fun kind => ?_⟩
    simp only [reconcileWrites, List.mem_append, List.mem_map]
    constructor
    · rintro ⟨w, ⟨item, hitem, rfl⟩ | ⟨target, -, rfl⟩, hw⟩
      · obtain ⟨rfl, hid⟩ := Prod.mk.inj (Option.some.inj hw)
        exact ⟨rfl, listing, rfl, item, hitem, hid⟩
      · cases hw
    · rintro ⟨rfl, other, hother, item, hitem, rfl⟩
      obtain rfl := Except.ok.inj hother
      exact ⟨.item item, .inl ⟨item, hitem, rfl⟩, rfl⟩
  | error e =>
    have hnone : Stores moment i (fun _ => False) p
        (p.takeListing moment address total (.error e)).2 := by
      dsimp only [takeListing]
      exact (Stores.fail _ _ _ p).trans_of_none (.remember _ _)
    exact hnone.congr fun kind => by simp [ListsItem]

theorem takeListings_stores (listings : List (String × Except GatewayError (List StorageItem)))
    (total : SliceChange) (p : Progress) :
    Stores moment i
      (fun kind => kind = .storageItem ∧ ∃ x ∈ listings, ListsItem i x.1 x.2) p
      (p.takeListings moment listings total).2 := by
  induction listings generalizing total p with
  | nil => exact (Stores.refl p).congr fun kind => by simp
  | cons x rest ih =>
    exact ((takeListing_stores x.1 total x.2 p).trans (ih _ _)).congr fun kind => by
      rw [List.exists_mem_cons_iff, and_or_left]

end Ingest.Progress

/-- The last stage stores what the listings hold that it asks for. -/
theorem Ingest.resyncStorage_stores {σ : Type} (gateway : Gateway σ) (settings : Settings)
    (moment : Moment) (chain : σ) (p : Progress) (i : String) :
    Progress.Stores moment i
      (fun kind => kind = .storageItem ∧
        ∃ x ∈ storageListings gateway (p.requested settings moment) chain,
          Progress.ListsItem i x.1 x.2) p
      (resyncStorage gateway settings moment chain p).1 := by
  have hlist (addresses : List String) (q : Progress) (hstore : q.store = p.store)
      (hjournal : q.journal = p.journal) :
      Progress.Stores moment i
        (fun kind => kind = .storageItem ∧
          ∃ x ∈ storageListings gateway addresses chain, Progress.ListsItem i x.1 x.2) p
        (listStorage gateway moment addresses chain q).1 := by
    have hstart : Progress.Stores moment i (fun _ => False) p q := .of_eq hstore hjournal
    have htaken := (hstart.trans (Progress.takeListings_stores
      (storageListings gateway addresses chain) SliceChange.zero q)).congr
        fun kind => or_iff_right id
    exact htaken.trans_of_none (.of_eq rfl rfl)
  unfold resyncStorage Progress.requested
  dsimp only
  split
  · exact hlist _ _ rfl rfl
  · split
    · rename_i hempty
      rw [State.toList_failedStorage hempty]
      exact (Progress.Stores.refl p).congr fun kind => by simp [storageListings, askEach]
    · exact hlist _ _ rfl rfl

/-! ### What a tick stores without an id -/

namespace Scene

open Progress

variable {σ : Type} (settings : Settings) (follower : Follower) (scene : Scene σ)

/-- The tick is answered with a record of a kind that has no id, and nothing keeps the record from
being merged. -/
def BringsNameless : Kind → Prop
  | .block => ∃ m ∈ scene.merged settings follower.state, m.2.block.id = ""
  | .account => ∃ lookup ∈ scene.lookups settings follower, ReturnsAccount "" lookup.2
  | .contract => ∃ lookup ∈ scene.lookups settings follower, ReturnsContract "" lookup.2
  | .storageItem => ∃ x ∈ scene.listings settings follower, ListsItem "" x.1 x.2
  | .transaction | .event => False

/-- **A tick stores what it is answered with**, whether it has an id or not. -/
theorem progress_stores :
    Stores scene.moment "" (scene.BringsNameless settings follower)
      (Progress.start follower.store follower.state) (scene.progress settings follower) := by
  have hblocks : Stores scene.moment ""
      (fun kind => ∃ m ∈ scene.merged settings follower.state, kind = .block ∧ m.2.block.id = "")
      (Progress.start follower.store follower.state) (scene.blockStage settings follower) := by
    obtain ⟨failures, heq⟩ := blockStage_eq settings follower scene
    have hmerged : Stores scene.moment "" _ _ _ :=
      .foldl (scene.merged settings follower.state)
        (fun p m _ => mergeHeight_stores m.1 m.2 p)
        (Progress.start follower.store (scene.heard settings follower.state))
    rw [heq]
    obtain ⟨writes, hw, hkinds⟩ := hmerged
    exact ⟨writes, ⟨hw.journal, hw.store⟩, hkinds⟩
  have haccounts : Stores scene.moment "" _ _ _ :=
    .foldl (scene.lookups settings follower)
      (fun p lookup _ => takeLookup_stores settings lookup.1.1 lookup.1.2 lookup.2 p)
      (scene.taken settings follower)
  have hstatuses : Stores scene.moment "" (fun _ => False)
      (scene.afterAccounts settings follower).1 (scene.afterStatuses settings follower).1 :=
    .foldl_of_none _ (fun p answer _ => takeStatus_stores answer.1 answer.2 p) _
  have hstorage := resyncStorage_stores scene.gateway settings scene.moment
    (scene.afterStatuses settings follower).2 (scene.afterStatuses settings follower).1 ""
  have htaken : Stores scene.moment "" (fun _ => False) (scene.blockStage settings follower)
      (scene.taken settings follower) := .of_eq rfl rfl
  rw [progress_eq]
  refine ((((hblocks.trans_of_none htaken).trans haccounts).trans_of_none hstatuses).trans
    hstorage).congr fun kind => ?_
  -- each stage stores records of its own kinds
  cases kind <;> simp [BringsNameless, listings]

end Scene

/-! ### What a run stores without an id -/

namespace Follower

open Progress

variable {σ : Type}

/-- **An empty id is seen in an index exactly if a record without an id was brought there**: a
block, an account, a contract or a storage item, which nothing checks. Transactions and events
without an id are skipped: each block is merged as if it did not carry them, beyond that they are
counted. -/
theorem nameless_seen_iff (settings : Settings) (turns : List (Turn σ)) :
    (∀ kind,
      (∃ before scene behind, turns = before ++ .tick scene :: behind ∧
        ∃ n, ((scene.storeAt settings (initial.after settings before) n).index kind).contains "") ↔
      ∃ before scene behind, turns = before ++ .tick scene :: behind ∧
        scene.BringsNameless settings (initial.after settings before) kind) ∧
    ∀ (moment : Moment) (fetched : FetchedBlock) (p : Progress),
      p.mergeBlock moment fetched =
        (p.mergeBlock moment fetched.named).skipping fetched.namelessCount := by
  refine ⟨fun kind => ?_, mergeBlock_eq_named⟩
  rw [exists_contains_storeAt_iff]
  refine exists_congr fun before => exists_congr fun scene => exists_congr fun behind =>
    and_congr_right fun _ => ?_
  obtain ⟨writes, hw, hkinds⟩ := scene.progress_stores settings (initial.after settings before)
  rw [hw.journal_of_start]
  exact hkinds kind

/-- A tick whose gateway answers with a block, an account, a contract and a storage item, none of
which has an id. -/
def namelessScene : Scene Unit where
  gateway := {
    ask
      | .latestHeight, _ => (.ok 1, ())
      | .block height, _ => (.ok { Block.sample height with id := "" }, ())
      | .contents _, _ => (.ok ⟨[], []⟩, ())
      | .account address, _ => (.ok { Account.sample address 1 with id := "" }, ())
      | .contracts address, _ => (.ok [{ Contract.sample address "Vault" with id := "" }], ())
      | .storage address, _ =>
        (.ok [{ StorageItem.sample address "/storage/vault" with id := "" }], ())
      | _, _ => (.error .transport, ()) }
  chain := ()
  moment := ⟨fun _ => 0, Span.zero⟩

/-- **Records without an id are stored**: one of each kind but transactions and events. -/
theorem nameless_stored :
    Kind.all.filter (fun kind =>
      ((initial.after { Settings.standard with trackedAddresses := ["0x1"] }
        [.tick namelessScene]).store.index kind).contains "") =
      [.account, .block, .contract, .storageItem] := by
  decide +kernel

end Follower

end ChainFeed
