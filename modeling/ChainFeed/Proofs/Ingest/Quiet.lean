import ChainFeed.Polling
import ChainFeed.Proofs.Ingest.Advancement
import ChainFeed.Proofs.Ingest.Failures
import ChainFeed.Proofs.Ingest.Lookups

/-!
# Quiet ticks

A report is **quiet** (`Report.Quiet`) if it counts no merged block, no account that was looked up
with success, no advanced status and no change of storage. A quiet tick may still have written: it
merges again what is listed again, and every such write is **idle** (`Write.Idle`), which is to say
that it leaves the store as it is.

`Progress.Counts` ties the writes of a tick to its counters: a later progress has counted at least
as much as an earlier one, and if it has counted nothing more, all writes in between are idle. It is
put together from steps like `Progress.Obeys`. Storage is counted apart, by the change of each
listing (`Progress.takeListings_idle`). So a quiet tick leaves the store as it is at every moment
(`Scene.unchanged_of_quiet`), and a poll is answered as before, whatever failed, was looked up in
vain or was listed again.
-/

namespace ChainFeed

open Ingest

/-! ### Merging and removing nothing -/

namespace SliceChange

theorem plus_eq_zero_iff {a b : SliceChange} : a.plus b = zero ↔ a = zero ∧ b = zero := by
  cases a
  cases b
  simp only [plus, zero, SliceChange.mk.injEq, Nat.add_eq_zero_iff]
  tauto

/-- A change counts nothing merged if nothing before was counted and nothing new was brought. -/
theorem count_eq_iff {change : SliceChange} {outcome : MergeOutcome} :
    ((change.count outcome).added = 0 ∧ (change.count outcome).updated = 0) ↔
      (change.added = 0 ∧ change.updated = 0) ∧ outcome = .unchanged := by
  cases outcome <;> simp [count]

end SliceChange

namespace Index

/-- What brings nothing new at one time changes nothing at any time. -/
theorem merge_of_unchanged {R : Type} [Resource R] {index : Index R} {now : Nat} {r : R}
    (h : (index.merge now r).1 = .unchanged) (later : Nat) : (index.merge later r).2 = index := by
  unfold merge at h
  split at h
  · rename_i stored hstored
    dsimp only at h
    split at h
    · rename_i hsame
      exact merge_of_same hstored hsame
    · cases h
  · cases h

/-- If no merged item is counted, merging any of them changes nothing. -/
theorem mergeAll_of_uncounted {clock : Nat → Nat} {index : Index StorageItem}
    {items : List StorageItem} (hadded : (index.mergeAll clock items).1.added = 0)
    (hupdated : (index.mergeAll clock items).1.updated = 0) :
    (index.mergeAll clock items).2 = index ∧
      ∀ item ∈ items, ∀ now, (index.merge now item).2 = index := by
  induction items generalizing clock with
  | nil => exact ⟨rfl, fun _ h => absurd h List.not_mem_nil⟩
  | cons item rest ih =>
    rw [mergeAll] at hadded hupdated ⊢
    dsimp only at hadded hupdated ⊢
    obtain ⟨⟨hrestAdded, hrestUpdated⟩, houtcome⟩ :=
      SliceChange.count_eq_iff.mp ⟨hadded, hupdated⟩
    have hitem := merge_of_unchanged houtcome
    rw [hitem] at hrestAdded hrestUpdated ⊢
    obtain ⟨hrest, hitems⟩ := ih hrestAdded hrestUpdated
    exact ⟨hrest, List.forall_mem_cons.mpr ⟨hitem, hitems⟩⟩

/-- If no removed item is counted, removing any of them changes nothing. -/
theorem deleteAll_of_uncounted {index : Index StorageItem} {ids : List String}
    (h : (index.deleteAll ids).1 = 0) : ∀ i ∈ ids, (index.delete i).2 = index := by
  induction ids with
  | nil => exact fun _ h => absurd h List.not_mem_nil
  | cons i rest ih =>
    rw [deleteAll] at h
    dsimp only at h
    split at h
    · cases h
    · rename_i hfailed
      have hdelete : (index.delete i).2 = index := by
        unfold delete at hfailed ⊢
        split
        · rename_i stored hstored
          rw [hstored] at hfailed
          exact absurd rfl hfailed
        · rfl
      rw [hdelete] at h
      exact List.forall_mem_cons.mpr ⟨hdelete, ih h⟩

end Index

/-! ### Idle writes -/

/-- The write leaves the store as it is, whatever the wall clock shows. -/
def Write.Idle (store : Store) (w : Write) : Prop := ∀ now, store.write now w = store

namespace Store

variable {wall : Nat → Nat} {first : Nat} {store : Store}

/-- Writes that are idle in one store are made in that store, one after the other. -/
theorem obeys_idle {writes : List Write} (h : ∀ w ∈ writes, Write.Idle store w) :
    store.Obeys Write.Idle wall first writes := by
  induction writes generalizing first with
  | nil => trivial
  | cons w rest ih =>
    rw [List.forall_mem_cons] at h
    refine ⟨h.1, ?_⟩
    rw [h.1]
    exact ih h.2

end Store

namespace Ingest

/-! ### Counting writes -/

namespace Report

/-- How much a report counts, apart from storage. -/
def count (report : Report) : Nat :=
  report.blocksIngested + report.accountsIndexed + report.statusesRefreshed

/-- The report counts no block, no account, no status and no change of storage. -/
structure Quiet (report : Report) : Prop where
  /-- No block was merged. -/
  blocks : report.blocksIngested = 0
  /-- No account was looked up with success. -/
  accounts : report.accountsIndexed = 0
  /-- No status advanced. -/
  statuses : report.statusesRefreshed = 0
  /-- If storage was listed, no item was added, changed or removed. -/
  storage : ∀ change ∈ report.storage, change = SliceChange.zero

end Report

namespace Progress

/-- The later progress has counted at least as much as the earlier one, and if it has counted no
more, all writes in between are idle. -/
structure Counts (moment : Moment) (earlier later : Progress) : Prop where
  /-- No counter steps back. -/
  le : earlier.report.count ≤ later.report.count
  /-- What is not counted is idle. -/
  idle : later.report.count = earlier.report.count → Obeys Write.Idle moment earlier later

variable {moment : Moment} {p q r : Progress}

namespace Counts

theorem of_obeys (hcount : q.report.count = p.report.count) (h : Obeys Write.Idle moment p q) :
    Counts moment p q :=
  ⟨Nat.le_of_eq hcount.symm, fun _ => h⟩

theorem of_lt (h : p.report.count < q.report.count) : Counts moment p q :=
  ⟨Nat.le_of_lt h, fun heq => absurd heq (Nat.ne_of_gt h)⟩

theorem refl (p : Progress) : Counts moment p p := .of_obeys rfl (.refl p)

theorem trans (hpq : Counts moment p q) (hqr : Counts moment q r) : Counts moment p r := by
  refine ⟨hpq.le.trans hqr.le, fun heq => ?_⟩
  have hq : q.report.count = p.report.count :=
    Nat.le_antisymm (heq ▸ hqr.le) hpq.le
  exact (hpq.idle hq).trans (hqr.idle (heq.trans hq.symm))

theorem foldl {α : Type} {step : Progress → α → Progress} (items : List α)
    (h : ∀ p, ∀ item ∈ items, Counts moment p (step p item)) (p : Progress) :
    Counts moment p (items.foldl step p) := by
  induction items generalizing p with
  | nil => exact refl p
  | cons item items ih =>
    have htail := ih fun p other hmem => h p other (List.mem_cons_of_mem _ hmem)
    exact (h p item List.mem_cons_self).trans (htail _)

end Counts

/-! #### Blocks -/

theorem count_mergeTransactions (block : Block) (merged : List String)
    (transactions : List Transaction) (p : Progress) :
    (p.mergeTransactions moment block merged transactions).2.report.count = p.report.count := by
  induction transactions generalizing merged p with
  | nil => rfl
  | cons t rest ih =>
    rw [mergeTransactions]
    split <;> exact ih _ _

theorem count_mergeEvents (block : Block) (merged : List String) (events : List Event)
    (p : Progress) :
    (p.mergeEvents moment block merged events).report.count = p.report.count := by
  induction events generalizing p with
  | nil => rfl
  | cons e rest ih =>
    rw [mergeEvents]
    split <;> exact ih _

/-- A merged block is counted. -/
theorem mergeHeight_counts (height : Nat) (fetched : FetchedBlock) (p : Progress) :
    Counts moment p (p.mergeHeight moment height fetched) := by
  have hcontents : (p.mergeContents moment fetched).report.count = p.report.count :=
    (count_mergeEvents _ _ _ _).trans (count_mergeTransactions _ _ _ _)
  have hone : (p.mergeHeight moment height fetched).report.count =
      (p.mergeContents moment fetched).report.count + 1 := by
    simp only [mergeHeight, mergeBlock_eq, Progress.write, Report.count]
    omega
  exact .of_lt (by omega)

/-! #### Accounts -/

theorem count_mergeAccount (moment : Moment) (settings : Settings) (waiting : Pending)
    (fetched : FetchedAccount) (p : Progress) :
    (p.mergeAccount settings moment waiting fetched).report.count = p.report.count := by
  unfold mergeAccount mergeContracts
  dsimp only
  exact List.foldlRecOn (motive := fun q : Progress => q.report.count = p.report.count) _ _
    rfl fun _ hq _ _ => hq

/-- A lookup that succeeds is counted, and one that fails writes nothing. -/
theorem takeLookup_counts (settings : Settings) (address : String) (waiting : Pending)
    (outcome : Except GatewayError FetchedAccount) (p : Progress) :
    Counts moment p (p.takeLookup settings moment address waiting outcome) := by
  cases outcome with
  | ok fetched =>
    have hmerged := count_mergeAccount moment settings waiting fetched p
    have hone : (p.takeLookup settings moment address waiting (.ok fetched)).report.count =
        (p.mergeAccount settings moment waiting fetched).report.count + 1 := by
      simp only [takeLookup, Report.count]
      omega
    exact .of_lt (by omega)
  | error e =>
    rw [takeLookup]
    split
    · cases waiting.afterMiss with
      | some waiting => exact .of_obeys rfl (.of_eq rfl rfl)
      | none => exact .refl p
    · exact .of_obeys rfl (.of_eq rfl rfl)

/-! #### Statuses -/

/-- A status that advances is counted if the transaction is stored. -/
theorem takeStatus_counts (moment : Moment) {stored : Transaction}
    (h : p.store.transactions.contains stored.id) (answer : Except GatewayError TransactionStatus) :
    Counts moment p (p.takeStatus moment stored answer) ∧
      ∀ i, p.store.transactions.contains i →
        (p.takeStatus moment stored answer).store.transactions.contains i := by
  cases answer with
  | ok status =>
    rw [takeStatus]
    split
    · rw [Index.contains_eq_isSome_get?] at h
      obtain ⟨found, hfound⟩ := Option.isSome_iff_exists.mp h
      have hfind : p.store.transactions.find stored.id = .ok found := by
        rw [Index.find, hfound]
      have hone : (p.advance moment stored.id status).report.count = p.report.count + 1 := by
        simp only [advance, hfind, Progress.write, Report.count]
        omega
      refine ⟨.of_lt (by omega), fun i hi => ?_⟩
      simp only [advance, hfind]
      exact Index.contains_update hi
    · exact ⟨.refl p, fun _ hi => hi⟩
  | error e =>
    rw [takeStatus]
    split
    · exact ⟨.refl p, fun _ hi => hi⟩
    · exact ⟨.of_obeys rfl (.fail _ _ _ p), fun _ hi => hi⟩

theorem takeStatuses_counts {answers : List (Transaction × Except GatewayError TransactionStatus)}
    (h : ∀ answer ∈ answers, p.store.transactions.contains answer.1.id) :
    Counts moment p (p.takeStatuses moment answers) := by
  induction answers generalizing p with
  | nil => exact .refl p
  | cons answer rest ih =>
    rw [List.forall_mem_cons] at h
    obtain ⟨hcounts, hkept⟩ := takeStatus_counts moment h.1 answer.2
    exact hcounts.trans (ih fun other hother => hkept _ (h.2 other hother))

/-! #### Storage -/

/-- A listing that changes nothing is merged by idle writes. -/
theorem reconcile_idle {address : String} {listing : List StorageItem}
    (h : (p.reconcile moment address listing).1 = SliceChange.zero) :
    Obeys Write.Idle moment p (p.reconcile moment address listing).2 := by
  refine ⟨_, reconcile_wrote address listing p, Store.obeys_idle ?_⟩
  simp only [reconcile, Index.reconcile, SliceChange.zero, SliceChange.mk.injEq] at h
  obtain ⟨hadded, hupdated, hremoved⟩ := h
  obtain ⟨hmerged, hitems⟩ := Index.mergeAll_of_uncounted hadded hupdated
  rw [hmerged] at hremoved
  have hids := Index.deleteAll_of_uncounted hremoved
  simp only [reconcileWrites, hmerged, List.forall_mem_append, List.forall_mem_map]
  refine ⟨fun item hitem now => ?_, fun i hi now => ?_⟩
  · rw [Store.write, hitems item hitem now]
  · rw [Store.write, hids i hi]

theorem takeListing_idle {address : String} {total : SliceChange}
    {outcome : Except GatewayError (List StorageItem)}
    (h : (p.takeListing moment address total outcome).1 = SliceChange.zero) :
    total = SliceChange.zero ∧
      Obeys Write.Idle moment p (p.takeListing moment address total outcome).2 := by
  cases outcome with
  | ok listing =>
    obtain ⟨htotal, hchange⟩ := SliceChange.plus_eq_zero_iff.mp h
    exact ⟨htotal, reconcile_idle hchange⟩
  | error e => exact ⟨h, .of_eq rfl rfl⟩

/-- Listings that change nothing in all are merged by idle writes. -/
theorem takeListings_idle {listings : List (String × Except GatewayError (List StorageItem))}
    {total : SliceChange} (h : (p.takeListings moment listings total).1 = SliceChange.zero) :
    total = SliceChange.zero ∧
      Obeys Write.Idle moment p (p.takeListings moment listings total).2 := by
  induction listings generalizing total p with
  | nil => exact ⟨h, .refl p⟩
  | cons x rest ih =>
    obtain ⟨hbehind, hrest⟩ := ih h
    obtain ⟨htotal, hfirst⟩ := takeListing_idle hbehind
    exact ⟨htotal, hfirst.trans hrest⟩

theorem count_takeListings (listings : List (String × Except GatewayError (List StorageItem)))
    (total : SliceChange) (p : Progress) :
    (p.takeListings moment listings total).2.report.count = p.report.count := by
  induction listings generalizing total p with
  | nil => rfl
  | cons x rest ih =>
    obtain ⟨address, e | listing⟩ := x <;> exact ih _ _

end Progress

/-! ### Stages -/

open Progress

variable {σ : Type} (gateway : Gateway σ) (moment : Moment)

theorem ingestBlocks_counts (settings : Settings) (chain : σ) (p : Progress) :
    Counts moment p (ingestBlocks gateway settings moment chain p).1 := by
  have hmerged (fetches : List (Nat × Except GatewayError FetchedBlock)) (p : Progress) :
      Counts moment p (p.mergeHeights moment fetches) := by
    obtain ⟨failures, heq⟩ : ∃ failures, p.mergeHeights moment fetches = _ := mergeHeights_eq p
    rw [heq]
    exact (Counts.foldl _ (fun p m _ => mergeHeight_counts m.1 m.2 p) p).trans
      (.of_obeys rfl (.of_eq rfl rfl))
  unfold ingestBlocks
  rcases gateway.ask .latestHeight chain with ⟨e | latest, next⟩
  · exact .of_obeys rfl (.fail _ _ _ p)
  · have hheard : Counts moment p { p with state := (p.state.nextHeight settings latest).2 } :=
      .of_obeys rfl (.of_eq rfl rfl)
    exact hheard.trans (hmerged _ _)

theorem indexAccounts_counts (settings : Settings) (chain : σ) (p : Progress) :
    Counts moment p (indexAccounts gateway settings moment chain p).1 := by
  have hqueued : Counts moment p
      { p with state := { p.state.queueTracked settings p.store with pending := ∅ } } :=
    .of_obeys rfl (.of_eq rfl rfl)
  exact hqueued.trans (.foldl _ (fun p _ _ => takeLookup_counts settings _ _ _ p) _)

theorem refreshStatuses_counts {p : Progress} (h : p.store.transactions.Coherent) (chain : σ) :
    Counts moment p (refreshStatuses gateway moment chain p).1 := by
  have hasked : (statusAnswers gateway chain p.store).map Prod.fst = unsettled p.store :=
    map_fst_askEach _ _ _
  have hall : ∀ answer ∈ statusAnswers gateway chain p.store,
      p.store.transactions.contains answer.1.id := by
    intro answer hanswer
    have hstored := (unsettled_spec h).1 _ (hasked ▸ List.mem_map_of_mem hanswer)
    rw [Index.contains_eq_isSome_get?]
    exact Option.isSome_of_eq_some hstored.1
  exact takeStatuses_counts hall

/-- Nothing but storage is counted while storage is listed, and if the listings change nothing, they
are merged by idle writes. -/
theorem resyncStorage_counts (settings : Settings) (chain : σ) (p : Progress)
    (h : ∀ change ∈ (resyncStorage gateway settings moment chain p).1.report.storage,
      change = SliceChange.zero) :
    Counts moment p (resyncStorage gateway settings moment chain p).1 := by
  have hlist (addresses : List String) (q : Progress) (hstore : q.store = p.store)
      (hjournal : q.journal = p.journal) (hcount : q.report.count = p.report.count)
      (hzero : ∀ change ∈ (listStorage gateway moment addresses chain q).1.report.storage,
        change = SliceChange.zero) :
      Counts moment p (listStorage gateway moment addresses chain q).1 := by
    have hidle := takeListings_idle (hzero _ rfl)
    refine .of_obeys ((count_takeListings _ _ q).trans hcount) ?_
    exact (Obeys.of_eq hstore hjournal).trans (hidle.2.trans (.of_eq rfl rfl))
  revert h
  unfold resyncStorage
  dsimp only
  split
  · exact hlist _ _ rfl rfl rfl
  · split
    · exact fun _ => .refl p
    · exact hlist _ _ rfl rfl rfl

end Ingest

/-! ### Ticks -/

namespace Scene

open Progress

variable {σ : Type} {settings : Settings} {follower : Follower} {scene : Scene σ}

/-- All that a tick with idle listings counts is in its report. -/
theorem progress_counts (h : follower.store.Coherent)
    (hquiet : (scene.report settings follower).Quiet) :
    Counts scene.moment (Progress.start follower.store follower.state)
      (scene.progress settings follower) := by
  have hblocks : Counts scene.moment (Progress.start follower.store follower.state)
      (scene.afterBlocks settings follower).1 :=
    ingestBlocks_counts scene.gateway scene.moment settings scene.chain _
  have haccounts : Counts scene.moment (scene.afterBlocks settings follower).1
      (scene.afterAccounts settings follower).1 :=
    indexAccounts_counts scene.gateway scene.moment settings _ _
  have hcoherent : (scene.afterAccounts settings follower).1.store.Coherent :=
    coherent_takeLookups settings scene.moment (coherent_taken h) _
  have hstatuses : Counts scene.moment (scene.afterAccounts settings follower).1
      (scene.afterStatuses settings follower).1 :=
    refreshStatuses_counts scene.gateway scene.moment (hcoherent .transaction) _
  have hstorage : ∀ change ∈ (scene.progress settings follower).report.storage,
      change = SliceChange.zero := by
    simpa only [report_eq] using hquiet.storage
  rw [progress_eq] at hstorage ⊢
  exact ((hblocks.trans haccounts).trans hstatuses).trans
    (resyncStorage_counts scene.gateway scene.moment settings _ _ hstorage)

/-- **A quiet tick leaves the store as it is**, at every moment and in the end. So the resources of
each kind are listed as before, and every poll is answered as before. -/
theorem unchanged_of_quiet (settings : Settings) (turns : List (Follower.Turn σ)) (scene : Scene σ)
    (h : (scene.report settings (Follower.initial.after settings turns)).Quiet) :
    let follower := Follower.initial.after settings turns
    (∀ n, scene.storeAt settings follower n = follower.store) ∧
    (scene.next settings follower).store = follower.store ∧
    ∀ kind, ((scene.next settings follower).store.index kind).toList =
        (follower.store.index kind).toList ∧
      ∀ query, ((scene.next settings follower).store.index kind).poll query =
          (follower.store.index kind).poll query ∧
        ∀ keep, ((scene.next settings follower).store.index kind).pollWhere query keep =
          (follower.store.index kind).pollWhere query keep := by
  intro follower
  have hquiet : (scene.report settings follower).Quiet := h
  have hcounts := progress_counts (Follower.coherent_after settings turns) hquiet
  have hcount : (scene.progress settings follower).report.count = 0 := by
    obtain ⟨hblocks, haccounts, hstatuses, -⟩ := hquiet
    simp only [report_eq] at hblocks haccounts hstatuses
    rw [Report.count]
    exact Nat.add_eq_zero_iff.mpr ⟨Nat.add_eq_zero_iff.mpr ⟨hblocks, haccounts⟩, hstatuses⟩
  have hidle : Progress.Obeys Write.Idle scene.moment
      (Progress.start follower.store follower.state) (scene.progress settings follower) :=
    hcounts.idle hcount
  have hmoments (n : Nat) : scene.storeAt settings follower n = follower.store :=
    keeps_storeAt (P := fun store => store = follower.store)
      (fun store w now hstore hw => (hw now).trans hstore) hidle (Nat.zero_le n) rfl
  have hnext : (scene.next settings follower).store = follower.store :=
    (storeAt_of_le (Nat.le_refl _)).symm.trans (hmoments _)
  rw [hnext]
  exact ⟨hmoments, rfl, fun kind => ⟨rfl, fun _ => ⟨rfl, fun _ => rfl⟩⟩⟩

/-- A tick that cannot hear of the latest height, finds one account alone, and is told of one of its
items twice. -/
def repeatingScene (seconds : Nat) : Scene Unit where
  gateway := {
    ask
      | .account address, _ =>
        (if address = "0x1" then .ok (Account.sample address 1)
          else if address = "0x2" then .error (.notFound address) else .error .transport, ())
      | .contracts _, _ => (.ok [], ())
      | .storage address, _ =>
        (.ok [StorageItem.sample address "/storage/vault",
          StorageItem.sample address "/storage/vault"], ())
      | _, _ => (.error .transport, ()) }
  chain := ()
  moment := ⟨fun n => 1000 * seconds + n, Span.ofSeconds seconds⟩

/-- Ten seconds after the first tick, the second one lists the same items again, and the lookups of
two accounts fail again. -/
theorem unchanged_of_quiet_sample :
    ((repeatingScene 10).next { Settings.standard with trackedAddresses := ["0x1", "0x2", "0x3"] }
      (Follower.initial.after { Settings.standard with trackedAddresses := ["0x1", "0x2", "0x3"] }
        [.tick (repeatingScene 0)])).store.storage.toList =
    (Follower.initial.after { Settings.standard with trackedAddresses := ["0x1", "0x2", "0x3"] }
      [.tick (repeatingScene 0)]).store.storage.toList :=
  ((unchanged_of_quiet { Settings.standard with trackedAddresses := ["0x1", "0x2", "0x3"] }
    [.tick (repeatingScene 0)] (repeatingScene 10)
    ⟨by decide +kernel, by decide +kernel, by decide +kernel, by decide +kernel⟩).2.2
      .storageItem).1

end Scene

end ChainFeed
