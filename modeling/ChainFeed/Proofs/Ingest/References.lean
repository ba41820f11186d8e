import ChainFeed.Proofs.Index.Content
import ChainFeed.Proofs.Ingest.Turns

/-!
# Links between stored resources

A transaction names the block that it is in, and an event names the transaction that emitted it. An
account or a contract names the block that it was last seen in, unless it was seen in none. A store
is **closed** if all these links lead to stored resources (`Store.Closed`).

The store of a follower is closed after any ticks and resets, whatever the gateways answer
(`Follower.closed_after`). Between two writes of a tick the links are those of a closed store, but
for the block that is being merged, which is stored behind what it carries; so the invariant of a
store is relative to that block (`Store.Linked`). An account that waits for a lookup will be stored
with the block id that it waits with, so the queue is part of the invariant of a tick
(`Progress.Linked`).
-/

namespace ChainFeed

open Ingest

/-! ### Known blocks -/

namespace Store

/-- The id is that of a stored block, or of the one being merged. -/
def Knows (merging : Option String) (store : Store) (id : String) : Prop :=
  store.blocks.contains id ∨ merging = some id

/-- The id is empty or that of a known block. -/
def Admits (merging : Option String) (store : Store) (id : String) : Prop :=
  id = "" ∨ store.Knows merging id

variable {merging : Option String} {store : Store} {now : Nat} {w : Write} {id : String}

/-- No write removes a block. -/
theorem contains_blocks_write (h : store.blocks.contains id) :
    (store.write now w).blocks.contains id := by
  cases w with
  | block => exact Index.contains_merge (.inl h)
  | _ => exact h

/-- No write removes a transaction. -/
theorem contains_transactions_write (h : store.transactions.contains id) :
    (store.write now w).transactions.contains id := by
  cases w with
  | transaction => exact Index.contains_merge (.inl h)
  | status => exact Index.contains_update h
  | _ => exact h

/-- No write removes an event. -/
theorem contains_events_write (h : store.events.contains id) :
    (store.write now w).events.contains id := by
  cases w with
  | event => exact Index.contains_merge (.inl h)
  | _ => exact h

theorem Knows.write (h : store.Knows merging id) : (store.write now w).Knows merging id :=
  h.imp_left contains_blocks_write

theorem Admits.write (h : store.Admits merging id) : (store.write now w).Admits merging id :=
  h.imp_right Knows.write

theorem Admits.of_blocks_eq {later : Store} (h : store.Admits merging id)
    (heq : later.blocks = store.blocks) : later.Admits merging id := by
  rw [Admits, Knows, heq]
  exact h

end Store

/-! ### Links of a store -/

/-- The links of what is written lead to stored resources, or to the block being merged. -/
def Write.Linked (merging : Option String) (store : Store) : Write → Prop
  | .transaction t => store.Knows merging t.blockId
  | .event e => store.transactions.contains e.transactionId
  | .account a => store.Admits merging a.blockId
  | .contract c => store.Admits merging c.blockId
  | .block _ | .status .. | .item _ | .noItem _ => True

/-- An item of an account's storage has no links. -/
theorem Write.linked_of_kind {merging : Option String} {store : Store} {w : Write}
    (h : w.kind = .storageItem) : w.Linked merging store := by
  cases w with
  | item => trivial
  | noItem => trivial
  | _ => cases h

/-- The links of the store lead to stored resources, or to the block being merged. -/
structure Store.Linked (merging : Option String) (store : Store) : Prop where
  /-- The block of a transaction is known. -/
  transactions : store.transactions.All fun t => store.Knows merging t.blockId
  /-- The transaction of an event is stored. -/
  events : store.events.All fun e => store.transactions.contains e.transactionId
  /-- The block that an account was last seen in is known, if there is one. -/
  accounts : store.accounts.All fun a => store.Admits merging a.blockId
  /-- The block that a contract was last seen in is known, if there is one. -/
  contracts : store.contracts.All fun c => store.Admits merging c.blockId

namespace Store.Linked

variable {merging other : Option String} {store : Store}

theorem clear (store : Store) : store.clear.Linked merging :=
  ⟨.clear _, .clear _, .clear _, .clear _⟩

/-- Links to known blocks are links to whatever is known besides. -/
theorem mono (h : store.Linked merging)
    (hknows : ∀ id, store.Knows merging id → store.Knows other id) : store.Linked other where
  transactions := h.transactions.mono fun t => hknows t.blockId
  events := h.events
  accounts := h.accounts.mono fun a => Or.imp_right (hknows a.blockId)
  contracts := h.contracts.mono fun c => Or.imp_right (hknows c.blockId)

/-- **A write keeps the links if its own links are right.** -/
theorem write (h : store.Linked merging) {w : Write} (hw : w.Linked merging store) (now : Nat) :
    (store.write now w).Linked merging := by
  cases w with
  | account a =>
    exact { h with accounts := h.accounts.merge (fun _ => hw) fun _ _ _ => hw }
  | block b =>
    exact {
      transactions := h.transactions.mono fun _ => Knows.write
      events := h.events
      accounts := h.accounts.mono fun _ => Admits.write
      contracts := h.contracts.mono fun _ => Admits.write }
  | transaction t =>
    exact { h with
      transactions := h.transactions.merge (fun _ => hw) fun _ _ _ => hw
      events := h.events.mono fun _ => contains_transactions_write }
  | status id status =>
    exact { h with
      transactions := h.transactions.update fun _ _ hstored => hstored
      events := h.events.mono fun _ => contains_transactions_write }
  | event e =>
    -- a stored event keeps its transaction, whatever the new one names
    exact { h with events := h.events.merge (fun _ => hw) fun _ _ hstored => hstored }
  | contract c =>
    exact { h with contracts := h.contracts.merge (fun _ => hw) fun _ _ _ => hw }
  | item item => exact { h with }
  | noItem id => exact { h with }

/-- A journal keeps the links if those of its writes are right in any store. -/
theorem replay (h : store.Linked merging) {writes : List Write}
    (hw : ∀ w ∈ writes, ∀ store, w.Linked merging store) (wall : Nat → Nat) (first : Nat) :
    (store.replay wall first writes).Linked merging := by
  induction writes generalizing first store with
  | nil => exact h
  | cons w writes ih =>
    rw [List.forall_mem_cons] at hw
    exact ih (h.write (hw.1 store) _) hw.2 _

end Store.Linked

/-- Every link between the stored resources leads to a stored resource. -/
structure Store.Closed (store : Store) : Prop where
  /-- The block that a transaction names is stored. -/
  transactions : ∀ t ∈ store.transactions.toList, ∃ b ∈ store.blocks.toList, b.id = t.blockId
  /-- The transaction that an event names is stored. -/
  events : ∀ e ∈ store.events.toList, ∃ t ∈ store.transactions.toList, t.id = e.transactionId
  /-- An account names a stored block, or none. -/
  accounts : ∀ a ∈ store.accounts.toList,
    a.blockId = "" ∨ ∃ b ∈ store.blocks.toList, b.id = a.blockId
  /-- A contract names a stored block, or none. -/
  contracts : ∀ c ∈ store.contracts.toList,
    c.blockId = "" ∨ ∃ b ∈ store.blocks.toList, b.id = c.blockId

/-- While no block is being merged, coherent indexes with right links make a closed store. -/
theorem Store.Linked.closed {store : Store} (h : store.Linked none) (hcoherent : store.Coherent) :
    store.Closed := by
  have hblock {id : String} (hid : store.Knows none id) : ∃ b ∈ store.blocks.toList, b.id = id :=
    (hcoherent .block).contains_iff.mp (hid.resolve_right (Option.some_ne_none id).symm)
  have hnone {id : String} (hid : store.Admits none id) :
      id = "" ∨ ∃ b ∈ store.blocks.toList, b.id = id :=
    hid.imp_right hblock
  constructor
  · exact fun t ht => hblock (h.transactions.of_mem_toList ht)
  · exact fun e he => (hcoherent .transaction).contains_iff.mp (h.events.of_mem_toList he)
  · exact fun a ha => hnone (h.accounts.of_mem_toList ha)
  · exact fun c hc => hnone (h.contracts.of_mem_toList hc)

namespace Ingest

namespace Progress

/-! ### Links of a moment -/

/-- The links of the store are right, and so are those that queued accounts will be stored with. -/
structure Linked (merging : Option String) (p : Progress) : Prop where
  /-- The links of the store are right. -/
  store : p.store.Linked merging
  /-- The block that a queued account was last seen in is known, if there is one. -/
  pending {address : String} {waiting : Pending} :
    p.state.pending[address]? = some waiting → p.store.Admits merging waiting.blockId

variable {moment : Moment} {merging other : Option String} {p q : Progress}

namespace Linked

/-- Nothing but the store and the queue matters. -/
theorem of_eq (h : p.Linked merging) (hstore : q.store = p.store)
    (hpending : q.state.pending = p.state.pending) : q.Linked merging := by
  constructor
  · rw [hstore]
    exact h.store
  · rw [hstore, hpending]
    exact h.pending

/-- Nothing but the store matters while no account is queued. -/
theorem of_pending_eq (hstore : p.store.Linked merging) (hpending : p.state.pending = ∅) :
    p.Linked merging := by
  refine ⟨hstore, ?_⟩
  intro address waiting hwaiting
  rw [hpending, Std.TreeMap.getElem?_emptyc] at hwaiting
  cases hwaiting

theorem mono (h : p.Linked merging)
    (hknows : ∀ id, p.store.Knows merging id → p.store.Knows other id) : p.Linked other :=
  ⟨h.store.mono hknows, fun hwaiting => (h.pending hwaiting).imp_right (hknows _)⟩

theorem write (h : p.Linked merging) {w : Write} (hw : w.Linked merging p.store) :
    (p.write moment w).Linked merging :=
  ⟨h.store.write hw _, fun hwaiting => (h.pending hwaiting).write⟩

/-- An account may be queued with a block that is known, or with none. -/
theorem insert (h : p.Linked merging) {waiting : Pending}
    (hwaiting : p.store.Admits merging waiting.blockId) (address : String) :
    (p.remember fun state =>
      { state with pending := state.pending.insert address waiting }).Linked merging := by
  refine ⟨h.store, ?_⟩
  intro target found hfound
  replace hfound : (p.state.pending.insert address waiting)[target]? = some found := hfound
  rw [Std.TreeMap.getElem?_insert] at hfound
  split at hfound
  · obtain rfl := Option.some.inj hfound
    exact hwaiting
  · exact h.pending hfound

theorem queueAll (h : p.Linked merging) {blockId : String} (hblock : p.store.Knows merging blockId)
    (addresses : List String) :
    (p.remember (·.queueAll addresses blockId)).Linked merging := by
  induction addresses generalizing p with
  | nil => exact h
  | cons address addresses ih =>
    refine ih (p := p.remember (·.queue address blockId)) ?_ hblock
    rw [remember, State.queue]
    split
    · exact h
    · exact h.insert (.inr hblock) address

theorem queueTracked (h : p.Linked merging) (settings : Settings) :
    (p.remember (·.queueTracked settings p.store)).Linked merging := by
  have hqueue (address : String) (state : State)
      (h : ({ p with state } : Progress).Linked merging) :
      ({ p with state := state.queueUnseen address } : Progress).Linked merging := by
    rw [State.queueUnseen]
    split
    · exact h
    · exact h.insert (.inl rfl) address
  exact List.foldlRecOn (motive := fun state => ({ p with state } : Progress).Linked merging) _ _ h
    fun state hstate address _ => hqueue address state hstate

end Linked

/-! ### Merging blocks -/

variable {block : Block}

/-- A transaction can be merged if it has an id and names a known block. -/
theorem transactionFlaw?_eq_none_iff {t : Transaction} :
    p.transactionFlaw? block t = none ↔ t.id ≠ "" ∧ p.store.Knows (some block.id) t.blockId := by
  rw [transactionFlaw?, Store.Knows, Option.some_inj, eq_comm (a := block.id)]
  split_ifs with hid hblock hstored <;> simp [*]

/-- An event can be merged if it has an id and its transaction was merged or is stored. -/
theorem eventFlaw?_eq_none_iff {merged : List String} {e : Event} :
    p.eventFlaw? merged e = none ↔
      e.id ≠ "" ∧ (e.transactionId ∈ merged ∨ p.store.transactions.contains e.transactionId) := by
  rw [eventFlaw?]
  split_ifs with hid hmerged hstored <;> simp_all

/-- A transaction is merged as it is, but for its status. -/
theorem exists_settled_eq (t : Transaction) : ∃ status, p.settled t = { t with status } := by
  unfold settled
  split
  · split
    · exact ⟨t.status, rfl⟩
    · exact ⟨_, rfl⟩
  · exact ⟨t.status, rfl⟩

theorem id_settled (t : Transaction) : (p.settled t).id = t.id := by
  obtain ⟨status, heq⟩ := p.exists_settled_eq t
  rw [heq]

theorem blockId_settled (t : Transaction) : (p.settled t).blockId = t.blockId := by
  obtain ⟨status, heq⟩ := p.exists_settled_eq t
  rw [heq]

theorem transactionId_placed (e : Event) : (placed block e).transactionId = e.transactionId := by
  unfold placed
  split <;> rfl

theorem mergeTransaction_linked (h : p.Linked (some block.id)) {t : Transaction}
    (ht : p.store.Knows (some block.id) t.blockId) :
    (p.mergeTransaction moment block t).Linked (some block.id) := by
  refine (h.queueAll (.inr rfl) t.participants).write ?_
  show p.store.Knows (some block.id) (p.settled t).blockId
  rw [blockId_settled]
  exact ht

/-- The transactions of a block leave the links right, and those that were merged are stored. -/
theorem mergeTransactions_linked (moment : Moment) (h : p.Linked (some block.id))
    {merged : List String} (hmerged : ∀ id ∈ merged, p.store.transactions.contains id)
    (transactions : List Transaction) :
    (p.mergeTransactions moment block merged transactions).2.Linked (some block.id) ∧
      ∀ id ∈ (p.mergeTransactions moment block merged transactions).1,
        (p.mergeTransactions moment block merged
          transactions).2.store.transactions.contains id := by
  induction transactions generalizing merged p with
  | nil => exact ⟨h, hmerged⟩
  | cons t rest ih =>
    rw [mergeTransactions]
    split
    · exact ih (p := p.skip _) (h.of_eq rfl rfl) hmerged
    · rename_i hflaw
      refine ih (mergeTransaction_linked h (transactionFlaw?_eq_none_iff.mp hflaw).2) ?_
      rw [List.forall_mem_cons]
      exact ⟨Index.contains_merge (.inr (id_settled t)),
        fun id hid => Store.contains_transactions_write (hmerged id hid)⟩

theorem mergeEvent_linked (h : p.Linked (some block.id)) {e : Event}
    (he : p.store.transactions.contains e.transactionId) :
    (p.mergeEvent moment block e).Linked (some block.id) := by
  refine (h.queueAll (.inr rfl) e.reference?.toList).write ?_
  show p.store.transactions.contains (placed block e).transactionId
  rw [transactionId_placed]
  exact he

theorem mergeEvents_linked (h : p.Linked (some block.id)) {merged : List String}
    (hmerged : ∀ id ∈ merged, p.store.transactions.contains id) (events : List Event) :
    (p.mergeEvents moment block merged events).Linked (some block.id) := by
  induction events generalizing p with
  | nil => exact h
  | cons e rest ih =>
    rw [mergeEvents]
    split
    · exact ih (p := p.skip _) (h.of_eq rfl rfl) hmerged
    · rename_i hflaw
      refine ih (mergeEvent_linked h ?_) hmerged
      exact (eventFlaw?_eq_none_iff.mp hflaw).2.elim (hmerged _) id

/-- **Merging a block keeps the links right.** What it carries may name it before it is stored. -/
theorem mergeBlock_linked (h : p.Linked none) (fetched : FetchedBlock) :
    (p.mergeBlock moment fetched).Linked none := by
  have hopen : p.Linked (some fetched.block.id) := by
    refine h.mono fun id hid => .inl (hid.resolve_right ?_)
    exact (Option.some_ne_none id).symm
  obtain ⟨htransactions, hmerged⟩ := mergeTransactions_linked moment hopen
    (fun id hid => absurd hid List.not_mem_nil) fetched.contents.transactions
  have hcontents : (p.mergeContents moment fetched).Linked (some fetched.block.id) :=
    mergeEvents_linked htransactions hmerged _
  have hblock : (p.mergeBlock moment fetched).Linked (some fetched.block.id) :=
    hcontents.write trivial
  have hstored : (p.mergeBlock moment fetched).store.blocks.contains fetched.block.id :=
    Index.contains_merge (.inr rfl)
  -- the one block that counted as known before it was stored is stored now
  refine hblock.mono fun id hid => .inl ?_
  rcases hid with hid | hid
  · exact hid
  · exact Option.some.inj hid ▸ hstored

/-- A transaction of a block that is not known is skipped, and so are its events. -/
example :
    let p := (Progress.start Store.empty State.initial).mergeBlock ⟨fun _ => 0, Span.zero⟩
      ⟨Block.sample 1,
        [.sample "a" (Block.sampleId 1) "0x1", .sample "b" (Block.sampleId 2) "0x1"],
        [.sample "a" 0 "Sent", .sample "b" 0 "Sent"]⟩
    p.store.transactions.toList.map (·.id) = ["a"] ∧
      p.store.events.toList.map (·.id) = ["a.0"] ∧ p.report.skippedRecords = 2 := by
  decide +kernel

theorem mergeEach_linked (h : p.Linked none) (blocks : List (Nat × FetchedBlock)) :
    (p.mergeEach moment blocks).Linked none :=
  List.foldlRecOn blocks _ h fun _ hq m _ => (mergeBlock_linked hq m.2).of_eq rfl rfl

/-! ### Looking up accounts -/

/-- The block that a looked-up account is stored with is known, if there is one. -/
theorem admits_lastSeenIn (h : p.Linked none) {waiting : Pending}
    (hwaiting : p.store.Admits none waiting.blockId) (account : Account) :
    p.store.Admits none (p.lastSeenIn waiting account) := by
  unfold lastSeenIn
  split
  · cases hstored : p.store.accounts.get? account.id with
    | none => exact .inl rfl
    | some stored => exact h.store.accounts _ stored hstored
  · exact hwaiting

theorem mergeContracts_linked (h : p.Linked merging) {contracts : List Contract}
    (hcontracts : ∀ c ∈ contracts, p.store.Admits merging c.blockId) :
    (p.mergeContracts moment contracts).Linked merging := by
  induction contracts generalizing p with
  | nil => exact h
  | cons c rest ih =>
    rw [List.forall_mem_cons] at hcontracts
    exact ih (h.write hcontracts.1) fun c hc => (hcontracts.2 c hc).write

theorem mergeAccount_linked (h : p.Linked none) {waiting : Pending}
    (hwaiting : p.store.Admits none waiting.blockId) (settings : Settings)
    (fetched : FetchedAccount) :
    (p.mergeAccount settings moment waiting fetched).Linked none := by
  have hseen := admits_lastSeenIn h hwaiting fetched.account
  have haccount (a : Account) (ha : p.store.Admits none a.blockId) :
      (p.write moment (.account a)).Linked none := h.write ha
  refine mergeContracts_linked (haccount _ hseen) ?_
  rw [List.forall_mem_map]
  exact fun _ _ => hseen.write

/-- A lookup in vain does not change the block that an account was last seen in. -/
theorem blockId_afterMiss {waiting later : Pending} (h : waiting.afterMiss = some later) :
    later.blockId = waiting.blockId := by
  unfold Pending.afterMiss at h
  split at h
  · obtain rfl := Option.some.inj h
    rfl
  · cases h

theorem takeLookup_linked (h : p.Linked none) {waiting : Pending}
    (hwaiting : p.store.Admits none waiting.blockId) (settings : Settings) (address : String)
    (lookup : Except GatewayError FetchedAccount) :
    (p.takeLookup settings moment address waiting lookup).Linked none := by
  cases lookup with
  | ok fetched => exact (mergeAccount_linked h hwaiting settings fetched).of_eq rfl rfl
  | error e =>
    dsimp only [takeLookup]
    split
    · split
      · rename_i later hlater
        exact h.insert (blockId_afterMiss hlater ▸ hwaiting) address
      · exact h
    · have hfail : (p.fail .accounts address (.gateway e)).Linked none := h.of_eq rfl rfl
      exact hfail.insert hwaiting address

/-- Lookups of accounts that wait with known blocks, or with none, keep the links right. -/
theorem takeLookups_linked (h : p.Linked none) (settings : Settings)
    {lookups : List ((String × Pending) × Except GatewayError FetchedAccount)}
    (hlookups : ∀ lookup ∈ lookups, p.store.Admits none lookup.1.2.blockId) :
    (p.takeLookups settings moment lookups).Linked none := by
  induction lookups generalizing p with
  | nil => exact h
  | cons lookup rest ih =>
    rw [List.forall_mem_cons] at hlookups
    refine ih (takeLookup_linked h hlookups.1 settings lookup.1.1 lookup.2) ?_
    intro other hother
    have hfollows : Follows moment [.account, .contract] p
        (p.takeLookup settings moment lookup.1.1 lookup.1.2 lookup.2) :=
      takeLookup_follows _ _ _ _ _
    -- no block is stored while accounts are looked up
    exact (hlookups.2 other hother).of_blocks_eq
      (hfollows.index_eq (by decide : Kind.block ∉ [Kind.account, Kind.contract]))

/-! ### Statuses and storage -/

theorem takeStatus_linked (h : p.Linked none) (stored : Transaction)
    (answer : Except GatewayError TransactionStatus) :
    (p.takeStatus moment stored answer).Linked none := by
  cases answer with
  | ok status =>
    dsimp only [takeStatus]
    split
    · have hwrite : (p.write moment (.status stored.id status)).Linked none := h.write trivial
      unfold advance
      dsimp only
      split <;> exact hwrite.of_eq rfl rfl
    · exact h
  | error e =>
    dsimp only [takeStatus]
    split
    · exact h
    · exact h.of_eq rfl rfl

/-- Listings of storage leave the queue alone. -/
theorem pending_takeListings (listings : List (String × Except GatewayError (List StorageItem)))
    (total : SliceChange) (p : Progress) :
    (p.takeListings moment listings total).2.state.pending = p.state.pending := by
  induction listings generalizing total p with
  | nil => rfl
  | cons listing rest ih =>
    refine (ih _ _).trans ?_
    cases listing.2 <;> rfl

/-- Writes to the storage index leave the links alone. -/
theorem Linked.of_follows (h : p.Linked merging) (hfollows : Follows moment [.storageItem] p q)
    (hpending : q.state.pending = p.state.pending) : q.Linked merging := by
  obtain ⟨writes, hw, hkinds⟩ := hfollows.wrote
  have hright : ∀ w ∈ writes, ∀ store, w.Linked merging store := fun w hmem store =>
    Write.linked_of_kind (List.mem_singleton.mp (hkinds w hmem))
  have hstore : q.store.Linked merging := hw.store ▸ h.store.replay hright _ _
  refine ⟨hstore, ?_⟩
  intro address waiting hwaiting
  rw [hpending] at hwaiting
  exact (h.pending hwaiting).of_blocks_eq
    (hfollows.index_eq (by decide : Kind.block ∉ [Kind.storageItem]))

end Progress

/-! ### Stages -/

section

open Progress

variable {σ : Type} {moment : Moment} {p : Progress} (gateway : Gateway σ) (settings : Settings)
  (chain : σ)

theorem indexAccounts_linked (h : p.Linked none) :
    (indexAccounts gateway settings moment chain p).1.Linked none := by
  have htracked := h.queueTracked settings
  have htaken : ({ p with state :=
      { p.state.queueTracked settings p.store with pending := ∅ } } : Progress).Linked none :=
    .of_pending_eq h.store rfl
  refine takeLookups_linked htaken settings ?_
  intro lookup hlookup
  -- each account is looked up as it was queued
  have hqueued := List.mem_map_of_mem (f := Prod.fst) hlookup
  rw [map_fst_askEach, Std.TreeMap.mem_toList_iff_getElem?_eq_some] at hqueued
  exact htracked.pending hqueued

theorem refreshStatuses_linked (h : p.Linked none) :
    (refreshStatuses gateway moment chain p).1.Linked none :=
  List.foldlRecOn _ _ h fun _ hq answer _ => takeStatus_linked hq answer.1 answer.2

theorem resyncStorage_linked (h : p.Linked none) :
    (resyncStorage gateway settings moment chain p).1.Linked none := by
  refine h.of_follows (resyncStorage_follows moment gateway settings chain p) ?_
  unfold resyncStorage
  dsimp only
  split
  · exact pending_takeListings _ _ _
  · split
    · rfl
    · exact pending_takeListings _ _ _

end

end Ingest

/-! ### Turns -/

/-- Hearing of the latest height does not change the queue. -/
theorem Scene.pending_heard {σ : Type} {settings : Settings} {state : Ingest.State}
    {scene : Scene σ} : (scene.heard settings state).pending = state.pending := by
  unfold heard State.nextHeight
  split
  · rfl
  · split <;> rfl

namespace Follower

open Progress

variable {σ : Type} {settings : Settings}

/-- The links of the follower's store are right, and so are those that queued accounts will be
stored with. -/
def Linked (follower : Follower) : Prop :=
  (Progress.start follower.store follower.state).Linked none

theorem Linked.initial : initial.Linked :=
  .of_pending_eq (Store.Linked.clear Store.empty) rfl

theorem Linked.reset (follower : Follower) : follower.reset.Linked :=
  .of_pending_eq (.clear _) rfl

/-- A tick leaves the store and the queue that it ends with. -/
theorem Linked.of_progress {p : Progress} (h : p.Linked none) :
    Linked ⟨p.store, p.state⟩ :=
  h.of_eq rfl rfl

/-- **A tick keeps the links right, whatever the gateway answers.** -/
theorem Linked.next {follower : Follower} (h : follower.Linked) (settings : Settings)
    (scene : Scene σ) : (scene.next settings follower).Linked := by
  obtain ⟨failures, hstage⟩ := Scene.blockStage_eq settings follower scene
  have hheard : (Progress.start follower.store
      (scene.heard settings follower.state)).Linked none :=
    h.of_eq rfl Scene.pending_heard
  have hblocks : (scene.blockStage settings follower).Linked none := by
    rw [hstage]
    exact (mergeEach_linked hheard _).of_eq rfl rfl
  have hprogress : (scene.progress settings follower).Linked none := by
    rw [Scene.progress, run_eq]
    exact resyncStorage_linked _ _ _
      (refreshStatuses_linked _ _ (indexAccounts_linked _ _ _ hblocks))
  rw [Scene.next_eq]
  exact .of_progress hprogress

theorem linked_after (settings : Settings) (turns : List (Turn σ)) :
    (initial.after settings turns).Linked :=
  after_induction .initial (fun scene _ h => h.next settings scene)
    (fun follower _ => .reset follower) turns

/-- **No link dangles.** Whatever the gateways answer, malformed records included, the store of a
follower is closed after any ticks and resets. -/
theorem closed_after (settings : Settings) (turns : List (Turn σ)) :
    (initial.after settings turns).store.Closed :=
  (linked_after settings turns).store.closed (coherent_after settings turns)

end Follower

end ChainFeed
