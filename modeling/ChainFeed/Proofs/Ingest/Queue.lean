import ChainFeed.Proofs.Ingest.Acceptance
import ChainFeed.Proofs.Ingest.Transcript

/-!
# The queue of accounts

A follower remembers little besides heights: the **queue** of accounts that wait for a lookup, and
what concerns the listings of their storage. Each stage changes what is its own.

The first stage sees addresses in blocks. A **sighting** is an address together with the id of a
block that it was observed in: as a payer, proposer or authorizer of an accepted transaction, or as
what an accepted event refers to (`FetchedBlock.observed`). Behind the sightings of a tick, an
address waits with the block of its last sighting, or as it waited before (`getElem?_see`).

The second stage takes all that waits, and all that is followed by default and not stored
(`getElem?_queueTracked`). Each lookup leaves its address off the queue or lets it wait on
(`Pending.afterLookup`), and no other address (`getElem?_takeLookups`).
-/

namespace ChainFeed

open Ingest

/-! ### Queueing -/

namespace Ingest.State

/-- What a follower remembers about the listings of storage. -/
def listings (state : State) : Option Span × Std.TreeSet String :=
  (state.lastResync, state.failedStorage)

/-- The queue behind some sightings, in order. -/
def see (sightings : List (String × String)) (state : State) : State :=
  sightings.foldl (fun state sighting => state.queue sighting.1 sighting.2) state

variable {state : State}

@[simp]
theorem listings_queue (address blockId : String) (state : State) :
    (state.queue address blockId).listings = state.listings := by
  unfold queue
  split <;> rfl

@[simp]
theorem listings_see (sightings : List (String × String)) (state : State) :
    (state.see sightings).listings = state.listings := by
  unfold see
  induction sightings generalizing state with
  | nil => rfl
  | cons sighting rest ih => rw [List.foldl_cons, ih, listings_queue]

@[simp]
theorem listings_queueUnseen (address : String) (state : State) :
    (state.queueUnseen address).listings = state.listings := by
  unfold queueUnseen
  split <;> rfl

@[simp]
theorem listings_queueTracked (settings : Settings) (store : Store) (state : State) :
    (state.queueTracked settings store).listings = state.listings := by
  unfold queueTracked
  generalize settings.trackedAddresses.filter _ = addresses
  induction addresses generalizing state with
  | nil => rfl
  | cons address addresses ih => rw [List.foldl_cons, ih, listings_queueUnseen]

theorem see_append (sightings more : List (String × String)) (state : State) :
    state.see (sightings ++ more) = (state.see sightings).see more :=
  List.foldl_append

/-- An empty address is not queued. -/
theorem queueAll_eq_see (addresses : List String) (blockId : String) (state : State) :
    state.queueAll addresses blockId =
      state.see ((addresses.filter (· ≠ "")).map fun address => (address, blockId)) := by
  unfold queueAll see
  induction addresses generalizing state with
  | nil => rfl
  | cons address rest ih =>
    rw [List.foldl_cons, ih]
    by_cases h : address = ""
    · subst h
      rw [List.filter_cons_of_neg (by simp)]
      rfl
    · rw [List.filter_cons_of_pos (by simpa using h), List.map_cons, List.foldl_cons]

/-- What is queued does not depend on the heights. -/
theorem pending_see_eq {other : State} (h : other.pending = state.pending)
    (sightings : List (String × String)) :
    (other.see sightings).pending = (state.see sightings).pending := by
  unfold see
  induction sightings generalizing state other with
  | nil => exact h
  | cons sighting rest ih =>
    refine ih ?_
    unfold queue
    dsimp only
    split
    · exact h
    · exact congrArg (·.insert sighting.1 (Pending.seenIn sighting.2)) h

/-- The block of the last sighting of an address. -/
def lastSeen? (address : String) (sightings : List (String × String)) : Option String :=
  (sightings.reverse.find? (·.1 == address)).map (·.2)

/-- An address waits with the block that it was last seen in, or else as it waited before. -/
theorem getElem?_see {sightings : List (String × String)} (h : ∀ s ∈ sightings, s.1 ≠ "")
    (state : State) (address : String) :
    (state.see sightings).pending[address]? =
      ((lastSeen? address sightings).map Pending.seenIn).or state.pending[address]? := by
  unfold see
  induction sightings using List.reverseRecOn with
  | nil => rfl
  | append_singleton rest sighting ih =>
    rw [List.forall_mem_append, List.forall_mem_singleton] at h
    have hinsert (state : State) : (state.queue sighting.1 sighting.2).pending =
        state.pending.insert sighting.1 (Pending.seenIn sighting.2) := by
      rw [queue, if_neg h.2]
    rw [List.foldl_append, List.foldl_cons, List.foldl_nil, hinsert, Std.TreeMap.getElem?_insert,
      lastSeen?, List.reverse_append, List.reverse_singleton, List.singleton_append,
      List.find?_cons]
    by_cases haddress : sighting.1 = address
    · subst haddress
      simp
    · rw [if_neg (by simpa using haddress), ih h.1, beq_eq_false_iff_ne.mpr haddress]
      rfl

/-- Addresses that are seen in one block are last seen in it. -/
theorem lastSeen?_map (addresses : List String) (blockId address : String) :
    lastSeen? address (addresses.map fun seen => (seen, blockId)) =
      if address ∈ addresses then some blockId else none := by
  rw [lastSeen?, ← List.map_reverse, List.find?_map, Option.map_map]
  change (addresses.reverse.find? fun seen => seen == address).map (fun _ => blockId) = _
  split
  · rename_i hmem
    have hfound : (addresses.reverse.find? fun seen => seen == address).isSome :=
      List.find?_isSome.mpr ⟨address, List.mem_reverse.mpr hmem, beq_self_eq_true address⟩
    obtain ⟨seen, hseen⟩ := Option.isSome_iff_exists.mp hfound
    rw [hseen]
    rfl
  · rename_i hmem
    rw [Option.map_eq_none_iff, List.find?_eq_none]
    exact fun seen hseen heq => hmem (beq_iff_eq.mp heq ▸ List.mem_reverse.mp hseen)

/-- What waits when the tracked addresses are queued. -/
theorem getElem?_queueTracked (settings : Settings) (store : Store) (state : State)
    (address : String) :
    (state.queueTracked settings store).pending[address]? =
      state.pending[address]?.or
        (if address ∈ settings.trackedAddresses ∧ ¬store.accounts.contains address then
          some Pending.unseen
        else none) := by
  have hunseen (first : String) (state : State) :
      (state.queueUnseen first).pending[address]? =
        state.pending[address]?.or (if address = first then some Pending.unseen else none) := by
    rw [queueUnseen]
    by_cases hfirst : address = first
    · subst hfirst
      rw [if_pos rfl, Std.TreeMap.contains_eq_isSome_getElem?]
      cases hget : state.pending[address]? with
      | none => simp
      | some waiting => simp [hget]
    · rw [if_neg hfirst, Option.or_none]
      split
      · rfl
      · rw [Std.TreeMap.getElem?_insert, if_neg (by simpa using Ne.symm hfirst)]
  have hfold (addresses : List String) (state : State) :
      (addresses.foldl (fun state address => state.queueUnseen address) state).pending[address]? =
        state.pending[address]?.or (if address ∈ addresses then some Pending.unseen else none) := by
    induction addresses generalizing state with
    | nil => simp
    | cons first rest ih =>
      rw [List.foldl_cons, ih, hunseen, Option.or_assoc]
      congr 1
      by_cases hfirst : address = first <;> by_cases hrest : address ∈ rest <;>
        simp [hfirst, hrest]
  rw [queueTracked, hfold]
  simp

end Ingest.State

/-! ### Sightings -/

namespace Ingest

/-- The addresses that a block is seen to concern when it is merged: those that take part in its
accepted transactions and those that its accepted events refer to. -/
def FetchedBlock.observed (fetched : FetchedBlock) (store : Store) : List String :=
  ((fetched.acceptedTransactions store).flatMap (·.participants) ++
    (fetched.acceptedEvents store).flatMap (·.reference?.toList)).filter (· ≠ "")

namespace Progress

variable {moment : Moment} {p : Progress}

theorem state_foldl_mergeTransaction (moment : Moment) (block : Block)
    (transactions : List Transaction) (p : Progress) :
    (transactions.foldl (fun p t => p.mergeTransaction moment block t) p).state =
      p.state.queueAll (transactions.flatMap (·.participants)) block.id := by
  induction transactions generalizing p with
  | nil => rfl
  | cons t rest ih =>
    rw [List.foldl_cons, ih, List.flatMap_cons, State.queueAll, State.queueAll, List.foldl_append]
    rfl

theorem state_foldl_mergeEvent (moment : Moment) (block : Block) (events : List Event)
    (p : Progress) :
    (events.foldl (fun p e => p.mergeEvent moment block e) p).state =
      p.state.queueAll (events.flatMap (·.reference?.toList)) block.id := by
  induction events generalizing p with
  | nil => rfl
  | cons e rest ih =>
    rw [List.foldl_cons, ih, List.flatMap_cons, State.queueAll, State.queueAll, List.foldl_append]
    rfl

/-- Merging a block queues what it is seen to concern. -/
theorem state_mergeBlock (moment : Moment) (h : p.store.transactions.Coherent)
    (fetched : FetchedBlock) :
    (p.mergeBlock moment fetched).state =
      p.state.see ((fetched.observed p.store).map fun address => (address, fetched.block.id)) := by
  obtain ⟨report, heq⟩ := mergeContents_eq moment h fetched
  rw [mergeBlock_eq, heq, mergeAccepted, mergeAcceptedTransactions]
  dsimp only [write]
  rw [state_foldl_mergeEvent, state_foldl_mergeTransaction, FetchedBlock.observed,
    ← State.queueAll_eq_see, State.queueAll, State.queueAll, State.queueAll, List.foldl_append]

/-- Behind a block, each account that it is seen to concern waits with the block's id. -/
theorem getElem?_pending_mergeBlock (moment : Moment) (h : p.store.transactions.Coherent)
    (fetched : FetchedBlock) (address : String) :
    (p.mergeBlock moment fetched).state.pending[address]? =
      if address ∈ fetched.observed p.store then some (Pending.seenIn fetched.block.id)
      else p.state.pending[address]? := by
  have hnonempty : ∀ s ∈ (fetched.observed p.store).map fun seen => (seen, fetched.block.id),
      s.1 ≠ "" := by
    rw [List.forall_mem_map]
    exact fun seen hseen => of_decide_eq_true (List.mem_filter.mp hseen).2
  rw [state_mergeBlock moment h, State.getElem?_see hnonempty, State.lastSeen?_map]
  split <;> rfl

theorem state_mergeHeight (moment : Moment) (h : p.store.transactions.Coherent) (height : Nat)
    (fetched : FetchedBlock) :
    (p.mergeHeight moment height fetched).state =
      { p.state.see ((fetched.observed p.store).map fun address => (address, fetched.block.id)) with
        watermark := some height } := by
  rw [mergeHeight, state_mergeBlock moment h]

/-- The sightings in blocks that are merged one by one, in order: addresses, each with the id of the
block that it is observed in. -/
def sightings (moment : Moment) : List (Nat × FetchedBlock) → Progress → List (String × String)
  | [], _ => []
  | m :: rest, p =>
    ((m.2.observed p.store).map fun address => (address, m.2.block.id)) ++
      sightings moment rest (p.mergeHeight moment m.1 m.2)

theorem ne_empty_of_mem_sightings {blocks : List (Nat × FetchedBlock)} :
    ∀ s ∈ p.sightings moment blocks, s.1 ≠ "" := by
  induction blocks generalizing p with
  | nil => exact fun s hs => absurd hs List.not_mem_nil
  | cons m rest ih =>
    refine List.forall_mem_append.mpr ⟨?_, ih⟩
    rw [List.forall_mem_map]
    exact fun address haddress => of_decide_eq_true (List.mem_filter.mp haddress).2

/-- A sighting is that of an address in a block that is seen to concern it when it is merged. -/
theorem mem_sightings_iff {blocks : List (Nat × FetchedBlock)} {address blockId : String} :
    (address, blockId) ∈ p.sightings moment blocks ↔
      ∃ done m rest, blocks = done ++ m :: rest ∧ m.2.block.id = blockId ∧
        address ∈ m.2.observed (p.mergeEach moment done).store := by
  induction blocks generalizing p with
  | nil => simp [sightings]
  | cons first others ih =>
    rw [sightings, List.mem_append, List.mem_map, ih]
    constructor
    · rintro (⟨seen, hseen, heq⟩ | ⟨done, m, rest, rfl, hid, hmem⟩)
      · obtain ⟨rfl, hid⟩ := Prod.mk.inj heq
        exact ⟨[], first, others, rfl, hid, hseen⟩
      · exact ⟨first :: done, m, rest, rfl, hid, hmem⟩
    · rintro ⟨done, m, rest, heq, hid, hmem⟩
      cases done with
      | nil =>
        obtain ⟨rfl, rfl⟩ := List.cons.inj heq
        exact .inl ⟨address, hmem, Prod.ext rfl hid⟩
      | cons head done =>
        obtain ⟨rfl, rfl⟩ := List.cons.inj heq
        exact .inr ⟨done, m, rest, rfl, hid, hmem⟩

/-- Merging blocks queues what they are seen to concern, and leaves the listings alone. -/
theorem state_mergeEach (moment : Moment) (h : p.store.Coherent)
    (blocks : List (Nat × FetchedBlock)) :
    (p.mergeEach moment blocks).state.pending =
        (p.state.see (p.sightings moment blocks)).pending ∧
      (p.mergeEach moment blocks).state.listings = p.state.listings := by
  induction blocks generalizing p with
  | nil => exact ⟨rfl, rfl⟩
  | cons m rest ih =>
    have hstate := state_mergeHeight moment (h .transaction) m.1 m.2
    have hnext : (p.mergeHeight moment m.1 m.2).store.Coherent := by
      obtain ⟨writes, hw⟩ := mergeHeight_wrote moment m.1 m.2 p
      exact hw.store ▸ h.replay _ _ _
    obtain ⟨hpending, hlistings⟩ := ih hnext
    constructor
    · refine hpending.trans ?_
      rw [sightings, State.see_append]
      exact State.pending_see_eq (by rw [hstate]) _
    · refine hlistings.trans ?_
      rw [hstate]
      exact State.listings_see _ _

/-- Merging blocks writes to three indexes. -/
theorem index_mergeEach (moment : Moment) (blocks : List (Nat × FetchedBlock)) (p : Progress)
    {kind : Kind} (hkind : kind ∉ [Kind.transaction, .event, .block]) :
    (p.mergeEach moment blocks).store.index kind = p.store.index kind := by
  induction blocks generalizing p with
  | nil => rfl
  | cons m rest ih =>
    simp only [List.mem_cons, List.not_mem_nil, or_false, not_or] at hkind
    have hcontents : (p.mergeContents moment m.2).store.index kind = p.store.index kind :=
      (mergeContents_follows moment m.2 p).index_eq (by simp [hkind.1, hkind.2.1])
    have hblock : (p.mergeHeight moment m.1 m.2).store.index kind =
        (p.mergeContents moment m.2).store.index kind :=
      Store.index_write (Ne.symm hkind.2.2)
    exact (ih _).trans (hblock.trans hcontents)

/-! ### Lookups -/

end Progress

/-- How an account waits on behind the outcome of its lookup, if it does. -/
def Pending.afterLookup (waiting : Pending) : Except GatewayError FetchedAccount → Option Pending
  | .ok _ => none
  | .error e => if e.isNotFound then waiting.afterMiss else some waiting

namespace Progress

variable {moment : Moment} {p : Progress} {settings : Settings}

theorem state_mergeAccount (settings : Settings) (moment : Moment) (waiting : Pending)
    (fetched : FetchedAccount) (p : Progress) :
    (p.mergeAccount settings moment waiting fetched).state = p.state := by
  unfold mergeAccount mergeContracts
  dsimp only
  exact List.foldlRecOn (motive := fun q : Progress => q.state = p.state) _ _ rfl
    fun _ hq _ _ => hq

/-- A lookup changes how its address waits, and nothing else. -/
theorem state_takeLookup (address : String) (waiting : Pending)
    (lookup : Except GatewayError FetchedAccount) (p : Progress) :
    (p.takeLookup settings moment address waiting lookup).state =
      match waiting.afterLookup lookup with
      | some later => { p.state with pending := p.state.pending.insert address later }
      | none => p.state := by
  cases lookup with
  | ok fetched => exact state_mergeAccount settings moment waiting fetched p
  | error e =>
    rw [takeLookup, Pending.afterLookup]
    split
    · cases waiting.afterMiss <;> rfl
    · rfl

/-- Each address waits as the outcome of its lookup says; the others wait as they did. -/
theorem getElem?_takeLookups (settings : Settings) (moment : Moment)
    {lookups : List ((String × Pending) × Except GatewayError FetchedAccount)}
    (hnodup : (lookups.map (·.1.1)).Nodup)
    (hnone : ∀ lookup ∈ lookups, p.state.pending[lookup.1.1]? = none) :
    (∀ lookup ∈ lookups, (p.takeLookups settings moment lookups).state.pending[lookup.1.1]? =
        lookup.1.2.afterLookup lookup.2) ∧
      ∀ address ∉ lookups.map (·.1.1),
        (p.takeLookups settings moment lookups).state.pending[address]? =
          p.state.pending[address]? := by
  induction lookups generalizing p with
  | nil => exact ⟨fun _ h => absurd h List.not_mem_nil, fun _ _ => rfl⟩
  | cons lookup rest ih =>
    rw [List.map_cons, List.nodup_cons] at hnodup
    rw [List.forall_mem_cons] at hnone
    obtain ⟨hself, hother⟩ : (p.takeLookup settings moment lookup.1.1 lookup.1.2
          lookup.2).state.pending[lookup.1.1]? = lookup.1.2.afterLookup lookup.2 ∧
        ∀ address, lookup.1.1 ≠ address → (p.takeLookup settings moment lookup.1.1 lookup.1.2
          lookup.2).state.pending[address]? = p.state.pending[address]? := by
      rw [state_takeLookup]
      cases lookup.1.2.afterLookup lookup.2 with
      | none => exact ⟨hnone.1, fun _ _ => rfl⟩
      | some later =>
        refine ⟨Std.TreeMap.getElem?_insert_self, fun address hne => ?_⟩
        rw [Std.TreeMap.getElem?_insert, if_neg (by simpa using hne)]
    obtain ⟨hrest, houtside⟩ := ih
      (p := p.takeLookup settings moment lookup.1.1 lookup.1.2 lookup.2) hnodup.2
      fun other hmem => by
        rw [hother _ fun heq => hnodup.1 (heq ▸ List.mem_map_of_mem (f := (·.1.1)) hmem)]
        exact hnone.2 other hmem
    constructor
    · refine List.forall_mem_cons.mpr ⟨?_, hrest⟩
      exact (houtside _ hnodup.1).trans hself
    · intro address haddress
      rw [List.map_cons, List.mem_cons, not_or] at haddress
      exact (houtside _ haddress.2).trans (hother _ (Ne.symm haddress.1))

/-- Lookups leave the listings of storage alone. -/
theorem listings_takeLookups
    (lookups : List ((String × Pending) × Except GatewayError FetchedAccount)) (p : Progress) :
    (p.takeLookups settings moment lookups).state.listings = p.state.listings := by
  refine List.foldlRecOn (motive := fun q : Progress => q.state.listings = p.state.listings) lookups
    _ rfl ?_
  intro q hq lookup _
  rw [state_takeLookup]
  cases lookup.1.2.afterLookup lookup.2 <;> exact hq

/-! ### Statuses -/

theorem state_takeStatus (stored : Transaction) (answer : Except GatewayError TransactionStatus)
    (p : Progress) : (p.takeStatus moment stored answer).state = p.state := by
  cases answer with
  | ok status =>
    rw [takeStatus]
    split
    · unfold advance
      dsimp only
      split <;> rfl
    · rfl
  | error e =>
    rw [takeStatus]
    split <;> rfl

/-- What a follower remembers does not depend on statuses. -/
theorem state_takeStatuses (answers : List (Transaction × Except GatewayError TransactionStatus))
    (p : Progress) : (p.takeStatuses moment answers).state = p.state :=
  List.foldlRecOn (motive := fun q : Progress => q.state = p.state) answers _ rfl
    fun q hq answer _ => (state_takeStatus answer.1 answer.2 q).trans hq

/-- Listing storage leaves the queue alone. -/
theorem pending_resyncStorage {σ : Type} (gateway : Gateway σ) (settings : Settings)
    (moment : Moment) (chain : σ) (p : Progress) :
    (resyncStorage gateway settings moment chain p).1.state.pending = p.state.pending := by
  unfold resyncStorage
  dsimp only
  split
  · exact pending_takeListings _ _ _
  · split
    · rfl
    · exact pending_takeListings _ _ _

end Progress

end Ingest

/-! ### The queue in a tick -/

namespace Scene

open Progress

variable {σ : Type} (settings : Settings) (follower : Follower) (scene : Scene σ)

/-- The sightings in the blocks that the tick merges, in order. -/
def sightings : List (String × String) :=
  (Progress.start follower.store (scene.heard settings follower.state)).sightings scene.moment
    (scene.merged settings follower.state)

/-- The progress of the tick when nothing has been looked up yet, and all that waits is taken off
the queue. -/
def taken : Progress :=
  { (scene.afterBlocks settings follower).1 with
    state :=
      { (scene.afterBlocks settings follower).1.state.queueTracked settings
          (scene.afterBlocks settings follower).1.store with
        pending := ∅ } }

theorem afterAccounts_eq :
    (scene.afterAccounts settings follower).1 =
      (scene.taken settings follower).takeLookups settings scene.moment
        (scene.lookups settings follower) := rfl

theorem state_afterStatuses :
    (scene.afterStatuses settings follower).1.state =
      (scene.afterAccounts settings follower).1.state :=
  state_takeStatuses _ _

variable {settings follower scene}

theorem listings_heard (settings : Settings) (state : State) :
    (scene.heard settings state).listings = state.listings := by
  unfold heard State.nextHeight
  split
  · rfl
  · split <;> rfl

/-- Behind the first stage, an address waits with the block that it was last seen in, or else as it
waited before; and the listings of storage are as they were. -/
theorem state_afterBlocks (h : follower.store.Coherent) :
    (∀ address, (scene.afterBlocks settings follower).1.state.pending[address]? =
        ((State.lastSeen? address (scene.sightings settings follower)).map Pending.seenIn).or
          follower.state.pending[address]?) ∧
      (scene.afterBlocks settings follower).1.state.listings = follower.state.listings := by
  obtain ⟨failures, heq⟩ := blockStage_eq settings follower scene
  have hstart : (Progress.start follower.store
      (scene.heard settings follower.state)).store.Coherent := h
  obtain ⟨hpending, hlistings⟩ := state_mergeEach scene.moment hstart
    (scene.merged settings follower.state)
  have hstage : (scene.afterBlocks settings follower).1 = _ := heq
  rw [hstage]
  constructor
  · intro address
    have hheard : (scene.heard settings follower.state).pending[address]? =
        follower.state.pending[address]? := by rw [pending_heard]
    dsimp only
    rw [hpending, ← hheard]
    exact State.getElem?_see ne_empty_of_mem_sightings _ address
  · exact hlistings.trans (listings_heard settings follower.state)

/-- The first stage writes to three indexes. -/
theorem index_afterBlocks {kind : Kind} (hkind : kind ∉ [Kind.transaction, .event, .block]) :
    (scene.afterBlocks settings follower).1.store.index kind = follower.store.index kind := by
  obtain ⟨failures, heq⟩ := blockStage_eq settings follower scene
  have hstage : (scene.afterBlocks settings follower).1 = _ := heq
  rw [hstage]
  exact index_mergeEach _ _ _ hkind

/-- Before the lookups, the indexes are coherent. -/
theorem coherent_taken (h : follower.store.Coherent) :
    (scene.taken settings follower).store.Coherent := by
  obtain ⟨writes, hwrote⟩ := exists_blockStage_wrote settings follower scene
  have hstore : (scene.taken settings follower).store =
      follower.store.replay scene.moment.wall 0 writes := hwrote.store
  rw [hstore]
  exact h.replay _ _ _

/-- The third stage writes to one index. -/
theorem index_afterStatuses {kind : Kind} (hkind : kind ∉ [Kind.transaction]) :
    (scene.afterStatuses settings follower).1.store.index kind =
      (scene.afterAccounts settings follower).1.store.index kind :=
  (refreshStatuses_follows scene.moment scene.gateway (scene.afterAccounts settings follower).2
    (scene.afterAccounts settings follower).1).index_eq hkind

/-- The last stage writes to one index. -/
theorem index_next {kind : Kind} (hkind : kind ∉ [Kind.storageItem]) :
    (scene.next settings follower).store.index kind =
      (scene.afterStatuses settings follower).1.store.index kind := by
  rw [next_eq, progress_eq]
  exact (resyncStorage_follows scene.moment scene.gateway settings
    (scene.afterStatuses settings follower).2
    (scene.afterStatuses settings follower).1).index_eq hkind

/-- **What a tick looks up**: an address that is seen in it, one that waits, or one that is followed
by default and not stored. -/
theorem getElem?_waiting (h : follower.store.Coherent) (address : String) :
    (scene.waiting settings follower)[address]? =
      ((State.lastSeen? address (scene.sightings settings follower)).map Pending.seenIn).or
        (follower.state.pending[address]?.or
          (if address ∈ settings.trackedAddresses ∧ ¬follower.store.accounts.contains address then
            some Pending.unseen
          else none)) := by
  have haccounts : (scene.afterBlocks settings follower).1.store.accounts =
      follower.store.accounts :=
    index_afterBlocks (by decide : Kind.account ∉ [Kind.transaction, .event, .block])
  rw [waiting, State.getElem?_queueTracked, (state_afterBlocks h).1, haccounts, Option.or_assoc]

theorem map_fst_lookups :
    (scene.lookups settings follower).map (·.1) = (scene.waiting settings follower).toList :=
  map_fst_askEach _ _ _

/-- No address is looked up twice. -/
theorem nodup_lookups : ((scene.lookups settings follower).map (·.1.1)).Nodup := by
  have hkeys : ((scene.waiting settings follower).toList.map Prod.fst).Nodup := by
    rw [Std.TreeMap.map_fst_toList_eq_keys]
    exact Std.TreeMap.distinct_keys.imp fun hne heq => hne (Std.compare_eq_iff_eq.mpr heq)
  rw [← map_fst_lookups, List.map_map] at hkeys
  exact hkeys

/-- An address is looked up as it waits. -/
theorem mem_lookups_iff {address : String} {waiting : Pending} :
    (∃ outcome, ((address, waiting), outcome) ∈ scene.lookups settings follower) ↔
      (scene.waiting settings follower)[address]? = some waiting := by
  rw [← Std.TreeMap.mem_toList_iff_getElem?_eq_some, ← map_fst_lookups, List.mem_map]
  constructor
  · rintro ⟨outcome, hmem⟩
    exact ⟨_, hmem, rfl⟩
  · rintro ⟨⟨_, outcome⟩, hmem, rfl⟩
    exact ⟨outcome, hmem⟩

/-- Behind the second stage, the queue is what the tick leaves. -/
theorem pending_next :
    (scene.next settings follower).state.pending =
      (scene.afterAccounts settings follower).1.state.pending := by
  rw [next_eq]
  dsimp only
  rw [progress_eq, pending_resyncStorage, state_afterStatuses]

/-- **How accounts wait behind a tick.** -/
theorem getElem?_pending_next :
    (∀ lookup ∈ scene.lookups settings follower,
        (scene.next settings follower).state.pending[lookup.1.1]? =
          lookup.1.2.afterLookup lookup.2) ∧
      ∀ address : String, (scene.waiting settings follower)[address]? = none →
        (scene.next settings follower).state.pending[address]? = none := by
  have hempty (address : String) : (scene.taken settings follower).state.pending[address]? = none :=
    Std.TreeMap.getElem?_emptyc
  have hnone : ∀ lookup ∈ scene.lookups settings follower,
      (scene.taken settings follower).state.pending[lookup.1.1]? = none := fun _ _ => hempty _
  rw [pending_next, afterAccounts_eq]
  obtain ⟨hlookups, hothers⟩ := getElem?_takeLookups settings scene.moment nodup_lookups hnone
  refine ⟨hlookups, fun address hnone => (hothers address fun hmem => ?_).trans (hempty address)⟩
  obtain ⟨lookup, hlookup, rfl⟩ := List.mem_map.mp hmem
  rw [mem_lookups_iff.mp ⟨_, hlookup⟩] at hnone
  cases hnone

/-- Before storage is listed, the listings are as they were. -/
theorem listings_afterStatuses (h : follower.store.Coherent) :
    (scene.afterStatuses settings follower).1.state.listings = follower.state.listings := by
  rw [state_afterStatuses, afterAccounts_eq, listings_takeLookups]
  exact (State.listings_queueTracked settings _ _).trans (state_afterBlocks h).2

theorem lastResync_afterStatuses (h : follower.store.Coherent) :
    (scene.afterStatuses settings follower).1.state.lastResync = follower.state.lastResync :=
  (Prod.mk.inj (listings_afterStatuses h)).1

theorem failedStorage_afterStatuses (h : follower.store.Coherent) :
    (scene.afterStatuses settings follower).1.state.failedStorage =
      follower.state.failedStorage :=
  (Prod.mk.inj (listings_afterStatuses h)).2

end Scene

end ChainFeed
