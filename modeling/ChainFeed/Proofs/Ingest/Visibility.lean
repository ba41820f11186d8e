import ChainFeed.Proofs.Ingest.Acceptance
import ChainFeed.Proofs.Ingest.Moments

/-!
# A block is seen behind what it carries

While a tick is under way, a reader sees the store after some of its writes. Between two writes the
tick may be in the middle of **merging** a block (`Scene.mergingAt`); at most one, since blocks are
merged one by one.

At every moment the links between the stored resources are those of a store where that block counts
as known (`Scene.linked_storeAt`): each write obeys this rule, whichever stage makes it. And as soon
as a block is seen that was not stored before, the records that it is merged with are seen too
(`Scene.contents_storeAt`). `Follower.contents_before_block` puts both together for the ticks of a
follower after any turns.
-/

namespace ChainFeed

open Ingest

namespace Ingest.Progress

variable {σ : Type} {moment : Moment} {merging : Option String} {p q : Progress}

/-! ### Writes of a block -/

variable {block : Block}

theorem mergeTransactions_obeys (block : Block) (merged : List String)
    (transactions : List Transaction) (p : Progress) :
    Obeys (Write.Linked (some block.id)) moment p
      (p.mergeTransactions moment block merged transactions).2 := by
  induction transactions generalizing merged p with
  | nil => exact .refl p
  | cons t rest ih =>
    rw [mergeTransactions]
    split
    · exact (Obeys.skip _ p).trans (ih _ _)
    · rename_i hflaw
      have hlink : Write.Linked (some block.id) p.store (.transaction (p.settled t)) := by
        rw [Write.Linked, blockId_settled]
        exact (transactionFlaw?_eq_none_iff.mp hflaw).2
      exact ((Obeys.remember _ p).trans (.write hlink)).trans (ih _ _)

theorem mergeEvents_obeys (block : Block) {merged : List String} (events : List Event)
    (h : ∀ id ∈ merged, p.store.transactions.contains id) :
    Obeys (Write.Linked (some block.id)) moment p (p.mergeEvents moment block merged events) := by
  induction events generalizing p with
  | nil => exact .refl p
  | cons e rest ih =>
    rw [mergeEvents]
    split
    · exact (Obeys.skip _ p).trans (ih (p := p.skip _) h)
    · rename_i hflaw
      have hlink : Write.Linked (some block.id) p.store (.event (placed block e)) := by
        rw [Write.Linked, transactionId_placed]
        exact (eventFlaw?_eq_none_iff.mp hflaw).2.elim (h _) id
      exact ((Obeys.remember _ p).trans (.write hlink)).trans
        (ih (p := p.mergeEvent moment block e) h)

/-- A block is merged by writes whose links lead to stored resources or to the block itself. -/
theorem mergeHeight_obeys (moment : Moment) (h : p.Linked none) (height : Nat)
    (fetched : FetchedBlock) :
    Obeys (Write.Linked (some fetched.block.id)) moment p
      (p.mergeHeight moment height fetched) := by
  have hopen : p.Linked (some fetched.block.id) :=
    h.mono fun id hid => .inl (hid.resolve_right (Option.some_ne_none id).symm)
  have hmerged := (mergeTransactions_linked moment hopen (fun id hid => absurd hid List.not_mem_nil)
    fetched.contents.transactions).2
  have hcontents : Obeys (Write.Linked (some fetched.block.id)) moment p
      (p.mergeContents moment fetched) :=
    (mergeTransactions_obeys fetched.block [] fetched.contents.transactions p).trans
      (mergeEvents_obeys fetched.block _ hmerged)
  have hblock : Obeys (Write.Linked (some fetched.block.id)) moment (p.mergeContents moment fetched)
      ((p.mergeContents moment fetched).write moment (.block fetched.block)) := .write trivial
  exact (hcontents.trans hblock).trans (.of_eq rfl rfl)

theorem mergeHeight_linked (h : p.Linked none) (height : Nat) (fetched : FetchedBlock) :
    (p.mergeHeight moment height fetched).Linked none :=
  (mergeBlock_linked h fetched).of_eq rfl rfl

/-! ### Writes of the other stages -/

theorem mergeContracts_obeys (contracts : List Contract)
    (h : ∀ c ∈ contracts, p.store.Admits merging c.blockId) :
    Obeys (Write.Linked merging) moment p (p.mergeContracts moment contracts) := by
  induction contracts generalizing p with
  | nil => exact .refl p
  | cons c rest ih =>
    rw [List.forall_mem_cons] at h
    exact (Obeys.write h.1).trans (ih fun other hmem => (h.2 other hmem).write)

theorem takeLookup_obeys (h : p.Linked none) {waiting : Pending}
    (hwaiting : p.store.Admits none waiting.blockId) (settings : Settings) (address : String)
    (lookup : Except GatewayError FetchedAccount) :
    Obeys (Write.Linked none) moment p
      (p.takeLookup settings moment address waiting lookup) := by
  cases lookup with
  | ok fetched =>
    have hseen := admits_lastSeenIn h hwaiting fetched.account
    have haccount (a : Account) (ha : p.store.Admits none a.blockId) :
        Obeys (Write.Linked none) moment p (p.write moment (.account a)) := .write ha
    refine ((haccount _ hseen).trans (mergeContracts_obeys _ ?_)).trans (.of_eq rfl rfl)
    rw [List.forall_mem_map]
    exact fun _ _ => hseen.write
  | error e =>
    dsimp only [takeLookup]
    split
    · split
      · exact .remember _ p
      · exact .refl p
    · exact (Obeys.fail _ _ _ p).trans (.remember _ _)

theorem takeLookups_obeys (h : p.Linked none) (settings : Settings)
    {lookups : List ((String × Pending) × Except GatewayError FetchedAccount)}
    (hlookups : ∀ lookup ∈ lookups, p.store.Admits none lookup.1.2.blockId) :
    Obeys (Write.Linked none) moment p (p.takeLookups settings moment lookups) := by
  induction lookups generalizing p with
  | nil => exact .refl p
  | cons lookup rest ih =>
    rw [List.forall_mem_cons] at hlookups
    refine (takeLookup_obeys h hlookups.1 settings lookup.1.1 lookup.2).trans (ih ?_ ?_)
    · exact takeLookup_linked h hlookups.1 settings lookup.1.1 lookup.2
    · intro other hother
      have hfollows : Follows moment [.account, .contract] p
          (p.takeLookup settings moment lookup.1.1 lookup.1.2 lookup.2) :=
        takeLookup_follows _ _ _ _ _
      exact (hlookups.2 other hother).of_blocks_eq
        (hfollows.index_eq (by decide : Kind.block ∉ [Kind.account, Kind.contract]))

theorem takeStatus_obeys (stored : Transaction) (answer : Except GatewayError TransactionStatus)
    (p : Progress) : Obeys (Write.Linked merging) moment p (p.takeStatus moment stored answer) := by
  cases answer with
  | ok status =>
    have hwrite : Obeys (Write.Linked merging) moment p
        (p.write moment (.status stored.id status)) := .write trivial
    dsimp only [takeStatus]
    split
    · unfold advance
      dsimp only
      split <;> exact hwrite.trans (.of_eq rfl rfl)
    · exact .refl p
  | error e =>
    dsimp only [takeStatus]
    split
    · exact .refl p
    · exact .fail _ _ _ p

theorem indexAccounts_obeys (gateway : Gateway σ) (settings : Settings) (chain : σ)
    (h : p.Linked none) :
    Obeys (Write.Linked none) moment p (indexAccounts gateway settings moment chain p).1 := by
  have htaken : ({ p with state :=
      { p.state.queueTracked settings p.store with pending := ∅ } } : Progress).Linked none :=
    .of_pending_eq h.store rfl
  have hqueue : Obeys (Write.Linked none) moment p
      { p with state := { p.state.queueTracked settings p.store with pending := ∅ } } :=
    .of_eq rfl rfl
  have hlookups : ∀ lookup ∈ (askEach (fun waiting => fetchAccount gateway waiting.1)
      (p.state.queueTracked settings p.store).pending.toList chain).1,
      p.store.Admits none lookup.1.2.blockId := by
    intro lookup hlookup
    -- each account is looked up as it was queued
    have hqueued := List.mem_map_of_mem (f := Prod.fst) hlookup
    rw [map_fst_askEach, Std.TreeMap.mem_toList_iff_getElem?_eq_some] at hqueued
    exact (h.queueTracked settings).pending hqueued
  exact hqueue.trans (takeLookups_obeys htaken settings hlookups)

/-- The stages behind the first one make writes whose links lead to stored resources. -/
theorem run_obeys (gateway : Gateway σ) (settings : Settings) (chain : σ) (follower : Follower)
    (h : (ingestBlocks gateway settings moment chain
      (Progress.start follower.store follower.state)).1.Linked none) :
    Obeys (Write.Linked none) moment
      (ingestBlocks gateway settings moment chain
        (Progress.start follower.store follower.state)).1
      (follower.run gateway settings moment chain).1 := by
  have hstatuses (chain : σ) (p : Progress) :
      Obeys (Write.Linked none) moment p (refreshStatuses gateway moment chain p).1 :=
    .foldl _ (fun p answer _ => takeStatus_obeys answer.1 answer.2 p) p
  have hstorage (chain : σ) (p : Progress) :
      Obeys (Write.Linked none) moment p (resyncStorage gateway settings moment chain p).1 :=
    .of_follows (resyncStorage_follows moment gateway settings chain p)
      fun w hw _ => Write.linked_of_kind (List.mem_singleton.mp hw)
  rw [Follower.run_eq]
  exact (indexAccounts_obeys gateway settings _ h).trans ((hstatuses _ _).trans (hstorage _ _))

/-! ### The block being merged -/

/-- The block that is being merged after the first `n` writes of a tick, while the blocks are merged
one by one: the first one whose writes are not all made. -/
def mergingAt (moment : Moment) (n : Nat) : List (Nat × FetchedBlock) → Progress → Option Block
  | [], _ => none
  | m :: rest, p =>
    let next := p.mergeHeight moment m.1 m.2
    if n < next.journal.size then some m.2.block else mergingAt moment n rest next

theorem mergingAt_eq_none {n : Nat} (blocks : List (Nat × FetchedBlock)) (p : Progress)
    (h : (p.mergeEach moment blocks).journal.size ≤ n) : p.mergingAt moment n blocks = none := by
  induction blocks generalizing p with
  | nil => rfl
  | cons m rest ih =>
    obtain ⟨writes, hw⟩ := mergeEach_wrote moment rest (p.mergeHeight moment m.1 m.2)
    have hle : (p.mergeHeight moment m.1 m.2).journal.size ≤
        (p.mergeEach moment (m :: rest)).journal.size :=
      hw.size_eq ▸ Nat.le_add_right _ _
    rw [mergingAt, if_neg (Nat.not_lt.mpr (hle.trans h)), ih _ h]

/-- While blocks are merged, links lead to stored resources or to the block being merged. -/
theorem linked_mergingAt (h : p.Linked none) (blocks : List (Nat × FetchedBlock))
    {writes : List Write} (hw : Wrote moment writes p (p.mergeEach moment blocks)) (n : Nat) :
    (p.store.replay moment.wall p.journal.size (writes.take n)).Linked
      ((p.mergingAt moment (p.journal.size + n) blocks).map (·.id)) := by
  induction blocks generalizing p writes n with
  | nil =>
    obtain rfl : writes = [] := hw.unique (.nil rfl rfl)
    rw [List.take_nil]
    exact h.store
  | cons m rest ih =>
    obtain ⟨first, hfirst, hobeys⟩ := mergeHeight_obeys moment h m.1 m.2
    obtain ⟨more, hmore⟩ := mergeEach_wrote moment rest (p.mergeHeight moment m.1 m.2)
    obtain rfl : writes = first ++ more := hw.unique (hfirst.trans hmore)
    rw [mergingAt, hfirst.size_eq]
    by_cases hn : n < first.length
    · -- the block is not stored yet
      rw [if_pos (Nat.add_lt_add_left hn _), List.take_append_of_le_length hn.le]
      have hopen : p.store.Linked (some m.2.block.id) :=
        h.store.mono fun id hid => .inl (hid.resolve_right (Option.some_ne_none id).symm)
      exact (hobeys.take n).keeps (fun store w now hstore hlink => hstore.write hlink now) hopen
    · obtain ⟨k, rfl⟩ := Nat.exists_eq_add_of_le (Nat.le_of_not_lt hn)
      rw [if_neg (fun hlt => hn (Nat.lt_of_add_lt_add_left hlt)), List.take_length_add_append,
        Store.replay_append, ← hfirst.store, ← Nat.add_assoc, ← hfirst.size_eq]
      exact ih (mergeHeight_linked h m.1 m.2) hmore k

end Ingest.Progress

/-! ### What a reader sees of a tick -/

namespace Scene

open Progress

variable {σ : Type} (settings : Settings) (follower : Follower) (scene : Scene σ)

/-- The block that is being merged after the first `n` writes of the tick. -/
def mergingAt (n : Nat) : Option Block :=
  (Progress.start follower.store (scene.heard settings follower.state)).mergingAt scene.moment n
    (scene.merged settings follower.state)

/-- How far the tick is once the blocks `done` are merged, if they are the first ones. -/
def behind (done : List (Nat × FetchedBlock)) : Progress :=
  (Progress.start follower.store (scene.heard settings follower.state)).mergeEach scene.moment done

/-- The blocks `done` are merged by the first writes of the tick. -/
theorem behind_wrote (done : List (Nat × FetchedBlock)) :
    ∃ writes, Wrote scene.moment writes (Progress.start follower.store follower.state)
      (scene.behind settings follower done) := by
  obtain ⟨writes, hw⟩ := mergeEach_wrote scene.moment done
    (Progress.start follower.store (scene.heard settings follower.state))
  exact ⟨writes, hw.journal, hw.store⟩

/-- When all blocks are merged, the first stage is over. -/
theorem blockStage_wrote :
    Wrote scene.moment [] (scene.behind settings follower (scene.merged settings follower.state))
      (scene.blockStage settings follower) := by
  obtain ⟨failures, heq⟩ := blockStage_eq settings follower scene
  rw [heq]
  exact .nil rfl rfl

variable {follower}

/-- **At every moment the links lead to stored resources, or to the block being merged.** -/
theorem linked_storeAt (h : follower.Linked) (n : Nat) :
    (scene.storeAt settings follower n).Linked
      ((scene.mergingAt settings follower n).map (·.id)) := by
  have hheard : (Progress.start follower.store (scene.heard settings follower.state)).Linked none :=
    h.of_eq rfl pending_heard
  have hdone := blockStage_wrote settings follower scene
  have hstage : (scene.blockStage settings follower).Linked none := by
    obtain ⟨failures, heq⟩ := blockStage_eq settings follower scene
    rw [heq]
    exact (mergeEach_linked hheard _).of_eq rfl rfl
  obtain ⟨writes, hblocks⟩ := mergeEach_wrote scene.moment (scene.merged settings follower.state)
    (Progress.start follower.store (scene.heard settings follower.state))
  have hfirst : Wrote scene.moment writes (Progress.start follower.store follower.state)
      (scene.blockStage settings follower) := by
    have hfrom : Wrote scene.moment writes (Progress.start follower.store follower.state)
        (scene.behind settings follower (scene.merged settings follower.state)) :=
      ⟨hblocks.journal, hblocks.store⟩
    simpa using hfrom.trans hdone
  obtain ⟨more, hbehind, hobeys⟩ :=
    run_obeys scene.gateway settings scene.chain follower hstage
  have hjournal : (scene.progress settings follower).journal.toList = writes ++ more := by
    rw [progress]
    exact (hfirst.trans hbehind).journal_of_start
  by_cases hn : n ≤ writes.length
  · rw [storeAt, hjournal, List.take_append_of_le_length hn]
    have hmerging := linked_mergingAt hheard _ hblocks n
    rw [show (Progress.start follower.store (scene.heard settings follower.state)).journal.size + n
      = n from Nat.zero_add n] at hmerging
    exact hmerging
  · -- all blocks are merged
    obtain ⟨k, rfl⟩ := Nat.exists_eq_add_of_le (Nat.le_of_not_le hn)
    have hsize : (scene.blockStage settings follower).journal.size = writes.length :=
      hfirst.size_eq.trans (Nat.zero_add _)
    have hnone : scene.mergingAt settings follower (writes.length + k) = none := by
      refine mergingAt_eq_none _ _ (Nat.le_trans (Nat.le_of_eq ?_) (Nat.le_add_right _ _))
      exact hblocks.size_eq.trans (Nat.zero_add _)
    rw [hnone, ← hsize, storeAt_add hfirst hbehind]
    exact (hobeys.take k).keeps (fun store w now hstore hlink => hstore.write hlink now)
      hstage.store

variable {settings scene} {done rest : List (Nat × FetchedBlock)} {m : Nat × FetchedBlock}

/-- There is a moment when what a block carries is merged, and the block itself is not. -/
theorem storeAt_mergeContents (hm : scene.merged settings follower.state = done ++ m :: rest) :
    scene.storeAt settings follower
        ((scene.behind settings follower done).mergeContents scene.moment m.2).journal.size =
      ((scene.behind settings follower done).mergeContents scene.moment m.2).store := by
  obtain ⟨first, hfirst⟩ := behind_wrote settings follower scene done
  obtain ⟨contents, hcontents, -⟩ :=
    (mergeContents_follows scene.moment m.2 (scene.behind settings follower done)).wrote
  -- what follows are the writes of the block, of the blocks behind it, and of the other stages
  have hblock : Wrote scene.moment [.block m.2.block]
      ((scene.behind settings follower done).mergeContents scene.moment m.2)
      ((scene.behind settings follower done).mergeHeight scene.moment m.1 m.2) :=
    ⟨Array.toList_push, rfl⟩
  obtain ⟨later, hlater⟩ := mergeEach_wrote scene.moment rest
    ((scene.behind settings follower done).mergeHeight scene.moment m.1 m.2)
  have hdone := blockStage_wrote settings follower scene
  rw [behind, hm, mergeEach_append] at hdone
  obtain ⟨last, hlast, -⟩ :=
    (Follower.run_follows scene.gateway settings scene.moment scene.chain follower).wrote
  exact storeAt_add (hfirst.trans hcontents) (((hblock.trans hlater).trans hdone).trans hlast) 0

/-- **A block is stored behind its accepted records.** -/
theorem contents_storeAt (h : follower.store.Coherent)
    (hm : scene.merged settings follower.state = done ++ m :: rest)
    (hnew : ¬(scene.behind settings follower done).store.blocks.contains m.2.block.id) {n : Nat}
    (hn : (scene.storeAt settings follower n).blocks.contains m.2.block.id) :
    (∀ t ∈ m.2.acceptedTransactions (scene.behind settings follower done).store,
      (scene.storeAt settings follower n).transactions.contains t.id) ∧
    ∀ e ∈ m.2.acceptedEvents (scene.behind settings follower done).store,
      (scene.storeAt settings follower n).events.contains e.id := by
  have hcarried := storeAt_mergeContents hm
  have hblocks : ((scene.behind settings follower done).mergeContents scene.moment m.2).store.blocks
      = (scene.behind settings follower done).store.blocks :=
    (mergeContents_follows scene.moment m.2 (scene.behind settings follower done)).index_eq
      (by decide : Kind.block ∉ [Kind.transaction, Kind.event])
  -- the block is not visible before its records are
  have hle : ((scene.behind settings follower done).mergeContents scene.moment m.2).journal.size
      ≤ n := by
    by_contra hlt
    have hseen : (scene.storeAt settings follower ((scene.behind settings follower
        done).mergeContents scene.moment m.2).journal.size).blocks.contains m.2.block.id :=
      stays_storeAt (P := fun store => store.blocks.contains m.2.block.id)
        (fun _ _ _ => Store.contains_blocks_write) (Nat.le_of_not_le hlt) hn
    rw [hcarried, hblocks] at hseen
    exact hnew hseen
  have hcoherent : (scene.behind settings follower done).store.Coherent := by
    obtain ⟨first, hfirst⟩ := behind_wrote settings follower scene done
    rw [hfirst.store]
    exact h.replay _ _ _
  obtain ⟨htransactions, hevents⟩ :=
    contains_mergeContents scene.moment (hcoherent .transaction) m.2
  rw [← hcarried] at htransactions hevents
  constructor
  · intro t ht
    exact stays_storeAt (P := fun store => store.transactions.contains t.id)
      (fun _ _ _ => Store.contains_transactions_write) hle (htransactions t ht)
  · intro e he
    exact stays_storeAt (P := fun store => store.events.contains e.id)
      (fun _ _ _ => Store.contains_events_write) hle (hevents e he)

variable (settings follower scene)

/-- What a reader finds after the first `n` writes of a tick. -/
structure ContentsFirst (n : Nat) : Prop where
  /-- The transaction of a stored event is stored. -/
  events : ∀ e ∈ (scene.storeAt settings follower n).events.toList,
    ∃ t ∈ (scene.storeAt settings follower n).transactions.toList, t.id = e.transactionId
  /-- The block of a stored transaction is stored, or it is being merged. -/
  transactions : ∀ t ∈ (scene.storeAt settings follower n).transactions.toList,
    (∃ b ∈ (scene.storeAt settings follower n).blocks.toList, b.id = t.blockId) ∨
      ∃ b, scene.mergingAt settings follower n = some b ∧ b.id = t.blockId
  /-- Once a block can be seen that was not stored before it was merged, its accepted records can
  be seen. -/
  contents : ∀ done m rest, scene.merged settings follower.state = done ++ m :: rest →
    ¬(scene.behind settings follower done).store.blocks.contains m.2.block.id →
    (scene.storeAt settings follower n).blocks.contains m.2.block.id →
    (∀ t ∈ m.2.acceptedTransactions (scene.behind settings follower done).store,
      (scene.storeAt settings follower n).transactions.contains t.id) ∧
    ∀ e ∈ m.2.acceptedEvents (scene.behind settings follower done).store,
      (scene.storeAt settings follower n).events.contains e.id

end Scene

/-- **A reader never sees a block before its contents.** After any turns of a follower and any
number of writes of its next tick, whatever the gateways answer. -/
theorem Follower.contents_before_block {σ : Type} (settings : Settings) (turns : List (Turn σ))
    (scene : Scene σ) (n : Nat) :
    scene.ContentsFirst settings (initial.after settings turns) n := by
  have hcoherent := coherent_after settings turns
  have hlinked := scene.linked_storeAt settings (linked_after settings turns) n
  have hmoment : (scene.storeAt settings (initial.after settings turns) n).Coherent :=
    hcoherent.replay _ _ _
  constructor
  · intro e he
    exact (hmoment .transaction).contains_iff.mp (hlinked.events.of_mem_toList he)
  · intro t ht
    refine (hlinked.transactions.of_mem_toList ht).imp ?_ Option.map_eq_some_iff.mp
    exact (hmoment .block).contains_iff.mp
  · exact fun done m rest hm hnew hseen => Scene.contents_storeAt hcoherent hm hnew hseen

end ChainFeed
