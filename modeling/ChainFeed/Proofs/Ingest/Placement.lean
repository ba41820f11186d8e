import ChainFeed.Proofs.Gateway.Carried
import ChainFeed.Proofs.Ingest.Discovery
import ChainFeed.Proofs.Ingest.Distinct
import ChainFeed.Proofs.Ingest.Isolation

/-!
# The blocks that events name

An event names the block that its transaction is in. An event that names none is **placed** in the
block that it is merged with. Whether a block with the id is known is looked at for transactions
only, so an event that names an unknown block is merged like any other.

Of the events that are merged under one id, the last one says which block the stored event names
(`Index.Coherent.blockOf?_merge`), and blocks are never removed but by a reset. So all stored events
name stored blocks as long as no tick **strays** (`Follower.events_linked_iff`): a tick strays if
the last of the events that it merges under some id names a block that was neither stored before nor
merged in the tick. A gateway whose blocks carry their own events alone makes no tick stray
(`Gateway.PlacesOwn`), and an access node is one (`AccessNode.placesOwn_gateway`).
-/

namespace ChainFeed

open Ingest Resource

/-! ### The block that is named under an id -/

/-- What has the content of a merged event names its block. -/
theorem Event.blockId_eq_of_sameContent_merge {e stored : Event}
    (h : sameContent (Resource.merge stored e) stored = true) : stored.blockId = e.blockId := by
  change instBEqEvent.beq { Resource.merge stored e with stamps := Stamps.unset }
    { stored with stamps := Stamps.unset } = true at h
  simp only [instBEqEvent.beq, Bool.and_eq_true, beq_iff_eq] at h
  obtain ⟨-, -, hblock, -⟩ := h
  exact hblock.symm

/-- The block that the last event with an id names, of some events. -/
def Event.lastBlock? (i : String) (events : List Event) : Option String :=
  (events.reverse.find? (·.id == i)).map (·.blockId)

theorem Event.lastBlock?_append (i : String) (events more : List Event) :
    lastBlock? i (events ++ more) = (lastBlock? i more).or (lastBlock? i events) := by
  rw [lastBlock?, List.reverse_append, List.find?_append, Option.map_or]
  rfl

theorem Event.lastBlock?_singleton (i : String) (e : Event) :
    lastBlock? i [e] = if e.id = i then some e.blockId else none := by
  rw [lastBlock?, List.reverse_singleton, List.find?_singleton]
  by_cases hi : e.id = i <;> simp [hi]

namespace Index

/-- The block that the stored event with an id names. -/
def blockOf? (i : String) (index : Index Event) : Option String :=
  (index.get? i).map (·.blockId)

/-- Merging an event changes the block that is named under its id, and no other. -/
theorem Coherent.blockOf?_merge {index : Index Event} (h : index.Coherent) (now : Nat) (e : Event)
    (i : String) :
    (index.merge now e).2.blockOf? i = if e.id = i then some e.blockId else index.blockOf? i := by
  split
  · rename_i hi
    subst hi
    rw [blockOf?]
    cases hget : index.get? (Resource.id e) with
    | none =>
      rw [merge_of_none hget]
      exact congrArg (Option.map _) (get?_append_self now e index)
    | some stored =>
      by_cases hsame : sameContent (Resource.merge stored e) stored = true
      · rw [merge_of_same hget hsame]
        refine (congrArg (Option.map _) hget).trans ?_
        exact congrArg some (Event.blockId_eq_of_sameContent_merge hsame)
      · rw [merge_of_new hget hsame]
        have hreplaced := get?_replace_self now (Resource.merge stored e) index
        rw [h.id_merge_eq hget] at hreplaced
        exact congrArg (Option.map _) hreplaced
  · rename_i hi
    rw [blockOf?, h.get?_merge_of_ne now hi, blockOf?]

end Index

/-! ### Merging blocks -/

namespace Ingest.Progress

variable {moment : Moment} {p : Progress}

/-- Behind some events, an id has the block that the last one with the id names. -/
theorem blockOf?_foldl_mergeEvent (moment : Moment) (block : Block) (events : List Event)
    (h : p.store.events.Coherent) (i : String) :
    (events.foldl (fun p e => p.mergeEvent moment block e) p).store.events.blockOf? i =
      (Event.lastBlock? i (events.map (placed block))).or (p.store.events.blockOf? i) := by
  induction events generalizing p with
  | nil => rfl
  | cons e rest ih =>
    have hmerge : (p.mergeEvent moment block e).store.events.blockOf? i =
        (Event.lastBlock? i [placed block e]).or (p.store.events.blockOf? i) := by
      refine (h.blockOf?_merge _ (placed block e) i).trans ?_
      rw [Event.lastBlock?_singleton]
      split <;> rfl
    rw [List.foldl_cons, ih (h.step (Index.merge_step _ _ h)), hmerge, ← Option.or_assoc,
      ← Event.lastBlock?_append, List.map_cons, List.singleton_append]

/-- The events that are merged with blocks, one by one and in order, each placed in a block. -/
def placedEvents (moment : Moment) : List (Nat × FetchedBlock) → Progress → List Event
  | [], _ => []
  | m :: rest, p =>
    (m.2.acceptedEvents p.store).map (placed m.2.block) ++
      placedEvents moment rest (p.mergeHeight moment m.1 m.2)

theorem exists_of_mem_placedEvents {blocks : List (Nat × FetchedBlock)} {e : Event}
    (h : e ∈ p.placedEvents moment blocks) :
    ∃ m ∈ blocks, ∃ emitted ∈ m.2.contents.events, e = placed m.2.block emitted := by
  induction blocks generalizing p with
  | nil => exact absurd h List.not_mem_nil
  | cons m rest ih =>
    rcases List.mem_append.mp h with hfirst | hrest
    · obtain ⟨emitted, hemitted, rfl⟩ := List.mem_map.mp hfirst
      exact ⟨m, List.mem_cons_self, emitted, (mem_acceptedEvents_iff.mp hemitted).1, rfl⟩
    · obtain ⟨other, hother, hplaced⟩ := ih hrest
      exact ⟨other, List.mem_cons_of_mem _ hother, hplaced⟩

/-- **What merging blocks does to the blocks that are named and to those that are stored.** -/
theorem blockOf?_mergeEach (moment : Moment) (h : p.store.Coherent)
    (blocks : List (Nat × FetchedBlock)) :
    (∀ i, (p.mergeEach moment blocks).store.events.blockOf? i =
      (Event.lastBlock? i (p.placedEvents moment blocks)).or (p.store.events.blockOf? i)) ∧
    ∀ id, (p.mergeEach moment blocks).store.blocks.contains id ↔
      p.store.blocks.contains id ∨ ∃ m ∈ blocks, m.2.block.id = id := by
  induction blocks generalizing p with
  | nil => exact ⟨fun _ => rfl, fun _ => by simp [mergeEach]⟩
  | cons m rest ih =>
    obtain ⟨hnamed, hstored⟩ :=
      ih (p := p.mergeHeight moment m.1 m.2) (coherent_mergeBlock moment m.2 h)
    constructor
    · intro i
      have hevents := events_mergeBlock moment (h .transaction) m.2
      have htransactions : (p.mergeAcceptedTransactions moment m.2).store.events =
          p.store.events := events_foldl_mergeTransaction moment m.2.block _ _
      have hblock : (p.mergeHeight moment m.1 m.2).store.events.blockOf? i =
          (Event.lastBlock? i ((m.2.acceptedEvents p.store).map (placed m.2.block))).or
            (p.store.events.blockOf? i) := by
        refine (congrArg (Index.blockOf? i) hevents).trans ?_
        rw [mergeAccepted, blockOf?_foldl_mergeEvent moment _ _ (htransactions ▸ h .event),
          htransactions]
      refine (hnamed i).trans ?_
      rw [hblock, ← Option.or_assoc, ← Event.lastBlock?_append]
      rfl
    · intro id
      obtain ⟨now, hblocks⟩ := blocks_mergeBlock moment m.2 p
      have hblock : (p.mergeHeight moment m.1 m.2).store.blocks.contains id ↔
          p.store.blocks.contains id ∨ m.2.block.id = id := by
        refine Iff.trans ?_ ((h .block).contains_merge_iff now m.2.block id)
        exact iff_of_eq (congrArg (fun index => index.contains id = true) hblocks)
      refine (hstored id).trans ?_
      rw [hblock, List.exists_mem_cons_iff, or_assoc]

end Ingest.Progress

/-! ### Linked events -/

/-- The block that a stored event names is stored. -/
def Store.EventsLinked (store : Store) : Prop :=
  ∀ e ∈ store.events.toList, ∃ b ∈ store.blocks.toList, b.id = e.blockId

instance (store : Store) : Decidable store.EventsLinked :=
  inferInstanceAs (Decidable (∀ e ∈ _, ∃ b ∈ _, _ = _))

theorem Store.Coherent.eventsLinked_iff {store : Store} (h : store.Coherent) :
    store.EventsLinked ↔
      ∀ i id, store.events.blockOf? i = some id → store.blocks.contains id := by
  constructor
  · intro hlinked i id hi
    obtain ⟨e, hget, rfl⟩ := Option.map_eq_some_iff.mp hi
    have hid : Resource.id e = i := ((h .event).filed hget).id_eq
    exact (h .block).contains_iff.mpr
      (hlinked e ((h .event).mem_toList_iff.mpr (hid.symm ▸ hget)))
  · intro hnamed e he
    have hnames : store.events.blockOf? e.id = some e.blockId :=
      congrArg (Option.map fun stored : Event => stored.blockId)
        ((h .event).mem_toList_iff.mp he)
    exact (h .block).contains_iff.mp (hnamed e.id e.blockId hnames)

namespace Scene

variable {σ : Type} {settings : Settings} {follower : Follower} {scene : Scene σ}

/-- The events that the tick merges, in order, each placed in a block. -/
def placedEvents (settings : Settings) (follower : Follower) (scene : Scene σ) : List Event :=
  (Progress.start follower.store (scene.heard settings follower.state)).placedEvents scene.moment
    (scene.merged settings follower.state)

/-- The last of the events that the tick merges under some id names a block that was not stored
before, and that the tick does not merge. -/
def Strays (settings : Settings) (follower : Follower) (scene : Scene σ) : Prop :=
  ∃ i blockId, Event.lastBlock? i (scene.placedEvents settings follower) = some blockId ∧
    ¬follower.store.blocks.contains blockId ∧
    ∀ m ∈ scene.merged settings follower.state, m.2.block.id ≠ blockId

/-- **What a tick does to the blocks that are named and to those that are stored.** -/
theorem blockOf?_next (h : follower.store.Coherent) :
    (∀ i, (scene.next settings follower).store.events.blockOf? i =
      (Event.lastBlock? i (scene.placedEvents settings follower)).or
        (follower.store.events.blockOf? i)) ∧
    ∀ id, (scene.next settings follower).store.blocks.contains id ↔
      follower.store.blocks.contains id ∨
        ∃ m ∈ scene.merged settings follower.state, m.2.block.id = id := by
  have hstart : (Progress.start follower.store
      (scene.heard settings follower.state)).store.Coherent := h
  have hmerged := Progress.blockOf?_mergeEach scene.moment hstart
    (scene.merged settings follower.state)
  obtain ⟨failures, heq⟩ := blockStage_eq settings follower scene
  have hstage : (scene.afterBlocks settings follower).1 = _ := heq
  have hevents : (scene.next settings follower).store.events =
      (scene.afterBlocks settings follower).1.store.events :=
    @index_next_eq_afterBlocks _ settings follower scene .event (by decide)
  have hblocks : (scene.next settings follower).store.blocks =
      (scene.afterBlocks settings follower).1.store.blocks :=
    @index_next_eq_afterBlocks _ settings follower scene .block (by decide)
  rw [hevents, hblocks, hstage]
  exact hmerged

/-- **A tick keeps events linked if and only if it does not stray.** -/
theorem eventsLinked_next_iff (h : follower.store.Coherent)
    (hlinked : follower.store.EventsLinked) :
    (scene.next settings follower).store.EventsLinked ↔ ¬scene.Strays settings follower := by
  obtain ⟨hnamed, hstored⟩ := @blockOf?_next σ settings follower scene h
  rw [h.eventsLinked_iff] at hlinked
  rw [(Follower.coherent_next h scene).eventsLinked_iff]
  constructor
  · rintro hnext ⟨i, blockId, hlast, hunknown, hother⟩
    have hnew : (scene.next settings follower).store.events.blockOf? i = some blockId := by
      rw [hnamed, hlast, Option.some_or]
    obtain hknown | ⟨m, hm, hid⟩ := (hstored blockId).mp (hnext i blockId hnew)
    · exact hunknown hknown
    · exact hother m hm hid
  · intro hstrays i blockId hi
    rw [hnamed] at hi
    cases hlast : Event.lastBlock? i (scene.placedEvents settings follower) with
    | none =>
      -- the tick merges no event with the id
      rw [hlast, Option.none_or] at hi
      exact (hstored blockId).mpr (.inl (hlinked i blockId hi))
    | some last =>
      rw [hlast, Option.some_or] at hi
      obtain rfl := Option.some.inj hi
      by_contra hunknown
      rw [hstored, not_or] at hunknown
      exact hstrays ⟨i, last, hlast, hunknown.1, fun m hm hid => hunknown.2 ⟨m, hm, hid⟩⟩

end Scene

namespace Follower

variable {σ : Type}

/-- **Events are linked as long as no tick strays.** After any turns, a tick leaves each stored
event with the block that the last of the events names that it merged under the id, an event without
a block counting as one of the block that it was merged with; and if it merged none, with the block
that was named before. Throughout a run, the stored events name stored blocks if and only if no tick
of the run strays. -/
theorem events_linked_iff (settings : Settings) (turns : List (Turn σ)) :
    (∀ (scene : Scene σ) (i : String),
      (scene.next settings (initial.after settings turns)).store.events.blockOf? i =
        (Event.lastBlock? i (scene.placedEvents settings (initial.after settings turns))).or
          ((initial.after settings turns).store.events.blockOf? i)) ∧
    ((∀ before behind, turns = before ++ behind →
        (initial.after settings before).store.EventsLinked) ↔
      ∀ before scene behind, turns = before ++ .tick scene :: behind →
        ¬scene.Strays settings (initial.after settings before)) := by
  refine ⟨fun scene => (Scene.blockOf?_next (coherent_after settings turns)).1, ?_, ?_⟩
  · rintro hlinked before scene behind rfl
    have hbefore := hlinked before (.tick scene :: behind) rfl
    have hnext := hlinked (before ++ [.tick scene]) behind (by simp)
    rw [after_concat] at hnext
    exact (Scene.eventsLinked_next_iff (coherent_after settings before) hbefore).mp hnext
  · intro hstrays before
    -- the induction is on the turns that have passed
    induction before using List.reverseRecOn with
    | nil => exact fun _ _ e he => absurd he List.not_mem_nil
    | append_singleton before turn ih =>
      rintro behind rfl
      rw [List.append_assoc, List.singleton_append] at hstrays ih
      have hbefore := ih (turn :: behind) rfl
      rw [after_concat]
      cases turn with
      | tick scene =>
        exact (Scene.eventsLinked_next_iff (coherent_after settings before) hbefore).mpr
          (hstrays before scene behind rfl)
      | reset => exact fun e he => absurd he List.not_mem_nil

/-- A tick that merges a block with an event that names a block which nobody has heard of. -/
def strayingScene : Scene Unit where
  gateway := {
    ask
      | .latestHeight, _ => (.ok 1, ())
      | .block height, _ => (.ok (Block.sample height), ())
      | .contents blockId, _ =>
        (.ok ⟨[.sample "t1" blockId "0x1"],
          [{ Event.sample "t1" 0 "Foo" with blockId := "nowhere" }]⟩, ())
      | _, _ => (.error .transport, ()) }
  chain := ()
  moment := ⟨fun _ => 0, Span.zero⟩

/-- The event is stored all the same, and nothing is skipped. -/
theorem straying_event_stored :
    (strayingScene.next fromFirst initial).store.events.blockOf? "t1.0" = some "nowhere" ∧
      ¬(strayingScene.next fromFirst initial).store.EventsLinked ∧
      (strayingScene.report fromFirst initial).skippedRecords = 0 := by
  decide +kernel

end Follower

/-! ### Gateways whose blocks carry their own events -/

variable {σ : Type}

/-- The events that the gateway answers with for a block name that block, or none. -/
def Gateway.PlacesOwn (gateway : Gateway σ) : Prop :=
  ∀ blockId chain contents, (gateway.ask (.contents blockId) chain).1 = .ok contents →
    ∀ e ∈ contents.events, e.blockId = "" ∨ e.blockId = blockId

/-- The gateway of a turn answers for a block with events of that block. -/
def Follower.Turn.PlacesOwn : Follower.Turn σ → Prop
  | tick scene => scene.gateway.PlacesOwn
  | reset => True

/-- A tick does not stray if blocks carry their own events alone. -/
theorem Scene.not_strays {settings : Settings} {follower : Follower} {scene : Scene σ}
    (h : scene.gateway.PlacesOwn) : ¬scene.Strays settings follower := by
  rintro ⟨i, blockId, hlast, -, hother⟩
  obtain ⟨e, hfound, rfl⟩ := Option.map_eq_some_iff.mp hlast
  have hplaced := List.mem_reverse.mp (List.mem_of_find?_eq_some hfound)
  obtain ⟨m, hm, emitted, hemitted, rfl⟩ := Progress.exists_of_mem_placedEvents hplaced
  obtain ⟨chain, -, hcontents⟩ := exists_answers_of_mem_merged hm
  have hown := h _ _ _ hcontents emitted hemitted
  have hblock : (Progress.placed m.2.block emitted).blockId = m.2.block.id := by
    unfold Progress.placed
    split
    · rfl
    · exact hown.resolve_left ‹_›
  exact hother m hm hblock.symm

/-- **If blocks carry their own events alone, stored events name stored blocks at all times.** -/
theorem Follower.events_linked_after (settings : Settings) {turns : List (Turn σ)}
    (h : ∀ turn ∈ turns, turn.PlacesOwn) : (initial.after settings turns).store.EventsLinked := by
  have hempty : Store.empty.EventsLinked := fun e he => absurd he List.not_mem_nil
  refine (after_induction_of_forall
    (P := fun follower => follower.store.Coherent ∧ follower.store.EventsLinked)
    ⟨.empty, hempty⟩ ?_ ?_ h).2
  · intro scene follower hplaces hkept
    exact ⟨coherent_next hkept.1 scene,
      (Scene.eventsLinked_next_iff hkept.1 hkept.2).mpr (Scene.not_strays hplaces)⟩
  · exact fun follower hkept => ⟨hkept.1.clear, fun e he => absurd he List.not_mem_nil⟩

/-- An access node places what a transaction emitted in the block that it is asked about. -/
theorem AccessNode.placesOwn_gateway (node : AccessNode) (wire : Wire σ) :
    (node.gateway wire).PlacesOwn := by
  intro blockId chain contents hcontents e he
  have hanswer : (node.contents wire blockId chain).1 = .ok contents := hcontents
  rw [contents_eq] at hanswer
  cases hexecuted : (node.executed wire blockId chain).1 with
  | error error =>
    rw [hexecuted] at hanswer
    cases hanswer
  | ok entries =>
    rw [hexecuted] at hanswer
    obtain ⟨emitted, hevents, hall⟩ := (carries_of_contentsOf hanswer).events
    rw [hevents, List.mem_flatten] at he
    obtain ⟨events, hmem, he⟩ := he
    obtain ⟨entry, -, hentry⟩ := exists_of_mem_forall₂ hall hmem
    obtain ⟨written, -, -, hblock, -⟩ := exists_of_mem_forall₂ hentry he
    exact .inr hblock

end ChainFeed
