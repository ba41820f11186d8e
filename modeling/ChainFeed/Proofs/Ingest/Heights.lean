import Mathlib.Data.List.Induction
import Mathlib.Order.Nat
import ChainFeed.Config
import ChainFeed.Proofs.Ingest.Merging
import ChainFeed.Resource.Sample

/-!
# Heights are merged without a gap

A follower that starts with an empty memory meets one **scene** per tick: a gateway in some state,
and a moment. Nothing is assumed about the gateways; any call may fail, and the latest height may
be another one, also a lower one, in each scene.

The heights that are merged are consecutive all the same. They begin with the first height of the
settings or, if there is none, with the latest height that the follower hears of first, and end
with the watermark (`heights_contiguous`). The invariant is `Kept`: without a watermark nothing is
merged, and the first height that the follower remembers is the one that it will begin with; with a
watermark, the merged heights are those up to it.
-/

namespace ChainFeed

open Ingest

variable {σ : Type}

/-- What a tick meets. -/
structure Scene (σ : Type) where
  /-- The gateway. -/
  gateway : Gateway σ
  /-- The state that the gateway is in. -/
  chain : σ
  /-- When the tick happens. -/
  moment : Moment

/-! ### One tick -/

namespace Scene

variable (settings : Settings) (state : Ingest.State) (follower : Follower) (scene : Scene σ)

/-- The latest height that the tick hears of. -/
def latest : Except GatewayError Nat := (scene.gateway.ask .latestHeight scene.chain).1

/-- The outcomes of fetching the blocks of the tick's batch. -/
def fetched : List (Nat × Except GatewayError FetchedBlock) :=
  match scene.gateway.ask .latestHeight scene.chain with
  | (.error _, _) => []
  | (.ok latest, chain) =>
    (askEach (fetchBlock scene.gateway)
      (batch settings latest (state.nextHeight settings latest).1) chain).1

/-- The heights that the tick merges, with their blocks. -/
def merged : List (Nat × FetchedBlock) := fetchedPrefix (scene.fetched settings state)

/-- What the follower remembers once it knows the latest height. -/
def heard : Ingest.State :=
  match scene.latest with
  | .error _ => state
  | .ok latest => (state.nextHeight settings latest).2

/-- The progress of the tick after its first stage. -/
def blockStage : Progress :=
  (ingestBlocks scene.gateway settings scene.moment scene.chain
    (Progress.start follower.store follower.state)).1

/-- What the first stage of the tick asks, and what it is answered. -/
def inquiries : List Inquiry :=
  (ingestBlocks scene.gateway.recorded settings scene.moment (scene.chain, [])
    (Progress.start follower.store follower.state)).2.2

/-- The progress of the whole tick. -/
def progress : Progress :=
  (follower.run scene.gateway settings scene.moment scene.chain).1

/-- The follower after the tick. -/
def next : Follower :=
  (follower.tick scene.gateway settings scene.moment scene.chain).2.1

variable {settings state follower scene}

/-- A tick that hears of no latest height fetches nothing. -/
theorem fetched_of_error {e : GatewayError} (h : scene.latest = .error e) :
    scene.fetched settings state = [] := by
  unfold latest at h
  unfold fetched
  split
  · rfl
  · rename_i heq
    rw [heq] at h
    cases h

/-- A tick fetches the heights of its batch. -/
theorem map_fst_fetched {latest : Nat} (h : scene.latest = .ok latest) :
    (scene.fetched settings state).map Prod.fst =
      batch settings latest (state.nextHeight settings latest).1 := by
  unfold Scene.latest at h
  unfold fetched
  split
  · rename_i heq
    rw [heq] at h
    cases h
  · rename_i heq
    rw [heq] at h
    obtain rfl := Except.ok.inj h
    exact map_fst_askEach _ _ _

theorem pairwise_fetched : ((scene.fetched settings state).map Prod.fst).Pairwise (· < ·) := by
  cases h : scene.latest with
  | error e =>
    rw [fetched_of_error h]
    exact List.Pairwise.nil
  | ok latest =>
    rw [map_fst_fetched h]
    exact List.pairwise_lt_range'

/-- A tick merges consecutive heights, none of them beyond its batch. -/
theorem merged_eq_range (settings : Settings) (state : Ingest.State) {latest : Nat}
    (h : scene.latest = .ok latest) :
    ∃ k, (scene.merged settings state).map Prod.fst =
        List.range' (state.nextHeight settings latest).1 k ∧
      k ≤ min latest ((state.nextHeight settings latest).1 + (settings.maxBlocksPerTick - 1)) + 1 -
        (state.nextHeight settings latest).1 := by
  obtain ⟨rest, hrest⟩ := map_fst_fetchedPrefix_prefix (scene.fetched settings state)
  rw [map_fst_fetched h, batch] at hrest
  obtain ⟨k, hk, heq, -⟩ := List.range'_eq_append_iff.mp hrest.symm
  exact ⟨k, heq, hk⟩

/-- What a tick merges it fetched, after it heard of a latest height that is not below. -/
theorem exists_latest_of_mem_merged {m : Nat × FetchedBlock}
    (hm : m ∈ scene.merged settings state) :
    ∃ latest, scene.latest = .ok latest ∧ m.1 ≤ latest := by
  cases h : scene.latest with
  | error e =>
    rw [merged, fetched_of_error h] at hm
    cases hm
  | ok latest =>
    obtain ⟨k, hrange, hk⟩ := merged_eq_range settings state h
    have hmem := List.mem_map_of_mem (f := Prod.fst) hm
    rw [hrange, List.mem_range'_1] at hmem
    exact ⟨latest, rfl, by omega⟩

/-- What a tick merges the gateway answered with. -/
theorem exists_answers_of_mem_merged {m : Nat × FetchedBlock}
    (hm : m ∈ scene.merged settings state) :
    ∃ chain, (scene.gateway.ask (.block m.1) chain).1 = .ok m.2.block ∧
      (scene.gateway.ask (.contents m.2.block.id)
        (scene.gateway.ask (.block m.1) chain).2).1 = .ok m.2.contents := by
  have hfetched := mem_of_mem_fetchedPrefix hm
  unfold fetched at hfetched
  split at hfetched
  · cases hfetched
  · obtain ⟨chain, hfetch⟩ := exists_ask_of_mem_askEach hfetched
    exact ⟨chain, answers_of_fetchBlock_eq_ok hfetch⟩

/-- The first stage merges the blocks in front of the first failure one by one; beyond that,
failures are reported. -/
theorem blockStage_eq (settings : Settings) (follower : Follower) (scene : Scene σ) :
    ∃ failures, scene.blockStage settings follower =
      let p := (Progress.start follower.store (scene.heard settings follower.state)).mergeEach
        scene.moment (scene.merged settings follower.state)
      { p with report := { p.report with failures } } := by
  unfold blockStage ingestBlocks merged fetched heard latest
  rcases scene.gateway.ask .latestHeight scene.chain with ⟨_ | latest, chain⟩
  · exact ⟨_, rfl⟩
  · exact Progress.mergeHeights_eq _

/-- What the first stage asks explains the outcome of each fetch. -/
theorem backed_inquiries : ∀ fetch ∈ scene.fetched settings follower.state,
    Backed (scene.inquiries settings follower) fetch.1 fetch.2 := by
  unfold inquiries ingestBlocks fetched Gateway.recorded
  dsimp only [Progress.start]
  rcases scene.gateway.ask .latestHeight scene.chain with ⟨_ | latest, chain⟩
  · exact fun _ h => absurd h List.not_mem_nil
  · obtain ⟨more, heq, hmore⟩ := askEach_recorded scene.gateway
      (batch settings latest (follower.state.nextHeight settings latest).1) chain
      [⟨.latestHeight, .ok latest⟩]
    intro fetch hmem
    refine (hmore fetch hmem).mono ?_
    dsimp only [List.nil_append]
    rw [Gateway.recorded] at heq
    rw [heq]
    exact List.subset_append_right _ _

theorem state_next :
    (scene.next settings follower).state = (scene.progress settings follower).state := by
  rw [next, Follower.tick_eq, progress]

/-- The stages behind the first one leave the watermark and the first height alone. -/
theorem heights_progress :
    (scene.progress settings follower).state.heights =
      (scene.blockStage settings follower).state.heights := by
  rw [progress, blockStage]
  exact (Follower.run_follows _ _ _ _ _).heights

/-- After a tick, the watermark is the last merged height, or where it was. -/
theorem watermark_next :
    (scene.next settings follower).watermark =
      ((scene.merged settings follower.state).map Prod.fst).getLast?.or follower.watermark := by
  have hheard : (scene.heard settings follower.state).watermark = follower.watermark := by
    unfold heard State.nextHeight
    split
    · rfl
    · split <;> rfl
  have hstage : (scene.progress settings follower).state.watermark =
      (scene.blockStage settings follower).state.watermark :=
    State.watermark_eq_of_heights_eq heights_progress
  obtain ⟨failures, heq⟩ := blockStage_eq settings follower scene
  rw [Follower.watermark, state_next, hstage, heq, ← hheard]
  exact Progress.watermark_mergeEach _ _

theorem watermark_next_of_nil (h : scene.merged settings follower.state = []) :
    (scene.next settings follower).watermark = follower.watermark := by
  rw [watermark_next, h]
  rfl

theorem watermark_next_of_range {first k : Nat}
    (h : (scene.merged settings follower.state).map Prod.fst = List.range' first (k + 1)) :
    (scene.next settings follower).watermark = some (first + k) := by
  rw [watermark_next, h, List.getLast?_range', if_neg (Nat.succ_ne_zero k)]
  rfl

/-- After a tick, the first height is the one that the follower remembered once it heard of the
latest height. -/
theorem firstHeight_next :
    (scene.next settings follower).state.firstHeight =
      (scene.heard settings follower.state).firstHeight := by
  have hstage : (scene.progress settings follower).state.firstHeight =
      (scene.blockStage settings follower).state.firstHeight :=
    State.firstHeight_eq_of_heights_eq heights_progress
  obtain ⟨failures, heq⟩ := blockStage_eq settings follower scene
  rw [state_next, hstage, heq]
  exact Progress.firstHeight_mergeEach _ _

/-- The blocks that a tick stores are those that it merges. -/
theorem blockWrites_progress :
    (scene.progress settings follower).blockWrites =
      (scene.merged settings follower.state).map (·.2.block) := by
  obtain ⟨failures, heq⟩ := blockStage_eq settings follower scene
  have hstage := follower.run_follows scene.gateway settings scene.moment scene.chain
  refine (hstage.blockWrites_eq (by decide)).trans ?_
  exact (congrArg Progress.blockWrites heq).trans (Progress.blockWrites_mergeEach _ _)

end Scene

/-! ### Runs -/

/-- A follower, and the heights that it merged so far with their blocks. -/
structure History where
  /-- The follower. -/
  follower : Follower
  /-- The merged heights, in the order of time. -/
  merged : List (Nat × FetchedBlock)

namespace History

/-- The merged heights without their blocks. -/
def heights (history : History) : List Nat := history.merged.map Prod.fst

/-- A follower of a store that remembers nothing. -/
def start (store : Store) : History := ⟨⟨store, State.initial⟩, []⟩

/-- The history after one more tick. -/
def tick (settings : Settings) (history : History) (scene : Scene σ) : History where
  follower := scene.next settings history.follower
  merged := history.merged ++ scene.merged settings history.follower.state

/-- The history after some ticks. -/
def run (settings : Settings) (store : Store) (scenes : List (Scene σ)) : History :=
  scenes.foldl (tick settings) (start store)

variable (settings : Settings) (store : Store) (scenes : List (Scene σ)) (scene : Scene σ)

@[simp]
theorem run_nil : run settings store ([] : List (Scene σ)) = start store := rfl

@[simp]
theorem run_concat :
    run settings store (scenes ++ [scene]) = (run settings store scenes).tick settings scene := by
  simp [run]

theorem follower_run_concat :
    (run settings store (scenes ++ [scene])).follower =
      scene.next settings (run settings store scenes).follower := by
  rw [run_concat, tick]

/-- The latest height that some ticks hear of first. -/
def firstLatest? : Option Nat := scenes.findSome? fun scene => scene.latest.toOption

/-- The height that the merging begins with: the one of the settings or, if there is none, the
latest height that the ticks hear of first. -/
def firstHeight? : Option Nat := settings.startHeight.or (firstLatest? scenes)

/-- The height that a tick goes for first. -/
def nextHeight? : Option Nat :=
  ((run settings store scenes).follower.watermark.map (· + 1)).or
    (firstHeight? settings (scenes ++ [scene]))

/-- The invariant of a run. -/
structure Kept : Prop where
  /-- Without a watermark nothing is merged. -/
  unmerged : (run settings store scenes).follower.watermark = none →
    (run settings store scenes).heights = []
  /-- Without a watermark, the follower remembers the height that the merging will begin with. -/
  remembered : (run settings store scenes).follower.watermark = none →
    (run settings store scenes).follower.state.firstHeight =
      (firstLatest? scenes).map settings.startHeight.getD
  /-- With a watermark, the merged heights are those up to it. -/
  merged {last : Nat} : (run settings store scenes).follower.watermark = some last →
    ∃ first, firstHeight? settings scenes = some first ∧ first ≤ last ∧
      (run settings store scenes).heights = List.range' first (last + 1 - first)

variable {settings store scenes scene}

@[simp]
theorem firstLatest?_concat :
    firstLatest? (scenes ++ [scene]) = (firstLatest? scenes).or scene.latest.toOption := by
  rw [firstLatest?, List.findSome?_append]
  cases h : scene.latest.toOption <;> simp [firstLatest?, h]

/-- A height that the merging begins with stays the one. -/
theorem firstHeight?_concat {first : Nat} (h : firstHeight? settings scenes = some first) :
    firstHeight? settings (scenes ++ [scene]) = some first := by
  rw [firstHeight?, firstLatest?_concat, ← Option.or_assoc]
  exact (congrArg (Option.or · _) h).trans Option.some_or

/-- The tick goes first for the height that comes next. -/
theorem Kept.nextHeight?_eq (h : Kept settings store scenes) {latest : Nat}
    (hlatest : scene.latest = .ok latest) :
    nextHeight? settings store scenes scene =
      some ((run settings store scenes).follower.state.nextHeight settings latest).1 := by
  have hremembered := h.remembered
  unfold nextHeight? State.nextHeight
  rw [Follower.watermark] at hremembered ⊢
  cases hw : (run settings store scenes).follower.state.watermark with
  | some last => rfl
  | none =>
    rw [hremembered hw, firstHeight?, firstLatest?_concat, hlatest]
    cases firstLatest? scenes <;> exact Option.or_some

/-- While nothing is merged, the follower remembers the height that the merging begins with. -/
theorem Kept.firstHeight_heard (h : Kept settings store scenes)
    (hw : (run settings store scenes).follower.watermark = none) :
    (scene.heard settings (run settings store scenes).follower.state).firstHeight =
      (firstLatest? (scenes ++ [scene])).map settings.startHeight.getD := by
  have hremembered := h.remembered hw
  rw [Follower.watermark] at hw
  rw [Scene.heard, firstLatest?_concat]
  cases scene.latest with
  | error e =>
    rw [Except.toOption, Option.or_none]
    exact hremembered
  | ok latest =>
    cases hf : firstLatest? scenes with
    | none => simp [State.nextHeight, hw, hremembered, hf, Except.toOption]
    | some told => simp [State.nextHeight, hw, hremembered, hf]

theorem heights_concat :
    (run settings store (scenes ++ [scene])).heights = (run settings store scenes).heights ++
      (scene.merged settings (run settings store scenes).follower.state).map Prod.fst := by
  rw [run_concat, tick, heights, List.map_append]
  rfl

/-- A tick merges nothing, or the heights from the next one on. -/
theorem Kept.merged_eq (h : Kept settings store scenes) (scene : Scene σ) :
    scene.merged settings (run settings store scenes).follower.state = [] ∨
      ∃ next k, nextHeight? settings store scenes scene = some next ∧
        (scene.merged settings (run settings store scenes).follower.state).map Prod.fst =
          List.range' next (k + 1) := by
  cases hlatest : scene.latest with
  | error e => exact .inl (by rw [Scene.merged, Scene.fetched_of_error hlatest, fetchedPrefix])
  | ok latest =>
    obtain ⟨k, hrange, -⟩ := Scene.merged_eq_range settings
      (run settings store scenes).follower.state hlatest
    cases k with
    | zero => exact .inl (List.map_eq_nil_iff.mp hrange)
    | succ k => exact .inr ⟨_, k, h.nextHeight?_eq hlatest, hrange⟩

/-- A tick that merges nothing keeps the invariant. -/
private theorem Kept.concat_of_nil (h : Kept settings store scenes)
    (hnil : scene.merged settings (run settings store scenes).follower.state = []) :
    Kept settings store (scenes ++ [scene]) := by
  have hwatermark : (run settings store (scenes ++ [scene])).follower.watermark =
      (run settings store scenes).follower.watermark := by
    rw [follower_run_concat]
    exact Scene.watermark_next_of_nil hnil
  have hheights : (run settings store (scenes ++ [scene])).heights =
      (run settings store scenes).heights := by
    rw [heights_concat, hnil]
    exact List.append_nil _
  constructor
  · intro hw
    rw [hwatermark] at hw
    rw [hheights, h.unmerged hw]
  · intro hw
    rw [hwatermark] at hw
    rw [follower_run_concat]
    exact Scene.firstHeight_next.trans (h.firstHeight_heard hw)
  · intro last hw
    rw [hwatermark] at hw
    obtain ⟨first, hfirst, hle, heq⟩ := h.merged hw
    exact ⟨first, firstHeight?_concat hfirst, hle, hheights.trans heq⟩

/-- A tick that merges the heights from the next one on keeps the invariant. -/
private theorem Kept.concat_of_range (h : Kept settings store scenes) {next k : Nat}
    (hnext : nextHeight? settings store scenes scene = some next)
    (hrange : (scene.merged settings (run settings store scenes).follower.state).map Prod.fst =
      List.range' next (k + 1)) :
    Kept settings store (scenes ++ [scene]) := by
  have hwatermark : (run settings store (scenes ++ [scene])).follower.watermark =
      some (next + k) := by
    rw [follower_run_concat]
    exact Scene.watermark_next_of_range hrange
  refine ⟨fun hw => ?_, fun hw => ?_, fun {last} hw => ?_⟩
  · rw [hwatermark] at hw
    cases hw
  · rw [hwatermark] at hw
    cases hw
  · obtain rfl : next + k = last := Option.some.inj (hwatermark.symm.trans hw)
    rw [heights_concat, hrange]
    unfold nextHeight? at hnext
    cases hold : (run settings store scenes).follower.watermark with
    | none =>
      -- the merging begins with this tick
      rw [hold] at hnext
      refine ⟨next, hnext, Nat.le_add_right _ _, ?_⟩
      rw [h.unmerged hold, List.nil_append]
      congr 1
      omega
    | some old =>
      -- the heights of this tick continue those up to the watermark
      obtain ⟨first, hfirst, hle, heq⟩ := h.merged hold
      rw [hold] at hnext
      obtain rfl : old + 1 = next := Option.some.inj hnext
      have hjoin := List.range'_append_1 (s := first) (m := old + 1 - first) (n := k + 1)
      rw [show first + (old + 1 - first) = old + 1 by omega] at hjoin
      refine ⟨first, firstHeight?_concat hfirst, by omega, ?_⟩
      rw [heq, hjoin]
      congr 1
      omega

/-- **Every run keeps the invariant.** -/
theorem kept (settings : Settings) (store : Store) (scenes : List (Scene σ)) :
    Kept settings store scenes := by
  induction scenes using List.reverseRecOn with
  | nil => exact ⟨fun _ => rfl, fun _ => rfl, fun hw => by cases hw⟩
  | append_singleton scenes scene ih =>
    rcases ih.merged_eq scene with hnil | ⟨next, k, hnext, hrange⟩
    · exact ih.concat_of_nil hnil
    · exact ih.concat_of_range hnext hrange

end History

/-! ### The outcome of a run -/

/-- How a tick merges that goes first for the height `next?`: a part of what it fetched, in order
and without a gap. -/
structure Scene.InOrder (settings : Settings) (follower : Follower) (next? : Option Nat)
    (scene : Scene σ) : Prop where
  /-- The tick fetched the block of each merged height, and what the block carries. -/
  backed : ∀ m ∈ scene.merged settings follower.state,
    Backed (scene.inquiries settings follower) m.1 (.ok m.2)
  /-- No merged height is beyond the latest height that the tick heard of. -/
  le_latest : ∀ m ∈ scene.merged settings follower.state,
    ∃ latest, scene.latest = .ok latest ∧ m.1 ≤ latest
  /-- The tick merges no more heights than the settings allow. -/
  length_le : (scene.merged settings follower.state).length ≤ settings.maxBlocksPerTick
  /-- If no call fails, the tick merges as many heights as there are and the settings allow. -/
  full {latest next : Nat} : scene.latest = .ok latest → next? = some next →
    (∀ x ∈ scene.inquiries settings follower, ¬x.Failed) →
    (scene.merged settings follower.state).map Prod.fst =
      List.range' next (min latest (next + settings.maxBlocksPerTick - 1) + 1 - next)
  /-- Every merged height is in front of every height that could not be fetched. -/
  stops {height : Nat} {e : GatewayError} :
    (height, .error e) ∈ scene.fetched settings follower.state →
    ∀ m ∈ scene.merged settings follower.state, m.1 < height
  /-- The first stage does what merging the heights one by one does; beyond that, failures are
  reported. -/
  stage : ∃ failures, scene.blockStage settings follower =
    let p := (Progress.start follower.store (scene.heard settings follower.state)).mergeEach
      scene.moment (scene.merged settings follower.state)
    { p with report := { p.report with failures } }
  /-- The blocks that the tick stores are those of the merged heights. -/
  blockWrites : (scene.progress settings follower).blockWrites =
    (scene.merged settings follower.state).map (·.2.block)
  /-- The watermark does not step back. -/
  watermark_le {last : Nat} : follower.watermark = some last →
    ∃ later, (scene.next settings follower).watermark = some later ∧ last ≤ later

namespace History

/-- Every tick of a run merges in order. -/
theorem inOrder {settings : Settings} (hmax : 1 ≤ settings.maxBlocksPerTick) (store : Store)
    (before : List (Scene σ)) (scene : Scene σ) :
    scene.InOrder settings (run settings store before).follower
      (nextHeight? settings store before scene) where
  backed m hm := Scene.backed_inquiries _ (mem_of_mem_fetchedPrefix hm)
  le_latest m hm := Scene.exists_latest_of_mem_merged hm
  length_le := by
    rw [← List.length_map (f := Prod.fst)]
    cases hlatest : scene.latest with
    | error e =>
      rw [Scene.merged, Scene.fetched_of_error hlatest]
      exact Nat.zero_le _
    | ok latest =>
      obtain ⟨k, hrange, hk⟩ := Scene.merged_eq_range settings
        (run settings store before).follower.state hlatest
      rw [hrange, List.length_range']
      omega
  full {latest next} hlatest hnext hok := by
    -- a fetch that failed would be backed by a call that failed
    have hnextHeight := (kept settings store before).nextHeight?_eq hlatest
    obtain rfl := Option.some.inj (hnextHeight.symm.trans hnext)
    have hfetched : ∀ fetch ∈ scene.fetched settings (run settings store before).follower.state,
        ∃ fetched, fetch.2 = .ok fetched := by
      rintro ⟨height, _ | fetched⟩ hmem
      · obtain ⟨x, hx, hfailed⟩ := Scene.backed_inquiries _ hmem
        exact absurd hfailed (hok x hx)
      · exact ⟨fetched, rfl⟩
    rw [Scene.merged, map_fst_fetchedPrefix hfetched, Scene.map_fst_fetched hlatest, batch,
      Nat.add_sub_assoc hmax]
  stops he m hm := lt_of_mem_fetchedPrefix Scene.pairwise_fetched hm he
  stage := Scene.blockStage_eq _ _ _
  blockWrites := Scene.blockWrites_progress
  watermark_le {last} hlast := by
    rcases (kept settings store before).merged_eq scene with hnil | ⟨next, k, hnext, hrange⟩
    · exact ⟨last, (Scene.watermark_next_of_nil hnil).trans hlast, Nat.le_refl _⟩
    · rw [nextHeight?, hlast] at hnext
      obtain rfl : last + 1 = next := Option.some.inj hnext
      exact ⟨_, Scene.watermark_next_of_range hrange, by omega⟩

/-- **Heights are merged without a gap.** Whatever the gateways of a run answer, the merged heights
are all those from the first height up to the watermark, in order and once each, and every tick
merges in order. -/
theorem heights_contiguous (settings : Settings) (hmax : 1 ≤ settings.maxBlocksPerTick)
    (store : Store) (scenes : List (Scene σ)) :
    ((run settings store scenes).follower.watermark = none ↔
      (run settings store scenes).merged = []) ∧
    (∀ last, (run settings store scenes).follower.watermark = some last →
      ∃ first, firstHeight? settings scenes = some first ∧ first ≤ last ∧
        (run settings store scenes).heights = List.range' first (last + 1 - first)) ∧
    ∀ before scene after, scenes = before ++ scene :: after →
      scene.InOrder settings (run settings store before).follower
        (nextHeight? settings store before scene) := by
  have hkept := kept settings store scenes
  refine ⟨⟨fun hw => List.map_eq_nil_iff.mp (hkept.unmerged hw), fun hnil => ?_⟩,
    fun _ => hkept.merged, fun before scene _ _ => inOrder hmax store before scene⟩
  cases hw : (run settings store scenes).follower.watermark with
  | none => rfl
  | some last =>
    -- a watermark stands on a height that was merged
    obtain ⟨first, -, hle, heq⟩ := hkept.merged hw
    rw [heights, hnil, List.map_nil, eq_comm, List.range'_eq_nil_iff] at heq
    omega

/-- A tick that hears of a latest height and can fetch every block but one. -/
def sampleScene (latest missing : Nat) : Scene Unit where
  gateway := {
    ask
      | .latestHeight, _ => (.ok latest, ())
      | .block height, _ =>
        (if height = missing then .error .transport else .ok (Block.sample height), ())
      | .contents _, _ => (.ok ⟨[], []⟩, ())
      | _, _ => (.error .transport, ()) }
  chain := ()
  moment := ⟨fun _ => 0, Span.zero⟩

/-- Four ticks of at most two heights: the second cannot fetch the height 6, and the third hears of
a latest height behind the watermark. -/
theorem heights_contiguous_of_sample :
    ∃ first, firstHeight? { Settings.standard with maxBlocksPerTick := 2 }
        [sampleScene 4 0, sampleScene 6 6, sampleScene 4 0, sampleScene 9 0] = some first ∧
      first ≤ 7 ∧
      (run { Settings.standard with maxBlocksPerTick := 2 } Store.empty
        [sampleScene 4 0, sampleScene 6 6, sampleScene 4 0, sampleScene 9 0]).heights =
          List.range' first (7 + 1 - first) :=
  (heights_contiguous _ (by decide) _ _).2.1 7 (by decide +kernel)

end History

end ChainFeed
