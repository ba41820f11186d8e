import Mathlib.Algebra.GroupWithZero.Nat
import Mathlib.Algebra.Order.BigOperators.Group.List
import Mathlib.Algebra.Order.Group.Nat
import ChainFeed.Proofs.Ingest.Site
import ChainFeed.Resource.Sample

/-!
# Runs converge

However a run at a site is cut into ticks, and whatever fails in between, the ledger of the follower
is what merging the heights up to its watermark one by one makes of an empty store. That is the
invariant of a run (`Site.Faithful`).

While the watermark is not at the latest height of the chain, every tick merges a height or uses up
a failure, so less is **left to do** after it (`Site.Faithful.todo_tick_lt`), and the watermark gets
there once there are enough ticks. So any two runs at the same chain agree wherever their watermarks
do (`Site.converge`).
-/

namespace ChainFeed

open Ingest ScriptedChain

namespace ScriptedChain

/-- The chain was laid down and has a block at each height from `first` to its latest one. -/
structure Spans (first last : Nat) (chain : ScriptedChain) : Prop where
  /-- The chain was laid down. -/
  laidDown : chain.LaidDown
  /-- The latest height is `last`. -/
  latest : chain.blocks.maxKey? = some last
  /-- The first height is not beyond the latest one. -/
  le : first ≤ last
  /-- There is no gap between them. -/
  blocks {height : Nat} : first ≤ height → height ≤ last → (chain.blocks[height]?).isSome

/-- The blocks of the span are held with what they carry. -/
theorem Spans.exists_at? {first last height : Nat} {chain : ScriptedChain}
    (h : chain.Spans first last) (hfirst : first ≤ height) (hlast : height ≤ last) :
    ∃ fetched, chain.at? height = some fetched :=
  h.laidDown.exists_at? (h.blocks hfirst hlast)

/-- The blocks that the chain holds from a height up to a watermark. -/
def upTo (first : Nat) (watermark : Option Nat) (chain : ScriptedChain) :
    List (Nat × FetchedBlock) :=
  match watermark with
  | none => []
  | some last =>
    (List.range' first (last + 1 - first)).filterMap fun height =>
      (chain.at? height).map (Prod.mk height)

/-- Blocks that the chain holds are determined by their heights. -/
theorem eq_filterMap_of_at? {chain : ScriptedChain} {blocks : List (Nat × FetchedBlock)}
    (h : ∀ m ∈ blocks, chain.at? m.1 = some m.2) :
    blocks = (blocks.map Prod.fst).filterMap fun height =>
      (chain.at? height).map (Prod.mk height) := by
  induction blocks with
  | nil => rfl
  | cons m blocks ih =>
    rw [List.forall_mem_cons] at h
    rw [List.map_cons, List.filterMap_cons, h.1, ← ih h.2]
    rfl

end ScriptedChain

namespace Site

variable {settings : Settings} {moment : Moment} {site : Site}

/-! ### What is left to do -/

/-- The watermark is `last` once there are enough more ticks, whenever they happen. -/
def Reaches (settings : Settings) (last : Nat) (site : Site) : Prop :=
  ∃ n, ∀ moments : List Moment, n ≤ moments.length →
    (site.run settings (moments.map .tick)).follower.watermark = some last

/-- The height that the follower goes for next if the merging begins with `first`. -/
def next (first : Nat) (site : Site) : Nat := (site.follower.watermark.map (· + 1)).getD first

/-- How much is left to do up to the height `last`: the heights that are not merged, and the
failures ahead of all heights. -/
def todo (first last : Nat) (site : Site) : Nat :=
  (last + 1 - site.next first) +
    ((List.range' first (last + 1 - first)).map fun height => site.chain.failuresAt height).sum

/-! ### The invariant of a run -/

/-- A site where `scenes` were met since a reset, while the chain held the same as `chain` all the
time. -/
structure Faithful (settings : Settings) (store : Store) (chain : ScriptedChain) (moment : Moment)
    (scenes : List (Scene ScriptedChain)) (site : Site) : Prop where
  /-- The chain holds the same. -/
  answers : SameAnswers chain site.chain
  /-- The follower went through the scenes. -/
  follower_eq : site.follower = (History.run settings store.clear scenes).follower
  /-- Each tick heard of the latest height of the chain. -/
  latest : ∀ scene ∈ scenes, scene.latest = found "sealed block" chain.blocks.maxKey?
  /-- What was merged is what the chain holds. -/
  held : ∀ m ∈ (History.run settings store.clear scenes).merged, chain.at? m.1 = some m.2
  /-- The stored transactions track the statuses of the chain. -/
  tracks : site.follower.store.transactions.Tracks chain.statuses
  /-- The ledger is what merging the heights one by one makes of an empty store. -/
  ledger : site.follower.store.SameLedger
    ((Progress.start Store.empty State.initial).mergeEach moment
      (History.run settings store.clear scenes).merged).store

namespace Faithful

variable {store : Store} {chain : ScriptedChain} {scenes : List (Scene ScriptedChain)}
  {reference : Moment}

theorem fresh (settings : Settings) (store : Store) (chain : ScriptedChain) (reference : Moment) :
    Faithful settings store chain reference [] (Site.fresh store chain) where
  answers := .refl chain
  follower_eq := rfl
  latest _ h := absurd h List.not_mem_nil
  held _ h := absurd h List.not_mem_nil
  tracks := .clear _
  ledger := .clear store Store.empty

theorem failBlock (h : Faithful settings store chain reference scenes site) (height times : Nat) :
    Faithful settings store chain reference scenes
      { site with chain := site.chain.failBlock height times } where
  answers := h.answers.trans (failBlock_sameAnswers height times site.chain)
  follower_eq := h.follower_eq
  latest := h.latest
  held := h.held
  tracks := h.tracks
  ledger := h.ledger

/-- **A tick keeps a site faithful.** -/
theorem tick (h : Faithful settings store chain reference scenes site) (moment : Moment) :
    Faithful settings store chain reference (scenes ++ [site.scene moment])
      (site.tick settings moment) := by
  have htracks : site.follower.store.transactions.Tracks site.chain.statuses := by
    rw [h.answers.statuses]
    exact h.tracks
  have hmerged : (History.run settings store.clear (scenes ++ [site.scene moment])).merged =
      (History.run settings store.clear scenes).merged ++
        (site.scene moment).merged settings site.follower.state := by
    rw [History.run_concat, h.follower_eq]
    rfl
  refine ⟨h.answers.trans (later_tick settings moment site).toSameAnswers, ?_, ?_, ?_, ?_, ?_⟩
  · rw [History.follower_run_concat, ← h.follower_eq, follower_tick]
  · intro scene hmem
    rcases List.mem_append.mp hmem with hmem | hmem
    · exact h.latest scene hmem
    · obtain rfl := List.mem_singleton.mp hmem
      rw [latest_scene, h.answers.blocks]
  · rw [hmerged]
    intro m hm
    rcases List.mem_append.mp hm with hm | hm
    · exact h.held m hm
    · rw [← h.answers.at?_eq]
      exact at?_of_mem_merged hm
  · -- what the merging tracks, the stages behind it leave alone
    have htransactions : (site.tick settings moment).follower.store.index .transaction =
        (site.mergedBy settings moment).store.index .transaction :=
      index_tick htracks (by decide)
    rw [Store.index_transaction, Store.index_transaction] at htransactions
    rw [htransactions, ← h.answers.statuses]
    exact mergedBy_tracks htracks
  · rw [hmerged, Progress.mergeEach_append]
    exact (Store.SameLedger.of_index_eq fun _ => index_tick htracks).trans
      (Progress.mergeEach_sameLedger h.ledger _)

/-- Whatever happens keeps a site faithful. -/
theorem run (h : Faithful settings store chain reference scenes site)
    (happenings : List Happening) :
    ∃ scenes, Faithful settings store chain reference scenes (site.run settings happenings) := by
  induction happenings generalizing scenes site with
  | nil => exact ⟨scenes, h⟩
  | cons happening rest ih =>
    rw [run_cons]
    cases happening with
    | tick moment => exact ih (h.tick moment)
    | failBlock height times => exact ih (h.failBlock height times)

/-! ### What a faithful site holds -/

section

variable {first last : Nat} (h : Faithful settings store chain reference scenes site)
  (hspans : chain.Spans first last) (hfirst : settings.startHeight.getD last = first)

include h hspans

theorem latest_eq : ∀ scene ∈ scenes, scene.latest = .ok last := by
  intro scene hmem
  rw [h.latest scene hmem, hspans.latest, found]

theorem latest_scene (moment : Moment) : (site.scene moment).latest = .ok last :=
  (h.tick moment).latest_eq hspans _ (List.mem_append_right _ (List.mem_singleton_self _))

include hfirst

/-- The merging begins with the height that the settings give or, without one, with the latest
height of the chain. -/
theorem firstHeight?_eq {height : Nat}
    (hheight : History.firstHeight? settings scenes = some height) : height = first := by
  unfold History.firstHeight? History.firstLatest? at hheight
  cases hstart : settings.startHeight with
  | some start =>
    rw [hstart] at hheight hfirst
    exact (Option.some.inj hheight).symm.trans hfirst
  | none =>
    rw [hstart, Option.none_or] at hheight
    rw [hstart] at hfirst
    obtain ⟨scene, hmem, hscene⟩ := List.exists_of_findSome?_eq_some hheight
    rw [h.latest_eq hspans scene hmem] at hscene
    exact (Option.some.inj hscene).symm.trans hfirst

/-- The merged heights are those from the first one to the watermark. -/
theorem heights_eq {watermark : Nat} (hw : site.follower.watermark = some watermark) :
    first ≤ watermark ∧ (History.run settings store.clear scenes).heights =
      List.range' first (watermark + 1 - first) := by
  rw [h.follower_eq] at hw
  obtain ⟨height, hheight, hle, heq⟩ := (History.kept settings store.clear scenes).merged hw
  obtain rfl := h.firstHeight?_eq hspans hfirst hheight
  exact ⟨hle, heq⟩

/-- The watermark is not beyond the latest height. -/
theorem watermark_le {watermark : Nat} (hw : site.follower.watermark = some watermark) :
    watermark ≤ last := by
  obtain ⟨hle, heq⟩ := h.heights_eq hspans hfirst hw
  have hmem : watermark ∈ (History.run settings store.clear scenes).heights := by
    rw [heq, List.mem_range'_1]
    omega
  obtain ⟨m, hm, rfl⟩ := List.mem_map.mp hmem
  exact le_of_at? hspans.latest (h.held m hm)

/-- What was merged are the blocks of the chain up to the watermark. -/
theorem merged_eq : (History.run settings store.clear scenes).merged =
    chain.upTo first site.follower.watermark := by
  have hmerged := eq_filterMap_of_at? h.held
  cases hw : site.follower.watermark with
  | none =>
    rw [h.follower_eq] at hw
    exact List.map_eq_nil_iff.mp ((History.kept settings store.clear scenes).unmerged hw)
  | some watermark =>
    rw [upTo, ← (h.heights_eq hspans hfirst hw).2]
    exact hmerged

/-! ### Progress -/

/-- The tick goes first for the height that comes next. -/
theorem nextHeight_eq : (site.follower.state.nextHeight settings last).1 = site.next first := by
  have hkept := History.kept settings store.clear scenes
  have heq := hkept.nextHeight?_eq (h.latest_scene hspans reference)
  unfold History.nextHeight? at heq
  rw [← h.follower_eq] at heq
  unfold Site.next
  cases hw : site.follower.watermark with
  | none =>
    rw [hw] at heq
    exact (h.tick reference).firstHeight?_eq hspans hfirst heq
  | some watermark =>
    rw [hw] at heq
    exact (Option.some.inj heq).symm

/-- A tick merges nothing, or the heights from the next one on. -/
theorem merged_tick (moment : Moment) :
    (site.scene moment).merged settings site.follower.state = [] ∨
      ∃ k, ((site.scene moment).merged settings site.follower.state).map Prod.fst =
        List.range' (site.next first) (k + 1) := by
  obtain ⟨k, hrange, -⟩ :=
    Scene.merged_eq_range settings site.follower.state (h.latest_scene hspans moment)
  rw [h.nextHeight_eq hspans hfirst] at hrange
  cases k with
  | zero => exact .inl (List.map_eq_nil_iff.mp hrange)
  | succ k => exact .inr ⟨k, hrange⟩

/-- A watermark at the latest height stays there. -/
theorem watermark_tick_eq (hw : site.follower.watermark = some last) (moment : Moment) :
    (site.tick settings moment).follower.watermark = some last := by
  have hle : ∀ later, (site.tick settings moment).follower.watermark = some later → later ≤ last :=
    fun _ => (h.tick moment).watermark_le hspans hfirst
  rw [follower_tick] at hle ⊢
  rcases h.merged_tick hspans hfirst moment with hnil | ⟨k, hrange⟩
  · rw [Scene.watermark_next_of_nil hnil, hw]
  · -- there is no height to merge
    replace hle := hle _ (Scene.watermark_next_of_range hrange)
    rw [next, hw, Option.map_some, Option.getD_some] at hle
    omega

theorem watermark_ticks_eq (hw : site.follower.watermark = some last) (moments : List Moment) :
    (site.run settings (moments.map .tick)).follower.watermark = some last := by
  induction moments generalizing site scenes with
  | nil => exact hw
  | cons moment rest ih =>
    rw [List.map_cons, run_cons]
    exact ih (h.tick moment) (h.watermark_tick_eq hspans hfirst hw moment)

/-- While the watermark is not at the latest height, there is a next height to merge. -/
theorem next_mem (hw : site.follower.watermark ≠ some last) :
    first ≤ site.next first ∧ site.next first ≤ last := by
  unfold next
  cases hwatermark : site.follower.watermark with
  | none => exact ⟨Nat.le_refl _, hspans.le⟩
  | some watermark =>
    have hlower := (h.heights_eq hspans hfirst hwatermark).1
    have hupper := h.watermark_le hspans hfirst hwatermark
    have hne : watermark ≠ last := fun heq => hw (heq ▸ hwatermark)
    simp only [Option.map_some, Option.getD_some]
    omega

/-- **While the watermark is not at the latest height, less is left to do after every tick.** -/
theorem todo_tick_lt (hw : site.follower.watermark ≠ some last) (moment : Moment) :
    (site.tick settings moment).todo first last < site.todo first last := by
  have hfailures := (later_tick settings moment site).failures_le
  obtain ⟨hlower, hupper⟩ := h.next_mem hspans hfirst hw
  unfold todo
  rcases h.merged_tick hspans hfirst moment with hnil | ⟨k, hrange⟩
  · -- a failure ahead of the next height is used up
    have hsame : (site.tick settings moment).next first = site.next first := by
      rw [next, next, follower_tick, Scene.watermark_next_of_nil hnil]
    have hlatest := hspans.latest
    obtain ⟨fetched, hat⟩ := hspans.exists_at? hlower hupper
    rw [← h.answers.blocks] at hlatest
    rw [← h.answers.at?_eq] at hat
    have hlt := failuresAt_tick_lt hlatest (h.nextHeight_eq hspans hfirst) hupper hat hnil
    rw [hsame]
    refine Nat.add_lt_add_left (List.sum_lt_sum _ _ (fun height _ => hfailures height)
      ⟨site.next first, ?_, hlt⟩) _
    rw [List.mem_range'_1]
    omega
  · -- the watermark moves on
    have hlater : (site.tick settings moment).next first = site.next first + k + 1 := by
      rw [next, follower_tick, Scene.watermark_next_of_range hrange, Option.map_some,
        Option.getD_some]
    have hsum : ((List.range' first (last + 1 - first)).map fun height =>
        (site.tick settings moment).chain.failuresAt height).sum ≤
        ((List.range' first (last + 1 - first)).map fun height =>
          site.chain.failuresAt height).sum :=
      List.sum_le_sum fun height _ => hfailures height
    rw [hlater]
    omega

/-- **Enough ticks take the watermark to the latest height.** -/
theorem watermark_ticks (moments : List Moment) (hn : site.todo first last ≤ moments.length) :
    (site.run settings (moments.map .tick)).follower.watermark = some last := by
  induction moments generalizing site scenes with
  | nil =>
    by_contra hw
    have hlt := h.todo_tick_lt hspans hfirst hw reference
    rw [Nat.le_zero.mp hn] at hlt
    exact Nat.not_lt_zero _ hlt
  | cons moment rest ih =>
    by_cases hw : site.follower.watermark = some last
    · exact h.watermark_ticks_eq hspans hfirst hw (moment :: rest)
    · have hlt := h.todo_tick_lt hspans hfirst hw moment
      rw [List.map_cons, run_cons]
      exact ih (h.tick moment) (Nat.le_of_lt_succ (hlt.trans_le hn))

theorem reaches : site.Reaches settings last :=
  ⟨site.todo first last, h.watermark_ticks hspans hfirst⟩

end

end Faithful

/-! ### Two runs -/

/-- **Runs converge.** Two followers start over on the same chain, which has a block at each height
from the first one to the latest one. Whatever failures are laid down and however the ticks fall,
both watermarks reach the latest height once there are enough ticks behind; and whenever the
watermarks agree, so do the ledgers, which are what merging the heights up to the watermark one by
one makes of an empty store. -/
theorem converge {chain : ScriptedChain} {first last : Nat} (hspans : chain.Spans first last)
    {settings settings' : Settings} (hfirst : settings.startHeight.getD last = first)
    (hfirst' : settings'.startHeight.getD last = first) (store store' : Store)
    (happenings happenings' : List Happening) (moment : Moment) :
    ((fresh store chain).run settings happenings).Reaches settings last ∧
    ((fresh store' chain).run settings' happenings').Reaches settings' last ∧
    (((fresh store chain).run settings happenings).follower.watermark =
        ((fresh store' chain).run settings' happenings').follower.watermark →
      ((fresh store chain).run settings happenings).follower.store.SameLedger
          ((fresh store' chain).run settings' happenings').follower.store ∧
        ((fresh store chain).run settings happenings).follower.store.SameLedger
          ((Progress.start Store.empty State.initial).mergeEach moment
            (chain.upTo first
              ((fresh store chain).run settings happenings).follower.watermark)).store) := by
  obtain ⟨scenes, h⟩ := (Faithful.fresh settings store chain moment).run happenings
  obtain ⟨scenes', h'⟩ := (Faithful.fresh settings' store' chain moment).run happenings'
  refine ⟨h.reaches hspans hfirst, h'.reaches hspans hfirst', fun hw => ?_⟩
  have hledger := h.ledger
  have hledger' := h'.ledger
  rw [h.merged_eq hspans hfirst] at hledger
  rw [h'.merged_eq hspans hfirst', ← hw] at hledger'
  exact ⟨hledger.trans hledger'.symm, hledger⟩

/-- Two blocks. The second holds the transaction of the first again, next to a transaction without
an id and an event of a transaction that is unknown. -/
def sampleChain : ScriptedChain :=
  (ScriptedChain.empty.push (Block.sample 1)
    ⟨[.sample "tx-1" "block-1" "0x01"], [.sample "tx-1" 0 "flow.Deposited"]⟩).push (Block.sample 2)
    ⟨[.sample "tx-1" "block-2" "0x01", .sample "" "block-2" "0x01"],
      [.sample "tx-1" 1 "flow.Deposited", .sample "tx-2" 0 "flow.Deposited"]⟩

theorem spans_sampleChain : sampleChain.Spans 1 2 where
  laidDown := .push (.push .empty _ _) _ _
  latest := by cbv
  le := by decide
  blocks {height} hfirst hlast := by
    obtain rfl | rfl : height = 1 ∨ height = 2 := by omega
    · rfl
    · rfl

/-- Settings that merge the sample chain one height a tick. -/
def oneByOne : Settings := { Settings.standard with startHeight := some 1, maxBlocksPerTick := 1 }

/-- Settings that merge the sample chain in one tick. -/
def allAtOnce : Settings := { Settings.standard with startHeight := some 1 }

/-- One follower meets a failure at each block and merges them one by one; the other one meets no
failure and merges them in one tick. Both reach the latest height and hold the same ledger there. -/
theorem converge_of_sample : ∃ slow quick : List Happening,
    ((fresh Store.empty sampleChain).run oneByOne
      (.failBlock 1 1 :: .failBlock 2 1 :: slow)).follower.watermark = some 2 ∧
    ((fresh Store.empty sampleChain).run allAtOnce quick).follower.watermark = some 2 ∧
    ((fresh Store.empty sampleChain).run oneByOne
      (.failBlock 1 1 :: .failBlock 2 1 :: slow)).follower.store.SameLedger
        ((fresh Store.empty sampleChain).run allAtOnce quick).follower.store := by
  have hslow : oneByOne.startHeight.getD 2 = 1 := rfl
  have hquick : allAtOnce.startHeight.getD 2 = 1 := rfl
  let moment : Moment := ⟨fun _ => 0, Span.zero⟩
  obtain ⟨⟨m, hm⟩, ⟨n, hn⟩, -⟩ := converge spans_sampleChain hslow hquick Store.empty Store.empty
    [.failBlock 1 1, .failBlock 2 1] [] moment
  replace hm := hm (List.replicate m moment) (by rw [List.length_replicate])
  replace hn := hn (List.replicate n moment) (by rw [List.length_replicate])
  rw [← run_append] at hm hn
  exact ⟨_, _, hm, hn, ((converge spans_sampleChain hslow hquick Store.empty Store.empty
    _ _ moment).2.2 (hm.trans hn.symm)).1⟩

end Site

end ChainFeed
