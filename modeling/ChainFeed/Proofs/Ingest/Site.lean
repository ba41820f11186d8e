import ChainFeed.Proofs.Ingest.Heights
import ChainFeed.Proofs.Ingest.Ledger
import ChainFeed.Proofs.Ingest.Statuses

/-!
# Ticks at a chain in memory

A **site** is a chain in memory and a follower of it. Ticks happen at the site, and calls for blocks
are laid down to fail, in any order.

A tick leaves a later chain behind (`Site.later_tick`). What it merges is what the chain holds, and
it does to the ledger of the follower what merging its heights one by one does (`Site.index_tick`):
the stages behind the first one do not touch the ledger, because the status that a stored
transaction has is the one that the chain holds for it. If a tick merges nothing although there is a
next block, it uses up a failure that was laid down for it (`Site.failuresAt_tick_lt`).
-/

namespace ChainFeed

open Ingest

namespace ScriptedChain

/-! ### What a tick does to a chain in memory -/

theorem fetchAccount_later (address : String) (chain : ScriptedChain) :
    Later chain (fetchAccount gateway address chain).2 := by
  have haccount := ask_later (.account address) chain
  unfold fetchAccount
  split <;> rename_i heq <;> rw [heq] at haccount
  · exact haccount
  · exact haccount.trans (ask_later (.contracts address) _)

theorem ingestBlocks_later (settings : Settings) (moment : Moment) (chain : ScriptedChain)
    (p : Progress) : Later chain (ingestBlocks gateway settings moment chain p).2 := by
  have hlatest := ask_later .latestHeight chain
  unfold ingestBlocks
  split <;> rename_i heq <;> rw [heq] at hlatest
  · exact hlatest
  · exact hlatest.trans (askEach_later fetchBlock_later _ _)

theorem indexAccounts_later (settings : Settings) (moment : Moment) (chain : ScriptedChain)
    (p : Progress) : Later chain (indexAccounts gateway settings moment chain p).2 :=
  askEach_later (fun (waiting : String × Pending) => fetchAccount_later waiting.1) _ chain

theorem refreshStatuses_later (moment : Moment) (chain : ScriptedChain) (p : Progress) :
    Later chain (refreshStatuses gateway moment chain p).2 :=
  askEach_later (fun transaction => ask_later (.status transaction.id)) _ chain

theorem resyncStorage_later (settings : Settings) (moment : Moment) (chain : ScriptedChain)
    (p : Progress) : Later chain (resyncStorage gateway settings moment chain p).2 := by
  have hlist := fun addresses =>
    askEach_later (fun address => ask_later (.storage address)) addresses chain
  unfold resyncStorage
  dsimp only
  split
  · exact hlist _
  · split
    · exact .refl chain
    · exact hlist _

end ScriptedChain

open ScriptedChain

/-- What can happen to a follower of a chain in memory. -/
inductive Happening where
  /-- A tick. -/
  | tick (moment : Moment)
  /-- Calls for the block at a height are going to fail. -/
  | failBlock (height times : Nat)

/-- A chain in memory and a follower of it. -/
structure Site where
  /-- The chain. -/
  chain : ScriptedChain
  /-- The follower. -/
  follower : Follower

namespace Site

/-- A chain and a follower that was just reset. -/
def fresh (store : Store) (chain : ScriptedChain) : Site := ⟨chain, ⟨store.clear, State.initial⟩⟩

/-- What the next tick meets. -/
def scene (moment : Moment) (site : Site) : Scene ScriptedChain := ⟨gateway, site.chain, moment⟩

/-- The site after a tick. -/
def tick (settings : Settings) (moment : Moment) (site : Site) : Site where
  chain := (site.follower.tick gateway settings moment site.chain).2.2
  follower := (site.scene moment).next settings site.follower

/-- The site after something happened. -/
def happen (settings : Settings) (site : Site) : Happening → Site
  | .tick moment => site.tick settings moment
  | .failBlock height times => { site with chain := site.chain.failBlock height times }

/-- The site after some happenings. -/
def run (settings : Settings) (site : Site) (happenings : List Happening) : Site :=
  happenings.foldl (happen settings) site

@[simp]
theorem run_nil (settings : Settings) (site : Site) : site.run settings [] = site := rfl

@[simp]
theorem run_cons (settings : Settings) (site : Site) (happening : Happening)
    (rest : List Happening) :
    site.run settings (happening :: rest) = (site.happen settings happening).run settings rest :=
  rfl

theorem run_append (settings : Settings) (site : Site) (happenings more : List Happening) :
    site.run settings (happenings ++ more) = (site.run settings happenings).run settings more :=
  List.foldl_append

variable {settings : Settings} {moment : Moment} {site : Site}

@[simp]
theorem follower_tick :
    (site.tick settings moment).follower = (site.scene moment).next settings site.follower := rfl

theorem store_tick : (site.tick settings moment).follower.store =
    (site.follower.run gateway settings moment site.chain).1.store := by
  rw [follower_tick, Scene.next, scene, Follower.tick_eq]

theorem chain_tick : (site.tick settings moment).chain =
    (site.follower.run gateway settings moment site.chain).2 := by
  rw [tick, Follower.tick_eq]

/-- The stages behind the first one change no answers and lay down no failures. -/
theorem later_tick_of_ingestBlocks (settings : Settings) (moment : Moment) (site : Site) :
    Later (ingestBlocks gateway settings moment site.chain
        (Progress.start site.follower.store site.follower.state)).2
      (site.tick settings moment).chain := by
  rw [chain_tick, Follower.run_eq]
  exact (indexAccounts_later settings moment _ _).trans
    ((refreshStatuses_later moment _ _).trans (resyncStorage_later settings moment _ _))

/-- **After a tick, the chain is a later one.** -/
theorem later_tick (settings : Settings) (moment : Moment) (site : Site) :
    Later site.chain (site.tick settings moment).chain :=
  (ingestBlocks_later settings moment _ _).trans (later_tick_of_ingestBlocks settings moment site)

/-! ### What a tick does to the ledger -/

/-- A tick hears of the latest height of the chain. -/
theorem latest_scene :
    (site.scene moment).latest = found "sealed block" site.chain.blocks.maxKey? := by
  rw [Scene.latest, scene]
  rfl

/-- What a tick merges is what the chain holds. -/
theorem at?_of_mem_merged {state : Ingest.State} {m : Nat × FetchedBlock}
    (h : m ∈ (site.scene moment).merged settings state) : site.chain.at? m.1 = some m.2 := by
  replace h := mem_of_mem_fetchedPrefix h
  unfold Scene.fetched at h
  split at h
  · cases h
  · rename_i latest chain heq
    obtain rfl : site.chain = chain := congrArg Prod.snd heq
    exact at?_of_mem_askEach h

/-- The progress after the heights of a tick, merged one by one. -/
def mergedBy (settings : Settings) (moment : Moment) (site : Site) : Progress :=
  (Progress.start site.follower.store
    ((site.scene moment).heard settings site.follower.state)).mergeEach moment
      ((site.scene moment).merged settings site.follower.state)

theorem store_blockStage :
    ((site.scene moment).blockStage settings site.follower).store =
      (site.mergedBy settings moment).store := by
  obtain ⟨failures, heq⟩ := Scene.blockStage_eq settings site.follower (site.scene moment)
  rw [heq]
  rfl

/-- Merging the heights of a tick keeps track of the statuses. -/
theorem mergedBy_tracks
    (h : site.follower.store.transactions.Tracks site.chain.statuses) :
    (site.mergedBy settings moment).store.transactions.Tracks site.chain.statuses :=
  Progress.mergeEach_tracks (p := Progress.start site.follower.store _) h
    fun _ hm => status_of_at? (at?_of_mem_merged hm)

private theorem notMem_of_mem_ledger :
    ∀ kind ∈ Kind.ledger, kind ∉ [Kind.storageItem] ∧ kind ∉ [Kind.account, Kind.contract] := by
  decide

/-- The stages behind the first one do not change the ledger, as long as the stored transactions
track the statuses of the chain. -/
theorem index_behind (p : Progress) (chain : ScriptedChain)
    (h : p.store.transactions.Tracks chain.statuses) {kind : Kind} (hkind : kind ∈ Kind.ledger) :
    (resyncStorage gateway settings moment
      (refreshStatuses gateway moment (indexAccounts gateway settings moment chain p).2
        (indexAccounts gateway settings moment chain p).1).2
      (refreshStatuses gateway moment (indexAccounts gateway settings moment chain p).2
        (indexAccounts gateway settings moment chain p).1).1).1.store.index kind =
      p.store.index kind := by
  -- accounts and storage are not in the ledger; statuses are, but there is none to advance
  have haccounts := indexAccounts_follows moment gateway settings chain p
  have hchain := (indexAccounts_later settings moment chain p).statuses
  generalize indexAccounts gateway settings moment chain p = b at haccounts hchain
  have htracks : b.1.store.transactions.Tracks b.2.statuses := by
    have htransactions : b.1.store.transactions = p.store.transactions :=
      haccounts.index_eq (notMem_of_mem_ledger .transaction (by decide)).2
    rwa [hchain, htransactions]
  have hstatuses := store_refreshStatuses moment htracks
  generalize refreshStatuses gateway moment b.2 b.1 = c at hstatuses
  calc (resyncStorage gateway settings moment c.2 c.1).1.store.index kind
      = c.1.store.index kind :=
        (resyncStorage_follows moment gateway settings c.2 c.1).index_eq
          (notMem_of_mem_ledger kind hkind).1
    _ = b.1.store.index kind := by rw [hstatuses]
    _ = p.store.index kind := haccounts.index_eq (notMem_of_mem_ledger kind hkind).2

/-- **A tick does to the ledger what merging its heights one by one does**, as long as the stored
transactions track the statuses of the chain. -/
theorem index_tick (h : site.follower.store.transactions.Tracks site.chain.statuses) {kind : Kind}
    (hkind : kind ∈ Kind.ledger) :
    (site.tick settings moment).follower.store.index kind =
      (site.mergedBy settings moment).store.index kind := by
  have hstage : (ingestBlocks gateway settings moment site.chain
      (Progress.start site.follower.store site.follower.state)).1.store = _ :=
    store_blockStage
  have hchain := ingestBlocks_later settings moment site.chain
    (Progress.start site.follower.store site.follower.state)
  rw [← hstage, store_tick, Follower.run_eq]
  refine index_behind _ _ ?_ hkind
  rw [hstage, hchain.statuses]
  exact mergedBy_tracks h

/-- If a tick merges nothing although the chain holds the next block, it uses up a failure. -/
theorem failuresAt_tick_lt {last height : Nat} {fetched : FetchedBlock}
    (hlast : site.chain.blocks.maxKey? = some last)
    (hheight : (site.follower.state.nextHeight settings last).1 = height) (hle : height ≤ last)
    (hat : site.chain.at? height = some fetched)
    (hnil : (site.scene moment).merged settings site.follower.state = []) :
    (site.tick settings moment).chain.failuresAt height < site.chain.failuresAt height := by
  have hask : gateway.ask .latestHeight site.chain = (.ok last, site.chain) := by
    show (found "sealed block" site.chain.blocks.maxKey?, site.chain) = _
    rw [hlast, found]
  obtain ⟨rest, hbatch⟩ : ∃ rest, batch settings last height = height :: rest := by
    refine ⟨_, List.range'_eq_cons_iff.mpr ⟨rfl, ?_, rfl⟩⟩
    omega
  have hchain : (ingestBlocks gateway settings moment site.chain
      (Progress.start site.follower.store site.follower.state)).2 =
      (askEach (fetchBlock gateway) (height :: rest) site.chain).2 := by
    rw [← hbatch, ← hheight, ingestBlocks, hask]
    rfl
  have hmerged : (site.scene moment).merged settings site.follower.state =
      fetchedPrefix (askEach (fetchBlock gateway) (height :: rest) site.chain).1 := by
    rw [← hbatch, ← hheight, Scene.merged, Scene.fetched, scene, hask]
  have hlater := later_tick_of_ingestBlocks settings moment site
  rw [hmerged] at hnil
  rw [hchain] at hlater
  exact (hlater.failures_le _).trans_lt (failuresAt_askEach_lt hat hnil)

end Site

end ChainFeed
