import Mathlib.Order.Nat
import ChainFeed.Gateway.Scripted
import ChainFeed.Proofs.Ingest.Merging

/-!
# What calls do to a chain in memory

A chain in memory that was **laid down** (`ScriptedChain.LaidDown`) knows what each of its blocks
carries. Calls never change what it holds: after a call it is a **later** chain, which gives the
same answers and has no more failures ahead of it (`ScriptedChain.Later`).

So fetching the block at a height either finds the one that the chain holds there, or uses up one of
the failures that are laid down for it (`at?_of_fetchBlock`, `failuresAt_fetchBlock_lt`).
-/

namespace ChainFeed

open Ingest

namespace ScriptedChain

/-! ### Chains as they can be laid down -/

/-- The chain is laid down step by step. -/
inductive LaidDown : ScriptedChain → Prop
  | empty : LaidDown .empty
  | push {chain : ScriptedChain} (h : chain.LaidDown) (block : Block) (contents : BlockContents) :
    LaidDown (chain.push block contents)
  | setStatus {chain : ScriptedChain} (h : chain.LaidDown) (id : String)
    (status : TransactionStatus) : LaidDown (chain.setStatus id status)
  | setAccount {chain : ScriptedChain} (h : chain.LaidDown) (account : Account)
    (contracts : List Contract) : LaidDown (chain.setAccount account contracts)
  | setStorage {chain : ScriptedChain} (h : chain.LaidDown) (address : String)
    (items : List StorageItem) : LaidDown (chain.setStorage address items)
  | failBlock {chain : ScriptedChain} (h : chain.LaidDown) (height times : Nat) :
    LaidDown (chain.failBlock height times)
  | failAccount {chain : ScriptedChain} (h : chain.LaidDown) (address : String) :
    LaidDown (chain.failAccount address)
  | recoverAccount {chain : ScriptedChain} (h : chain.LaidDown) (address : String) :
    LaidDown (chain.recoverAccount address)
  | failStorage {chain : ScriptedChain} (h : chain.LaidDown) (address : String) :
    LaidDown (chain.failStorage address)
  | recoverStorage {chain : ScriptedChain} (h : chain.LaidDown) (address : String) :
    LaidDown (chain.recoverStorage address)

/-- The block at a height with what it carries, as the chain holds them. -/
def at? (height : Nat) (chain : ScriptedChain) : Option FetchedBlock := do
  let block ← chain.blocks[height]?
  let transactions ← chain.transactions[block.id]?
  let events ← chain.events[block.id]?
  some ⟨block, transactions.map chain.current, events⟩

/-- How many calls for what the block at a height carries are still going to fail. -/
def failuresAt (height : Nat) (chain : ScriptedChain) : Nat :=
  match chain.blocks[height]? with
  | some block => (chain.blockFailures[block.id]?).getD 0
  | none => 0

/-! ### Later chains -/

/-- The chains hold the same blocks with the same transactions and events, and the transactions
have the same status. -/
structure SameAnswers (a b : ScriptedChain) : Prop where
  /-- The blocks are the same. -/
  blocks : b.blocks = a.blocks
  /-- The transactions are the same. -/
  transactions : b.transactions = a.transactions
  /-- The events are the same. -/
  events : b.events = a.events
  /-- The statuses are the same. -/
  statuses : b.statuses = a.statuses

/-- The later chain gives the same answers and has no more failures ahead of it. -/
structure Later (earlier later : ScriptedChain) : Prop extends SameAnswers earlier later where
  /-- Nowhere are there more failures ahead. -/
  failures_le (height : Nat) : later.failuresAt height ≤ earlier.failuresAt height

variable {a b c chain : ScriptedChain}

theorem SameAnswers.refl (a : ScriptedChain) : SameAnswers a a := ⟨rfl, rfl, rfl, rfl⟩

theorem SameAnswers.trans (hab : SameAnswers a b) (hbc : SameAnswers b c) : SameAnswers a c :=
  ⟨hbc.blocks.trans hab.blocks, hbc.transactions.trans hab.transactions,
    hbc.events.trans hab.events, hbc.statuses.trans hab.statuses⟩

theorem SameAnswers.at?_eq (h : SameAnswers a b) (height : Nat) : b.at? height = a.at? height := by
  have hcurrent : b.current = a.current := by
    funext transaction
    rw [current, current, h.statuses]
  rw [at?, at?, h.blocks, h.transactions, h.events, hcurrent]

theorem Later.refl (a : ScriptedChain) : Later a a := ⟨.refl a, fun _ => Nat.le_refl _⟩

theorem Later.trans (hab : Later a b) (hbc : Later b c) : Later a c :=
  ⟨hab.toSameAnswers.trans hbc.toSameAnswers,
    fun height => (hbc.failures_le height).trans (hab.failures_le height)⟩

/-- Laying down failures changes no answers. -/
theorem failBlock_sameAnswers (height times : Nat) (chain : ScriptedChain) :
    SameAnswers chain (chain.failBlock height times) := by
  unfold failBlock
  split
  · exact ⟨rfl, rfl, rfl, rfl⟩
  · exact .refl chain

/-! ### What a laid-down chain knows -/

private theorem LaidDown.carried (h : chain.LaidDown) :
    ∀ {height : Nat} {block : Block}, chain.blocks[height]? = some block →
      (chain.transactions[block.id]?).isSome ∧ (chain.events[block.id]?).isSome := by
  induction h with
  | empty =>
    intro height block hblock
    exact absurd (hblock.symm.trans Std.TreeMap.getElem?_emptyc) (Option.some_ne_none _)
  | push h new contents ih =>
    intro height block hblock
    simp only [ScriptedChain.push, withStatuses, Std.TreeMap.getElem?_insert,
      Std.compare_eq_iff_eq] at hblock ⊢
    -- a block may be laid down under an id that another block has
    by_cases hid : new.id = block.id
    · simp [hid]
    · split at hblock
      · exact absurd (congrArg Block.id (Option.some.inj hblock)) hid
      · simpa [hid] using ih hblock
  | failBlock h height times ih =>
    have hsame := failBlock_sameAnswers height times
    intro height block
    rw [(hsame _).blocks, (hsame _).transactions, (hsame _).events]
    exact ih
  | _ => assumption

/-- A chain that is laid down knows what its blocks carry. -/
theorem LaidDown.exists_at? (h : chain.LaidDown) {height : Nat}
    (hblock : (chain.blocks[height]?).isSome) : ∃ fetched, chain.at? height = some fetched := by
  obtain ⟨block, hblock⟩ := Option.isSome_iff_exists.mp hblock
  obtain ⟨htransactions, hevents⟩ := h.carried hblock
  obtain ⟨transactions, ht⟩ := Option.isSome_iff_exists.mp htransactions
  obtain ⟨events, he⟩ := Option.isSome_iff_exists.mp hevents
  exact ⟨⟨block, transactions.map chain.current, events⟩, by simp [at?, hblock, ht, he]⟩

/-- The chain holds nothing beyond its latest height. -/
theorem le_of_at? {last height : Nat} {fetched : FetchedBlock}
    (hlast : chain.blocks.maxKey? = some last) (h : chain.at? height = some fetched) :
    height ≤ last := by
  have hmem : height ∈ chain.blocks := by
    cases hblock : chain.blocks[height]? with
    | none =>
      rw [at?, hblock] at h
      cases h
    | some block => exact Std.TreeMap.mem_iff_isSome_getElem?.mpr (Option.isSome_of_eq_some hblock)
  have hle := (Std.TreeMap.maxKey?_eq_some_iff_mem_and_forall.mp hlast).2 height hmem
  exact Nat.isLE_compare.mp hle

/-- The transactions of a block have the status that the chain holds for them. -/
theorem status_of_at? {height : Nat} {fetched : FetchedBlock}
    (h : chain.at? height = some fetched) :
    ∀ t ∈ fetched.contents.transactions, ∀ status, chain.statuses[t.id]? = some status →
      t.status = status := by
  unfold at? at h
  simp only [Option.bind_eq_bind, Option.bind_eq_some_iff, Option.some.injEq] at h
  obtain ⟨block, -, transactions, -, events, -, rfl⟩ := h
  intro t ht status hstatus
  obtain ⟨raw, -, rfl⟩ := List.mem_map.mp ht
  simp only [current] at hstatus ⊢
  rw [hstatus, Option.getD_some]

/-! ### Calls -/

/-- Asking for a block's transactions uses up a failure at most. -/
theorem askTransactions_later (blockId : String) (chain : ScriptedChain) :
    Later chain (chain.askTransactions blockId).2 := by
  unfold askTransactions
  split
  · rename_i times htimes
    refine ⟨⟨rfl, rfl, rfl, rfl⟩, fun height => ?_⟩
    unfold failuresAt
    cases chain.blocks[height]? with
    | none => exact Nat.le_refl _
    | some block =>
      simp only [Std.TreeMap.getElem?_insert, Std.compare_eq_iff_eq]
      by_cases hid : blockId = block.id
      · rw [if_pos hid, ← hid, htimes]
        exact Nat.le_succ _
      · rw [if_neg hid]
  · exact .refl chain

theorem askContents_later (blockId : String) (chain : ScriptedChain) :
    Later chain (chain.askContents blockId).2 := by
  have htransactions := askTransactions_later blockId chain
  unfold askContents
  split <;> rename_i heq <;> rw [heq] at htransactions <;> exact htransactions

/-- **After a call, the chain is a later one.** -/
theorem ask_later (call : Call) (chain : ScriptedChain) :
    Later chain (gateway.ask call chain).2 := by
  cases call with
  | transactions blockId => exact askTransactions_later blockId chain
  | contents blockId => exact askContents_later blockId chain
  | storage address => exact ⟨⟨rfl, rfl, rfl, rfl⟩, fun _ => Nat.le_refl _⟩
  | _ => exact .refl chain

theorem askEach_later {α β : Type} {ask : α → ScriptedChain → β × ScriptedChain}
    (h : ∀ item chain, Later chain (ask item chain).2) (items : List α) (chain : ScriptedChain) :
    Later chain (askEach ask items chain).2 := by
  induction items generalizing chain with
  | nil => exact .refl chain
  | cons item rest ih => exact (h item chain).trans (ih _)

/-- What is answered about a block is what the chain holds. -/
theorem askContents_ok {blockId : String} {contents : BlockContents}
    (h : (chain.askContents blockId).1 = .ok contents) :
    ∃ transactions, chain.transactions[blockId]? = some transactions ∧
      chain.events[blockId]? = some contents.events ∧
      contents.transactions = transactions.map chain.current := by
  unfold askContents askTransactions events? found at h
  split at h
  · cases h
  · rename_i transactions later heq
    split at heq
    · cases heq
    · cases ht : chain.transactions[blockId]? with
      | none =>
        rw [ht] at heq
        cases heq
      | some raw =>
        rw [ht] at heq
        cases heq
        cases he : chain.events[blockId]? with
        | none =>
          rw [he] at h
          cases h
        | some events =>
          rw [he] at h
          cases h
          exact ⟨raw, rfl, rfl, rfl⟩

/-- A question about a block that the chain knows fails only by using up a failure. -/
theorem askContents_error {blockId : String} {transactions : List Transaction}
    {events : List Event} {e : GatewayError} (ht : chain.transactions[blockId]? = some transactions)
    (he : chain.events[blockId]? = some events) (h : (chain.askContents blockId).1 = .error e) :
    ∃ times, chain.blockFailures[blockId]? = some (times + 1) ∧
      (chain.askContents blockId).2 =
        { chain with blockFailures := chain.blockFailures.insert blockId times } := by
  unfold askContents askTransactions at h ⊢
  split at h
  · rename_i later heq
    split at heq
    · rename_i times htimes
      cases heq
      exact ⟨times, htimes, rfl⟩
    · rw [ht] at heq
      cases heq
  · rename_i later heq
    split at heq
    · cases heq
    · obtain rfl : chain = later := congrArg Prod.snd heq
      rw [events?, he] at h
      cases h

/-! ### Fetching blocks -/

theorem fetchBlock_of_none {height : Nat} (h : chain.blocks[height]? = none) :
    fetchBlock gateway height chain =
      (.error (.notFound ("block at height " ++ toString height)), chain) := by
  simp only [fetchBlock, gateway, h, found]

theorem fetchBlock_of_some {height : Nat} {block : Block}
    (h : chain.blocks[height]? = some block) :
    fetchBlock gateway height chain =
      ((chain.askContents block.id).1.map (FetchedBlock.mk block),
        (chain.askContents block.id).2) := by
  simp only [fetchBlock, gateway, h, found]

theorem fetchBlock_later (height : Nat) (chain : ScriptedChain) :
    Later chain (fetchBlock gateway height chain).2 := by
  cases h : chain.blocks[height]? with
  | none =>
    rw [fetchBlock_of_none h]
    exact .refl chain
  | some block =>
    rw [fetchBlock_of_some h]
    exact askContents_later block.id chain

/-- A block that is fetched is the one that the chain holds. -/
theorem at?_of_fetchBlock {height : Nat} {fetched : FetchedBlock}
    (h : (fetchBlock gateway height chain).1 = .ok fetched) :
    chain.at? height = some fetched := by
  cases hblock : chain.blocks[height]? with
  | none =>
    rw [fetchBlock_of_none hblock] at h
    cases h
  | some block =>
    rw [fetchBlock_of_some hblock] at h
    cases hask : (chain.askContents block.id).1 with
    | error e =>
      rw [hask] at h
      cases h
    | ok contents =>
      rw [hask] at h
      obtain rfl := Except.ok.inj h
      obtain ⟨raw, ht, he, hraw⟩ := askContents_ok hask
      simp [at?, hblock, ht, he, ← hraw]

/-- A fetch that fails although the chain holds the block uses up a failure. -/
theorem failuresAt_fetchBlock_lt {height : Nat} {fetched : FetchedBlock} {e : GatewayError}
    (hat : chain.at? height = some fetched)
    (h : (fetchBlock gateway height chain).1 = .error e) :
    (fetchBlock gateway height chain).2.failuresAt height < chain.failuresAt height := by
  unfold at? at hat
  simp only [Option.bind_eq_bind, Option.bind_eq_some_iff, Option.some.injEq] at hat
  obtain ⟨block, hblock, transactions, ht, events, he, -⟩ := hat
  rw [fetchBlock_of_some hblock] at h ⊢
  cases hask : (chain.askContents block.id).1 with
  | ok contents =>
    rw [hask] at h
    cases h
  | error e =>
    obtain ⟨times, htimes, hlater⟩ := askContents_error ht he hask
    rw [hlater]
    simp only [failuresAt, hblock, htimes, Std.TreeMap.getElem?_insert_self, Option.getD_some]
    exact Nat.lt_succ_self times

/-! ### Fetching batches -/

/-- The blocks that are fetched one after the other are those that the chain holds. -/
theorem at?_of_mem_askEach {heights : List Nat} {height : Nat} {fetched : FetchedBlock}
    (h : (height, .ok fetched) ∈ (askEach (fetchBlock gateway) heights chain).1) :
    chain.at? height = some fetched := by
  induction heights generalizing chain with
  | nil => cases h
  | cons first rest ih =>
    rcases List.mem_cons.mp h with heq | hmem
    · obtain ⟨rfl, hfetched⟩ := Prod.mk.inj heq
      exact at?_of_fetchBlock hfetched.symm
    · rw [← (fetchBlock_later first chain).at?_eq]
      exact ih hmem

/-- If nothing of a batch is merged although the chain holds its first block, a failure ahead of
that block is used up. -/
theorem failuresAt_askEach_lt {height : Nat} {rest : List Nat} {fetched : FetchedBlock}
    (hat : chain.at? height = some fetched)
    (h : fetchedPrefix (askEach (fetchBlock gateway) (height :: rest) chain).1 = []) :
    (askEach (fetchBlock gateway) (height :: rest) chain).2.failuresAt height <
      chain.failuresAt height := by
  have hrest :=
    (askEach_later fetchBlock_later rest (fetchBlock gateway height chain).2).failures_le height
  rw [askEach_cons] at h ⊢
  cases hfetch : (fetchBlock gateway height chain).1 with
  | ok fetched =>
    rw [hfetch] at h
    cases h
  | error e => exact hrest.trans_lt (failuresAt_fetchBlock_lt hat hfetch)

end ScriptedChain

end ChainFeed
