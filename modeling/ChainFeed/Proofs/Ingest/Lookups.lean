import ChainFeed.Proofs.Ingest.Queue

/-!
# What lookups store

A lookup that succeeds returns an account and its contracts. They are merged one by one, so each
**stands** in its index afterwards: a record with its id is stored and has all the values that a
patch can hold (`Index.Stands`). It keeps standing until something else is merged under its id.

The outcomes of lookups are taken in the order of addresses. So what stands when all are taken is,
for each id, what the last lookup returned that returned anything under it (`Scene.stands_next`).
-/

namespace ChainFeed

open Ingest Resource

/-! ### Standing records -/

/-- A kind of records that merging overwrites: two records with the same content have the same
values, and a patch made of a record leaves the values of that record. -/
class Resource.Overwrites (R : Type) [Resource R] : Prop where
  /-- Records that are the same are equal. -/
  eq_of_same (a b : R) : same a b = true → a = b
  /-- A patch leaves its values. -/
  toPatch_apply (a b : R) : toPatch (apply (toPatch a) b) = toPatch a

instance : Overwrites Account := ⟨fun _ _ => of_decide_eq_true, fun _ _ => rfl⟩

instance : Overwrites Contract := ⟨fun _ _ => of_decide_eq_true, fun _ _ => rfl⟩

namespace Index

variable {R : Type} [Resource R] {index : Index R} {r : R}

/-- A record with the id of the given one is stored, and has all its values that a patch can hold.
-/
def Stands (index : Index R) (r : R) : Prop :=
  ∃ stored, index.get? (Resource.id r) = some stored ∧ toPatch stored = toPatch r

/-- What is merged stands. -/
theorem Coherent.stands_merge [LawfulResource R] [Overwrites R] (h : index.Coherent) (now : Nat)
    (r : R) :
    (index.merge now r).2.Stands r := by
  have hvalues (stored : R) : toPatch (Resource.merge stored r) = toPatch r :=
    Overwrites.toPatch_apply r stored
  cases hget : index.get? (Resource.id r) with
  | none =>
    refine ⟨_, by rw [merge_of_none hget, get?_append_self], ?_⟩
    exact LawfulResource.toPatch_withStamps _ r
  | some stored =>
    by_cases hsame : sameContent (Resource.merge stored r) stored = true
    · refine ⟨stored, by rw [merge_of_same hget hsame, hget], ?_⟩
      have heq := congrArg toPatch (Overwrites.eq_of_same _ _ hsame)
      rw [LawfulResource.toPatch_withStamps, LawfulResource.toPatch_withStamps] at heq
      exact heq.symm.trans (hvalues stored)
    · refine ⟨index.stampChange now (Resource.merge stored r), ?_, ?_⟩
      · rw [merge_of_new hget hsame, ← h.id_merge_eq hget]
        exact get?_replace_self now _ index
      · exact (LawfulResource.toPatch_withStamps _ _).trans (hvalues stored)

/-- It keeps standing while other ids are written. -/
theorem Stands.of_get?_eq {later : Index R} (h : index.Stands r)
    (heq : later.get? (Resource.id r) = index.get? (Resource.id r)) : later.Stands r := by
  obtain ⟨stored, hget, hvalues⟩ := h
  exact ⟨stored, heq.trans hget, hvalues⟩

end Index

/-! ### Taking outcomes -/

namespace Ingest

/-- The lookup returns an account with the id. -/
def ReturnsAccount (i : String) (outcome : Except GatewayError FetchedAccount) : Prop :=
  ∃ fetched, outcome = .ok fetched ∧ fetched.account.id = i

/-- The lookup returns a contract with the id. -/
def ReturnsContract (i : String) (outcome : Except GatewayError FetchedAccount) : Prop :=
  ∃ fetched, outcome = .ok fetched ∧ ∃ c ∈ fetched.contracts, c.id = i

/-- The account that is stored for a lookup that found an account that was seen in a block. -/
def FetchedAccount.accountIn (settings : Settings) (blockId : String) (fetched : FetchedAccount) :
    Account :=
  { fetched.account with
    isDefaultAccount := settings.trackedAddresses.contains fetched.account.address
    blockId }

/-- The contracts that are stored with it. -/
def FetchedAccount.contractsIn (blockId : String) (fetched : FetchedAccount) : List Contract :=
  fetched.contracts.map fun contract => { contract with blockId }

namespace Progress

variable (settings : Settings) (moment : Moment) {p : Progress}

theorem coherent_takeLookups (h : p.store.Coherent)
    (lookups : List ((String × Pending) × Except GatewayError FetchedAccount)) :
    (p.takeLookups settings moment lookups).store.Coherent := by
  have hfollows : Follows moment [.account, .contract] p (p.takeLookups settings moment lookups) :=
    Follows.foldl lookups (fun p lookup _ => takeLookup_follows settings _ _ _ p) p
  obtain ⟨writes, hw, -⟩ := hfollows.wrote
  rw [hw.store]
  exact h.replay _ _ _

/-! #### Contracts -/

theorem accounts_mergeContracts (contracts : List Contract) (p : Progress) :
    (p.mergeContracts moment contracts).store.accounts = p.store.accounts :=
  List.foldlRecOn (motive := fun q : Progress => q.store.accounts = p.store.accounts) contracts _
    rfl fun _ hq _ _ => hq

theorem coherent_mergeContracts (h : p.store.Coherent) (contracts : List Contract) :
    (p.mergeContracts moment contracts).store.Coherent :=
  List.foldlRecOn (motive := fun q : Progress => q.store.Coherent) contracts _ h
    fun _ hq _ _ => hq.write _ _

/-- Merging contracts leaves what is stored under other ids. -/
theorem get?_mergeContracts_of_ne (h : p.store.Coherent) {contracts : List Contract} {i : String}
    (hi : ∀ c ∈ contracts, c.id ≠ i) :
    (p.mergeContracts moment contracts).store.contracts.get? i = p.store.contracts.get? i := by
  have hall := List.foldlRecOn
    (motive := fun q : Progress =>
      q.store.Coherent ∧ q.store.contracts.get? i = p.store.contracts.get? i)
    contracts (fun q c => q.write moment (.contract c)) ⟨h, rfl⟩
    (fun q hq c hc => ⟨hq.1.write _ _,
      ((hq.1 .contract).get?_merge_of_ne _ (hi c hc)).trans hq.2⟩)
  exact hall.2

/-- Of the contracts with one id, the last one stands. -/
theorem stands_mergeContracts (h : p.store.Coherent) {contracts : List Contract} {c : Contract}
    (hc : c ∈ contracts) :
    ∃ last ∈ contracts, last.id = c.id ∧
      (p.mergeContracts moment contracts).store.contracts.Stands last := by
  induction contracts using List.reverseRecOn with
  | nil => cases hc
  | append_singleton before d ih =>
    have hbefore : (p.mergeContracts moment before).store.Coherent :=
      coherent_mergeContracts moment h before
    have hwrite : p.mergeContracts moment (before ++ [d]) =
        (p.mergeContracts moment before).write moment (.contract d) := List.foldl_append
    rw [hwrite]
    by_cases hid : d.id = c.id
    · exact ⟨d, List.mem_append_right _ (List.mem_singleton_self d), hid,
        (hbefore .contract).stands_merge _ d⟩
    · have hcbefore : c ∈ before := by
        refine (List.mem_append.mp hc).resolve_right fun hd => hid ?_
        rw [List.mem_singleton.mp hd]
      obtain ⟨last, hlast, hlastId, hstands⟩ := ih hcbefore
      refine ⟨last, List.mem_append_left _ hlast, hlastId, hstands.of_get?_eq ?_⟩
      exact (hbefore .contract).get?_merge_of_ne _ fun heq => hid (heq.trans hlastId)

/-! #### Accounts -/

/-- The progress when a looked-up account is merged, and its contracts are not yet. -/
def mergeFound (waiting : Pending) (fetched : FetchedAccount) (p : Progress) : Progress :=
  p.write moment (.account (fetched.accountIn settings (p.lastSeenIn waiting fetched.account)))

theorem mergeAccount_eq (waiting : Pending) (fetched : FetchedAccount) (p : Progress) :
    p.mergeAccount settings moment waiting fetched =
      (p.mergeFound settings moment waiting fetched).mergeContracts moment
        (fetched.contractsIn (p.lastSeenIn waiting fetched.account)) := rfl

theorem accounts_mergeAccount (waiting : Pending) (fetched : FetchedAccount) (p : Progress) :
    (p.mergeAccount settings moment waiting fetched).store.accounts =
      (p.mergeFound settings moment waiting fetched).store.accounts := by
  rw [mergeAccount_eq, accounts_mergeContracts]

/-- What a lookup returns stands when it is merged. -/
theorem stands_mergeAccount (h : p.store.Coherent) (waiting : Pending) (fetched : FetchedAccount) :
    (p.mergeAccount settings moment waiting fetched).store.accounts.Stands
        (fetched.accountIn settings (p.lastSeenIn waiting fetched.account)) ∧
      ∀ c ∈ fetched.contractsIn (p.lastSeenIn waiting fetched.account),
        ∃ last ∈ fetched.contractsIn (p.lastSeenIn waiting fetched.account), last.id = c.id ∧
          (p.mergeAccount settings moment waiting fetched).store.contracts.Stands last := by
  constructor
  · rw [accounts_mergeAccount]
    exact (h .account).stands_merge _ _
  · have hfound : (p.mergeFound settings moment waiting fetched).store.Coherent := h.write _ _
    exact fun c hc => stands_mergeContracts moment hfound hc

/-! #### Lookups -/

/-- A lookup leaves the accounts and contracts that it does not return. -/
theorem get?_takeLookup_of_not_returns (h : p.store.Coherent) (address : String)
    (waiting : Pending) (outcome : Except GatewayError FetchedAccount) (i : String) :
    (¬ReturnsAccount i outcome →
      (p.takeLookup settings moment address waiting outcome).store.accounts.get? i =
        p.store.accounts.get? i) ∧
    (¬ReturnsContract i outcome →
      (p.takeLookup settings moment address waiting outcome).store.contracts.get? i =
        p.store.contracts.get? i) := by
  cases outcome with
  | ok fetched =>
    constructor
    · intro hreturns
      have haccounts := accounts_mergeAccount settings moment waiting fetched p
      refine (congrArg (Index.get? i) haccounts).trans ?_
      exact (h .account).get?_merge_of_ne _ fun hid => hreturns ⟨fetched, rfl, hid⟩
    · intro hreturns
      have hfound : (p.mergeFound settings moment waiting fetched).store.Coherent := h.write _ _
      refine get?_mergeContracts_of_ne moment hfound fun c hc hid => hreturns ⟨fetched, rfl, ?_⟩
      obtain ⟨listed, hlisted, rfl⟩ := List.mem_map.mp hc
      exact ⟨listed, hlisted, hid⟩
  | error e =>
    rw [takeLookup]
    split
    · cases waiting.afterMiss <;> exact ⟨fun _ => rfl, fun _ => rfl⟩
    · exact ⟨fun _ => rfl, fun _ => rfl⟩

/-- Lookups leave the accounts and contracts that none of them returns. -/
theorem get?_takeLookups_of_not_returns (h : p.store.Coherent)
    (lookups : List ((String × Pending) × Except GatewayError FetchedAccount)) (i : String) :
    ((∀ lookup ∈ lookups, ¬ReturnsAccount i lookup.2) →
      (p.takeLookups settings moment lookups).store.accounts.get? i =
        p.store.accounts.get? i) ∧
    ((∀ lookup ∈ lookups, ¬ReturnsContract i lookup.2) →
      (p.takeLookups settings moment lookups).store.contracts.get? i =
        p.store.contracts.get? i) := by
  induction lookups using List.reverseRecOn with
  | nil => exact ⟨fun _ => rfl, fun _ => rfl⟩
  | append_singleton before lookup ih =>
    obtain ⟨haccount, hcontract⟩ := get?_takeLookup_of_not_returns settings moment
      (coherent_takeLookups settings moment h before) lookup.1.1 lookup.1.2 lookup.2 i
    rw [takeLookups, List.foldl_append]
    constructor
    · intro hreturns
      rw [List.forall_mem_append, List.forall_mem_singleton] at hreturns
      exact (haccount hreturns.2).trans (ih.1 hreturns.1)
    · intro hreturns
      rw [List.forall_mem_append, List.forall_mem_singleton] at hreturns
      exact (hcontract hreturns.2).trans (ih.2 hreturns.1)

end Progress

end Ingest

/-! ### The lookups of a tick -/

namespace Scene

open Progress

variable {σ : Type} (settings : Settings) (follower : Follower) (scene : Scene σ)

/-- The progress of the tick when the outcomes of some lookups are taken. -/
def lookedUp (lookups : List ((String × Pending) × Except GatewayError FetchedAccount)) :
    Progress :=
  (scene.taken settings follower).takeLookups settings scene.moment lookups

variable {settings follower scene}
variable {before behind : List ((String × Pending) × Except GatewayError FetchedAccount)}
variable {address : String} {waiting : Pending} {fetched : FetchedAccount}

theorem coherent_lookedUp (h : follower.store.Coherent)
    (lookups : List ((String × Pending) × Except GatewayError FetchedAccount)) :
    (scene.lookedUp settings follower lookups).store.Coherent :=
  coherent_takeLookups settings scene.moment (coherent_taken h) lookups

/-- Behind the second stage, accounts and contracts stay as they are. -/
theorem index_next_eq_lookedUp {kind : Kind} (hkind : kind = .account ∨ kind = .contract) :
    (scene.next settings follower).store.index kind =
      (scene.lookedUp settings follower (scene.lookups settings follower)).store.index kind := by
  have hstorage : kind ∉ [Kind.storageItem] := by
    rcases hkind with rfl | rfl <;> decide
  have hstatuses : kind ∉ [Kind.transaction] := by
    rcases hkind with rfl | rfl <;> decide
  rw [index_next hstorage, index_afterStatuses hstatuses, afterAccounts_eq]
  rfl

/-- The account that is stored before any lookup is taken that returns it is the one that was stored
before the tick. -/
theorem get?_accounts_lookedUp (h : follower.store.Coherent) {i : String}
    (hi : ∀ lookup ∈ before, ¬ReturnsAccount i lookup.2) :
    (scene.lookedUp settings follower before).store.accounts.get? i =
      follower.store.accounts.get? i := by
  have hblocks : (scene.afterBlocks settings follower).1.store.accounts = follower.store.accounts :=
    index_afterBlocks (by decide : Kind.account ∉ [Kind.transaction, .event, .block])
  have htaken : (scene.taken settings follower).store.Coherent := coherent_taken h
  have hkept := (get?_takeLookups_of_not_returns settings scene.moment htaken before i).1 hi
  exact hkept.trans (congrArg (Index.get? i) hblocks)

/-- **What a lookup returns stands** behind the tick, with the block that it was last seen in: the
account unless it is returned again, and each contract unless it is. -/
theorem stands_next (h : follower.store.Coherent)
    (hsplit : scene.lookups settings follower =
      before ++ ((address, waiting), .ok fetched) :: behind) :
    ((∀ lookup ∈ behind, ¬ReturnsAccount fetched.account.id lookup.2) →
      (scene.next settings follower).store.accounts.Stands
        (fetched.accountIn settings
          ((scene.lookedUp settings follower before).lastSeenIn waiting fetched.account))) ∧
    ∀ c ∈ fetched.contracts, (∀ lookup ∈ behind, ¬ReturnsContract c.id lookup.2) →
      ∃ last ∈ fetched.contractsIn
          ((scene.lookedUp settings follower before).lastSeenIn waiting fetched.account),
        last.id = c.id ∧ (scene.next settings follower).store.contracts.Stands last := by
  have hbefore : (scene.lookedUp settings follower before).store.Coherent :=
    coherent_lookedUp h before
  obtain ⟨haccount, hcontracts⟩ := stands_mergeAccount settings scene.moment hbefore waiting fetched
  -- what comes behind the lookup leaves what it does not return
  have hmid : ((scene.lookedUp settings follower before).takeLookup settings scene.moment address
      waiting (.ok fetched)).store.Coherent :=
    coherent_takeLookups settings scene.moment hbefore [((address, waiting), .ok fetched)]
  have hleft := get?_takeLookups_of_not_returns settings scene.moment hmid behind
  have hall : scene.lookedUp settings follower (scene.lookups settings follower) =
      ((scene.lookedUp settings follower before).takeLookup settings scene.moment address waiting
        (.ok fetched)).takeLookups settings scene.moment behind := by
    rw [lookedUp, hsplit, takeLookups, List.foldl_append]
    rfl
  have haccounts : (scene.next settings follower).store.accounts =
      (scene.lookedUp settings follower (scene.lookups settings follower)).store.accounts :=
    @index_next_eq_lookedUp _ settings follower scene .account (.inl rfl)
  have hcontractIndex : (scene.next settings follower).store.contracts =
      (scene.lookedUp settings follower (scene.lookups settings follower)).store.contracts :=
    @index_next_eq_lookedUp _ settings follower scene .contract (.inr rfl)
  rw [haccounts, hcontractIndex, hall]
  constructor
  · intro hlast
    exact haccount.of_get?_eq ((hleft _).1 hlast)
  · intro c hc hlast
    obtain ⟨last, hmem, hid, hstands⟩ := hcontracts _ (List.mem_map_of_mem hc)
    refine ⟨last, hmem, hid, hstands.of_get?_eq ((hleft _).2 fun lookup hbehind => ?_)⟩
    rw [show Resource.id last = c.id from hid]
    exact hlast lookup hbehind

end Scene

end ChainFeed
