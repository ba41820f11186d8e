import ChainFeed.Proofs.Ingest.Apart

/-!
# Accounts are isolated from each other

Two ticks happen at the same moment, and their gateways answer **alike but about an address**
(`Scene.AlikeBut`): in either of them, calls about that address may fail, find nothing, or find
anything that belongs to it. Then the two go through the same blocks, look up the same other
accounts with the same outcomes, ask for the same statuses, and list the same storage of other
accounts. So a follower is left the same by both, but for what belongs to that address
(`Follower.isolated`).

All that is stored about accounts is **owned** at any time (`Store.Owned`): it has ids that tell
whose it is, as long as gateways answer about addresses with what belongs to them.
-/

namespace ChainFeed

open Ingest Resource

/-! ### Owned stores -/

/-- Accounts have plain addresses, which are their ids, and the ids of contracts are made of such
addresses and of names. -/
structure Store.Owned (store : Store) : Prop where
  /-- The id of an account is its plain address. -/
  accounts : store.accounts.All fun a => Address.Plain a.address ∧ a.id = a.address
  /-- The id of a contract is made of a plain address and a name. -/
  contracts : store.contracts.All fun c =>
    Address.Plain c.address ∧ c.id = Contract.idOf c.address c.name

namespace Store.Owned

variable {store : Store}

theorem clear (store : Store) : store.clear.Owned := ⟨.clear _, .clear _⟩

/-- A reader of the accounts with other addresses keeps within what is apart from an address. -/
theorem keepsWithin_accounts (h : store.Owned) (hcoherent : store.Coherent) (address : String) :
    store.accounts.KeepsWithin (apartFrom address) (·.address != address) := by
  refine Index.Coherent.keepsWithin (hcoherent .account) fun i a ha hne => ?_
  obtain ⟨hplain, hid⟩ := h.accounts i a ha
  show apartFrom address a.id
  rw [hid]
  exact (apartFrom_self_iff hplain.noDot).mpr (bne_iff_ne.mp hne)

/-- So does a reader of the contracts of other accounts. -/
theorem keepsWithin_contracts (h : store.Owned) (hcoherent : store.Coherent) (address : String) :
    store.contracts.KeepsWithin (apartFrom address) (·.address != address) := by
  refine Index.Coherent.keepsWithin (hcoherent .contract) fun i c hc hne => ?_
  obtain ⟨hplain, hid⟩ := h.contracts i c hc
  show apartFrom address c.id
  rw [hid]
  exact (apartFrom_append_iff hplain.noDot c.name).mpr (bne_iff_ne.mp hne)

end Store.Owned

/-- So does a reader of the items of other accounts. -/
theorem Index.Filing.keepsWithin {index : Index StorageItem} (h : index.Filing) (address : String) :
    index.KeepsWithin (apartFrom address) (·.address != address) := by
  refine h.coherent.keepsWithin fun i item hitem hne => ?_
  have hproper := h.proper i item hitem
  show apartFrom address item.id
  rw [hproper.id_eq]
  exact (apartFrom_append_iff hproper.plain item.path).mpr (bne_iff_ne.mp hne)

namespace Store.Owned

variable {settings : Settings} {moment : Moment} {address : String} {p : Progress}

open Progress

theorem mergeContracts (h : p.store.Owned) {contracts : List Contract}
    (hcontracts : ∀ c ∈ contracts,
      Address.Plain c.address ∧ c.id = Contract.idOf c.address c.name) :
    (p.mergeContracts moment contracts).store.Owned := by
  refine List.foldlRecOn (motive := fun q : Progress => q.store.Owned) contracts _ h ?_
  intro q hq c hc
  exact ⟨hq.accounts, hq.contracts.merge (fun _ => hcontracts c hc) fun _ _ hstored => hstored⟩

/-- What is found of an account belongs to it. -/
theorem takeLookup (h : p.store.Owned) (waiting : Pending)
    {outcome : Except GatewayError FetchedAccount}
    (hown : ∀ fetched, outcome = .ok fetched → fetched.Own address) :
    (p.takeLookup settings moment address waiting outcome).store.Owned := by
  cases outcome with
  | error e =>
    rw [Progress.takeLookup]
    split
    · cases waiting.afterMiss <;> exact h
    · exact h
  | ok fetched =>
    have hfetched := hown fetched rfl
    have hfound : (p.mergeFound settings moment waiting fetched).store.Owned := by
      refine ⟨h.accounts.merge (fun _ => ?_) fun _ _ hstored => hstored, h.contracts⟩
      show Address.Plain fetched.account.address ∧ fetched.account.id = fetched.account.address
      rw [hfetched.id_eq, hfetched.address_eq]
      exact ⟨hfetched.plain, rfl⟩
    show (p.mergeAccount settings moment waiting fetched).store.Owned
    rw [mergeAccount_eq]
    refine hfound.mergeContracts (List.forall_mem_map.mpr fun c hc => ?_)
    obtain ⟨haddress, hid⟩ := hfetched.contracts c hc
    show Address.Plain c.address ∧ c.id = Contract.idOf c.address c.name
    rw [haddress]
    exact ⟨hfetched.plain, hid⟩

end Store.Owned

namespace Scene

variable {σ : Type} {settings : Settings} {follower : Follower} {scene : Scene σ}

/-- What a tick finds of an account belongs to it. -/
theorem own_of_mem_lookups (hown : scene.gateway.AnswersOwn)
    {lookup : (String × Pending) × Except GatewayError FetchedAccount}
    (hlookup : lookup ∈ scene.lookups settings follower) :
    ∀ fetched, lookup.2 = .ok fetched → fetched.Own lookup.1.1 := by
  intro fetched hfetched
  obtain ⟨chain, hask⟩ := exists_ask_of_mem_askEach hlookup
  exact hown.own_of_fetchAccount (hask.trans hfetched)

theorem accounts_next_eq :
    (scene.next settings follower).store.accounts =
      (scene.lookedUp settings follower (scene.lookups settings follower)).store.accounts :=
  @index_next_eq_lookedUp _ settings follower scene .account (.inl rfl)

theorem contracts_next_eq :
    (scene.next settings follower).store.contracts =
      (scene.lookedUp settings follower (scene.lookups settings follower)).store.contracts :=
  @index_next_eq_lookedUp _ settings follower scene .contract (.inr rfl)

theorem afterStatuses_eq :
    (scene.afterStatuses settings follower).1 =
      (scene.afterAccounts settings follower).1.takeStatuses scene.moment
        (statusAnswers scene.gateway (scene.afterAccounts settings follower).2
          (scene.afterAccounts settings follower).1.store) := rfl

theorem transactions_next_eq :
    (scene.next settings follower).store.transactions =
      (scene.afterStatuses settings follower).1.store.transactions :=
  @index_next _ settings follower scene .transaction (by decide)

/-- The stages behind the first one leave blocks, events and heights alone. -/
theorem progress_follows :
    Progress.Follows scene.moment [.account, .contract, .transaction, .storageItem]
      (scene.afterBlocks settings follower).1 (scene.progress settings follower) := by
  rw [progress, afterBlocks]
  exact Follower.run_follows scene.gateway settings scene.moment scene.chain follower

theorem index_next_eq_afterBlocks {kind : Kind}
    (hkind : kind ∉ [Kind.account, .contract, .transaction, .storageItem]) :
    (scene.next settings follower).store.index kind =
      (scene.afterBlocks settings follower).1.store.index kind := by
  rw [next_eq]
  exact progress_follows.index_eq hkind

theorem heights_next_eq_afterBlocks :
    (scene.next settings follower).state.heights =
      (scene.afterBlocks settings follower).1.state.heights := by
  rw [next_eq]
  exact progress_follows.heights

end Scene

namespace Follower

variable {σ : Type} {settings : Settings} {follower : Follower}

/-- What is stored about accounts stays owned in a tick. -/
theorem owned_next (h : follower.store.Owned) {scene : Scene σ}
    (hown : scene.gateway.AnswersOwn) : (scene.next settings follower).store.Owned := by
  have htaken : (scene.taken settings follower).store.Owned := by
    constructor
    · have haccounts : (scene.taken settings follower).store.accounts = follower.store.accounts :=
        Scene.index_afterBlocks (by decide : Kind.account ∉ [Kind.transaction, .event, .block])
      rw [haccounts]
      exact h.accounts
    · have hcontracts : (scene.taken settings follower).store.contracts =
          follower.store.contracts :=
        Scene.index_afterBlocks (by decide : Kind.contract ∉ [Kind.transaction, .event, .block])
      rw [hcontracts]
      exact h.contracts
  have hlookedUp :
      (scene.lookedUp settings follower (scene.lookups settings follower)).store.Owned :=
    List.foldlRecOn (motive := fun q : Progress => q.store.Owned) _ _ htaken
      fun q hq lookup hlookup => hq.takeLookup _ (Scene.own_of_mem_lookups hown hlookup)
  constructor
  · rw [Scene.accounts_next_eq]
    exact hlookedUp.accounts
  · rw [Scene.contracts_next_eq]
    exact hlookedUp.contracts

/-- The gateway of a turn answers about an address with what belongs to it. -/
def Turn.AnswersOwn : Turn σ → Prop
  | tick scene => scene.gateway.AnswersOwn
  | reset => True

theorem Turn.AnswersOwn.listsById {turn : Turn σ} (h : turn.AnswersOwn) : turn.ListsById := by
  cases turn with
  | tick scene => exact Gateway.AnswersOwn.listsById h
  | reset => trivial

/-- **All that is stored about accounts is owned at any time.** -/
theorem owned_after (settings : Settings) {turns : List (Turn σ)}
    (h : ∀ turn ∈ turns, turn.AnswersOwn) : (initial.after settings turns).store.Owned :=
  after_induction_of_forall (P := fun follower => follower.store.Owned) (.clear Store.empty)
    (fun _ _ hown howned => owned_next howned hown) (fun _ _ => .clear _) h

/-- Stored items are proper if they belong to stored accounts, and accounts have plain addresses. -/
theorem Traced.filing (h : follower.Traced) (howned : follower.store.Owned) :
    follower.store.storage.Filing := by
  refine ⟨h.coherent .storageItem, h.items.mono ?_⟩
  rintro item ⟨hid, owner, howner, i, a, ha, rfl⟩
  have hplain := (howned.accounts i a ha).1
  refine ⟨hid, ?_⟩
  rw [← howner, hplain.canonical_eq]
  exact hplain.noDot

end Follower

/-- What a tick lists belongs to accounts with plain addresses. -/
theorem Scene.own_of_mem_listings {σ : Type} {settings : Settings} {follower : Follower}
    (htraced : follower.Traced) (howned : follower.store.Owned) {scene : Scene σ}
    (hown : scene.gateway.AnswersOwn) {listing : String × Except GatewayError (List StorageItem)}
    (hlisting : listing ∈ scene.listings settings follower) :
    Address.Plain listing.1 ∧ OwnListing listing.1 listing.2 := by
  obtain ⟨i, a, ha, haddress⟩ := htraced.holds_of_mem_listings scene hlisting
  obtain ⟨chain, hask⟩ := exists_ask_of_mem_askEach hlisting
  constructor
  · rw [← haddress]
    exact ((Follower.owned_next howned hown).accounts i a ha).1
  · rw [← hask]
    exact hown.storage

/-! ### Two ticks -/

variable {ρ σ τ : Type}

/-- Two ticks happen at the same moment, with gateways that answer alike but about an address. -/
structure Scene.AlikeBut (address : String) (scene : Scene σ) (other : Scene τ)
    (R : σ → τ → Prop) : Prop where
  /-- The gateways answer alike. -/
  gateway : scene.gateway.AlikeBut address other.gateway R
  /-- They are in related states. -/
  chain : R scene.chain other.chain
  /-- The moment is the same. -/
  moment : scene.moment = other.moment
  /-- The first gateway answers about an address with what belongs to it. -/
  own : scene.gateway.AnswersOwn
  /-- So does the other one. -/
  otherOwn : other.gateway.AnswersOwn

namespace Ingest.Progress

/-- How the transactions of two stores are related stays as it is when the same statuses are taken
into both, if it stays so when both change by the same patch. -/
theorem takeStatuses_related {S : Index Transaction → Index Transaction → Prop} {moment : Moment}
    (hupdate : ∀ (a b : Index Transaction) (m n : Nat) (target : String)
      (patch : Resource.Patch Transaction), S a b →
        S (a.update (moment.wall m) target patch).2 (b.update (moment.wall n) target patch).2)
    (answers : List (Transaction × Except GatewayError TransactionStatus)) {p q : Progress}
    (h : S p.store.transactions q.store.transactions) :
    S (p.takeStatuses moment answers).store.transactions
      (q.takeStatuses moment answers).store.transactions := by
  induction answers generalizing p q with
  | nil => exact h
  | cons answer rest ih =>
    refine ih (p := p.takeStatus moment answer.1 answer.2)
      (q := q.takeStatus moment answer.1 answer.2) ?_
    rw [transactions_takeStatus, transactions_takeStatus]
    cases answer.2 with
    | error e => exact h
    | ok status =>
      dsimp only
      split
      · exact hupdate _ _ _ _ _ _ h
      · exact h

end Ingest.Progress

namespace Scene.AlikeBut

open Progress

variable {settings : Settings} {follower : Follower} {address : String} {scene : Scene σ}
  {other : Scene τ} {R : σ → τ → Prop}

/-! #### Blocks -/

theorem afterBlocks (h : scene.AlikeBut address other R) (settings : Settings)
    (follower : Follower) :
    (scene.afterBlocks settings follower).1 = (other.afterBlocks settings follower).1 ∧
      R (scene.afterBlocks settings follower).2 (other.afterBlocks settings follower).2 := by
  rw [Scene.afterBlocks, Scene.afterBlocks, h.moment]
  exact h.gateway.ingestBlocks settings other.moment _ h.chain

/-- The same accounts wait for a lookup. -/
theorem waiting_eq (h : scene.AlikeBut address other R) (settings : Settings)
    (follower : Follower) : scene.waiting settings follower = other.waiting settings follower := by
  rw [Scene.waiting, Scene.waiting, (h.afterBlocks settings follower).1]

theorem taken_eq (h : scene.AlikeBut address other R) (settings : Settings)
    (follower : Follower) : scene.taken settings follower = other.taken settings follower := by
  rw [Scene.taken, Scene.taken, (h.afterBlocks settings follower).1]

/-- The same blocks and events are stored behind the two ticks. -/
theorem index_next_eq (h : scene.AlikeBut address other R) (settings : Settings)
    (follower : Follower) {kind : Kind}
    (hkind : kind ∉ [Kind.account, .contract, .transaction, .storageItem]) :
    (scene.next settings follower).store.index kind =
      (other.next settings follower).store.index kind := by
  rw [index_next_eq_afterBlocks hkind, index_next_eq_afterBlocks hkind,
    (h.afterBlocks settings follower).1]

/-- The watermark is the same, too. -/
theorem watermark_next_eq (h : scene.AlikeBut address other R) (settings : Settings)
    (follower : Follower) :
    (scene.next settings follower).watermark = (other.next settings follower).watermark := by
  have hheights : (scene.next settings follower).state.heights =
      (other.next settings follower).state.heights := by
    rw [heights_next_eq_afterBlocks, heights_next_eq_afterBlocks,
      (h.afterBlocks settings follower).1]
  exact State.watermark_eq_of_heights_eq hheights

/-! #### Accounts -/

/-- Lookups of other accounts have the same outcomes. -/
theorem lookups (h : scene.AlikeBut address other R) (settings : Settings)
    (follower : Follower) :
    (scene.lookups settings follower).filter (fun lookup => lookup.1.1 != address) =
        (other.lookups settings follower).filter (fun lookup => lookup.1.1 != address) ∧
      R (scene.afterAccounts settings follower).2 (other.afterAccounts settings follower).2 := by
  have hpicked : (scene.waiting settings follower).toList.filter (fun w => w.1 != address) =
      (other.waiting settings follower).toList.filter (fun w => w.1 != address) := by
    rw [h.waiting_eq settings follower]
  exact (h.gateway.fetchAccount.comap Prod.fst).askEach hpicked (h.afterBlocks settings follower).2

theorem mem_lookups_iff (h : scene.AlikeBut address other R)
    {lookup : (String × Pending) × Except GatewayError FetchedAccount}
    (hlookup : lookup.1.1 ≠ address) :
    lookup ∈ scene.lookups settings follower ↔ lookup ∈ other.lookups settings follower :=
  mem_iff_of_filter_eq (h.lookups settings follower).1 (bne_iff_ne.mpr hlookup)

/-- Other accounts wait alike behind the two ticks. -/
theorem pending_next_eq (h : scene.AlikeBut address other R) (settings : Settings)
    (follower : Follower) {a : String} (ha : a ≠ address) :
    (scene.next settings follower).state.pending[a]? =
      (other.next settings follower).state.pending[a]? := by
  obtain ⟨hlookups, hnone⟩ := @getElem?_pending_next _ settings follower scene
  obtain ⟨hotherLookups, hotherNone⟩ := @getElem?_pending_next _ settings follower other
  -- the account waits in both ticks or in none, and is looked up as it waits
  cases hwaiting : (scene.waiting settings follower)[a]? with
  | none =>
    have hotherWaiting := hwaiting
    rw [h.waiting_eq settings follower] at hotherWaiting
    rw [hnone a hwaiting, hotherNone a hotherWaiting]
  | some waiting =>
    obtain ⟨outcome, hmem⟩ := Scene.mem_lookups_iff.mpr hwaiting
    exact (hlookups _ hmem).trans (hotherLookups _ ((h.mem_lookups_iff ha).mp hmem)).symm

/-- What is stored about accounts agrees behind the lookups, apart from what belongs to the address.
-/
theorem agreeApart_lookedUp (h : scene.AlikeBut address other R) (settings : Settings)
    (hcoherent : follower.store.Coherent) :
    (scene.lookedUp settings follower (scene.lookups settings follower)).store.AgreeApart address
      (other.lookedUp settings follower (other.lookups settings follower)).store := by
  have hsteps := stepsApart_takeLookup address settings other.moment
  rw [Scene.lookedUp, Scene.lookedUp, h.moment, h.taken_eq]
  exact hsteps.foldl (fun _ => own_of_mem_lookups h.own) (fun _ => own_of_mem_lookups h.otherOwn)
    (h.lookups settings follower).1 (coherent_taken hcoherent) (coherent_taken hcoherent)
    (.refl _ _)

/-! #### Statuses -/

theorem transactions_afterAccounts :
    (scene.afterAccounts settings follower).1.store.transactions =
      (scene.afterBlocks settings follower).1.store.transactions :=
  (indexAccounts_follows scene.moment scene.gateway settings
    (scene.afterBlocks settings follower).2 (scene.afterBlocks settings follower).1).index_eq
    (by decide : Kind.transaction ∉ [Kind.account, .contract])

/-- Before the statuses are asked for, the transactions are the same. -/
theorem transactions_afterAccounts_eq (h : scene.AlikeBut address other R) (settings : Settings)
    (follower : Follower) :
    (scene.afterAccounts settings follower).1.store.transactions =
      (other.afterAccounts settings follower).1.store.transactions := by
  rw [transactions_afterAccounts, transactions_afterAccounts, (h.afterBlocks settings follower).1]

/-- The same statuses are asked for, with the same answers. -/
theorem statusAnswers (h : scene.AlikeBut address other R) (settings : Settings)
    (follower : Follower) :
    Ingest.statusAnswers scene.gateway (scene.afterAccounts settings follower).2
        (scene.afterAccounts settings follower).1.store =
      Ingest.statusAnswers other.gateway (other.afterAccounts settings follower).2
        (other.afterAccounts settings follower).1.store ∧
      R (scene.afterStatuses settings follower).2 (other.afterStatuses settings follower).2 := by
  have hunsettled : unsettled (scene.afterAccounts settings follower).1.store =
      unsettled (other.afterAccounts settings follower).1.store := by
    rw [unsettled, unsettled, h.transactions_afterAccounts_eq settings follower]
  have hasked (items : List Transaction) :=
    h.gateway.askStatus.askEach_eq (fun stored (_ : stored ∈ items) => rfl)
      (h.lookups settings follower).2
  unfold Scene.afterStatuses refreshStatuses Ingest.statusAnswers
  dsimp only
  rw [hunsettled]
  exact hasked _

/-- How transactions are related stays as it is in the stage that asks for statuses, if it stays so
when both change by the same patch. -/
theorem transactions_next (h : scene.AlikeBut address other R) (settings : Settings)
    (follower : Follower) {S : Index Transaction → Index Transaction → Prop}
    (hrefl : ∀ index, S index index)
    (hupdate : ∀ (a b : Index Transaction) (m n : Nat) (target : String)
      (patch : Resource.Patch Transaction), S a b →
        S (a.update (other.moment.wall m) target patch).2
          (b.update (other.moment.wall n) target patch).2) :
    S (scene.next settings follower).store.transactions
      (other.next settings follower).store.transactions := by
  have hstart : S (scene.afterAccounts settings follower).1.store.transactions
      (other.afterAccounts settings follower).1.store.transactions := by
    rw [h.transactions_afterAccounts_eq settings follower]
    exact hrefl _
  rw [transactions_next_eq, transactions_next_eq, afterStatuses_eq, afterStatuses_eq, h.moment,
    (h.statusAnswers settings follower).1]
  exact takeStatuses_related hupdate _ hstart

/-! #### Storage -/

/-- What is stored about accounts agrees before storage is listed. -/
theorem agreeApart_afterStatuses (h : scene.AlikeBut address other R) (settings : Settings)
    (hcoherent : follower.store.Coherent) :
    (scene.afterStatuses settings follower).1.store.AgreeApart address
      (other.afterStatuses settings follower).1.store := by
  have hlookedUp := h.agreeApart_lookedUp settings hcoherent
  have haccounts {ρ : Type} (scene : Scene ρ) :
      (scene.afterStatuses settings follower).1.store.accounts =
        (scene.lookedUp settings follower (scene.lookups settings follower)).store.accounts :=
    @index_afterStatuses _ settings follower scene .account (by decide)
  have hcontracts {ρ : Type} (scene : Scene ρ) :
      (scene.afterStatuses settings follower).1.store.contracts =
        (scene.lookedUp settings follower (scene.lookups settings follower)).store.contracts :=
    @index_afterStatuses _ settings follower scene .contract (by decide)
  refine ⟨?_, ?_, ?_⟩
  · rw [haccounts, haccounts]
    exact hlookedUp.accounts
  · rw [hcontracts, hcontracts]
    exact hlookedUp.contracts
  · rw [storage_afterStatuses, storage_afterStatuses]
    exact .refl _

/-- The same other accounts are stored behind the two ticks. -/
theorem accounts_next (h : scene.AlikeBut address other R) (settings : Settings)
    (hcoherent : follower.store.Coherent) (howned : follower.store.Owned) :
    ((scene.next settings follower).store.accounts.filter (·.address != address)).map unstamped =
      ((other.next settings follower).store.accounts.filter (·.address != address)).map
        unstamped := by
  have hlookedUp := (h.agreeApart_lookedUp settings hcoherent).accounts
  rw [← accounts_next_eq, ← accounts_next_eq] at hlookedUp
  exact hlookedUp.map_unstamped_filter (fun _ => rfl)
    ((Follower.owned_next howned h.own).keepsWithin_accounts
      (Follower.coherent_next hcoherent scene) address)
    ((Follower.owned_next howned h.otherOwn).keepsWithin_accounts
      (Follower.coherent_next hcoherent other) address)

/-- The same contracts of other accounts are stored behind the two ticks. -/
theorem contracts_next (h : scene.AlikeBut address other R) (settings : Settings)
    (hcoherent : follower.store.Coherent) (howned : follower.store.Owned) :
    ((scene.next settings follower).store.contracts.filter (·.address != address)).map unstamped =
      ((other.next settings follower).store.contracts.filter (·.address != address)).map
        unstamped := by
  have hlookedUp := (h.agreeApart_lookedUp settings hcoherent).contracts
  rw [← contracts_next_eq, ← contracts_next_eq] at hlookedUp
  exact hlookedUp.map_unstamped_filter (fun _ => rfl)
    ((Follower.owned_next howned h.own).keepsWithin_contracts
      (Follower.coherent_next hcoherent scene) address)
    ((Follower.owned_next howned h.otherOwn).keepsWithin_contracts
      (Follower.coherent_next hcoherent other) address)

/-- The storage of the same other accounts is listed, with the same outcomes. -/
theorem listings (h : scene.AlikeBut address other R) (settings : Settings)
    (hcoherent : follower.store.Coherent) (howned : follower.store.Owned) :
    (scene.listings settings follower).filter (fun listing => listing.1 != address) =
      (other.listings settings follower).filter (fun listing => listing.1 != address) := by
  have hrequested {ρ : Type} (scene : Scene ρ) :
      (scene.afterStatuses settings follower).1.requested settings scene.moment =
        (scene.listings settings follower).map Prod.fst :=
    (map_fst_askEach _ _ _).symm
  have haddresses (accounts : Index Account) :
      (accounts.toList.map (·.address)).filter (· != address) =
        ((accounts.filter (·.address != address)).map unstamped).map (·.address) := by
    rw [List.filter_map, List.map_map]
    rfl
  have hpicked : ((scene.afterStatuses settings follower).1.requested settings
        scene.moment).filter (· != address) =
      ((other.afterStatuses settings follower).1.requested settings
        other.moment).filter (· != address) := by
    obtain ⟨hdue, hnotDue⟩ := map_fst_listings settings hcoherent scene
    obtain ⟨hotherDue, hotherNotDue⟩ := map_fst_listings settings hcoherent other
    rw [h.moment] at hdue hnotDue
    rw [hrequested, hrequested]
    -- the other accounts that are stored are the same by now
    by_cases hoverdue : follower.state.Overdue settings other.moment.time
    · rw [hdue hoverdue, hotherDue hoverdue, haddresses, haddresses,
        h.accounts_next settings hcoherent howned]
    · rw [hnotDue hoverdue, hotherNotDue hoverdue]
  exact (h.gateway.askStorage.askEach hpicked (h.statusAnswers settings follower).2).1

/-- The same items of other accounts are stored behind the two ticks. -/
theorem storage_next (h : scene.AlikeBut address other R) (settings : Settings)
    (htraced : follower.Traced) (howned : follower.store.Owned) :
    ((scene.next settings follower).store.storage.filter (·.address != address)).map unstamped =
      ((other.next settings follower).store.storage.filter (·.address != address)).map
        unstamped := by
  obtain ⟨p, hp, -, -, hnext, -⟩ := exists_takeListings settings follower scene
  obtain ⟨q, hq, -, -, hotherNext, -⟩ := exists_takeListings settings follower other
  have hsteps := stepsApart_takeListing address other.moment
  -- the stores that listings are taken into hold the items from before the tick
  have hfiling {ρ : Type} {p : Progress} {scene : Scene ρ}
      (hp : p.store = (scene.afterStatuses settings follower).1.store) :
      p.store.storage.Filing := by
    rw [hp, storage_afterStatuses]
    exact htraced.filing howned
  have hpq : p.store.AgreeApart address q.store := by
    rw [hp, hq]
    exact h.agreeApart_afterStatuses settings htraced.coherent
  have hagree := hsteps.foldl (fun _ => own_of_mem_listings htraced howned h.own)
    (fun _ => own_of_mem_listings htraced howned h.otherOwn)
    (h.listings settings htraced.coherent howned) (hfiling hp) (hfiling hq) hpq
  rw [← takeListings_eq_foldl _ _ SliceChange.zero, ← takeListings_eq_foldl _ _ SliceChange.zero,
    ← hotherNext] at hagree
  rw [← h.moment, ← hnext] at hagree
  exact hagree.storage.map_unstamped_filter (fun _ => rfl)
    (((htraced.next h.own.listsById).filing (Follower.owned_next howned h.own)).keepsWithin _)
    (((htraced.next h.otherOwn.listsById).filing
      (Follower.owned_next howned h.otherOwn)).keepsWithin _)

/-- The listings of the storage of other accounts fail alike. -/
theorem mem_failedStorage_next_iff (h : scene.AlikeBut address other R) (settings : Settings)
    (hcoherent : follower.store.Coherent) (howned : follower.store.Owned) {a : String}
    (ha : a ≠ address) :
    a ∈ (scene.next settings follower).state.failedStorage ↔
      a ∈ (other.next settings follower).state.failedStorage := by
  rw [mem_failedStorage_next, mem_failedStorage_next]
  exact exists_congr fun e =>
    mem_iff_of_filter_eq (h.listings settings hcoherent howned) (bne_iff_ne.mpr ha)

end Scene.AlikeBut

/-! ### Isolation -/

namespace Follower

/-- The followers are the same but for what belongs to an address. Stamps are left aside. -/
structure SameBut (address : String) (a b : Follower) : Prop where
  /-- The watermarks are the same. -/
  watermark : a.watermark = b.watermark
  /-- The blocks are the same. -/
  blocks : a.store.blocks = b.store.blocks
  /-- The transactions are the same. -/
  transactions : a.store.transactions.SameContent b.store.transactions
  /-- The events are the same. -/
  events : a.store.events = b.store.events
  /-- The other accounts are the same, in the same order. -/
  accounts : (a.store.accounts.filter (·.address != address)).map unstamped =
    (b.store.accounts.filter (·.address != address)).map unstamped
  /-- The contracts of other accounts are the same, in the same order. -/
  contracts : (a.store.contracts.filter (·.address != address)).map unstamped =
    (b.store.contracts.filter (·.address != address)).map unstamped
  /-- The items of other accounts are the same, in the same order. -/
  storage : (a.store.storage.filter (·.address != address)).map unstamped =
    (b.store.storage.filter (·.address != address)).map unstamped
  /-- The other accounts that wait for a lookup are the same, and they wait alike. -/
  pending : ∀ other ≠ address, a.state.pending[other]? = b.state.pending[other]?
  /-- The other accounts whose storage is to be listed again are the same. -/
  failedStorage : ∀ other ≠ address,
    (other ∈ a.state.failedStorage ↔ other ∈ b.state.failedStorage)

/-- **Failures are isolated.** After any turns of a follower, two ticks at the same moment whose
gateways answer alike but about one address leave the same behind, but for what belongs to that
address. Transactions are the same with their stamps if the wall clock shows the same throughout the
tick. -/
theorem isolated (settings : Settings) (turns : List (Turn ρ))
    (hturns : ∀ turn ∈ turns, turn.AnswersOwn) {address : String} {scene : Scene σ}
    {other : Scene τ} {R : σ → τ → Prop} (h : scene.AlikeBut address other R) :
    (scene.next settings (initial.after settings turns)).SameBut address
        (other.next settings (initial.after settings turns)) ∧
      ((∀ m n, scene.moment.wall m = scene.moment.wall n) →
        (scene.next settings (initial.after settings turns)).store.transactions =
          (other.next settings (initial.after settings turns)).store.transactions) := by
  have htraced := traced_after settings fun turn hturn => (hturns turn hturn).listsById
  have howned := owned_after settings hturns
  have hcoherent := htraced.coherent
  generalize initial.after settings turns = follower at htraced howned hcoherent ⊢
  have hblocks := h.index_next_eq settings follower (by decide : Kind.block ∉ _)
  have hevents := h.index_next_eq settings follower (by decide : Kind.event ∉ _)
  constructor
  · exact {
      watermark := h.watermark_next_eq settings follower
      blocks := hblocks
      transactions := h.transactions_next settings follower .refl
        fun _ _ _ _ target patch hab => hab.update _ _ target patch
      events := hevents
      accounts := h.accounts_next settings hcoherent howned
      contracts := h.contracts_next settings hcoherent howned
      storage := h.storage_next settings htraced howned
      pending := fun _ hother => h.pending_next_eq settings follower hother
      failedStorage := fun _ hother =>
        h.mem_failedStorage_next_iff settings hcoherent howned hother }
  · intro hwall
    refine h.transactions_next settings follower (S := Eq) (fun _ => rfl) ?_
    rintro a _ m n target patch rfl
    rw [← h.moment, hwall m n]

/-- A tick whose gateway holds one block, and fails whatever it is asked about one account. -/
def faultyScene (seconds : Nat) (faulty : Option String) : Scene Unit where
  gateway := {
    ask
      | .latestHeight, _ => (.ok 1, ())
      | .block height, _ => (.ok (Block.sample height), ())
      | .contents blockId, _ => (.ok ⟨[.sample "tx-1" blockId "0x3"], []⟩, ())
      | .account address, _ =>
        (if Address.Plain address ∧ faulty ≠ some address then .ok (Account.sample address 1)
          else .error .transport, ())
      | .contracts address, _ =>
        (if faulty ≠ some address then .ok [Contract.sample address "Vault"]
          else .error .transport, ())
      | .storage address, _ =>
        (if faulty ≠ some address then .ok [StorageItem.sample address "/storage/vault"]
          else .error .transport, ())
      | _, _ => (.error .transport, ()) }
  chain := ()
  moment := ⟨fun _ => 0, Span.ofSeconds seconds⟩

theorem answersOwn_faultyScene (seconds : Nat) (faulty : Option String) :
    (faultyScene seconds faulty).gateway.AnswersOwn where
  account {address chain a} hask := by
    dsimp only [faultyScene] at hask
    split at hask
    · rename_i hplain
      obtain rfl := Except.ok.inj hask
      exact ⟨hplain.1, rfl, rfl⟩
    · cases hask
  contracts {address chain contracts} hask := by
    dsimp only [faultyScene] at hask
    split at hask
    · obtain rfl := Except.ok.inj hask
      exact List.forall_mem_singleton.mpr ⟨rfl, rfl⟩
    · cases hask
  storage {address chain} listing hask := by
    dsimp only [faultyScene] at hask
    split at hask
    · obtain rfl := Except.ok.inj hask
      exact List.forall_mem_singleton.mpr ⟨rfl, rfl⟩
    · cases hask

/-- Whether an account is faulty makes no difference to answers about others. -/
theorem alikeBut_faultyScene (seconds : Nat) (address : String) :
    (faultyScene seconds (some address)).AlikeBut address (faultyScene seconds none)
      fun _ _ => True where
  gateway := {
    answer_eq := fun call _ _ hcall _ => by
      cases call with
      | account other | contracts other | storage other =>
        have hne : some address ≠ some other := Ne.symm hcall
        simp only [faultyScene, hne, ne_eq, not_false_eq_true, reduceCtorEq]
      | _ => rfl
    both := fun _ _ _ _ _ => trivial
    left := fun _ _ _ _ _ => trivial
    right := fun _ _ _ _ _ => trivial }
  chain := trivial
  moment := rfl
  own := answersOwn_faultyScene _ _
  otherOwn := answersOwn_faultyScene _ _

/-- The settings of a follower that follows two accounts by default. -/
def pairSettings : Settings := { Settings.standard with trackedAddresses := ["0x1", "0x2"] }

/-- A follower that could not look up one of the accounts yet. -/
def halfDone : Follower := initial.after pairSettings [.tick (faultyScene 0 (some "0x1"))]

/-- Ten seconds later, it is all the same to other accounts whether the lookup fails again. -/
theorem isolated_of_sample :
    ((faultyScene 10 (some "0x1")).next pairSettings halfDone).SameBut "0x1"
        ((faultyScene 10 none).next pairSettings halfDone) ∧
      ((faultyScene 10 (some "0x1")).next pairSettings halfDone).store.transactions =
        ((faultyScene 10 none).next pairSettings halfDone).store.transactions := by
  have hturns : ∀ turn ∈ [Turn.tick (faultyScene 0 (some "0x1"))], turn.AnswersOwn :=
    List.forall_mem_singleton.mpr (answersOwn_faultyScene 0 (some "0x1"))
  obtain ⟨hsame, htransactions⟩ :=
    isolated pairSettings _ hturns (alikeBut_faultyScene 10 "0x1")
  exact ⟨hsame, htransactions fun _ _ => rfl⟩

end Follower

end ChainFeed
