import ChainFeed.Proofs.Gateway.Apart
import ChainFeed.Proofs.Index.Agreement
import ChainFeed.Proofs.Ingest.Likeness
import ChainFeed.Proofs.Ingest.Lookups
import ChainFeed.Proofs.Ingest.Resync

/-!
# What belongs to other accounts

Two stores **agree apart from** an address (`Store.AgreeApart`) if what they hold about accounts
agrees on the ids that others own (`apartFrom`).

As long as a gateway answers about an address with what belongs to it (`Gateway.AnswersOwn`), the
outcome of a lookup or a listing of that address touches nothing else (`AgreeApart.takeLookup_left`,
`AgreeApart.takeListing_left`), and the outcome of any other keeps two stores in agreement
(`AgreeApart.takeLookup`, `AgreeApart.takeListing`). So what comes in one run and not in the other,
or comes with another outcome, leaves no trace elsewhere (`StepsApart.foldl`).
-/

namespace ChainFeed

open Ingest Resource

/-! ### Own answers -/

/-- The ids that belong to others than the account with an address. -/
def apartFrom (address : String) (id : String) : Bool := ownerOf id != address

theorem apartFrom_iff {address id : String} : apartFrom address id ↔ ownerOf id ≠ address :=
  bne_iff_ne

/-- An address without a dot is apart from all others. -/
theorem apartFrom_self_iff {address other : String} (h : '.' ∉ other.toList) :
    apartFrom address other ↔ other ≠ address := by
  rw [apartFrom_iff, ownerOf_self h]

/-- So are the ids that are made of it and a name or a path. -/
theorem apartFrom_append_iff {address other : String} (h : '.' ∉ other.toList) (rest : String) :
    apartFrom address (other ++ "." ++ rest) ↔ other ≠ address := by
  rw [apartFrom_iff, ownerOf_append h]

/-- An account that is found under a plain address has it for its id, and its contracts have ids
made of it and their names. -/
structure Ingest.FetchedAccount.Own (address : String) (fetched : FetchedAccount) : Prop where
  /-- The address is plain. -/
  plain : Address.Plain address
  /-- The account has the address for its id. -/
  id_eq : fetched.account.id = address
  /-- It has the address. -/
  address_eq : fetched.account.address = address
  /-- The contracts belong to the account. -/
  contracts : ∀ c ∈ fetched.contracts, c.address = address ∧ c.id = Contract.idOf address c.name

/-- The items of a listing belong to the account with an address, under ids that are made of it and
their paths. -/
def Ingest.OwnListing (address : String) (answer : Except GatewayError (List StorageItem)) :
    Prop :=
  ∀ listing, answer = .ok listing →
    ∀ item ∈ listing, item.address = address ∧ item.id = StorageItem.idOf address item.path

namespace Ingest.OwnListing

variable {address : String} {listing : List StorageItem}

theorem id_eq (h : OwnListing address (.ok listing)) :
    ∀ item ∈ listing, item.id = StorageItem.idOf item.address item.path := by
  intro item hitem
  obtain ⟨rfl, hid⟩ := h listing rfl item hitem
  exact hid

theorem proper (h : OwnListing address (.ok listing)) (hplain : Address.Plain address) :
    ∀ item ∈ Index.listedFor address listing, item.Proper :=
  Index.proper_of_mem_listedFor hplain.noDot h.id_eq

end Ingest.OwnListing

variable {σ : Type}

/-- The gateway answers about an address with what belongs to it, under well-formed ids, and knows
accounts with plain addresses only. -/
structure Gateway.AnswersOwn (gateway : Gateway σ) : Prop where
  /-- An account is found under its own plain address, which is its id. -/
  account {address : String} {chain : σ} {a : Account} :
    (gateway.ask (.account address) chain).1 = .ok a →
      Address.Plain address ∧ a.id = address ∧ a.address = address
  /-- The contracts belong to the account. -/
  contracts {address : String} {chain : σ} {contracts : List Contract} :
    (gateway.ask (.contracts address) chain).1 = .ok contracts →
      ∀ c ∈ contracts, c.address = address ∧ c.id = Contract.idOf address c.name
  /-- The items belong to the account. -/
  storage {address : String} {chain : σ} :
    OwnListing address (gateway.ask (.storage address) chain).1

theorem Gateway.AnswersOwn.listsById {gateway : Gateway σ} (h : gateway.AnswersOwn) :
    gateway.ListsById := by
  intro address chain listing hask
  have hown : OwnListing address (gateway.ask (.storage address) chain).1 := h.storage
  rw [hask] at hown
  exact hown.id_eq

/-- What is fetched of an account belongs to it. -/
theorem Gateway.AnswersOwn.own_of_fetchAccount {gateway : Gateway σ} (h : gateway.AnswersOwn)
    {address : String} {chain : σ} {fetched : FetchedAccount}
    (hfetched : (fetchAccount gateway address chain).1 = .ok fetched) : fetched.Own address := by
  obtain ⟨haccount, hcontracts⟩ := answered_of_fetchAccount hfetched
  obtain ⟨hplain, hid, haddress⟩ := h.account haccount
  exact ⟨hplain, hid, haddress, h.contracts hcontracts⟩

/-! ### Stores -/

/-- What the stores hold about accounts agrees apart from what belongs to an address. -/
structure Store.AgreeApart (address : String) (a b : Store) : Prop where
  /-- The accounts agree. -/
  accounts : a.accounts.AgreeOn (apartFrom address) b.accounts
  /-- The contracts agree. -/
  contracts : a.contracts.AgreeOn (apartFrom address) b.contracts
  /-- The items agree. -/
  storage : a.storage.AgreeOn (apartFrom address) b.storage

namespace Store.AgreeApart

variable {address : String} {a b c : Store}

theorem refl (address : String) (a : Store) : a.AgreeApart address a :=
  ⟨.refl _, .refl _, .refl _⟩

theorem symm (h : a.AgreeApart address b) : b.AgreeApart address a :=
  ⟨h.accounts.symm, h.contracts.symm, h.storage.symm⟩

theorem trans (hab : a.AgreeApart address b) (hbc : b.AgreeApart address c) :
    a.AgreeApart address c :=
  ⟨hab.accounts.trans hbc.accounts, hab.contracts.trans hbc.contracts,
    hab.storage.trans hbc.storage⟩

end Store.AgreeApart

/-! ### Lookups -/

namespace Ingest.Progress

variable {address : String} {moment : Moment} {p q : Progress}

/-- Merging contracts of the scope keeps two indexes in agreement. -/
theorem mergeContracts_agreeOn {scope : String → Bool}
    (h : p.store.contracts.AgreeOn scope q.store.contracts) {contracts : List Contract}
    (hscope : ∀ c ∈ contracts, scope c.id) :
    (p.mergeContracts moment contracts).store.contracts.AgreeOn scope
      (q.mergeContracts moment contracts).store.contracts := by
  induction contracts generalizing p q with
  | nil => exact h
  | cons c rest ih =>
    rw [List.forall_mem_cons] at hscope
    exact ih (p := p.write moment (.contract c)) (q := q.write moment (.contract c))
      (h.merge _ _ hscope.1).2 hscope.2

/-- Merging contracts outside the scope is none of its business. -/
theorem mergeContracts_outside {scope : String → Bool} (h : p.store.Coherent)
    {contracts : List Contract} (hscope : ∀ c ∈ contracts, ¬scope c.id) :
    p.store.contracts.AgreeOn scope (p.mergeContracts moment contracts).store.contracts := by
  have hall := List.foldlRecOn
    (motive := fun q : Progress =>
      q.store.Coherent ∧ p.store.contracts.AgreeOn scope q.store.contracts)
    contracts (fun q c => q.write moment (.contract c)) ⟨h, .refl _⟩
    (fun q hq c hc => ⟨hq.1.write _ _,
      hq.2.trans (.merge_outside (hq.1 .contract) _ (hscope c hc))⟩)
  exact hall.2

end Ingest.Progress

namespace Ingest

/-- What belongs to an account is apart from an address if the account has another one. -/
theorem FetchedAccount.Own.apart_iff {other : String} {fetched : FetchedAccount}
    (h : fetched.Own other) (address : String) :
    (apartFrom address fetched.account.id ↔ other ≠ address) ∧
      ∀ c ∈ fetched.contracts, (apartFrom address c.id ↔ other ≠ address) := by
  refine ⟨?_, fun c hc => ?_⟩
  · rw [h.id_eq]
    exact apartFrom_self_iff h.plain.noDot
  · rw [(h.contracts c hc).2]
    exact apartFrom_append_iff h.plain.noDot c.name

end Ingest

namespace Store.AgreeApart

variable {address other : String} {moment : Moment} {p q : Progress} {settings : Settings}

open Progress

/-- A lookup of another account keeps two stores in agreement. -/
theorem takeLookup (h : p.store.AgreeApart address q.store) (hother : other ≠ address)
    (waiting : Pending) {outcome : Except GatewayError FetchedAccount}
    (hown : ∀ fetched, outcome = .ok fetched → fetched.Own other) :
    (p.takeLookup settings moment other waiting outcome).store.AgreeApart address
      (q.takeLookup settings moment other waiting outcome).store := by
  have hstorage (p : Progress) :
      (p.takeLookup settings moment other waiting outcome).store.storage = p.store.storage :=
    (takeLookup_follows settings other waiting outcome p).index_eq
      (by decide : Kind.storageItem ∉ [Kind.account, .contract])
  cases outcome with
  | error e =>
    rw [Progress.takeLookup, Progress.takeLookup]
    split
    · cases waiting.afterMiss <;> exact h
    · exact h
  | ok fetched =>
    obtain ⟨haccount, hcontract⟩ := (hown fetched rfl).apart_iff address
    have hscope := haccount.mpr hother
    have hcontracts : ∀ c ∈ fetched.contracts, apartFrom address c.id := fun c hc =>
      (hcontract c hc).mpr hother
    -- the block that the account was last seen in may be the one that is stored with it
    have hblock : p.lastSeenIn waiting fetched.account = q.lastSeenIn waiting fetched.account :=
      lastSeenIn_eq (h.accounts.content_eq _ hscope) waiting
    have hfound : (p.mergeFound settings moment waiting fetched).store.accounts.AgreeOn
        (apartFrom address) (q.mergeFound settings moment waiting fetched).store.accounts := by
      unfold mergeFound
      rw [hblock]
      exact (h.accounts.merge (r := fetched.accountIn settings _) _ _ hscope).2
    refine ⟨?_, ?_, ?_⟩
    · show Index.AgreeOn _ (p.mergeAccount settings moment waiting fetched).store.accounts
        (q.mergeAccount settings moment waiting fetched).store.accounts
      rw [accounts_mergeAccount, accounts_mergeAccount]
      exact hfound
    · show Index.AgreeOn _ (p.mergeAccount settings moment waiting fetched).store.contracts
        (q.mergeAccount settings moment waiting fetched).store.contracts
      rw [mergeAccount_eq, mergeAccount_eq, hblock]
      exact mergeContracts_agreeOn (p := p.mergeFound settings moment waiting fetched)
        (q := q.mergeFound settings moment waiting fetched) h.contracts
        (List.forall_mem_map.mpr hcontracts)
    · rw [hstorage, hstorage]
      exact h.storage

/-- A lookup of the account with the address leaves no trace elsewhere. -/
theorem takeLookup_left (h : p.store.Coherent) (waiting : Pending)
    {outcome : Except GatewayError FetchedAccount}
    (hown : ∀ fetched, outcome = .ok fetched → fetched.Own address) :
    p.store.AgreeApart address
      (p.takeLookup settings moment address waiting outcome).store := by
  have hstorage :
      (p.takeLookup settings moment address waiting outcome).store.storage = p.store.storage :=
    (takeLookup_follows settings address waiting outcome p).index_eq
      (by decide : Kind.storageItem ∉ [Kind.account, .contract])
  cases outcome with
  | error e =>
    rw [Progress.takeLookup]
    split
    · cases waiting.afterMiss <;> exact refl _ _
    · exact refl _ _
  | ok fetched =>
    obtain ⟨haccount, hcontract⟩ := (hown fetched rfl).apart_iff address
    have hscope : ¬apartFrom address fetched.account.id := fun hapart => haccount.mp hapart rfl
    have hcontracts : ∀ c ∈ fetched.contracts, ¬apartFrom address c.id := fun c hc hapart =>
      (hcontract c hc).mp hapart rfl
    refine ⟨?_, ?_, ?_⟩
    · show Index.AgreeOn _ _ (p.mergeAccount settings moment waiting fetched).store.accounts
      rw [accounts_mergeAccount]
      exact .merge_outside (h .account) _ hscope
    · show Index.AgreeOn _ _ (p.mergeAccount settings moment waiting fetched).store.contracts
      rw [mergeAccount_eq]
      have hfound : (p.mergeFound settings moment waiting fetched).store.Coherent := h.write _ _
      exact mergeContracts_outside hfound (List.forall_mem_map.mpr hcontracts)
    · rw [hstorage]
      exact .refl _

/-! ### Listings -/

/-- A listing of another account keeps two stores in agreement. -/
theorem takeListing (h : p.store.AgreeApart address q.store) (hp : p.store.storage.Filing)
    (hq : q.store.storage.Filing) (hother : other ≠ address) (hplain : Address.Plain other)
    (total : SliceChange) {answer : Except GatewayError (List StorageItem)}
    (hown : OwnListing other answer) :
    (p.takeListing moment other total answer).2.store.AgreeApart address
      (q.takeListing moment other total answer).2.store := by
  cases answer with
  | error e => exact h
  | ok listing =>
    have hproper := hown.proper hplain
    have hscope : ∀ item : StorageItem, item.Proper → item.address = other →
        apartFrom address item.id := by
      intro item hitem haddress
      rw [hitem.id_eq]
      exact (apartFrom_append_iff hitem.plain item.path).mpr (haddress ▸ hother)
    -- whatever is stale in one of the stores is stale in the other
    have hwithin {index : Index StorageItem} (hindex : index.Filing) :
        index.KeepsWithin (apartFrom address) (·.address == other) :=
      hindex.coherent.keepsWithin fun i item hitem haddress =>
        hscope item (hindex.proper i item hitem) (beq_iff_eq.mp haddress)
    have hreconciled := h.storage.reconcile
      (fun item hitem => hscope item (hproper item hitem)
        (beq_iff_eq.mp (List.mem_filter.mp hitem).2))
      (fun n => moment.wall (p.journal.size + n)) (fun n => moment.wall (q.journal.size + n))
      (hwithin (hp.mergeAll hproper _)) (hwithin (hq.mergeAll hproper _))
    refine ⟨h.accounts, h.contracts, ?_⟩
    rw [store_takeListing_ok, store_takeListing_ok, hplain.canonical_eq]
    exact hreconciled.2

/-- A listing of the account with the address leaves no trace elsewhere. -/
theorem takeListing_left (h : p.store.storage.Filing) (hplain : Address.Plain address)
    (total : SliceChange) {answer : Except GatewayError (List StorageItem)}
    (hown : OwnListing address answer) :
    p.store.AgreeApart address (p.takeListing moment address total answer).2.store := by
  cases answer with
  | error e => exact refl _ _
  | ok listing =>
    refine ⟨.refl _, .refl _, ?_⟩
    rw [store_takeListing_ok, hplain.canonical_eq]
    refine .reconcile_outside h (hown.proper hplain) (fun item hproper haddress => ?_) _
    rw [hproper.id_eq]
    exact fun hapart => (apartFrom_append_iff hproper.plain item.path).mp hapart haddress

end Store.AgreeApart

/-! ### Taking many outcomes -/

namespace Ingest

/-- How steps treat items that concern accounts, each of which is what it should be (`own`), as long
as the progress is (`sound`): those of the account with an address leave no trace elsewhere, and the
others, which are picked, keep stores in agreement. -/
structure StepsApart (address : String) {α : Type} (own : α → Prop) (pick : α → Bool)
    (sound : Progress → Prop) (step : Progress → α → Progress) : Prop where
  /-- The progress stays sound. -/
  keeps {p : Progress} {item : α} : own item → sound p → sound (step p item)
  /-- An item that is not picked leaves no trace elsewhere. -/
  left {p : Progress} {item : α} : own item → ¬pick item → sound p →
    p.store.AgreeApart address (step p item).store
  /-- A picked item keeps stores in agreement. -/
  both {p q : Progress} {item : α} : own item → pick item → sound p → sound q →
    p.store.AgreeApart address q.store → (step p item).store.AgreeApart address (step q item).store

namespace StepsApart

variable {address : String} {α : Type} {own : α → Prop} {pick : α → Bool} {sound : Progress → Prop}
  {step : Progress → α → Progress} {p q : Progress}

/-- It makes no difference elsewhere whether the items are taken that are not picked. -/
theorem foldl_filter (h : StepsApart address own pick sound step) {items : List α}
    (hitems : ∀ item ∈ items, own item) (hp : sound p) (hq : sound q)
    (hpq : p.store.AgreeApart address q.store) :
    (items.foldl step p).store.AgreeApart address ((items.filter pick).foldl step q).store := by
  induction items generalizing p q with
  | nil => exact hpq
  | cons item rest ih =>
    rw [List.forall_mem_cons] at hitems
    have hnext := h.keeps hitems.1 hp
    rw [List.foldl_cons]
    by_cases hitem : pick item
    · rw [List.filter_cons_of_pos hitem, List.foldl_cons]
      exact ih hitems.2 hnext (h.keeps hitems.1 hq) (h.both hitems.1 hitem hp hq hpq)
    · rw [List.filter_cons_of_neg hitem]
      exact ih hitems.2 hnext hq ((h.left hitems.1 hitem hp).symm.trans hpq)

/-- **What is taken in one run and not in the other leaves no trace elsewhere.** -/
theorem foldl (h : StepsApart address own pick sound step) {items others : List α}
    (hitems : ∀ item ∈ items, own item) (hothers : ∀ item ∈ others, own item)
    (hpicked : items.filter pick = others.filter pick) (hp : sound p) (hq : sound q)
    (hpq : p.store.AgreeApart address q.store) :
    (items.foldl step p).store.AgreeApart address (others.foldl step q).store := by
  have hleft := h.foldl_filter hitems hp hq hpq
  have hright := h.foldl_filter hothers hq hq (.refl _ _)
  rw [hpicked] at hleft
  exact hleft.trans hright.symm

end StepsApart

open Progress

/-- Lookups of other accounts are picked. -/
theorem stepsApart_takeLookup (address : String) (settings : Settings) (moment : Moment) :
    StepsApart address
      (fun lookup : (String × Pending) × Except GatewayError FetchedAccount =>
        ∀ fetched, lookup.2 = .ok fetched → fetched.Own lookup.1.1)
      (fun lookup => lookup.1.1 != address) (fun p => p.store.Coherent)
      (fun p lookup => p.takeLookup settings moment lookup.1.1 lookup.1.2 lookup.2) where
  keeps {p lookup} _ hp := coherent_takeLookups settings moment hp [lookup]
  left {p lookup} hown hlookup hp := by
    have haddress : lookup.1.1 = address := by simpa using hlookup
    rw [haddress] at hown ⊢
    exact .takeLookup_left hp lookup.1.2 hown
  both hown hlookup _ _ hpq := hpq.takeLookup (bne_iff_ne.mp hlookup) _ hown

/-- Listings of other accounts are picked. -/
theorem stepsApart_takeListing (address : String) (moment : Moment) :
    StepsApart address
      (fun listing : String × Except GatewayError (List StorageItem) =>
        Address.Plain listing.1 ∧ OwnListing listing.1 listing.2)
      (fun listing => listing.1 != address) (fun p => p.store.storage.Filing)
      (fun p listing => (p.takeListing moment listing.1 SliceChange.zero listing.2).2) where
  keeps {p listing} hown hp := by
    obtain ⟨other, e | items⟩ := listing
    · exact hp
    · dsimp only at hown ⊢
      rw [store_takeListing_ok, hown.1.canonical_eq]
      exact (hp.reconcile (Index.proper_of_mem_listedFor hown.1.noDot hown.2.id_eq) _).1
  left {p listing} hown hlisting hp := by
    have haddress : listing.1 = address := by simpa using hlisting
    rw [haddress] at hown ⊢
    exact .takeListing_left hp hown.1 _ hown.2
  both hown hlisting hp hq hpq :=
    hpq.takeListing hp hq (bne_iff_ne.mp hlisting) hown.1 _ hown.2

/-- The listings that are taken do not depend on what others changed. -/
theorem takeListings_eq_foldl (moment : Moment)
    (listings : List (String × Except GatewayError (List StorageItem))) (total : SliceChange)
    (p : Progress) :
    (p.takeListings moment listings total).2 =
      listings.foldl
        (fun p listing => (p.takeListing moment listing.1 SliceChange.zero listing.2).2) p := by
  induction listings generalizing total p with
  | nil => rfl
  | cons listing rest ih =>
    have hstep : (p.takeListing moment listing.1 total listing.2).2 =
        (p.takeListing moment listing.1 SliceChange.zero listing.2).2 := by
      cases listing.2 <;> rfl
    rw [takeListings, List.foldl_cons, ← hstep]
    exact ih _ _

/-! ### Statuses -/

/-- What a status does to the stored transactions. -/
theorem transactions_takeStatus (moment : Moment) (stored : Transaction)
    (answer : Except GatewayError TransactionStatus) (p : Progress) :
    (p.takeStatus moment stored answer).store.transactions =
      match answer with
      | .ok status =>
        if status.advancesOver stored.status then
          (p.store.transactions.update (moment.wall p.journal.size) stored.id
            ({ status := some status } : TransactionPatch)).2
        else p.store.transactions
      | .error _ => p.store.transactions := by
  cases answer with
  | ok status =>
    rw [takeStatus]
    dsimp only
    split
    · unfold advance
      dsimp only
      split <;> rfl
    · rfl
  | error e =>
    rw [takeStatus]
    split <;> rfl

end Ingest

end ChainFeed
