import ChainFeed.Proofs.Ingest.Turns
import ChainFeed.Proofs.Payload.Canonical
import ChainFeed.Proofs.Service.Requests
import ChainFeed.Resource.Sample
import ChainFeed.Service.Answer

/-!
# Accounts in other spellings

The store files things under canonical addresses (`Store.IsCanonical`), but clients spell addresses
as they like. What belongs to an account is found under all spellings of its address, because the
service brings the address into its canonical spelling first (`Service.get_slices`). The account
itself is looked up as it is spelled, so it is found under its canonical spelling only
(`Service.get_account`).
-/

namespace ChainFeed

open Address Resource

/-- The addresses that resources are found by are canonical. -/
structure Store.IsCanonical (store : Store) : Prop where
  /-- The ids of accounts are their addresses, which are canonical. -/
  accounts : store.accounts.All Account.IsCanonical
  /-- The owners of contracts are in canonical spelling. -/
  contracts : store.contracts.All fun contract => Address.IsCanonical contract.address
  /-- The owners of items are in canonical spelling. -/
  storage : store.storage.All fun item => Address.IsCanonical item.address
  /-- Payers, proposers and authorizers are in canonical spelling. -/
  transactions : store.transactions.All fun transaction =>
    ∀ participant ∈ transaction.participants, Address.IsCanonical participant

namespace Service

variable {store : Store} {part address : String}

/-- The answer to a request for what is at a path, with a query. -/
def get (store : Store) (path query : String) : Answer := answer store ⟨"GET", ⟨path, query⟩⟩

/-- The answer that holds the resources with a property that changed after a bound, and no other. -/
def changesAfter {R : Type} [Resource R] (bound : Nat) (index : Index R) (P : R → Prop)
    [DecidablePred P] : Answer :=
  .ok (PollingResponse.of (index.toList.filter fun r => bound < changedAt r ∧ P r)).toJson

/-- The answer about resources with a property to a query, which may give a bound. -/
def changes {R : Type} [Resource R] (query : String) (index : Index R) (P : R → Prop)
    [DecidablePred P] : Answer :=
  match pollingQuery? query with
  | none => .badQuery
  | some bound => changesAfter bound.timestamp index P

/-- A number that a query gives is the bound. -/
theorem changes_timestamp {R : Type} [Resource R] {n : Nat} (h : n < Text.word64) (index : Index R)
    (P : R → Prop) [DecidablePred P] :
    changes ("timestamp=" ++ toString n) index P = changesAfter n index P := by
  rw [changes, pollingQuery?_timestamp h]

theorem get_of_polling {path : String} {route : Route} (hpath : Route.ofPath? path = some route)
    (hpolling : route.isPolling) (query : String) :
    get store path query = (pollingQuery? query).elim .badQuery (answerRoute store · route) := by
  rw [get, answer, if_pos rfl, hpath]
  dsimp only
  rw [if_pos hpolling]
  cases pollingQuery? query <;> rfl

/-- A condition that says of all stored resources what a property says of them selects the same
ones. -/
theorem answerPollWhere_eq {R : Type} [Resource R] {index : Index R} {keep : R → Bool}
    {P : R → Prop} [DecidablePred P] (h : ∀ r ∈ index.toList, (keep r ↔ P r)) (query : String) :
    (pollingQuery? query).elim .badQuery (answerPollWhere · keep index) =
      changes query index P := by
  rw [changes]
  cases pollingQuery? query with
  | none => rfl
  | some bound =>
    have hfilter : index.toList.filter (fun r => decide (bound.timestamp < changedAt r) && keep r) =
        index.toList.filter fun r => bound.timestamp < changedAt r ∧ P r := by
      refine List.filter_congr fun r hr => ?_
      rw [Bool.decide_and, Bool.eq_iff_iff.mpr ((h r hr).trans (decide_eq_true_iff).symm)]
    exact congrArg (fun data => Answer.ok (PollingResponse.of data).toJson) hfilter

/-- **What belongs to an account is found under every spelling of its address.** -/
theorem get_slices (hcanonical : store.IsCanonical) (h : Route.StandsFor part address)
    (query : String) :
    get store ("/accounts/" ++ part ++ "/storage/polling") query =
        changes query store.storage (fun item => canonical item.address = canonical address) ∧
      get store ("/accounts/" ++ part ++ "/contracts/polling") query =
        changes query store.contracts
          (fun contract => canonical contract.address = canonical address) ∧
      get store ("/accounts/" ++ part ++ "/transactions/polling") query =
        changes query store.transactions (fun transaction =>
          ∃ participant ∈ transaction.participants,
            canonical participant = canonical address) := by
  obtain ⟨hstorage, hcontracts, htransactions⟩ := Route.ofPath?_slice h
  refine ⟨(get_of_polling hstorage rfl query).trans
      (answerPollWhere_eq (fun item hitem => ?_) query),
    (get_of_polling hcontracts rfl query).trans
      (answerPollWhere_eq (fun contract hcontract => ?_) query),
    (get_of_polling htransactions rfl query).trans
      (answerPollWhere_eq (fun transaction htransaction => ?_) query)⟩
  · have howner : canonical item.address = item.address :=
      hcanonical.storage.of_mem_toList hitem
    rw [beq_iff_eq, howner]
  · have howner : canonical contract.address = contract.address :=
      hcanonical.contracts.of_mem_toList hcontract
    rw [beq_iff_eq, howner]
  · have hparticipants := hcanonical.transactions.of_mem_toList htransaction
    rw [List.contains_iff_mem]
    constructor
    · intro hmem
      exact ⟨_, hmem, canonical_isCanonical address⟩
    · rintro ⟨participant, hmem, heq⟩
      have hown : canonical participant = participant := hparticipants participant hmem
      rwa [← heq, hown]

/-- **An account is found under its canonical spelling only.** -/
theorem get_account (hcoherent : store.accounts.Coherent) (hcanonical : store.IsCanonical)
    (h : Route.StandsFor part address) (hpolling : address ≠ "polling") (query : String) :
    get store ("/accounts/" ++ part) query =
      if Address.IsCanonical address then answerFind address store.accounts
      else .ofError (.notFound .account address) := by
  have hroute : get store ("/accounts/" ++ part) query = answerFind address store.accounts := by
    rw [get, answer, if_pos rfl, Route.ofPath?_account h hpolling]
    rfl
  rw [hroute]
  split
  · rfl
  · rename_i hspelling
    have hnone : store.accounts.get? address = none := by
      refine Option.eq_none_iff_forall_ne_some.mpr fun account hget => hspelling ?_
      have hstored := hcanonical.accounts _ _ hget
      have hid : account.id = address := (hcoherent.filed hget).id_eq
      rw [← hid, hstored.id_eq]
      exact hstored.address
    rw [answerFind, Index.find, hnone]
    rfl

/-- **Answers about an account whose address is spelled in two ways.** Those about what belongs to
it are the same, whatever the query; and if the query gives a bound, they hold what changed after
the bound and has the account as its owner, or as its payer, proposer or an authorizer. The account
itself is found under the canonical spelling, and under no other one. -/
theorem answers_about_respelled (hcoherent : store.accounts.Coherent)
    (hcanonical : store.IsCanonical) {a b p q : String} (h : Respelled a b)
    (ha : Route.StandsFor p a) (hb : Route.StandsFor q b) :
    (∀ slice ∈ ["/storage/polling", "/contracts/polling", "/transactions/polling"],
      ∀ query : String, get store ("/accounts/" ++ p ++ slice) query =
        get store ("/accounts/" ++ q ++ slice) query) ∧
    (∀ n < Text.word64,
      get store ("/accounts/" ++ p ++ "/storage/polling") ("timestamp=" ++ toString n) =
          changesAfter n store.storage (fun item => canonical item.address = canonical a) ∧
        get store ("/accounts/" ++ p ++ "/contracts/polling") ("timestamp=" ++ toString n) =
          changesAfter n store.contracts
            (fun contract => canonical contract.address = canonical a) ∧
        get store ("/accounts/" ++ p ++ "/transactions/polling") ("timestamp=" ++ toString n) =
          changesAfter n store.transactions (fun transaction =>
            ∃ participant ∈ transaction.participants, canonical participant = canonical a)) ∧
    ∀ spelling ∈ [(p, a), (q, b)], spelling.2 ≠ "polling" → ∀ query : String,
      get store ("/accounts/" ++ spelling.1) query =
        if Address.IsCanonical spelling.2 then answerFind spelling.2 store.accounts
        else .ofError (.notFound .account spelling.2) := by
  refine ⟨?_, fun n hn => ?_, ?_⟩
  · have hslices (query : String) := get_slices hcanonical ha query
    have hothers (query : String) := get_slices hcanonical hb query
    simp only [← h.canonical_eq] at hothers
    rw [List.forall_mem_cons, List.forall_mem_cons, List.forall_mem_singleton]
    exact ⟨fun query => (hslices query).1.trans (hothers query).1.symm,
      fun query => (hslices query).2.1.trans (hothers query).2.1.symm,
      fun query => (hslices query).2.2.trans (hothers query).2.2.symm⟩
  · have hslices := get_slices hcanonical ha ("timestamp=" ++ toString n)
    simpa only [changes_timestamp hn] using hslices
  · rw [List.forall_mem_cons, List.forall_mem_singleton]
    exact ⟨get_account hcoherent hcanonical ha, get_account hcoherent hcanonical hb⟩

/-- A store with one account, which holds a contract. -/
def oneAccountStore : Store :=
  (Store.empty.write 1000 (.account (Account.sample "0xab" 1))).write 1000
    (.contract (Contract.sample "0xab" "C"))

theorem oneAccountStore_coherent : oneAccountStore.Coherent :=
  (Store.Coherent.empty.write _ _).write _ _

theorem oneAccountStore_isCanonical : oneAccountStore.IsCanonical where
  accounts := (Index.All.clear Index.empty).merge
    (fun _ => ⟨(by decide : Address.IsCanonical "0xab"), rfl⟩)
    fun _ _ hstored => ⟨hstored.address, hstored.id_eq⟩
  contracts := (Index.All.clear Index.empty).merge
    (fun _ => (by decide : Address.IsCanonical "0xab")) fun _ _ hstored => hstored
  storage := Index.All.clear Index.empty
  transactions := Index.All.clear Index.empty

theorem respelled_ab : Respelled "0xab" "AB" :=
  .spelled (by decide : IsBare ['a', 'b'])
    ⟨[], ['0', 'x'], ['a', 'b'], [], by decide, by decide, by decide, by decide, by decide⟩
    ⟨[], [], ['A', 'B'], [], by decide, by decide, by decide, by decide, by decide⟩

/-- The contract is found with another spelling of the address, one letter of which is escaped. The
account is not found. -/
theorem answers_about_escaped :
    get oneAccountStore ("/accounts/" ++ "%41B" ++ "/contracts/polling") "timestamp=5" =
        get oneAccountStore ("/accounts/" ++ "0xab" ++ "/contracts/polling") "timestamp=5" ∧
      get oneAccountStore ("/accounts/" ++ "0xab" ++ "/contracts/polling")
          ("timestamp=" ++ toString 5) =
        changesAfter 5 oneAccountStore.contracts (fun contract =>
          canonical contract.address = canonical "0xab") ∧
      get oneAccountStore ("/accounts/" ++ "%41B") "" = .ofError (.notFound .account "AB") := by
  have hplain : Route.StandsFor "0xab" "0xab" := Route.standsFor_self (by decide) (by decide)
  have hescaped : Route.StandsFor "%41B" "AB" :=
    ⟨by decide +kernel, by decide +kernel, by decide⟩
  obtain ⟨hslices, hchanges, haccount⟩ := answers_about_respelled
    (oneAccountStore_coherent .account) oneAccountStore_isCanonical respelled_ab hplain hescaped
  exact ⟨(hslices _ (by decide) _).symm, (hchanges 5 (by decide)).2.1,
    haccount ("%41B", "AB") (by decide) (by decide) ""⟩

/-- Under one spelling of its address the account is found, under another one it is not. -/
theorem spelling_not_found :
    oneAccountStore.Coherent ∧ oneAccountStore.IsCanonical ∧ Respelled "0xab" "AB" ∧
      (get oneAccountStore "/accounts/0xab" "").status = 200 ∧
      (get oneAccountStore "/accounts/AB" "").status = 404 :=
  ⟨oneAccountStore_coherent, oneAccountStore_isCanonical, respelled_ab, by decide +kernel,
    by decide +kernel⟩

end Service

end ChainFeed
