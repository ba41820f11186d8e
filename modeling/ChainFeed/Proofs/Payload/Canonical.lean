import ChainFeed.Proofs.Address.Spelling
import ChainFeed.Proofs.Gateway.Carried
import ChainFeed.Proofs.Index.Slice

/-!
# Converted resources are canonical

An access node spells addresses in any way, and so does whoever asks it. What is made of its answers
is **canonical**: every address in it is in its canonical spelling, and the ids are made of those
addresses. Payloads that differ at most in the spelling of their addresses are **respelled**
(`Respells`), and they are made into the same resources.

Reconciling passes over the listed items of other accounts, and tells accounts apart by the spelling
of their addresses. Since converted items are canonical, it passes over none of them, however the
account is spelled (`listedFor_storageItems`).
-/

namespace ChainFeed

open Address

/-! ### Canonical resources -/

/-- The account's id is its address, which is canonical. -/
structure Account.IsCanonical (account : Account) : Prop where
  /-- The address is in its canonical spelling. -/
  address : Address.IsCanonical account.address
  /-- The id is the address. -/
  id_eq : account.id = account.address

/-- The contract's id is made of its address, which is canonical, and its name. -/
structure Contract.IsCanonical (contract : Contract) : Prop where
  /-- The address is in its canonical spelling. -/
  address : Address.IsCanonical contract.address
  /-- The id is made of the address and the name. -/
  id_eq : contract.id = contract.address ++ "." ++ contract.name

/-- The item's id is made of its address, which is canonical, and its path. -/
structure StorageItem.IsCanonical (item : StorageItem) : Prop where
  /-- The address is in its canonical spelling. -/
  address : Address.IsCanonical item.address
  /-- The id is made of the address and the path. -/
  id_eq : item.id = item.address ++ "." ++ item.path

/-- The addresses of payer, proposer, authorizers and signers are canonical. -/
structure Transaction.IsCanonical (transaction : Transaction) : Prop where
  /-- The address of the payer is in its canonical spelling. -/
  payer : Address.IsCanonical transaction.payer
  /-- The address of the proposer is in its canonical spelling. -/
  proposer : Address.IsCanonical transaction.proposalKey.address
  /-- The addresses of the authorizers are in their canonical spelling. -/
  authorizers : ∀ address ∈ transaction.authorizers, Address.IsCanonical address
  /-- The addresses of those who signed the transaction are in their canonical spelling. -/
  payload : ∀ s ∈ transaction.payloadSignatures, Address.IsCanonical s.address
  /-- The addresses of those who signed the signatures are in their canonical spelling. -/
  envelope : ∀ s ∈ transaction.envelopeSignatures, Address.IsCanonical s.address

/-! ### Respelled payloads -/

/-- The keys are the same, but for the spelling of the proposer's address. -/
structure ProposalKey.Respells (key other : ProposalKey) : Prop where
  /-- The addresses are spellings of one address. -/
  address : Respelled key.address other.address
  /-- Nothing else differs. -/
  rest : other = { key with address := other.address }

/-- The signatures are the same, but for the spelling of the signer's address. -/
structure Signature.Respells (s other : Signature) : Prop where
  /-- The addresses are spellings of one address. -/
  address : Respelled s.address other.address
  /-- Nothing else differs. -/
  rest : other = { s with address := other.address }

theorem ProposalKey.Respells.canonical_eq {key other : ProposalKey} (h : key.Respells other) :
    key.canonical = other.canonical := by
  rw [ProposalKey.canonical, ProposalKey.canonical, h.address.canonical_eq, h.rest]

theorem Signature.Respells.canonical_eq {s other : Signature} (h : s.Respells other) :
    s.canonical = other.canonical := by
  rw [Signature.canonical, Signature.canonical, h.address.canonical_eq, h.rest]

/-- A function maps two lists to the same one if it does not tell their items apart. -/
theorem map_eq_map_of_forall₂ {α β : Type} {R : α → α → Prop} {f : α → β} {xs ys : List α}
    (h : List.Forall₂ R xs ys) (hf : ∀ x y, R x y → f x = f y) : xs.map f = ys.map f := by
  rw [← List.forall₂_eq_eq_eq, List.forall₂_map_left_iff, List.forall₂_map_right_iff]
  exact h.imp hf

namespace Payload

/-- The payloads are the same, but for the spelling of the account's address. -/
structure WrittenAccount.Respells (written other : WrittenAccount) : Prop where
  /-- The addresses are spellings of one address. -/
  address : Respelled written.address other.address
  /-- Nothing else differs. -/
  rest : other = { written with address := other.address }

/-- The payloads are the same, but for the spelling of addresses. -/
structure WrittenTransaction.Respells (written other : WrittenTransaction) : Prop where
  /-- The addresses of the payers are spellings of one address. -/
  payer : Respelled written.payer other.payer
  /-- The proposal keys differ at most in the spelling of the address. -/
  proposalKey : written.proposalKey.Respells other.proposalKey
  /-- The addresses of the authorizers are spellings of the same addresses in the same order. -/
  authorizers : List.Forall₂ Respelled written.authorizers other.authorizers
  /-- The signatures differ at most in the spelling of addresses. -/
  payloadSignatures :
    List.Forall₂ Signature.Respells written.payloadSignatures other.payloadSignatures
  /-- The signatures on signatures differ at most in the spelling of addresses. -/
  envelopeSignatures :
    List.Forall₂ Signature.Respells written.envelopeSignatures other.envelopeSignatures
  /-- Nothing else differs. -/
  rest : other = { written with
    payer := other.payer
    proposalKey := other.proposalKey
    authorizers := other.authorizers
    payloadSignatures := other.payloadSignatures
    envelopeSignatures := other.envelopeSignatures }

/-! ### Accounts and contracts -/

namespace WrittenAccount

variable {written other : WrittenAccount}

theorem toAccount_isCanonical (written : WrittenAccount) : written.toAccount.IsCanonical where
  address := canonical_isCanonical written.address
  id_eq := rfl

/-- A converted contract belongs to the converted account. -/
theorem toContract_isCanonical {entry : String × String} {contract : Contract}
    (h : written.toContract entry = .ok contract) :
    contract.IsCanonical ∧ contract.address = written.toAccount.address := by
  unfold toContract at h
  cases hcode : encoded (Text.Base64.decodeText? entry.2) with
  | error e =>
    rw [hcode] at h
    cases h
  | ok code =>
    rw [hcode] at h
    obtain rfl := Except.ok.inj h
    exact ⟨⟨canonical_isCanonical _, rfl⟩, rfl⟩

theorem toContracts_isCanonical {contracts : List Contract}
    (h : written.toContracts = .ok contracts) :
    ∀ contract ∈ contracts,
      contract.IsCanonical ∧ contract.address = written.toAccount.address := by
  intro contract hmem
  obtain ⟨entry, -, hentry⟩ := exists_of_mem_forall₂ (forall₂_of_mapM h) hmem
  exact toContract_isCanonical hentry

theorem Respells.toAccount_eq (h : written.Respells other) :
    written.toAccount = other.toAccount := by
  rw [toAccount, toAccount, h.address.canonical_eq, h.rest]

theorem Respells.toContracts_eq (h : written.Respells other) :
    written.toContracts = other.toContracts := by
  have hentry : written.toContract = other.toContract := by
    funext entry
    rw [toContract, toContract, h.address.canonical_eq]
  rw [toContracts, toContracts, hentry, h.rest]

end WrittenAccount

/-! ### Transactions -/

namespace WrittenTransaction

variable {written other : WrittenTransaction} {blockId : String} {status : TransactionStatus}

theorem toTransaction_isCanonical {transaction : Transaction}
    (h : written.toTransaction blockId status = .ok transaction) : transaction.IsCanonical := by
  obtain ⟨script, arguments, rfl⟩ := AccessNode.exists_of_toTransaction h
  exact {
    payer := canonical_isCanonical _
    proposer := canonical_isCanonical _
    authorizers := List.forall_mem_map.mpr fun _ _ => canonical_isCanonical _
    payload := List.forall_mem_map.mpr fun _ _ => canonical_isCanonical _
    envelope := List.forall_mem_map.mpr fun _ _ => canonical_isCanonical _ }

theorem Respells.toTransaction_eq (h : written.Respells other) (blockId : String)
    (status : TransactionStatus) :
    written.toTransaction blockId status = other.toTransaction blockId status := by
  have hauthorizers := map_eq_map_of_forall₂ h.authorizers fun _ _ => Respelled.canonical_eq
  have hpayload := map_eq_map_of_forall₂ h.payloadSignatures fun _ _ =>
    Signature.Respells.canonical_eq
  have henvelope := map_eq_map_of_forall₂ h.envelopeSignatures fun _ _ =>
    Signature.Respells.canonical_eq
  rw [toTransaction, toTransaction, h.payer.canonical_eq, h.proposalKey.canonical_eq, hauthorizers,
    hpayload, henvelope, h.rest]

end WrittenTransaction

/-! ### Storage -/

variable {address other : String} {listing : Json} {items : List StorageItem}

/-- A converted item belongs to the account with the address. -/
theorem storageItem_address {entry : Json} {item : StorageItem}
    (h : storageItem address entry = .ok item) :
    item.address = address ∧ item.id = address ++ "." ++ item.path := by
  unfold storageItem at h
  split at h
  · cases h
  · split at h
    · cases h
    · obtain rfl := Except.ok.inj h
      exact ⟨rfl, rfl⟩

theorem storageItems_address (h : storageItems address listing = .ok items) :
    ∀ item ∈ items, item.address = canonical address ∧
      item.id = canonical address ++ "." ++ item.path := by
  unfold storageItems at h
  split at h
  · cases h
  · intro item hmem
    obtain ⟨entry, -, hentry⟩ := exists_of_mem_forall₂ (forall₂_of_mapM h) hmem
    exact storageItem_address hentry

theorem storageItems_isCanonical (h : storageItems address listing = .ok items) :
    ∀ item ∈ items, item.IsCanonical := by
  intro item hmem
  obtain ⟨haddress, hid⟩ := storageItems_address h item hmem
  rw [← haddress] at hid
  exact ⟨haddress ▸ canonical_isCanonical address, hid⟩

/-- How the account is spelled does not matter to what it is said to store. -/
theorem storageItems_eq (h : Respelled address other) (listing : Json) :
    storageItems address listing = storageItems other listing := by
  rw [storageItems, storageItems, h.canonical_eq]

/-- **No converted item is taken for one of another account.** -/
theorem listedFor_storageItems (h : storageItems address listing = .ok items)
    (hspelled : Respelled address other) :
    Index.listedFor (canonical other) items = items := by
  refine List.filter_eq_self.mpr fun item hmem => beq_iff_eq.mpr ?_
  rw [(storageItems_address h item hmem).1, hspelled.canonical_eq]

end Payload

/-! ### Reconciliations -/

namespace Index

/-- Merging stores whatever is merged. -/
theorem contains_mergeAll {item : StorageItem} {items : List StorageItem} (h : item ∈ items)
    (clock : Nat → Nat) (index : Index StorageItem) :
    (index.mergeAll clock items).2.contains item.id := by
  induction items generalizing clock index with
  | nil => exact absurd h List.not_mem_nil
  | cons first rest ih =>
    rcases List.mem_cons.mp h with rfl | hrest
    · have hfirst : (index.merge (clock 0) item).2.contains item.id := contains_merge (.inr rfl)
      exact mergeAll_induction (P := fun later => later.contains item.id)
        (fun _ _ _ _ hstored => contains_merge (.inl hstored)) (fun n => clock (n + 1)) hfirst
    · exact ih hrest _ _

/-- Whatever is listed for an account is stored when the account is reconciled. -/
theorem contains_reconcile {item : StorageItem} {address : String} {listing : List StorageItem}
    (h : item ∈ listedFor address listing) (clock : Nat → Nat) (index : Index StorageItem) :
    (index.reconcile clock address listing).2.contains item.id := by
  let merged := (index.mergeAll clock (listedFor address listing)).2
  have hmerged : merged.contains item.id := contains_mergeAll h clock index
  -- nothing that is listed is stale
  have hlisted : item.id ∉ staleFor address listing merged := by
    intro hstale
    obtain ⟨stored, hstored, hid⟩ := List.mem_map.mp hstale
    have hunlisted := (Bool.and_eq_true_iff.mp (List.mem_filter.mp hstored).2).2
    rw [hid, List.contains_iff_mem.mpr (List.mem_map_of_mem h)] at hunlisted
    cases hunlisted
  show (merged.deleteAll (staleFor address listing merged)).2.contains item.id
  rw [contains_eq_isSome_get?, get?_deleteAll, if_neg hlisted, ← contains_eq_isSome_get?]
  exact hmerged

end Index

/-! ### Conversions -/

namespace Payload

/-- **Whatever is converted is canonical, and the spelling of addresses makes no difference to it.**
This holds of accounts and their contracts, of transactions, and of listings; and when an account is
reconciled with what it is said to store, nothing is passed over, whichever spelling the account is
asked for in and whichever it is reconciled in. -/
theorem conversions_canonical :
    (∀ written : WrittenAccount,
      written.toAccount.IsCanonical ∧
      (∀ contracts, written.toContracts = .ok contracts → ∀ contract ∈ contracts,
        contract.IsCanonical ∧ contract.address = written.toAccount.address) ∧
      ∀ other, written.Respells other →
        written.toAccount = other.toAccount ∧ written.toContracts = other.toContracts) ∧
    (∀ (written : WrittenTransaction) (blockId : String) (status : TransactionStatus),
      (∀ transaction, written.toTransaction blockId status = .ok transaction →
        transaction.IsCanonical) ∧
      ∀ other, written.Respells other →
        written.toTransaction blockId status = other.toTransaction blockId status) ∧
    ∀ (address : String) (listing : Json),
      (∀ items, storageItems address listing = .ok items → ∀ item ∈ items,
        item.IsCanonical ∧ item.address = canonical address) ∧
      ∀ other, Respelled address other →
        storageItems address listing = storageItems other listing ∧
        ∀ items, storageItems address listing = .ok items →
          Index.listedFor (canonical other) items = items ∧
          ∀ (clock : Nat → Nat) (index : Index StorageItem), ∀ item ∈ items,
            (index.reconcileAccount clock other items).2.contains item.id := by
  refine ⟨fun written => ⟨written.toAccount_isCanonical, ?_, ?_⟩, fun written blockId status =>
    ⟨?_, ?_⟩, fun address listing => ⟨?_, ?_⟩⟩
  · exact fun contracts hcontracts => WrittenAccount.toContracts_isCanonical hcontracts
  · exact fun other hother => ⟨hother.toAccount_eq, hother.toContracts_eq⟩
  · exact fun transaction htransaction =>
      WrittenTransaction.toTransaction_isCanonical htransaction
  · exact fun other hother => hother.toTransaction_eq blockId status
  · intro items hitems item hitem
    exact ⟨storageItems_isCanonical hitems item hitem, (storageItems_address hitems item hitem).1⟩
  · intro other hother
    refine ⟨storageItems_eq hother listing, fun items hitems => ?_⟩
    have hlisted := listedFor_storageItems hitems hother
    refine ⟨hlisted, fun clock index item hitem => ?_⟩
    exact Index.contains_reconcile (hlisted.symm ▸ hitem) clock index

/-- An account with one contract, in some spelling. -/
def sampleAccount (spelling : String) : WrittenAccount where
  address := spelling
  balance := 7
  keys := []
  contracts := [("Foo", "aGk=")]

/-- A transaction that one account pays for, proposes, authorizes and signs, in some spelling. -/
def sampleTransaction (spelling : String) : WrittenTransaction where
  id := "t1"
  script := "aGk="
  arguments := []
  referenceBlockId := "b1"
  gasLimit := 9
  payer := spelling
  proposalKey := ⟨spelling, 0, 1⟩
  authorizers := [spelling]
  payloadSignatures := [⟨spelling, 0, "s"⟩]
  envelopeSignatures := []

/-- A listing of an account's storage with one item. -/
def sampleListing : Json :=
  .list [.record [("path", .text "/storage/a"), ("type", .text "A")]]

/-- Two spellings of one address. -/
theorem respelled_sample : Respelled " 0XaB" "Ab" :=
  .spelled (by decide : IsBare ['a', 'b'])
    ⟨[' '], ['0', 'X'], ['a', 'B'], [], by decide, by decide, by decide, by decide, by decide⟩
    ⟨[], [], ['A', 'b'], [], by decide, by decide, by decide, by decide, by decide⟩

theorem conversions_canonical_of_sample :
    ((sampleAccount " 0XaB").Respells (sampleAccount "Ab") ∧
      (sampleAccount " 0XaB").toAccount = (sampleAccount "Ab").toAccount) ∧
    (∃ contracts, (sampleAccount " 0XaB").toContracts = .ok contracts ∧ contracts ≠ [] ∧
      ∀ contract ∈ contracts, contract.IsCanonical) ∧
    (∃ transaction, (sampleTransaction " 0XaB").toTransaction "b1" .unknown = .ok transaction ∧
      transaction.IsCanonical) ∧
    ((sampleTransaction " 0XaB").Respells (sampleTransaction "Ab") ∧
      (sampleTransaction " 0XaB").toTransaction "b1" .unknown =
        (sampleTransaction "Ab").toTransaction "b1" .unknown) ∧
    ∃ items, storageItems " 0XaB" sampleListing = .ok items ∧ items ≠ [] ∧
      (∀ item ∈ items, item.IsCanonical) ∧ Index.listedFor (canonical "Ab") items = items := by
  obtain ⟨haccounts, htransactions, hlistings⟩ := conversions_canonical
  have haccount : (sampleAccount " 0XaB").Respells (sampleAccount "Ab") := ⟨respelled_sample, rfl⟩
  have htransaction : (sampleTransaction " 0XaB").Respells (sampleTransaction "Ab") := {
    payer := respelled_sample
    proposalKey := ⟨respelled_sample, rfl⟩
    authorizers := .cons respelled_sample .nil
    payloadSignatures := .cons ⟨respelled_sample, rfl⟩ .nil
    envelopeSignatures := .nil
    rest := rfl }
  obtain ⟨hcontracts, hrespelled⟩ := (haccounts (sampleAccount " 0XaB")).2
  obtain ⟨hcanonical, hsame⟩ := htransactions (sampleTransaction " 0XaB") "b1" .unknown
  obtain ⟨hitems, hother⟩ := hlistings " 0XaB" sampleListing
  refine ⟨⟨haccount, (hrespelled _ haccount).1⟩,
    ⟨_, rfl, List.cons_ne_nil _ _, fun contract hmem => ?_⟩,
    ⟨_, rfl, hcanonical _ rfl⟩, ⟨htransaction, hsame _ htransaction⟩,
    ⟨_, rfl, List.cons_ne_nil _ _, fun item hmem => ?_,
      ((hother _ respelled_sample).2 _ rfl).1⟩⟩
  · exact (hcontracts _ rfl contract hmem).1
  · exact (hitems _ rfl item hmem).1

end Payload

end ChainFeed
