import Mathlib.Data.List.Forall2
import ChainFeed.Proofs.Gateway.Legible

/-!
# What a block carries, entry by entry

What a block carries is made of its transactions and their results (`AccessNode.Carries`): each
transaction has its place and the status of its own result, and the events of the results stand
behind each other. It is made if and only if every transaction and its result can be decoded
(`AccessNode.exists_contentsOf_iff`).
-/

namespace ChainFeed

open Payload

namespace AccessNode

/-- A transaction and its result can be decoded: the stage of execution has a known name, and the
script, the arguments and what the events say are legible. -/
def Decodes (entry : WrittenTransaction × WrittenResult) : Prop :=
  (∃ status, entry.2.toStatus = .ok status) ∧ Legible entry

/-- What a block carries that lists the transactions, with their results: each transaction has its
place and the status of its own result, and the events stand behind each other, transaction by
transaction and in the order of each result. -/
structure Carries (blockId : String) (entries : List (WrittenTransaction × WrittenResult))
    (contents : BlockContents) : Prop where
  /-- The transactions. -/
  transactions : List.Forall₂
    (fun entry transaction =>
      entry.1.toTransaction blockId transaction.status = .ok transaction ∧
        transaction.id = entry.1.id ∧ transaction.blockId = blockId ∧
          entry.2.toStatus = .ok transaction.status)
    entries contents.transactions
  /-- The events. -/
  events : ∃ emitted : List (List Event), contents.events = emitted.flatten ∧
    List.Forall₂
      (fun entry events => List.Forall₂
        (fun written event =>
          written.toEvent blockId = .ok event ∧ event.blockId = blockId ∧
            event.id = written.transactionId ++ "." ++ toString written.eventIndex)
        entry.2.events events)
      entries emitted

/-- What a transaction is made of that could be decoded. -/
theorem exists_of_toTransaction {blockId : String} {status : TransactionStatus}
    {written : WrittenTransaction} {transaction : Transaction}
    (h : written.toTransaction blockId status = .ok transaction) :
    ∃ script arguments, transaction = {
      id := written.id
      blockId
      referenceBlockId := written.referenceBlockId
      script
      arguments
      gasLimit := written.gasLimit
      payer := Address.canonical written.payer
      proposalKey := written.proposalKey.canonical
      authorizers := written.authorizers.map Address.canonical
      payloadSignatures := written.payloadSignatures.map Signature.canonical
      envelopeSignatures := written.envelopeSignatures.map Signature.canonical
      status
      stamps := Stamps.unset } := by
  unfold WrittenTransaction.toTransaction at h
  cases harguments : written.arguments.mapM Cadence.document? with
  | none =>
    rw [harguments] at h
    cases h
  | some arguments =>
    cases hscript : Text.Base64.decodeText? written.script with
    | none =>
      rw [harguments, hscript] at h
      cases h
    | some script =>
      rw [harguments, hscript] at h
      obtain rfl := Except.ok.inj h
      exact ⟨script, arguments, rfl⟩

theorem eq_of_toTransaction {blockId : String} {status : TransactionStatus}
    {written : WrittenTransaction} {transaction : Transaction}
    (h : written.toTransaction blockId status = .ok transaction) :
    transaction.id = written.id ∧ transaction.blockId = blockId ∧ transaction.status = status := by
  obtain ⟨script, arguments, rfl⟩ := exists_of_toTransaction h
  exact ⟨rfl, rfl, rfl⟩

/-- What an event is made of that could be decoded. -/
theorem eq_of_toEvent {blockId : String} {written : WrittenEvent} {event : Event}
    (h : written.toEvent blockId = .ok event) :
    event.blockId = blockId ∧
      event.id = written.transactionId ++ "." ++ toString written.eventIndex := by
  unfold WrittenEvent.toEvent at h
  cases hpayload : Cadence.document? written.payload with
  | none =>
    rw [hpayload] at h
    cases h
  | some payload =>
    rw [hpayload] at h
    obtain rfl := Except.ok.inj h
    exact ⟨rfl, rfl⟩

/-- What an entry adds to what a block carries. -/
theorem of_carried {blockId : String} {entry : WrittenTransaction × WrittenResult}
    {part : Transaction × List Event} (h : carried blockId entry = .ok part) :
    entry.2.toStatus = .ok part.1.status ∧
      entry.1.toTransaction blockId part.1.status = .ok part.1 ∧
        entry.2.events.mapM (·.toEvent blockId) = .ok part.2 := by
  cases hstatus : entry.2.toStatus with
  | error e =>
    rw [carried, hstatus] at h
    cases h
  | ok status =>
    rw [carried_eq hstatus] at h
    cases hevents : entry.2.events.mapM (·.toEvent blockId) with
    | error e =>
      rw [hevents] at h
      cases h
    | ok events =>
      cases htransaction : entry.1.toTransaction blockId status with
      | error e =>
        rw [hevents, htransaction] at h
        cases h
      | ok transaction =>
        rw [hevents, htransaction] at h
        obtain rfl := Except.ok.inj h
        obtain ⟨-, -, rfl⟩ := eq_of_toTransaction htransaction
        exact ⟨rfl, htransaction, rfl⟩

/-- An entry adds something if and only if it can be decoded. -/
theorem exists_carried_iff (blockId : String) (entry : WrittenTransaction × WrittenResult) :
    (∃ part, carried blockId entry = .ok part) ↔ Decodes entry := by
  constructor
  · rintro ⟨part, hpart⟩
    exact ⟨⟨_, (of_carried hpart).1⟩, legible_of_carried hpart⟩
  · rintro ⟨⟨status, hstatus⟩, hlegible⟩
    obtain ⟨transaction, -, hcarried⟩ : ∃ transaction,
        transaction? blockId entry = some transaction ∧
          carried blockId entry = .ok (transaction, eventsOf blockId entry) :=
      carried_of_legible hstatus hlegible
    exact ⟨_, hcarried⟩

/-- **What is made of a block's transactions and results.** -/
theorem carries_of_contentsOf {blockId : String}
    {entries : List (WrittenTransaction × WrittenResult)} {contents : BlockContents}
    (h : contentsOf blockId entries = .ok contents) : Carries blockId entries contents := by
  cases hparts : entries.mapM (carried blockId) with
  | error e =>
    rw [contentsOf, hparts] at h
    cases h
  | ok parts =>
    rw [contentsOf, hparts] at h
    obtain rfl := Except.ok.inj h
    have hcarried := forall₂_of_mapM hparts
    constructor
    · rw [List.forall₂_map_right_iff]
      refine hcarried.imp fun entry part hpart => ?_
      obtain ⟨hstatus, htransaction, -⟩ := of_carried hpart
      obtain ⟨hid, hblock, -⟩ := eq_of_toTransaction htransaction
      exact ⟨htransaction, hid, hblock, hstatus⟩
    · refine ⟨parts.map Prod.snd, List.flatMap_def, ?_⟩
      rw [List.forall₂_map_right_iff]
      refine hcarried.imp fun entry part hpart => ?_
      refine (forall₂_of_mapM (of_carried hpart).2.2).imp fun written event hevent => ?_
      exact ⟨hevent, eq_of_toEvent hevent⟩

/-- Everything is made if and only if every entry can be decoded. -/
theorem exists_contentsOf_iff (blockId : String)
    (entries : List (WrittenTransaction × WrittenResult)) :
    (∃ contents, contentsOf blockId entries = .ok contents) ↔ ∀ entry ∈ entries, Decodes entry := by
  simp only [← exists_carried_iff blockId]
  rw [contentsOf]
  constructor
  · rintro ⟨contents, hcontents⟩
    cases hparts : entries.mapM (carried blockId) with
    | error e =>
      rw [hparts] at hcontents
      cases hcontents
    | ok parts => exact exists_eq_ok_of_mapM hparts
  · intro h
    rw [mapM_eq_ok h]
    exact ⟨_, rfl⟩

end AccessNode

end ChainFeed
