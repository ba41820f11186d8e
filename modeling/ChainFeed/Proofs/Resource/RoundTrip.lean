import ChainFeed.Proofs.Json.Reading
import ChainFeed.Proofs.Polling.Session
import ChainFeed.Proofs.Resource.Laws

/-!
# Written resources are read back

A record **fits** if its numbers fit into the words that readers take them for and its values of
free form are sorted, which is all that programs can hold. The written form of a fitting record
encodes the record: a reader finds it again with every optional field as it was, in whatever order
the fields stand, and the stamps stand flat among the resource's own fields without meeting one of
their names. The same is true of answers to clients.

There is one lemma for each type of record (`AccountKey.Fits.encodes` and its siblings); they are
joined for all kinds of resources by `Kind.Fits.encodes`.
-/

namespace ChainFeed

open Json Resource

/-! ### Names -/

theorem SignatureAlgorithm.ofName?_name (algorithm : SignatureAlgorithm) :
    ofName? algorithm.name = some algorithm := by
  cases algorithm <;> rfl

theorem HashAlgorithm.ofName?_name (algorithm : HashAlgorithm) :
    ofName? algorithm.name = some algorithm := by
  cases algorithm <;> rfl

theorem ExecutionStatus.ofName?_name (status : ExecutionStatus) :
    ofName? status.name = some status := by
  cases status <;> rfl

theorem Verdict.ofName?_name (verdict : Verdict) : ofName? verdict.name = some verdict := by
  cases verdict <;> rfl

theorem StorageDomain.ofName?_name (domain : StorageDomain) :
    ofName? domain.name = some domain := by
  cases domain <;> rfl

/-! ### Stamps -/

/-- The stamps fit into words. -/
structure Stamps.Fits (stamps : Stamps) : Prop where
  createdAt : stamps.createdAt < Text.word64
  updatedAt : stamps.updatedAt < Text.word64

theorem Stamps.unambiguous_fields (stamps : Stamps) :
    ∀ field ∈ stamps.fields, field.2.Unambiguous := by
  simp only [fields, List.forall_mem_cons]
  exact ⟨.number _, .number _, List.forall_mem_nil _⟩

theorem Stamps.Fits.ofSlots {stamps : Stamps} (h : stamps.Fits) {slot : String → Slot}
    (holds : ∀ field ∈ stamps.fields, (slot field.1).Holds field.2) :
    Stamps.ofSlots slot = some stamps := by
  simp only [fields, List.forall_mem_cons] at holds
  obtain ⟨createdAt, updatedAt, -⟩ := holds
  rw [Stamps.ofSlots, createdAt.required (encodes_nat h.createdAt),
    updatedAt.required (encodes_nat h.updatedAt)]
  rfl

/-- A record with stamps behind its own fields encodes what a reader makes of the slots of those
and of the stamps. -/
theorem Stamps.Fits.encodes_stamped {stamps : Stamps} (h : stamps.Fits) {R : Type} {r : R}
    {names : List String} {own : List (String × Json)} {ofSlots : (String → Slot) → Option R}
    (names_eq : own.map Prod.fst = names) (once : (names ++ Stamps.fieldNames).Nodup)
    (values : ∀ field ∈ own, field.2.Unambiguous)
    (read : ∀ slot, (∀ field ∈ own, (slot field.1).Holds field.2) →
      Stamps.ofSlots slot = some stamps → ofSlots slot = some r) :
    (record (own ++ stamps.fields)).Encodes
      (fun d => do ofSlots (← d.slotsOfWhole (names ++ Stamps.fieldNames))) r := by
  subst names_eq
  refine encodes_whole List.map_append once ?_ fun slot holds => ?_
  · exact List.forall_mem_append.mpr ⟨values, stamps.unambiguous_fields⟩
  · obtain ⟨own, flat⟩ := List.forall_mem_append.mp holds
    exact read slot own (h.ofSlots flat)

/-! ### Accounts -/

/-- The key's numbers fit into words. -/
structure AccountKey.Fits (key : AccountKey) : Prop where
  index : key.index < Text.word32
  weight : key.weight < Text.word32
  sequenceNumber : key.sequenceNumber < Text.word64

theorem AccountKey.Fits.encodes {key : AccountKey} (h : key.Fits) :
    key.toJson.Encodes AccountKey.read key := by
  have index := encodes_nat h.index
  have publicKey := encodes_text key.publicKey
  have weight := encodes_nat h.weight
  have sequenceNumber := encodes_nat h.sequenceNumber
  have revoked := encodes_bool key.revoked
  refine encodes_record rfl (by decide) ?_ fun slot holds => ?_
  · simp only [List.forall_mem_cons]
    exact ⟨index.unambiguous, publicKey.unambiguous, unambiguous_textOrNull _,
      unambiguous_textOrNull _, weight.unambiguous, sequenceNumber.unambiguous,
      revoked.unambiguous, List.forall_mem_nil _⟩
  · simp only [List.forall_mem_cons] at holds
    obtain ⟨hindex, hpublicKey, hsignAlgo, hhashAlgo, hweight, hnumber, hrevoked, -⟩ := holds
    rw [hindex.required index, hpublicKey.required publicKey,
      hsignAlgo.optional (encodes_name SignatureAlgorithm.ofName?_name),
      hhashAlgo.optional (encodes_name HashAlgorithm.ofName?_name), hweight.required weight,
      hnumber.required sequenceNumber, hrevoked.required revoked]
    rfl

/-- The account's numbers fit into words, and its keys fit. -/
structure Account.Fits (account : Account) : Prop where
  balance : account.balance < Text.word64
  keys : ∀ key ∈ account.keys, key.Fits
  stamps : account.stamps.Fits

theorem Account.Fits.encodes {account : Account} (h : account.Fits) :
    account.toJson.Encodes Account.read account := by
  have id := encodes_text account.id
  have address := encodes_text account.address
  have balance := encodes_nat h.balance
  have code := encodes_text account.code
  have keys := encodes_list fun key mem => (h.keys key mem).encodes
  have blockId := encodes_text account.blockId
  have isDefault := encodes_bool account.isDefaultAccount
  refine h.stamps.encodes_stamped rfl (by decide) ?_ fun slot holds stamps => ?_
  · simp only [List.forall_mem_cons]
    exact ⟨id.unambiguous, address.unambiguous, balance.unambiguous, code.unambiguous,
      keys.unambiguous, blockId.unambiguous, isDefault.unambiguous, List.forall_mem_nil _⟩
  · simp only [List.forall_mem_cons] at holds
    obtain ⟨hid, haddress, hbalance, hcode, hkeys, hblockId, hdefault, -⟩ := holds
    rw [hid.required id, haddress.required address, hbalance.required balance,
      hcode.required code, hkeys.required keys, hblockId.required blockId,
      hdefault.required isDefault, stamps]
    rfl

/-! ### Blocks -/

theorem CollectionGuarantee.encodes (guarantee : CollectionGuarantee) :
    guarantee.toJson.Encodes CollectionGuarantee.read guarantee := by
  have collectionId := encodes_text guarantee.collectionId
  have signerIds := encodes_texts guarantee.signerIds
  refine encodes_record rfl (by decide) ?_ fun slot holds => ?_
  · simp only [List.forall_mem_cons]
    exact ⟨collectionId.unambiguous, signerIds.unambiguous, List.forall_mem_nil _⟩
  · simp only [List.forall_mem_cons] at holds
    obtain ⟨hcollectionId, hsignerIds, -⟩ := holds
    rw [hcollectionId.required collectionId, hsignerIds.required signerIds]
    rfl

/-- The block's numbers fit into words. -/
structure Block.Fits (block : Block) : Prop where
  height : block.height < Text.word64
  timestamp : block.timestamp < Text.word64
  stamps : block.stamps.Fits

theorem Block.Fits.encodes {block : Block} (h : block.Fits) :
    block.toJson.Encodes Block.read block := by
  have id := encodes_text block.id
  have parentId := encodes_text block.parentId
  have height := encodes_nat h.height
  have timestamp := encodes_nat h.timestamp
  have guarantees := encodes_list fun guarantee (_ : guarantee ∈ block.collectionGuarantees) =>
    guarantee.encodes
  have blockSeals := encodes_texts block.blockSeals
  have signatures := encodes_texts block.signatures
  refine h.stamps.encodes_stamped rfl (by decide) ?_ fun slot holds stamps => ?_
  · simp only [List.forall_mem_cons]
    exact ⟨id.unambiguous, parentId.unambiguous, height.unambiguous, timestamp.unambiguous,
      guarantees.unambiguous, blockSeals.unambiguous, signatures.unambiguous,
      List.forall_mem_nil _⟩
  · simp only [List.forall_mem_cons] at holds
    obtain ⟨hid, hparentId, hheight, htimestamp, hguarantees, hblockSeals, hsignatures, -⟩ := holds
    rw [hid.required id, hparentId.required parentId, hheight.required height,
      htimestamp.required timestamp, hguarantees.required guarantees,
      hblockSeals.required blockSeals, hsignatures.required signatures, stamps]
    rfl

/-! ### Transactions -/

theorem TransactionStatus.encodes (status : TransactionStatus) :
    status.toJson.Encodes TransactionStatus.read status := by
  have execution := encodes_name ExecutionStatus.ofName?_name status.execution
  have verdict := encodes_name Verdict.ofName?_name status.verdict
  have errorMessage := encodes_text status.errorMessage
  refine encodes_record rfl (by decide) ?_ fun slot holds => ?_
  · simp only [List.forall_mem_cons]
    exact ⟨execution.unambiguous, verdict.unambiguous, errorMessage.unambiguous,
      List.forall_mem_nil _⟩
  · simp only [List.forall_mem_cons] at holds
    obtain ⟨hexecution, hverdict, herrorMessage, -⟩ := holds
    rw [hexecution.required execution, hverdict.required verdict,
      herrorMessage.required errorMessage]
    rfl

/-- The proposal key's numbers fit into words. -/
structure ProposalKey.Fits (key : ProposalKey) : Prop where
  keyId : key.keyId < Text.word32
  sequenceNumber : key.sequenceNumber < Text.word64

theorem ProposalKey.Fits.encodes {key : ProposalKey} (h : key.Fits) :
    key.toJson.Encodes ProposalKey.read key := by
  have address := encodes_text key.address
  have keyId := encodes_nat h.keyId
  have sequenceNumber := encodes_nat h.sequenceNumber
  refine encodes_record rfl (by decide) ?_ fun slot holds => ?_
  · simp only [List.forall_mem_cons]
    exact ⟨address.unambiguous, keyId.unambiguous, sequenceNumber.unambiguous,
      List.forall_mem_nil _⟩
  · simp only [List.forall_mem_cons] at holds
    obtain ⟨haddress, hkeyId, hsequenceNumber, -⟩ := holds
    rw [haddress.required address, hkeyId.required keyId, hsequenceNumber.required sequenceNumber]
    rfl

/-- The signature's key number fits into a word. -/
def Signature.Fits (s : Signature) : Prop := s.keyId < Text.word32

theorem Signature.Fits.encodes {s : Signature} (h : s.Fits) :
    s.toJson.Encodes Signature.read s := by
  have address := encodes_text s.address
  have keyId := encodes_nat h
  have signature := encodes_text s.signature
  refine encodes_record rfl (by decide) ?_ fun slot holds => ?_
  · simp only [List.forall_mem_cons]
    exact ⟨address.unambiguous, keyId.unambiguous, signature.unambiguous, List.forall_mem_nil _⟩
  · simp only [List.forall_mem_cons] at holds
    obtain ⟨haddress, hkeyId, hsignature, -⟩ := holds
    rw [haddress.required address, hkeyId.required keyId, hsignature.required signature]
    rfl

/-- The transaction's numbers fit into words, its parts fit, and its arguments are sorted. -/
structure Transaction.Fits (transaction : Transaction) : Prop where
  arguments : ∀ argument ∈ transaction.arguments, argument.Sorted
  gasLimit : transaction.gasLimit < Text.word64
  proposalKey : transaction.proposalKey.Fits
  payloadSignatures : ∀ s ∈ transaction.payloadSignatures, s.Fits
  envelopeSignatures : ∀ s ∈ transaction.envelopeSignatures, s.Fits
  stamps : transaction.stamps.Fits

theorem Transaction.Fits.encodes {transaction : Transaction} (h : transaction.Fits) :
    transaction.toJson.Encodes Transaction.read transaction := by
  have id := encodes_text transaction.id
  have blockId := encodes_text transaction.blockId
  have referenceBlockId := encodes_text transaction.referenceBlockId
  have script := encodes_text transaction.script
  have arguments := encodes_values h.arguments
  have gasLimit := encodes_nat h.gasLimit
  have payer := encodes_text transaction.payer
  have proposalKey := h.proposalKey.encodes
  have authorizers := encodes_texts transaction.authorizers
  have payload := encodes_list fun s mem => (h.payloadSignatures s mem).encodes
  have envelope := encodes_list fun s mem => (h.envelopeSignatures s mem).encodes
  have status := transaction.status.encodes
  refine h.stamps.encodes_stamped rfl (by decide) ?_ fun slot holds stamps => ?_
  · simp only [List.forall_mem_cons]
    exact ⟨id.unambiguous, blockId.unambiguous, referenceBlockId.unambiguous, script.unambiguous,
      arguments.unambiguous, gasLimit.unambiguous, payer.unambiguous, proposalKey.unambiguous,
      authorizers.unambiguous, payload.unambiguous, envelope.unambiguous, status.unambiguous,
      List.forall_mem_nil _⟩
  · simp only [List.forall_mem_cons] at holds
    obtain ⟨hid, hblockId, hreferenceBlockId, hscript, harguments, hgasLimit, hpayer, hproposalKey,
      hauthorizers, hpayload, henvelope, hstatus, -⟩ := holds
    rw [hid.required id, hblockId.required blockId, hreferenceBlockId.required referenceBlockId,
      hscript.required script, harguments.required arguments, hgasLimit.required gasLimit,
      hpayer.required payer, hproposalKey.required proposalKey, hauthorizers.required authorizers,
      hpayload.required payload, henvelope.required envelope, hstatus.required status,
      stamps]
    rfl

/-! ### Events -/

/-- The event's numbers fit into words, and its data are sorted. -/
structure Event.Fits (event : Event) : Prop where
  eventIndex : event.eventIndex < Text.word32
  transactionIndex : event.transactionIndex < Text.word32
  data : event.data.Sorted
  stamps : event.stamps.Fits

theorem Event.Fits.encodes {event : Event} (h : event.Fits) :
    event.toJson.Encodes Event.read event := by
  have id := encodes_text event.id
  have transactionId := encodes_text event.transactionId
  have blockId := encodes_text event.blockId
  have eventIndex := encodes_nat h.eventIndex
  have transactionIndex := encodes_nat h.transactionIndex
  have type := encodes_text event.type
  have data := encodes_value h.data
  refine h.stamps.encodes_stamped rfl (by decide) ?_ fun slot holds stamps => ?_
  · simp only [List.forall_mem_cons]
    exact ⟨id.unambiguous, transactionId.unambiguous, blockId.unambiguous, eventIndex.unambiguous,
      transactionIndex.unambiguous, type.unambiguous, data.unambiguous, List.forall_mem_nil _⟩
  · simp only [List.forall_mem_cons] at holds
    obtain ⟨hid, htransactionId, hblockId, heventIndex, htransactionIndex, htype, hdata, -⟩ := holds
    rw [hid.required id, htransactionId.required transactionId, hblockId.required blockId,
      heventIndex.required eventIndex, htransactionIndex.required transactionIndex,
      htype.required type, hdata.required data, stamps]
    rfl

/-! ### Contracts -/

/-- The contract's stamps fit into words. -/
def Contract.Fits (contract : Contract) : Prop := contract.stamps.Fits

theorem Contract.Fits.encodes {contract : Contract} (h : contract.Fits) :
    contract.toJson.Encodes Contract.read contract := by
  have id := encodes_text contract.id
  have address := encodes_text contract.address
  have name := encodes_text contract.name
  have code := encodes_text contract.code
  have blockId := encodes_text contract.blockId
  refine Stamps.Fits.encodes_stamped h rfl (by decide) ?_ fun slot holds stamps => ?_
  · simp only [List.forall_mem_cons]
    exact ⟨id.unambiguous, address.unambiguous, name.unambiguous, code.unambiguous,
      blockId.unambiguous, List.forall_mem_nil _⟩
  · simp only [List.forall_mem_cons] at holds
    obtain ⟨hid, haddress, hname, hcode, hblockId, -⟩ := holds
    rw [hid.required id, haddress.required address, hname.required name, hcode.required code,
      hblockId.required blockId, stamps]
    rfl

/-! ### Storage items -/

/-- The item's data are sorted, and its stamps fit into words. -/
structure StorageItem.Fits (item : StorageItem) : Prop where
  data : item.data.Sorted
  stamps : item.stamps.Fits

theorem StorageItem.Fits.encodes {item : StorageItem} (h : item.Fits) :
    item.toJson.Encodes StorageItem.read item := by
  have id := encodes_text item.id
  have address := encodes_text item.address
  have path := encodes_text item.path
  have domain := encodes_name StorageDomain.ofName?_name item.domain
  have data := encodes_value h.data
  refine h.stamps.encodes_stamped rfl (by decide) ?_ fun slot holds stamps => ?_
  · simp only [List.forall_mem_cons]
    exact ⟨id.unambiguous, address.unambiguous, path.unambiguous, domain.unambiguous,
      unambiguous_textOrNull _, data.unambiguous, List.forall_mem_nil _⟩
  · simp only [List.forall_mem_cons] at holds
    obtain ⟨hid, haddress, hpath, hdomain, htargetPath, hdata, -⟩ := holds
    rw [← Option.map_id' (x := item.targetPath)] at htargetPath
    rw [hid.required id, haddress.required address, hpath.required path, hdomain.required domain,
      htargetPath.optional encodes_text, hdata.required data, stamps]
    rfl

/-! ### Resources of every kind -/

/-- The record of a kind fits. -/
def Kind.Fits : (kind : Kind) → kind.Record → Prop
  | .account => Account.Fits
  | .block => Block.Fits
  | .transaction => Transaction.Fits
  | .event => Event.Fits
  | .contract => Contract.Fits
  | .storageItem => StorageItem.Fits

namespace Kind

variable {kind : Kind}

theorem Fits.encodes {r : kind.Record} (h : kind.Fits r) :
    (Resource.toJson r).Encodes Resource.read r := by
  cases kind with
  | account => exact Account.Fits.encodes h
  | block => exact Block.Fits.encodes h
  | transaction => exact Transaction.Fits.encodes h
  | event => exact Event.Fits.encodes h
  | contract => exact Contract.Fits.encodes h
  | storageItem => exact StorageItem.Fits.encodes h

theorem Fits.stamps {r : kind.Record} (h : kind.Fits r) : (Resource.stamps r).Fits := by
  cases kind with
  | account => exact Account.Fits.stamps h
  | block => exact Block.Fits.stamps h
  | transaction => exact Transaction.Fits.stamps h
  | event => exact Event.Fits.stamps h
  | contract => exact h
  | storageItem => exact StorageItem.Fits.stamps h

theorem Fits.changedAt_lt {r : kind.Record} (h : kind.Fits r) : changedAt r < Text.word64 :=
  max_lt h.stamps.createdAt h.stamps.updatedAt

/-- The written form of a record has the stamps flat behind the record's own fields. -/
theorem exists_toJson_eq (r : kind.Record) :
    ∃ own, Resource.toJson r = .record (own ++ (Resource.stamps r).fields) := by
  cases kind <;> exact ⟨_, rfl⟩

end Kind

/-! ### Answers to clients -/

theorem PollingResponse.encodes_latest {n : Nat} (h : n < Text.word64) :
    (Json.record [("latestTimestamp", .nat n)]).Encodes readLatest n := by
  refine encodes_record rfl (by decide) ?_ fun slot holds => ?_
  · exact List.forall_mem_singleton.mpr (encodes_nat h).unambiguous
  · exact (List.forall_mem_singleton.mp holds).required (encodes_nat h)

theorem PollingResponse.encodes {R : Type} [Resource R] {response : PollingResponse R}
    (data : ∀ r ∈ response.data, (Resource.toJson r).Encodes Resource.read r)
    (latest : response.latest < Text.word64) :
    response.toJson.Encodes PollingResponse.read response := by
  have data := encodes_list data
  have latest := encodes_latest latest
  refine encodes_record rfl (by decide) ?_ fun slot holds => ?_
  · simp only [List.forall_mem_cons]
    exact ⟨data.unambiguous, latest.unambiguous, List.forall_mem_nil _⟩
  · simp only [List.forall_mem_cons] at holds
    obtain ⟨hdata, hlatest, -⟩ := holds
    rw [hdata.required data, hlatest.required latest]
    rfl

theorem latestStamp_lt {kind : Kind} {resources : List kind.Record}
    (h : ∀ r ∈ resources, kind.Fits r) : latestStamp resources < Text.word64 := by
  refine Nat.lt_of_le_pred (by decide) (latestStamp_le_iff.mpr fun r mem => ?_)
  exact Nat.le_pred_of_lt (h r mem).changedAt_lt

/-- **Round trip.** A record of any kind that fits is read back from every document written in an
arrangement of its written form, and from the value that its document says; its stamps stand flat
behind its own fields, and no two fields share a name. An answer to a client that holds such records
is read back in the same way, whatever bound it names; the answer made of the records is one. -/
theorem Kind.read_written (kind : Kind) :
    (∀ r : kind.Record, kind.Fits r →
      (∀ w, (Resource.toJson r).Rearranges w → Resource.read (Doc.ofValue w) = some r) ∧
      (∃ said, (Doc.ofValue (Resource.toJson r)).value? = some said ∧
        Resource.read (Doc.ofValue said) = some r) ∧
      ∃ own, Resource.toJson r = .record (own ++ (Resource.stamps r).fields) ∧
        ((own ++ (Resource.stamps r).fields).map Prod.fst).Nodup) ∧
    (∀ response : PollingResponse kind.Record, (∀ r ∈ response.data, kind.Fits r) →
      response.latest < Text.word64 ∨ response = .of response.data →
      (∀ w, response.toJson.Rearranges w →
        PollingResponse.read (Doc.ofValue w) = some response) ∧
      ∃ said, (Doc.ofValue response.toJson).value? = some said ∧
        PollingResponse.read (Doc.ofValue said) = some response) := by
  refine ⟨fun r fits => ?_, fun response fits latest => ?_⟩
  · obtain ⟨own, written⟩ := exists_toJson_eq r
    refine ⟨fits.encodes.reads, fits.encodes.exists_value, own, written, ?_⟩
    have unambiguous := fits.encodes.unambiguous
    rw [written] at unambiguous
    cases unambiguous with
    | record once _ => exact once
  · have latest : response.latest < Text.word64 :=
      latest.elim (fun below => below) fun made => made ▸ latestStamp_lt fits
    have encodes := PollingResponse.encodes (fun r mem => (fits r mem).encodes) latest
    exact ⟨encodes.reads, encodes.exists_value⟩

/-- A link in the public storage of an account. -/
def StorageItem.sampleLink : StorageItem where
  id := "0x01./public/door"
  address := "0x01"
  path := "/public/door"
  domain := .public
  targetPath := some "/storage/house"
  data := .record [("kind", .text "Capability"), ("type", .list [.nat 1, .null])]
  stamps := ⟨1704067200000, 1704067201000⟩

theorem StorageItem.sampleLink_fits : sampleLink.Fits where
  data := .record (by decide) (by
    simp only [List.forall_mem_cons]
    refine ⟨.text _, .list ?_, List.forall_mem_nil _⟩
    simp only [List.forall_mem_cons]
    exact ⟨.number _, .null, List.forall_mem_nil _⟩)
  stamps := ⟨by decide, by decide⟩

theorem Kind.read_written_sampleLink :
    Kind.storageItem.Fits StorageItem.sampleLink ∧
      StorageItem.read (Doc.ofValue StorageItem.sampleLink.toJson) =
        some StorageItem.sampleLink ∧
      PollingResponse.read
          (Doc.ofValue (PollingResponse.of (R := StorageItem) [StorageItem.sampleLink]).toJson) =
        some (PollingResponse.of (R := StorageItem) [StorageItem.sampleLink]) := by
  have fits := StorageItem.sampleLink_fits
  have written := Kind.read_written .storageItem
  refine ⟨fits, (written.1 _ fits).1 _ (.refl _), ?_⟩
  exact (written.2 _ (List.forall_mem_singleton.mpr fits) (.inr rfl)).1 _ (.refl _)

end ChainFeed
