import Mathlib.Tactic.Tauto
import ChainFeed.Proofs.Resource.Sameness

/-!
# The parts of resources

A resource consists of its id and stamps, of the parts that **identify** it on the chain, and of
**fields**, which a patch can set (`ResourceParts`). Everything that patches do is said by field: a
field takes the value that a patch gives it and else keeps its own, and nothing but fields moves.
The laws are stated once (`LawfulParts`) and hold for all six kinds, whose parts are listed here.

Two patches one after the other do what one patch does (`apply_apply`). A resource that takes in the
values of another one has that one's fields and keeps the rest of its own (`eq_merge_iff`), so that
the two then have the same content if and only if they are the same resource of the chain
(`sameContent_merge_iff`).
-/

namespace ChainFeed

open Resource

/-- A part of the records of a type, whose values can be compared. -/
structure Part (R : Type) where
  /-- The type of the part's values. -/
  {Value : Type}
  /-- How the part's values are compared. -/
  [compared : BEq Value]
  /-- The part of a record. -/
  get : R → Value

/-- Whether two records agree on a part. -/
def Part.Agrees {R : Type} (part : Part R) (a b : R) : Prop :=
  part.compared.beq (part.get a) (part.get b) = true

/-- A part of a resource that patches can set. -/
structure Field (R : Type) [Resource R] extends Part R where
  /-- The value that a patch gives to the part, if it gives any. -/
  given : Patch R → Option Value

/-- What the records of a kind consist of, besides their ids and stamps. -/
class ResourceParts (R : Type) [Resource R] where
  /-- The parts that identify a record on the chain, besides its id. -/
  identity : List (Part R)
  /-- All other parts. -/
  fields : List (Field R)
  /-- The patch that gives what `later` gives, and else what `earlier` gives. -/
  overlay (later earlier : Patch R) : Patch R

open ResourceParts

instance : ResourceParts Account where
  identity := [⟨Account.address⟩]
  fields := [
    ⟨⟨Account.balance⟩, AccountPatch.balance⟩,
    ⟨⟨Account.code⟩, AccountPatch.code⟩,
    ⟨⟨Account.keys⟩, AccountPatch.keys⟩,
    ⟨⟨Account.blockId⟩, AccountPatch.blockId⟩,
    ⟨⟨Account.isDefaultAccount⟩, AccountPatch.isDefaultAccount⟩]
  overlay later earlier := {
    balance := later.balance.or earlier.balance
    code := later.code.or earlier.code
    keys := later.keys.or earlier.keys
    blockId := later.blockId.or earlier.blockId
    isDefaultAccount := later.isDefaultAccount.or earlier.isDefaultAccount : AccountPatch }

instance : ResourceParts Block where
  identity := [⟨Block.parentId⟩, ⟨Block.height⟩, ⟨Block.timestamp⟩]
  fields := [
    ⟨⟨Block.collectionGuarantees⟩, BlockPatch.collectionGuarantees⟩,
    ⟨⟨Block.blockSeals⟩, BlockPatch.blockSeals⟩,
    ⟨⟨Block.signatures⟩, BlockPatch.signatures⟩]
  overlay later earlier := {
    collectionGuarantees := later.collectionGuarantees.or earlier.collectionGuarantees
    blockSeals := later.blockSeals.or earlier.blockSeals
    signatures := later.signatures.or earlier.signatures : BlockPatch }

instance : ResourceParts Transaction where
  identity := []
  fields := [
    ⟨⟨Transaction.blockId⟩, TransactionPatch.blockId⟩,
    ⟨⟨Transaction.referenceBlockId⟩, TransactionPatch.referenceBlockId⟩,
    ⟨⟨Transaction.script⟩, TransactionPatch.script⟩,
    ⟨⟨Transaction.arguments⟩, TransactionPatch.arguments⟩,
    ⟨⟨Transaction.gasLimit⟩, TransactionPatch.gasLimit⟩,
    ⟨⟨Transaction.payer⟩, TransactionPatch.payer⟩,
    ⟨⟨Transaction.proposalKey⟩, TransactionPatch.proposalKey⟩,
    ⟨⟨Transaction.authorizers⟩, TransactionPatch.authorizers⟩,
    ⟨⟨Transaction.payloadSignatures⟩, TransactionPatch.payloadSignatures⟩,
    ⟨⟨Transaction.envelopeSignatures⟩, TransactionPatch.envelopeSignatures⟩,
    ⟨⟨Transaction.status⟩, TransactionPatch.status⟩]
  overlay later earlier := {
    blockId := later.blockId.or earlier.blockId
    referenceBlockId := later.referenceBlockId.or earlier.referenceBlockId
    script := later.script.or earlier.script
    arguments := later.arguments.or earlier.arguments
    gasLimit := later.gasLimit.or earlier.gasLimit
    payer := later.payer.or earlier.payer
    proposalKey := later.proposalKey.or earlier.proposalKey
    authorizers := later.authorizers.or earlier.authorizers
    payloadSignatures := later.payloadSignatures.or earlier.payloadSignatures
    envelopeSignatures := later.envelopeSignatures.or earlier.envelopeSignatures
    status := later.status.or earlier.status : TransactionPatch }

instance : ResourceParts Event where
  identity := [⟨Event.transactionId⟩, ⟨Event.eventIndex⟩]
  fields := [
    ⟨⟨Event.blockId⟩, EventPatch.blockId⟩,
    ⟨⟨Event.transactionIndex⟩, EventPatch.transactionIndex⟩,
    ⟨⟨Event.type⟩, EventPatch.type⟩,
    ⟨⟨Event.data⟩, EventPatch.data⟩]
  overlay later earlier := {
    blockId := later.blockId.or earlier.blockId
    transactionIndex := later.transactionIndex.or earlier.transactionIndex
    type := later.type.or earlier.type
    data := later.data.or earlier.data : EventPatch }

instance : ResourceParts Contract where
  identity := [⟨Contract.address⟩, ⟨Contract.name⟩]
  fields := [
    ⟨⟨Contract.code⟩, ContractPatch.code⟩,
    ⟨⟨Contract.blockId⟩, ContractPatch.blockId⟩]
  overlay later earlier := {
    code := later.code.or earlier.code
    blockId := later.blockId.or earlier.blockId : ContractPatch }

instance : ResourceParts StorageItem where
  identity := [⟨StorageItem.address⟩, ⟨StorageItem.path⟩]
  fields := [
    ⟨⟨StorageItem.domain⟩, StorageItemPatch.domain⟩,
    ⟨⟨StorageItem.targetPath⟩, StorageItemPatch.targetPath⟩,
    ⟨⟨StorageItem.data⟩, StorageItemPatch.data⟩]
  overlay later earlier := {
    domain := later.domain.or earlier.domain
    targetPath := later.targetPath.or earlier.targetPath
    data := later.data.or earlier.data : StorageItemPatch }

/-- The laws that tie records to their parts, and patches to the fields they set. -/
class LawfulParts (R : Type) [Resource R] [ResourceParts R] : Prop where
  /-- A record is determined by its id, its stamps and its parts. -/
  ext {a b : R} : Resource.id a = Resource.id b → stamps a = stamps b →
    (∀ part ∈ identity (R := R), part.get a = part.get b) →
    (∀ field ∈ fields (R := R), field.get a = field.get b) → a = b
  /-- Records are compared by their ids, their stamps and their parts. -/
  same_iff {a b : R} : same a b = true ↔
    Resource.id a = Resource.id b ∧ stamps a = stamps b ∧
      (∀ part ∈ identity (R := R), part.Agrees a b) ∧ ∀ field ∈ fields (R := R), field.Agrees a b
  /-- Stamping keeps what identifies a record. -/
  identity_withStamps (s : Stamps) (r : R) :
    ∀ part ∈ identity (R := R), part.get (withStamps s r) = part.get r
  /-- Stamping keeps the fields. -/
  get_withStamps (s : Stamps) (r : R) :
    ∀ field ∈ fields (R := R), field.get (withStamps s r) = field.get r
  /-- Patching keeps what identifies a record. -/
  identity_apply (p : Patch R) (r : R) :
    ∀ part ∈ identity (R := R), part.get (apply p r) = part.get r
  /-- Patching sets the fields that the patch gives and keeps the others. -/
  get_apply (p : Patch R) (r : R) :
    ∀ field ∈ fields (R := R), field.get (apply p r) = (field.given p).getD (field.get r)
  /-- The patch made of a record gives every field. -/
  given_toPatch (r : R) : ∀ field ∈ fields (R := R), field.given (toPatch r) = some (field.get r)
  /-- The later of two patches counts. -/
  given_overlay (q p : Patch R) :
    ∀ field ∈ fields (R := R), field.given (overlay q p) = (field.given q).or (field.given p)

instance : LawfulParts Account where
  ext {a b} hid hstamps hidentity hfields := by
    cases a
    cases b
    simp_all [Resource.id, stamps, identity, fields]
  same_iff {a b} := by
    cases a
    cases b
    simp [same, Resource.id, stamps, identity, fields, Part.Agrees]
    tauto
  identity_withStamps s r := by simp [identity, withStamps]
  get_withStamps s r := by simp [fields, withStamps]
  identity_apply p r := by simp [identity, apply, Account.apply]
  get_apply p r := by simp [fields, apply, Account.apply]
  given_toPatch r := by simp [fields, toPatch, Account.toPatch]
  given_overlay q p := by simp [fields, overlay]

instance : LawfulParts Block where
  ext {a b} hid hstamps hidentity hfields := by
    cases a
    cases b
    simp_all [Resource.id, stamps, identity, fields]
  same_iff {a b} := by
    cases a
    cases b
    simp [same, Resource.id, stamps, identity, fields, Part.Agrees]
    tauto
  identity_withStamps s r := by simp [identity, withStamps]
  get_withStamps s r := by simp [fields, withStamps]
  identity_apply p r := by simp [identity, apply, Block.apply]
  get_apply p r := by simp [fields, apply, Block.apply]
  given_toPatch r := by simp [fields, toPatch, Block.toPatch]
  given_overlay q p := by simp [fields, overlay]

instance : LawfulParts Transaction where
  ext {a b} hid hstamps hidentity hfields := by
    cases a
    cases b
    simp_all [Resource.id, stamps, identity, fields]
  same_iff {a b} := by
    cases a
    cases b
    simp [same, BEq.beq, instBEqTransaction.beq, Resource.id, stamps, identity, fields, Part.Agrees]
    tauto
  identity_withStamps s r := by simp [identity, withStamps]
  get_withStamps s r := by simp [fields, withStamps]
  identity_apply p r := by simp [identity, apply, Transaction.apply]
  get_apply p r := by simp [fields, apply, Transaction.apply]
  given_toPatch r := by simp [fields, toPatch, Transaction.toPatch]
  given_overlay q p := by simp [fields, overlay]

instance : LawfulParts Event where
  ext {a b} hid hstamps hidentity hfields := by
    cases a
    cases b
    simp_all [Resource.id, stamps, identity, fields]
  same_iff {a b} := by
    cases a
    cases b
    simp [same, BEq.beq, instBEqEvent.beq, Resource.id, stamps, identity, fields, Part.Agrees]
    tauto
  identity_withStamps s r := by simp [identity, withStamps]
  get_withStamps s r := by simp [fields, withStamps]
  identity_apply p r := by simp [identity, apply, Event.apply]
  get_apply p r := by simp [fields, apply, Event.apply]
  given_toPatch r := by simp [fields, toPatch, Event.toPatch]
  given_overlay q p := by simp [fields, overlay]

instance : LawfulParts Contract where
  ext {a b} hid hstamps hidentity hfields := by
    cases a
    cases b
    simp_all [Resource.id, stamps, identity, fields]
  same_iff {a b} := by
    cases a
    cases b
    simp [same, Resource.id, stamps, identity, fields, Part.Agrees]
    tauto
  identity_withStamps s r := by simp [identity, withStamps]
  get_withStamps s r := by simp [fields, withStamps]
  identity_apply p r := by simp [identity, apply, Contract.apply]
  get_apply p r := by simp [fields, apply, Contract.apply]
  given_toPatch r := by simp [fields, toPatch, Contract.toPatch]
  given_overlay q p := by simp [fields, overlay]

instance : LawfulParts StorageItem where
  ext {a b} hid hstamps hidentity hfields := by
    cases a
    cases b
    simp_all [Resource.id, stamps, identity, fields]
  same_iff {a b} := by
    cases a
    cases b
    simp [same, BEq.beq, instBEqStorageItem.beq, Resource.id, stamps, identity, fields, Part.Agrees]
    tauto
  identity_withStamps s r := by simp [identity, withStamps]
  get_withStamps s r := by simp [fields, withStamps]
  identity_apply p r := by simp [identity, apply, StorageItem.apply]
  get_apply p r := by simp [fields, apply, StorageItem.apply]
  given_toPatch r := by simp [fields, toPatch, StorageItem.toPatch]
  given_overlay q p := by simp [fields, overlay]

instance (kind : Kind) : ResourceParts kind.Record :=
  match kind with
  | .account => inferInstanceAs (ResourceParts Account)
  | .block => inferInstanceAs (ResourceParts Block)
  | .transaction => inferInstanceAs (ResourceParts Transaction)
  | .event => inferInstanceAs (ResourceParts Event)
  | .contract => inferInstanceAs (ResourceParts Contract)
  | .storageItem => inferInstanceAs (ResourceParts StorageItem)

instance (kind : Kind) : LawfulParts kind.Record :=
  match kind with
  | .account => inferInstanceAs (LawfulParts Account)
  | .block => inferInstanceAs (LawfulParts Block)
  | .transaction => inferInstanceAs (LawfulParts Transaction)
  | .event => inferInstanceAs (LawfulParts Event)
  | .contract => inferInstanceAs (LawfulParts Contract)
  | .storageItem => inferInstanceAs (LawfulParts StorageItem)

namespace Resource

variable {R : Type} [Resource R] [ResourceParts R] [LawfulParts R]

/-- Every resource agrees with itself on everything. -/
theorem agrees_self [IdempotentResource R] (r : R) :
    (∀ part ∈ identity (R := R), part.Agrees r r) ∧ ∀ field ∈ fields (R := R), field.Agrees r r :=
  (LawfulParts.same_iff.mp (IdempotentResource.same_self r)).2.2

/-- Merging keeps what identifies the resource. -/
theorem identity_merge (base other : R) {part : Part R} (hpart : part ∈ identity) :
    part.get (merge base other) = part.get base :=
  LawfulParts.identity_apply _ _ part hpart

/-- Merging takes every field from the other resource. -/
theorem get_merge (base other : R) {field : Field R} (hfield : field ∈ fields) :
    field.get (merge base other) = field.get other := by
  rw [merge, LawfulParts.get_apply _ _ field hfield, LawfulParts.given_toPatch other field hfield,
    Option.getD_some]

variable [LawfulResource R]

/-! ### What patches make -/

/-- **What a patch makes** has the values that the patch gives and all else of its own. -/
theorem eq_apply_iff {p : Patch R} {r patched : R} :
    patched = apply p r ↔
      Resource.id patched = Resource.id r ∧ stamps patched = stamps r ∧
        (∀ part ∈ identity (R := R), part.get patched = part.get r) ∧
          ∀ field ∈ fields (R := R), field.get patched = (field.given p).getD (field.get r) := by
  constructor
  · rintro rfl
    exact ⟨LawfulResource.id_apply p r, LawfulResource.stamps_apply p r,
      LawfulParts.identity_apply p r, LawfulParts.get_apply p r⟩
  · rintro ⟨hid, hstamps, hidentity, hfields⟩
    apply LawfulParts.ext
    · rw [hid, LawfulResource.id_apply]
    · rw [hstamps, LawfulResource.stamps_apply]
    · intro part hpart
      rw [hidentity part hpart, LawfulParts.identity_apply p r part hpart]
    · intro field hfield
      rw [hfields field hfield, LawfulParts.get_apply p r field hfield]

/-- **Two patches one after the other do what one patch does**, the later one counting. -/
theorem apply_apply (p q : Patch R) (r : R) : apply q (apply p r) = apply (overlay q p) r := by
  refine eq_apply_iff.mpr ⟨?_, ?_, ?_, ?_⟩
  · rw [LawfulResource.id_apply, LawfulResource.id_apply]
  · rw [LawfulResource.stamps_apply, LawfulResource.stamps_apply]
  · intro part hpart
    rw [LawfulParts.identity_apply _ _ part hpart, LawfulParts.identity_apply _ _ part hpart]
  · intro field hfield
    rw [LawfulParts.get_apply _ _ field hfield, LawfulParts.get_apply _ _ field hfield,
      LawfulParts.given_overlay q p field hfield, Option.getD_or]

/-- **What merging makes** has the fields of the other resource and all else of its own. -/
theorem eq_merge_iff {base other merged : R} :
    merged = merge base other ↔
      Resource.id merged = Resource.id base ∧ stamps merged = stamps base ∧
        (∀ part ∈ identity (R := R), part.get merged = part.get base) ∧
          ∀ field ∈ fields (R := R), field.get merged = field.get other := by
  have hgiven : ∀ field ∈ fields (R := R),
      (field.given (toPatch other)).getD (field.get base) = field.get other := by
    intro field hfield
    rw [LawfulParts.given_toPatch other field hfield, Option.getD_some]
  rw [merge, eq_apply_iff]
  refine and_congr_right fun _ => and_congr_right fun _ => and_congr_right fun _ => ?_
  refine forall₂_congr fun field hfield => ?_
  rw [hgiven field hfield]

/-! ### The same content -/

/-- Resources have the same content if they agree on their ids and on all their parts. -/
theorem sameContent_iff {a b : R} :
    sameContent a b = true ↔
      Resource.id a = Resource.id b ∧ (∀ part ∈ identity (R := R), part.Agrees a b) ∧
        ∀ field ∈ fields (R := R), field.Agrees a b := by
  rw [sameContent, LawfulParts.same_iff]
  simp only [LawfulResource.id_withStamps, LawfulResource.stamps_withStamps, true_and]
  refine and_congr_right fun _ => and_congr ?_ ?_
  · refine forall₂_congr fun part hpart => ?_
    simp only [Part.Agrees, LawfulParts.identity_withStamps _ _ part hpart]
  · refine forall₂_congr fun field hfield => ?_
    simp only [Part.Agrees, LawfulParts.get_withStamps _ _ field hfield]

variable [IdempotentResource R]

/-- **A resource with the values of another one has that one's content** if and only if the two are
the same resource of the chain. -/
theorem sameContent_merge_iff {base other : R} :
    sameContent (merge base other) other = true ↔
      Resource.id base = Resource.id other ∧
        ∀ part ∈ identity (R := R), part.Agrees base other := by
  have hfields : ∀ field ∈ fields (R := R), field.Agrees (merge base other) other := by
    intro field hfield
    rw [Part.Agrees, get_merge base other hfield]
    exact (agrees_self other).2 field hfield
  have hidentity : (∀ part ∈ identity (R := R), part.Agrees (merge base other) other) ↔
      ∀ part ∈ identity (R := R), part.Agrees base other := by
    refine forall₂_congr fun part hpart => ?_
    rw [Part.Agrees, Part.Agrees, identity_merge base other hpart]
  rw [sameContent_iff, id_merge, hidentity, and_iff_left hfields]

/-- **A resource brings nothing new** if and only if it agrees with the stored one on all fields. -/
theorem sameContent_merge_stored_iff {stored other : R} :
    sameContent (merge stored other) stored = true ↔
      ∀ field ∈ fields (R := R), field.Agrees other stored := by
  have hidentity : ∀ part ∈ identity (R := R), part.Agrees (merge stored other) stored := by
    intro part hpart
    rw [Part.Agrees, identity_merge stored other hpart]
    exact (agrees_self stored).1 part hpart
  have hfields : (∀ field ∈ fields (R := R), field.Agrees (merge stored other) stored) ↔
      ∀ field ∈ fields (R := R), field.Agrees other stored := by
    refine forall₂_congr fun field hfield => ?_
    rw [Part.Agrees, Part.Agrees, get_merge stored other hfield]
  rw [sameContent_iff, id_merge, hfields, and_iff_right rfl, and_iff_right hidentity]

end Resource

end ChainFeed
