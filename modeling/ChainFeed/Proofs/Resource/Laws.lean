import ChainFeed.Index.Store

/-!
# Laws of resources

Every kind of resource keeps its **id**, its **stamps** and its **content** apart: stamping a
resource moves neither its id nor its content, and a patch moves neither its id nor its stamps.
The laws are stated once (`LawfulResource`), hold for all six kinds, and are all that the theory
of indexes asks of a resource.

`Kind.Record` names the records of a kind, so that a statement about resources of any kind
quantifies over `Kind`.
-/

namespace ChainFeed

open Resource

/-- The laws that tie the parts of a resource together. -/
class LawfulResource (R : Type) [Resource R] : Prop where
  /-- Stamping sets the stamps. -/
  stamps_withStamps (s : Stamps) (r : R) : stamps (withStamps s r) = s
  /-- Stamping keeps the id. -/
  id_withStamps (s : Stamps) (r : R) : Resource.id (withStamps s r) = Resource.id r
  /-- The last stamping counts. -/
  withStamps_withStamps (s t : Stamps) (r : R) : withStamps s (withStamps t r) = withStamps s r
  /-- A patch keeps the id. -/
  id_apply (p : Patch R) (r : R) : Resource.id (apply p r) = Resource.id r
  /-- A patch keeps the stamps. -/
  stamps_apply (p : Patch R) (r : R) : stamps (apply p r) = stamps r
  /-- Patching does not look at the stamps. -/
  apply_withStamps (p : Patch R) (s : Stamps) (r : R) :
    apply p (withStamps s r) = withStamps s (apply p r)
  /-- The patch made of a resource does not hold its stamps. -/
  toPatch_withStamps (s : Stamps) (r : R) : toPatch (withStamps s r) = toPatch r

attribute [simp] LawfulResource.stamps_withStamps LawfulResource.id_withStamps
  LawfulResource.withStamps_withStamps LawfulResource.id_apply LawfulResource.stamps_apply
  LawfulResource.apply_withStamps LawfulResource.toPatch_withStamps

instance : LawfulResource Account := by constructor <;> intros <;> rfl

instance : LawfulResource Block := by constructor <;> intros <;> rfl

instance : LawfulResource Transaction := by constructor <;> intros <;> rfl

instance : LawfulResource Event := by constructor <;> intros <;> rfl

instance : LawfulResource Contract := by constructor <;> intros <;> rfl

instance : LawfulResource StorageItem := by constructor <;> intros <;> rfl

/-- The records of a kind. -/
abbrev Kind.Record : Kind → Type
  | account => Account
  | block => Block
  | transaction => Transaction
  | event => Event
  | contract => Contract
  | storageItem => StorageItem

instance (kind : Kind) : Resource kind.Record :=
  match kind with
  | .account => inferInstanceAs (Resource Account)
  | .block => inferInstanceAs (Resource Block)
  | .transaction => inferInstanceAs (Resource Transaction)
  | .event => inferInstanceAs (Resource Event)
  | .contract => inferInstanceAs (Resource Contract)
  | .storageItem => inferInstanceAs (Resource StorageItem)

instance (kind : Kind) : LawfulResource kind.Record :=
  match kind with
  | .account => inferInstanceAs (LawfulResource Account)
  | .block => inferInstanceAs (LawfulResource Block)
  | .transaction => inferInstanceAs (LawfulResource Transaction)
  | .event => inferInstanceAs (LawfulResource Event)
  | .contract => inferInstanceAs (LawfulResource Contract)
  | .storageItem => inferInstanceAs (LawfulResource StorageItem)

/-- The records of a kind are of that kind. -/
theorem Kind.kind_record (kind : Kind) : Resource.kind kind.Record = kind := by
  cases kind <;> rfl

namespace Resource

variable {R : Type} [Resource R] [LawfulResource R]

@[simp]
theorem id_merge (stored other : R) : id (merge stored other) = id stored :=
  LawfulResource.id_apply _ _

@[simp]
theorem stamps_merge (stored other : R) : stamps (merge stored other) = stamps stored :=
  LawfulResource.stamps_apply _ _

end Resource

end ChainFeed
