import ChainFeed.Proofs.Resource.Laws

/-!
# What is the same as itself

Every value is the same as itself, and so is every record, though records with values in them are
compared piece by piece and not by a lawful equality.

A resource takes in the values of another one **once**: what it took in before changes it no more,
and it takes nothing from itself (`IdempotentResource`). The laws hold for all six kinds, and are
what makes merging the same resource again do nothing.
-/

namespace ChainFeed

open Resource

/-! ### Values -/

namespace Json

mutual

theorem same_self : (x : Json) → same x x = true
  | null => by simp only [same]
  | bool b => by simp only [same, beq_self_eq_true]
  | number n => by cases n <;> simp [same, JsonNumber.same]
  | text s => by simp only [same, beq_self_eq_true]
  | list items => by simp only [same, sameItems_self items]
  | record fields => by simp only [same, sameFields_self fields]

theorem sameItems_self : (xs : List Json) → sameItems xs xs = true
  | [] => rfl
  | x :: xs => by
    rw [sameItems, same_self x, sameItems_self xs]
    rfl

theorem sameFields_self : (fs : List (String × Json)) → sameFields fs fs = true
  | [] => rfl
  | (a, x) :: fs => by
    rw [sameFields, same_self x, sameFields_self fs, beq_self_eq_true]
    rfl

end

instance : ReflBEq Json := ⟨same_self _⟩

end Json

/-! ### Records -/

instance : ReflBEq StorageItem where
  rfl {a} := by
    rw [BEq.beq, instBEqStorageItem]
    simp only [instBEqStorageItem.beq, beq_self_eq_true, Bool.and_self]

instance : ReflBEq Event where
  rfl {a} := by
    rw [BEq.beq, instBEqEvent]
    simp only [instBEqEvent.beq, beq_self_eq_true, Bool.and_self]

instance : ReflBEq Transaction where
  rfl {a} := by
    rw [BEq.beq, instBEqTransaction]
    simp only [instBEqTransaction.beq, beq_self_eq_true, Bool.and_self]

/-- Kinds whose records are the same as themselves and take in the values of another one once. -/
class IdempotentResource (R : Type) [Resource R] : Prop where
  /-- A record is the same as itself. -/
  same_self (r : R) : same r r = true
  /-- A record takes nothing new from itself. -/
  merge_self (r : R) : Resource.merge r r = r
  /-- What a record took in changes it no more. -/
  merge_merge (stored r : R) : Resource.merge (Resource.merge stored r) r = Resource.merge stored r

instance : IdempotentResource Account := ⟨fun _ => decide_eq_true rfl, fun _ => rfl, fun _ _ => rfl⟩

instance : IdempotentResource Block := ⟨fun _ => decide_eq_true rfl, fun _ => rfl, fun _ _ => rfl⟩

instance : IdempotentResource Transaction :=
  ⟨beq_self_eq_true (α := Transaction), fun _ => rfl, fun _ _ => rfl⟩

instance : IdempotentResource Event :=
  ⟨beq_self_eq_true (α := Event), fun _ => rfl, fun _ _ => rfl⟩

instance : IdempotentResource Contract :=
  ⟨fun _ => decide_eq_true rfl, fun _ => rfl, fun _ _ => rfl⟩

instance : IdempotentResource StorageItem :=
  ⟨beq_self_eq_true (α := StorageItem), fun _ => rfl, fun _ _ => rfl⟩

instance (kind : Kind) : IdempotentResource kind.Record :=
  match kind with
  | .account => inferInstanceAs (IdempotentResource Account)
  | .block => inferInstanceAs (IdempotentResource Block)
  | .transaction => inferInstanceAs (IdempotentResource Transaction)
  | .event => inferInstanceAs (IdempotentResource Event)
  | .contract => inferInstanceAs (IdempotentResource Contract)
  | .storageItem => inferInstanceAs (IdempotentResource StorageItem)

end ChainFeed
