import ChainFeed.Proofs.Index.Operation
import ChainFeed.Proofs.Resource.Parts
import ChainFeed.Resource.Sample

/-!
# Merging what is stored already

A resource whose id is stored is merged **field by field**: it changes nothing at all if it agrees
with the stored resource on every field, and otherwise it renews one entry and takes one stamp
(`Index.Renewed`). What identifies the resource on the chain plays no role in that, and neither do
its stamps. Together with the laws of patches this says for each kind what merging does, down to the
single fields (`Kind.merged_by_field`).
-/

namespace ChainFeed

open Resource ResourceParts

namespace Index

variable {R : Type} [Resource R]

/-- One entry of the index changes, while the wall clock shows `now`, and one stamp is taken. -/
structure Renewed (now : Nat) (i : String) (index later : Index R) : Prop where
  /-- The entry with the id is another one, and it is the only one. -/
  get?_ne_iff (j : String) : later.get? j ≠ index.get? j ↔ j = i
  /-- The entries keep their places. -/
  order_eq : later.order = index.order
  /-- The clock gave out its next stamp. -/
  clock_eq : later.clock = index.clock.tick now

variable [LawfulResource R] {index : Index R} {now : Nat} {r stored : R}

/-- What takes the place of a stored resource differs from it, if only by its stamp. -/
theorem Coherent.stampChange_ne (h : index.Coherent) {i : String}
    (hstored : index.get? i = some stored) : index.stampChange now r ≠ stored := by
  rintro rfl
  have hle := (h.filed hstored).updated_le
  rw [stampChange, LawfulResource.stamps_withStamps] at hle
  exact absurd hle (not_le.mpr (index.clock.last_lt_stamp now))

/-- Replacing a stored resource renews its entry and no other. -/
theorem Coherent.renewed_replace (h : index.Coherent)
    (hstored : index.get? (Resource.id r) = some stored) :
    Renewed now (Resource.id r) index (index.replace now r) where
  get?_ne_iff j := by
    rw [get?_replace]
    split
    · rename_i hj
      rw [← hj, hstored, ne_eq, Option.some_inj]
      exact iff_of_true (h.stampChange_ne hstored) rfl
    · rename_i hj
      exact iff_of_false (fun hne => hne rfl) (Ne.symm hj)
  order_eq := rfl
  clock_eq := rfl

variable [ResourceParts R] [LawfulParts R] [IdempotentResource R]

/-- A resource that agrees with the stored one on all fields changes nothing. -/
theorem merge_of_agrees (hstored : index.get? (Resource.id r) = some stored)
    (hagrees : ∀ field ∈ fields (R := R), field.Agrees r stored) :
    index.merge now r = (.unchanged, index) := by
  have hsame : sameContent (Resource.merge stored r) stored = true :=
    sameContent_merge_stored_iff.mpr hagrees
  rw [merge, hstored]
  exact if_pos hsame

/-- A resource that differs from the stored one in a field takes its place. -/
theorem merge_of_not_agrees (hstored : index.get? (Resource.id r) = some stored)
    (hdiffers : ¬∀ field ∈ fields (R := R), field.Agrees r stored) :
    index.merge now r = (.updated, index.replace now (Resource.merge stored r)) := by
  have hnew : ¬sameContent (Resource.merge stored r) stored = true :=
    mt sameContent_merge_stored_iff.mp hdiffers
  rw [merge, hstored]
  exact if_neg hnew

/-- **Merging what is stored already** does nothing if the fields agree. Otherwise the entry has the
new fields and a new stamp. -/
theorem Coherent.merge_stored (h : index.Coherent)
    (hstored : index.get? (Resource.id r) = some stored) :
    ((index.merge now r).1 = .unchanged ↔ ∀ field ∈ fields (R := R), field.Agrees r stored) ∧
      ((index.merge now r).1 = .unchanged → (index.merge now r).2 = index) ∧
      ((index.merge now r).1 ≠ .unchanged →
        (index.merge now r).1 = .updated ∧
          Renewed now (Resource.id r) index (index.merge now r).2 ∧
            (index.merge now r).2.get? (Resource.id r) =
              some (index.stampChange now (Resource.merge stored r))) := by
  by_cases hagrees : ∀ field ∈ fields (R := R), field.Agrees r stored
  · rw [merge_of_agrees hstored hagrees]
    exact ⟨iff_of_true rfl hagrees, fun _ => rfl, fun hne => absurd rfl hne⟩
  · have hid : Resource.id (Resource.merge stored r) = Resource.id r := h.id_merge_eq hstored
    have hrenewed : Renewed now (Resource.id r) index
        (index.replace now (Resource.merge stored r)) := by
      rw [← hid]
      exact h.renewed_replace (hid ▸ hstored)
    have hget : (index.replace now (Resource.merge stored r)).get? (Resource.id r) =
        some (index.stampChange now (Resource.merge stored r)) := by
      rw [← hid]
      exact get?_replace_self now _ index
    have hne : MergeOutcome.updated ≠ .unchanged := MergeOutcome.noConfusion
    rw [merge_of_not_agrees hstored hagrees]
    exact ⟨iff_of_false hne hagrees, fun heq => absurd heq hne, fun _ => ⟨rfl, hrenewed, hget⟩⟩

end Index

/-- **Merging goes field by field**, for resources of every kind. What it makes has every field of
the other resource, and the id, the stamps and all that identifies it of its own; so it has the
content of the other one exactly if the two are the same resource of the chain. A patch sets the
fields that it gives and leaves everything else, a patch that gives no target clears a link, and two
patches do what the later one over the earlier does. In an index, a resource whose id is stored
brings something new exactly if it differs from the stored one in a field: then its entry alone
changes, at one stamp, and otherwise nothing does, the clock included. -/
theorem Kind.merged_by_field (kind : Kind) :
    (∀ base other merged : kind.Record,
      merged = merge base other ↔
        Resource.id merged = Resource.id base ∧ stamps merged = stamps base ∧
          (∀ part ∈ identity (R := kind.Record), part.get merged = part.get base) ∧
            ∀ field ∈ fields (R := kind.Record), field.get merged = field.get other) ∧
    (∀ base other : kind.Record,
      sameContent (merge base other) other = true ↔
        Resource.id base = Resource.id other ∧
          ∀ part ∈ identity (R := kind.Record), part.Agrees base other) ∧
    (∀ (p : Patch kind.Record) (r patched : kind.Record),
      patched = apply p r ↔
        Resource.id patched = Resource.id r ∧ stamps patched = stamps r ∧
          (∀ part ∈ identity (R := kind.Record), part.get patched = part.get r) ∧
            ∀ field ∈ fields (R := kind.Record),
              field.get patched = (field.given p).getD (field.get r)) ∧
    (∀ (p : StorageItemPatch) (item : StorageItem),
      p.targetPath = some none → (item.apply p).targetPath = none) ∧
    (∀ p q : Patch kind.Record,
      (∀ field ∈ fields (R := kind.Record),
        field.given (overlay q p) = (field.given q).or (field.given p)) ∧
      ∀ r : kind.Record, apply q (apply p r) = apply (overlay q p) r) ∧
    ∀ (operations : List (Nat × Index.Operation kind.Record)) (now : Nat) (r stored : kind.Record),
      let index := Index.empty.after operations
      index.get? (Resource.id r) = some stored →
        ((index.merge now r).1 = .unchanged ↔
          ∀ field ∈ fields (R := kind.Record), field.Agrees r stored) ∧
        ((index.merge now r).1 = .unchanged → (index.merge now r).2 = index) ∧
        ((index.merge now r).1 ≠ .unchanged →
          (index.merge now r).1 = .updated ∧
            Index.Renewed now (Resource.id r) index (index.merge now r).2 ∧
              (index.merge now r).2.get? (Resource.id r) =
                some (index.stampChange now (merge stored r))) := by
  have hcleared (p : StorageItemPatch) (item : StorageItem) (hp : p.targetPath = some none) :
      (item.apply p).targetPath = none := by
    rw [StorageItem.apply, hp, Option.getD_some]
  exact ⟨fun _ _ _ => eq_merge_iff, fun _ _ => sameContent_merge_iff, fun _ _ _ => eq_apply_iff,
    hcleared, fun p q => ⟨LawfulParts.given_overlay q p, apply_apply p q⟩,
    fun operations _ _ _ hstored => (Index.coherent_after operations).merge_stored hstored⟩

/-- A link that leads nowhere any more is something new, and its entry is renewed behind the last
stamp though the wall clock stepped back; the link as it was is nothing new. -/
theorem Kind.merged_by_field_of_link :
    let link := { StorageItem.sample "0x01" "/public/a" with targetPath := some "/storage/a" }
    let index := (Index.empty : Index StorageItem).after [(1000, .merge link)]
    let ended := StorageItem.sample "0x01" "/public/a"
    (index.merge 900 link).2 = index ∧ (index.merge 900 ended).1 = .updated ∧
      (index.merge 900 ended).2.get? ended.id = some { ended with stamps := ⟨1000, 1001⟩ } ∧
        (index.merge 900 ended).2.clock = ⟨1001⟩ := by
  intro link index ended
  let stored : StorageItem := withStamps (Stamps.added 1000) link
  have hstored : index.get? link.id = some stored :=
    Index.get?_append_self 1000 link (Index.empty : Index StorageItem)
  have hlaw := (Kind.merged_by_field .storageItem).2.2.2.2.2 [(1000, .merge link)] 900
  obtain ⟨hunchanged, hkept, -⟩ := hlaw link stored hstored
  obtain ⟨hdiffers, -, hrenewed⟩ := hlaw ended stored hstored
  have hagrees : ∀ field ∈ fields (R := StorageItem), field.Agrees link stored := by
    intro field hfield
    rw [Part.Agrees, LawfulParts.get_withStamps _ link field hfield]
    exact (agrees_self link).2 field hfield
  have hne : (index.merge 900 ended).1 ≠ .unchanged := by
    intro heq
    have htarget : Part.Agrees ⟨StorageItem.targetPath⟩ ended stored :=
      hdiffers.mp heq ⟨⟨StorageItem.targetPath⟩, StorageItemPatch.targetPath⟩ (by simp [fields])
    cases htarget
  obtain ⟨hupdated, hone, hget⟩ := hrenewed hne
  exact ⟨hkept (hunchanged.mpr hagrees), hupdated, hget, hone.clock_eq⟩

end ChainFeed
