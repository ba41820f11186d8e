import ChainFeed.Proofs.Index.Content
import ChainFeed.Proofs.Index.Operation
import ChainFeed.Proofs.Resource.Parts
import ChainFeed.Proofs.Text.Cutting
import ChainFeed.Resource.Sample

/-!
# Ids made of parts

The ids of events, contracts and storage items are **made of parts**: two texts with a dot between
them. The texts may hold dots themselves, so an id can be taken apart only if one of the two holds
none. The number of an event holds none, so the dot between the parts of an event's id is the last
one; and if an address holds none, the dot behind it is the first one. A record is **proper** if its
id is made of what identifies it, in a way that can be taken apart.

Records are **told apart by their ids** (`ToldApart`) if those with one id have one identity. An
index that was only ever brought such records never takes one record of the chain for another: a
record whose id is stored meets its own identity there, and behind the merge its content is what is
stored (`IdsIdentify`).
-/

namespace ChainFeed

open Resource ResourceParts

/-! ### Taking ids apart -/

namespace Text

theorem toList_dotted (front rest : String) :
    (front ++ "." ++ rest).toList = front.toList ++ '.' :: rest.toList := by
  rw [String.toList_append, String.toList_append, List.append_assoc]
  rfl

/-- Two texts with a dot between them are told from the whole if the first one holds no dot. -/
theorem dotted_inj {front front' rest rest' : String} (h : '.' ∉ front.toList)
    (h' : '.' ∉ front'.toList) :
    front ++ "." ++ rest = front' ++ "." ++ rest' ↔ front = front' ∧ rest = rest' := by
  constructor
  · intro heq
    have hcut := congrArg (fun text : String => cut '.' text.toList) heq
    simp only [toList_dotted, cut_append h, cut_append h', Prod.mk.injEq, Option.some_inj,
      String.toList_inj] at hcut
    exact hcut
  · rintro ⟨rfl, rfl⟩
    rfl

end Text

/-- **The id of an event tells the transaction and the number.** -/
theorem Event.idOf_inj {transactionId transactionId' : String} {eventIndex eventIndex' : Nat} :
    idOf transactionId eventIndex = idOf transactionId' eventIndex' ↔
      transactionId = transactionId' ∧ eventIndex = eventIndex' := by
  constructor
  · intro heq
    have hplain (n : Nat) : '.' ∉ (toString n).toList := Text.not_mem_toString (by decide)
    have hcut := congrArg (fun text : String => Text.cutLast '.' text.toList) heq
    simp only [idOf, Text.toList_dotted, Text.cutLast_append _ (hplain _),
      Option.some_inj, Prod.mk.injEq, String.toList_inj] at hcut
    exact ⟨hcut.1, Nat.repr_injective hcut.2⟩
  · rintro ⟨rfl, rfl⟩
    rfl

/-! ### Proper records -/

/-- The event's id is made of its transaction and its number. -/
def Event.Proper (event : Event) : Prop := event.id = idOf event.transactionId event.eventIndex

/-- The contract's id is made of its address and its name, and tells them apart. -/
structure Contract.Proper (contract : Contract) : Prop where
  /-- The id is made of the address and the name. -/
  id_eq : contract.id = idOf contract.address contract.name
  /-- The address ends where the first dot stands. -/
  plain : '.' ∉ contract.address.toList

namespace StorageItem

/-- The item's id is made of its address and its path, and tells them apart. -/
structure Proper (item : StorageItem) : Prop where
  /-- The id is made of the address and the path. -/
  id_eq : item.id = idOf item.address item.path
  /-- The address ends where the first dot stands. -/
  plain : '.' ∉ item.address.toList

instance (item : StorageItem) : Decidable item.Proper :=
  decidable_of_iff (item.id = idOf item.address item.path ∧ '.' ∉ item.address.toList)
    ⟨fun h => ⟨h.1, h.2⟩, fun h => ⟨h.id_eq, h.plain⟩⟩

/-- Proper items with the same id have the same address and the same path. -/
theorem Proper.eq_of_id_eq {a b : StorageItem} (ha : a.Proper) (hb : b.Proper) (h : a.id = b.id) :
    a.address = b.address ∧ a.path = b.path :=
  (Text.dotted_inj ha.plain hb.plain).mp (ha.id_eq.symm.trans (h.trans hb.id_eq))

end StorageItem

/-! ### Records that their ids tell apart -/

section

variable {R : Type} [Resource R] [ResourceParts R]

/-- Among the records with a property, the id tells what identifies a record; and neither stamps nor
patches take the property from a record. -/
structure ToldApart (P : R → Prop) : Prop where
  /-- Records with one id have one identity. -/
  identity_eq {a b : R} : P a → P b → Resource.id a = Resource.id b →
    ∀ part ∈ identity (R := R), part.get a = part.get b
  /-- Stamping keeps the property. -/
  withStamps {r : R} (s : Stamps) : P r → P (withStamps s r)
  /-- Patching keeps the property. -/
  apply {r : R} (p : Patch R) : P r → P (apply p r)

/-- The operation brings a record with a property, if it brings one at all. -/
def Index.Operation.Brings (P : R → Prop) : Index.Operation R → Prop
  | add r | merge r => P r
  | update _ _ | delete _ | clear => True

/-- **Ids identify** the records with a property. An index is empty in the beginning, and then goes
through operations that bring only such records. If the id of one more of them is stored then, the
stored record has the same identity; and behind the merge, the content of the merged record is
stored under the id. -/
def IdsIdentify (P : R → Prop) : Prop :=
  ∀ operations : List (Nat × Index.Operation R), (∀ o ∈ operations, o.2.Brings P) →
    ∀ (now : Nat) (r stored : R), P r →
      (Index.empty.after operations).get? (Resource.id r) = some stored →
        (∀ part ∈ identity (R := R), part.get stored = part.get r) ∧
        ∃ later, ((Index.empty.after operations).merge now r).2.get? (Resource.id r) = some later ∧
          sameContent r later = true

namespace ToldApart

variable {P : R → Prop} {index : Index R}

theorem all_run (hP : ToldApart P) (h : index.All P) {operation : Index.Operation R}
    (hbrings : operation.Brings P) (now : Nat) : (operation.run now index).All P := by
  cases operation with
  | add r =>
    intro i s hs
    rw [Index.Operation.run, Index.add] at hs
    split at hs
    · exact h i s hs
    · rw [Index.get?_append] at hs
      split at hs
      · exact Option.some.inj hs ▸ hP.withStamps _ hbrings
      · exact h i s hs
  | update target patch =>
    exact h.update fun stored t hstored => hP.withStamps _ (hP.apply patch hstored)
  | delete target =>
    intro i s hs
    rw [Index.Operation.run, Index.delete] at hs
    split at hs
    · rw [← Index.erase, Index.get?_erase] at hs
      split at hs
      · cases hs
      · exact h i s hs
    · exact h i s hs
  | merge r =>
    exact h.merge (fun t => hP.withStamps t hbrings)
      fun stored t hstored => hP.withStamps t (hP.apply _ hstored)
  | clear => exact .clear index

theorem all_after (hP : ToldApart P) {operations : List (Nat × Index.Operation R)}
    (hbrings : ∀ o ∈ operations, o.2.Brings P) (h : index.All P) :
    (index.after operations).All P := by
  induction operations generalizing index with
  | nil => exact h
  | cons o rest ih =>
    rw [List.forall_mem_cons] at hbrings
    exact ih hbrings.2 (hP.all_run h hbrings.1 o.1)

end ToldApart

variable [LawfulResource R] [LawfulParts R]

/-- What takes in the values of a record with its id and its identity has its content. -/
theorem Resource.unstamped_merge_eq {stored other : R}
    (hid : Resource.id stored = Resource.id other)
    (hidentity : ∀ part ∈ identity (R := R), part.get stored = part.get other) :
    unstamped (merge stored other) = unstamped other := by
  refine LawfulParts.ext ?_ ?_ (fun part hpart => ?_) fun field hfield => ?_
  · rw [unstamped, unstamped, LawfulResource.id_withStamps, LawfulResource.id_withStamps, id_merge,
      hid]
  · rw [unstamped, unstamped, LawfulResource.stamps_withStamps, LawfulResource.stamps_withStamps]
  · rw [unstamped, unstamped, LawfulParts.identity_withStamps _ _ part hpart,
      LawfulParts.identity_withStamps _ _ part hpart, identity_merge stored other hpart,
      hidentity part hpart]
  · rw [unstamped, unstamped, LawfulParts.get_withStamps _ _ field hfield,
      LawfulParts.get_withStamps _ _ field hfield, get_merge stored other hfield]

namespace ToldApart

variable {P : R → Prop} {index : Index R} {r stored : R}

omit [LawfulResource R] [LawfulParts R] in
/-- A record whose id is stored meets its own identity. -/
theorem identity_stored (hP : ToldApart P) (h : index.Coherent) (hall : index.All P) (hr : P r)
    (hstored : index.get? (Resource.id r) = some stored) :
    ∀ part ∈ identity (R := R), part.get stored = part.get r :=
  hP.identity_eq (hall _ _ hstored) hr (h.filed hstored).id_eq

/-- **A merged record is stored with its content.** -/
theorem get?_merge [IdempotentResource R] (hP : ToldApart P) (h : index.Coherent)
    (hall : index.All P) (hr : P r) (now : Nat) :
    ∃ later, (index.merge now r).2.get? (Resource.id r) = some later ∧
      sameContent r later = true := by
  cases hget : index.get? (Resource.id r) with
  | none =>
    rw [Index.merge_of_none hget]
    refine ⟨_, Index.get?_append_self now r index, ?_⟩
    exact sameContent_of_unstamped_eq (unstamped_withStamps _ _).symm
  | some stored =>
    have hmerged : unstamped (Resource.merge stored r) = unstamped r :=
      unstamped_merge_eq (h.filed hget).id_eq (hP.identity_stored h hall hr hget)
    by_cases hsame : sameContent (Resource.merge stored r) stored = true
    · -- the stored record has the content already
      rw [Index.merge_of_same hget hsame]
      refine ⟨stored, hget, ?_⟩
      have hstored : same (unstamped (Resource.merge stored r)) (unstamped stored) = true := hsame
      rwa [hmerged] at hstored
    · rw [Index.merge_of_new hget hsame, ← h.id_merge_eq hget]
      refine ⟨_, Index.get?_replace_self now _ index, ?_⟩
      refine sameContent_of_unstamped_eq ?_
      rw [Index.stampChange, unstamped_withStamps, hmerged]

/-- **Records that their ids tell apart are never taken for one another.** -/
theorem idsIdentify [IdempotentResource R] (hP : ToldApart P) : IdsIdentify P := by
  intro operations hbrings now r stored hr hstored
  have hcoherent := Index.coherent_after operations
  have hall : (Index.empty.after operations).All P := hP.all_after hbrings (.clear Index.empty)
  exact ⟨hP.identity_stored hcoherent hall hr hstored, hP.get?_merge hcoherent hall hr now⟩

end ToldApart

end

/-! ### Events, contracts and storage items -/

theorem Event.toldApart_proper : ToldApart Event.Proper where
  identity_eq ha hb hid := by
    have hparts := Event.idOf_inj.mp (ha.symm.trans (hid.trans hb))
    simp [identity, hparts]
  withStamps _ hr := hr
  apply _ hr := hr

theorem Contract.toldApart_proper : ToldApart Contract.Proper where
  identity_eq ha hb hid := by
    have hparts := (Text.dotted_inj ha.plain hb.plain).mp
      (ha.id_eq.symm.trans (hid.trans hb.id_eq))
    simp [identity, hparts]
  withStamps _ hr := ⟨hr.id_eq, hr.plain⟩
  apply _ hr := ⟨hr.id_eq, hr.plain⟩

theorem StorageItem.toldApart_proper : ToldApart StorageItem.Proper where
  identity_eq ha hb hid := by
    have hparts := ha.eq_of_id_eq hb hid
    simp [identity, hparts]
  withStamps _ hr := ⟨hr.id_eq, hr.plain⟩
  apply _ hr := ⟨hr.id_eq, hr.plain⟩

/-- **Ids that are made of parts tell the parts.** The id of an event tells the transaction and the
number, whatever the transaction's id; the ids of contracts and storage items tell the address, if
it holds no dot, and the name or the path. So the ids of proper records identify them: merging one
never meets another record of the chain, and behind it the stored content is that of the merged
record. -/
theorem composed_ids_identify :
    (∀ (t t' : String) (i i' : Nat), Event.idOf t i = Event.idOf t' i' ↔ t = t' ∧ i = i') ∧
    (∀ a a' : String, '.' ∉ a.toList → '.' ∉ a'.toList → ∀ rest rest' : String,
      (Contract.idOf a rest = Contract.idOf a' rest' ↔ a = a' ∧ rest = rest') ∧
      (StorageItem.idOf a rest = StorageItem.idOf a' rest' ↔ a = a' ∧ rest = rest')) ∧
    IdsIdentify Event.Proper ∧ IdsIdentify Contract.Proper ∧ IdsIdentify StorageItem.Proper :=
  ⟨fun _ _ _ _ => Event.idOf_inj,
    fun _ _ ha ha' _ _ => ⟨Text.dotted_inj ha ha', Text.dotted_inj ha ha'⟩,
    Event.toldApart_proper.idsIdentify, Contract.toldApart_proper.idsIdentify,
    StorageItem.toldApart_proper.idsIdentify⟩

/-- A contract with a dot in its name is stored, and then merged again with other code: it meets
itself, and the new code is stored. Ids that differ in their parts differ, with dots in the parts
or without. -/
theorem composed_ids_identify_of_dotted_names :
    Event.idOf "t.1" 2 ≠ Event.idOf "t" 12 ∧
    Contract.idOf "0x01" "b.c" ≠ Contract.idOf "0x01" "b" ∧
    StorageItem.idOf "0x01" "/storage/a.b" ≠ StorageItem.idOf "0x02" "/storage/a.b" ∧
    ∃ later, ((Index.empty.after [(1000, .merge (Contract.sample "0x01" "b.c"))]).merge 2000
        { Contract.sample "0x01" "b.c" with code := "" }).2.get? "0x01.b.c" = some later ∧
      sameContent { Contract.sample "0x01" "b.c" with code := "" } later = true := by
  obtain ⟨hevents, hdotted, -, hcontracts, -⟩ := composed_ids_identify
  refine ⟨fun heq => ?_, fun heq => ?_, fun heq => ?_, ?_⟩
  · exact absurd ((hevents "t.1" "t" 2 12).mp heq) (by decide)
  · exact absurd ((hdotted "0x01" "0x01" (by decide) (by decide) "b.c" "b").1.mp heq) (by decide)
  · exact absurd ((hdotted "0x01" "0x02" (by decide) (by decide) _ _).2.mp heq) (by decide)
  · refine (hcontracts [(1000, .merge (Contract.sample "0x01" "b.c"))] ?_ 2000
      { Contract.sample "0x01" "b.c" with code := "" } _ ⟨rfl, by decide⟩
      (Index.get?_append_self 1000 (Contract.sample "0x01" "b.c") Index.empty)).2
    rw [List.forall_mem_singleton]
    exact ⟨rfl, by decide⟩

/-- The condition on the addresses is needed. -/
example : Contract.idOf "a.b" "c" = Contract.idOf "a" "b.c" := by decide

end ChainFeed
