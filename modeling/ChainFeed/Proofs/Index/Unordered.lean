import Mathlib.Data.List.Nodup
import ChainFeed.Proofs.Index.Content

/-!
# Indexes in any order

Two indexes hold the **same resources** (`Index.SameResources`) if a reader who pays attention to
neither stamps nor order cannot tell them apart. For coherent indexes it is enough to look up each
id in both (`Coherent.sameResources`).

What merging leaves under the id of a resource depends on what was stored there, and on nothing else
(`Coherent.unstamped_get?_merge`). So if no two of some resources share an id, merging one does not
get in the way of another. The argument is about any steps that work on one key each
(`foldl_distinct`): behind all of them, each key is as its own step leaves it.
-/

namespace ChainFeed

open Resource

/-! ### Steps on keys -/

/-- **Steps with different keys do not get in each other's way.** If a step changes nothing but what
is seen under its key, and `did` says what it makes of that, then behind steps with different keys
each of them has done so with what was there in the beginning. -/
theorem foldl_distinct {σ α κ β : Type} (good : σ → Prop) (step : σ → α → σ) (view : σ → κ → β)
    (key : α → κ) {did : α → β → β → Prop} (hgood : ∀ s x, good s → good (step s x))
    (hother : ∀ s x k, good s → key x ≠ k → view (step s x) k = view s k)
    (hown : ∀ s x, good s → did x (view s (key x)) (view (step s x) (key x))) {items : List α}
    (hkeys : (items.map key).Nodup) {s : σ} (hs : good s) :
    (∀ x ∈ items, did x (view s (key x)) (view (items.foldl step s) (key x))) ∧
      ∀ k, k ∉ items.map key → view (items.foldl step s) k = view s k := by
  induction items generalizing s with
  | nil => exact ⟨fun x hx => absurd hx List.not_mem_nil, fun _ _ => rfl⟩
  | cons x rest ih =>
    obtain ⟨hx, hrest⟩ := List.nodup_cons.mp hkeys
    obtain ⟨hdid, hkept⟩ := ih hrest (hgood s x hs)
    rw [List.foldl_cons]
    refine ⟨List.forall_mem_cons.mpr ⟨?_, fun y hy => ?_⟩, fun k hk => ?_⟩
    · -- no later step has the key of the first one
      rw [hkept _ hx]
      exact hown s x hs
    · have hne : key x ≠ key y := fun heq => hx (heq ▸ List.mem_map_of_mem hy)
      rw [← hother s x (key y) hs hne]
      exact hdid y hy
    · rw [List.map_cons, List.mem_cons, not_or] at hk
      exact (hkept k hk.2).trans (hother s x k hs (Ne.symm hk.1))

/-- If each key is as its own step leaves it, and the other keys are as they were, the order of the
steps makes no difference to who sees no more than what the steps made. -/
theorem seen_eq_of_perm {α κ β γ : Type} (key : α → κ) (start : κ → β) (made : α → β → γ)
    {left right : κ → β} {see : β → γ} {items more : List α} (hperm : items.Perm more)
    (hleft : (∀ x ∈ items, see (left (key x)) = made x (start (key x))) ∧
      ∀ k, k ∉ items.map key → left k = start k)
    (hright : (∀ x ∈ more, see (right (key x)) = made x (start (key x))) ∧
      ∀ k, k ∉ more.map key → right k = start k) (k : κ) : see (left k) = see (right k) := by
  by_cases hk : k ∈ items.map key
  · obtain ⟨x, hx, rfl⟩ := List.mem_map.mp hk
    rw [hleft.1 x hx, hright.1 x (hperm.mem_iff.mp hx)]
  · rw [hleft.2 k hk, hright.2 k fun hmem => hk ((hperm.map key).mem_iff.mpr hmem)]

namespace Index

variable {R : Type} [Resource R] {a b index : Index R}

/-! ### Looking up in any order -/

/-- The indexes hold the same resources, whatever their order and stamps. -/
def SameResources (a b : Index R) : Prop :=
  (a.toList.map unstamped).Perm (b.toList.map unstamped)

theorem SameContent.sameResources (h : a.SameContent b) : a.SameResources b :=
  .of_eq h.map_unstamped_toList

variable [LawfulResource R]

theorem id_unstamped (r : R) : Resource.id (unstamped r) = Resource.id r :=
  LawfulResource.id_withStamps _ _

/-- The listed content is what can be looked up under its id. -/
theorem Coherent.mem_map_unstamped_iff (h : index.Coherent) {content : R} :
    content ∈ index.toList.map unstamped ↔
      (index.get? (Resource.id content)).map unstamped = some content := by
  rw [List.mem_map, Option.map_eq_some_iff]
  constructor
  · rintro ⟨r, hr, rfl⟩
    exact ⟨r, (id_unstamped r).symm ▸ h.mem_toList_iff.mp hr, rfl⟩
  · rintro ⟨r, hr, heq⟩
    exact ⟨r, h.mem_toList_iff.mpr ((h.filed hr).id_eq.symm ▸ hr), heq⟩

theorem Coherent.nodup_map_unstamped (h : index.Coherent) :
    (index.toList.map unstamped).Nodup := by
  refine List.Nodup.of_map Resource.id ?_
  have hids : (index.toList.map unstamped).map Resource.id = index.order.toList := by
    rw [List.map_map, ← h.map_id_toList]
    exact List.map_congr_left fun r _ => id_unstamped r
  rw [hids]
  exact h.nodup

/-- Coherent indexes hold the same resources if the same can be looked up in both. -/
theorem Coherent.sameResources (ha : a.Coherent) (hb : b.Coherent)
    (h : ∀ i, (a.get? i).map unstamped = (b.get? i).map unstamped) : a.SameResources b := by
  refine (List.perm_ext_iff_of_nodup ha.nodup_map_unstamped hb.nodup_map_unstamped).mpr ?_
  intro content
  rw [ha.mem_map_unstamped_iff, hb.mem_map_unstamped_iff, h]

/-! ### What merging leaves -/

/-- The content of what merging a resource leaves under its id, where `found` is stored. -/
def absorbed (found : Option R) (r : R) : R :=
  match found with
  | none => unstamped r
  | some stored =>
    let merged := Resource.merge stored r
    unstamped (if sameContent merged stored then stored else merged)

/-- **What merging leaves depends on what was stored under the id, and not on the time.** -/
theorem Coherent.unstamped_get?_merge (h : index.Coherent) (now : Nat) (r : R) :
    ((index.merge now r).2.get? (Resource.id r)).map unstamped =
      some (absorbed (index.get? (Resource.id r)) r) := by
  cases hget : index.get? (Resource.id r) with
  | none =>
    rw [merge_of_none hget, get?_append_self, Option.map_some, unstamped_withStamps]
    rfl
  | some stored =>
    by_cases hsame : sameContent (Resource.merge stored r) stored = true
    · rw [merge_of_same hget hsame, hget, Option.map_some, absorbed, if_pos hsame]
    · have hlater : (index.replace now (Resource.merge stored r)).get? (Resource.id r) = some _ :=
        h.id_merge_eq hget ▸ get?_replace_self now _ index
      rw [merge_of_new hget hsame, hlater, Option.map_some, stampChange, unstamped_withStamps,
        absorbed, if_neg hsame]

end Index

end ChainFeed
