import ChainFeed.Proofs.Index.Slice
import ChainFeed.Proofs.Ingest.Moments

/-!
# What is stored under an id

A write may **store** a record under its id (`Write.stores?`). An id is seen in an index at some
moment of a tick if and only if it was stored before, or one of the tick's writes stores a record
under it (`Scene.exists_contains_storeAt_iff`). So whatever is ever seen in a run of ticks and
resets was stored by one of the ticks (`Follower.exists_contains_storeAt_iff`).

`Progress.Stores` says of which kinds the records are that are stored under one id between two
moments of a tick. It is put together from steps, like `Progress.Obeys`.
-/

namespace ChainFeed

open Ingest

/-! ### Storing under an id -/

/-- The kind and the id of the record that a write stores. A write may also change or remove what is
stored. -/
def Write.stores? : Write → Option (Kind × String)
  | account a => some (.account, a.id)
  | block b => some (.block, b.id)
  | transaction t => some (.transaction, t.id)
  | event e => some (.event, e.id)
  | contract c => some (.contract, c.id)
  | item x => some (.storageItem, x.id)
  | status .. | noItem _ => none

namespace Store

variable {store : Store} {kind : Kind} {i : String}

/-- What a write stores is stored. -/
theorem contains_write_of_stores {w : Write} (h : w.stores? = some (kind, i)) (now : Nat) :
    ((store.write now w).index kind).contains i := by
  cases w with
  | status | noItem => cases h
  | _ =>
    obtain ⟨rfl, rfl⟩ := Prod.mk.inj (Option.some.inj h)
    exact Index.contains_merge (.inr rfl)

/-- Nothing is stored that was not stored before, but what a write stores. -/
theorem Coherent.contains_of_write (h : store.Coherent) {w : Write} {now : Nat}
    (hi : ((store.write now w).index kind).contains i) :
    (store.index kind).contains i ∨ w.stores? = some (kind, i) := by
  by_cases hkind : w.kind = kind
  · subst hkind
    have hmerged {R : Type} [Resource R] [LawfulResource R] {index : Index R}
        (hindex : index.Coherent) (r : R) (hi : (index.merge now r).2.contains i) :
        index.contains i ∨ some (w.kind, Resource.id r) = some (w.kind, i) :=
      ((hindex.contains_merge_iff now r i).mp hi).imp_right (congrArg fun i => some (_, i))
    cases w with
    | account r => exact hmerged (h .account) r hi
    | block r => exact hmerged (h .block) r hi
    | transaction r => exact hmerged (h .transaction) r hi
    | event r => exact hmerged (h .event) r hi
    | contract r => exact hmerged (h .contract) r hi
    | item r => exact hmerged (h .storageItem) r hi
    | status target status =>
      left
      change (store.transactions.update now target _).2.contains i at hi
      change store.transactions.contains i
      rw [Index.contains_eq_isSome_get?, Index.get?_update] at hi
      rw [Index.contains_eq_isSome_get?]
      split at hi
      · rwa [Option.isSome_map] at hi
      · exact hi
    | noItem target =>
      left
      change (store.storage.delete target).2.contains i at hi
      change store.storage.contains i
      rw [Index.contains_eq_isSome_get?, Index.get?_delete] at hi
      rw [Index.contains_eq_isSome_get?]
      split at hi
      · cases hi
      · exact hi
  · rw [index_write hkind] at hi
    exact .inl hi

/-- **An id is stored after some first part of the writes** if it was stored before them, or if one
of them stores a record under it. -/
theorem Coherent.exists_contains_replay_iff (h : store.Coherent) {wall : Nat → Nat} {first : Nat}
    {writes : List Write} :
    (∃ n, ((store.replay wall first (writes.take n)).index kind).contains i) ↔
      (store.index kind).contains i ∨ ∃ w ∈ writes, w.stores? = some (kind, i) := by
  induction writes generalizing first store with
  | nil =>
    constructor
    · rintro ⟨n, hn⟩
      rw [List.take_nil] at hn
      exact .inl hn
    · rintro (hi | ⟨w, hw, -⟩)
      · exact ⟨0, hi⟩
      · cases hw
  | cons w rest ih =>
    have hcut : (∃ n, ((store.replay wall first ((w :: rest).take n)).index kind).contains i) ↔
        (store.index kind).contains i ∨
          ∃ n, (((store.write (wall first) w).replay wall (first + 1)
            (rest.take n)).index kind).contains i := by
      constructor
      · rintro ⟨_ | n, hn⟩
        · exact .inl hn
        · exact .inr ⟨n, hn⟩
      · rintro (h | ⟨n, hn⟩)
        · exact ⟨0, h⟩
        · exact ⟨n + 1, hn⟩
    rw [hcut, ih (h.write _ w), List.exists_mem_cons_iff]
    constructor
    · rintro (hi | hi | hrest)
      · exact .inl hi
      · exact (h.contains_of_write hi).imp_right .inl
      · exact .inr (.inr hrest)
    · rintro (hi | hw | hrest)
      · exact .inl hi
      · exact .inr (.inl (contains_write_of_stores hw _))
      · exact .inr (.inr hrest)

end Store

namespace Scene

open Progress

variable {σ : Type} {settings : Settings} {follower : Follower} {kind : Kind} {i : String}

/-- What is seen under an id during a tick was stored before, or the tick stores it. -/
theorem exists_contains_storeAt_iff (h : follower.store.Coherent) (scene : Scene σ) :
    (∃ n, ((scene.storeAt settings follower n).index kind).contains i) ↔
      (follower.store.index kind).contains i ∨
        ∃ w ∈ (scene.progress settings follower).journal.toList, w.stores? = some (kind, i) :=
  h.exists_contains_replay_iff

/-- What is stored after a tick was seen in the end of it. -/
theorem exists_contains_of_next {scene : Scene σ}
    (h : ((scene.next settings follower).store.index kind).contains i) :
    ∃ n, ((scene.storeAt settings follower n).index kind).contains i :=
  ⟨_, by rw [storeAt_of_le (Nat.le_refl _)]; exact h⟩

end Scene

namespace Follower

variable {σ : Type} {settings : Settings} {kind : Kind} {i : String}

/-- What is stored after some turns was stored by one of the ticks. -/
theorem exists_stores_of_contains_after {turns : List (Turn σ)}
    (h : ((initial.after settings turns).store.index kind).contains i) :
    ∃ before scene behind, turns = before ++ .tick scene :: behind ∧
      ∃ w ∈ (scene.progress settings (initial.after settings before)).journal.toList,
        w.stores? = some (kind, i) := by
  induction turns using List.reverseRecOn with
  | nil => cases kind <;> cases h
  | append_singleton turns turn ih =>
    rw [after_concat] at h
    cases turn with
    | reset =>
      rw [turn_reset, reset, Store.index_clear, Index.contains_eq_isSome_get?,
        Index.get?_clear] at h
      cases h
    | tick scene =>
      rcases (Scene.exists_contains_storeAt_iff (coherent_after settings turns) scene).mp
        (Scene.exists_contains_of_next h) with hbefore | hw
      · obtain ⟨before, earlier, behind, rfl, hw⟩ := ih hbefore
        exact ⟨before, earlier, behind ++ [.tick scene], List.append_assoc _ _ _, hw⟩
      · exact ⟨turns, scene, [], rfl, hw⟩

/-- **An id is seen at some moment of a run** if and only if a tick stores a record under it. -/
theorem exists_contains_storeAt_iff (settings : Settings) (turns : List (Turn σ)) (kind : Kind)
    (i : String) :
    (∃ before scene behind, turns = before ++ .tick scene :: behind ∧
      ∃ n, ((scene.storeAt settings (initial.after settings before) n).index kind).contains i) ↔
    ∃ before scene behind, turns = before ++ .tick scene :: behind ∧
      ∃ w ∈ (scene.progress settings (initial.after settings before)).journal.toList,
        w.stores? = some (kind, i) := by
  constructor
  · rintro ⟨before, scene, behind, rfl, hseen⟩
    rcases (Scene.exists_contains_storeAt_iff (coherent_after settings before) scene).mp hseen
      with hbefore | hw
    · obtain ⟨first, earlier, between, rfl, hw⟩ := exists_stores_of_contains_after hbefore
      exact ⟨first, earlier, between ++ .tick scene :: behind, List.append_assoc _ _ _, hw⟩
    · exact ⟨before, scene, behind, rfl, hw⟩
  · rintro ⟨before, scene, behind, rfl, hw⟩
    exact ⟨before, scene, behind, rfl,
      (Scene.exists_contains_storeAt_iff (coherent_after settings before) scene).mpr (.inr hw)⟩

end Follower

/-! ### What a part of a tick stores -/

namespace Ingest.Progress

/-- The later progress comes after the earlier one by writes that store records of just the given
kinds under an id. -/
def Stores (moment : Moment) (i : String) (kinds : Kind → Prop) (earlier later : Progress) : Prop :=
  ∃ writes, Wrote moment writes earlier later ∧
    ∀ kind, (∃ w ∈ writes, w.stores? = some (kind, i)) ↔ kinds kind

variable {moment : Moment} {i : String} {kinds more : Kind → Prop} {p q r : Progress}

namespace Stores

/-- Nothing is written. -/
theorem of_eq (hstore : q.store = p.store) (hjournal : q.journal = p.journal) :
    Stores moment i (fun _ => False) p q :=
  ⟨[], .nil hstore hjournal, fun kind => by simp⟩

theorem refl (p : Progress) : Stores moment i (fun _ => False) p p := of_eq rfl rfl

theorem skip (flaw : Flaw) (p : Progress) : Stores moment i (fun _ => False) p (p.skip flaw) :=
  of_eq rfl rfl

theorem remember (change : State → State) (p : Progress) :
    Stores moment i (fun _ => False) p (p.remember change) :=
  of_eq rfl rfl

theorem fail (stage : Stage) (target : String) (cause : Cause) (p : Progress) :
    Stores moment i (fun _ => False) p (p.fail stage target cause) :=
  of_eq rfl rfl

theorem write (w : Write) :
    Stores moment i (fun kind => w.stores? = some (kind, i)) p (p.write moment w) :=
  ⟨[w], .write w, fun kind => by simp⟩

theorem trans (hpq : Stores moment i kinds p q) (hqr : Stores moment i more q r) :
    Stores moment i (fun kind => kinds kind ∨ more kind) p r := by
  obtain ⟨writes, hw, hkinds⟩ := hpq
  obtain ⟨later, hl, hmore⟩ := hqr
  refine ⟨writes ++ later, hw.trans hl, fun kind => ?_⟩
  dsimp only
  rw [← hkinds, ← hmore]
  simp only [List.mem_append, or_and_right, exists_or]

theorem congr (h : Stores moment i kinds p q) (hiff : ∀ kind, kinds kind ↔ more kind) :
    Stores moment i more p q := by
  obtain ⟨writes, hw, hkinds⟩ := h
  exact ⟨writes, hw, fun kind => (hkinds kind).trans (hiff kind)⟩

/-- A write that stores nothing under the id. -/
theorem write_of_none {w : Write} (h : ∀ kind, w.stores? ≠ some (kind, i)) :
    Stores moment i (fun _ => False) p (p.write moment w) :=
  (write w).congr fun kind => iff_false_intro (h kind)

/-- A step that stores nothing behind another one makes no difference. -/
theorem trans_of_none (hpq : Stores moment i kinds p q)
    (hqr : Stores moment i (fun _ => False) q r) : Stores moment i kinds p r :=
  (hpq.trans hqr).congr fun _ => or_iff_left id

theorem foldl {α : Type} {step : Progress → α → Progress} {kinds : α → Kind → Prop}
    (items : List α) (h : ∀ p, ∀ item ∈ items, Stores moment i (kinds item) p (step p item))
    (p : Progress) :
    Stores moment i (fun kind => ∃ item ∈ items, kinds item kind) p (items.foldl step p) := by
  induction items generalizing p with
  | nil => exact (refl p).congr fun kind => by simp
  | cons item rest ih =>
    have hrest := ih (fun p other hother => h p other (List.mem_cons_of_mem _ hother))
      (step p item)
    exact ((h p item List.mem_cons_self).trans hrest).congr fun kind => by
      rw [List.exists_mem_cons_iff]

/-- Steps that store nothing, one after the other, store nothing. -/
theorem foldl_of_none {α : Type} {step : Progress → α → Progress} (items : List α)
    (h : ∀ p, ∀ item ∈ items, Stores moment i (fun _ => False) p (step p item)) (p : Progress) :
    Stores moment i (fun _ => False) p (items.foldl step p) :=
  (foldl items h p).congr fun kind => by simp

end Stores

end Ingest.Progress

end ChainFeed
