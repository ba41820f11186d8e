import ChainFeed.Proofs.Index.Operation
import ChainFeed.Proofs.Ingest.Heights

/-!
# Ticks and resets

A follower takes **turns**: in each of them it goes through a tick, which meets a scene of its own,
or it is reset (`Follower.Turn`). Whatever holds of a follower that has seen nothing, and is kept by
ticks and by resets, holds after any turns (`Follower.after_induction`).

All that a tick does to the store is in its journal (`Scene.store_next`), and each write of a
journal is a step of the index that it concerns (`Store.index_write_step`). So the indexes of a
follower are coherent at all times (`Follower.coherent_after`).
-/

namespace ChainFeed

open Ingest

/-! ### Coherent stores -/

/-- Every index of the store is coherent. -/
def Store.Coherent (store : Store) : Prop := ∀ kind, (store.index kind).Coherent

namespace Store

variable {store : Store}

theorem index_clear (kind : Kind) : store.clear.index kind = (store.index kind).clear := by
  cases kind <;> rfl

/-- What a write does to the index that it concerns. -/
theorem index_write_step (h : store.Coherent) (now : Nat) (write : Write) :
    Index.Step now (store.index write.kind) ((store.write now write).index write.kind) := by
  cases write with
  | account account => exact Index.merge_step now account (h .account)
  | block block => exact Index.merge_step now block (h .block)
  | transaction transaction => exact Index.merge_step now transaction (h .transaction)
  | status id status => exact Index.update_step now id _ (h .transaction)
  | event event => exact Index.merge_step now event (h .event)
  | contract contract => exact Index.merge_step now contract (h .contract)
  | item item => exact Index.merge_step now item (h .storageItem)
  | noItem id => exact Index.delete_step now id store.storage

namespace Coherent

theorem empty : Store.empty.Coherent := by
  intro kind
  cases kind <;> exact Index.Coherent.empty

theorem write (h : store.Coherent) (now : Nat) (write : Write) :
    (store.write now write).Coherent := by
  intro kind
  by_cases hkind : write.kind = kind
  · subst hkind
    exact (h _).step (index_write_step h now write)
  · rw [index_write hkind]
    exact h kind

/-- A journal keeps the indexes coherent. -/
theorem replay (h : store.Coherent) (wall : Nat → Nat) (first : Nat) (writes : List Write) :
    (store.replay wall first writes).Coherent := by
  induction writes generalizing first store with
  | nil => exact h
  | cons write writes ih => exact ih (h.write _ write) _

theorem clear (h : store.Coherent) : store.clear.Coherent := by
  intro kind
  rw [index_clear]
  exact (h kind).step (Index.Step.clear : Index.Step 0 _ _)

end Coherent

end Store

/-! ### The journal of a tick -/

namespace Ingest.Progress

theorem mergeHeight_wrote (moment : Moment) (height : Nat) (fetched : FetchedBlock) (p : Progress) :
    ∃ writes, Wrote moment writes p (p.mergeHeight moment height fetched) := by
  obtain ⟨writes, hcontents, -⟩ := (mergeContents_follows moment fetched p).wrote
  have hblock : Wrote moment [.block fetched.block] (p.mergeContents moment fetched)
      ((p.mergeContents moment fetched).write moment (.block fetched.block)) :=
    .write _
  have hboth := hcontents.trans hblock
  exact ⟨_, hboth.journal, hboth.store⟩

theorem mergeEach_wrote (moment : Moment) (blocks : List (Nat × FetchedBlock)) (p : Progress) :
    ∃ writes, Wrote moment writes p (p.mergeEach moment blocks) := by
  induction blocks generalizing p with
  | nil => exact ⟨[], .nil rfl rfl⟩
  | cons m blocks ih =>
    obtain ⟨writes, hfirst⟩ := mergeHeight_wrote moment m.1 m.2 p
    obtain ⟨more, hrest⟩ := ih (p.mergeHeight moment m.1 m.2)
    exact ⟨_, hfirst.trans hrest⟩

end Ingest.Progress

namespace Scene

open Progress

variable {σ : Type} (settings : Settings) (follower : Follower) (scene : Scene σ)

/-- The first stage writes what the merging of blocks writes. -/
theorem exists_blockStage_wrote :
    ∃ writes, Wrote scene.moment writes (Progress.start follower.store follower.state)
      (scene.blockStage settings follower) := by
  obtain ⟨failures, hstage⟩ := blockStage_eq settings follower scene
  obtain ⟨writes, hblocks⟩ := mergeEach_wrote scene.moment (scene.merged settings follower.state)
    (Progress.start follower.store (scene.heard settings follower.state))
  rw [hstage]
  exact ⟨writes, hblocks.journal, hblocks.store⟩

/-- The journal of a tick holds all its writes. -/
theorem wrote :
    Wrote scene.moment (scene.progress settings follower).journal.toList
      (Progress.start follower.store follower.state) (scene.progress settings follower) := by
  obtain ⟨writes, hfirst⟩ := exists_blockStage_wrote settings follower scene
  obtain ⟨later, hbehind, -⟩ :=
    (Follower.run_follows scene.gateway settings scene.moment scene.chain follower).wrote
  have hall : Wrote scene.moment (writes ++ later)
      (Progress.start follower.store follower.state) (scene.progress settings follower) :=
    hfirst.trans hbehind
  have hjournal : (scene.progress settings follower).journal.toList = writes ++ later :=
    hall.journal_of_start
  rw [hjournal]
  exact hall

/-- A tick leaves the store and the memory that it ends with. -/
theorem next_eq :
    scene.next settings follower =
      ⟨(scene.progress settings follower).store, (scene.progress settings follower).state⟩ := by
  rw [next, Follower.tick_eq, progress]

/-- **A tick leaves the store that its journal makes of the store before.** -/
theorem store_next :
    (scene.next settings follower).store =
      follower.store.replay scene.moment.wall 0
        (scene.progress settings follower).journal.toList := by
  rw [next_eq]
  exact (wrote settings follower scene).store

end Scene

/-! ### Turns -/

namespace Follower

variable {σ : Type}

/-- What happens to a follower at a time. -/
inductive Turn (σ : Type) where
  /-- The follower goes through a tick. -/
  | tick (scene : Scene σ)
  /-- The follower is reset. -/
  | reset

/-- The follower after a turn. -/
def turn (settings : Settings) (follower : Follower) : Turn σ → Follower
  | .tick scene => scene.next settings follower
  | .reset => follower.reset

/-- The follower after some turns. -/
def after (settings : Settings) (follower : Follower) (turns : List (Turn σ)) : Follower :=
  turns.foldl (turn settings) follower

variable {settings : Settings}

@[simp] theorem turn_tick (follower : Follower) (scene : Scene σ) :
    follower.turn settings (.tick scene) = scene.next settings follower := rfl

@[simp] theorem turn_reset (follower : Follower) :
    follower.turn settings (.reset : Turn σ) = follower.reset := rfl

theorem after_append (follower : Follower) (turns more : List (Turn σ)) :
    follower.after settings (turns ++ more) =
      (follower.after settings turns).after settings more :=
  List.foldl_append

theorem after_cons (follower : Follower) (turn : Turn σ) (turns : List (Turn σ)) :
    follower.after settings (turn :: turns) = (follower.turn settings turn).after settings turns :=
  rfl

theorem after_concat (follower : Follower) (turns : List (Turn σ)) (turn : Turn σ) :
    follower.after settings (turns ++ [turn]) =
      (follower.after settings turns).turn settings turn :=
  after_append follower turns [turn]

/-- Whatever resets and such ticks keep as are among the turns holds after the turns. -/
theorem after_induction_of_forall {P : Follower → Prop} {Q : Turn σ → Prop} (start : P initial)
    (tick : ∀ (scene : Scene σ) follower, Q (.tick scene) → P follower →
      P (scene.next settings follower))
    (reset : ∀ follower, P follower → P follower.reset) {turns : List (Turn σ)}
    (h : ∀ turn ∈ turns, Q turn) : P (initial.after settings turns) := by
  induction turns using List.reverseRecOn with
  | nil => exact start
  | append_singleton turns turn ih =>
    rw [List.forall_mem_append, List.forall_mem_singleton] at h
    rw [after_concat]
    cases turn with
    | tick scene => exact tick scene _ h.2 (ih h.1)
    | reset => exact reset _ (ih h.1)

/-- Whatever ticks and resets keep holds after any turns. -/
theorem after_induction {P : Follower → Prop} (start : P initial)
    (tick : ∀ (scene : Scene σ) follower, P follower → P (scene.next settings follower))
    (reset : ∀ follower, P follower → P follower.reset) (turns : List (Turn σ)) :
    P (initial.after settings turns) :=
  after_induction_of_forall (Q := fun _ => True) start (fun scene follower _ => tick scene follower)
    reset fun _ _ => trivial

theorem coherent_next {follower : Follower} (h : follower.store.Coherent) (scene : Scene σ) :
    (scene.next settings follower).store.Coherent := by
  rw [Scene.store_next]
  exact h.replay _ _ _

/-- **The indexes of a follower are coherent at all times.** -/
theorem coherent_after (settings : Settings) (turns : List (Turn σ)) :
    (initial.after settings turns).store.Coherent :=
  after_induction (P := fun follower => follower.store.Coherent) .empty
    (fun scene _ h => coherent_next h scene) (fun _ h => h.clear) turns

end Follower

end ChainFeed
