import Mathlib.Data.List.Induction
import ChainFeed.Proofs.Index.Coherence

/-!
# Operations on an index

An **operation** writes to an index and tells its caller how that went (`Index.Outcome`). What each
operation can do is said once (`Operation.Effect`): how the index must have been, what the caller
is told, and what the index becomes. Every operation on a coherent index has one of these effects
(`Operation.effect`), so what is proved for each effect holds of all operations.

An index that starts out empty stays coherent whatever operations follow (`coherent_after`).
-/

namespace ChainFeed

open Resource

/-- An operation that writes to an index. -/
inductive Index.Operation (R : Type) [Resource R] where
  /-- Adds a new resource. -/
  | add (resource : R)
  /-- Changes a stored resource by a patch. -/
  | update (target : String) (patch : Patch R)
  /-- Removes a stored resource. -/
  | delete (target : String)
  /-- Adds a resource or merges its values into the stored one. -/
  | merge (resource : R)
  /-- Removes all resources. -/
  | clear

/-- What an operation tells its caller. -/
inductive Index.Outcome (R : Type) where
  /-- Whether a resource was added. -/
  | added (result : Except IndexError Unit)
  /-- Whether a resource was changed. -/
  | updated (result : Except IndexError Unit)
  /-- The resource that was removed, if one was. -/
  | deleted (result : Except IndexError R)
  /-- What merging a resource did. -/
  | merged (outcome : MergeOutcome)
  /-- All resources were removed. -/
  | cleared

namespace Index

namespace Outcome

variable {R : Type}

/-- Whether the operation was refused. -/
def isFailure : Outcome R → Bool
  | added (.error _) | updated (.error _) | deleted (.error _) => true
  | _ => false

/-- Whether the operation stored a resource that was not stored before. -/
def isAddition : Outcome R → Bool
  | added (.ok _) | merged .added => true
  | _ => false

/-- Whether the operation stamped a resource. -/
def isStamped : Outcome R → Bool
  | added (.ok _) | updated (.ok _) | merged .added | merged .updated => true
  | _ => false

theorem isStamped_of_isAddition {outcome : Outcome R} (h : outcome.isAddition) :
    outcome.isStamped := by
  unfold isAddition at h
  split at h
  · rfl
  · rfl
  · cases h

end Outcome

namespace Operation

variable {R : Type} [Resource R]

/-- The index after an operation, whether the operation succeeds or not. -/
def run (now : Nat) (index : Index R) : Operation R → Index R
  | add resource => (index.add now resource).2
  | update target patch => (index.update now target patch).2
  | delete target => (index.delete target).2
  | merge resource => (index.merge now resource).2
  | clear => index.clear

/-- What an operation tells its caller. -/
def outcome (now : Nat) (index : Index R) : Operation R → Outcome R
  | add resource => .added (index.add now resource).1
  | update target patch => .updated (index.update now target patch).1
  | delete target => .deleted (index.delete target).1
  | merge resource => .merged (index.merge now resource).1
  | clear => .cleared

/-- The id of the resource that an operation concerns, unless it concerns all. -/
def target? : Operation R → Option String
  | add resource | merge resource => some (Resource.id resource)
  | update target _ | delete target => some target
  | clear => none

theorem run_step [LawfulResource R] (now : Nat) {index : Index R} (h : index.Coherent)
    (operation : Operation R) : Step now index (operation.run now index) := by
  cases operation with
  | add resource => exact add_step now resource index
  | update target patch => exact update_step now target patch h
  | delete target => exact delete_step now target index
  | merge resource => exact merge_step now resource h
  | clear => exact .clear

/-- What an operation does while the wall clock shows `now`: what it tells its caller, and the index
that it leaves. -/
inductive Effect (now : Nat) (index : Index R) : Operation R → Outcome R → Index R → Prop
  /-- A new resource is stored behind all others. -/
  | added (r : R) (new : index.get? (Resource.id r) = none) :
    Effect now index (.add r) (.added (.ok ())) (index.append now r)
  /-- A resource whose id is stored is refused. -/
  | refused (r stored : R) (old : index.get? (Resource.id r) = some stored) :
    Effect now index (.add r) (.added (.error (.alreadyExists (kind R) (Resource.id r)))) index
  /-- A stored resource is changed by a patch. -/
  | updated (stored : R) (patch : Patch R) (old : index.get? (Resource.id stored) = some stored) :
    Effect now index (.update (Resource.id stored) patch) (.updated (.ok ()))
      (index.replace now (apply patch stored))
  /-- A patch for nothing is refused, and a stamp is gone. -/
  | missed (target : String) (patch : Patch R) (new : index.get? target = none) :
    Effect now index (.update target patch) (.updated (.error (.notFound (kind R) target)))
      { index with clock := index.clock.tick now }
  /-- A stored resource is removed. -/
  | deleted (stored : R) (old : index.get? (Resource.id stored) = some stored) :
    Effect now index (.delete (Resource.id stored)) (.deleted (.ok stored))
      (index.erase (Resource.id stored))
  /-- The removal of nothing is refused. -/
  | absent (target : String) (new : index.get? target = none) :
    Effect now index (.delete target) (.deleted (.error (.notFound (kind R) target))) index
  /-- A resource whose id is not stored is added. -/
  | mergedNew (r : R) (new : index.get? (Resource.id r) = none) :
    Effect now index (.merge r) (.merged .added) (index.append now r)
  /-- A resource that brings nothing new changes nothing. -/
  | mergedSame (r stored : R) (old : index.get? (Resource.id r) = some stored)
    (same : sameContent (Resource.merge stored r) stored = true) :
    Effect now index (.merge r) (.merged .unchanged) index
  /-- A resource that brings new values changes the stored one. -/
  | mergedChange (r stored : R) (old : index.get? (Resource.id r) = some stored)
    (change : sameContent (Resource.merge stored r) stored = false) :
    Effect now index (.merge r) (.merged .updated) (index.replace now (Resource.merge stored r))
  /-- All resources are removed. -/
  | cleared : Effect now index .clear .cleared index.clear

theorem effect_merge (now : Nat) (index : Index R) (r : R) :
    Effect now index (.merge r) ((Operation.merge r).outcome now index)
      ((Operation.merge r).run now index) := by
  rw [outcome, run, Index.merge]
  cases hget : index.get? (Resource.id r) with
  | none => exact .mergedNew r hget
  | some stored =>
    cases hsame : sameContent (Resource.merge stored r) stored with
    | true =>
      simp only [hsame, if_true]
      exact .mergedSame r stored hget hsame
    | false =>
      simp only [hsame, Bool.false_eq_true, if_false]
      exact .mergedChange r stored hget hsame

variable [LawfulResource R] {now : Nat} {index : Index R}

theorem effect_update (h : index.Coherent) (target : String) (patch : Patch R) :
    Effect now index (.update target patch) ((Operation.update target patch).outcome now index)
      ((Operation.update target patch).run now index) := by
  rw [outcome, run, Index.update]
  cases hget : index.get? target with
  | none => exact .missed target patch hget
  | some stored =>
    obtain rfl := (h.filed hget).id_eq
    have heffect : Effect now index (.update (Resource.id stored) patch) (.updated (.ok ()))
        (index.replace now (apply patch stored)) :=
      .updated stored patch hget
    rwa [replace, LawfulResource.id_apply] at heffect

/-- **Every operation on a coherent index has one of the effects.** -/
theorem effect (h : index.Coherent) (operation : Operation R) :
    Effect now index operation (operation.outcome now index) (operation.run now index) := by
  cases operation with
  | add r =>
    rw [outcome, run, Index.add, contains_eq_isSome_get?]
    cases hget : index.get? (Resource.id r) with
    | none => exact .added r hget
    | some stored => exact .refused r stored hget
  | update target patch => exact effect_update h target patch
  | delete target =>
    rw [outcome, run, Index.delete]
    cases hget : index.get? target with
    | none => exact .absent target hget
    | some stored =>
      obtain rfl := (h.filed hget).id_eq
      exact .deleted stored hget
  | merge r => exact effect_merge now index r
  | clear => exact .cleared

end Operation

/-! ### One operation after the other -/

section

variable {R : Type} [Resource R]

/-- The index after some operations, each of them while the wall clock shows the time beside it. -/
def after (index : Index R) (operations : List (Nat × Operation R)) : Index R :=
  operations.foldl (fun index o => o.2.run o.1 index) index

/-- What some operations tell their callers. -/
def outcomes (index : Index R) : List (Nat × Operation R) → List (Outcome R)
  | [] => []
  | o :: rest => o.2.outcome o.1 index :: outcomes (o.2.run o.1 index) rest

@[simp]
theorem after_nil (index : Index R) : index.after [] = index := rfl

@[simp]
theorem after_cons (index : Index R) (o : Nat × Operation R) (rest : List (Nat × Operation R)) :
    index.after (o :: rest) = (o.2.run o.1 index).after rest := rfl

@[simp]
theorem after_append (index : Index R) (operations more : List (Nat × Operation R)) :
    index.after (operations ++ more) = (index.after operations).after more :=
  List.foldl_append

variable [LawfulResource R]

/-- **Operations keep an index coherent.** -/
theorem Coherent.after {index : Index R} (h : index.Coherent)
    (operations : List (Nat × Operation R)) : (index.after operations).Coherent := by
  induction operations generalizing index with
  | nil => exact h
  | cons o rest ih => exact ih (h.step (o.2.run_step o.1 h))

theorem coherent_after (operations : List (Nat × Operation R)) :
    (Index.empty.after operations).Coherent :=
  Coherent.empty.after operations

end

end Index

end ChainFeed
