import ChainFeed.Polling
import ChainFeed.Proofs.Index.Operation

/-!
# Polling sessions

A **session** is an index, a client that polls it, and what was delivered so far. In each **turn**
of a session either an operation writes to the index, while the wall clock shows whatever it
shows, or the client polls: it asks its **view** of the index what changed after its bound, keeps
every resource of the answer under its id, and moves its bound.

How a client moves its bound is a parameter, `next`: it takes the old bound and the latest stamp
of the answer. What a session delivers is recorded as **versions**, each of them the id and the
stamps of a resource.
-/

namespace ChainFeed

open Resource

/-! ### The latest stamp -/

section Latest

variable {R : Type} [Resource R]

private theorem foldl_max_le_iff {bound : Nat} {stamps : List Nat} {first : Nat} :
    stamps.foldl max first ≤ bound ↔ first ≤ bound ∧ ∀ stamp ∈ stamps, stamp ≤ bound := by
  induction stamps generalizing first with
  | nil => simp
  | cons stamp stamps ih => rw [List.foldl_cons, ih, Nat.max_le, List.forall_mem_cons, and_assoc]

/-- The latest stamp is the least bound of all changes. -/
theorem latestStamp_le_iff {bound : Nat} {resources : List R} :
    latestStamp resources ≤ bound ↔ ∀ r ∈ resources, changedAt r ≤ bound := by
  rw [latestStamp, foldl_max_le_iff, List.forall_mem_map]
  exact and_iff_right (Nat.zero_le _)

/-- No resource changed after the latest stamp. -/
theorem changedAt_le_latestStamp {resources : List R} {r : R} (h : r ∈ resources) :
    changedAt r ≤ latestStamp resources :=
  latestStamp_le_iff.mp le_rfl r h

end Latest

namespace Polling

variable {R : Type} [Resource R]

/-! ### Views -/

/-- What a client sees of an index. -/
inductive View (R : Type) where
  /-- All resources. -/
  | whole
  /-- The resources that fulfil a condition. -/
  | slice (keep : R → Bool)

namespace View

/-- Whether a view shows a resource. -/
def shows : View R → R → Bool
  | whole, _ => true
  | slice keep, r => keep r

/-- The answer to the question what changed after a bound. -/
def ask (view : View R) (bound : Nat) (index : Index R) : PollingResponse R :=
  match view with
  | whole => index.poll ⟨bound⟩
  | slice keep => index.pollWhere ⟨bound⟩ keep

theorem ask_eq (view : View R) (bound : Nat) (index : Index R) :
    view.ask bound index =
      .of (index.toList.filter fun r => bound < changedAt r && view.shows r) := by
  cases view with
  | whole => simp [ask, shows, Index.poll, Index.changedAfter, Index.filter]
  | slice keep => rfl

/-- An answer holds the stored resources that the view shows and that changed after the bound. -/
theorem mem_data_ask_iff {view : View R} {bound : Nat} {index : Index R} (h : index.Coherent)
    {r : R} :
    r ∈ (view.ask bound index).data ↔
      index.get? (Resource.id r) = some r ∧ bound < changedAt r ∧ view.shows r := by
  rw [ask_eq]
  simp [PollingResponse.of, h.mem_toList_iff]

/-- No two resources of an answer share an id. -/
theorem nodup_map_id_ask {view : View R} {bound : Nat} {index : Index R} (h : index.Coherent) :
    ((view.ask bound index).data.map Resource.id).Nodup := by
  have hall : (index.toList.map Resource.id).Nodup := h.map_id_toList ▸ h.nodup
  rw [ask_eq]
  exact hall.sublist (List.filter_sublist.map _)

theorem latest_ask (view : View R) (bound : Nat) (index : Index R) :
    (view.ask bound index).latest = latestStamp (view.ask bound index).data := by
  rw [ask_eq]
  rfl

end View

/-! ### Clients -/

/-- A client that polls an index. -/
structure Client (R : Type) where
  /-- The bound of the next question. -/
  bound : Nat
  /-- The received resources by id. -/
  copies : Std.TreeMap String R

namespace Client

/-- A client that has received nothing. -/
def fresh : Client R := ⟨0, ∅⟩

/-- The client after an answer. -/
def receive (next : Nat → Nat → Nat) (response : PollingResponse R) (client : Client R) :
    Client R where
  bound := next client.bound response.latest
  copies := response.data.foldl (fun copies r => copies.insert (Resource.id r) r) client.copies

end Client

/-! ### Sessions -/

/-- What can happen in a session. -/
inductive Turn (R : Type) [Resource R] where
  /-- An operation writes to the index while the wall clock shows `now`. -/
  | write (now : Nat) (operation : Index.Operation R)
  /-- The client polls. -/
  | poll

/-- A resource's id and its stamps. -/
def version (r : R) : String × Stamps := (Resource.id r, stamps r)

/-- The id of a version and the stamp of its last change. -/
def lastChange (v : String × Stamps) : String × Nat := (v.1, v.2.latest)

/-- An index, a client that polls it, and what was delivered so far. -/
structure Session (R : Type) where
  /-- The index. -/
  index : Index R
  /-- The client. -/
  client : Client R
  /-- The delivered versions, in the order of time. -/
  delivered : List (String × Stamps)

namespace Session

variable (view : View R) (next : Nat → Nat → Nat)

/-- A session before its first turn. -/
def start : Session R := ⟨Index.empty, Client.fresh, []⟩

/-- The answer that the client would get now. -/
def answer (session : Session R) : PollingResponse R :=
  view.ask session.client.bound session.index

/-- The session after a poll. -/
def poll (session : Session R) : Session R where
  index := session.index
  client := session.client.receive next (session.answer view)
  delivered := session.delivered ++ (session.answer view).data.map version

/-- The session after a turn. -/
def turn (session : Session R) : Turn R → Session R
  | .write now operation => { session with index := operation.run now session.index }
  | .poll => session.poll view next

/-- The session after some turns. -/
def run (turns : List (Turn R)) : Session R :=
  turns.foldl (turn view next) start

@[simp]
theorem run_nil : run view next [] = start := rfl

@[simp]
theorem run_concat (turns : List (Turn R)) (t : Turn R) :
    run view next (turns ++ [t]) = (run view next turns).turn view next t := by
  simp [run]

end Session

end Polling

end ChainFeed
