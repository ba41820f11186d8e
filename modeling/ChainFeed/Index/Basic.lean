import Std.Data.TreeMap
import ChainFeed.Index.Clock
import ChainFeed.Resource.Basic

/-!
# Indexes

An **index** holds the resources of one kind by id and remembers the order in which they were added.
Every write that adds or changes a resource takes a stamp from the index's change clock. Merging a
resource that brings nothing new is no write: it takes no stamp, and no reader sees it.
-/

namespace ChainFeed

/-- Why an index refuses a write or has no answer. -/
inductive IndexError where
  /-- A resource with the id is stored already. -/
  | alreadyExists (kind : Kind) (id : String)
  /-- No resource with the id is stored. -/
  | notFound (kind : Kind) (id : String)
  deriving DecidableEq, Repr

namespace IndexError

/-- The text of the error. -/
def message : IndexError → String
  | alreadyExists kind id => kind.name ++ " " ++ Text.quoted id ++ " already exists"
  | notFound kind id => kind.name ++ " " ++ Text.quoted id ++ " not found"

/-- Whether the error says that something is missing. -/
def isNotFound : IndexError → Bool
  | notFound .. => true
  | alreadyExists .. => false

end IndexError

/-- The resources of one kind, by id and in the order in which they were added. -/
structure Index (R : Type) where
  /-- The stored resources by id. -/
  entries : Std.TreeMap String R
  /-- The ids in the order in which they were added. -/
  order : Array String
  /-- The source of stamps. -/
  clock : ChangeClock

/-- What merging a resource into an index did. -/
inductive MergeOutcome where
  /-- The resource was new. -/
  | added
  /-- The resource brought new content. -/
  | updated
  /-- The resource brought nothing new. -/
  | unchanged
  deriving DecidableEq, Repr

namespace Index

variable {R : Type} [Resource R]

open Resource

/-- An index that holds nothing and has given out no stamp. -/
def empty : Index R := ⟨∅, #[], ChangeClock.fresh⟩

/-! ### Reading -/

/-- The resource with an id. -/
def get? (id : String) (index : Index R) : Option R :=
  index.entries[id]?

/-- Whether a resource with the id is stored. -/
def contains (id : String) (index : Index R) : Bool :=
  index.entries.contains id

/-- The resource with an id, or the error that there is none. -/
def find (id : String) (index : Index R) : Except IndexError R :=
  match index.get? id with
  | some resource => .ok resource
  | none => .error (.notFound (kind R) id)

/-- The stored resources in the order in which they were added. -/
def toList (index : Index R) : List R :=
  index.order.toList.filterMap index.get?

/-- The stored resources that fulfil a condition, in order. -/
def filter (keep : R → Bool) (index : Index R) : List R :=
  index.toList.filter keep

/-- The resources added or changed after a stamp, in order. -/
def changedAfter (bound : Nat) (index : Index R) : List R :=
  index.filter fun resource => bound < changedAt resource

/-- How many resources are stored. -/
def size (index : Index R) : Nat :=
  index.entries.size

/-! ### Writing

Writes happen while the wall clock shows `now`. -/

/-- Stores a new resource behind all others. -/
def append (now : Nat) (resource : R) (index : Index R) : Index R where
  entries := index.entries.insert (id resource)
    (withStamps (Stamps.added (index.clock.stamp now)) resource)
  order := index.order.push (id resource)
  clock := index.clock.tick now

/-- Adds a resource whose id is not stored. -/
def add (now : Nat) (resource : R) (index : Index R) : Except IndexError Unit × Index R :=
  if index.contains (id resource) then
    (.error (.alreadyExists (kind R) (id resource)), index)
  else (.ok (), index.append now resource)

/-- The resource as an index changes it while the wall clock shows `now`. -/
def stampChange (now : Nat) (index : Index R) (resource : R) : R :=
  withStamps { stamps resource with updatedAt := index.clock.stamp now } resource

/-- Changes the stored resource with an id by a patch. The stamp of the change is taken even if
there is no such resource. -/
def update (now : Nat) (target : String) (patch : Patch R) (index : Index R) :
    Except IndexError Unit × Index R :=
  match index.get? target with
  | some stored =>
    (.ok (),
      { index with
        entries := index.entries.insert target (index.stampChange now (apply patch stored))
        clock := index.clock.tick now })
  | none =>
    (.error (.notFound (kind R) target), { index with clock := index.clock.tick now })

/-- Removes the resource with an id. -/
def delete (target : String) (index : Index R) : Except IndexError R × Index R :=
  match index.get? target with
  | some stored =>
    (.ok stored,
      { index with
        entries := index.entries.erase target
        order := index.order.filter (· ≠ target) })
  | none => (.error (.notFound (kind R) target), index)

/-- Adds a resource, or merges its values into the stored one with its id. -/
def merge (now : Nat) (resource : R) (index : Index R) : MergeOutcome × Index R :=
  match index.get? (id resource) with
  | some stored =>
    let merged := Resource.merge stored resource
    if sameContent merged stored then (.unchanged, index)
    else
      (.updated,
        { index with
          entries := index.entries.insert (id merged) (index.stampChange now merged)
          clock := index.clock.tick now })
  | none => (.added, index.append now resource)

/-- Removes every resource. The stamps go on from where they are. -/
def clear (index : Index R) : Index R where
  entries := ∅
  order := #[]
  clock := index.clock

end Index

end ChainFeed
