import ChainFeed.Proofs.Index.Operation
import ChainFeed.Resource.Sample

/-!
# An index is an ordered list

A **roster** is the plain picture of an index: a list of resources in the order in which they were
added, and the last stamp. Its operations search the list, change it in place, and add at its end.

An index keeps its resources by id, and the ids in a list of their own. A reader cannot tell: after
the same operations, whether they succeed or not, the index tells its callers what the roster tells
them and shows what is on the roster (`agrees_with_roster`). The step from one operation to the next
is `perform_roster`: on a coherent index, each effect of an operation is that of the roster.
-/

namespace ChainFeed

open Resource

/-- Resources in the order in which they were added, and the last stamp given out. -/
structure Roster (R : Type) where
  /-- The resources. -/
  resources : List R
  /-- The last stamp, zero before the first. -/
  last : Nat

namespace Roster

variable {R : Type} [Resource R]

/-- A roster that lists nothing. -/
def empty : Roster R := ⟨[], 0⟩

/-- The next stamp while the wall clock shows `now`. -/
def stamp (now : Nat) (roster : Roster R) : Nat := max now (roster.last + 1)

/-- The resource with an id. -/
def get? (i : String) (roster : Roster R) : Option R :=
  roster.resources.find? fun r => Resource.id r = i

/-- The resource with an id, or the error that there is none of its kind. -/
def find (kind : Kind) (i : String) (roster : Roster R) : Except IndexError R :=
  match roster.get? i with
  | some r => .ok r
  | none => .error (.notFound kind i)

/-- The roster with one more resource at its end. -/
def append (now : Nat) (r : R) (roster : Roster R) : Roster R :=
  ⟨roster.resources ++ [withStamps ⟨roster.stamp now, roster.stamp now⟩ r], roster.stamp now⟩

/-- The roster with a resource in the place of the one with its id. -/
def replace (now : Nat) (r : R) (roster : Roster R) : Roster R :=
  let r' := withStamps ⟨(stamps r).createdAt, roster.stamp now⟩ r
  ⟨roster.resources.map fun s => if Resource.id s = Resource.id r then r' else s, roster.stamp now⟩

/-- The roster without the resource that has an id. -/
def erase (target : String) (roster : Roster R) : Roster R :=
  ⟨roster.resources.filter fun r => Resource.id r ≠ target, roster.last⟩

/-- What an operation on the roster of a kind tells its caller, and the roster that it leaves. -/
def perform (kind : Kind) (now : Nat) (roster : Roster R) :
    Index.Operation R → Index.Outcome R × Roster R
  | .add r =>
    match roster.get? (Resource.id r) with
    | none => (.added (.ok ()), roster.append now r)
    | some _ => (.added (.error (.alreadyExists kind (Resource.id r))), roster)
  | .update target patch =>
    match roster.get? target with
    | none => (.updated (.error (.notFound kind target)), ⟨roster.resources, roster.stamp now⟩)
    | some stored => (.updated (.ok ()), roster.replace now (apply patch stored))
  | .delete target =>
    match roster.get? target with
    | none => (.deleted (.error (.notFound kind target)), roster)
    | some stored => (.deleted (.ok stored), roster.erase target)
  | .merge r =>
    match roster.get? (Resource.id r) with
    | none => (.merged .added, roster.append now r)
    | some stored =>
      if sameContent (merge stored r) stored then (.merged .unchanged, roster)
      else (.merged .updated, roster.replace now (merge stored r))
  | .clear => (.cleared, ⟨[], roster.last⟩)

/-- What some operations on the roster of a kind tell their callers, each of them while the wall
clock shows the time beside it, and the roster that they leave. -/
def performAll (kind : Kind) (roster : Roster R) :
    List (Nat × Index.Operation R) → List (Index.Outcome R) × Roster R
  | [] => ([], roster)
  | o :: rest =>
    let (outcome, roster) := roster.perform kind o.1 o.2
    let (outcomes, roster) := performAll kind roster rest
    (outcome :: outcomes, roster)

end Roster

namespace Index

variable {R : Type} [Resource R] {index : Index R} {now : Nat}

/-! ### What a reader is shown -/

/-- What an index shows: its resources in order, and its last stamp. -/
def roster (index : Index R) : Roster R := ⟨index.toList, index.clock.last⟩

/-- A resource that is looked up is the one that is listed with its id. -/
theorem Coherent.get?_roster (h : index.Coherent) (i : String) :
    index.roster.get? i = index.get? i := by
  rw [Roster.get?, roster]
  cases hget : index.get? i with
  | none =>
    rw [List.find?_eq_none]
    intro r hr hid
    have hstored := h.mem_toList_iff.mp hr
    rw [of_decide_eq_true hid, hget] at hstored
    cases hstored
  | some r =>
    -- some resource with the id is found, and there is only one
    obtain rfl := (h.filed hget).id_eq
    have hfound : (index.toList.find? fun s => Resource.id s = Resource.id r).isSome :=
      List.find?_isSome.mpr ⟨r, h.mem_toList_iff.mpr hget, decide_eq_true rfl⟩
    obtain ⟨s, hs⟩ := Option.isSome_iff_exists.mp hfound
    have hid : Resource.id s = Resource.id r := by simpa using List.find?_some hs
    have hstored := h.mem_toList_iff.mp (List.mem_of_find?_eq_some hs)
    rw [hs, ← hget, ← hid, hstored]

/-- As many resources are stored as are listed. -/
theorem Coherent.size_eq (h : index.Coherent) : index.size = index.toList.length := by
  have hkeys : index.entries.keys.Perm index.order.toList := by
    have hnodup : index.entries.keys.Nodup :=
      Std.TreeMap.distinct_keys.imp fun hne heq => hne (Std.compare_eq_iff_eq.mpr heq)
    refine (List.perm_ext_iff_of_nodup hnodup h.nodup).mpr fun i => ?_
    rw [h.mem_order_iff, Std.TreeMap.mem_keys, get?, Std.TreeMap.isSome_getElem?_eq_contains,
      Std.TreeMap.contains_iff_mem]
  rw [size, ← Std.TreeMap.length_keys, hkeys.length_eq, ← h.map_id_toList, List.length_map]

/-! ### What a change of the index shows -/

/-- A new resource is listed last. -/
theorem Coherent.roster_append (h : index.Coherent) (now : Nat) {r : R}
    (new : index.get? (Resource.id r) = none) :
    (index.append now r).roster = index.roster.append now r := by
  have hold : ∀ i ∈ index.order.toList, (index.append now r).get? i = index.get? i := by
    intro i hi
    rw [get?_append, if_neg]
    rintro rfl
    rw [h.mem_order_iff, new] at hi
    cases hi
  have horder : (index.append now r).order.toList = index.order.toList ++ [Resource.id r] :=
    Array.toList_push
  have hlist : (index.append now r).toList =
      index.toList ++ [withStamps (Stamps.added (index.clock.stamp now)) r] := by
    rw [toList, horder, List.filterMap_append, List.filterMap_congr hold, ← toList,
      List.filterMap_cons, get?_append_self, List.filterMap_nil]
  rw [roster, hlist]
  rfl

/-- A resource that takes the place of another is listed in its place. -/
theorem Coherent.roster_replace (h : index.Coherent) (now : Nat) {r stored : R}
    (old : index.get? (Resource.id r) = some stored) :
    (index.replace now r).roster = index.roster.replace now r := by
  have hlist : (index.replace now r).toList = index.toList.map fun s =>
      if Resource.id s = Resource.id r then index.stampChange now r else s := by
    rw [toList, toList, List.map_filterMap]
    refine List.filterMap_congr fun i _ => ?_
    rw [get?_replace]
    split
    · rename_i hi
      rw [← hi, old, Option.map_some, (h.filed old).id_eq, if_pos rfl]
    · rename_i hi
      cases hget : index.get? i with
      | none => rfl
      | some s =>
        have hne : Resource.id s ≠ Resource.id r := fun heq => hi (heq ▸ (h.filed hget).id_eq)
        rw [Option.map_some, if_neg hne]
  rw [roster, hlist]
  rfl

/-- The other resources stay listed when one is removed. -/
theorem Coherent.roster_erase (h : index.Coherent) (target : String) :
    (index.erase target).roster = index.roster.erase target := by
  have horder : (index.erase target).order.toList = index.order.toList.filter (· ≠ target) :=
    Array.toList_filter
  have hlist : (index.erase target).toList =
      index.toList.filter fun r => Resource.id r ≠ target := by
    rw [toList, toList, horder, List.filterMap_filter, List.filter_filterMap]
    refine List.filterMap_congr fun i _ => ?_
    rw [get?_erase]
    cases hget : index.get? i with
    | none => simp
    | some r =>
      rw [Option.filter_some, (h.filed hget).id_eq]
      by_cases hi : target = i
      · simp [hi]
      · simp [hi, Ne.symm hi]
  rw [roster, hlist]
  rfl

/-! ### The same as the roster -/

variable [LawfulResource R]

/-- An effect of an operation on a coherent index is that on the roster. -/
theorem Coherent.perform_of_effect (h : index.Coherent) {operation : Operation R}
    {outcome : Outcome R} {next : Index R} (heffect : operation.Effect now index outcome next) :
    index.roster.perform (kind R) now operation = (outcome, next.roster) := by
  have hget := h.get?_roster
  cases heffect with
  | added r new => rw [Roster.perform, hget, new, h.roster_append now new]
  | refused r stored old => rw [Roster.perform, hget, old]
  | updated stored patch old =>
    have hid : Resource.id (apply patch stored) = Resource.id stored :=
      LawfulResource.id_apply _ _
    rw [Roster.perform, hget, old, h.roster_replace now (hid ▸ old)]
  | missed target patch new =>
    rw [Roster.perform, hget, new]
    rfl
  | deleted stored old => rw [Roster.perform, hget, old, h.roster_erase]
  | absent target new => rw [Roster.perform, hget, new]
  | mergedNew r new => rw [Roster.perform, hget, new, h.roster_append now new]
  | mergedSame r stored old same =>
    rw [Roster.perform, hget, old]
    simp only [same, if_true]
  | mergedChange r stored old change =>
    rw [Roster.perform, hget, old, h.roster_replace now (h.id_merge_eq old ▸ old)]
    simp only [change, Bool.false_eq_true, if_false]
  | cleared => rfl

theorem Coherent.perform_roster (h : index.Coherent) (now : Nat) (operation : Operation R) :
    index.roster.perform (kind R) now operation =
      (operation.outcome now index, (operation.run now index).roster) :=
  h.perform_of_effect (operation.effect h)

/-- The roster goes along with any operations. -/
theorem Coherent.performAll_roster (h : index.Coherent) (operations : List (Nat × Operation R)) :
    index.roster.performAll (kind R) operations =
      (index.outcomes operations, (index.after operations).roster) := by
  induction operations generalizing index with
  | nil => rfl
  | cons o rest ih =>
    rw [Roster.performAll, h.perform_roster]
    dsimp only
    rw [ih (h.step (o.2.run_step o.1 h))]
    rfl

/-! ### What operations keep -/

/-- How an operation treats what is stored and where. -/
structure Orderly (now : Nat) (operation : Operation R) (index : Index R) : Prop where
  /-- An operation that is refused changes nothing that is stored, and no place. -/
  refused : (operation.outcome now index).isFailure →
    (operation.run now index).entries = index.entries ∧
      (operation.run now index).order = index.order
  /-- What stays stored keeps its place, and what is added comes last. -/
  order_eq : (operation.run now index).order.toList =
    index.order.toList.filter (operation.run now index).contains ++
      if (operation.outcome now index).isAddition then operation.target?.toList else []

omit [LawfulResource R] in
theorem Operation.Effect.eq_of_isFailure {operation : Operation R} {outcome : Outcome R}
    {next : Index R} (heffect : operation.Effect now index outcome next)
    (hfailure : outcome.isFailure) : next.entries = index.entries ∧ next.order = index.order := by
  cases heffect with
  | refused | missed | absent => exact ⟨rfl, rfl⟩
  | added | updated | deleted | mergedNew | mergedSame | mergedChange | cleared =>
    exact absurd hfailure Bool.false_ne_true

omit [LawfulResource R] in
/-- Whether an id stays listed tells whether its resource stays stored. -/
theorem Operation.Effect.order_eq {operation : Operation R} {outcome : Outcome R} {next : Index R}
    (heffect : operation.Effect now index outcome next) (hnext : next.Coherent) :
    next.order.toList = index.order.toList.filter next.contains ++
      if outcome.isAddition then operation.target?.toList else [] := by
  have hcontains (i : String) : next.contains i = true ↔ i ∈ next.order.toList := by
    rw [contains_eq_isSome_get?, hnext.mem_order_iff]
  -- nothing is removed if the old ids are listed first
  have hfirst {more : List String} (heq : next.order.toList = index.order.toList ++ more) :
      next.order.toList = index.order.toList.filter next.contains ++ more := by
    rw [List.filter_eq_self.mpr fun i hi => (hcontains i).mpr (heq ▸ List.mem_append_left _ hi),
      heq]
  cases heffect with
  | added | mergedNew => exact hfirst Array.toList_push
  | refused | updated | missed | absent | mergedSame | mergedChange =>
    exact hfirst (List.append_nil _).symm
  | deleted stored old =>
    have horder : (index.erase (Resource.id stored)).order.toList =
        index.order.toList.filter (· ≠ Resource.id stored) := Array.toList_filter
    refine horder.trans ((List.filter_congr fun i hi => ?_).trans (List.append_nil _).symm)
    rw [Bool.eq_iff_iff, hcontains, horder, List.mem_filter]
    exact (and_iff_right hi).symm
  | cleared =>
    refine ((List.append_nil _).trans (List.filter_eq_nil_iff.mpr fun i _ => ?_)).symm
    rw [hcontains]
    exact List.not_mem_nil

theorem Coherent.orderly (h : index.Coherent) (now : Nat) (operation : Operation R) :
    index.Orderly now operation where
  refused := (operation.effect h).eq_of_isFailure
  order_eq := (operation.effect h).order_eq (h.step (operation.run_step now h))

/-! ### Agreement -/

/-- An index whose two parts say the same. -/
structure Keyed (index : Index R) : Prop where
  /-- No id is listed twice. -/
  nodup : index.order.toList.Nodup
  /-- The listed ids are those that resources are stored under. -/
  mem_order_iff (i : String) : i ∈ index.order.toList ↔ i ∈ index.entries
  /-- Each resource is stored under its id. -/
  id_eq {i : String} {r : R} : index.entries[i]? = some r → Resource.id r = i

omit [LawfulResource R] in
theorem Coherent.keyed (h : index.Coherent) : index.Keyed where
  nodup := h.nodup
  mem_order_iff i := by
    rw [h.mem_order_iff, get?, Std.TreeMap.isSome_getElem?_iff_mem]
  id_eq hr := (h.filed hr).id_eq

/-- The index shows every reader what is on the roster of a kind. -/
structure Shows (kind : Kind) (roster : Roster R) (index : Index R) : Prop where
  /-- All resources, in order. -/
  toList_eq : index.toList = roster.resources
  /-- The resources that fulfil a condition, in order. -/
  filter_eq (keep : R → Bool) : index.filter keep = roster.resources.filter keep
  /-- The resource with an id, or the error that there is none. -/
  find_eq (i : String) : index.find i = roster.find kind i
  /-- Whether there is a resource with an id. -/
  contains_eq (i : String) : index.contains i = (roster.get? i).isSome
  /-- How many resources there are. -/
  size_eq : index.size = roster.resources.length

omit [LawfulResource R] in
theorem Coherent.shows (h : index.Coherent) : index.Shows (kind R) index.roster where
  toList_eq := rfl
  filter_eq _ := rfl
  find_eq i := by
    cases hget : index.get? i <;> rw [find, Roster.find, h.get?_roster, hget]
  contains_eq i := by rw [contains_eq_isSome_get?, h.get?_roster]
  size_eq := h.size_eq

/-- **An index agrees with its roster.** For resources of any kind, after any operations whenever
they happen: the index lists each id once and keeps the resources under their ids; its operations
told their callers what those on the roster tell; it shows every reader what is on the roster; and
whatever operation comes next, a refusal changes nothing that is stored, and what stays stored keeps
its place, in front of what is added. -/
theorem agrees_with_roster (kind : Kind) (operations : List (Nat × Operation kind.Record)) :
    let index := Index.empty.after operations
    let played := Roster.empty.performAll kind operations
    index.Keyed ∧ Index.empty.outcomes operations = played.1 ∧ index.Shows kind played.2 ∧
      ∀ now operation, index.Orderly now operation := by
  intro index played
  have h : index.Coherent := coherent_after operations
  have hplayed : Roster.empty.performAll (Resource.kind kind.Record) operations =
      (Index.empty.outcomes operations, index.roster) :=
    Coherent.empty.performAll_roster operations
  have hshows : index.Shows (Resource.kind kind.Record) index.roster := h.shows
  rw [kind.kind_record] at hplayed hshows
  have hroster : played.2 = index.roster := congrArg Prod.snd hplayed
  exact ⟨h.keyed, (congrArg Prod.fst hplayed).symm, hroster ▸ hshows, h.orderly⟩

/-- What is merged keeps its place, and what is removed and added again comes last. -/
example : (Index.empty.after [(0, .add (Block.sample 1)), (0, .add (Block.sample 2)),
    (0, .merge { Block.sample 1 with timestamp := 7 }), (0, .delete (Block.sampleId 1)),
    (0, .merge { Block.sample 2 with timestamp := 8 }), (0, .add (Block.sample 1))]).toList.map
      (·.height) = [2, 1] := by
  decide +kernel

end Index

end ChainFeed
