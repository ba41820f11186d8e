import ChainFeed.Proofs.Ingest.Turns

/-!
# Moments of a tick

A reader may look at the store at any **moment** of a tick, that is, after any number of its writes
(`Scene.storeAt`). So what holds at every moment is a matter of single writes: each of them is made
by a **rule** that says what may be written to the store as it is then (`Store.Obeys`).

`Progress.Obeys` says that much of two moments of a tick: the later one comes after the earlier one
by writes that obey the rule. Like `Progress.Follows`, it is put together from steps, one after the
other; and a property of stores that writes by the rule keep holds at every moment in between
(`Store.Obeys.keeps`).
-/

namespace ChainFeed

open Ingest

/-! ### Rules -/

/-- Each of some writes obeys a rule in the store that it is made in. -/
def Store.Obeys (rule : Store → Write → Prop) (wall : Nat → Nat) (first : Nat) (store : Store) :
    List Write → Prop
  | [] => True
  | write :: writes =>
    rule store write ∧ Obeys rule wall (first + 1) (store.write (wall first) write) writes

namespace Store

variable {rule other : Store → Write → Prop} {wall : Nat → Nat} {first : Nat} {store : Store}

theorem obeys_append {writes more : List Write} :
    store.Obeys rule wall first (writes ++ more) ↔
      store.Obeys rule wall first writes ∧
        (store.replay wall first writes).Obeys rule wall (first + writes.length) more := by
  induction writes generalizing first store with
  | nil => exact ⟨fun h => ⟨trivial, h⟩, And.right⟩
  | cons write writes ih =>
    rw [List.cons_append, Obeys, ih, Obeys, replay, List.length_cons, and_assoc, Nat.add_assoc,
      Nat.add_comm 1]

/-- What may be written to any store obeys the rule. -/
theorem obeys_of_forall {writes : List Write} (h : ∀ w ∈ writes, ∀ store, rule store w) :
    store.Obeys rule wall first writes := by
  induction writes generalizing first store with
  | nil => trivial
  | cons write writes ih =>
    rw [List.forall_mem_cons] at h
    exact ⟨h.1 store, ih h.2⟩

namespace Obeys

theorem take {writes : List Write} (h : store.Obeys rule wall first writes) (n : Nat) :
    store.Obeys rule wall first (writes.take n) := by
  rw [← List.take_append_drop n writes, obeys_append] at h
  exact h.1

/-- **What every write by the rule keeps, any writes by the rule keep.** -/
theorem keeps {P : Store → Prop}
    (hwrite : ∀ store w now, P store → rule store w → P (store.write now w)) {writes : List Write}
    (h : store.Obeys rule wall first writes) (hstore : P store) :
    P (store.replay wall first writes) := by
  induction writes generalizing first store with
  | nil => exact hstore
  | cons write writes ih => exact ih h.2 (hwrite store write _ hstore h.1)

end Obeys

end Store

/-! ### Moments between two progresses -/

namespace Ingest.Progress

/-- The later progress comes after the earlier one by writes that obey a rule. -/
def Obeys (rule : Store → Write → Prop) (moment : Moment) (earlier later : Progress) : Prop :=
  ∃ writes, Wrote moment writes earlier later ∧
    earlier.store.Obeys rule moment.wall earlier.journal.size writes

variable {rule : Store → Write → Prop} {moment : Moment} {kinds : List Kind} {p q r : Progress}

theorem Wrote.size_eq {writes : List Write} (h : Wrote moment writes p q) :
    q.journal.size = p.journal.size + writes.length := by
  rw [← Array.length_toList, h.journal, List.length_append, Array.length_toList]

/-- The journal tells which writes were made. -/
theorem Wrote.unique {writes more : List Write} (h : Wrote moment writes p q)
    (hmore : Wrote moment more p q) : writes = more :=
  List.append_cancel_left (h.journal.symm.trans hmore.journal)

namespace Obeys

/-- Nothing is written. -/
theorem of_eq (hstore : q.store = p.store) (hjournal : q.journal = p.journal) :
    Obeys rule moment p q :=
  ⟨[], .nil hstore hjournal, trivial⟩

theorem refl (p : Progress) : Obeys rule moment p p := of_eq rfl rfl

theorem skip (flaw : Flaw) (p : Progress) : Obeys rule moment p (p.skip flaw) := of_eq rfl rfl

theorem fail (stage : Stage) (target : String) (cause : Cause) (p : Progress) :
    Obeys rule moment p (p.fail stage target cause) :=
  of_eq rfl rfl

theorem remember (change : State → State) (p : Progress) :
    Obeys rule moment p (p.remember change) :=
  of_eq rfl rfl

theorem write {w : Write} (h : rule p.store w) : Obeys rule moment p (p.write moment w) :=
  ⟨[w], .write w, h, trivial⟩

theorem trans (hpq : Obeys rule moment p q) (hqr : Obeys rule moment q r) :
    Obeys rule moment p r := by
  obtain ⟨writes, hw, hobeys⟩ := hpq
  obtain ⟨more, hm, hmore⟩ := hqr
  refine ⟨writes ++ more, hw.trans hm, Store.obeys_append.mpr ⟨hobeys, ?_⟩⟩
  rw [← hw.size_eq, ← hw.store]
  exact hmore

theorem foldl {α : Type} {step : Progress → α → Progress} (items : List α)
    (h : ∀ p, ∀ item ∈ items, Obeys rule moment p (step p item)) (p : Progress) :
    Obeys rule moment p (items.foldl step p) := by
  induction items generalizing p with
  | nil => exact refl p
  | cons item items ih =>
    have htail := ih fun p other hmem => h p other (List.mem_cons_of_mem _ hmem)
    exact (h p item List.mem_cons_self).trans (htail _)

/-- Writes obey a rule that allows them in any store. -/
theorem of_wrote {writes : List Write} (h : Wrote moment writes p q)
    (hrule : ∀ w ∈ writes, ∀ store, rule store w) : Obeys rule moment p q :=
  ⟨writes, h, Store.obeys_of_forall hrule⟩

/-- Writes of some kinds obey a rule that all writes of these kinds obey. -/
theorem of_follows (h : Follows moment kinds p q)
    (hrule : ∀ w : Write, w.kind ∈ kinds → ∀ store, rule store w) : Obeys rule moment p q := by
  obtain ⟨writes, hw, hkinds⟩ := h.wrote
  exact of_wrote hw fun w hmem => hrule w (hkinds w hmem)

end Obeys

end Ingest.Progress

/-! ### What a reader sees -/

namespace Scene

open Progress

variable {σ : Type} (settings : Settings) (follower : Follower) (scene : Scene σ)

/-- The store after the first `n` writes of the tick. -/
def storeAt (n : Nat) : Store :=
  follower.store.replay scene.moment.wall 0
    ((scene.progress settings follower).journal.toList.take n)

variable {settings follower scene}

/-- When all writes are made, the store is the one that the tick leaves. -/
theorem storeAt_of_le {n : Nat} (h : (scene.progress settings follower).journal.size ≤ n) :
    scene.storeAt settings follower n = (scene.next settings follower).store := by
  rw [storeAt, List.take_of_length_le (Array.length_toList.trans_le h), store_next]

/-- The store at a moment, seen from an earlier progress of the tick. -/
theorem storeAt_add {writes more : List Write} {p : Progress}
    (hbefore : Wrote scene.moment writes (Progress.start follower.store follower.state) p)
    (hbehind : Wrote scene.moment more p (scene.progress settings follower)) (n : Nat) :
    scene.storeAt settings follower (p.journal.size + n) =
      p.store.replay scene.moment.wall p.journal.size (more.take n) := by
  have hsize : p.journal.size = writes.length := hbefore.size_eq.trans (Nat.zero_add _)
  have hjournal : (scene.progress settings follower).journal.toList = writes ++ more :=
    (hbefore.trans hbehind).journal_of_start
  rw [storeAt, hjournal, hsize, List.take_length_add_append, Store.replay_append, Nat.zero_add,
    hbefore.store]
  rfl

/-- **What writes by a rule keep holds at every moment**, if the tick obeys the rule. -/
theorem keeps_storeAt {rule : Store → Write → Prop} {P : Store → Prop}
    (hwrite : ∀ store w now, P store → rule store w → P (store.write now w))
    (h : Progress.Obeys rule scene.moment (Progress.start follower.store follower.state)
      (scene.progress settings follower)) {n m : Nat} (hle : n ≤ m)
    (hn : P (scene.storeAt settings follower n)) : P (scene.storeAt settings follower m) := by
  obtain ⟨writes, hw, hobeys⟩ := h
  have hjournal : (scene.progress settings follower).journal.toList = writes :=
    hw.journal_of_start
  obtain ⟨k, rfl⟩ := Nat.exists_eq_add_of_le hle
  -- the moments are those of the same writes, the first of which are made already
  rw [storeAt, hjournal] at hn ⊢
  rw [List.take_add, Store.replay_append]
  have hall := hobeys.take (n + k)
  rw [List.take_add, Store.obeys_append] at hall
  exact hall.2.keeps hwrite hn

/-- **What no write takes away stays** from any moment of a tick on. -/
theorem stays_storeAt {P : Store → Prop} (hwrite : ∀ store w now, P store → P (store.write now w))
    {n m : Nat} (hle : n ≤ m) (hn : P (scene.storeAt settings follower n)) :
    P (scene.storeAt settings follower m) := by
  have hobeys : Progress.Obeys (fun _ _ => True) scene.moment
      (Progress.start follower.store follower.state) (scene.progress settings follower) :=
    .of_wrote (wrote settings follower scene) fun _ _ _ => trivial
  exact keeps_storeAt (fun store w now h _ => hwrite store w now h) hobeys hle hn

end Scene

end ChainFeed
