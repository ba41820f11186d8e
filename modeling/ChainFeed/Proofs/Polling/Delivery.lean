import Mathlib.Data.List.Induction
import ChainFeed.Proofs.Polling.Session
import ChainFeed.Resource.Sample

/-!
# What polling delivers

Two clients are compared by what their sessions deliver.

* A client that **never steps back** takes the maximum of its bound and the latest stamp of each
  answer. Right after each of its polls it holds a copy of everything that the view shows, stamps
  included, and no change is delivered twice (`holds_view_and_nodup_delivered`).
* A client that **follows** each answer takes the latest stamp as it is, which is zero if the
  answer was empty. It receives a version again if and only if it polls from the bound zero while
  something that it received before is still stored as it was (`nodup_delivered_iff`); the
  smallest session in which that happens has one resource and three polls
  (`not_nodup_delivered_of_empty_answer`).

Both rest on one fact about the index: what changes behind a bound is stamped beyond every stamp
given out, so a resource whose last change is at most the bound is the one that was there when the
bound was set.
-/

namespace ChainFeed

namespace Polling

open Resource

variable {R : Type} [Resource R]

/-! ### Copies -/

private theorem getElem?_foldl_insert_of_notMem {data : List R} {i : String}
    (h : i ∉ data.map Resource.id) (copies : Std.TreeMap String R) :
    (data.foldl (fun copies r => copies.insert (Resource.id r) r) copies)[i]? = copies[i]? := by
  induction data generalizing copies with
  | nil => rfl
  | cons r data ih =>
    rw [List.map_cons, List.mem_cons, not_or] at h
    rw [List.foldl_cons, ih h.2, Std.TreeMap.getElem?_insert,
      if_neg fun hc => h.1 (Std.compare_eq_iff_eq.mp hc).symm]

private theorem getElem?_foldl_insert_of_mem {data : List R} {r : R}
    (hn : (data.map Resource.id).Nodup) (hr : r ∈ data) (copies : Std.TreeMap String R) :
    (data.foldl (fun copies r => copies.insert (Resource.id r) r) copies)[Resource.id r]? =
      some r := by
  induction data generalizing copies with
  | nil => cases hr
  | cons s data ih =>
    rw [List.map_cons, List.nodup_cons] at hn
    rw [List.foldl_cons]
    rcases List.mem_cons.mp hr with rfl | hr
    · rw [getElem?_foldl_insert_of_notMem hn.1, Std.TreeMap.getElem?_insert_self]
    · exact ih hn.2 hr _

namespace Session

variable {view : View R} {next : Nat → Nat → Nat} {session : Session R}

/-- What an answer holds is the client's copy from then on. -/
theorem copies_poll_of_lt (h : session.index.Coherent) {i : String} {r : R}
    (hr : session.index.get? i = some r) (hshow : view.shows r)
    (hlt : session.client.bound < changedAt r) :
    (session.poll view next).client.copies[i]? = some r := by
  obtain rfl := (h.filed hr).id_eq
  exact getElem?_foldl_insert_of_mem (View.nodup_map_id_ask h)
    ((View.mem_data_ask_iff h).mpr ⟨hr, hlt, hshow⟩) _

/-- Other copies stay as they are. -/
theorem copies_poll_of_le (h : session.index.Coherent) {i : String} {r : R}
    (hr : session.index.get? i = some r) (hle : changedAt r ≤ session.client.bound) :
    (session.poll view next).client.copies[i]? = session.client.copies[i]? := by
  refine getElem?_foldl_insert_of_notMem (fun hmem => ?_) _
  obtain ⟨s, hs, rfl⟩ := List.mem_map.mp hmem
  obtain ⟨hget, hlt, -⟩ := (View.mem_data_ask_iff h).mp hs
  obtain rfl := Option.some.inj (hget.symm.trans hr)
  exact absurd hlt (not_lt.mpr hle)

/-- No answer holds two versions of a resource. -/
theorem nodup_map_version_answer (h : session.index.Coherent) :
    (((session.answer view).data.map version).map lastChange).Nodup := by
  refine List.Nodup.of_map Prod.fst ?_
  rw [List.map_map, List.map_map]
  exact View.nodup_map_id_ask h

/-- Answers hold nothing that changed up to the bound. -/
theorem bound_lt_of_mem_answer (h : session.index.Coherent) {v : String × Stamps}
    (hv : v ∈ (session.answer view).data.map version) : session.client.bound < v.2.latest := by
  obtain ⟨r, hr, rfl⟩ := List.mem_map.mp hv
  exact ((View.mem_data_ask_iff h).mp hr).2.1

theorem le_latest_of_mem_answer {v : String × Stamps}
    (hv : v ∈ (session.answer view).data.map version) :
    v.2.latest ≤ (session.answer view).latest := by
  obtain ⟨r, hr, rfl⟩ := List.mem_map.mp hv
  rw [answer, View.latest_ask]
  exact changedAt_le_latestStamp hr

theorem latest_answer_le (h : session.index.Coherent) :
    (session.answer view).latest ≤ session.index.clock.last := by
  rw [answer, View.latest_ask, latestStamp_le_iff]
  intro r hr
  exact h.changedAt_le ((View.mem_data_ask_iff h).mp hr).1

/-! ### The client that never steps back -/

/-- A session whose client holds everything up to its bound and received it once. -/
structure UpToDate (view : View R) (session : Session R) : Prop where
  /-- The index is coherent. -/
  coherent : session.index.Coherent
  /-- The bound is no later than the last stamp. -/
  bound_le : session.client.bound ≤ session.index.clock.last
  /-- What the view shows and did not change after the bound is copied. -/
  copied {i : String} {r : R} : session.index.get? i = some r → view.shows r →
    changedAt r ≤ session.client.bound → session.client.copies[i]? = some r
  /-- Nothing was delivered that changed after the bound. -/
  delivered_le : ∀ v ∈ session.delivered, v.2.latest ≤ session.client.bound
  /-- No change was delivered twice. -/
  nodup : (session.delivered.map lastChange).Nodup

namespace UpToDate

theorem start (view : View R) : UpToDate view (Session.start (R := R)) where
  coherent := .empty
  bound_le := Nat.le_refl _
  copied h := by simp [Session.start] at h
  delivered_le _ hv := by cases hv
  nodup := List.nodup_nil

theorem write [LawfulResource R] (h : UpToDate view session) (now : Nat)
    (operation : Index.Operation R) :
    UpToDate view { session with index := operation.run now session.index } := by
  have step := operation.run_step now h.coherent
  refine ⟨h.coherent.step step, h.bound_le.trans step.last_le, ?_, h.delivered_le, h.nodup⟩
  intro i r hr hshow hle
  exact h.copied (h.coherent.get?_of_changedAt_le step hr (hle.trans h.bound_le)) hshow hle

/-- Behind a poll everything that the view shows is copied. -/
theorem copies_poll (h : UpToDate view session) {i : String} {r : R}
    (hr : session.index.get? i = some r) (hshow : view.shows r) :
    (session.poll view next).client.copies[i]? = some r := by
  rcases Nat.lt_or_ge session.client.bound (changedAt r) with hlt | hle
  · exact copies_poll_of_lt h.coherent hr hshow hlt
  · rw [copies_poll_of_le h.coherent hr hle]
    exact h.copied hr hshow hle

theorem poll (h : UpToDate view session) : UpToDate view (session.poll view max) where
  coherent := h.coherent
  bound_le := Nat.max_le.mpr ⟨h.bound_le, latest_answer_le h.coherent⟩
  copied hr hshow _ := h.copies_poll hr hshow
  delivered_le v hv := by
    rcases List.mem_append.mp hv with hv | hv
    · exact (h.delivered_le v hv).trans (Nat.le_max_left _ _)
    · exact (le_latest_of_mem_answer hv).trans (Nat.le_max_right _ _)
  nodup := by
    rw [Session.poll, List.map_append]
    refine List.nodup_append.mpr ⟨h.nodup, nodup_map_version_answer h.coherent, ?_⟩
    intro c hc d hd heq
    obtain ⟨v, hv, rfl⟩ := List.mem_map.mp hc
    obtain ⟨w, hw, rfl⟩ := List.mem_map.mp hd
    have hlatest : v.2.latest = w.2.latest := congrArg Prod.snd heq
    have hlt := bound_lt_of_mem_answer h.coherent hw
    exact absurd (hlatest ▸ hlt) (not_lt.mpr (h.delivered_le v hv))

end UpToDate

theorem upToDate_run [LawfulResource R] (view : View R) (turns : List (Turn R)) :
    UpToDate view (run view max turns) := by
  induction turns using List.reverseRecOn with
  | nil => exact .start view
  | append_singleton turns t ih =>
    rw [run_concat]
    cases t with
    | write now operation => exact ih.write now operation
    | poll => exact ih.poll

/-- **A client that never steps back misses nothing and receives nothing twice.** For resources of
any kind and any view of them, whatever was written between the polls and whatever the wall clock
showed: right after a poll the client's copy of each stored resource that the view shows is that
resource, stamps included, and no change is delivered twice, as the id of the resource and the stamp
of the change tell. -/
theorem holds_view_and_nodup_delivered (kind : Kind) (view : View kind.Record)
    (turns : List (Turn kind.Record)) :
    (∀ i r, (run view max (turns ++ [.poll])).index.get? i = some r → view.shows r →
      (run view max (turns ++ [.poll])).client.copies[i]? = some r) ∧
    ((run view max turns).delivered.map lastChange).Nodup := by
  have h := upToDate_run view turns
  refine ⟨fun i r hr hshow => ?_, h.nodup⟩
  rw [run_concat] at hr ⊢
  exact h.copies_poll hr hshow

/-! ### The client that follows each answer -/

/-- The bound of a client that follows each answer. -/
def follow (_bound latest : Nat) : Nat := latest

/-- The bound of such a client is zero exactly behind an empty answer. -/
theorem bound_poll_follow_eq_zero_iff (h : session.index.Coherent) :
    (session.poll view follow).client.bound = 0 ↔ (session.answer view).data = [] := by
  change (session.answer view).latest = 0 ↔ _
  rw [answer, View.latest_ask, ← Nat.le_zero, latestStamp_le_iff, List.eq_nil_iff_forall_not_mem]
  refine forall₂_congr fun r hr => iff_false_intro (not_le.mpr ?_)
  exact h.changedAt_pos ((View.mem_data_ask_iff h).mp hr).1

/-- Something that was delivered before is still stored as it was, and the view shows it. -/
def Repeats (view : View R) (session : Session R) : Prop :=
  ∃ i r, session.index.get? i = some r ∧ view.shows r ∧ version r ∈ session.delivered

/-- A session that delivered everything that the view shows up to some stamp. -/
structure Following (view : View R) (session : Session R) (reached : Nat) : Prop where
  /-- The index is coherent. -/
  coherent : session.index.Coherent
  /-- The stamp was given out. -/
  reached_le : reached ≤ session.index.clock.last
  /-- The bound is not beyond the stamp. -/
  bound_le : session.client.bound ≤ reached
  /-- Nothing was delivered that changed after the stamp. -/
  delivered_le : ∀ v ∈ session.delivered, v.2.latest ≤ reached
  /-- What the view shows and did not change after the stamp was delivered as it is. -/
  delivered {i : String} {r : R} : session.index.get? i = some r → view.shows r →
    changedAt r ≤ reached → version r ∈ session.delivered

namespace Following

variable {reached : Nat}

theorem start (view : View R) : Following view (Session.start (R := R)) 0 where
  coherent := .empty
  reached_le := Nat.le_refl _
  bound_le := Nat.le_refl _
  delivered_le _ hv := by cases hv
  delivered h := by simp [Session.start] at h

theorem write [LawfulResource R] (h : Following view session reached) (now : Nat)
    (operation : Index.Operation R) :
    Following view { session with index := operation.run now session.index } reached := by
  have step := operation.run_step now h.coherent
  refine ⟨h.coherent.step step, h.reached_le.trans step.last_le, h.bound_le, h.delivered_le, ?_⟩
  intro i r hr hshow hle
  exact h.delivered (h.coherent.get?_of_changedAt_le step hr (hle.trans h.reached_le)) hshow hle

theorem poll (h : Following view session reached) :
    Following view (session.poll view follow) (max reached (session.answer view).latest) where
  coherent := h.coherent
  reached_le := Nat.max_le.mpr ⟨h.reached_le, latest_answer_le h.coherent⟩
  bound_le := Nat.le_max_right _ _
  delivered_le v hv := by
    rcases List.mem_append.mp hv with hv | hv
    · exact (h.delivered_le v hv).trans (Nat.le_max_left _ _)
    · exact (le_latest_of_mem_answer hv).trans (Nat.le_max_right _ _)
  delivered {i r} hr hshow _ := by
    refine List.mem_append.mpr ?_
    rcases Nat.lt_or_ge reached (changedAt r) with hlt | hle
    · have hid := (h.coherent.filed hr).id_eq
      exact .inr (List.mem_map_of_mem ((View.mem_data_ask_iff h.coherent).mpr
        ⟨hid.symm ▸ hr, h.bound_le.trans_lt hlt, hshow⟩))
    · exact .inl (h.delivered hr hshow hle)

/-- From the bound zero an answer holds something again if and only if something repeats. -/
theorem repeats_iff (h : Following view session reached) (hzero : session.client.bound = 0) :
    Repeats view session ↔
      ∃ v ∈ session.delivered, v ∈ (session.answer view).data.map version := by
  constructor
  · rintro ⟨i, r, hr, hshow, hv⟩
    have hid := (h.coherent.filed hr).id_eq
    refine ⟨_, hv, List.mem_map_of_mem ((View.mem_data_ask_iff h.coherent).mpr
      ⟨hid.symm ▸ hr, ?_, hshow⟩)⟩
    rw [hzero]
    exact h.coherent.changedAt_pos hr
  · rintro ⟨v, hv, hmem⟩
    obtain ⟨r, hr, rfl⟩ := List.mem_map.mp hmem
    obtain ⟨hget, -, hshow⟩ := (View.mem_data_ask_iff h.coherent).mp hr
    exact ⟨_, r, hget, hshow, hv⟩

end Following

theorem following_run [LawfulResource R] (view : View R) (turns : List (Turn R)) :
    ∃ reached, Following view (run view follow turns) reached := by
  induction turns using List.reverseRecOn with
  | nil => exact ⟨0, .start view⟩
  | append_singleton turns t ih =>
    obtain ⟨reached, h⟩ := ih
    rw [run_concat]
    cases t with
    | write now operation => exact ⟨reached, h.write now operation⟩
    | poll => exact ⟨_, h.poll⟩

/-- A session that received nothing twice, and whose bound is either zero or behind which nothing
was delivered. -/
structure Once (session : Session R) : Prop where
  /-- Nothing was delivered twice. -/
  nodup : session.delivered.Nodup
  /-- The next answer holds something again only from the bound zero. -/
  bound : session.client.bound = 0 ∨ ∀ v ∈ session.delivered, v.2.latest ≤ session.client.bound

/-- A poll that repeats nothing delivers nothing twice. -/
theorem Once.poll {reached : Nat} (h : Following view session reached) (once : Once session)
    (hrepeats : session.client.bound = 0 → ¬ Repeats view session) :
    Once (session.poll view follow) := by
  have hnew : ∀ v ∈ session.delivered, v ∉ (session.answer view).data.map version := by
    intro v hv hmem
    rcases once.bound with hzero | hle
    · exact hrepeats hzero ((h.repeats_iff hzero).mpr ⟨v, hv, hmem⟩)
    · exact absurd (bound_lt_of_mem_answer h.coherent hmem) (not_lt.mpr (hle v hv))
  have hanswer : ((session.answer view).data.map version).Nodup :=
    (nodup_map_version_answer h.coherent).of_map _
  refine ⟨List.nodup_append.mpr ⟨once.nodup, hanswer, ?_⟩, ?_⟩
  · rintro v hv _ hw rfl
    exact hnew v hv hw
  · rcases hdata : (session.answer view).data with _ | ⟨r, data⟩
    · exact .inl ((bound_poll_follow_eq_zero_iff h.coherent).mpr hdata)
    · right
      have hr : r ∈ (session.answer view).data := hdata ▸ List.mem_cons_self
      have hv := List.mem_map_of_mem (f := version) hr
      obtain ⟨hget, -, hshow⟩ := (View.mem_data_ask_iff h.coherent).mp hr
      -- what the answer holds was not delivered, so it changed after all that was
      have hreached : reached < changedAt r := by
        by_contra hle
        exact hnew _ (h.delivered hget hshow (not_lt.mp hle)) hv
      intro v hv'
      rcases List.mem_append.mp hv' with hv' | hv'
      · exact (h.delivered_le v hv').trans (hreached.le.trans (le_latest_of_mem_answer hv))
      · exact le_latest_of_mem_answer hv'

theorem delivered_prefix_run (view : View R) (next : Nat → Nat → Nat)
    {before turns : List (Turn R)} (h : before <+: turns) :
    (run view next before).delivered <+: (run view next turns).delivered := by
  obtain ⟨after, rfl⟩ := h
  induction after using List.reverseRecOn with
  | nil => simp
  | append_singleton after t ih =>
    rw [← List.append_assoc, run_concat]
    refine ih.trans ?_
    cases t with
    | write now operation => exact List.prefix_rfl
    | poll => exact List.prefix_append _ _

/-- **What a client that follows each answer receives twice.** For resources of any kind and any
view of them: no version is delivered twice in a session if and only if, at every poll from the
bound zero (the first one, or one behind an empty answer), nothing that was delivered before is
still stored as it was. -/
theorem nodup_delivered_iff (kind : Kind) (view : View kind.Record)
    (turns : List (Turn kind.Record)) :
    (run view follow turns).delivered.Nodup ↔
      ∀ before, before ++ [.poll] <+: turns → (run view follow before).client.bound = 0 →
        ¬ Repeats view (run view follow before) := by
  constructor
  · -- a poll that repeats something delivers it twice, whatever follows
    rintro hnodup before hbefore hzero hrepeats
    obtain ⟨reached, h⟩ := following_run view before
    obtain ⟨v, hv, hmem⟩ := (h.repeats_iff hzero).mp hrepeats
    have hsub := hnodup.sublist (delivered_prefix_run view follow hbefore).sublist
    rw [run_concat] at hsub
    exact (List.nodup_append.mp hsub).2.2 v hv v hmem rfl
  · intro hall
    -- `Once` carries the induction: behind an answer with something in it, nothing can repeat
    suffices h : Once (run view follow turns) from h.nodup
    induction turns using List.reverseRecOn with
    | nil => exact ⟨List.nodup_nil, .inl rfl⟩
    | append_singleton turns t ih =>
      have once := ih fun before hbefore => hall before (hbefore.trans (List.prefix_append _ _))
      rw [run_concat]
      cases t with
      | write now operation => exact ⟨once.nodup, once.bound⟩
      | poll =>
        obtain ⟨reached, h⟩ := following_run view turns
        exact once.poll h (hall turns List.prefix_rfl)

/-- One block, and three polls of all blocks: the second answer is empty, so the third poll starts
from zero and delivers the block again. -/
theorem not_nodup_delivered_of_empty_answer :
    ¬ ∀ (kind : Kind) (view : View kind.Record) (turns : List (Turn kind.Record)),
      (run view follow turns).delivered.Nodup := by
  intro h
  have hnodup := h .block .whole
    [.write 1000 (.merge (Block.sample 1)), .poll, .poll, .poll]
  revert hnodup
  decide +kernel

end Session

end Polling

end ChainFeed
