import ChainFeed.Proofs.Index.Operation

/-!
# Stamps increase

An index gives out stamps one after the other (`Index.issued`), also in vain, and each is greater
than all before it. So the stamps tell in which order things happened, whatever the wall clock
showed and whatever was removed in between (`stamps_increase`): a write stamps its resource with a
stamp that is greater than every earlier one; no two stored resources changed at the same stamp;
and a resource carries the stamp of the operation that added it as long as it is stored
(`Index.Origin`).
-/

namespace ChainFeed

namespace Index

open Resource

variable {R : Type} [Resource R] {now : Nat} {index a b : Index R}

/-! ### The stamps of an index -/

/-- The stamps that some operations take, in the order of time. -/
def issued (index : Index R) : List (Nat × Operation R) → List Nat
  | [] => []
  | o :: rest =>
    let next := o.2.run o.1 index
    if next.clock = index.clock then next.issued rest else next.clock.last :: next.issued rest

theorem issued_append (operations more : List (Nat × Operation R)) :
    index.issued (operations ++ more) =
      index.issued operations ++ (index.after operations).issued more := by
  induction operations generalizing index with
  | nil => rfl
  | cons o rest ih =>
    rw [List.cons_append, issued, issued, ih, after_cons]
    split <;> rfl

/-- A step leaves the clock alone or takes its next stamp. -/
theorem Step.clock_cases (step : Step now a b) :
    b.clock = a.clock ∨ b.clock = a.clock.tick now := by
  cases step with
  | idle | erase | clear => exact .inl rfl
  | miss | append | replace => exact .inr rfl

/-- A step that takes a stamp takes one beyond the last. -/
theorem Step.last_lt (step : Step now a b) (hne : b.clock ≠ a.clock) :
    a.clock.last < b.clock.last := by
  rw [step.clock_cases.resolve_left hne]
  exact a.clock.last_lt_stamp now

/-- A stamp that an operation takes is issued. -/
theorem issued_concat (index : Index R) (operations : List (Nat × Operation R))
    (o : Nat × Operation R)
    (h : (o.2.run o.1 (index.after operations)).clock = (index.after operations).clock.tick o.1) :
    index.issued (operations ++ [o]) =
      index.issued operations ++ [(index.after operations).clock.stamp o.1] := by
  have hlt := (index.after operations).clock.last_lt_stamp o.1
  have hne : (index.after operations).clock.tick o.1 ≠ (index.after operations).clock :=
    fun heq => hlt.ne (congrArg ChangeClock.last heq).symm
  rw [issued_append, issued, h, if_neg hne]
  rfl

/-- The last stamp of an index is the one that was taken last. -/
theorem last_after (index : Index R) (operations : List (Nat × Operation R)) :
    (index.after operations).clock.last =
      (index.issued operations).getLast?.getD index.clock.last := by
  induction operations generalizing index with
  | nil => rfl
  | cons o rest ih =>
    rw [after_cons, ih, issued]
    split
    · rename_i heq
      rw [heq]
    · rw [List.getLast?_cons, Option.getD_some]

variable [LawfulResource R]

theorem Coherent.last_le_after (h : index.Coherent) (operations : List (Nat × Operation R)) :
    index.clock.last ≤ (index.after operations).clock.last := by
  induction operations generalizing index with
  | nil => exact Nat.le_refl _
  | cons o rest ih =>
    have step := o.2.run_step o.1 h
    exact step.last_le.trans (ih (h.step step))

/-- The stamps that operations take are beyond the last stamp before, up to the last one after. -/
theorem Coherent.mem_issued (h : index.Coherent) {operations : List (Nat × Operation R)} {t : Nat}
    (ht : t ∈ index.issued operations) :
    index.clock.last < t ∧ t ≤ (index.after operations).clock.last := by
  induction operations generalizing index with
  | nil => cases ht
  | cons o rest ih =>
    have step := o.2.run_step o.1 h
    rw [issued] at ht
    split at ht
    · obtain ⟨hlt, hle⟩ := ih (h.step step) ht
      exact ⟨step.last_le.trans_lt hlt, hle⟩
    · rename_i hne
      have hlast := step.last_lt hne
      rcases List.mem_cons.mp ht with rfl | ht
      · exact ⟨hlast, (h.step step).last_le_after rest⟩
      · obtain ⟨hlt, hle⟩ := ih (h.step step) ht
        exact ⟨hlast.trans hlt, hle⟩

/-- Each stamp is greater than all before it. -/
theorem Coherent.pairwise_issued (h : index.Coherent) (operations : List (Nat × Operation R)) :
    (index.issued operations).Pairwise (· < ·) := by
  induction operations generalizing index with
  | nil => exact List.Pairwise.nil
  | cons o rest ih =>
    have hnext := h.step (o.2.run_step o.1 h)
    rw [issued]
    split
    · exact ih hnext
    · exact List.pairwise_cons.mpr ⟨fun t ht => (hnext.mem_issued ht).1, ih hnext⟩

/-! ### How a write stamps -/

/-- How a write stamps a resource while the wall clock shows `now`, behind the stamps `earlier`. -/
structure Stamped (now : Nat) (earlier : List Nat) (added : Bool) (r : R) : Prop where
  /-- No stamp is zero. -/
  pos : 1 ≤ (stamps r).updatedAt
  /-- No stamp is behind the wall clock. -/
  now_le : now ≤ (stamps r).updatedAt
  /-- The stamp is greater than all before it. -/
  lt : ∀ t ∈ earlier, t < (stamps r).updatedAt
  /-- A resource that was just added changed last when it was added. -/
  createdAt_eq : added → (stamps r).createdAt = (stamps r).updatedAt

/-- A write that stamps a resource takes the next stamp of the index for it. -/
theorem Operation.Effect.exists_stamped (h : index.Coherent) {operation : Operation R}
    {outcome : Outcome R} {next : Index R} (heffect : operation.Effect now index outcome next)
    (hstamped : outcome.isStamped) :
    ∃ i r, operation.target? = some i ∧ next.get? i = some r ∧
      next.clock = index.clock.tick now ∧ (stamps r).updatedAt = index.clock.stamp now ∧
      (outcome.isAddition → (stamps r).createdAt = index.clock.stamp now) := by
  have hchange (r : R) : (stamps (index.stampChange now r)).updatedAt = index.clock.stamp now := by
    rw [stampChange, LawfulResource.stamps_withStamps]
  cases heffect with
  | added r new | mergedNew r new =>
    refine ⟨_, _, rfl, get?_append_self _ _ _, rfl, ?_, fun _ => ?_⟩
    · rw [LawfulResource.stamps_withStamps]
      rfl
    · rw [LawfulResource.stamps_withStamps]
      rfl
  | updated stored patch old =>
    have hid : Resource.id (apply patch stored) = Resource.id stored :=
      LawfulResource.id_apply _ _
    exact ⟨_, _, rfl, hid ▸ get?_replace_self _ _ _, rfl, hchange _,
      fun h => absurd h Bool.false_ne_true⟩
  | mergedChange r stored old change =>
    exact ⟨_, _, rfl, h.id_merge_eq old ▸ get?_replace_self _ _ _, rfl, hchange _,
      fun h => absurd h Bool.false_ne_true⟩
  | refused | missed | deleted | absent | mergedSame | cleared =>
    exact absurd hstamped Bool.false_ne_true

/-- A resource is there for the first time only if the operation added it. -/
theorem Operation.Effect.isAddition_of_none (h : index.Coherent) {operation : Operation R}
    {outcome : Outcome R} {next : Index R} (heffect : operation.Effect now index outcome next)
    {i : String} {r : R} (hbefore : index.get? i = none) (hafter : next.get? i = some r) :
    outcome.isAddition ∧ operation.target? = some i := by
  have happend (s : R) (hafter : (index.append now s).get? i = some r) : Resource.id s = i := by
    by_contra hi
    rw [get?_append, if_neg hi, hbefore] at hafter
    cases hafter
  -- what takes the place of a stored resource is not there for the first time
  have hreplace {s stored : R} (old : index.get? (Resource.id s) = some stored)
      (hafter : (index.replace now s).get? i = some r) : False := by
    rw [get?_replace] at hafter
    split at hafter
    · rename_i hi
      rw [hi, hbefore] at old
      cases old
    · rw [hbefore] at hafter
      cases hafter
  cases heffect with
  | added s new | mergedNew s new => exact ⟨rfl, congrArg some (happend s hafter)⟩
  | updated stored patch old =>
    have hid : Resource.id (apply patch stored) = Resource.id stored :=
      LawfulResource.id_apply _ _
    exact (hreplace (hid ▸ old) hafter).elim
  | mergedChange s stored old change =>
    exact (hreplace (h.id_merge_eq old ▸ old) hafter).elim
  | refused | missed | absent | mergedSame =>
    have hnone : (none : Option R) = some r := hbefore.symm.trans hafter
    cases hnone
  | deleted stored old =>
    rw [get?_erase, hbefore, ite_self] at hafter
    cases hafter
  | cleared =>
    rw [get?_clear] at hafter
    cases hafter

/-! ### What steps keep -/

/-- A resource carries the stamp of its addition through every step that leaves it stored. -/
theorem Step.createdAt_eq (step : Step now a b) {i : String} {r s : R} (hr : a.get? i = some r)
    (hs : b.get? i = some s) : (stamps s).createdAt = (stamps r).createdAt := by
  have hsame (heq : b.get? i = a.get? i) : (stamps s).createdAt = (stamps r).createdAt := by
    rw [heq, hr] at hs
    rw [Option.some.inj hs]
  cases step with
  | idle => exact hsame rfl
  | miss => exact hsame rfl
  | append t new =>
    refine hsame ?_
    rw [get?_append, if_neg]
    rintro rfl
    rw [hr] at new
    cases new
  | replace t stored old same =>
    rw [get?_replace] at hs
    split at hs
    · rename_i hi
      obtain rfl := Option.some.inj hs
      obtain rfl : stored = r := Option.some.inj ((hi ▸ old).symm.trans hr)
      rw [stampChange, LawfulResource.stamps_withStamps, same]
    · rw [hr] at hs
      rw [Option.some.inj hs]
  | erase target =>
    rw [get?_erase] at hs
    split at hs
    · cases hs
    · rw [hr] at hs
      rw [Option.some.inj hs]
  | clear =>
    rw [get?_clear] at hs
    cases hs

omit [LawfulResource R] in
/-- A step changes at most one resource that stays stored. -/
theorem Step.exists_target (step : Step now a b) :
    ∃ target, ∀ i r, i ≠ target → b.get? i = some r → a.get? i = some r := by
  cases step with
  | idle => exact ⟨"", fun _ _ _ h => h⟩
  | miss => exact ⟨"", fun _ _ _ h => h⟩
  | append s new =>
    refine ⟨Resource.id s, fun i r hi h => ?_⟩
    rwa [get?_append, if_neg hi.symm] at h
  | replace s stored old same =>
    refine ⟨Resource.id s, fun i r hi h => ?_⟩
    rwa [get?_replace, if_neg hi.symm] at h
  | erase target =>
    refine ⟨target, fun i r hi h => ?_⟩
    rwa [get?_erase, if_neg hi.symm] at h
  | clear =>
    refine ⟨"", fun i r _ h => ?_⟩
    rw [get?_clear] at h
    cases h

/-- No two stored resources changed last at the same stamp. -/
def Apart (index : Index R) : Prop :=
  ∀ i j r s, index.get? i = some r → index.get? j = some s → changedAt r = changedAt s → i = j

theorem Apart.step (hapart : a.Apart) (h : a.Coherent) (step : Step now a b) : b.Apart := by
  obtain ⟨target, htarget⟩ := step.exists_target
  -- the one resource that changed did so after all others
  have hlt {i j : String} {r s : R} (hi : b.get? i = some r) (hj : b.get? j = some s)
      (hne : j ≠ target) (hold : a.get? i ≠ some r) : changedAt s < changedAt r := by
    obtain ⟨hfiled, hupdated, hlast⟩ := (h.get?_step step hi).resolve_left hold
    rw [hfiled.changedAt_eq, hupdated]
    exact (h.changedAt_le (htarget j s hne hj)).trans_lt hlast
  intro i j r s hi hj heq
  by_contra hij
  by_cases hr : a.get? i = some r
  · by_cases hs : a.get? j = some s
    · exact hij (hapart i j r s hr hs heq)
    · have hit : i ≠ target := by
        rintro rfl
        exact hs (htarget j s (Ne.symm hij) hj)
      exact (hlt hj hi hit hs).ne heq
  · have hjt : j ≠ target := by
      rintro rfl
      exact hr (htarget i r hij hi)
    exact (hlt hi hj hjt hr).ne heq.symm

theorem apart_after (operations : List (Nat × Operation R)) :
    (Index.empty.after operations).Apart := by
  induction operations using List.reverseRecOn with
  | nil =>
    intro i j r s hi
    rw [after_nil, get?_empty] at hi
    cases hi
  | append_singleton operations o ih =>
    have h := coherent_after operations
    rw [after_append]
    exact ih.step h (o.2.run_step o.1 h)

omit [LawfulResource R] in
/-- The listed resources changed last at different stamps. -/
theorem Apart.nodup_changedAt (hapart : index.Apart) (h : index.Coherent) :
    (index.toList.map changedAt).Nodup := by
  have hnodup : index.toList.Nodup := List.Nodup.of_map Resource.id (h.map_id_toList ▸ h.nodup)
  refine hnodup.map_on fun r hr s hs heq => ?_
  have hr := h.mem_toList_iff.mp hr
  have hs := h.mem_toList_iff.mp hs
  have hid : Resource.id r = Resource.id s := hapart _ _ r s hr hs heq
  exact Option.some.inj (hr.symm.trans (hid ▸ hs))

/-- What is stored under an id later did not change before what is stored under it now. -/
theorem Coherent.updatedAt_le (h : index.Coherent) {i : String} {r : R}
    (hr : index.get? i = some r) (operations : List (Nat × Operation R)) {s : R}
    (hs : (index.after operations).get? i = some s) :
    (stamps r).updatedAt ≤ (stamps s).updatedAt := by
  induction operations using List.reverseRecOn generalizing s with
  | nil =>
    obtain rfl := Option.some.inj (hr.symm.trans hs)
    exact Nat.le_refl _
  | append_singleton operations o ih =>
    have hafter := h.after operations
    rw [after_append] at hs
    rcases hafter.get?_step (o.2.run_step o.1 hafter) hs with hs | ⟨-, hupdated, hlast⟩
    · exact ih hs
    · rw [hupdated]
      exact (h.filed hr).updated_le.trans ((h.last_le_after operations).trans hlast.le)

/-! ### Where a resource comes from -/

/-- The operation `o` behind the operations `before` added the resource with an id, with a stamp
that it carries ever since. -/
structure Origin (i : String) (stamp : Nat) (before : List (Nat × Operation R))
    (o : Nat × Operation R) (rest : List (Nat × Operation R)) : Prop where
  /-- The id was not stored before. -/
  new : (Index.empty.after before).get? i = none
  /-- The operation added a resource. -/
  addition : (o.2.outcome o.1 (Index.empty.after before)).isAddition
  /-- The operation concerned the id. -/
  target : o.2.target? = some i
  /-- The stamp is the one that the operation took. -/
  stamp_eq : Index.empty.issued (before ++ [o]) = Index.empty.issued before ++ [stamp]
  /-- Since then the resource is stored, and carries the stamp. -/
  kept (between : List (Nat × Operation R)) : between <+: rest →
    ∃ r, (Index.empty.after (before ++ o :: between)).get? i = some r ∧
      (stamps r).createdAt = stamp

/-- **Every stored resource was added by an operation and carries its stamp ever since.** -/
theorem exists_origin (operations : List (Nat × Operation R)) {i : String} {r : R}
    (hr : (Index.empty.after operations).get? i = some r) :
    ∃ before o rest, operations = before ++ o :: rest ∧
      Origin i (stamps r).createdAt before o rest := by
  induction operations using List.reverseRecOn generalizing r with
  | nil =>
    rw [after_nil, get?_empty] at hr
    cases hr
  | append_singleton operations o ih =>
    have h := coherent_after operations
    have heffect : o.2.Effect o.1 _ _ _ := o.2.effect h
    rw [after_append] at hr
    cases hbefore : (Index.empty.after operations).get? i with
    | none =>
      -- the last operation added the resource
      obtain ⟨haddition, htarget⟩ := heffect.isAddition_of_none h hbefore hr
      refine ⟨operations, o, [], rfl, hbefore, haddition, htarget, ?_, fun between hprefix => ?_⟩
      · have hstamped := Outcome.isStamped_of_isAddition haddition
        obtain ⟨j, s, hj, hs, hclock, -, hcreated⟩ := heffect.exists_stamped h hstamped
        obtain rfl : j = i := Option.some.inj (hj.symm.trans htarget)
        obtain rfl : s = r := Option.some.inj (hs.symm.trans hr)
        rw [issued_concat _ _ _ hclock, hcreated haddition]
      · obtain rfl := List.prefix_nil.mp hprefix
        rw [after_append]
        exact ⟨r, hr, rfl⟩
    | some s =>
      -- the resource was there before, so it comes from where it came from then
      obtain ⟨before, first, rest, rfl, horigin⟩ := ih hbefore
      have hcreated : (stamps r).createdAt = (stamps s).createdAt :=
        (o.2.run_step o.1 h).createdAt_eq hbefore hr
      refine ⟨before, first, rest ++ [o], by simp, ?_⟩
      rw [hcreated]
      refine ⟨horigin.new, horigin.addition, horigin.target, horigin.stamp_eq, ?_⟩
      intro between hprefix
      rcases List.prefix_concat_iff.mp hprefix with rfl | hprefix
      · refine ⟨r, ?_, hcreated⟩
        rw [← List.cons_append, ← List.append_assoc, after_append]
        exact hr
      · exact horigin.kept between hprefix

/-- **Stamps increase.** For resources of any kind, after any operations, whatever the wall clock
showed: the stamps were given out in increasing order, the last one last; whatever write comes next
stamps its resource with a stamp beyond all of them; no two stored resources changed last at the
same stamp, none changed before it was added or after the last stamp, and each was added by an
operation whose stamp it carries ever since; and whatever operations follow, what they leave under
an id did not change before what is stored there now. -/
theorem stamps_increase (kind : Kind) (operations : List (Nat × Operation kind.Record)) :
    let index := Index.empty.after operations
    let earlier := Index.empty.issued operations
    earlier.Pairwise (· < ·) ∧ index.clock.last = earlier.getLast?.getD 0 ∧
    (∀ now operation, (operation.outcome now index).isStamped →
      ∃ i r, operation.target? = some i ∧ (operation.run now index).get? i = some r ∧
        Index.empty.issued (operations ++ [(now, operation)]) =
          earlier ++ [(stamps r).updatedAt] ∧
        Stamped now earlier (operation.outcome now index).isAddition r) ∧
    (index.toList.map changedAt).Nodup ∧
    (∀ r ∈ index.toList, (stamps r).createdAt ≤ (stamps r).updatedAt ∧
      (stamps r).updatedAt ≤ index.clock.last ∧
      ∃ before o rest, operations = before ++ o :: rest ∧
        Origin (Resource.id r) (stamps r).createdAt before o rest) ∧
    ∀ more i r s, index.get? i = some r → (index.after more).get? i = some s →
      (stamps r).updatedAt ≤ (stamps s).updatedAt := by
  intro index earlier
  have h : index.Coherent := coherent_after operations
  have hearlier : ∀ t ∈ earlier, t ≤ index.clock.last :=
    fun t ht => (Coherent.empty.mem_issued ht).2
  refine ⟨Coherent.empty.pairwise_issued operations, last_after _ operations, ?_,
    (apart_after operations).nodup_changedAt h, ?_, fun more i r s hr => h.updatedAt_le hr more⟩
  · intro now operation hstamped
    obtain ⟨i, r, htarget, hr, hclock, hupdated, hcreated⟩ :=
      (operation.effect h).exists_stamped h hstamped
    have hlt : index.clock.last < (stamps r).updatedAt :=
      hupdated ▸ index.clock.last_lt_stamp now
    refine ⟨i, r, htarget, hr, ?_, ?_⟩
    · rw [hupdated]
      exact issued_concat _ _ (now, operation) hclock
    · refine ⟨Nat.zero_lt_of_lt hlt, hupdated ▸ index.clock.le_stamp now, ?_, fun hadd => ?_⟩
      · exact fun t ht => (hearlier t ht).trans_lt hlt
      · rw [hcreated hadd, hupdated]
  · intro r hr
    have hr := h.mem_toList_iff.mp hr
    have hfiled := h.filed hr
    exact ⟨hfiled.created_le, hfiled.updated_le, exists_origin operations hr⟩

end Index

end ChainFeed
