import ChainFeed.Proofs.Ingest.Moments
import ChainFeed.Proofs.Ingest.References
import ChainFeed.Proofs.Ingest.Transcript

/-!
# Statuses never move backwards

The status of a transaction **leads to** another one (`TransactionStatus.LeadsTo`) if they are the
same or the other one is of a higher rank. Statuses are written when a block is merged and when a
gateway was asked for them. Either way the status that is stored at that very moment leads to the
one that is written (`Scene.advances_progress`). The merged one is chosen so. The answers are
compared with the statuses that were stored when the questions were asked; but no transaction is
asked about twice, so its status is still the same when its answer is taken
(`Progress.takeStatuses_advances`).

So the transactions of all stores that a reader sees, write by write and tick by tick
(`Follower.stores`), **advance** (`Index.Advances`). No status follows a final one, and no tick asks
for the status of a transaction that has one (`Follower.statuses_advance`).
-/

namespace ChainFeed

open Ingest

/-! ### Statuses -/

namespace TransactionStatus

/-- The status stays, or it gives way to one of a higher rank. -/
def LeadsTo (earlier later : TransactionStatus) : Prop :=
  later = earlier ∨ later.advancesOver earlier

variable {a b c : TransactionStatus}

theorem LeadsTo.refl (a : TransactionStatus) : a.LeadsTo a := .inl rfl

theorem LeadsTo.trans (hab : a.LeadsTo b) (hbc : b.LeadsTo c) : a.LeadsTo c := by
  rcases hab with rfl | hab
  · exact hbc
  · rcases hbc with rfl | hbc
    · exact .inr hab
    · simp only [advancesOver, decide_eq_true_eq] at hab hbc
      exact .inr (decide_eq_true (hab.trans hbc))

/-- No status is of a higher rank than a final one. -/
theorem LeadsTo.eq_of_isFinal (h : a.LeadsTo b) (hfinal : a.execution.isFinal) : b = a := by
  refine h.resolve_right fun hlt => ?_
  obtain ⟨execution, verdict, message⟩ := a
  have hrank (e : ExecutionStatus) : e.rank ≤ 4 := by cases e <;> decide
  simp only [advancesOver, decide_eq_true_eq] at hlt
  cases execution with
  | sealed | expired => exact Nat.not_lt.mpr (hrank _) hlt
  | _ => cases hfinal

end TransactionStatus

namespace Index

/-- The transactions of the earlier index are stored in the later one, and each status leads to the
later one. -/
def Advances (earlier later : Index Transaction) : Prop :=
  ∀ i t, earlier.get? i = some t → ∃ u, later.get? i = some u ∧ t.status.LeadsTo u.status

namespace Advances

variable {a b c : Index Transaction}

theorem refl (a : Index Transaction) : a.Advances a := fun _ t ht => ⟨t, ht, .refl _⟩

theorem trans (hab : a.Advances b) (hbc : b.Advances c) : a.Advances c := by
  intro i t ht
  obtain ⟨u, hu, htu⟩ := hab i t ht
  obtain ⟨v, hv, huv⟩ := hbc i u hu
  exact ⟨v, hv, htu.trans huv⟩

/-- A final status stays for good. -/
theorem final (h : a.Advances b) {i : String} {t : Transaction} (ht : a.get? i = some t)
    (hfinal : t.status.execution.isFinal) : ∃ u, b.get? i = some u ∧ u.status = t.status := by
  obtain ⟨u, hu, hlead⟩ := h i t ht
  exact ⟨u, hu, hlead.eq_of_isFinal hfinal⟩

/-- Merging a transaction advances if the stored status leads to its status. -/
theorem merge (h : a.Coherent) {t : Transaction}
    (ht : ∀ stored, a.get? t.id = some stored → stored.status.LeadsTo t.status) (now : Nat) :
    a.Advances (a.merge now t).2 := by
  intro i stored hstored
  obtain ⟨u, hu, rfl | ⟨rfl, stamps, rfl⟩⟩ := h.get?_merge_of_some now t hstored
  · exact ⟨u, hu, .refl _⟩
  · exact ⟨_, hu, ht stored hstored⟩

/-- Storing a status advances if the stored one leads to it. -/
theorem update {id : String} {status : TransactionStatus}
    (hstatus : ∀ stored, a.get? id = some stored → stored.status.LeadsTo status) (now : Nat) :
    a.Advances (a.update now id ({ status := some status } : TransactionPatch)).2 := by
  intro i stored hstored
  rw [get?_update]
  split
  · rename_i hi
    subst hi
    rw [hstored]
    exact ⟨_, rfl, hstatus stored hstored⟩
  · exact ⟨stored, hstored, .refl _⟩

end Advances

end Index

/-! ### Writes -/

/-- The status that is stored for a transaction leads to the one that is written. -/
def Write.Advances (store : Store) : Write → Prop
  | .transaction t =>
    ∀ stored, store.transactions.get? t.id = some stored → stored.status.LeadsTo t.status
  | .status id reached =>
    ∀ stored, store.transactions.get? id = some stored → stored.status.LeadsTo reached
  | .account _ | .block _ | .event _ | .contract _ | .item _ | .noItem _ => True

/-- A write that concerns no transaction writes no status. -/
theorem Write.advances_of_kind {w : Write} (h : w.kind ≠ .transaction) (store : Store) :
    w.Advances store := by
  cases w with
  | transaction => exact absurd rfl h
  | status => exact absurd rfl h
  | _ => trivial

theorem Store.Coherent.advances_write {store : Store} (h : store.Coherent) {w : Write}
    (hw : w.Advances store) (now : Nat) :
    store.transactions.Advances (store.write now w).transactions := by
  cases w with
  | transaction t => exact .merge (h .transaction) hw now
  | status id status => exact .update hw now
  | _ => exact .refl _

namespace Ingest.Progress

variable {moment : Moment} {p q : Progress}

/-- Writes that concern no transactions write no statuses. -/
theorem Obeys.of_kinds {kinds : List Kind} (h : Follows moment kinds p q)
    (hkinds : .transaction ∉ kinds) : Obeys Write.Advances moment p q :=
  .of_follows h fun _ hw => Write.advances_of_kind fun hkind => hkinds (hkind ▸ hw)

/-! ### Merging blocks -/

/-- A transaction is merged with a status that the stored one leads to. -/
theorem leadsTo_settled {t stored : Transaction}
    (h : p.store.transactions.get? t.id = some stored) :
    stored.status.LeadsTo (p.settled t).status := by
  rw [settled, h]
  dsimp only
  split
  · rename_i hadvances
    exact .inr hadvances
  · exact .refl _

theorem mergeTransaction_advances (block : Block) (t : Transaction) (p : Progress) :
    Obeys Write.Advances moment p (p.mergeTransaction moment block t) := by
  have hwrite : Write.Advances p.store (.transaction (p.settled t)) := by
    intro stored hstored
    rw [id_settled] at hstored
    exact leadsTo_settled hstored
  exact (Obeys.remember _ p).trans (.write hwrite)

theorem mergeTransactions_advances (block : Block) (merged : List String)
    (transactions : List Transaction) (p : Progress) :
    Obeys Write.Advances moment p (p.mergeTransactions moment block merged transactions).2 := by
  induction transactions generalizing merged p with
  | nil => exact .refl p
  | cons t rest ih =>
    rw [mergeTransactions]
    split
    · exact (Obeys.skip _ p).trans (ih _ _)
    · exact (mergeTransaction_advances block t p).trans (ih _ _)

theorem mergeHeight_advances (moment : Moment) (height : Nat) (fetched : FetchedBlock)
    (p : Progress) :
    Obeys Write.Advances moment p (p.mergeHeight moment height fetched) := by
  have htransactions : Obeys Write.Advances moment p
      (p.mergeTransactions moment fetched.block [] fetched.contents.transactions).2 :=
    mergeTransactions_advances fetched.block [] fetched.contents.transactions p
  have hevents : Follows moment [.event]
      (p.mergeTransactions moment fetched.block [] fetched.contents.transactions).2
      (p.mergeContents moment fetched) :=
    mergeEvents_follows _ _ _ _
  have hblock : Obeys Write.Advances moment (p.mergeContents moment fetched)
      ((p.mergeContents moment fetched).write moment (.block fetched.block)) := .write trivial
  exact ((htransactions.trans (.of_kinds hevents (by decide))).trans hblock).trans (.of_eq rfl rfl)

/-! ### Asking for statuses -/

/-- What a transaction is stored with while others are asked about. -/
theorem get?_takeStatus_of_ne {stored : Transaction}
    {answer : Except GatewayError TransactionStatus} {i : String} (hi : stored.id ≠ i) :
    (p.takeStatus moment stored answer).store.transactions.get? i =
      p.store.transactions.get? i := by
  have hupdate (now : Nat) (status : TransactionStatus) :
      (p.store.write now (.status stored.id status)).transactions.get? i =
        p.store.transactions.get? i := by
    rw [Store.write, Index.get?_update, if_neg hi]
  cases answer with
  | ok status =>
    rw [takeStatus]
    split
    · unfold advance
      dsimp only
      split <;> exact hupdate _ _
    · rfl
  | error e =>
    rw [takeStatus]
    split <;> rfl

/-- A status is written only if the status that was stored when the question was asked leads to it.
-/
theorem takeStatus_advances {stored : Transaction}
    (h : p.store.transactions.get? stored.id = some stored)
    (answer : Except GatewayError TransactionStatus) :
    Obeys Write.Advances moment p (p.takeStatus moment stored answer) := by
  cases answer with
  | ok status =>
    dsimp only [takeStatus]
    split
    · rename_i hadvances
      have hright : Write.Advances p.store (.status stored.id status) := by
        intro found hfound
        obtain rfl := Option.some.inj (h.symm.trans hfound)
        exact .inr hadvances
      have hwrite : Obeys Write.Advances moment p
          (p.write moment (.status stored.id status)) := .write hright
      unfold advance
      dsimp only
      split <;> exact hwrite.trans (.of_eq rfl rfl)
    · exact .refl p
  | error e =>
    dsimp only [takeStatus]
    split
    · exact .refl p
    · exact .fail _ _ _ p

/-- Answers about different transactions, which are stored as they were when the questions were
asked, advance. -/
theorem takeStatuses_advances
    {answers : List (Transaction × Except GatewayError TransactionStatus)}
    (hstored : ∀ answer ∈ answers,
      p.store.transactions.get? answer.1.id = some answer.1)
    (hnodup : (answers.map (·.1.id)).Nodup) :
    Obeys Write.Advances moment p (p.takeStatuses moment answers) := by
  induction answers generalizing p with
  | nil => exact .refl p
  | cons answer rest ih =>
    rw [List.forall_mem_cons] at hstored
    rw [List.map_cons, List.nodup_cons] at hnodup
    refine (takeStatus_advances hstored.1 answer.2).trans (ih ?_ hnodup.2)
    intro other hother
    have hne : answer.1.id ≠ other.1.id := fun heq =>
      hnodup.1 (heq ▸ List.mem_map_of_mem (f := (·.1.id)) hother)
    rw [get?_takeStatus_of_ne hne]
    exact hstored.2 other hother

end Ingest.Progress

namespace Ingest

open Progress

variable {σ : Type} {moment : Moment} {p : Progress}

/-- The transactions whose execution goes on are stored, and none of them is listed twice. -/
theorem unsettled_spec {store : Store} (h : store.transactions.Coherent) :
    (∀ t ∈ unsettled store, store.transactions.get? t.id = some t ∧ ¬t.status.execution.isFinal) ∧
      ((unsettled store).map (·.id)).Nodup := by
  constructor
  · intro t ht
    rw [unsettled, Index.filter, List.mem_filter] at ht
    exact ⟨h.mem_toList_iff.mp ht.1, by simpa using ht.2⟩
  · have hnodup : (store.transactions.toList.map (·.id)).Nodup := h.map_id_toList ▸ h.nodup
    exact hnodup.sublist (List.filter_sublist.map _)

theorem refreshStatuses_advances (gateway : Gateway σ) (chain : σ)
    (h : p.store.transactions.Coherent) :
    Obeys Write.Advances moment p (refreshStatuses gateway moment chain p).1 := by
  obtain ⟨hstored, hnodup⟩ := unsettled_spec h
  have hasked : (statusAnswers gateway chain p.store).map Prod.fst = unsettled p.store :=
    map_fst_askEach _ _ _
  have hall : ∀ answer ∈ statusAnswers gateway chain p.store,
      p.store.transactions.get? answer.1.id = some answer.1 := fun answer hanswer =>
    (hstored _ (hasked ▸ List.mem_map_of_mem hanswer)).1
  rw [← hasked, List.map_map] at hnodup
  exact takeStatuses_advances hall hnodup

end Ingest

/-! ### One tick -/

/-- Writes that advance make advances. -/
theorem Ingest.Progress.Obeys.advances {moment : Moment} {p q : Progress}
    (hobeys : Progress.Obeys Write.Advances moment p q) (h : p.store.Coherent) :
    q.store.Coherent ∧ p.store.transactions.Advances q.store.transactions := by
  obtain ⟨writes, hw, hwrites⟩ := hobeys
  rw [hw.store]
  exact hwrites.keeps (P := fun store => store.Coherent ∧
      p.store.transactions.Advances store.transactions)
    (fun store w now hstore hright =>
      ⟨hstore.1.write now w, hstore.2.trans (hstore.1.advances_write hright now)⟩)
    ⟨h, .refl _⟩

namespace Scene

open Progress

variable {σ : Type} {settings : Settings} {follower : Follower} {scene : Scene σ}

/-- Before the statuses of transactions are asked for, stored statuses lead to the ones that are
written. -/
theorem advances_afterAccounts (settings : Settings) (follower : Follower) (scene : Scene σ) :
    Progress.Obeys Write.Advances scene.moment (Progress.start follower.store follower.state)
      (scene.afterAccounts settings follower).1 := by
  have hheard : Progress.Obeys Write.Advances scene.moment
      (Progress.start follower.store follower.state)
      (Progress.start follower.store (scene.heard settings follower.state)) :=
    .of_eq rfl rfl
  have hmerged := Obeys.foldl (scene.merged settings follower.state)
    (fun p m _ => mergeHeight_advances scene.moment m.1 m.2 p)
    (Progress.start follower.store (scene.heard settings follower.state))
  have hblocks : Progress.Obeys Write.Advances scene.moment
      (Progress.start follower.store follower.state) (scene.blockStage settings follower) := by
    obtain ⟨failures, heq⟩ := blockStage_eq settings follower scene
    rw [heq]
    exact hheard.trans (hmerged.trans (.of_eq rfl rfl))
  exact hblocks.trans (.of_kinds (indexAccounts_follows scene.moment scene.gateway settings
    (scene.afterBlocks settings follower).2 (scene.afterBlocks settings follower).1) (by decide))

/-- **In a tick, stored statuses lead to the ones that are written.** -/
theorem advances_progress (h : follower.store.Coherent) :
    Progress.Obeys Write.Advances scene.moment (Progress.start follower.store follower.state)
      (scene.progress settings follower) := by
  have haccounts := advances_afterAccounts settings follower scene
  have hstatuses : Progress.Obeys Write.Advances scene.moment
      (scene.afterAccounts settings follower).1 (scene.afterStatuses settings follower).1 :=
    refreshStatuses_advances _ _ ((haccounts.advances h).1 .transaction)
  rw [progress_eq]
  exact (haccounts.trans hstatuses).trans
    (.of_kinds (resyncStorage_follows scene.moment scene.gateway settings _ _) (by decide))

/-- The transactions of a later moment advance over those of an earlier one. -/
theorem advances_storeAt (h : follower.store.Coherent) {n m : Nat} (hle : n ≤ m) :
    (scene.storeAt settings follower n).transactions.Advances
      (scene.storeAt settings follower m).transactions := by
  have hkept := keeps_storeAt (P := fun store => store.Coherent ∧
      (scene.storeAt settings follower n).transactions.Advances store.transactions)
    (fun store w now hstore hw => ⟨hstore.1.write now w,
      hstore.2.trans (hstore.1.advances_write hw now)⟩)
    (advances_progress h) hle ⟨h.replay _ _ _, .refl _⟩
  exact hkept.2

/-- **No tick asks for the status of a transaction that has a final one.** -/
theorem call_ne_status_of_isFinal (h : follower.store.Coherent) {i : String} {t : Transaction}
    (ht : follower.store.transactions.get? i = some t) (hfinal : t.status.execution.isFinal) :
    ∀ x ∈ scene.transcript settings follower, x.call ≠ .status i := by
  intro x hx hcall
  obtain ⟨hcoherent, hadvances⟩ := (advances_afterAccounts settings follower scene).advances h
  -- the question is asked in the third stage, about a stored transaction whose execution goes on
  have hasked : x ∈ scene.asked settings follower .statuses :=
    List.mem_filter.mpr ⟨hx, decide_eq_true (congrArg Call.stage hcall)⟩
  rw [asked_eq.2.1, List.mem_map] at hasked
  obtain ⟨answer, hanswer, rfl⟩ := hasked
  obtain rfl : answer.1.id = i := Call.status.inj hcall
  have hunsettled := List.mem_map_of_mem (f := Prod.fst) hanswer
  rw [statusAnswers, map_fst_askEach] at hunsettled
  obtain ⟨hstored, hgoes⟩ := (unsettled_spec (hcoherent .transaction)).1 _ hunsettled
  obtain ⟨u, hu, hstatus⟩ := hadvances.final ht hfinal
  obtain rfl := Option.some.inj (hstored.symm.trans hu)
  exact hgoes (hstatus ▸ hfinal)

variable (settings follower scene)

/-- The stores that a reader sees before each write of the tick. -/
def stores : List Store :=
  (List.range (scene.progress settings follower).journal.size).map
    (scene.storeAt settings follower)

end Scene

/-! ### One tick after the other -/

namespace Follower

variable {σ : Type} (settings : Settings)

/-- The stores that a reader sees while a follower goes through some ticks, in the order of time. -/
def stores (follower : Follower) : List (Scene σ) → List Store
  | [] => [follower.store]
  | scene :: rest => scene.stores settings follower ++ stores (scene.next settings follower) rest

/-- What statuses do while a follower goes through some ticks. -/
structure StatusesAdvance (follower : Follower) (scenes : List (Scene σ)) : Prop where
  /-- A stored status changes only to one of a higher rank. -/
  advances : (follower.stores settings scenes).Pairwise fun earlier later =>
    earlier.transactions.Advances later.transactions
  /-- A final status does not change. -/
  final : (follower.stores settings scenes).Pairwise fun earlier later =>
    ∀ i t, earlier.transactions.get? i = some t → t.status.execution.isFinal →
      ∃ u, later.transactions.get? i = some u ∧ u.status = t.status
  /-- No tick behind it asks for the status of a transaction that has a final one. -/
  unasked : ∀ done scene rest, scenes = done ++ scene :: rest →
    ∀ store ∈ follower.stores settings done, ∀ i t, store.transactions.get? i = some t →
      t.status.execution.isFinal →
      ∀ x ∈ scene.transcript settings (follower.after settings (done.map .tick)),
        x.call ≠ .status i

variable {settings} {follower : Follower}

theorem advances_next (h : follower.store.Coherent) (scene : Scene σ) (n : Nat) :
    (scene.storeAt settings follower n).transactions.Advances
      (scene.next settings follower).store.transactions := by
  rw [← Scene.storeAt_of_le (Nat.le_add_left (scene.progress settings follower).journal.size n)]
  exact Scene.advances_storeAt h (Nat.le_add_right _ _)

/-- Whatever a reader sees advances over what the ticks start with. -/
theorem advances_of_mem_stores (h : follower.store.Coherent) {scenes : List (Scene σ)}
    {store : Store} (hstore : store ∈ follower.stores settings scenes) :
    follower.store.transactions.Advances store.transactions := by
  induction scenes generalizing follower with
  | nil => exact List.mem_singleton.mp hstore ▸ .refl _
  | cons scene rest ih =>
    rcases List.mem_append.mp hstore with hstore | hstore
    · obtain ⟨n, -, rfl⟩ := List.mem_map.mp hstore
      exact Scene.advances_storeAt h (Nat.zero_le n)
    · exact (advances_next h scene 0).trans (ih (coherent_next h scene) hstore)

/-- A reader sees the store that the ticks end with. -/
theorem store_after_mem_stores (follower : Follower) (scenes : List (Scene σ)) :
    (follower.after settings (scenes.map .tick)).store ∈ follower.stores settings scenes := by
  induction scenes generalizing follower with
  | nil => exact List.mem_singleton_self _
  | cons scene rest ih =>
    rw [List.map_cons, after_cons, turn_tick]
    exact List.mem_append_right _ (ih (scene.next settings follower))

/-- Whatever a reader sees is advanced over by what the ticks end with. -/
theorem advances_after (h : follower.store.Coherent) {scenes : List (Scene σ)} {store : Store}
    (hstore : store ∈ follower.stores settings scenes) :
    store.transactions.Advances
      (follower.after settings (scenes.map .tick)).store.transactions := by
  induction scenes generalizing follower with
  | nil => exact List.mem_singleton.mp hstore ▸ .refl _
  | cons scene rest ih =>
    rw [List.map_cons, after_cons, turn_tick]
    rcases List.mem_append.mp hstore with hstore | hstore
    · obtain ⟨n, -, rfl⟩ := List.mem_map.mp hstore
      exact (advances_next h scene n).trans
        (advances_of_mem_stores (coherent_next h scene) (store_after_mem_stores _ rest))
    · exact ih (coherent_next h scene) hstore

/-- **Stored statuses lead to later ones, whatever a reader sees of some ticks.** -/
theorem pairwise_stores (h : follower.store.Coherent) (scenes : List (Scene σ)) :
    (follower.stores settings scenes).Pairwise fun earlier later =>
      earlier.transactions.Advances later.transactions := by
  induction scenes generalizing follower with
  | nil => exact List.pairwise_singleton _ _
  | cons scene rest ih =>
    refine List.pairwise_append.mpr ⟨?_, ih (coherent_next h scene), ?_⟩
    · exact List.pairwise_map.mpr
        (List.pairwise_lt_range.imp fun hlt => Scene.advances_storeAt h hlt.le)
    · intro earlier hearlier later hlater
      obtain ⟨n, -, rfl⟩ := List.mem_map.mp hearlier
      exact (advances_next h scene n).trans
        (advances_of_mem_stores (coherent_next h scene) hlater)

/-- **A transaction's status never moves backwards.** After any turns of a follower, during any
ticks, whatever the gateways answer. -/
theorem statuses_advance (settings : Settings) (turns : List (Turn σ)) (scenes : List (Scene σ)) :
    (initial.after settings turns).StatusesAdvance settings scenes := by
  have hcoherent := coherent_after settings turns
  refine ⟨pairwise_stores hcoherent scenes, ?_, ?_⟩
  · exact (pairwise_stores hcoherent scenes).imp fun h i t => h.final
  · intro done scene rest _ store hstore i t ht hfinal
    have hdone : ((initial.after settings turns).after settings
        (done.map .tick)).store.Coherent := by
      rw [← after_append]
      exact coherent_after settings _
    obtain ⟨u, hu, hstatus⟩ := (advances_after hcoherent hstore).final ht hfinal
    exact Scene.call_ne_status_of_isFinal hdone hu (hstatus ▸ hfinal)

end Follower

end ChainFeed
