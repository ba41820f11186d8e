import ChainFeed.Proofs.Index.Slice
import ChainFeed.Proofs.Ingest.Queue

/-!
# Listing the storage of accounts

The last stage of a tick lists the storage of every stored account if the listings are **overdue**
(`Ingest.State.Overdue`), and otherwise that of the accounts whose listing failed in the tick before
(`Scene.map_fst_listings`).

Listings are taken one by one into one index. That is safe as long as the accounts that are stored
by then, new ones included, have **plain** addresses (`Address.Plain`), and the gateway makes ids of
addresses and paths (`Gateway.ListsById`): then each listing touches one slice
(`Ingest.Progress.takeListings_spec`). All that is stored stems from listings of stored accounts,
and so does all that is to be listed again (`Follower.Traced`).

What the tick leaves to be listed again is what failed in it, and nothing else. So an account whose
listing failed is listed again in each tick until that succeeds (`Follower.exists_listing_after`).
-/

namespace ChainFeed

open Ingest

variable {σ : Type}

/-- The gateway lists items whose ids are made of their addresses and their paths. -/
def Gateway.ListsById (gateway : Gateway σ) : Prop :=
  ∀ address chain listing, (gateway.ask (.storage address) chain).1 = .ok listing →
    ∀ item ∈ listing, item.id = StorageItem.idOf item.address item.path

/-- The gateway of a turn lists items whose ids are made of their addresses and their paths. -/
def Follower.Turn.ListsById : Follower.Turn σ → Prop
  | tick scene => scene.gateway.ListsById
  | reset => True

/-! ### Accounts -/

/-- An account with the address is stored. -/
def Store.Holds (store : Store) (address : String) : Prop :=
  ∃ i a, store.accounts.get? i = some a ∧ a.address = address

namespace Store.Holds

variable {store : Store} {address : String}

theorem iff_exists_mem (h : store.Coherent) :
    store.Holds address ↔ ∃ a ∈ store.accounts.toList, a.address = address := by
  constructor
  · rintro ⟨i, a, ha, rfl⟩
    obtain rfl : Resource.id a = i := ((h .account).filed ha).id_eq
    exact ⟨a, (h .account).mem_toList_iff.mpr ha, rfl⟩
  · rintro ⟨a, ha, rfl⟩
    exact ⟨_, a, (h .account).mem_toList_iff.mp ha, rfl⟩

/-- No write removes an account, or changes its address. -/
theorem write (h : store.Holds address) (hcoherent : store.Coherent) (now : Nat) (w : Write) :
    (store.write now w).Holds address := by
  obtain ⟨i, a, ha, rfl⟩ := h
  cases w with
  | account r =>
    obtain ⟨b, hb, rfl | ⟨-, stamps, rfl⟩⟩ := (hcoherent .account).get?_merge_of_some now r ha
    · exact ⟨i, b, hb, rfl⟩
    · exact ⟨i, _, hb, rfl⟩
  | _ => exact ⟨i, a, ha, rfl⟩

theorem replay (h : store.Holds address) (hcoherent : store.Coherent) (wall : Nat → Nat)
    (first : Nat) (writes : List Write) : (store.replay wall first writes).Holds address := by
  induction writes generalizing first store with
  | nil => exact h
  | cons w rest ih => exact ih (h.write hcoherent _ w) (hcoherent.write _ w) _

end Store.Holds

/-! ### Taking listings -/

namespace Ingest.Progress

variable {moment : Moment} {p : Progress}

/-- Listings are taken into the storage index alone. -/
theorem store_takeListing_ok (address : String) (total : SliceChange) (listing : List StorageItem) :
    (p.takeListing moment address total (.ok listing)).2.store.storage =
      (p.store.storage.reconcile (fun n => moment.wall (p.journal.size + n))
        (Address.canonical address) listing).2 := rfl

/-- A listing that fails is to be made again. -/
theorem mem_failedStorage_takeListings
    (listings : List (String × Except GatewayError (List StorageItem))) (total : SliceChange)
    (p : Progress) (address : String) :
    address ∈ (p.takeListings moment listings total).2.state.failedStorage ↔
      address ∈ p.state.failedStorage ∨ ∃ e, (address, .error e) ∈ listings := by
  induction listings generalizing total p with
  | nil => simp [takeListings]
  | cons x rest ih =>
    obtain ⟨first, e | listing⟩ := x
    · refine (ih total (p.takeListing moment first total (.error e)).2).trans ?_
      have hinsert : address ∈ (p.takeListing moment first total (.error e)).2.state.failedStorage ↔
          first = address ∨ address ∈ p.state.failedStorage :=
        Std.TreeSet.mem_insert.trans (or_congr_left Std.compare_eq_iff_eq)
      rw [hinsert]
      constructor
      · rintro ((rfl | h) | ⟨e', h⟩)
        · exact .inr ⟨e, List.mem_cons_self⟩
        · exact .inl h
        · exact .inr ⟨e', List.mem_cons_of_mem _ h⟩
      · rintro (h | ⟨e', h⟩)
        · exact .inl (.inr h)
        · rcases List.mem_cons.mp h with h | h
          · exact .inl (.inl (congrArg Prod.fst h).symm)
          · exact .inr ⟨e', h⟩
    · refine (ih _ (p.takeListing moment first total (.ok listing)).2).trans ?_
      refine or_congr_right (exists_congr fun e => ?_)
      rw [List.mem_cons]
      exact (or_iff_right (by simp)).symm

theorem lastResync_takeListings
    (listings : List (String × Except GatewayError (List StorageItem))) (total : SliceChange)
    (p : Progress) :
    (p.takeListings moment listings total).2.state.lastResync = p.state.lastResync := by
  induction listings generalizing total p with
  | nil => rfl
  | cons x rest ih =>
    refine (ih _ _).trans ?_
    cases x.2 <;> rfl

/-- What is stored for accounts keeps what holds by id, address and path, if it holds of the items
that are listed for them. -/
theorem all_takeListings (moment : Moment) {P : String → String → String → Prop}
    (h : p.store.storage.All fun x => P x.id x.address x.path)
    {listings : List (String × Except GatewayError (List StorageItem))}
    (hlisted : ∀ address listing, (address, .ok listing) ∈ listings →
      ∀ x ∈ Index.listedFor (Address.canonical address) listing, P x.id x.address x.path)
    (total : SliceChange) :
    (p.takeListings moment listings total).2.store.storage.All
      fun x => P x.id x.address x.path := by
  induction listings generalizing total p with
  | nil => exact h
  | cons x rest ih =>
    refine ih ?_ (fun address listing hmem => hlisted _ _ (List.mem_cons_of_mem _ hmem)) _
    obtain ⟨address, e | listing⟩ := x
    · exact h
    · exact h.reconcile (hlisted _ _ List.mem_cons_self) _

end Ingest.Progress

/-- The address is spelled as it is stored, and holds no dot. -/
structure Address.Plain (address : String) : Prop where
  /-- The spelling is canonical. -/
  canonical_eq : canonical address = address
  /-- There is no dot in it. -/
  noDot : '.' ∉ address.toList

instance (address : String) : Decidable (Address.Plain address) :=
  decidable_of_iff (Address.canonical address = address ∧ '.' ∉ address.toList)
    ⟨fun h => ⟨h.1, h.2⟩, fun h => ⟨h.canonical_eq, h.noDot⟩⟩

namespace Ingest.Progress

variable {moment : Moment} {p : Progress}

/-- **What listings do to slices.** The slice of each account with a listing mirrors it, and all
other slices stay as they are. -/
theorem takeListings_spec (moment : Moment) (h : p.store.storage.Filing)
    {listings : List (String × Except GatewayError (List StorageItem))}
    (hplain : ∀ x ∈ listings, Address.Plain x.1) (hnodup : (listings.map Prod.fst).Nodup)
    (hids : ∀ address listing, (address, .ok listing) ∈ listings →
      ∀ x ∈ listing, x.id = StorageItem.idOf x.address x.path) (total : SliceChange) :
    (∀ address listing, (address, .ok listing) ∈ listings →
      (p.takeListings moment listings total).2.store.storage.Mirrors address listing) ∧
    ∀ address, (∀ listing, (address, .ok listing) ∉ listings) →
      (p.takeListings moment listings total).2.store.storage.slice address =
        p.store.storage.slice address := by
  induction listings generalizing total p with
  | nil => exact ⟨fun _ _ h => absurd h List.not_mem_nil, fun _ _ => rfl⟩
  | cons x rest ih =>
    rw [List.forall_mem_cons] at hplain
    rw [List.map_cons, List.nodup_cons] at hnodup
    have hrest : ∀ address listing, (address, .ok listing) ∈ rest →
        ∀ x ∈ listing, x.id = StorageItem.idOf x.address x.path :=
      fun address listing hmem => hids _ _ (List.mem_cons_of_mem _ hmem)
    have hfirst : ∀ listing, (x.1, .ok listing) ∉ rest := fun _ hmem =>
      hnodup.1 (List.mem_map.mpr ⟨_, hmem, rfl⟩)
    obtain ⟨first, e | listing⟩ := x
    · -- a listing that fails changes no slice
      obtain ⟨hmirrors, hkept⟩ := ih (p := (p.takeListing moment first total (.error e)).2) h
        hplain.2 hnodup.2 hrest total
      constructor
      · intro address listing hmem
        exact hmirrors address listing ((List.mem_cons.mp hmem).resolve_left (by simp))
      · exact fun address hnone => hkept address fun listing hmem =>
          hnone listing (List.mem_cons_of_mem _ hmem)
    · have hproper := Index.proper_of_mem_listedFor hplain.1.noDot
        (hids first listing List.mem_cons_self)
      obtain ⟨hfiling, hmirrored, hothers⟩ := h.reconcile hproper
        fun n => moment.wall (p.journal.size + n)
      have hstorage : (p.takeListing moment first total (.ok listing)).2.store.storage =
          (p.store.storage.reconcile (fun n => moment.wall (p.journal.size + n)) first
            listing).2 := by
        rw [store_takeListing_ok, hplain.1.canonical_eq]
      rw [← hstorage] at hfiling hmirrored hothers
      obtain ⟨hmirrors, hkept⟩ := ih hfiling hplain.2 hnodup.2 hrest
        (p.takeListing moment first total (.ok listing)).1
      constructor
      · intro address other hmem
        rcases List.mem_cons.mp hmem with heq | hmem
        · obtain ⟨rfl, hother⟩ := Prod.mk.inj heq
          obtain rfl := Except.ok.inj hother
          exact hmirrored.of_slice_eq (hkept address hfirst)
        · exact hmirrors address other hmem
      · intro address hnone
        have hne : address ≠ first := by
          rintro rfl
          exact hnone listing List.mem_cons_self
        exact (hkept address fun other hmem => hnone other (List.mem_cons_of_mem _ hmem)).trans
          (hothers address hne)

end Ingest.Progress

/-! ### The stage -/

namespace Ingest

open Progress

/-- The listings of all accounts' storage do not hold any more, or were never made. -/
def State.Overdue (settings : Settings) (time : Span) (state : State) : Prop :=
  ∀ last, state.lastResync = some last →
    settings.storageResyncInterval.nanoseconds ≤ time.nanoseconds - last.nanoseconds

theorem State.resyncDue_iff {settings : Settings} {time : Span} {state : State} :
    state.resyncDue settings time ↔ state.Overdue settings time := by
  unfold resyncDue Overdue
  cases state.lastResync <;> simp

/-- The last stage takes the listings of the accounts whose turn it is, when none is left that is to
be made again. -/
theorem resyncStorage_eq (gateway : Gateway σ) (settings : Settings) (moment : Moment) (chain : σ)
    (p : Progress) :
    ∃ q : Progress, q.store = p.store ∧ (∀ address, address ∉ q.state.failedStorage) ∧
      q.state.lastResync =
        (if p.state.resyncDue settings moment.time then some moment.time
        else p.state.lastResync) ∧
      (resyncStorage gateway settings moment chain p).1.store =
        (q.takeListings moment (storageListings gateway (p.requested settings moment) chain)
          SliceChange.zero).2.store ∧
      (resyncStorage gateway settings moment chain p).1.state =
        (q.takeListings moment (storageListings gateway (p.requested settings moment) chain)
          SliceChange.zero).2.state := by
  unfold resyncStorage Progress.requested
  dsimp only
  split
  · exact ⟨p.remember fun state =>
        { state with lastResync := some moment.time, failedStorage := ∅ },
      rfl, fun _ => Std.TreeSet.not_mem_emptyc, rfl, rfl, rfl⟩
  · split
    · rename_i hempty
      have hnone := State.toList_failedStorage hempty
      rw [hnone]
      refine ⟨p, rfl, fun address hmem => ?_, rfl, rfl, rfl⟩
      rw [← Std.TreeSet.mem_toList, hnone] at hmem
      cases hmem
    · exact ⟨p.remember fun state => { state with failedStorage := ∅ }, rfl,
        fun _ => Std.TreeSet.not_mem_emptyc, rfl, rfl, rfl⟩

end Ingest

/-! ### What a tick lists -/

theorem Inquiry.ofListing_injective : Function.Injective Inquiry.ofListing := by
  rintro ⟨a, r⟩ ⟨b, s⟩ h
  cases h
  rfl

namespace Scene

open Progress

variable (settings : Settings) (follower : Follower) (scene : Scene σ)

/-- The listings of storage that the tick asks for, in order. -/
def listings : List (String × Except GatewayError (List StorageItem)) :=
  storageListings scene.gateway
    ((scene.afterStatuses settings follower).1.requested settings scene.moment)
    (scene.afterStatuses settings follower).2

variable {settings follower scene}

theorem asked_storage :
    scene.asked settings follower .storage =
      (scene.listings settings follower).map Inquiry.ofListing :=
  asked_eq.2.2

/-- What the transcript says about an account's storage is a listing. -/
theorem mem_transcript_storage {address : String}
    {answer : Except GatewayError (List StorageItem)} :
    (⟨.storage address, answer⟩ : Inquiry) ∈ scene.transcript settings follower ↔
      (address, answer) ∈ scene.listings settings follower := by
  have hasked : (⟨.storage address, answer⟩ : Inquiry) ∈ scene.transcript settings follower ↔
      (⟨.storage address, answer⟩ : Inquiry) ∈ scene.asked settings follower .storage := by
    rw [asked, List.mem_filter]
    exact (and_iff_left (decide_eq_true rfl)).symm
  rw [hasked, asked_storage]
  exact List.mem_map_of_injective Inquiry.ofListing_injective (a := (address, answer))

/-- Before storage is listed, the stored items are as they were. -/
theorem storage_afterStatuses :
    (scene.afterStatuses settings follower).1.store.storage = follower.store.storage := by
  have haccounts := indexAccounts_follows scene.moment scene.gateway settings
    (scene.afterBlocks settings follower).2 (scene.afterBlocks settings follower).1
  calc (scene.afterStatuses settings follower).1.store.index .storageItem
      = (scene.afterAccounts settings follower).1.store.index .storageItem :=
        index_afterStatuses (by decide)
    _ = (scene.afterBlocks settings follower).1.store.index .storageItem :=
        haccounts.index_eq (by decide)
    _ = follower.store.index .storageItem := index_afterBlocks (by decide)

theorem overdue_afterStatuses (h : follower.store.Coherent) :
    (scene.afterStatuses settings follower).1.state.Overdue settings scene.moment.time ↔
      follower.state.Overdue settings scene.moment.time := by
  rw [State.Overdue, State.Overdue, lastResync_afterStatuses h]

/-- **Whose storage a tick lists.** -/
theorem map_fst_listings (settings : Settings) (h : follower.store.Coherent) (scene : Scene σ) :
    (follower.state.Overdue settings scene.moment.time →
      (scene.listings settings follower).map Prod.fst =
        (scene.next settings follower).store.accounts.toList.map (·.address)) ∧
    (¬follower.state.Overdue settings scene.moment.time →
      (scene.listings settings follower).map Prod.fst = follower.state.failedStorage.toList) := by
  have hrequested : (scene.listings settings follower).map Prod.fst =
      (scene.afterStatuses settings follower).1.requested settings scene.moment :=
    map_fst_askEach _ _ _
  have haccounts : (scene.next settings follower).store.accounts =
      (scene.afterStatuses settings follower).1.store.accounts :=
    @index_next _ settings follower scene .account (by decide)
  rw [hrequested, requested, failedStorage_afterStatuses h, ← overdue_afterStatuses h,
    ← State.resyncDue_iff, haccounts]
  exact ⟨fun hdue => if_pos hdue, fun hdue => if_neg hdue⟩

/-- A tick ends with its listings, and begins them when no listing is left that is to be made again.
-/
theorem exists_takeListings (settings : Settings) (follower : Follower) (scene : Scene σ) :
    ∃ q : Progress, q.store = (scene.afterStatuses settings follower).1.store ∧
      (∀ address, address ∉ q.state.failedStorage) ∧
      q.state.lastResync =
        (if (scene.afterStatuses settings follower).1.state.resyncDue settings
            scene.moment.time then some scene.moment.time
        else (scene.afterStatuses settings follower).1.state.lastResync) ∧
      (scene.next settings follower).store =
        (q.takeListings scene.moment (scene.listings settings follower)
          SliceChange.zero).2.store ∧
      (scene.next settings follower).state =
        (q.takeListings scene.moment (scene.listings settings follower)
          SliceChange.zero).2.state := by
  obtain ⟨q, hstore, hfailed, hlast, hend, hstate⟩ := resyncStorage_eq scene.gateway settings
    scene.moment (scene.afterStatuses settings follower).2 (scene.afterStatuses settings follower).1
  refine ⟨q, hstore, hfailed, hlast, ?_⟩
  rw [next_eq, progress_eq, listings]
  dsimp only
  exact ⟨hend, hstate⟩

/-- The accounts to list again are those whose listing failed in the tick. -/
theorem mem_failedStorage_next {address : String} :
    address ∈ (scene.next settings follower).state.failedStorage ↔
      ∃ e, (address, .error e) ∈ scene.listings settings follower := by
  obtain ⟨q, -, hfailed, -, -, heq⟩ := exists_takeListings settings follower scene
  rw [heq, mem_failedStorage_takeListings]
  exact or_iff_right (hfailed address)

/-- The listings of all accounts' storage hold from the tick on that made them. -/
theorem lastResync_next (settings : Settings) (h : follower.store.Coherent) (scene : Scene σ) :
    (follower.state.Overdue settings scene.moment.time →
      (scene.next settings follower).state.lastResync = some scene.moment.time) ∧
    (¬follower.state.Overdue settings scene.moment.time →
      (scene.next settings follower).state.lastResync = follower.state.lastResync) := by
  obtain ⟨q, -, -, hlast, -, heq⟩ := exists_takeListings settings follower scene
  rw [heq, lastResync_takeListings, hlast, lastResync_afterStatuses h, ← overdue_afterStatuses h,
    ← State.resyncDue_iff]
  exact ⟨fun hdue => if_pos hdue, fun hdue => if_neg hdue⟩

/-- What was listed was listed by the gateway. -/
theorem ids_of_mem_listings (hids : scene.gateway.ListsById) {address : String}
    {listing : List StorageItem}
    (h : (address, .ok listing) ∈ scene.listings settings follower) :
    ∀ x ∈ listing, x.id = StorageItem.idOf x.address x.path := by
  obtain ⟨chain, hask⟩ := exists_ask_of_mem_askEach h
  exact hids address chain listing hask

end Scene

/-! ### Accounts of items -/

namespace Follower

variable {settings : Settings} {follower : Follower}

theorem holds_next (h : follower.store.Coherent) (scene : Scene σ) {address : String}
    (hheld : follower.store.Holds address) :
    (scene.next settings follower).store.Holds address := by
  rw [Scene.store_next]
  exact hheld.replay h _ _ _

/-- Whatever has to do with storage has to do with stored accounts. -/
structure Traced (follower : Follower) : Prop where
  /-- The indexes are coherent. -/
  coherent : follower.store.Coherent
  /-- Each item's id is made of its address and its path, and an account is stored that has the
  address in some spelling. -/
  items : follower.store.storage.All fun x => x.id = StorageItem.idOf x.address x.path ∧
    ∃ owner, Address.canonical owner = x.address ∧ follower.store.Holds owner
  /-- Each account whose storage is to be listed again is stored. -/
  failed : ∀ address ∈ follower.state.failedStorage, follower.store.Holds address

namespace Traced

theorem initial : Follower.initial.Traced where
  coherent := .empty
  items := .clear Index.empty
  failed _ h := absurd h Std.TreeSet.not_mem_emptyc

theorem reset (h : follower.Traced) : follower.reset.Traced where
  coherent := h.coherent.clear
  items := .clear _
  failed _ hmem := absurd hmem Std.TreeSet.not_mem_emptyc

/-- A tick lists the storage of stored accounts. -/
theorem holds_of_mem_listings (h : follower.Traced) (scene : Scene σ)
    {x : String × Except GatewayError (List StorageItem)}
    (hx : x ∈ scene.listings settings follower) :
    (scene.next settings follower).store.Holds x.1 := by
  have haddress := List.mem_map_of_mem (f := Prod.fst) hx
  obtain ⟨hdue, hnotDue⟩ := Scene.map_fst_listings settings h.coherent scene
  by_cases hoverdue : follower.state.Overdue settings scene.moment.time
  · rw [hdue hoverdue] at haddress
    exact (Store.Holds.iff_exists_mem (coherent_next h.coherent scene)).mpr
      (List.mem_map.mp haddress)
  · rw [hnotDue hoverdue, Std.TreeSet.mem_toList] at haddress
    exact holds_next h.coherent scene (h.failed _ haddress)

/-- What traces items and failures to accounts lasts through a tick. -/
theorem next (h : follower.Traced) {scene : Scene σ} (hids : scene.gateway.ListsById) :
    (scene.next settings follower).Traced where
  coherent := coherent_next h.coherent scene
  items := by
    obtain ⟨q, hstore, -, -, heq, -⟩ := Scene.exists_takeListings settings follower scene
    have hbefore : q.store.storage.All fun x => x.id = StorageItem.idOf x.address x.path ∧
        ∃ owner, Address.canonical owner = x.address ∧
          (scene.next settings follower).store.Holds owner := by
      rw [hstore, Scene.storage_afterStatuses]
      exact h.items.mono fun x ⟨hid, owner, howner, hheld⟩ =>
        ⟨hid, owner, howner, holds_next h.coherent scene hheld⟩
    have hafter := Progress.all_takeListings scene.moment
      (P := fun id address path => id = StorageItem.idOf address path ∧
        ∃ owner, Address.canonical owner = address ∧
          (scene.next settings follower).store.Holds owner)
      hbefore
      (fun address listing hmem x hx => by
        obtain ⟨hlisted, haddress⟩ := List.mem_filter.mp hx
        exact ⟨Scene.ids_of_mem_listings hids hmem x hlisted, address,
          (beq_iff_eq.mp haddress).symm, h.holds_of_mem_listings scene hmem⟩)
      SliceChange.zero
    rw [← heq] at hafter
    exact hafter
  failed address hmem := by
    obtain ⟨e, hlisted⟩ := Scene.mem_failedStorage_next.mp hmem
    exact h.holds_of_mem_listings scene hlisted

end Traced

theorem traced_after (settings : Settings) {turns : List (Turn σ)}
    (h : ∀ turn ∈ turns, turn.ListsById) : (initial.after settings turns).Traced :=
  after_induction_of_forall .initial (fun _ _ hids htraced => htraced.next hids)
    (fun _ htraced => htraced.reset) h

/-! ### Listing again -/

/-- A tick lists the storage of an account whose listing failed before. -/
theorem exists_listing (settings : Settings) (h : follower.store.Coherent) (scene : Scene σ)
    {address : String} (hfailed : address ∈ follower.state.failedStorage)
    (hheld : follower.store.Holds address) :
    ∃ answer, (address, answer) ∈ scene.listings settings follower := by
  have haddress : address ∈ (scene.listings settings follower).map Prod.fst := by
    obtain ⟨hdue, hnotDue⟩ := Scene.map_fst_listings settings h scene
    by_cases hoverdue : follower.state.Overdue settings scene.moment.time
    · -- an account with the address is stored, and it is listed with all others
      rw [hdue hoverdue, List.mem_map]
      exact (Store.Holds.iff_exists_mem (coherent_next h scene)).mp (holds_next h scene hheld)
    · rw [hnotDue hoverdue, Std.TreeSet.mem_toList]
      exact hfailed
  obtain ⟨⟨_, answer⟩, hmem, rfl⟩ := List.mem_map.mp haddress
  exact ⟨answer, hmem⟩

/-- No listing of the account's storage succeeds while the follower goes through the ticks. -/
def Unlisted (settings : Settings) (address : String) (follower : Follower) :
    List (Scene σ) → Prop
  | [] => True
  | scene :: rest =>
    (∀ listing, (⟨.storage address, .ok listing⟩ : Inquiry) ∉ scene.transcript settings follower) ∧
      Unlisted settings address (scene.next settings follower) rest

/-- **What fails is listed again** in each tick, until it succeeds. -/
theorem exists_listing_after (h : follower.store.Coherent) {address : String}
    (hfailed : address ∈ follower.state.failedStorage) (hheld : follower.store.Holds address)
    {scenes : List (Scene σ)} (hnone : follower.Unlisted settings address scenes)
    (scene : Scene σ) :
    ∃ answer, (address, answer) ∈
      scene.listings settings (follower.after settings (scenes.map .tick)) := by
  induction scenes generalizing follower with
  | nil => exact exists_listing settings h scene hfailed hheld
  | cons first rest ih =>
    have hagain : address ∈ (first.next settings follower).state.failedStorage := by
      obtain ⟨e | listing, hmem⟩ := exists_listing settings h first hfailed hheld
      · exact Scene.mem_failedStorage_next.mpr ⟨e, hmem⟩
      · exact absurd (Scene.mem_transcript_storage.mpr hmem) (hnone.1 listing)
    rw [List.map_cons, after_cons, turn_tick]
    exact ih (coherent_next h first) hagain (holds_next h first hheld) hnone.2

end Follower

/-! ### The outcome of a tick -/

/-- What a tick does about the storage of accounts. -/
structure Scene.Resyncs (settings : Settings) (follower : Follower) (scene : Scene σ) : Prop where
  /-- If the listings are overdue, the tick lists the storage of every stored account. -/
  full : follower.state.Overdue settings scene.moment.time →
    (scene.asked settings follower .storage).map (·.call) =
      (scene.next settings follower).store.accounts.toList.map fun account =>
        .storage account.address
  /-- Otherwise it lists the storage of the accounts whose listing failed. -/
  retried : ¬follower.state.Overdue settings scene.moment.time →
    (scene.asked settings follower .storage).map (·.call) =
      follower.state.failedStorage.toList.map .storage
  /-- Listings of all accounts hold from the tick on that makes them. -/
  renewed : follower.state.Overdue settings scene.moment.time →
    (scene.next settings follower).state.lastResync = some scene.moment.time
  /-- Other ticks leave it at that. -/
  held : ¬follower.state.Overdue settings scene.moment.time →
    (scene.next settings follower).state.lastResync = follower.state.lastResync
  /-- The slice of an account whose listing succeeds mirrors the listing. -/
  mirrored : ∀ address listing,
    (⟨.storage address, .ok listing⟩ : Inquiry) ∈ scene.transcript settings follower →
      (scene.next settings follower).store.storage.Mirrors address listing
  /-- The slice of an account whose listing fails stays as it is. -/
  kept : ∀ address e,
    (⟨.storage address, .error e⟩ : Inquiry) ∈ scene.transcript settings follower →
      (scene.next settings follower).store.storage.slice address =
        follower.store.storage.slice address
  /-- So does that of an account that is not listed. -/
  untouched : ∀ address,
    (∀ answer, (⟨.storage address, answer⟩ : Inquiry) ∉ scene.transcript settings follower) →
      (scene.next settings follower).store.storage.slice address =
        follower.store.storage.slice address
  /-- The accounts to list again are those whose listing fails. -/
  failed : ∀ address, address ∈ (scene.next settings follower).state.failedStorage ↔
    ∃ e, (⟨.storage address, .error e⟩ : Inquiry) ∈ scene.transcript settings follower
  /-- Each tick behind this one lists them, until it succeeds. -/
  again : ∀ address ∈ (scene.next settings follower).state.failedStorage,
    ∀ scenes : List (Scene σ), (scene.next settings follower).Unlisted settings address scenes →
      ∀ later : Scene σ, ∃ answer, (⟨.storage address, answer⟩ : Inquiry) ∈
        later.transcript settings
          ((scene.next settings follower).after settings (scenes.map .tick))

namespace Follower

open Progress

variable {settings : Settings} {follower : Follower}

/-- What the listings of a tick do to slices, if the stored accounts have plain addresses. -/
theorem Traced.slices_next (h : follower.Traced) {scene : Scene σ} (hids : scene.gateway.ListsById)
    (hplain : ∀ account ∈ (scene.next settings follower).store.accounts.toList,
      account.id = account.address ∧ Address.Plain account.address) :
    ((scene.listings settings follower).map Prod.fst).Nodup ∧
    (∀ address listing, (address, .ok listing) ∈ scene.listings settings follower →
      (scene.next settings follower).store.storage.Mirrors address listing) ∧
    ∀ address, (∀ listing, (address, .ok listing) ∉ scene.listings settings follower) →
      (scene.next settings follower).store.storage.slice address =
        follower.store.storage.slice address := by
  have haccounts : (scene.next settings follower).store.accounts.Coherent :=
    coherent_next h.coherent scene .account
  have hheld : ∀ address, (scene.next settings follower).store.Holds address →
      Address.Plain address := by
    intro address hheld
    obtain ⟨a, ha, rfl⟩ := (Store.Holds.iff_exists_mem (coherent_next h.coherent scene)).mp hheld
    exact (hplain a ha).2
  have hnodup : ((scene.listings settings follower).map Prod.fst).Nodup := by
    obtain ⟨hdue, hnotDue⟩ := Scene.map_fst_listings settings h.coherent scene
    by_cases hoverdue : follower.state.Overdue settings scene.moment.time
    · have hnodupIds := haccounts.map_id_toList ▸ haccounts.nodup
      rw [hdue hoverdue, ← List.map_congr_left fun a ha => (hplain a ha).1]
      exact hnodupIds
    · rw [hnotDue hoverdue]
      exact Std.TreeSet.distinct_toList.imp fun hne heq =>
        hne (Std.compare_eq_iff_eq.mpr heq)
  obtain ⟨q, hstore, -, -, heq, -⟩ := Scene.exists_takeListings settings follower scene
  have hstorage : q.store.storage = follower.store.storage := by
    rw [hstore, Scene.storage_afterStatuses]
  have hfiling : q.store.storage.Filing := by
    rw [hstorage]
    refine ⟨h.coherent .storageItem, h.items.mono ?_⟩
    rintro x ⟨hid, owner, howner, hstored⟩
    have howned := hheld owner (holds_next h.coherent scene hstored)
    exact ⟨hid, howner ▸ howned.canonical_eq.symm ▸ howned.noDot⟩
  have hspec := takeListings_spec scene.moment hfiling
    (fun x hx => hheld _ (h.holds_of_mem_listings scene hx)) hnodup
    (fun _ _ => Scene.ids_of_mem_listings hids) SliceChange.zero
  rw [hstorage, ← heq] at hspec
  exact ⟨hnodup, hspec⟩

/-- **Slices mirror what was listed last.** After any turns of a follower, whatever the gateways
answer, as long as the ids of listed items are made of addresses and paths, and the accounts that
are stored when storage is listed have plain addresses for ids. -/
theorem storage_resynced (settings : Settings) (turns : List (Turn σ)) (scene : Scene σ)
    (hturns : ∀ turn ∈ turns, turn.ListsById) (hids : scene.gateway.ListsById)
    (hplain : ∀ account ∈
        (scene.next settings (initial.after settings turns)).store.accounts.toList,
      account.id = account.address ∧ Address.Plain account.address) :
    scene.Resyncs settings (initial.after settings turns) := by
  have htraced := traced_after settings hturns
  have hnext : (scene.next settings (initial.after settings turns)).Traced := htraced.next hids
  obtain ⟨hdue, hnotDue⟩ := Scene.map_fst_listings settings htraced.coherent scene
  obtain ⟨hrenewed, hkept⟩ := Scene.lastResync_next settings htraced.coherent scene
  obtain ⟨hnodup, hmirrors, hslices⟩ := htraced.slices_next hids hplain
  have hcalls : (scene.asked settings (initial.after settings turns) .storage).map (·.call) =
      ((scene.listings settings (initial.after settings turns)).map Prod.fst).map .storage := by
    rw [Scene.asked_storage, List.map_map, List.map_map]
    rfl
  refine ⟨fun hoverdue => ?_, fun hoverdue => ?_, hrenewed, hkept, fun address listing hmem => ?_,
    fun address e hmem => hslices address fun listing hok => ?_,
    fun address hnone => hslices address fun listing hok => ?_, fun address => ?_,
    fun address hfailed scenes hnone later => ?_⟩
  · rw [hcalls, hdue hoverdue, List.map_map]
    rfl
  · rw [hcalls, hnotDue hoverdue]
  · exact hmirrors address listing (Scene.mem_transcript_storage.mp hmem)
  · -- an account is not listed twice
    have heq := List.inj_on_of_nodup_map hnodup (Scene.mem_transcript_storage.mp hmem) hok rfl
    cases heq
  · exact hnone _ (Scene.mem_transcript_storage.mpr hok)
  · simp only [Scene.mem_failedStorage_next, Scene.mem_transcript_storage]
  · obtain ⟨answer, hmem⟩ := exists_listing_after hnext.coherent hfailed
      (hnext.failed address hfailed) hnone later
    exact ⟨answer, Scene.mem_transcript_storage.mpr hmem⟩

/-- A tick whose gateway knows no block, and fails to list the storage of one account. -/
def listingScene (failing : String) : Scene Unit where
  gateway := {
    ask
      | .account address, _ => (.ok (Account.sample address 1), ())
      | .contracts _, _ => (.ok [], ())
      | .storage address, _ =>
        (if address = failing then .error .transport
          else .ok [StorageItem.sample address "/storage/vault"], ())
      | _, _ => (.error .transport, ()) }
  chain := ()
  moment := ⟨fun _ => 0, Span.zero⟩

theorem listsById_listingScene (failing : String) : (listingScene failing).gateway.ListsById := by
  intro address chain listing hask item hitem
  simp only [listingScene] at hask
  split at hask
  · cases hask
  · obtain rfl := Except.ok.inj hask
    obtain rfl := List.mem_singleton.mp hitem
    rfl

/-- The settings of a follower that follows the accounts with the addresses by default. -/
def following (addresses : List String) : Settings :=
  { Settings.standard with trackedAddresses := addresses }

/-- Two accounts are followed by default, and in either of two ticks the listing of one fails. -/
theorem storage_resynced_of_sample :
    (listingScene "0x2").Resyncs (following ["0x1", "0x2"])
      (initial.after (following ["0x1", "0x2"]) [.tick (listingScene "0x1")]) :=
  storage_resynced _ _ _
    (List.forall_mem_singleton.mpr (listsById_listingScene "0x1")) (listsById_listingScene "0x2")
    (by decide +kernel)

/-- A tick whose lookups all lead to one account, which is returned under the id that is looked up.
The first listing of its storage succeeds, and the second one fails. -/
def sharedScene : Scene Bool where
  gateway := {
    ask
      | .account address, listed => (.ok { Account.sample "0x2" 1 with id := address }, listed)
      | .contracts _, listed => (.ok [], listed)
      | .storage address, false => (.ok [StorageItem.sample address "/storage/vault"], true)
      | _, listed => (.error .transport, listed) }
  chain := false
  moment := ⟨fun _ => 0, Span.zero⟩

theorem listsById_sharedScene : sharedScene.gateway.ListsById := by
  intro address listed listing hask item hitem
  cases listed with
  | true => cases hask
  | false =>
    obtain rfl := Except.ok.inj hask
    obtain rfl := List.mem_singleton.mp hitem
    rfl

/-- It is not enough that the accounts that are stored before the tick have plain addresses for ids.
If the tick brings an account in another spelling, what is listed for that account is passed over;
and if it brings two accounts with one address, a slice changes although a listing for it fails. -/
theorem not_resynced_of_new_accounts :
    (∀ account ∈ initial.store.accounts.toList,
      account.id = account.address ∧ Address.Plain account.address) ∧
    ((listingScene "0x1").gateway.ListsById ∧
      ¬(listingScene "0x1").Resyncs (following ["0xAB"]) initial) ∧
    sharedScene.gateway.ListsById ∧ ¬sharedScene.Resyncs (following ["0x1", "0x2"]) initial := by
  refine ⟨nofun, ⟨listsById_listingScene "0x1", fun h => ?_⟩, listsById_sharedScene, fun h => ?_⟩
  · -- the item that is listed is not stored, as its address is not in canonical spelling
    have hlisted : ∃ x ∈ (listingScene "0x1").listings (following ["0xAB"]) initial,
        x.1 = "0xAB" := by decide +kernel
    obtain ⟨⟨_, answer⟩, hmem, rfl⟩ := hlisted
    obtain ⟨_, hask⟩ := exists_ask_of_mem_askEach hmem
    obtain rfl : .ok [StorageItem.sample "0xAB" "/storage/vault"] = answer := hask
    have hmirrors := h.mirrored _ _ (Scene.mem_transcript_storage.mpr hmem)
    obtain ⟨item, hitem, -⟩ := hmirrors.stored "/storage/vault" _ rfl
    have hempty : (((listingScene "0x1").next (following ["0xAB"]) initial).store.storage.slice
        "0xAB").length = 0 := by decide +kernel
    rw [List.eq_nil_of_length_eq_zero hempty] at hitem
    cases hitem
  · -- the slice holds what was listed first, although the second listing failed
    have hfailed : ∃ x ∈ sharedScene.listings (following ["0x1", "0x2"]) initial,
        x.1 = "0x2" ∧ x.2.toOption.isNone := by decide +kernel
    obtain ⟨⟨_, answer⟩, hmem, rfl, hnone⟩ := hfailed
    cases answer with
    | ok listing => cases hnone
    | error e =>
      have hkept := h.kept _ e (Scene.mem_transcript_storage.mpr hmem)
      have hone : ((sharedScene.next (following ["0x1", "0x2"]) initial).store.storage.slice
          "0x2").length = 1 := by decide +kernel
      rw [hkept] at hone
      cases hone

end Follower

end ChainFeed
