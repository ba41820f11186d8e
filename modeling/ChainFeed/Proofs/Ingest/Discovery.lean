import ChainFeed.Proofs.Ingest.Failures
import ChainFeed.Proofs.Ingest.Lookups
import ChainFeed.Proofs.Ingest.Visibility

/-!
# Discovered accounts are not lost

An address is **due** in a tick if a block that the tick merges is seen to concern it, if it waits
from before, or if it is followed by default and not stored (`Scene.Due`). Each address that is due
is looked up once, and no other is (`Scene.count_asked`).

An address **stays** in the queue from the tick on that last saw it, or that queued it because it is
followed by default, as long as its lookups fail (`Follower.Stay`). A stay knows the block that the
address was last seen in and how many lookups of it were in vain. How an address waits at any time
is told by its stay (`Follower.exists_stay`), which is extended by each tick that does not see the
address again (`Follower.Stay.concat`). So an address leaves the queue only by a lookup that
succeeds, by the fifth one in vain of its stay, or by a reset.
-/

namespace ChainFeed

open Ingest

variable {σ : Type}

/-- The blocks that the gateway answers with have ids. -/
def Gateway.NamesBlocks (gateway : Gateway σ) : Prop :=
  ∀ height chain block, (gateway.ask (.block height) chain).1 = .ok block → block.id ≠ ""

/-- The blocks that the gateway of a turn answers with have ids. -/
def Follower.Turn.NamesBlocks : Follower.Turn σ → Prop
  | tick scene => scene.gateway.NamesBlocks
  | reset => True

/-! ### Sightings -/

namespace Ingest.State

variable {address : String} {sightings : List (String × String)}

theorem mem_of_lastSeen? {blockId : String} (h : lastSeen? address sightings = some blockId) :
    (address, blockId) ∈ sightings := by
  obtain ⟨sighting, hfind, rfl⟩ := Option.map_eq_some_iff.mp h
  have hmem := List.mem_reverse.mp (List.mem_of_find?_eq_some hfind)
  have haddress : sighting.1 = address := by simpa using List.find?_some hfind
  exact haddress ▸ hmem

theorem lastSeen?_eq_none_iff :
    lastSeen? address sightings = none ↔ ∀ blockId, (address, blockId) ∉ sightings := by
  rw [lastSeen?, Option.map_eq_none_iff, List.find?_eq_none]
  constructor
  · intro h blockId hmem
    exact h _ (List.mem_reverse.mpr hmem) (beq_self_eq_true address)
  · intro h sighting hmem haddress
    refine h sighting.2 ?_
    rw [← beq_iff_eq.mp haddress]
    exact List.mem_reverse.mp hmem

end Ingest.State

namespace Scene

open Progress

variable {settings : Settings} {follower : Follower} {scene : Scene σ}

/-- The blocks that a tick merges have ids. -/
theorem ne_empty_of_mem_merged (hnames : scene.gateway.NamesBlocks) {m : Nat × FetchedBlock}
    (hm : m ∈ scene.merged settings follower.state) : m.2.block.id ≠ "" := by
  obtain ⟨chain, hblock, -⟩ := exists_answers_of_mem_merged hm
  exact hnames m.1 chain m.2.block hblock

theorem mem_sightings_iff {address blockId : String} :
    (address, blockId) ∈ scene.sightings settings follower ↔
      ∃ done m rest, scene.merged settings follower.state = done ++ m :: rest ∧
        m.2.block.id = blockId ∧
        address ∈ m.2.observed (scene.behind settings follower done).store :=
  Progress.mem_sightings_iff

/-- A block that an address is seen in has an id. -/
theorem ne_empty_of_lastSeen? (hnames : scene.gateway.NamesBlocks) {address blockId : String}
    (h : State.lastSeen? address (scene.sightings settings follower) = some blockId) :
    blockId ≠ "" := by
  obtain ⟨done, m, rest, hm, rfl, -⟩ := mem_sightings_iff.mp (State.mem_of_lastSeen? h)
  have hmem : m ∈ scene.merged settings follower.state := by
    rw [hm]
    exact List.mem_append_right _ List.mem_cons_self
  exact ne_empty_of_mem_merged hnames hmem

/-! ### Who is looked up -/

variable (settings follower scene)

/-- The address is due for a lookup: a block that the tick merges is seen to concern it, or it waits
from before, or it is followed by default and not stored. -/
def Due (address : String) : Prop :=
  (∃ done m rest, scene.merged settings follower.state = done ++ m :: rest ∧
      address ∈ m.2.observed (scene.behind settings follower done).store) ∨
    address ∈ follower.state.pending ∨
    address ∈ settings.trackedAddresses ∧ ¬follower.store.accounts.contains address

/-- The tick queues the address anew: the last block that it is seen in has the id; or it is queued
as an address that is followed by default, neither seen in a block nor queued before, and the id is
empty. -/
def Queues (address blockId : String) : Prop :=
  State.lastSeen? address (scene.sightings settings follower) = some blockId ∧ blockId ≠ "" ∨
    State.lastSeen? address (scene.sightings settings follower) = none ∧
      address ∉ follower.state.pending ∧
      (address ∈ settings.trackedAddresses ∧ ¬follower.store.accounts.contains address) ∧
      blockId = ""

/-- The outcome of the lookup of an address, if it is looked up. -/
def outcome? (address : String) : Option (Except GatewayError FetchedAccount) :=
  ((scene.lookups settings follower).find? (·.1.1 == address)).map (·.2)

/-- The address is looked up in vain. -/
def misses (address : String) : Bool :=
  match scene.outcome? settings follower address with
  | some (.error e) => e.isNotFound
  | _ => false

variable {settings follower scene} {address : String}

/-- **How an address waits when it is looked up**: as the tick queues it, or as it waited before. -/
theorem waiting_cases (h : follower.store.Coherent) (hnames : scene.gateway.NamesBlocks)
    {waiting : Pending} (hw : (scene.waiting settings follower)[address]? = some waiting) :
    (∃ blockId, scene.Queues settings follower address blockId ∧ waiting = ⟨blockId, 0⟩) ∨
      State.lastSeen? address (scene.sightings settings follower) = none ∧
        follower.state.pending[address]? = some waiting := by
  rw [getElem?_waiting h] at hw
  cases hseen : State.lastSeen? address (scene.sightings settings follower) with
  | some blockId =>
    rw [hseen] at hw
    have hblock := ne_empty_of_lastSeen? hnames hseen
    exact .inl ⟨blockId, .inl ⟨hseen, hblock⟩, (Option.some.inj hw).symm⟩
  | none =>
    rw [hseen, Option.map_none, Option.none_or] at hw
    cases hpending : follower.state.pending[address]? with
    | some before =>
      rw [hpending] at hw
      exact .inr ⟨rfl, hw⟩
    | none =>
      rw [hpending, Option.none_or] at hw
      have hnot : address ∉ follower.state.pending := by
        rw [Std.TreeMap.mem_iff_isSome_getElem?, hpending]
        exact Bool.false_ne_true
      split at hw
      · rename_i htracked
        exact .inl ⟨"", .inr ⟨hseen, hnot, htracked, rfl⟩, (Option.some.inj hw).symm⟩
      · cases hw

/-- The addresses that are looked up are those that are due. -/
theorem due_iff (h : follower.store.Coherent) :
    scene.Due settings follower address ↔
      ((scene.waiting settings follower)[address]?).isSome := by
  have hseen : (∃ done m rest, scene.merged settings follower.state = done ++ m :: rest ∧
        address ∈ m.2.observed (scene.behind settings follower done).store) ↔
      (State.lastSeen? address (scene.sightings settings follower)).isSome := by
    rw [Option.isSome_iff_ne_none, ne_eq, State.lastSeen?_eq_none_iff]
    push Not
    constructor
    · rintro ⟨done, m, rest, hm, hmem⟩
      exact ⟨_, mem_sightings_iff.mpr ⟨done, m, rest, hm, rfl, hmem⟩⟩
    · rintro ⟨blockId, hmem⟩
      obtain ⟨done, m, rest, hm, -, hobserved⟩ := mem_sightings_iff.mp hmem
      exact ⟨done, m, rest, hm, hobserved⟩
  rw [Due, hseen, getElem?_waiting h, Std.TreeMap.mem_iff_isSome_getElem?, Option.isSome_or,
    Option.isSome_or, Option.isSome_map, Bool.or_eq_true, Bool.or_eq_true]
  refine or_congr_right (or_congr_right ?_)
  split
  · rename_i htracked
    exact iff_of_true htracked rfl
  · rename_i htracked
    exact iff_of_false htracked Bool.false_ne_true

/-- How often an account is asked about. -/
theorem count_account (inquiries : List Inquiry) (address : String) :
    (inquiries.map (·.call)).count (.account address) =
      (inquiries.filterMap Inquiry.account?).count address := by
  induction inquiries with
  | nil => rfl
  | cons x rest ih =>
    rw [List.map_cons, List.count_cons, ih, List.filterMap_cons, Inquiry.account?]
    cases hcall : x.call <;> simp [Call.account?, List.count_cons]

/-- **Each address that is due is looked up once**, and no other address is. -/
theorem count_asked (h : follower.store.Coherent) (address : String) :
    (scene.Due settings follower address →
      ((scene.asked settings follower .accounts).map (·.call)).count (.account address) = 1) ∧
    (¬scene.Due settings follower address →
      ((scene.asked settings follower .accounts).map (·.call)).count (.account address) = 0) := by
  have hmem : address ∈ (scene.lookups settings follower).map (·.1.1) ↔
      scene.Due settings follower address := by
    rw [due_iff h, Option.isSome_iff_exists, List.mem_map]
    constructor
    · rintro ⟨⟨⟨_, waiting⟩, outcome⟩, hlookup, rfl⟩
      exact ⟨waiting, mem_lookups_iff.mp ⟨outcome, hlookup⟩⟩
    · rintro ⟨waiting, hwaiting⟩
      obtain ⟨outcome, hlookup⟩ := mem_lookups_iff.mpr hwaiting
      exact ⟨_, hlookup, rfl⟩
  rw [count_account, asked_eq.1.1]
  constructor
  · intro hdue
    exact List.count_eq_one_of_mem nodup_lookups (hmem.mpr hdue)
  · intro hdue
    exact List.count_eq_zero_of_not_mem (mt hmem.mp hdue)

/-! ### Outcomes -/

theorem outcome?_eq_some_iff {outcome : Except GatewayError FetchedAccount} :
    scene.outcome? settings follower address = some outcome ↔
      ∃ waiting, ((address, waiting), outcome) ∈ scene.lookups settings follower := by
  rw [outcome?, Option.map_eq_some_iff]
  constructor
  · rintro ⟨⟨⟨found, waiting⟩, _⟩, hfind, rfl⟩
    have haddress : found = address := by simpa using List.find?_some hfind
    exact ⟨waiting, haddress ▸ List.mem_of_find?_eq_some hfind⟩
  · rintro ⟨waiting, hmem⟩
    have hsome : ((scene.lookups settings follower).find? (·.1.1 == address)).isSome := by
      rw [List.find?_isSome]
      exact ⟨_, hmem, beq_self_eq_true address⟩
    obtain ⟨found, hfind⟩ := Option.isSome_iff_exists.mp hsome
    have haddress : found.1.1 = address := by simpa using List.find?_some hfind
    -- no address is looked up twice
    have heq := List.inj_on_of_nodup_map nodup_lookups (List.mem_of_find?_eq_some hfind) hmem
      haddress
    exact ⟨found, hfind, congrArg Prod.snd heq⟩

/-- How an address waits on behind a lookup in vain, unless that was the fifth one. -/
theorem afterMiss_eq {waiting : Pending} (h : waiting.notFound < Pending.lookupLimit) :
    waiting.afterMiss =
      if waiting.notFound + 1 = 5 then none else some ⟨waiting.blockId, waiting.notFound + 1⟩ := by
  rw [Pending.afterMiss]
  unfold Pending.lookupLimit at h ⊢
  by_cases hfifth : waiting.notFound + 1 = 5
  · rw [if_pos hfifth, if_neg (by omega)]
  · rw [if_neg hfifth, if_pos (by omega)]

/-- What is left of an address that waits on: its lookup failed, maybe in vain. -/
theorem afterLookup_eq_some {waiting later : Pending}
    {outcome : Except GatewayError FetchedAccount}
    (h : waiting.afterLookup outcome = some later) :
    ∃ e, outcome = .error e ∧ later = ⟨waiting.blockId, waiting.notFound + e.isNotFound.toNat⟩ ∧
      (waiting.notFound < Pending.lookupLimit → later.notFound < Pending.lookupLimit) := by
  cases outcome with
  | ok fetched => cases h
  | error e =>
    refine ⟨e, rfl, ?_⟩
    rw [Pending.afterLookup] at h
    cases he : e.isNotFound with
    | true =>
      rw [he, if_pos rfl, Pending.afterMiss] at h
      split at h
      · rename_i hlt
        obtain rfl := Option.some.inj h
        exact ⟨rfl, fun _ => hlt⟩
      · cases h
    | false =>
      rw [he, if_neg Bool.false_ne_true] at h
      obtain rfl := Option.some.inj h
      exact ⟨rfl, id⟩

/-- An address that waits behind a tick was looked up in it, and the lookup failed. -/
theorem exists_lookup_of_pending_next {later : Pending}
    (hlater : (scene.next settings follower).state.pending[address]? = some later) :
    ∃ waiting e, (scene.waiting settings follower)[address]? = some waiting ∧
      scene.outcome? settings follower address = some (.error e) ∧
      later = ⟨waiting.blockId, waiting.notFound + e.isNotFound.toNat⟩ ∧
      (waiting.notFound < Pending.lookupLimit → later.notFound < Pending.lookupLimit) := by
  cases hw : (scene.waiting settings follower)[address]? with
  | none =>
    rw [getElem?_pending_next.2 address hw] at hlater
    cases hlater
  | some waiting =>
    obtain ⟨outcome, hmem⟩ := mem_lookups_iff.mpr hw
    rw [getElem?_pending_next.1 _ hmem] at hlater
    obtain ⟨e, rfl, heq, hlt⟩ := afterLookup_eq_some hlater
    exact ⟨waiting, e, rfl, outcome?_eq_some_iff.mpr ⟨waiting, hmem⟩, heq, hlt⟩

end Scene

/-! ### Stays -/

namespace Follower

variable (settings : Settings)

/-- The ticks that a follower goes through, each with the follower as it is then. -/
def visits (follower : Follower) : List (Scene σ) → List (Follower × Scene σ)
  | [] => []
  | scene :: rest => (follower, scene) :: visits (scene.next settings follower) rest

/-- An address stays in the queue: the first of some ticks queued it, with the id of the block that
it was last seen in, none of the others saw it, all its lookups failed, and some were in vain. -/
structure Stay (address blockId : String) (follower : Follower) (first : Scene σ)
    (rest : List (Scene σ)) (count : Nat) : Prop where
  /-- The first tick queued the address. -/
  queues : first.Queues settings follower address blockId
  /-- No other tick saw it. -/
  unseen : ∀ visit ∈ visits settings (first.next settings follower) rest,
    State.lastSeen? address (visit.2.sightings settings visit.1) = none
  /-- All lookups failed. -/
  fails : ∀ visit ∈ visits settings follower (first :: rest),
    ∃ e, visit.2.outcome? settings visit.1 address = some (.error e)
  /-- So many of them were in vain. -/
  count_eq : (visits settings follower (first :: rest)).countP
    (fun visit => visit.2.misses settings visit.1 address) = count

variable {settings} {follower : Follower} {address blockId : String}

theorem visits_concat (scenes : List (Scene σ)) (scene : Scene σ) :
    follower.visits settings (scenes ++ [scene]) =
      follower.visits settings scenes ++
        [(follower.after settings (scenes.map .tick), scene)] := by
  induction scenes generalizing follower with
  | nil => rfl
  | cons first rest ih =>
    rw [List.cons_append, visits, ih, visits, List.cons_append, List.map_cons, after_cons,
      turn_tick]

theorem misses_eq {scene : Scene σ} {e : GatewayError}
    (h : scene.outcome? settings follower address = some (.error e)) :
    scene.misses settings follower address = e.isNotFound := by
  rw [Scene.misses, h]

/-- A tick that queues an address begins a stay if the lookup fails. -/
theorem Stay.of_queues {scene : Scene σ} {e : GatewayError}
    (hqueues : scene.Queues settings follower address blockId)
    (houtcome : scene.outcome? settings follower address = some (.error e)) :
    Stay settings address blockId follower scene [] e.isNotFound.toNat where
  queues := hqueues
  unseen visit hvisit := absurd hvisit List.not_mem_nil
  fails := List.forall_mem_singleton.mpr ⟨e, houtcome⟩
  count_eq := by
    have hmisses := misses_eq houtcome
    rw [visits, visits, List.countP_singleton, hmisses]
    cases e.isNotFound <;> rfl

/-- **A tick that does not see an address extends its stay** if the lookup fails. -/
theorem Stay.concat {first : Scene σ} {rest : List (Scene σ)} {count : Nat}
    (h : Stay settings address blockId follower first rest count) {scene : Scene σ}
    {e : GatewayError}
    (hunseen : State.lastSeen? address (scene.sightings settings
      (follower.after settings ((first :: rest).map .tick))) = none)
    (houtcome : scene.outcome? settings (follower.after settings ((first :: rest).map .tick))
      address = some (.error e)) :
    Stay settings address blockId follower first (rest ++ [scene])
      (count + e.isNotFound.toNat) where
  queues := h.queues
  unseen := by
    rw [visits_concat, List.forall_mem_append, List.forall_mem_singleton]
    exact ⟨h.unseen, hunseen⟩
  fails := by
    rw [← List.cons_append, visits_concat, List.forall_mem_append, List.forall_mem_singleton]
    dsimp only
    exact ⟨h.fails, e, houtcome⟩
  count_eq := by
    have hmisses := misses_eq houtcome
    rw [← List.cons_append, visits_concat, List.countP_append, h.count_eq, List.countP_singleton,
      hmisses]
    cases e.isNotFound <;> rfl

/-- **How an address waits is told by its stay.** -/
theorem exists_stay (settings : Settings) {turns : List (Turn σ)}
    (hturns : ∀ turn ∈ turns, turn.NamesBlocks) {waiting : Pending}
    (hw : (initial.after settings turns).state.pending[address]? = some waiting) :
    waiting.notFound < Pending.lookupLimit ∧
      ∃ before first rest, turns = before ++ (first :: rest).map .tick ∧
        Stay settings address waiting.blockId (initial.after settings before) first rest
          waiting.notFound := by
  -- the induction is on the turns; the last one begins the stay or extends it
  induction turns using List.reverseRecOn generalizing waiting with
  | nil => cases hw
  | append_singleton turns turn ih =>
    rw [List.forall_mem_append, List.forall_mem_singleton] at hturns
    rw [after_concat] at hw
    cases turn with
    | reset => cases hw
    | tick scene =>
      rw [turn_tick] at hw
      obtain ⟨before, e, hbefore, houtcome, rfl, hlt⟩ := Scene.exists_lookup_of_pending_next hw
      rcases Scene.waiting_cases (coherent_after settings turns) hturns.2 hbefore with
        ⟨blockId, hqueues, rfl⟩ | ⟨hunseen, hpending⟩
      · refine ⟨hlt (Nat.zero_lt_succ 4), turns, scene, [], rfl, ?_⟩
        have hstay := Stay.of_queues hqueues houtcome
        rwa [← Nat.zero_add e.isNotFound.toNat] at hstay
      · obtain ⟨hcount, start, first, rest, rfl, hstay⟩ := ih hturns.1 hpending
        rw [after_append] at hunseen houtcome
        exact ⟨hlt hcount, start, first, rest ++ [scene], by simp, hstay.concat hunseen houtcome⟩

/-- **An address leaves the queue** by a lookup that succeeds, or by the fifth one in vain of its
stay. -/
theorem found_or_fifth_miss (settings : Settings) {turns : List (Turn σ)} {scene : Scene σ}
    (hturns : ∀ turn ∈ turns, turn.NamesBlocks) (hscene : scene.gateway.NamesBlocks)
    {waiting : Pending} {outcome : Except GatewayError FetchedAccount}
    (hlookup : ((address, waiting), outcome) ∈
      scene.lookups settings (initial.after settings turns))
    (hleft : address ∉ (scene.next settings (initial.after settings turns)).state.pending) :
    (∃ fetched, outcome = .ok fetched) ∨
      ∃ before first rest, turns ++ [.tick scene] = before ++ (first :: rest).map .tick ∧
        Stay settings address waiting.blockId (initial.after settings before) first rest 5 := by
  have hnext := Scene.getElem?_pending_next.1 _ hlookup
  rw [Std.TreeMap.getElem?_eq_none hleft] at hnext
  cases outcome with
  | ok fetched => exact .inl ⟨fetched, rfl⟩
  | error e =>
    right
    have he : e.isNotFound := by
      by_contra hnot
      rw [Pending.afterLookup, if_neg hnot] at hnext
      cases hnext
    rw [Pending.afterLookup, if_pos he] at hnext
    have hw := Scene.mem_lookups_iff.mp ⟨_, hlookup⟩
    rcases Scene.waiting_cases (coherent_after settings turns) hscene hw with
      ⟨blockId, -, rfl⟩ | ⟨hunseen, hpending⟩
    · -- what the tick queues was not looked up before
      cases hnext
    · obtain ⟨hcount, start, first, rest, rfl, hstay⟩ := exists_stay settings hturns hpending
      have hfifth : waiting.notFound + e.isNotFound.toNat = 5 := by
        rw [Scene.afterMiss_eq hcount] at hnext
        rw [he, Bool.toNat_true]
        by_contra hne
        rw [if_neg hne] at hnext
        cases hnext
      have houtcome := Scene.outcome?_eq_some_iff.mpr ⟨waiting, hlookup⟩
      rw [after_append] at hunseen houtcome
      exact ⟨start, first, rest ++ [scene], by simp, hfifth ▸ hstay.concat hunseen houtcome⟩

end Follower

/-! ### The outcome of a tick -/

/-- What a tick does about the addresses that are due. -/
structure Scene.Attends (settings : Settings) (follower : Follower) (scene : Scene σ) : Prop where
  /-- Each address that is due is looked up once. -/
  once : ∀ address, scene.Due settings follower address →
    ((scene.asked settings follower .accounts).map (·.call)).count (.account address) = 1
  /-- No other address is looked up. -/
  others : ∀ address, ¬scene.Due settings follower address →
    ((scene.asked settings follower .accounts).map (·.call)).count (.account address) = 0
  /-- A lookup succeeds if both calls do; else it fails with the error of one of them. -/
  explained : ∀ lookup ∈ scene.lookups settings follower,
    Explains (scene.asked settings follower .accounts) lookup.1.1 lookup.2
  /-- An address is looked up as the tick queues it, or as it waited before. -/
  waits : ∀ address waiting outcome,
    ((address, waiting), outcome) ∈ scene.lookups settings follower →
      (∃ blockId, scene.Queues settings follower address blockId ∧ waiting = ⟨blockId, 0⟩) ∨
        State.lastSeen? address (scene.sightings settings follower) = none ∧
          follower.state.pending[address]? = some waiting
  /-- A lookup that succeeds takes the address off the queue. -/
  found : ∀ address waiting fetched,
    ((address, waiting), .ok fetched) ∈ scene.lookups settings follower →
      address ∉ (scene.next settings follower).state.pending
  /-- The account is stored with the block that it was last seen in, or else with the block that is
  stored with it by then, unless a later lookup returns it again. -/
  account : ∀ before address waiting fetched behind,
    scene.lookups settings follower = before ++ ((address, waiting), .ok fetched) :: behind →
      (∀ lookup ∈ behind, ¬ReturnsAccount fetched.account.id lookup.2) →
        (scene.next settings follower).store.accounts.Stands
          (fetched.accountIn settings
            ((scene.lookedUp settings follower before).lastSeenIn waiting fetched.account))
  /-- So is each contract, unless a later lookup returns it again; of the contracts with one id, the
  last one is. -/
  contracts : ∀ before address waiting fetched behind,
    scene.lookups settings follower = before ++ ((address, waiting), .ok fetched) :: behind →
      ∀ c ∈ fetched.contracts, (∀ lookup ∈ behind, ¬ReturnsContract c.id lookup.2) →
        ∃ last ∈ fetched.contractsIn
            ((scene.lookedUp settings follower before).lastSeenIn waiting fetched.account),
          last.id = c.id ∧ (scene.next settings follower).store.contracts.Stands last
  /-- By then, what is stored for an account is what was stored before the tick, unless an earlier
  lookup returned it. -/
  previous : ∀ before i, (∀ lookup ∈ before, ¬ReturnsAccount i lookup.2) →
    (scene.lookedUp settings follower before).store.accounts.get? i =
      follower.store.accounts.get? i
  /-- An address that is looked up in vain waits on, unless that was the fifth time. -/
  missed : ∀ address waiting e,
    ((address, waiting), .error e) ∈ scene.lookups settings follower → e.isNotFound →
      (scene.next settings follower).state.pending[address]? =
        if waiting.notFound + 1 = 5 then none
        else some ⟨waiting.blockId, waiting.notFound + 1⟩
  /-- An address waits on as it did if its lookup fails otherwise. -/
  failed : ∀ address waiting e,
    ((address, waiting), .error e) ∈ scene.lookups settings follower → ¬e.isNotFound →
      (scene.next settings follower).state.pending[address]? = some waiting
  /-- Each such failure is reported once, and nothing else is reported about lookups. -/
  reported : (scene.report settings follower).failures.filter (·.stage = .accounts) =
    (scene.lookups settings follower).filterMap lookupFailure?

namespace Follower

open Progress

variable {settings : Settings}

/-- **No discovered account is lost.** After any turns of a follower whose gateways name the blocks
that they answer with, a tick attends to all addresses that are due; each address that waits has
stayed in the queue since it was last seen or queued, with a count of its lookups in vain; and an
address that is due and does not wait on was found, or looked up in vain for the fifth time of its
stay. -/
theorem accounts_attended (settings : Settings) (turns : List (Turn σ)) (scene : Scene σ)
    (hturns : ∀ turn ∈ turns, turn.NamesBlocks) (hscene : scene.gateway.NamesBlocks) :
    scene.Attends settings (initial.after settings turns) ∧
    (∀ address waiting,
      (initial.after settings turns).state.pending[address]? = some waiting →
        ∃ before first rest, turns = before ++ (first :: rest).map .tick ∧
          Stay settings address waiting.blockId (initial.after settings before) first rest
            waiting.notFound) ∧
    ∀ address, scene.Due settings (initial.after settings turns) address →
      address ∉ (scene.next settings (initial.after settings turns)).state.pending →
        (∃ fetched, scene.outcome? settings (initial.after settings turns) address =
          some (.ok fetched)) ∨
        ∃ blockId before first rest,
          turns ++ [.tick scene] = before ++ (first :: rest).map .tick ∧
            Stay settings address blockId (initial.after settings before) first rest 5 := by
  have hcoherent := coherent_after settings turns
  have hwaits : ∀ address waiting outcome,
      ((address, waiting), outcome) ∈ scene.lookups settings (initial.after settings turns) →
        _ := fun address waiting outcome hlookup =>
    Scene.waiting_cases hcoherent hscene (Scene.mem_lookups_iff.mp ⟨outcome, hlookup⟩)
  refine ⟨⟨fun address => (Scene.count_asked hcoherent address).1,
    fun address => (Scene.count_asked hcoherent address).2, Scene.asked_eq.1.2, hwaits, ?_, ?_, ?_,
    fun before i hi => Scene.get?_accounts_lookedUp hcoherent hi, ?_, ?_,
    Scene.filter_failures_report⟩, ?_, ?_⟩
  · intro address waiting fetched hlookup
    have hnext := Scene.getElem?_pending_next.1 _ hlookup
    rw [Std.TreeMap.mem_iff_isSome_getElem?, hnext]
    exact Bool.false_ne_true
  · exact fun before address waiting fetched behind hsplit =>
      (Scene.stands_next hcoherent hsplit).1
  · exact fun before address waiting fetched behind hsplit =>
      (Scene.stands_next hcoherent hsplit).2
  · intro address waiting e hlookup he
    have hcount : waiting.notFound < Pending.lookupLimit := by
      rcases hwaits address waiting _ hlookup with ⟨blockId, -, rfl⟩ | ⟨-, hpending⟩
      · exact Nat.zero_lt_succ 4
      · exact (exists_stay settings hturns hpending).1
    rw [Scene.getElem?_pending_next.1 _ hlookup, Pending.afterLookup, if_pos he]
    exact Scene.afterMiss_eq hcount
  · intro address waiting e hlookup he
    rw [Scene.getElem?_pending_next.1 _ hlookup, Pending.afterLookup, if_neg he]
  · exact fun address waiting hpending => (exists_stay settings hturns hpending).2
  · intro address hdue hleft
    obtain ⟨waiting, hw⟩ := Option.isSome_iff_exists.mp ((Scene.due_iff hcoherent).mp hdue)
    obtain ⟨outcome, hlookup⟩ := Scene.mem_lookups_iff.mpr hw
    rcases found_or_fifth_miss settings hturns hscene hlookup hleft with ⟨fetched, rfl⟩ | hstay
    · exact .inl ⟨fetched, Scene.outcome?_eq_some_iff.mpr ⟨waiting, hlookup⟩⟩
    · exact .inr ⟨waiting.blockId, hstay⟩

/-- A tick with a chain whose blocks carry one transaction each: one account pays for that of the
first block, and another one for that of the second block. The chain's latest height is `latest`,
and `find` answers the lookups of accounts. -/
def payersScene (latest : Nat) (find : String → Except GatewayError Account) : Scene Unit where
  gateway := {
    ask
      | .latestHeight, _ => (.ok latest, ())
      | .block height, _ => (.ok (Block.sample height), ())
      | .contents blockId, _ =>
        (.ok ⟨[Transaction.sample blockId blockId
          (if blockId = Block.sampleId 1 then "0x2" else "0x1")], []⟩, ())
      | .account address, _ => (find address, ())
      | .contracts _, _ => (.ok [], ())
      | _, _ => (.error .transport, ()) }
  chain := ()
  moment := ⟨fun _ => 0, Span.zero⟩

theorem namesBlocks_payersScene (latest : Nat) (find : String → Except GatewayError Account) :
    (payersScene latest find).gateway.NamesBlocks := by
  intro height chain block hask hid
  obtain rfl := Except.ok.inj hask
  have hlength := congrArg String.length hid
  simp [Block.sample, Block.sampleId] at hlength

/-- The settings of a follower that begins with the first block. -/
def fromFirst : Settings := { Settings.standard with startHeight := some 1 }

/-- The settings of a follower that begins with the first block and follows a third account by
default. -/
def fromFirstFollowing : Settings := { fromFirst with trackedAddresses := ["0x3"] }

/-- One account exists, and one does not. All other lookups fail. -/
def findOne : String → Except GatewayError Account
  | "0x1" => .ok (Account.sample "0x1" 1)
  | "0x2" => .error (.notFound "account 0x2")
  | _ => .error .transport

/-- The follower behind the tick that merges the first block. -/
def afterFirstBlock : Follower :=
  initial.after fromFirstFollowing [.tick (payersScene 1 findOne)]

/-- The tick that merges the second block finds the account that the block mentions. The account
that waits from the tick before is looked up in vain again, and the lookup of the one that is
followed by default fails again. -/
theorem accounts_attended_of_sample :
    (payersScene 2 findOne).Attends fromFirstFollowing afterFirstBlock ∧
    (∃ before first rest, [.tick (payersScene 1 findOne)] = before ++ (first :: rest).map .tick ∧
      Stay fromFirstFollowing "0x2" (Block.sampleId 1) (initial.after fromFirstFollowing before)
        first rest 1) ∧
    ((payersScene 2 findOne).lookups fromFirstFollowing afterFirstBlock).map
        (fun lookup => (lookup.1.1, lookup.1.2, lookup.2.toOption.map (·.account.id))) =
      [("0x1", ⟨Block.sampleId 2, 0⟩, some "0x1"), ("0x2", ⟨Block.sampleId 1, 1⟩, none),
        ("0x3", ⟨"", 0⟩, none)] ∧
    ((payersScene 2 findOne).next fromFirstFollowing afterFirstBlock).state.pending.toList =
      [("0x2", ⟨Block.sampleId 1, 2⟩), ("0x3", ⟨"", 0⟩)] := by
  obtain ⟨hattends, hstays, -⟩ := accounts_attended fromFirstFollowing
    [.tick (payersScene 1 findOne)] (payersScene 2 findOne)
    (List.forall_mem_singleton.mpr (namesBlocks_payersScene 1 findOne))
    (namesBlocks_payersScene 2 findOne)
  exact ⟨hattends, hstays "0x2" ⟨Block.sampleId 1, 1⟩ (by decide +kernel), by decide +kernel,
    by decide +kernel⟩

/-- All addresses lead to one account. -/
def findShared (address : String) : Except GatewayError Account :=
  .ok { Account.sample address 1 with id := "shared" }

/-- If two addresses lead to one account, the account is stored with the block that the address
looked up last was last seen in, and not with the last one that the other was seen in. -/
theorem not_stored_with_last_block :
    ∃ lookup ∈ (payersScene 2 findShared).lookups fromFirst initial,
      lookup.1.1 = "0x1" ∧ lookup.2.toOption.map (·.account.id) = some "shared" ∧
      State.lastSeen? "0x1" ((payersScene 2 findShared).sightings fromFirst initial) =
        some (Block.sampleId 2) ∧
      (((payersScene 2 findShared).next fromFirst initial).store.accounts.get?
        "shared").map (·.blockId) = some (Block.sampleId 1) := by
  decide +kernel

end Follower

end ChainFeed
