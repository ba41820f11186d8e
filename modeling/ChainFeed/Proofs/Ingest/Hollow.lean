import ChainFeed.Proofs.Address.Spelling
import ChainFeed.Proofs.Ingest.Discovery

/-!
# Addresses that name nobody

An address is **hollow** if nothing is left of it without its mark (`Address.Hollow`): it is empty,
or it is one of the marks by itself. A block queues no empty address. But the addresses that events
refer to are brought into their canonical spelling first, and the canonical spelling of blanks is
the mark; and a mark that takes part in a transaction is not empty either.

What waits for a lookup was **raised** in an earlier tick: a block was seen to concern it, or it is
followed by default and was not stored (`Follower.raised_of_pending`). So a follower asks about
exactly those addresses that are raised (`Follower.asked_iff_raised`), and about hollow ones exactly
if a block spells one, or one is followed by default and not stored (`Follower.hollow_asked_iff`).
-/

namespace ChainFeed

open Ingest

/-! ### Hollow addresses -/

namespace Address

/-- Nothing is left of the characters without the mark in front. -/
def Hollow (cs : List Char) : Prop := dropMark cs = []

instance (cs : List Char) : Decidable (Hollow cs) := inferInstanceAs (Decidable (_ = _))

theorem hollow_iff {address : String} :
    Hollow address.toList ↔ address = "" ∨ address = "0x" ∨ address = "0X" := by
  have hchars (cs : List Char) :
      dropMark cs = [] ↔ cs = [] ∨ cs = ['0', 'x'] ∨ cs = ['0', 'X'] := by
    unfold dropMark
    split <;> simp_all
  rw [Hollow, hchars, ← String.toList_inj, ← String.toList_inj, ← String.toList_inj]
  rfl

/-- A canonical spelling is hollow if nothing but blanks and a mark was spelled. -/
theorem hollow_canonical_iff {address : String} :
    Hollow (canonical address).toList ↔ Hollow (Text.trim address.toList) := by
  have hdrop : dropMark (canonical address).toList = bareChars address.toList := by
    rw [canonical, String.toList_ofList]
    rfl
  rw [Hollow, hdrop, Hollow, bareChars]
  constructor
  · exact Text.lowerFrom_eq_nil
  · intro h
    rw [h]
    rfl

end Address

/-- The text that the event's data hold in place of the address that it refers to. -/
def Event.referenceText? (event : Event) : Option String :=
  (referenceField? event.type).bind event.dataText?

theorem Event.reference?_eq (event : Event) :
    event.reference? = event.referenceText?.map Address.canonical := by
  rw [reference?, referenceText?, Option.map_eq_bind, Option.bind_assoc]
  rfl

namespace Ingest.FetchedBlock

variable {fetched : FetchedBlock} {store : Store}

/-- The block spells a hollow address that is not empty when it is queued: as a participant of an
accepted transaction, or where an accepted event refers to an account. -/
def SpellsHollow (fetched : FetchedBlock) (store : Store) : Prop :=
  (∃ t ∈ fetched.acceptedTransactions store, ∃ participant ∈ t.participants,
      participant ≠ "" ∧ Address.Hollow participant.toList) ∨
    ∃ e ∈ fetched.acceptedEvents store, ∃ text, e.referenceText? = some text ∧
      Address.Hollow (Text.trim text.toList)

theorem mem_observed_iff {address : String} :
    address ∈ fetched.observed store ↔ address ≠ "" ∧
      ((∃ t ∈ fetched.acceptedTransactions store, address ∈ t.participants) ∨
        ∃ e ∈ fetched.acceptedEvents store, ∃ text, e.referenceText? = some text ∧
          Address.canonical text = address) := by
  rw [observed, List.mem_filter, List.mem_append, List.mem_flatMap, List.mem_flatMap, and_comm,
    decide_eq_true_iff]
  simp only [Option.mem_toList, Event.reference?_eq, Option.map_eq_some_iff]

/-- A block is seen to concern a hollow address exactly if it spells one. -/
theorem exists_hollow_observed_iff :
    (∃ address ∈ fetched.observed store, Address.Hollow address.toList) ↔
      fetched.SpellsHollow store := by
  constructor
  · rintro ⟨address, hmem, hhollow⟩
    obtain ⟨hne, ⟨t, ht, hparticipant⟩ | ⟨e, he, text, htext, rfl⟩⟩ := mem_observed_iff.mp hmem
    · exact .inl ⟨t, ht, address, hparticipant, hne, hhollow⟩
    · exact .inr ⟨e, he, text, htext, Address.hollow_canonical_iff.mp hhollow⟩
  · rintro (⟨t, ht, address, hparticipant, hne, hhollow⟩ | ⟨e, he, text, htext, hhollow⟩)
    · exact ⟨address, mem_observed_iff.mpr ⟨hne, .inl ⟨t, ht, hparticipant⟩⟩, hhollow⟩
    · have hne : Address.canonical text ≠ "" := by
        rw [Address.canonical_eq_append, ne_eq, String.append_eq_empty_iff]
        exact fun h => absurd h.1 (by decide)
      exact ⟨Address.canonical text, mem_observed_iff.mpr ⟨hne, .inr ⟨e, he, text, htext, rfl⟩⟩,
        Address.hollow_canonical_iff.mpr hhollow⟩

end Ingest.FetchedBlock

/-! ### What is raised is asked about -/

variable {σ : Type}

/-- The address is followed by default and its account is not stored. -/
def Follower.Lacks (settings : Settings) (follower : Follower) (address : String) : Prop :=
  address ∈ settings.trackedAddresses ∧ ¬follower.store.accounts.contains address

namespace Scene

variable (settings : Settings) (follower : Follower) (scene : Scene σ) (address : String)

/-- A block that the tick merges is seen to concern the address, or the address is followed by
default and not stored. -/
def Raises : Prop :=
  (∃ done m rest, scene.merged settings follower.state = done ++ m :: rest ∧
      address ∈ m.2.observed (scene.behind settings follower done).store) ∨
    follower.Lacks settings address

/-- The tick asks about the account with the address. -/
def AsksAbout : Prop :=
  Call.account address ∈ (scene.asked settings follower .accounts).map (·.call)

variable {settings follower scene address}

theorem due_iff_raises_or_pending :
    scene.Due settings follower address ↔
      scene.Raises settings follower address ∨ address ∈ follower.state.pending := by
  rw [Due, Raises, Follower.Lacks, or_assoc]
  exact or_congr_right or_comm

/-- A tick asks about what it raises and about what waits from before. -/
theorem asksAbout_iff (h : follower.store.Coherent) :
    scene.AsksAbout settings follower address ↔
      scene.Raises settings follower address ∨ address ∈ follower.state.pending := by
  rw [← due_iff_raises_or_pending, AsksAbout, ← List.count_pos_iff]
  constructor
  · intro hpos
    by_contra hnot
    exact hpos.ne' ((count_asked h address).2 hnot)
  · intro hdue
    rw [(count_asked h address).1 hdue]
    exact Nat.one_pos

end Scene

namespace Follower

/-- One of the ticks is like that, with the follower as it is then. -/
def InSomeTick (settings : Settings) (turns : List (Turn σ)) (P : Follower → Scene σ → Prop) :
    Prop :=
  ∃ before scene behind, turns = before ++ .tick scene :: behind ∧
    P (initial.after settings before) scene

variable {settings : Settings} {turns : List (Turn σ)} {P : Follower → Scene σ → Prop}
  {address : String}

theorem InSomeTick.last {scene : Scene σ} (h : P (initial.after settings turns) scene) :
    InSomeTick settings (turns ++ [.tick scene]) P :=
  ⟨turns, scene, [], rfl, h⟩

theorem InSomeTick.append (h : InSomeTick settings turns P) (more : List (Turn σ)) :
    InSomeTick settings (turns ++ more) P := by
  obtain ⟨before, scene, behind, rfl, hP⟩ := h
  exact ⟨before, scene, behind ++ more, by simp, hP⟩

/-- What waits for a lookup was raised in an earlier tick. -/
theorem raised_of_pending (h : address ∈ (initial.after settings turns).state.pending) :
    InSomeTick settings turns fun follower scene => scene.Raises settings follower address := by
  induction turns using List.reverseRecOn with
  | nil => cases h
  | append_singleton turns turn ih =>
    rw [after_concat] at h
    cases turn with
    | reset => cases h
    | tick scene =>
      -- what still waits was due in the last tick
      obtain ⟨later, hlater⟩ :=
        Option.isSome_iff_exists.mp (Std.TreeMap.mem_iff_isSome_getElem?.mp h)
      obtain ⟨waiting, _, hwaiting, -⟩ := Scene.exists_lookup_of_pending_next hlater
      have hdue := (Scene.due_iff (coherent_after settings turns)).mpr
        (Option.isSome_iff_exists.mpr ⟨waiting, hwaiting⟩)
      rcases Scene.due_iff_raises_or_pending.mp hdue with hraises | hpending
      · exact .last hraises
      · exact (ih hpending).append _

/-- **A follower asks about the addresses that are raised**, and about no others. -/
theorem asked_iff_raised :
    (InSomeTick settings turns fun follower scene => scene.AsksAbout settings follower address) ↔
      InSomeTick settings turns fun follower scene => scene.Raises settings follower address := by
  constructor
  · rintro ⟨before, scene, behind, rfl, hasks⟩
    rcases (Scene.asksAbout_iff (coherent_after settings before)).mp hasks with hraises | hpending
    · exact ⟨before, scene, behind, rfl, hraises⟩
    · exact (raised_of_pending hpending).append _
  · rintro ⟨before, scene, behind, rfl, hraises⟩
    exact ⟨before, scene, behind, rfl,
      (Scene.asksAbout_iff (coherent_after settings before)).mpr (.inl hraises)⟩

/-- **When a follower asks about hollow addresses**, whatever its gateways do. It asks about the
empty address exactly if that is followed by default and not stored in some tick. It asks about a
hollow address exactly if one of its ticks merges a block that spells one, or lacks one that is
followed by default. -/
theorem hollow_asked_iff (settings : Settings) (turns : List (Turn σ)) :
    ((InSomeTick settings turns fun follower scene => scene.AsksAbout settings follower "") ↔
      InSomeTick settings turns fun follower _ => follower.Lacks settings "") ∧
    ((∃ address, Address.Hollow address.toList ∧
        InSomeTick settings turns fun follower scene =>
          scene.AsksAbout settings follower address) ↔
      InSomeTick settings turns fun follower scene =>
        (∃ done m rest, scene.merged settings follower.state = done ++ m :: rest ∧
          m.2.SpellsHollow (scene.behind settings follower done).store) ∨
        ∃ address, Address.Hollow address.toList ∧ follower.Lacks settings address) := by
  constructor
  · rw [asked_iff_raised]
    refine exists_congr fun before => exists_congr fun scene => exists_congr fun behind =>
      and_congr_right fun _ => or_iff_right ?_
    rintro ⟨done, m, rest, -, hmem⟩
    exact (FetchedBlock.mem_observed_iff.mp hmem).1 rfl
  · simp only [asked_iff_raised]
    constructor
    · rintro ⟨address, hhollow, before, scene, behind, rfl, ⟨done, m, rest, hm, hmem⟩ | hlacks⟩
      · exact ⟨before, scene, behind, rfl, .inl ⟨done, m, rest, hm,
          FetchedBlock.exists_hollow_observed_iff.mp ⟨address, hmem, hhollow⟩⟩⟩
      · exact ⟨before, scene, behind, rfl, .inr ⟨address, hhollow, hlacks⟩⟩
    · rintro ⟨before, scene, behind, rfl, ⟨done, m, rest, hm, hspells⟩ | ⟨address, hhollow, hlacks⟩⟩
      · obtain ⟨address, hmem, hhollow⟩ := FetchedBlock.exists_hollow_observed_iff.mpr hspells
        exact ⟨address, hhollow, before, scene, behind, rfl, .inl ⟨done, m, rest, hm, hmem⟩⟩
      · exact ⟨address, hhollow, before, scene, behind, rfl, .inr hlacks⟩

/-- A tick that merges one block, whose only event says that an account was created and leaves its
address empty. -/
def unaddressedScene : Scene Unit where
  gateway := {
    ask
      | .latestHeight, _ => (.ok 1, ())
      | .block height, _ => (.ok (Block.sample height), ())
      | .contents blockId, _ =>
        (.ok ⟨[Transaction.sample "t1" blockId "0x1"],
          [{ Event.sample "t1" 0 Event.accountCreatedType with
            data := .record [("address", .text "")] }]⟩, ())
      | _, _ => (.error .transport, ()) }
  chain := ()
  moment := ⟨fun _ => 0, Span.zero⟩

/-- Nothing is followed by default, and the address in an event is empty: the follower asks about
the mark by itself. -/
theorem mark_asked :
    fromFirst.trackedAddresses = [] ∧ unaddressedScene.AsksAbout fromFirst initial "0x" := by
  unfold Scene.AsksAbout
  decide +kernel

end Follower

end ChainFeed
