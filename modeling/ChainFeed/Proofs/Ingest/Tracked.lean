import ChainFeed.Proofs.Ingest.Discovery
import ChainFeed.Proofs.Ingest.Isolation

/-!
# Accounts followed by default

A follower's settings list the addresses of accounts that are followed by default. A gateway knows
nothing of them: it answers with accounts that are not marked. The follower marks each account when
it is merged, by its address, and merging never changes the address of what is stored. So if a
gateway finds accounts under their own ids (`Gateway.FindsOwn`), the marks agree with the list at
all times (`Store.Marked`).

Whatever becomes of the queue, each tick looks up every listed address that is not stored. So behind
the tick its account is stored, or that very lookup failed (`Scene.stored_or_failed`).
-/

namespace ChainFeed

open Ingest

/-! ### Marks -/

/-- The account's id is its address, and it is marked as followed by default if and only if the
settings list its address. -/
structure Account.Marked (settings : Settings) (account : Account) : Prop where
  /-- The id is the address. -/
  id_eq : account.id = account.address
  /-- The mark agrees with the list. -/
  mark : account.isDefaultAccount = settings.trackedAddresses.contains account.address

/-- The index of accounts is coherent, and the marks agree with the settings. -/
structure Store.Marked (settings : Settings) (store : Store) : Prop where
  /-- The parts of the index fit together. -/
  coherent : store.accounts.Coherent
  /-- Every account is marked as the settings say. -/
  accounts : store.accounts.All (Account.Marked settings)

namespace Store.Marked

variable {settings : Settings} {store : Store}

theorem clear (h : store.Marked settings) : store.clear.Marked settings :=
  ⟨h.coherent.step (Index.Step.clear : Index.Step 0 _ _), .clear _⟩

/-- **Merging an account that is marked right keeps all marks right.** The stored account with its
id has its address as well, so it is marked right with the new account's mark. -/
theorem write (h : store.Marked settings) {a : Account} (ha : a.Marked settings) (now : Nat) :
    (store.write now (.account a)).Marked settings where
  coherent := h.coherent.step (Index.merge_step now a h.coherent)
  accounts := by
    intro i r hr
    rcases Index.get?_merge_cases hr with hr | ⟨t, -, rfl⟩ | ⟨stored, t, hstored, -, rfl⟩
    · exact h.accounts i r hr
    · exact ⟨ha.id_eq, ha.mark⟩
    · have hid : stored.id = a.id := (h.coherent.filed hstored).id_eq
      have hmarked : stored.Marked settings := h.accounts _ _ hstored
      have haddress : stored.address = a.address := by rw [← hmarked.id_eq, hid, ha.id_eq]
      refine ⟨hmarked.id_eq, ?_⟩
      show a.isDefaultAccount = settings.trackedAddresses.contains stored.address
      rw [haddress, ha.mark]

end Store.Marked

/-! ### Lookups -/

namespace Ingest.Progress

variable {settings : Settings} {moment : Moment} {address : String} {waiting : Pending}
  {outcome : Except GatewayError FetchedAccount} {p : Progress} {i : String}

/-- What a lookup does to the stored accounts. -/
theorem accounts_takeLookup (settings : Settings) (moment : Moment) (address : String)
    (waiting : Pending) (outcome : Except GatewayError FetchedAccount) (p : Progress) :
    (p.takeLookup settings moment address waiting outcome).store.accounts =
      match outcome with
      | .ok fetched => (p.mergeFound settings moment waiting fetched).store.accounts
      | .error _ => p.store.accounts := by
  cases outcome with
  | ok fetched => exact accounts_mergeAccount settings moment waiting fetched p
  | error e =>
    rw [takeLookup]
    split
    · cases waiting.afterMiss <;> rfl
    · rfl

/-- An account that is found under its own id is marked right. -/
theorem marked_takeLookup (h : p.store.Marked settings)
    (hid : ∀ fetched, outcome = .ok fetched → fetched.account.id = fetched.account.address) :
    (p.takeLookup settings moment address waiting outcome).store.Marked settings := by
  have haccounts := accounts_takeLookup settings moment address waiting outcome p
  cases outcome with
  | ok fetched =>
    have hmarked : (fetched.accountIn settings
        (p.lastSeenIn waiting fetched.account)).Marked settings := ⟨hid fetched rfl, rfl⟩
    have hfound : (p.mergeFound settings moment waiting fetched).store.Marked settings :=
      h.write hmarked _
    exact ⟨haccounts ▸ hfound.coherent, haccounts ▸ hfound.accounts⟩
  | error e => exact ⟨haccounts ▸ h.coherent, haccounts ▸ h.accounts⟩

/-- A lookup removes no account, and what it returns is stored. -/
theorem contains_takeLookup (h : p.store.accounts.contains i ∨ ReturnsAccount i outcome) :
    (p.takeLookup settings moment address waiting outcome).store.accounts.contains i := by
  rw [accounts_takeLookup]
  cases outcome with
  | ok fetched =>
    refine Index.contains_merge (h.imp_right ?_)
    rintro ⟨_, hfetched, hid⟩
    obtain rfl := Except.ok.inj hfetched
    exact hid
  | error e =>
    refine h.resolve_right ?_
    rintro ⟨_, hfetched, -⟩
    cases hfetched

theorem contains_takeLookups
    {lookups : List ((String × Pending) × Except GatewayError FetchedAccount)}
    (h : p.store.accounts.contains i ∨ ∃ lookup ∈ lookups, ReturnsAccount i lookup.2) :
    (p.takeLookups settings moment lookups).store.accounts.contains i := by
  induction lookups generalizing p with
  | nil => exact h.resolve_right fun ⟨_, hmem, _⟩ => List.not_mem_nil hmem
  | cons lookup rest ih =>
    refine ih (p := p.takeLookup settings moment lookup.1.1 lookup.1.2 lookup.2) ?_
    rw [List.exists_mem_cons_iff, ← or_assoc] at h
    exact h.imp_left contains_takeLookup

end Ingest.Progress

/-! ### Ticks -/

variable {σ : Type}

/-- The gateway finds accounts under their own addresses, which are their ids. -/
def Gateway.FindsOwn (gateway : Gateway σ) : Prop :=
  ∀ address chain a, (gateway.ask (.account address) chain).1 = .ok a →
    a.id = address ∧ a.address = address

/-- The gateway of a turn finds accounts under their own addresses. -/
def Follower.Turn.FindsOwn : Follower.Turn σ → Prop
  | tick scene => scene.gateway.FindsOwn
  | reset => True

namespace Scene

variable {settings : Settings} {follower : Follower} {scene : Scene σ} {address : String}

/-- A tick finds accounts under their own addresses. -/
theorem found_of_mem_lookups (hfinds : scene.gateway.FindsOwn)
    {lookup : (String × Pending) × Except GatewayError FetchedAccount}
    (hlookup : lookup ∈ scene.lookups settings follower) {fetched : FetchedAccount}
    (hfetched : lookup.2 = .ok fetched) :
    fetched.account.id = lookup.1.1 ∧ fetched.account.address = lookup.1.1 := by
  obtain ⟨chain, hask⟩ := exists_ask_of_mem_askEach hlookup
  exact hfinds _ _ _ (answered_of_fetchAccount (hask.trans hfetched)).1

/-- A tick keeps the marks right. -/
theorem marked_next (h : follower.store.Marked settings) (hfinds : scene.gateway.FindsOwn) :
    (scene.next settings follower).store.Marked settings := by
  have haccounts : (scene.taken settings follower).store.accounts = follower.store.accounts :=
    index_afterBlocks (by decide : Kind.account ∉ [Kind.transaction, .event, .block])
  have htaken : (scene.taken settings follower).store.Marked settings :=
    ⟨haccounts ▸ h.coherent, haccounts ▸ h.accounts⟩
  have hlookedUp :
      (scene.lookedUp settings follower (scene.lookups settings follower)).store.Marked settings :=
    List.foldlRecOn (motive := fun q : Progress => q.store.Marked settings) _ _ htaken
      fun q hq lookup hlookup => Progress.marked_takeLookup hq fun fetched hfetched =>
        have hown := found_of_mem_lookups hfinds hlookup hfetched
        hown.1.trans hown.2.symm
  constructor
  · rw [accounts_next_eq]
    exact hlookedUp.coherent
  · rw [accounts_next_eq]
    exact hlookedUp.accounts

/-- A tick removes no account, and what a lookup returns is stored. -/
theorem contains_next {i : String} (h : follower.store.accounts.contains i ∨
      ∃ lookup ∈ scene.lookups settings follower, ReturnsAccount i lookup.2) :
    (scene.next settings follower).store.accounts.contains i := by
  have haccounts : (scene.taken settings follower).store.accounts = follower.store.accounts :=
    index_afterBlocks (by decide : Kind.account ∉ [Kind.transaction, .event, .block])
  rw [accounts_next_eq]
  exact Progress.contains_takeLookups (haccounts.symm ▸ h)

/-- **Behind a tick, an address that is followed by default is stored, or its lookup failed.** -/
theorem stored_or_failed (h : follower.store.Coherent) (hfinds : scene.gateway.FindsOwn)
    (htracked : address ∈ settings.trackedAddresses) :
    (scene.next settings follower).store.accounts.contains address ∨
      ∃ e, scene.outcome? settings follower address = some (.error e) := by
  by_cases hstored : follower.store.accounts.contains address
  · exact .inl (contains_next (.inl hstored))
  · -- what is listed and not stored is due, however often it was dropped
    have hdue : scene.Due settings follower address := .inr (.inr ⟨htracked, hstored⟩)
    obtain ⟨waiting, hwaiting⟩ := Option.isSome_iff_exists.mp ((due_iff h).mp hdue)
    obtain ⟨outcome, hlookup⟩ := mem_lookups_iff.mpr hwaiting
    cases outcome with
    | ok fetched =>
      have hown := found_of_mem_lookups hfinds hlookup rfl
      exact .inl (contains_next (.inr ⟨_, hlookup, fetched, rfl, hown.1⟩))
    | error e => exact .inr ⟨e, outcome?_eq_some_iff.mpr ⟨waiting, hlookup⟩⟩

end Scene

/-! ### Turns -/

namespace Follower

theorem marked_after (settings : Settings) {turns : List (Turn σ)}
    (h : ∀ turn ∈ turns, turn.FindsOwn) : (initial.after settings turns).store.Marked settings :=
  after_induction_of_forall (P := fun follower => follower.store.Marked settings)
    ⟨Index.Coherent.empty, .clear Index.empty⟩
    (fun _ _ hfinds hmarked => Scene.marked_next hmarked hfinds)
    (fun _ hmarked => hmarked.clear) h

/-- **Marks follow the list, and the list is followed.** After any turns of a follower whose
gateways find accounts under their own addresses, the stored accounts that are marked as followed by
default are those whose addresses the settings list; and behind every tick among the turns, each
listed address is stored, or it was looked up in that tick and the lookup failed. -/
theorem tracked_accounts (settings : Settings) (turns : List (Turn σ))
    (h : ∀ turn ∈ turns, turn.FindsOwn) :
    (∀ account ∈ (initial.after settings turns).store.accounts.toList,
      account.isDefaultAccount ↔ account.address ∈ settings.trackedAddresses) ∧
    ∀ before scene behind, turns = before ++ .tick scene :: behind →
      ∀ address ∈ settings.trackedAddresses,
        (initial.after settings (before ++ [.tick scene])).store.accounts.contains address ∨
          ∃ e, scene.outcome? settings (initial.after settings before) address =
            some (.error e) := by
  constructor
  · intro account haccount
    rw [((marked_after settings h).accounts.of_mem_toList haccount).mark, List.contains_iff_mem]
  · rintro before scene behind rfl address htracked
    have hfinds : scene.gateway.FindsOwn :=
      h (.tick scene) (List.mem_append_right _ List.mem_cons_self)
    rw [after_concat]
    exact Scene.stored_or_failed (coherent_after settings before) hfinds htracked

/-- A tick whose gateway finds every account but one. -/
def lackingScene (lacking : String) : Scene Unit where
  gateway := {
    ask
      | .latestHeight, _ => (.ok 1, ())
      | .block height, _ => (.ok (Block.sample height), ())
      | .contents blockId, _ => (.ok ⟨[.sample "tx-1" blockId "0x3"], []⟩, ())
      | .account address, _ =>
        (if address = lacking then .error (.notFound address) else .ok (Account.sample address 1),
          ())
      | .contracts _, _ => (.ok [], ())
      | _, _ => (.error .transport, ()) }
  chain := ()
  moment := ⟨fun _ => 0, Span.zero⟩

theorem findsOwn_lackingScene (lacking : String) : (lackingScene lacking).gateway.FindsOwn := by
  intro address chain a hask
  dsimp only [lackingScene] at hask
  split at hask
  · cases hask
  · obtain rfl := Except.ok.inj hask
    exact ⟨rfl, rfl⟩

/-- The settings of a follower that follows two accounts by default. -/
def followingTwo : Settings := { Settings.standard with trackedAddresses := ["0x1", "0x2"] }

/-- The account that is lacking is dropped behind the fifth tick, and the sixth tick looks it up
again. -/
theorem tracked_accounts_of_sample :
    let first := List.replicate 5 (.tick (lackingScene "0x2"))
    let all := first ++ [.tick (lackingScene "0x2")]
    (∀ account ∈ (initial.after followingTwo all).store.accounts.toList,
      account.isDefaultAccount ↔ account.address ∈ followingTwo.trackedAddresses) ∧
    ((initial.after followingTwo all).store.accounts.contains "0x2" ∨
      ∃ e, (lackingScene "0x2").outcome? followingTwo (initial.after followingTwo first) "0x2" =
        some (.error e)) := by
  intro first all
  have hfinds : ∀ turn ∈ all, turn.FindsOwn := by
    intro turn hturn
    have hmem : turn ∈ List.replicate 6 (.tick (lackingScene "0x2")) := hturn
    exact List.eq_of_mem_replicate hmem ▸ findsOwn_lackingScene "0x2"
  obtain ⟨hmarks, hfollowed⟩ := tracked_accounts followingTwo all hfinds
  exact ⟨hmarks, hfollowed first (lackingScene "0x2") [] rfl "0x2" (by decide)⟩

end Follower

end ChainFeed
