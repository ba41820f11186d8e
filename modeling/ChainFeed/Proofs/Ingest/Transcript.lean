import ChainFeed.Proofs.Ingest.Heights

/-!
# The transcript of a tick

The **transcript** of a tick (`Scene.transcript`) is what the tick leaves behind when it runs
against the recorded gateway: everything that it asks, in order, with the answers. Each call belongs
to one stage (`Call.stage`), and the tick goes through its stages one after the other, so the
transcript is cut into four parts (`Scene.transcript_eq`).

What the two last stages ask is known exactly: the status of each transaction whose execution goes
on (`refreshStatuses_recorded`), and the storage of each account whose turn it is
(`resyncStorage_recorded`). What the others ask depends on the answers; the lookups of accounts
concern the queued addresses in order, and what is asked explains what they find
(`indexAccounts_recorded`).
-/

namespace ChainFeed

open Ingest

/-! ### Calls -/

/-- The stage of a tick that makes a call. -/
def Call.stage : Call → Stage
  | latestHeight | block _ | transactions _ | events _ | contents _ => .blocks
  | account _ | contracts _ => .accounts
  | status _ => .statuses
  | storage _ => .storage

/-- The address whose account is looked up. -/
def Call.account? : Call → Option String
  | account address => some address
  | _ => none

/-- The stage that asks. -/
def Inquiry.stage (inquiry : Inquiry) : Stage := inquiry.call.stage

/-- The address whose account is looked up. -/
def Inquiry.account? (inquiry : Inquiry) : Option String := inquiry.call.account?

/-- The question for the status of a transaction, with its answer. -/
def Inquiry.ofStatus (answer : Transaction × Except GatewayError TransactionStatus) : Inquiry :=
  ⟨.status answer.1.id, answer.2⟩

/-- The question for what an account stores, with its answer. -/
def Inquiry.ofListing (listing : String × Except GatewayError (List StorageItem)) : Inquiry :=
  ⟨.storage listing.1, listing.2⟩

variable {σ : Type} (gateway : Gateway σ)

namespace Ingest

/-! ### What the stages ask -/

theorem fetchBlock_stage (height : Nat) (chain : σ) (log : List Inquiry) :
    ∃ part, fetchBlock gateway.recorded height (chain, log) =
        ((fetchBlock gateway height chain).1, (fetchBlock gateway height chain).2, log ++ part) ∧
      ∀ x ∈ part, x.stage = .blocks := by
  rcases hblock : gateway.ask (.block height) chain with ⟨e | block, next⟩
  · refine ⟨[⟨.block height, .error e⟩], ?_, List.forall_mem_singleton.mpr rfl⟩
    simp only [fetchBlock, Gateway.recorded, hblock]
  · refine ⟨[⟨.block height, .ok block⟩,
      ⟨.contents block.id, (gateway.ask (.contents block.id) next).1⟩], ?_, ?_⟩
    · simp only [fetchBlock, Gateway.recorded, hblock, List.append_assoc, List.singleton_append]
    · exact List.forall_mem_cons.mpr ⟨rfl, List.forall_mem_singleton.mpr rfl⟩

/-- The first stage asks for the latest height and for blocks. -/
theorem ingestBlocks_recorded (settings : Settings) (moment : Moment) (chain : σ)
    (log : List Inquiry) (p : Progress) :
    ∃ more, ingestBlocks gateway.recorded settings moment (chain, log) p =
        ((ingestBlocks gateway settings moment chain p).1,
          (ingestBlocks gateway settings moment chain p).2, log ++ more) ∧
      ∀ x ∈ more, x.stage = .blocks := by
  rcases hlatest : gateway.ask .latestHeight chain with ⟨e | latest, next⟩
  · refine ⟨[⟨.latestHeight, .error e⟩], ?_, List.forall_mem_singleton.mpr rfl⟩
    simp only [ingestBlocks, Gateway.recorded, hlatest]
  · obtain ⟨more, heq, hmore⟩ := askEach_logged (fetchBlock gateway)
      (fetchBlock gateway.recorded)
      (motive := fun _ more => ∀ x ∈ more, x.stage = .blocks)
      (fun _ h => absurd h List.not_mem_nil)
      (fun height chain log => by
        obtain ⟨part, heq, hpart⟩ := fetchBlock_stage gateway height chain log
        exact ⟨part, heq, fun _ _ hmore => List.forall_mem_append.mpr ⟨hpart, hmore⟩⟩)
      (batch settings latest (p.state.nextHeight settings latest).1) next
      (log ++ [⟨.latestHeight, .ok latest⟩])
    refine ⟨⟨.latestHeight, .ok latest⟩ :: more, ?_, List.forall_mem_cons.mpr ⟨rfl, hmore⟩⟩
    rw [Gateway.recorded] at heq
    simp only [ingestBlocks, Gateway.recorded, hlatest, heq, List.append_assoc,
      List.singleton_append]

/-- The inquiries explain the outcome of looking up an account: both answers are there if it was
found, and otherwise one of the calls ended in the error. -/
def Explains (inquiries : List Inquiry) (address : String) :
    Except GatewayError FetchedAccount → Prop
  | .ok fetched =>
    ⟨.account address, .ok fetched.account⟩ ∈ inquiries ∧
      ⟨.contracts address, .ok fetched.contracts⟩ ∈ inquiries
  | .error e =>
    ⟨.account address, .error e⟩ ∈ inquiries ∨ ⟨.contracts address, .error e⟩ ∈ inquiries

theorem Explains.mono {inquiries more : List Inquiry} {address : String}
    {outcome : Except GatewayError FetchedAccount} (h : Explains inquiries address outcome)
    (hsub : inquiries ⊆ more) : Explains more address outcome := by
  cases outcome with
  | ok fetched => exact ⟨hsub h.1, hsub h.2⟩
  | error e => exact h.imp (fun hmem => hsub hmem) fun hmem => hsub hmem

theorem fetchAccount_stage (address : String) (chain : σ) (log : List Inquiry) :
    ∃ part, fetchAccount gateway.recorded address (chain, log) =
        ((fetchAccount gateway address chain).1, (fetchAccount gateway address chain).2,
          log ++ part) ∧
      part.filterMap Inquiry.account? = [address] ∧ (∀ x ∈ part, x.stage = .accounts) ∧
      Explains part address (fetchAccount gateway address chain).1 := by
  rcases haccount : gateway.ask (.account address) chain with ⟨e | account, next⟩
  · refine ⟨[⟨.account address, .error e⟩], ?_, rfl, List.forall_mem_singleton.mpr rfl, ?_⟩
    · simp only [fetchAccount, Gateway.recorded, haccount]
    · simp only [fetchAccount, haccount]
      exact .inl List.mem_cons_self
  · rcases hcontracts : gateway.ask (.contracts address) next with ⟨contracts, last⟩
    refine ⟨[⟨.account address, .ok account⟩, ⟨.contracts address, contracts⟩], ?_, rfl, ?_, ?_⟩
    · simp only [fetchAccount, Gateway.recorded, haccount, hcontracts, List.append_assoc,
        List.singleton_append]
    · exact List.forall_mem_cons.mpr ⟨rfl, List.forall_mem_singleton.mpr rfl⟩
    · simp only [fetchAccount, haccount, hcontracts]
      cases contracts with
      | error e => exact .inr (List.mem_cons_of_mem _ List.mem_cons_self)
      | ok contracts =>
        exact ⟨List.mem_cons_self, List.mem_cons_of_mem _ List.mem_cons_self⟩

/-- The lookups of the accounts that wait, with what they find. -/
def accountLookups (chain : σ) (waiting : List (String × Pending)) :
    List ((String × Pending) × Except GatewayError FetchedAccount) :=
  (askEach (fun waiting => fetchAccount gateway waiting.1) waiting chain).1

/-- The second stage looks up the queued accounts in order. -/
theorem indexAccounts_recorded (settings : Settings) (moment : Moment) (chain : σ)
    (log : List Inquiry) (p : Progress) :
    ∃ more, indexAccounts gateway.recorded settings moment (chain, log) p =
        ((indexAccounts gateway settings moment chain p).1,
          (indexAccounts gateway settings moment chain p).2, log ++ more) ∧
      (∀ x ∈ more, x.stage = .accounts) ∧
      let lookups := accountLookups gateway chain
        (p.state.queueTracked settings p.store).pending.toList
      more.filterMap Inquiry.account? = lookups.map (·.1.1) ∧
        ∀ lookup ∈ lookups, Explains more lookup.1.1 lookup.2 := by
  obtain ⟨more, heq, hmore⟩ :=
    askEach_logged (fun waiting : String × Pending => fetchAccount gateway waiting.1)
      (fun waiting => fetchAccount gateway.recorded waiting.1)
      (motive := fun lookups more => (∀ x ∈ more, x.stage = .accounts) ∧
        more.filterMap Inquiry.account? = lookups.map (·.1.1) ∧
        ∀ lookup ∈ lookups, Explains more lookup.1.1 lookup.2)
      ⟨fun _ h => absurd h List.not_mem_nil, rfl, fun _ h => absurd h List.not_mem_nil⟩
      (fun waiting chain log => by
        obtain ⟨part, heq, haddress, hstage, hpart⟩ :=
          fetchAccount_stage gateway waiting.1 chain log
        refine ⟨part, heq, fun lookups more hmore => ⟨?_, ?_, List.forall_mem_cons.mpr ⟨?_, ?_⟩⟩⟩
        · exact List.forall_mem_append.mpr ⟨hstage, hmore.1⟩
        · rw [List.filterMap_append, haddress, hmore.2.1]
          rfl
        · exact hpart.mono (List.subset_append_left _ _)
        · exact fun lookup hlookup =>
            (hmore.2.2 lookup hlookup).mono (List.subset_append_right _ _))
      (p.state.queueTracked settings p.store).pending.toList chain log
  refine ⟨more, ?_, hmore⟩
  simp only [indexAccounts, heq]

/-- The answers to the questions for the status of stored transactions. -/
def statusAnswers (chain : σ) (store : Store) :
    List (Transaction × Except GatewayError TransactionStatus) :=
  (askEach (fun t => gateway.ask (.status t.id)) (unsettled store) chain).1

/-- The third stage asks for the status of each transaction whose execution goes on. -/
theorem refreshStatuses_recorded (moment : Moment) (chain : σ) (log : List Inquiry)
    (p : Progress) :
    refreshStatuses gateway.recorded moment (chain, log) p =
      ((refreshStatuses gateway moment chain p).1, (refreshStatuses gateway moment chain p).2,
        log ++ (statusAnswers gateway chain p.store).map Inquiry.ofStatus) := by
  obtain ⟨more, heq, rfl⟩ := askEach_logged (fun t : Transaction => gateway.ask (.status t.id))
    (fun t => gateway.recorded.ask (.status t.id))
    (motive := fun answers more => more = answers.map Inquiry.ofStatus) rfl
    (fun t chain log => ⟨[Inquiry.ofStatus (t, (gateway.ask (.status t.id) chain).1)], rfl,
      fun _ _ hmore => hmore ▸ rfl⟩)
    (unsettled p.store) chain log
  simp only [refreshStatuses, heq, statusAnswers]

/-- The listings of the storage of accounts. -/
def storageListings (addresses : List String) (chain : σ) :
    List (String × Except GatewayError (List StorageItem)) :=
  (askEach (fun address => gateway.ask (.storage address)) addresses chain).1

theorem listStorage_recorded (moment : Moment) (addresses : List String) (chain : σ)
    (log : List Inquiry) (p : Progress) :
    listStorage gateway.recorded moment addresses (chain, log) p =
      ((listStorage gateway moment addresses chain p).1,
        (listStorage gateway moment addresses chain p).2,
        log ++ (storageListings gateway addresses chain).map Inquiry.ofListing) := by
  obtain ⟨more, heq, rfl⟩ := askEach_logged (fun address => gateway.ask (.storage address))
    (fun address => gateway.recorded.ask (.storage address))
    (motive := fun listings more => more = listings.map Inquiry.ofListing) rfl
    (fun address chain log =>
      ⟨[Inquiry.ofListing (address, (gateway.ask (.storage address) chain).1)], rfl,
        fun _ _ hmore => hmore ▸ rfl⟩)
    addresses chain log
  simp only [listStorage, heq, storageListings]

/-- The accounts whose storage a tick lists. -/
def Progress.requested (settings : Settings) (moment : Moment) (p : Progress) : List String :=
  if p.state.resyncDue settings moment.time then p.store.accounts.toList.map (·.address)
  else p.state.failedStorage.toList

/-- Where no listing failed, nobody's storage is listed again. -/
theorem State.toList_failedStorage {state : State} (h : state.failedStorage.isEmpty) :
    state.failedStorage.toList = [] :=
  List.isEmpty_iff.mp (Std.TreeSet.isEmpty_toList.trans h)

/-- The last stage asks for the storage of each account whose turn it is. -/
theorem resyncStorage_recorded (settings : Settings) (moment : Moment) (chain : σ)
    (log : List Inquiry) (p : Progress) :
    resyncStorage gateway.recorded settings moment (chain, log) p =
      ((resyncStorage gateway settings moment chain p).1,
        (resyncStorage gateway settings moment chain p).2,
        log ++ (storageListings gateway (p.requested settings moment) chain).map
          Inquiry.ofListing) := by
  unfold resyncStorage Progress.requested
  dsimp only
  split
  · exact listStorage_recorded gateway moment _ chain log _
  · split
    · rename_i hempty
      rw [State.toList_failedStorage hempty]
      simp only [storageListings, askEach, List.map_nil, List.append_nil]
    · exact listStorage_recorded gateway moment _ chain log _

end Ingest

/-! ### What a tick asks -/

namespace Scene

variable (settings : Settings) (follower : Follower) (scene : Scene σ)

/-- The progress of the tick after its first stage, and the state of the gateway. -/
def afterBlocks : Progress × σ :=
  ingestBlocks scene.gateway settings scene.moment scene.chain
    (Progress.start follower.store follower.state)

/-- The accounts that the tick looks up, each as it waits. -/
def waiting : Std.TreeMap String Pending :=
  ((scene.afterBlocks settings follower).1.state.queueTracked settings
    (scene.afterBlocks settings follower).1.store).pending

/-- What the tick looks up, and what it finds, in the order of addresses. -/
def lookups : List ((String × Pending) × Except GatewayError FetchedAccount) :=
  accountLookups scene.gateway (scene.afterBlocks settings follower).2
    (scene.waiting settings follower).toList

/-- The progress of the tick after its second stage, and the state of the gateway. -/
def afterAccounts : Progress × σ :=
  indexAccounts scene.gateway settings scene.moment (scene.afterBlocks settings follower).2
    (scene.afterBlocks settings follower).1

/-- The progress of the tick after its third stage, and the state of the gateway. -/
def afterStatuses : Progress × σ :=
  refreshStatuses scene.gateway scene.moment (scene.afterAccounts settings follower).2
    (scene.afterAccounts settings follower).1

theorem progress_eq :
    scene.progress settings follower =
      (resyncStorage scene.gateway settings scene.moment (scene.afterStatuses settings follower).2
        (scene.afterStatuses settings follower).1).1 := by
  rw [progress, Follower.run_eq]
  rfl

/-- Everything that the tick asks, with the answers. -/
def transcript : List Inquiry :=
  (follower.run scene.gateway.recorded settings scene.moment (scene.chain, [])).2.2

/-- What the tick asks in a stage, with the answers. -/
def asked (stage : Stage) : List Inquiry :=
  (scene.transcript settings follower).filter (·.stage = stage)

/-- A tick asks stage by stage. -/
theorem transcript_eq :
    ∃ blocks accounts, scene.transcript settings follower =
        blocks ++ accounts ++
          (statusAnswers scene.gateway (scene.afterAccounts settings follower).2
            (scene.afterAccounts settings follower).1.store).map Inquiry.ofStatus ++
          (storageListings scene.gateway
            ((scene.afterStatuses settings follower).1.requested settings scene.moment)
            (scene.afterStatuses settings follower).2).map Inquiry.ofListing ∧
      (∀ x ∈ blocks, x.stage = .blocks) ∧ (∀ x ∈ accounts, x.stage = .accounts) ∧
      accounts.filterMap Inquiry.account? = (scene.lookups settings follower).map (·.1.1) ∧
      ∀ lookup ∈ scene.lookups settings follower, Explains accounts lookup.1.1 lookup.2 := by
  obtain ⟨blocks, hblocks, hblocksStage⟩ := ingestBlocks_recorded scene.gateway settings
    scene.moment scene.chain [] (Progress.start follower.store follower.state)
  rw [List.nil_append] at hblocks
  obtain ⟨accounts, haccounts, hspec⟩ := indexAccounts_recorded scene.gateway
    settings scene.moment (scene.afterBlocks settings follower).2 blocks
    (scene.afterBlocks settings follower).1
  refine ⟨blocks, accounts, ?_, hblocksStage, hspec⟩
  unfold afterBlocks at haccounts
  simp only [transcript, Follower.run_eq, hblocks, haccounts, refreshStatuses_recorded,
    resyncStorage_recorded]
  rfl

variable {settings follower scene}

/-- Of what one stage asks, picking out what a stage asks keeps all or nothing. -/
theorem filter_stage_eq {stage : Stage} {inquiries : List Inquiry}
    (h : ∀ x ∈ inquiries, x.stage = stage) (picked : Stage) :
    inquiries.filter (·.stage = picked) = if stage = picked then inquiries else [] := by
  split
  · rename_i heq
    exact List.filter_eq_self.mpr fun x hx => decide_eq_true ((h x hx).trans heq)
  · rename_i hne
    exact List.filter_eq_nil_iff.mpr fun x hx hpicked =>
      hne ((h x hx).symm.trans (of_decide_eq_true hpicked))

/-- **What each of the last three stages asks.** -/
theorem asked_eq :
    ((scene.asked settings follower .accounts).filterMap Inquiry.account? =
        (scene.lookups settings follower).map (·.1.1) ∧
      ∀ lookup ∈ scene.lookups settings follower,
        Explains (scene.asked settings follower .accounts) lookup.1.1 lookup.2) ∧
      scene.asked settings follower .statuses =
        (statusAnswers scene.gateway (scene.afterAccounts settings follower).2
          (scene.afterAccounts settings follower).1.store).map Inquiry.ofStatus ∧
      scene.asked settings follower .storage =
        (storageListings scene.gateway
          ((scene.afterStatuses settings follower).1.requested settings scene.moment)
          (scene.afterStatuses settings follower).2).map Inquiry.ofListing := by
  obtain ⟨blocks, accounts, heq, hblocks, haccounts, hlookups⟩ :=
    transcript_eq settings follower scene
  have hstatuses (answers : List (Transaction × Except GatewayError TransactionStatus)) :
      ∀ x ∈ answers.map Inquiry.ofStatus, x.stage = .statuses :=
    List.forall_mem_map.mpr fun _ _ => rfl
  have hlistings (listings : List (String × Except GatewayError (List StorageItem))) :
      ∀ x ∈ listings.map Inquiry.ofListing, x.stage = .storage :=
    List.forall_mem_map.mpr fun _ _ => rfl
  have hasked : scene.asked settings follower .accounts = accounts := by
    simp only [asked, heq, List.filter_append, filter_stage_eq hblocks, filter_stage_eq haccounts,
      filter_stage_eq (hstatuses _), filter_stage_eq (hlistings _)]
    simp
  refine ⟨hasked.symm ▸ hlookups, ?_⟩
  simp only [asked, heq, List.filter_append, filter_stage_eq hblocks, filter_stage_eq haccounts,
    filter_stage_eq (hstatuses _), filter_stage_eq (hlistings _)]
  simp

end Scene

end ChainFeed
