import ChainFeed.Proofs.Ingest.Queue

/-!
# Failures

Each failure in a report names the stage that it happened in. A stage adds failures of its own and
keeps the others (`Progress.Reports`), so what a report says about one stage can be told from what
that stage did alone: picking the failures of a stage out of a report leaves nothing of the other
stages (`Progress.Reports.filter_eq`).

For the lookups of accounts the failures are known one by one (`Progress.failures_takeLookups`): a
lookup fails if the gateway gives no answer, unless it answers that there is no such account
(`Ingest.lookupFailure?`).
-/

namespace ChainFeed

open Ingest

namespace Ingest

/-- The failure that the outcome of a lookup is reported as, if it is one. -/
def lookupFailure? (lookup : (String × Pending) × Except GatewayError FetchedAccount) :
    Option Failure :=
  match lookup.2 with
  | .ok _ => none
  | .error e => if e.isNotFound then none else some ⟨.accounts, lookup.1.1, .gateway e⟩

namespace Progress

/-- The later progress reports what the earlier one reports, and maybe failures of a stage. -/
def Reports (stage : Stage) (earlier later : Progress) : Prop :=
  ∃ more, later.report.failures = earlier.report.failures ++ more ∧ ∀ f ∈ more, f.stage = stage

namespace Reports

variable {stage : Stage} {p q r : Progress}

theorem of_eq (h : q.report.failures = p.report.failures) : Reports stage p q :=
  ⟨[], by rw [h, List.append_nil], fun _ hf => absurd hf List.not_mem_nil⟩

theorem refl (p : Progress) : Reports stage p p := of_eq rfl

theorem fail (target : String) (cause : Cause) (p : Progress) :
    Reports stage p (p.fail stage target cause) :=
  ⟨[⟨stage, target, cause⟩], rfl, List.forall_mem_singleton.mpr rfl⟩

theorem trans (hpq : Reports stage p q) (hqr : Reports stage q r) : Reports stage p r := by
  obtain ⟨first, hfirst, hfirstStage⟩ := hpq
  obtain ⟨more, hmore, hmoreStage⟩ := hqr
  refine ⟨first ++ more, ?_, List.forall_mem_append.mpr ⟨hfirstStage, hmoreStage⟩⟩
  rw [hmore, hfirst, List.append_assoc]

theorem foldl {α : Type} {step : Progress → α → Progress} (items : List α)
    (h : ∀ p item, Reports stage p (step p item)) (p : Progress) :
    Reports stage p (items.foldl step p) := by
  induction items generalizing p with
  | nil => exact refl p
  | cons item rest ih => exact (h p item).trans (ih _)

/-- Nothing is reported about other stages. -/
theorem filter_eq (h : Reports stage p q) {other : Stage} (hne : stage ≠ other) :
    q.report.failures.filter (·.stage = other) = p.report.failures.filter (·.stage = other) := by
  obtain ⟨more, heq, hstage⟩ := h
  have hmore : more.filter (·.stage = other) = [] := by
    rw [List.filter_eq_nil_iff]
    intro f hf
    simpa only [hstage f hf, decide_eq_true_eq] using hne
  rw [heq, List.filter_append, hmore, List.append_nil]

end Reports

variable {moment : Moment}

/-! ### Blocks -/

theorem failures_mergeTransactions (block : Block) (merged : List String)
    (transactions : List Transaction) (p : Progress) :
    (p.mergeTransactions moment block merged transactions).2.report.failures =
      p.report.failures := by
  induction transactions generalizing merged p with
  | nil => rfl
  | cons t rest ih =>
    rw [mergeTransactions]
    split <;> exact ih _ _

theorem failures_mergeEvents (block : Block) (merged : List String) (events : List Event)
    (p : Progress) :
    (p.mergeEvents moment block merged events).report.failures = p.report.failures := by
  induction events generalizing p with
  | nil => rfl
  | cons e rest ih =>
    rw [mergeEvents]
    split <;> exact ih _

/-- A block is merged without any failure. -/
theorem failures_mergeHeight (height : Nat) (fetched : FetchedBlock) (p : Progress) :
    (p.mergeHeight moment height fetched).report.failures = p.report.failures := by
  have hcontents : (p.mergeContents moment fetched).report.failures = p.report.failures :=
    (failures_mergeEvents _ _ _ _).trans (failures_mergeTransactions _ _ _ _)
  exact hcontents

theorem mergeHeights_reports (fetches : List (Nat × Except GatewayError FetchedBlock))
    (p : Progress) : Reports .blocks p (p.mergeHeights moment fetches) := by
  induction fetches generalizing p with
  | nil => exact .refl p
  | cons fetch rest ih =>
    obtain ⟨height, e | fetched⟩ := fetch
    · rw [mergeHeights]
      split
      · exact .refl p
      · exact .fail _ _ p
    · exact (Reports.of_eq (failures_mergeHeight height fetched p)).trans (ih _)

/-! ### Accounts -/

theorem failures_mergeAccount (settings : Settings) (waiting : Pending) (fetched : FetchedAccount)
    (p : Progress) :
    (p.mergeAccount settings moment waiting fetched).report.failures = p.report.failures := by
  unfold mergeAccount mergeContracts
  dsimp only
  exact List.foldlRecOn (motive := fun q : Progress => q.report.failures = p.report.failures) _ _
    rfl fun _ hq _ _ => hq

/-- **Each failure of a lookup is reported once, and nothing else is.** -/
theorem failures_takeLookups (settings : Settings)
    (lookups : List ((String × Pending) × Except GatewayError FetchedAccount)) (p : Progress) :
    (p.takeLookups settings moment lookups).report.failures =
      p.report.failures ++ lookups.filterMap lookupFailure? := by
  have hstep (lookup : (String × Pending) × Except GatewayError FetchedAccount) (p : Progress) :
      (p.takeLookup settings moment lookup.1.1 lookup.1.2 lookup.2).report.failures =
        p.report.failures ++ (lookupFailure? lookup).toList := by
    obtain ⟨⟨address, waiting⟩, e | fetched⟩ := lookup
    · rw [takeLookup]
      by_cases he : e.isNotFound
      · rw [if_pos he, lookupFailure?]
        dsimp only
        rw [if_pos he]
        cases waiting.afterMiss <;> exact (List.append_nil _).symm
      · rw [if_neg he, lookupFailure?]
        dsimp only
        rw [if_neg he]
        rfl
    · exact (failures_mergeAccount settings waiting fetched p).trans (List.append_nil _).symm
  induction lookups generalizing p with
  | nil => exact (List.append_nil _).symm
  | cons lookup rest ih =>
    refine (ih _).trans ?_
    rw [hstep, List.append_assoc, List.filterMap_cons]
    cases lookupFailure? lookup <;> rfl

/-! ### Statuses -/

theorem takeStatus_reports (stored : Transaction) (answer : Except GatewayError TransactionStatus)
    (p : Progress) : Reports .statuses p (p.takeStatus moment stored answer) := by
  cases answer with
  | ok status =>
    rw [takeStatus]
    split
    · unfold advance
      dsimp only
      split
      · exact .of_eq rfl
      · exact .fail _ _ _
    · exact .refl p
  | error e =>
    rw [takeStatus]
    split
    · exact .refl p
    · exact .fail _ _ p

/-! ### Storage -/

theorem takeListings_reports
    (listings : List (String × Except GatewayError (List StorageItem))) (total : SliceChange)
    (p : Progress) : Reports .storage p (p.takeListings moment listings total).2 := by
  induction listings generalizing total p with
  | nil => exact .refl p
  | cons x rest ih =>
    refine Reports.trans ?_ (ih _ _)
    obtain ⟨address, e | listing⟩ := x
    · exact (Reports.fail _ _ p).trans (.of_eq rfl)
    · exact .of_eq rfl

end Progress

/-! ### Stages -/

open Progress

variable {σ : Type} (gateway : Gateway σ) (moment : Moment)

theorem ingestBlocks_reports (settings : Settings) (chain : σ) (p : Progress) :
    Reports .blocks p (ingestBlocks gateway settings moment chain p).1 := by
  unfold ingestBlocks
  rcases gateway.ask .latestHeight chain with ⟨e | latest, next⟩
  · exact .fail _ _ p
  · exact (Reports.of_eq rfl).trans (mergeHeights_reports _ _)

theorem refreshStatuses_reports (chain : σ) (p : Progress) :
    Reports .statuses p (refreshStatuses gateway moment chain p).1 := by
  have hanswers (answers : List (Transaction × Except GatewayError TransactionStatus)) :
      Reports .statuses p (p.takeStatuses moment answers) :=
    Reports.foldl answers (fun p answer => takeStatus_reports answer.1 answer.2 p) p
  exact hanswers _

theorem resyncStorage_reports (settings : Settings) (chain : σ) (p : Progress) :
    Reports .storage p (resyncStorage gateway settings moment chain p).1 := by
  have hlist (addresses : List String) (q : Progress)
      (h : q.report.failures = p.report.failures) :
      Reports .storage p (listStorage gateway moment addresses chain q).1 :=
    (Reports.of_eq h).trans ((takeListings_reports _ _ q).trans (.of_eq rfl))
  unfold resyncStorage
  dsimp only
  split
  · exact hlist _ _ rfl
  · split
    · exact .refl p
    · exact hlist _ _ rfl

end Ingest

/-! ### Ticks -/

namespace Scene

variable {σ : Type} (settings : Settings) (follower : Follower) (scene : Scene σ)

/-- The report of the tick. -/
def report : Report := (follower.tick scene.gateway settings scene.moment scene.chain).1

variable {settings follower scene}

/-- A tick reports what its progress does, with the watermark that it ends with. -/
theorem report_eq :
    scene.report settings follower =
      { (scene.progress settings follower).report with
        watermark := (scene.progress settings follower).state.watermark } := by
  rw [report, Follower.tick_eq, progress]

/-- **What a tick reports about lookups** are the lookups that fail, in order and once each. -/
theorem filter_failures_report :
    (scene.report settings follower).failures.filter (·.stage = .accounts) =
      (scene.lookups settings follower).filterMap lookupFailure? := by
  have hreport : (scene.report settings follower).failures =
      (scene.progress settings follower).report.failures := by
    simp only [report_eq]
  have hblocks : (scene.afterBlocks settings follower).1.report.failures.filter
      (·.stage = .accounts) = [] :=
    (ingestBlocks_reports scene.gateway scene.moment settings scene.chain
      (Progress.start follower.store follower.state)).filter_eq (by decide)
  have hstatuses : Progress.Reports .statuses (scene.afterAccounts settings follower).1
      (scene.afterStatuses settings follower).1 :=
    refreshStatuses_reports scene.gateway scene.moment _ _
  have hstages (f : Failure) (hf : f ∈ (scene.lookups settings follower).filterMap lookupFailure?) :
      f.stage = .accounts := by
    obtain ⟨⟨_, e | fetched⟩, -, heq⟩ := List.mem_filterMap.mp hf
    · simp only [lookupFailure?] at heq
      split at heq
      · cases heq
      · exact Option.some.inj heq ▸ rfl
    · cases heq
  calc (scene.report settings follower).failures.filter (·.stage = .accounts)
      = (scene.afterStatuses settings follower).1.report.failures.filter (·.stage = .accounts) := by
        rw [hreport, progress_eq]
        exact (resyncStorage_reports scene.gateway scene.moment settings _ _).filter_eq (by decide)
    _ = (scene.afterAccounts settings follower).1.report.failures.filter (·.stage = .accounts) :=
        hstatuses.filter_eq (by decide)
    _ = (scene.lookups settings follower).filterMap lookupFailure? := by
        rw [afterAccounts_eq, Progress.failures_takeLookups, List.filter_append,
          List.filter_eq_self.mpr fun f hf => decide_eq_true (hstages f hf)]
        exact congrArg (· ++ _) hblocks

end Scene

end ChainFeed
