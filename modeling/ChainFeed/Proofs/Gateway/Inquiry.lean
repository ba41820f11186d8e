import Mathlib.Data.List.Basic
import ChainFeed.Ingest.Blocks

/-!
# What a gateway was asked

An **inquiry** is a call together with its answer. The **recorded** gateway gives the same answers
as the one that it records, and keeps a list of all inquiries (`Gateway.recorded`), so what a stage
of a tick asked and heard is the list that it leaves when it runs against the recorded gateway.

The outcome of fetching the block at a height is **backed** by a list of inquiries if they explain
it: a block that was fetched came with an answer to either call, and a height without a block came
with a call that failed (`Backed`).
-/

namespace ChainFeed

/-- A call and its answer. -/
structure Inquiry where
  /-- The call. -/
  call : Call
  /-- The answer, or the error in its place. -/
  answer : Except GatewayError call.Answer

/-- The call ended in an error. -/
def Inquiry.Failed (inquiry : Inquiry) : Prop :=
  ∃ e, inquiry.answer = .error e

variable {σ : Type}

/-- The gateway that answers as `gateway` does and keeps a list of the inquiries. -/
def Gateway.recorded (gateway : Gateway σ) : Gateway (σ × List Inquiry) where
  ask call chain :=
    ((gateway.ask call chain.1).1, (gateway.ask call chain.1).2,
      chain.2 ++ [⟨call, (gateway.ask call chain.1).1⟩])

/-! ### Asking about many items -/

section

variable {α β : Type} (ask : α → σ → β × σ)

theorem askEach_cons (item : α) (rest : List α) (chain : σ) :
    askEach ask (item :: rest) chain =
      ((item, (ask item chain).1) :: (askEach ask rest (ask item chain).2).1,
        (askEach ask rest (ask item chain).2).2) := rfl

/-- Each item gets one answer. -/
theorem map_fst_askEach (items : List α) (chain : σ) :
    (askEach ask items chain).1.map Prod.fst = items := by
  induction items generalizing chain with
  | nil => rfl
  | cons item rest ih => rw [askEach_cons, List.map_cons, ih]

/-- What is answered about an item was answered to a question about it. -/
theorem exists_ask_of_mem_askEach {ask : α → σ → β × σ} {items : List α} {chain : σ} {x : α × β}
    (h : x ∈ (askEach ask items chain).1) : ∃ chain, (ask x.1 chain).1 = x.2 := by
  induction items generalizing chain with
  | nil => cases h
  | cons item rest ih =>
    rw [askEach_cons] at h
    rcases List.mem_cons.mp h with rfl | h
    · exact ⟨chain, rfl⟩
    · exact ih h

/-- If what is asked about one item is added to a log, then so is what is asked about many, part by
part. -/
theorem askEach_logged (logged : α → σ × List Inquiry → β × σ × List Inquiry)
    {motive : List (α × β) → List Inquiry → Prop} (nil : motive [] [])
    (cons : ∀ item chain log, ∃ part,
      logged item (chain, log) = ((ask item chain).1, (ask item chain).2, log ++ part) ∧
        ∀ answers more, motive answers more →
          motive ((item, (ask item chain).1) :: answers) (part ++ more))
    (items : List α) (chain : σ) (log : List Inquiry) :
    ∃ more, askEach logged items (chain, log) =
        ((askEach ask items chain).1, (askEach ask items chain).2, log ++ more) ∧
      motive (askEach ask items chain).1 more := by
  induction items generalizing chain log with
  | nil => exact ⟨[], by simp only [askEach, List.append_nil], nil⟩
  | cons item rest ih =>
    obtain ⟨part, heq, hpart⟩ := cons item chain log
    obtain ⟨more, hmore, hrest⟩ := ih (ask item chain).2 (log ++ part)
    refine ⟨part ++ more, ?_, hpart _ _ hrest⟩
    simp only [askEach, heq, hmore, List.append_assoc]

end

namespace Ingest

/-! ### Fetching blocks -/

/-- The inquiries explain the outcome of fetching the block at a height. -/
def Backed (inquiries : List Inquiry) (height : Nat) : Except GatewayError FetchedBlock → Prop
  | .ok fetched =>
    ⟨.block height, .ok fetched.block⟩ ∈ inquiries ∧
      ⟨.contents fetched.block.id, .ok fetched.contents⟩ ∈ inquiries
  | .error _ => ∃ x ∈ inquiries, x.Failed

theorem Backed.mono {inquiries more : List Inquiry} {height : Nat}
    {outcome : Except GatewayError FetchedBlock} (h : Backed inquiries height outcome)
    (hsub : inquiries ⊆ more) : Backed more height outcome := by
  cases outcome with
  | ok fetched => exact ⟨hsub h.1, hsub h.2⟩
  | error e =>
    obtain ⟨x, hx, hfailed⟩ := h
    exact ⟨x, hsub hx, hfailed⟩

/-- A block that was fetched came with an answer to either call. -/
theorem answers_of_fetchBlock_eq_ok {gateway : Gateway σ} {height : Nat} {chain : σ}
    {fetched : FetchedBlock} (h : (fetchBlock gateway height chain).1 = .ok fetched) :
    (gateway.ask (.block height) chain).1 = .ok fetched.block ∧
      (gateway.ask (.contents fetched.block.id) (gateway.ask (.block height) chain).2).1 =
        .ok fetched.contents := by
  rcases hblock : gateway.ask (.block height) chain with ⟨e | block, next⟩
  · simp only [fetchBlock, hblock] at h
    cases h
  · rcases hcontents : gateway.ask (.contents block.id) next with ⟨e | contents, last⟩
    · simp only [fetchBlock, hblock, hcontents] at h
      cases h
    · simp only [fetchBlock, hblock, hcontents] at h
      obtain rfl := Except.ok.inj h
      exact ⟨rfl, congrArg Prod.fst hcontents⟩

/-- Fetching a block from the recorded gateway has the same outcome, and the inquiries explain it.
-/
theorem fetchBlock_recorded (gateway : Gateway σ) (height : Nat) (chain : σ)
    (log : List Inquiry) :
    ∃ more, fetchBlock gateway.recorded height (chain, log) =
        ((fetchBlock gateway height chain).1, (fetchBlock gateway height chain).2, log ++ more) ∧
      Backed more height (fetchBlock gateway height chain).1 := by
  rcases hblock : gateway.ask (.block height) chain with ⟨_ | block, next⟩
  · rename_i e
    refine ⟨[⟨.block height, .error e⟩], ?_, ?_⟩
    · simp only [fetchBlock, Gateway.recorded, hblock]
    · simp only [fetchBlock, hblock]
      exact ⟨_, List.mem_cons_self, e, rfl⟩
  · rcases hcontents : gateway.ask (.contents block.id) next with ⟨contents, last⟩
    refine ⟨[⟨.block height, .ok block⟩, ⟨.contents block.id, contents⟩], ?_, ?_⟩
    · simp only [fetchBlock, Gateway.recorded, hblock, hcontents, List.append_assoc,
        List.singleton_append]
    · simp only [fetchBlock, hblock, hcontents]
      cases contents with
      | error e => exact ⟨_, List.mem_cons_of_mem _ List.mem_cons_self, e, rfl⟩
      | ok contents =>
        exact ⟨List.mem_cons_self, List.mem_cons_of_mem _ List.mem_cons_self⟩

/-- Fetching blocks from the recorded gateway has the same outcomes, and the inquiries explain
them. -/
theorem askEach_recorded (gateway : Gateway σ) (heights : List Nat) (chain : σ)
    (log : List Inquiry) :
    ∃ more, askEach (fetchBlock gateway.recorded) heights (chain, log) =
        ((askEach (fetchBlock gateway) heights chain).1,
          (askEach (fetchBlock gateway) heights chain).2, log ++ more) ∧
      ∀ fetch ∈ (askEach (fetchBlock gateway) heights chain).1, Backed more fetch.1 fetch.2 := by
  refine askEach_logged (fetchBlock gateway) (fetchBlock gateway.recorded)
    (motive := fun fetches more => ∀ fetch ∈ fetches, Backed more fetch.1 fetch.2)
    (fun _ h => absurd h List.not_mem_nil) ?_ heights chain log
  intro height chain log
  obtain ⟨part, heq, hpart⟩ := fetchBlock_recorded gateway height chain log
  refine ⟨part, heq, fun fetches more hmore => List.forall_mem_cons.mpr ⟨?_, ?_⟩⟩
  · exact hpart.mono (List.subset_append_left _ _)
  · exact fun fetch hfetch => (hmore fetch hfetch).mono (List.subset_append_right _ _)

end Ingest

end ChainFeed
