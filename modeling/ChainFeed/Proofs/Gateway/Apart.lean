import ChainFeed.Ingest.Accounts
import ChainFeed.Ingest.Blocks
import ChainFeed.Proofs.Gateway.Inquiry

/-!
# Gateways that differ about one address

Some calls are **about** an address (`Call.about?`): they ask for its account, for what the account
holds and for what it stores. Two gateways are **alike but about an address**
(`Gateway.AlikeBut`) if they answer all other calls alike. Gateways have states, so that is a matter
of a relation between their states: other calls keep it and are answered the same in related states,
and a call about the address keeps it even if only one of the two is asked.

Asking the two about lists of items that differ in what is about the address alone gets the same
answers for all other items (`AsksAlike.askEach`). So it is with all that a tick asks.
-/

namespace ChainFeed

variable {σ τ : Type}

/-! ### Asking two gateways -/

/-- Two ways to ask about items get the same answers for the items that are picked, and need not be
asked alike about any other. -/
structure AsksAlike {α β : Type} (pick : α → Bool) (R : σ → τ → Prop) (ask : α → σ → β × σ)
    (other : α → τ → β × τ) : Prop where
  /-- The answers for a picked item are the same. -/
  answer_eq {item : α} {s : σ} {t : τ} : pick item → R s t → (ask item s).1 = (other item t).1
  /-- Asking both about a picked item keeps the relation. -/
  both {item : α} {s : σ} {t : τ} : pick item → R s t → R (ask item s).2 (other item t).2
  /-- Asking one about any other item keeps it, too. -/
  left {item : α} {s : σ} {t : τ} : ¬pick item → R s t → R (ask item s).2 t
  /-- And so does asking the other one. -/
  right {item : α} {s : σ} {t : τ} : ¬pick item → R s t → R s (other item t).2

/-- Lists that are the same as far as items are picked hold the same picked items. -/
theorem mem_iff_of_filter_eq {α : Type} {pick : α → Bool} {items others : List α}
    (h : items.filter pick = others.filter pick) {item : α} (hitem : pick item) :
    item ∈ items ↔ item ∈ others := by
  have hmem (items : List α) : item ∈ items ↔ item ∈ items.filter pick := by
    rw [List.mem_filter]
    exact (and_iff_left hitem).symm
  rw [hmem, h, ← hmem]

theorem askEach_append {α β : Type} (ask : α → σ → β × σ) (items more : List α) (chain : σ) :
    askEach ask (items ++ more) chain =
      ((askEach ask items chain).1 ++ (askEach ask more (askEach ask items chain).2).1,
        (askEach ask more (askEach ask items chain).2).2) := by
  induction items generalizing chain with
  | nil => rfl
  | cons item rest ih => rw [List.cons_append, askEach_cons, ih]; rfl

namespace AsksAlike

variable {α β : Type} {pick : α → Bool} {R : σ → τ → Prop} {ask : α → σ → β × σ}
  {other : α → τ → β × τ} {s : σ} {t : τ}

/-- So it is if the items tell what to ask about. -/
theorem comap {γ : Type} (h : AsksAlike pick R ask other) (f : γ → α) :
    AsksAlike (fun item => pick (f item)) R (fun item => ask (f item))
      (fun item => other (f item)) :=
  ⟨h.answer_eq, h.both, h.left, h.right⟩

/-- Asking the other about items that are not picked keeps the relation. -/
theorem askEach_right (h : AsksAlike pick R ask other) {items : List α}
    (hitems : ∀ item ∈ items, ¬pick item) (hst : R s t) : R s (askEach other items t).2 := by
  induction items generalizing t with
  | nil => exact hst
  | cons item rest ih =>
    rw [List.forall_mem_cons] at hitems
    exact ih hitems.2 (h.right hitems.1 hst)

/-- What is answered for items that are not picked is not picked either. -/
theorem filter_askEach_eq_nil {items : List α} (hitems : ∀ item ∈ items, ¬pick item)
    (ask : α → σ → β × σ) (chain : σ) :
    (askEach ask items chain).1.filter (fun x => pick x.1) = [] := by
  refine List.filter_eq_nil_iff.mpr fun x hx => hitems x.1 ?_
  rw [← map_fst_askEach ask items chain]
  exact List.mem_map_of_mem hx

/-- **The answers for picked items are the same**, whatever else is asked in between. -/
theorem askEach (h : AsksAlike pick R ask other) {items others : List α}
    (hpicked : items.filter pick = others.filter pick) (hst : R s t) :
    (ChainFeed.askEach ask items s).1.filter (fun x => pick x.1) =
        (ChainFeed.askEach other others t).1.filter (fun x => pick x.1) ∧
      R (ChainFeed.askEach ask items s).2 (ChainFeed.askEach other others t).2 := by
  induction items generalizing others s t with
  | nil =>
    have hothers : ∀ item ∈ others, ¬pick item := List.filter_eq_nil_iff.mp hpicked.symm
    exact ⟨(filter_askEach_eq_nil hothers other t).symm, h.askEach_right hothers hst⟩
  | cons item rest ih =>
    rw [askEach_cons]
    by_cases hitem : pick item
    · -- the other is asked about the item, too, behind some that are not picked
      rw [List.filter_cons_of_pos hitem] at hpicked
      obtain ⟨before, behind, rfl, hbefore, -, hbehind⟩ :=
        List.filter_eq_cons_iff.mp hpicked.symm
      have hmid := h.askEach_right hbefore hst
      obtain ⟨hanswers, hend⟩ := ih hbehind.symm (h.both hitem hmid)
      have hcons (answer : β) (more : List (α × β)) :
          ((item, answer) :: more).filter (fun x => pick x.1) =
            (item, answer) :: more.filter fun x => pick x.1 :=
        List.filter_cons_of_pos hitem
      rw [askEach_append, askEach_cons]
      refine ⟨?_, hend⟩
      dsimp only
      rw [List.filter_append, filter_askEach_eq_nil hbefore, List.nil_append, hcons, hcons,
        hanswers, h.answer_eq hitem hmid]
    · rw [List.filter_cons_of_neg hitem] at hpicked
      obtain ⟨hanswers, hend⟩ := ih hpicked (h.left hitem hst)
      have hcons : ((item, (ask item s).1) ::
          (ChainFeed.askEach ask rest (ask item s).2).1).filter (fun x => pick x.1) =
            (ChainFeed.askEach ask rest (ask item s).2).1.filter fun x => pick x.1 :=
        List.filter_cons_of_neg hitem
      exact ⟨hcons.trans hanswers, hend⟩

/-- If all items are picked, all answers are the same. -/
theorem askEach_eq (h : AsksAlike pick R ask other) {items : List α}
    (hitems : ∀ item ∈ items, pick item) (hst : R s t) :
    (ChainFeed.askEach ask items s).1 = (ChainFeed.askEach other items t).1 ∧
      R (ChainFeed.askEach ask items s).2 (ChainFeed.askEach other items t).2 := by
  obtain ⟨hanswers, hend⟩ := h.askEach (rfl : items.filter pick = _) hst
  have hall {ρ : Type} (ask : α → ρ → β × ρ) (chain : ρ) :
      (ChainFeed.askEach ask items chain).1.filter (fun x => pick x.1) =
        (ChainFeed.askEach ask items chain).1 := by
    refine List.filter_eq_self.mpr fun x hx => hitems x.1 ?_
    rw [← map_fst_askEach ask items chain]
    exact List.mem_map_of_mem hx
  rw [hall, hall] at hanswers
  exact ⟨hanswers, hend⟩

end AsksAlike

/-! ### Fetching -/

namespace Ingest

/-- A block is fetched by two calls, the second of which is made if the first one succeeds. -/
theorem fetchBlock_eq (gateway : Gateway σ) (height : Nat) (chain : σ) :
    fetchBlock gateway height chain =
      match (gateway.ask (.block height) chain).1 with
      | .error e => (.error e, (gateway.ask (.block height) chain).2)
      | .ok block =>
        ((gateway.ask (.contents block.id) (gateway.ask (.block height) chain).2).1.map
            (FetchedBlock.mk block),
          (gateway.ask (.contents block.id) (gateway.ask (.block height) chain).2).2) := by
  unfold fetchBlock
  rcases gateway.ask (.block height) chain with ⟨_ | _, _⟩ <;> rfl

/-- So is an account. -/
theorem fetchAccount_eq (gateway : Gateway σ) (address : String) (chain : σ) :
    fetchAccount gateway address chain =
      match (gateway.ask (.account address) chain).1 with
      | .error e => (.error e, (gateway.ask (.account address) chain).2)
      | .ok account =>
        ((gateway.ask (.contracts address) (gateway.ask (.account address) chain).2).1.map
            (FetchedAccount.mk account),
          (gateway.ask (.contracts address) (gateway.ask (.account address) chain).2).2) := by
  unfold fetchAccount
  rcases gateway.ask (.account address) chain with ⟨_ | _, _⟩ <;> rfl

/-- What is fetched of an account was answered by the two calls. -/
theorem answered_of_fetchAccount {gateway : Gateway σ} {address : String} {chain : σ}
    {fetched : FetchedAccount} (h : (fetchAccount gateway address chain).1 = .ok fetched) :
    (gateway.ask (.account address) chain).1 = .ok fetched.account ∧
      (gateway.ask (.contracts address) (gateway.ask (.account address) chain).2).1 =
        .ok fetched.contracts := by
  rw [fetchAccount_eq] at h
  cases haccount : (gateway.ask (.account address) chain).1 with
  | error e =>
    rw [haccount] at h
    cases h
  | ok account =>
    rw [haccount] at h
    dsimp only at h
    cases hcontracts : (gateway.ask (.contracts address)
        (gateway.ask (.account address) chain).2).1 with
    | error e =>
      rw [hcontracts] at h
      cases h
    | ok contracts =>
      rw [hcontracts] at h
      obtain rfl := Except.ok.inj h
      exact ⟨rfl, rfl⟩

end Ingest

/-! ### Calls about an address -/

/-- The address that a call is about, if it asks for the account, for what the account holds or for
what it stores. -/
def Call.about? : Call → Option String
  | account address | contracts address | storage address => some address
  | _ => none

namespace Gateway

/-- Two gateways answer all calls alike that are not about an address; `R` relates their states. -/
structure AlikeBut (address : String) (gateway : Gateway σ) (other : Gateway τ)
    (R : σ → τ → Prop) : Prop where
  /-- A call that is not about the address has the same answer. -/
  answer_eq (call : Call) {s : σ} {t : τ} : call.about? ≠ some address → R s t →
    (gateway.ask call s).1 = (other.ask call t).1
  /-- It keeps the states related. -/
  both (call : Call) {s : σ} {t : τ} : call.about? ≠ some address → R s t →
    R (gateway.ask call s).2 (other.ask call t).2
  /-- A call about the address keeps them related if the first gateway alone gets it. -/
  left (call : Call) {s : σ} {t : τ} : call.about? = some address → R s t →
    R (gateway.ask call s).2 t
  /-- So it does if the other gateway alone gets it. -/
  right (call : Call) {s : σ} {t : τ} : call.about? = some address → R s t →
    R s (other.ask call t).2

namespace AlikeBut

open Ingest

variable {address : String} {gateway : Gateway σ} {other : Gateway τ} {R : σ → τ → Prop}
  {s : σ} {t : τ}

/-- The same blocks are fetched. -/
theorem fetchBlock (h : gateway.AlikeBut address other R) :
    AsksAlike (fun _ => true) R (Ingest.fetchBlock gateway) (Ingest.fetchBlock other) := by
  have hboth (height : Nat) {s : σ} {t : τ} (hst : R s t) :
      (Ingest.fetchBlock gateway height s).1 = (Ingest.fetchBlock other height t).1 ∧
        R (Ingest.fetchBlock gateway height s).2 (Ingest.fetchBlock other height t).2 := by
    have hnext := h.both (.block height) nofun hst
    rw [fetchBlock_eq, fetchBlock_eq, h.answer_eq (.block height) nofun hst]
    cases (other.ask (.block height) t).1 with
    | error e => exact ⟨rfl, hnext⟩
    | ok block =>
      dsimp only
      rw [h.answer_eq (.contents block.id) nofun hnext]
      exact ⟨rfl, h.both _ nofun hnext⟩
  exact ⟨fun _ hst => (hboth _ hst).1, fun _ hst => (hboth _ hst).2, fun hitem => absurd rfl hitem,
    fun hitem => absurd rfl hitem⟩

theorem symm (h : gateway.AlikeBut address other R) :
    other.AlikeBut address gateway fun t s => R s t where
  answer_eq call _ _ hcall hst := (h.answer_eq call hcall hst).symm
  both call _ _ hcall hst := h.both call hcall hst
  left call _ _ hcall hst := h.right call hcall hst
  right call _ _ hcall hst := h.left call hcall hst

/-- Fetching the account with the address from one of the gateways keeps their states related. -/
theorem fetchAccount_left (h : gateway.AlikeBut address other R) (hst : R s t) :
    R (Ingest.fetchAccount gateway address s).2 t := by
  have hnext := h.left (.account address) rfl hst
  rw [fetchAccount_eq]
  cases (gateway.ask (.account address) s).1 with
  | error e => exact hnext
  | ok account => exact h.left (.contracts address) rfl hnext

/-- Of other addresses, the same is fetched. -/
theorem fetchAccount (h : gateway.AlikeBut address other R) :
    AsksAlike (fun a => a != address) R (Ingest.fetchAccount gateway)
      (Ingest.fetchAccount other) := by
  have hboth {a : String} (ha : a ≠ address) {s : σ} {t : τ} (hst : R s t) :
      (Ingest.fetchAccount gateway a s).1 = (Ingest.fetchAccount other a t).1 ∧
        R (Ingest.fetchAccount gateway a s).2 (Ingest.fetchAccount other a t).2 := by
    have hother : some a ≠ some address := fun heq => ha (Option.some.inj heq)
    have hnext := h.both (.account a) hother hst
    rw [fetchAccount_eq, fetchAccount_eq, h.answer_eq (.account a) hother hst]
    cases (other.ask (.account a) t).1 with
    | error e => exact ⟨rfl, hnext⟩
    | ok account =>
      dsimp only
      rw [h.answer_eq (.contracts a) hother hnext]
      exact ⟨rfl, h.both _ hother hnext⟩
  refine ⟨fun ha hst => (hboth (bne_iff_ne.mp ha) hst).1,
    fun ha hst => (hboth (bne_iff_ne.mp ha) hst).2, fun {a s t} ha hst => ?_,
    fun {a s t} ha hst => ?_⟩
  · obtain rfl : a = address := by simpa using ha
    exact h.fetchAccount_left hst
  · obtain rfl : a = address := by simpa using ha
    exact h.symm.fetchAccount_left hst

/-- Transactions have the same statuses. -/
theorem askStatus (h : gateway.AlikeBut address other R) :
    AsksAlike (β := Except GatewayError TransactionStatus) (fun _ : Transaction => true) R
      (fun stored => gateway.ask (.status stored.id))
      (fun stored => other.ask (.status stored.id)) where
  answer_eq _ hst := h.answer_eq _ nofun hst
  both _ hst := h.both _ nofun hst
  left hitem := absurd rfl hitem
  right hitem := absurd rfl hitem

/-- Other addresses have the same storage. -/
theorem askStorage (h : gateway.AlikeBut address other R) :
    AsksAlike (β := Except GatewayError (List StorageItem)) (fun a => a != address) R
      (fun a => gateway.ask (.storage a)) (fun a => other.ask (.storage a)) where
  answer_eq ha hst := h.answer_eq _ (by simpa [Call.about?] using ha) hst
  both ha hst := h.both _ (by simpa [Call.about?] using ha) hst
  left ha hst := h.left _ (by simpa [Call.about?] using ha) hst
  right ha hst := h.right _ (by simpa [Call.about?] using ha) hst

/-- **The first stage of a tick is the same with both gateways.** -/
theorem ingestBlocks (h : gateway.AlikeBut address other R) (settings : Settings) (moment : Moment)
    (p : Progress) (hst : R s t) :
    (Ingest.ingestBlocks gateway settings moment s p).1 =
        (Ingest.ingestBlocks other settings moment t p).1 ∧
      R (Ingest.ingestBlocks gateway settings moment s p).2
        (Ingest.ingestBlocks other settings moment t p).2 := by
  have hlatest := h.answer_eq .latestHeight nofun hst
  have hnext := h.both .latestHeight nofun hst
  unfold Ingest.ingestBlocks
  generalize gateway.ask .latestHeight s = heard at hlatest hnext ⊢
  generalize other.ask .latestHeight t = otherHeard at hlatest hnext ⊢
  obtain ⟨e | latest, next⟩ := heard <;> obtain ⟨_, otherNext⟩ := otherHeard <;> cases hlatest
  · exact ⟨rfl, hnext⟩
  · obtain ⟨hfetched, hend⟩ := h.fetchBlock.askEach_eq
      (fun height (_ : height ∈ batch settings latest (p.state.nextHeight settings latest).1) =>
        rfl) hnext
    dsimp only
    rw [hfetched]
    exact ⟨rfl, hend⟩

end AlikeBut

end Gateway

end ChainFeed
