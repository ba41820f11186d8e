import Mathlib.Data.List.Basic
import ChainFeed.Gateway.Calls

/-!
# Legible records

An access node writes scripts, arguments and what events say in Base64. A record of a block is
**legible** if all of that can be decoded. Anyone can put an argument on the chain that cannot.

A block is converted as a whole: if all its records are legible, the call returns all of them in
order, and otherwise it returns nothing but an error (`AccessNode.contents_eq`), whichever record is
illegible and however many there are. So legible records are held back together with illegible ones
(`AccessNode.legibleContents` names what would be left without those).
-/

namespace ChainFeed

/-! ### Converting lists -/

section

variable {α β ε : Type} {f : α → Except ε β} {xs : List α}

/-- If every item can be converted, all of them are. -/
theorem mapM_eq_ok (h : ∀ x ∈ xs, ∃ y, f x = .ok y) :
    xs.mapM f = .ok (xs.filterMap fun x => (f x).toOption) := by
  induction xs with
  | nil => rfl
  | cons x rest ih =>
    rw [List.forall_mem_cons] at h
    obtain ⟨⟨y, hy⟩, hrest⟩ := h
    rw [List.mapM_cons, hy, ih hrest, List.filterMap_cons, hy]
    rfl

/-- If some items cannot be converted, all for the same reason, that is the outcome. -/
theorem mapM_eq_error {e : ε} (h : ∀ x ∈ xs, f x = .error e ∨ ∃ y, f x = .ok y)
    (hbad : ∃ x ∈ xs, f x = .error e) : xs.mapM f = .error e := by
  induction xs with
  | nil => exact absurd hbad (by simp)
  | cons x rest ih =>
    rw [List.forall_mem_cons] at h
    rw [List.mapM_cons]
    rcases h.1 with hx | ⟨y, hy⟩
    · rw [hx]
      rfl
    · have hrest : ∃ x ∈ rest, f x = .error e := by
        obtain ⟨x', hx', heq⟩ := hbad
        rcases List.mem_cons.mp hx' with rfl | hx'
        · rw [hy] at heq
          cases heq
        · exact ⟨x', hx', heq⟩
      rw [hy, ih h.2 hrest]
      rfl

/-- If a list is converted, every item of it is. -/
theorem exists_eq_ok_of_mapM {ys : List β} (h : xs.mapM f = .ok ys) :
    ∀ x ∈ xs, ∃ y, f x = .ok y := by
  induction xs generalizing ys with
  | nil => exact fun _ hx => absurd hx List.not_mem_nil
  | cons x rest ih =>
    rw [List.mapM_cons] at h
    cases hx : f x with
    | error e =>
      rw [hx] at h
      cases h
    | ok y =>
      cases hrest : rest.mapM f with
      | error e =>
        rw [hx, hrest] at h
        cases h
      | ok rest' => exact List.forall_mem_cons.mpr ⟨⟨y, hx⟩, ih hrest⟩

/-- Converted items stand in the places of the items that they were made of. -/
theorem forall₂_of_mapM {ys : List β} (h : xs.mapM f = .ok ys) :
    List.Forall₂ (fun x y => f x = .ok y) xs ys := by
  induction xs generalizing ys with
  | nil =>
    obtain rfl : [] = ys := Except.ok.inj h
    exact .nil
  | cons x rest ih =>
    rw [List.mapM_cons] at h
    cases hx : f x with
    | error e =>
      rw [hx] at h
      cases h
    | ok y =>
      cases hrest : rest.mapM f with
      | error e =>
        rw [hx, hrest] at h
        cases h
      | ok rest' =>
        rw [hx, hrest] at h
        obtain rfl : y :: rest' = ys := Except.ok.inj h
        exact .cons hx (ih hrest)

/-- What stands in the second of two lists stands in the place of something in the first one. -/
theorem exists_of_mem_forall₂ {R : α → β → Prop} {ys : List β} (h : List.Forall₂ R xs ys) {y : β}
    (hy : y ∈ ys) : ∃ x ∈ xs, R x y := by
  induction h with
  | nil => exact absurd hy List.not_mem_nil
  | cons hx _ ih =>
    rcases List.mem_cons.mp hy with rfl | hy
    · exact ⟨_, List.mem_cons_self, hx⟩
    · obtain ⟨x, hmem, hx⟩ := ih hy
      exact ⟨x, List.mem_cons_of_mem _ hmem, hx⟩

/-- A list of values is there if every value is. -/
theorem isSome_mapM_iff {f : α → Option β} {xs : List α} :
    (xs.mapM f).isSome ↔ ∀ x ∈ xs, (f x).isSome := by
  induction xs with
  | nil => simp
  | cons x rest ih =>
    rw [List.forall_mem_cons, ← ih, List.mapM_cons]
    cases f x <;> cases rest.mapM f <;> simp

end

/-! ### Legibility -/

namespace Payload

/-- The script and all arguments of the transaction can be decoded. -/
def WrittenTransaction.Legible (written : WrittenTransaction) : Prop :=
  (Text.Base64.decodeText? written.script).isSome ∧
    ∀ argument ∈ written.arguments, (Cadence.document? argument).isSome

/-- What the event says can be decoded. -/
def WrittenEvent.Legible (written : WrittenEvent) : Prop :=
  (Cadence.document? written.payload).isSome

/-- The transaction and all events of its result can be decoded. -/
def Legible (entry : WrittenTransaction × WrittenResult) : Prop :=
  entry.1.Legible ∧ ∀ e ∈ entry.2.events, e.Legible

instance (written : WrittenTransaction) : Decidable written.Legible :=
  inferInstanceAs (Decidable (_ ∧ _))

instance (written : WrittenEvent) : Decidable written.Legible :=
  inferInstanceAs (Decidable (_ = true))

instance (entry : WrittenTransaction × WrittenResult) : Decidable (Legible entry) :=
  inferInstanceAs (Decidable (_ ∧ _))

/-- What cannot be decoded is an error of its encoding. -/
theorem toEvent_eq (blockId : String) (written : WrittenEvent) :
    (written.Legible → ∃ event, written.toEvent blockId = .ok event) ∧
      (¬written.Legible → written.toEvent blockId = .error (.decode .encoding)) := by
  unfold WrittenEvent.Legible WrittenEvent.toEvent
  cases Cadence.document? written.payload with
  | none => exact ⟨fun h => absurd h Bool.false_ne_true, fun _ => rfl⟩
  | some payload => exact ⟨fun _ => ⟨_, rfl⟩, fun h => absurd rfl h⟩

theorem toTransaction_eq (blockId : String) (status : TransactionStatus)
    (written : WrittenTransaction) :
    (written.Legible → ∃ transaction, written.toTransaction blockId status = .ok transaction) ∧
      (¬written.Legible →
        written.toTransaction blockId status = .error (.decode .encoding)) := by
  unfold WrittenTransaction.Legible WrittenTransaction.toTransaction
  rw [← isSome_mapM_iff]
  cases written.arguments.mapM Cadence.document? with
  | none => exact ⟨fun h => absurd h.2 Bool.false_ne_true, fun _ => rfl⟩
  | some arguments =>
    cases Text.Base64.decodeText? written.script with
    | none => exact ⟨fun h => absurd h.1 Bool.false_ne_true, fun _ => rfl⟩
    | some script => exact ⟨fun _ => ⟨_, rfl⟩, fun h => absurd ⟨rfl, rfl⟩ h⟩

end Payload

open Payload

namespace AccessNode

/-! ### Blocks -/

/-- The transaction of an entry, unless it cannot be decoded. -/
def transaction? (blockId : String) (entry : WrittenTransaction × WrittenResult) :
    Option Transaction :=
  (entry.2.toStatus.bind fun status => entry.1.toTransaction blockId status).toOption

/-- The events of an entry, without those that cannot be decoded. -/
def eventsOf (blockId : String) (entry : WrittenTransaction × WrittenResult) : List Event :=
  entry.2.events.filterMap fun e => (e.toEvent blockId).toOption

/-- What a block carries, without the transactions and events that cannot be decoded. -/
def legibleContents (blockId : String) (entries : List (WrittenTransaction × WrittenResult)) :
    BlockContents :=
  ⟨entries.filterMap (transaction? blockId), entries.flatMap (eventsOf blockId)⟩

variable {blockId : String} {entries : List (WrittenTransaction × WrittenResult)}

/-- With a known status, the events of an entry are converted, and then its transaction. -/
theorem carried_eq {entry : WrittenTransaction × WrittenResult} {status : TransactionStatus}
    (h : entry.2.toStatus = .ok status) :
    carried blockId entry = do
      let events ← entry.2.events.mapM (·.toEvent blockId)
      let transaction ← entry.1.toTransaction blockId status
      return (transaction, events) := by
  rw [carried, h]
  rfl

/-- A legible entry with a known status adds its transaction and its events. -/
theorem carried_of_legible {entry : WrittenTransaction × WrittenResult} {status : TransactionStatus}
    (hstatus : entry.2.toStatus = .ok status) (h : Legible entry) :
    ∃ transaction, transaction? blockId entry = some transaction ∧
      carried blockId entry = .ok (transaction, eventsOf blockId entry) := by
  obtain ⟨transaction, htransaction⟩ := (toTransaction_eq blockId status entry.1).1 h.1
  have hevents : entry.2.events.mapM (fun e => e.toEvent blockId) =
      .ok (eventsOf blockId entry) :=
    mapM_eq_ok fun e he => (toEvent_eq blockId e).1 (h.2 e he)
  refine ⟨transaction, ?_, ?_⟩
  · rw [transaction?, hstatus]
    show (entry.1.toTransaction blockId status).toOption = _
    rw [htransaction]
    rfl
  · rw [carried_eq hstatus, hevents, htransaction]
    rfl

/-- An illegible entry with a known status adds nothing but an error. -/
theorem carried_of_not_legible {entry : WrittenTransaction × WrittenResult}
    {status : TransactionStatus} (hstatus : entry.2.toStatus = .ok status) (h : ¬Legible entry) :
    carried blockId entry = .error (.decode .encoding) := by
  rw [carried_eq hstatus]
  by_cases hevents : ∀ e ∈ entry.2.events, e.Legible
  · rw [mapM_eq_ok fun e he => (toEvent_eq blockId e).1 (hevents e he),
      (toTransaction_eq blockId status entry.1).2 fun ht => h ⟨ht, hevents⟩]
    rfl
  · push Not at hevents
    obtain ⟨e, he, hbad⟩ := hevents
    rw [mapM_eq_error (e := .decode .encoding)
      (fun e _ => (em e.Legible).symm.imp (toEvent_eq blockId e).2 (toEvent_eq blockId e).1)
      ⟨e, he, (toEvent_eq blockId e).2 hbad⟩]
    rfl

/-- What is converted at all is legible. -/
theorem legible_of_carried {entry : WrittenTransaction × WrittenResult}
    {part : Transaction × List Event} (h : carried blockId entry = .ok part) : Legible entry := by
  by_contra hnot
  cases hstatus : entry.2.toStatus with
  | error e =>
    rw [carried, hstatus] at h
    cases h
  | ok status =>
    rw [carried_of_not_legible hstatus hnot] at h
    cases h

/-- **A block is converted as a whole or not at all**, if the statuses of its transactions are
known. -/
theorem contentsOf_eq (h : ∀ entry ∈ entries, ∃ status, entry.2.toStatus = .ok status) :
    contentsOf blockId entries =
      if ∀ entry ∈ entries, Legible entry then .ok (legibleContents blockId entries)
      else .error (.decode .encoding) := by
  split
  · rename_i hlegible
    have hparts : ∀ entry ∈ entries, ∃ part, carried blockId entry = .ok part := fun entry hentry =>
      have ⟨status, hstatus⟩ := h entry hentry
      have ⟨_, _, hcarried⟩ := carried_of_legible hstatus (hlegible entry hentry)
      ⟨_, hcarried⟩
    rw [contentsOf, mapM_eq_ok hparts]
    show Except.ok _ = _
    congr 1
    -- each entry adds its transaction and its events
    induction entries with
    | nil => rfl
    | cons entry rest ih =>
      rw [List.forall_mem_cons] at h hlegible hparts
      obtain ⟨status, hstatus⟩ := h.1
      obtain ⟨transaction, htransaction, hcarried⟩ := carried_of_legible hstatus hlegible.1
      have hrest := ih h.2 hlegible.2 hparts.2
      rw [legibleContents, BlockContents.mk.injEq] at hrest ⊢
      rw [List.filterMap_cons, List.filterMap_cons, hcarried, htransaction, List.flatMap_cons,
        ← hrest.1, ← hrest.2]
      exact ⟨rfl, rfl⟩
  · rename_i hnot
    push Not at hnot
    obtain ⟨entry, hentry, hbad⟩ := hnot
    obtain ⟨status, hstatus⟩ := h entry hentry
    rw [contentsOf, mapM_eq_error (e := .decode .encoding) (fun entry hentry => ?_)
      ⟨entry, hentry, carried_of_not_legible hstatus hbad⟩]
    · rfl
    · obtain ⟨status, hstatus⟩ := h entry hentry
      exact (em (Legible entry)).symm.imp (carried_of_not_legible hstatus) fun hlegible =>
        have ⟨_, _, hcarried⟩ := carried_of_legible hstatus hlegible
        ⟨_, hcarried⟩

/-- What is converted is legible, record by record. -/
theorem legible_of_contentsOf {contents : BlockContents}
    (h : contentsOf blockId entries = .ok contents) : ∀ entry ∈ entries, Legible entry := by
  cases hparts : entries.mapM (carried blockId) with
  | error e =>
    rw [contentsOf, hparts] at h
    cases h
  | ok parts =>
    intro entry hentry
    obtain ⟨part, hpart⟩ := exists_eq_ok_of_mapM hparts entry hentry
    exact legible_of_carried hpart

/-! ### Calls -/

variable {σ : Type} (node : AccessNode) (wire : Wire σ)

/-- The call asks for the executed transactions and converts them. -/
theorem contents_eq (blockId : String) (server : σ) :
    (node.contents wire blockId server).1 =
      (node.executed wire blockId server).1.bind (contentsOf blockId) := by
  rw [contents]
  simp only [bind, ExceptT.bind, ExceptT.mk, ExceptT.bindCont, StateT.bind]
  rcases node.executed wire blockId server with ⟨e | entries, later⟩ <;> rfl

end AccessNode

end ChainFeed
