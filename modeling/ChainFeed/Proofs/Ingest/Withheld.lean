import ChainFeed.Proofs.Gateway.Legible
import ChainFeed.Proofs.Ingest.Heights

/-!
# Blocks with illegible records

A block with an illegible record cannot be fetched from an access node, so its height is never
merged as long as that is so, and neither is any height behind it (`AccessNode.withheld`). What is
legible in these blocks is withheld from readers as well (`AccessNode.legible_withheld`).
-/

namespace ChainFeed

open Ingest Payload

variable {σ : Type}

/-- The tick asks an access node whose block at a height has an illegible record, whenever the node
answers with a block and with what it executed. -/
def Scene.Garbles (height : Nat) (scene : Scene σ) : Prop :=
  ∃ (node : AccessNode) (wire : Wire σ), scene.gateway = node.gateway wire ∧
    ∀ server block, (node.blockAt wire height server).1 = .ok block →
      ∀ server entries, (node.executed wire block.id server).1 = .ok entries →
        ∃ entry ∈ entries, ¬Legible entry

/-- What a tick merges is legible, so it does not merge a garbled block. -/
theorem Scene.Garbles.not_mem_merged {height : Nat} {scene : Scene σ} (h : scene.Garbles height)
    (settings : Settings) (state : Ingest.State) :
    height ∉ (scene.merged settings state).map Prod.fst := by
  intro hmem
  obtain ⟨m, hm, rfl⟩ := List.mem_map.mp hmem
  obtain ⟨node, wire, hgateway, hgarbled⟩ := h
  obtain ⟨server, hblock, hcontents⟩ := exists_answers_of_mem_merged hm
  rw [hgateway] at hblock hcontents
  replace hcontents : (node.contents wire m.2.block.id _).1 = .ok m.2.contents := hcontents
  rw [AccessNode.contents_eq] at hcontents
  cases hexecuted : (node.executed wire m.2.block.id
    (((node.gateway wire).ask (.block m.1) server).2)).1 with
  | error e =>
    rw [hexecuted] at hcontents
    cases hcontents
  | ok entries =>
    rw [hexecuted] at hcontents
    obtain ⟨entry, hentry, hbad⟩ := hgarbled server m.2.block hblock _ entries hexecuted
    exact hbad (AccessNode.legible_of_contentsOf hcontents entry hentry)

namespace History

variable {settings : Settings} {store : Store} {scenes : List (Scene σ)} {height : Nat}

/-- A height is not merged as long as its block is garbled. -/
theorem not_mem_heights_of_garbles (h : ∀ scene ∈ scenes, scene.Garbles height) :
    height ∉ (run settings store scenes).heights := by
  induction scenes using List.reverseRecOn with
  | nil => exact List.not_mem_nil
  | append_singleton before scene ih =>
    rw [List.forall_mem_append, List.forall_mem_singleton] at h
    rw [heights_concat, List.mem_append, not_or]
    exact ⟨ih h.1, h.2.not_mem_merged _ _⟩

/-- The watermark does not get there, if the merging begins with a height that is not behind it. -/
theorem watermark_lt_of_garbles (h : ∀ scene ∈ scenes, scene.Garbles height) {first last : Nat}
    (hfirst : firstHeight? settings scenes = some first) (hle : first ≤ height)
    (hlast : (run settings store scenes).follower.watermark = some last) : last < height := by
  obtain ⟨begun, hbegun, -, hheights⟩ := (kept settings store scenes).merged hlast
  obtain rfl := Option.some.inj (hfirst.symm.trans hbegun)
  have hnot : height ∉ (run settings store scenes).heights := not_mem_heights_of_garbles h
  rw [hheights, List.mem_range'_1] at hnot
  omega

end History

namespace AccessNode

/-- **One illegible record withholds its whole block.** A call for what a block carries returns all
of it if every record is legible, and nothing but an error otherwise, whatever else is in the block.
While a block has an illegible record, its height is not merged, and the watermark stays in front of
it. -/
theorem withheld :
    (∀ (node : AccessNode) (wire : Wire σ) (blockId : String) (server : σ)
        (entries : List (WrittenTransaction × WrittenResult)),
      (node.executed wire blockId server).1 = .ok entries →
      (∀ entry ∈ entries, ∃ status, entry.2.toStatus = .ok status) →
      (node.contents wire blockId server).1 =
        if ∀ entry ∈ entries, Legible entry then .ok (legibleContents blockId entries)
        else .error (.decode .encoding)) ∧
    ∀ (settings : Settings) (store : Store) (scenes : List (Scene σ)) (height : Nat),
      (∀ scene ∈ scenes, scene.Garbles height) →
      height ∉ (History.run settings store scenes).heights ∧
      ∀ first last, History.firstHeight? settings scenes = some first → first ≤ height →
        (History.run settings store scenes).follower.watermark = some last → last < height := by
  refine ⟨fun node wire blockId server entries hexecuted hstatus => ?_,
    fun settings store scenes height h => ⟨History.not_mem_heights_of_garbles h,
      fun first last hfirst hle hlast => History.watermark_lt_of_garbles h hfirst hle hlast⟩⟩
  rw [contents_eq, hexecuted]
  exact contentsOf_eq hstatus

/-! ### A block with one illegible argument -/

/-- A transaction with one argument. -/
def sampleWritten (id argument : String) : WrittenTransaction where
  id := id
  script := ""
  arguments := [argument]
  referenceBlockId := ""
  gasLimit := 1
  payer := "0x1"
  proposalKey := ⟨"0x1", 0, 0⟩
  authorizers := []
  payloadSignatures := []
  envelopeSignatures := []

/-- The transaction as an access node writes it. -/
def sampleJson (written : WrittenTransaction) : Json :=
  .record [("id", .text written.id), ("script", .text written.script),
    ("arguments", .texts written.arguments), ("reference_block_id", .text ""),
    ("gas_limit", .text "1"), ("payer", .text "0x1"),
    ("proposal_key", .record [("address", .text "0x1"), ("key_index", .text "0"),
      ("sequence_number", .text "0")])]

/-- A transaction whose argument is the number one. -/
def legibleSample : WrittenTransaction := sampleWritten "good" "MQ=="

/-- A transaction whose argument is not in Base64. -/
def illegibleSample : WrittenTransaction := sampleWritten "bad" "%%%"

/-- A block as an access node writes it. The block at the height 2 carries a collection. -/
def sampleBlock (height : Nat) : Json :=
  .list [.record [
    ("header", .record [("id", .text (Block.sampleId height)), ("parent_id", .text ""),
      ("height", .text (toString height)), ("timestamp", .text "2024-01-01T00:00:00Z")]),
    ("payload", .record [("collection_guarantees",
      .list (if height = 2 then [.record [("collection_id", .text "mixed")]] else []))])]]

/-- The wire to a server with two blocks, the second of which carries both transactions. -/
def sampleWire : Wire Unit where
  send request server :=
    let answer : Json :=
      if request.path = "/v1/collections/mixed" then
        .record [("transactions", .list [sampleJson legibleSample, sampleJson illegibleSample])]
      else if request.path = "/v1/blocks/block-1" ∨
          request.query = some "height=1&expand=payload" then sampleBlock 1
      else if request.path = "/v1/blocks/block-2" ∨ request.path = "/v1/blocks" then sampleBlock 2
      else .record [("status", .text "Sealed")]
    (.reply 200 (Text.Utf8.encode answer.compact), server)

/-- The node at the other end of the wire. -/
def sampleNode : AccessNode :=
  .standard ⟨"http", "", "", some (.domain "access.node"), none, .segments [""], none, none⟩

/-- A tick that asks the node. -/
def sampleTick : Scene Unit := ⟨sampleNode.gateway sampleWire, (), ⟨fun _ => 0, Span.zero⟩⟩

/-- Settings that begin with the first block. -/
def fromFirst : Settings := { Settings.standard with startHeight := some 1 }

/-- The result of a transaction that is sealed and emitted no event. -/
def sealedResult : WrittenResult := ⟨"", "Sealed", 0, "", []⟩

theorem executed_sampleNode :
    (sampleNode.executed sampleWire "block-2" ()).1 =
      .ok [(legibleSample, sealedResult), (illegibleSample, sealedResult)] := by
  decide +kernel

theorem garbles_sampleTick : sampleTick.Garbles 2 := by
  refine ⟨sampleNode, sampleWire, rfl, fun _ block hblock _ entries hentries => ?_⟩
  have hid : (sampleNode.blockAt sampleWire 2 ()).1.toOption.map (·.id) = some "block-2" := by
    decide +kernel
  replace hblock : (sampleNode.blockAt sampleWire 2 ()).1 = .ok block := hblock
  rw [hblock] at hid
  rw [show block.id = "block-2" from Option.some.inj hid] at hentries
  obtain rfl := Except.ok.inj (executed_sampleNode.symm.trans hentries)
  exact ⟨(illegibleSample, sealedResult), List.mem_cons_of_mem _ List.mem_cons_self,
    by decide +kernel⟩

/-- The whole second block is withheld, and the watermark stays in front of it. -/
theorem withheld_of_sample :
    (sampleNode.contents sampleWire "block-2" ()).1 = .error (.decode .encoding) ∧
    2 ∉ (History.run fromFirst Store.empty [sampleTick, sampleTick]).heights ∧
    ∀ last, (History.run fromFirst Store.empty [sampleTick, sampleTick]).follower.watermark =
      some last → last < 2 := by
  have hcall := withheld.1 sampleNode sampleWire "block-2" ()
    [(legibleSample, sealedResult), (illegibleSample, sealedResult)] executed_sampleNode
    (List.forall_mem_cons.mpr ⟨⟨_, rfl⟩, List.forall_mem_singleton.mpr ⟨_, rfl⟩⟩)
  have hrun := withheld.2 fromFirst Store.empty [sampleTick, sampleTick] 2
    (List.forall_mem_cons.mpr
      ⟨garbles_sampleTick, List.forall_mem_singleton.mpr garbles_sampleTick⟩)
  refine ⟨hcall.trans (if_neg fun h => ?_), hrun.1,
    fun last hlast => hrun.2 1 last rfl (by decide) hlast⟩
  exact absurd (h (illegibleSample, sealedResult) (List.mem_cons_of_mem _ List.mem_cons_self))
    (by decide +kernel)

/-- **A legible transaction is withheld** because of the one beside it: the node tells both, and all
that the call returns is an error. After two ticks the block is not merged, and the watermark is in
front of it. -/
theorem legible_withheld :
    (sampleNode.executed sampleWire "block-2" ()).1 =
      .ok [(legibleSample, sealedResult), (illegibleSample, sealedResult)] ∧
    legibleSample.Legible ∧ ¬illegibleSample.Legible ∧
    (legibleContents "block-2" [(legibleSample, sealedResult),
      (illegibleSample, sealedResult)]).transactions.map (·.id) = ["good"] ∧
    (sampleNode.contents sampleWire "block-2" ()).1.toOption = none ∧
    (History.run fromFirst Store.empty [sampleTick, sampleTick]).follower.watermark ≠ some 2 := by
  refine ⟨executed_sampleNode, by decide +kernel, by decide +kernel, by decide +kernel, ?_,
    fun hlast => ?_⟩
  · rw [contents_eq, executed_sampleNode]
    decide +kernel
  · have hgarbles : ∀ scene ∈ [sampleTick, sampleTick], scene.Garbles 2 :=
      List.forall_mem_cons.mpr
        ⟨garbles_sampleTick, List.forall_mem_singleton.mpr garbles_sampleTick⟩
    have hbehind := History.watermark_lt_of_garbles hgarbles
      (rfl : History.firstHeight? fromFirst [sampleTick, sampleTick] = some 1) (by decide) hlast
    exact absurd hbehind (Nat.lt_irrefl 2)

end AccessNode

end ChainFeed
