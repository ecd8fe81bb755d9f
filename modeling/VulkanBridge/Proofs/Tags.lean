import VulkanBridge.Proofs.Ownership
import VulkanBridge.Proofs.Refusals
/-!
# Tags that can be relied on

Where all records fit together, the tag in a header tells what record it belongs to (`Bridge.Tagged`). A handle is then
accepted as one of a kind exactly if there is a record of that kind behind it (`Bridge.Tagged.accepts_iff`), and refused
if there is none (`Bridge.Tagged.refuses_iff`). A record that has a block of its own comes with this block
(`Bridge.Sound.runs_resolve`).
-/

namespace VulkanBridge

namespace Block

/-- Each header of the block has the tag of the records that the block is for. -/
def Tagged : Block → Prop
  | inst record => record.header.tag = ObjectKind.inst.tag
  | physicalDevices records => ∀ found ∈ records, found.header.tag = ObjectKind.physicalDevice.tag
  | device record => record.header.tag = ObjectKind.device.tag
  | queues records => ∀ found ∈ records, found.header.tag = ObjectKind.queue.tag
  | commandBuffer record => record.header.tag = ObjectKind.commandBuffer.tag
  | foreign _ => False

theorem Tagged.accepts_iff {block : Block} (h : block.Tagged) (kind : ObjectKind) (slot : Nat) :
    (block.header? slot).map (·.tag) = some kind.tag ↔ (block.record? kind slot).isSome := by
  cases block with
  | inst record | device record | commandBuffer record =>
    have h : record.header.tag = _ := h
    cases slot with
    | zero =>
      rw [header?, Option.map_some, h]
      cases kind <;> simp [record?, ObjectKind.tag]
    | succ slot => cases kind <;> simp [header?, record?]
  | physicalDevices records | queues records =>
    have h : ∀ found ∈ records, found.header.tag = _ := h
    rw [header?, Option.map_map]
    by_cases hslot : slot < records.size
    · rw [Array.getElem?_eq_getElem hslot, Option.map_some, Function.comp_apply, h _ (Array.getElem_mem hslot)]
      cases kind <;> simp [record?, ObjectKind.tag, hslot]
    · rw [Array.getElem?_eq_none (Nat.le_of_not_lt hslot)]
      cases kind <;> simp [record?, Nat.le_of_not_lt hslot]
  | foreign header => exact h.elim

end Block

namespace Bridge

variable {bridge : Bridge} {kind : ObjectKind}

/-- Each header has the tag of the record it belongs to. -/
def Tagged (bridge : Bridge) : Prop :=
  ∀ (place : Address) (block : Block), bridge.blocks[place]? = some block → block.Tagged

/-- Owners are tagged themselves, and see to it that what belongs to them is. -/
theorem Sound.tagged [Reckoning] (hs : bridge.Sound) : bridge.Tagged := by
  intro place block h
  obtain hown | hbelongs := hs.owner_or_belongs h
  · cases block with
    | inst record => exact (hs place _ h).tag
    | device record => exact (hs place _ h).tag
    | _ => exact hown.elim
  · cases hbelongs with
    | physicalDevices _ hall => exact fun found hf => (hall found hf).1
    | queues _ hall => exact fun found hf => (hall found hf).1
    | commandBuffer _ _ htag => exact htag

namespace Tagged

/-- The tag behind a handle is that of a kind exactly if there is a record of that kind. -/
theorem accepts_iff (h : bridge.Tagged) (handle : Handle) :
    (bridge.header? handle).map (·.tag) = some kind.tag ↔ (bridge.record? kind handle).isSome := by
  rw [header?, record?]
  cases hb : bridge.blocks[handle.block]? with
  | none => simp
  | some block => exact (h _ _ hb).accepts_iff kind handle.slot

/-- What is refused is null, or has no record of the kind behind it. -/
theorem refuses_iff (h : bridge.Tagged) (handle : Option Handle) :
    bridge.Refuses kind handle ↔ handle.bind (bridge.record? kind) = none := by
  cases handle with
  | none => exact ⟨fun _ => rfl, fun _ => nofun⟩
  | some handle =>
    rw [Option.bind_some, ← Option.not_isSome_iff_eq_none, ← h.accepts_iff]
    constructor
    · intro hr
      exact hr handle rfl
    · rintro hr _ ⟨rfl⟩
      exact hr

/-- A handle with a record is accepted without a word. -/
theorem tells_resolve (h : bridge.Tagged) {accepted : Handle} {record : kind.Record}
    (hr : bridge.record? kind accepted = some record) :
    (resolve kind (some accepted)).Tells bridge [] (.ok (accepted, record)) :=
  Bridge.tells_resolve ((h.accepts_iff accepted).2 (by rw [hr]; rfl)) hr

end Tagged

/-- There is no record of the kind behind the handle. -/
def Lacks (bridge : Bridge) (kind : ObjectKind) (handle : Option Handle) : Prop := handle.bind (bridge.record? kind) = none

/-- Where records have blocks of their own, exactly the handles of these blocks are accepted. -/
theorem Sound.runs_resolve [Reckoning] {after : Bridge} {handle : Option Handle} {trace : Trace}
    {block : kind.Record → Block} {result : Except CallError (Handle × kind.Record)} (hs : bridge.Sound)
    (h : (resolve kind handle).Runs bridge trace result after) (hk : kind.ownBlock? = some block) :
    bridge = after ∧
      ((∃ (owner : Address) (record : kind.Record), handle = some owner.toHandle ∧
          bridge.blocks[owner]? = some (block record) ∧ result = .ok (owner.toHandle, record) ∧ trace = []) ∨
        (bridge.Lacks kind handle ∧ result = .error (.invalidHandle kind.name) ∧ trace.Idle)) := by
  obtain ⟨rfl, hi, ⟨⟨owner, slot⟩, record, rfl, rfl, rfl, -, hrec⟩ | ⟨rfl, hno⟩⟩ := VulkanBridge.runs_resolve h
  · obtain ⟨rfl, hb⟩ := (record?_iff hk).1 hrec
    exact ⟨rfl, .inl ⟨owner, record, rfl, hb, rfl, rfl⟩⟩
  · refine ⟨rfl, .inr ⟨Option.bind_eq_none_iff.2 fun accepted ha => ?_, rfl, hi⟩⟩
    by_contra hne
    exact hne (hno accepted ha ((hs.tagged.accepts_iff accepted).2 (Option.isSome_iff_ne_none.2 hne)))

end Bridge

end VulkanBridge
