import VulkanBridge.Proofs.Registry
import VulkanBridge.Bridge
import Mathlib.Data.Multiset.Bind
/-!
# Who owns which block

Instances and devices own memory; what they own is read off their records (`Block.owned`), and the driver owns what
its instances and devices own (`Bridge.owned`). Some of these blocks hold records of their own, the `parts` of an
owner: physical devices, queues and command buffers.

`Bridge.Sound` says that the records fit together: an owner finds the parts it lists, and every part is listed by an
owner. `Sound.change` is the one argument by which soundness survives an operation: if two states differ only in one
owner and its parts, nobody else notices.
-/

namespace VulkanBridge

/-! ## What an owner owns -/

namespace Instance

/-- The array of the physical devices. -/
def arrayOwned (record : Instance) : Ledger :=
  record.physicalDevices.elim 0 fun array =>
    record.allocator.grantedArray .physicalDevice array.capacity.toUInt64 (some array.block)

/-- The blocks of an instance: its record, and the array of its physical devices once it has one. -/
def owned (address : Address) (record : Instance) : Ledger :=
  record.allocator.granted address .instanceRecord + record.arrayOwned

/-- The other blocks in which records of the instance lie. -/
def parts (record : Instance) : List Address := record.physicalDevices.toList.map (·.block)

end Instance

/-- The arrays of the queues of families. -/
def QueueFamily.owned (allocator : Allocator) (families : List QueueFamily) : Ledger :=
  (families.map fun family => allocator.grantedArray .queue family.count.toUInt64 family.queues).sum

theorem QueueFamily.owned_le {allocator : Allocator} {families : List QueueFamily} {family : QueueFamily}
    (h : family ∈ families) :
    allocator.grantedArray .queue family.count.toUInt64 family.queues ≤ QueueFamily.owned allocator families := by
  obtain ⟨first, last, rfl⟩ := List.append_of_mem h
  simp only [owned, List.map_append, List.map_cons, List.sum_append, List.sum_cons]
  exact le_trans (Multiset.le_add_right _ _) (Multiset.le_add_left _ _)

namespace Device

/-- The array of the families and the arrays of their queues. -/
def queuesOwned (record : Device) : Ledger :=
  record.allocator.grantedArray .queueFamily record.families.length.toUInt64 record.familyBlock +
    QueueFamily.owned record.allocator record.families

/-- The records of command buffers, each of the allocator that is recorded for its pool. -/
def wrappersOwned (pools : Registry) (commandBuffers : LiveCommandBuffers) : Ledger :=
  (elements commandBuffers).filterMap fun entry => (pools.get? entry.1).map (⟨entry.2, ·, .commandBuffer⟩)

/-- What a device owns for its pools, fences and command buffers. -/
def childrenOwned (record : Device) : Ledger :=
  record.pools.owned + record.fences.owned + wrappersOwned record.pools record.commandBuffers

/-- The blocks of a device: its record, the arrays of its queues, the entries of its registries, and the records of
its command buffers. -/
def owned (address : Address) (record : Device) : Ledger :=
  record.allocator.granted address .device + record.queuesOwned + record.childrenOwned

/-- The other blocks in which records of the device lie. -/
def parts (record : Device) : List Address :=
  record.families.filterMap (·.queues) ++ record.commandBuffers.toList.map (·.2)

/-- The number of live command buffers of a pool. -/
def held (record : Device) (pool : NativeHandle) : Nat := (elements record.commandBuffers).countP (·.1 = pool)

end Device

namespace Block

/-- The blocks of an instance or device; the other records own nothing. -/
def owned (address : Address) : Block → Ledger
  | inst record => record.owned address
  | device record => record.owned address
  | _ => 0

def parts : Block → List Address
  | inst record => record.parts
  | device record => record.parts
  | _ => []

/-- The block is the record of an instance or device. -/
def IsOwner : Block → Prop
  | inst _ | device _ => True
  | _ => False

/-- The block holds records that belong to an owner. -/
def IsPart : Block → Prop
  | physicalDevices _ | queues _ | commandBuffer _ => True
  | _ => False

instance (block : Block) : Decidable block.IsOwner := by
  unfold IsOwner
  split <;> infer_instance

theorem IsPart.not_owner {block : Block} (h : block.IsPart) : ¬block.IsOwner := by
  cases block <;> simp_all [IsPart, IsOwner]

theorem owned_of_not_owner {block : Block} (h : ¬block.IsOwner) (address : Address) : block.owned address = 0 := by
  cases block <;> simp_all [IsOwner, owned]

theorem address_owned {block : Block} (h : block.IsOwner) (address : Address) :
    ∃ grant ∈ block.owned address, grant.address = address := by
  cases block with
  | inst record => exact ⟨_, Multiset.mem_add.2 (.inl (Multiset.mem_singleton_self _)), rfl⟩
  | device record =>
    exact ⟨_, Multiset.mem_add.2 (.inl (Multiset.mem_add.2 (.inl (Multiset.mem_singleton_self _)))), rfl⟩
  | _ => exact h.elim

theorem isOwner_of_parts {block : Block} {address : Address} (h : address ∈ block.parts) : block.IsOwner := by
  cases block <;> simp_all [parts, IsOwner]

end Block

/-- The block that a record makes up alone. Physical devices and queues share theirs. -/
def ObjectKind.ownBlock? : (kind : ObjectKind) → Option (kind.Record → Block)
  | .inst => some .inst
  | .device => some .device
  | .commandBuffer => some .commandBuffer
  | .physicalDevice | .queue => none

namespace Bridge

/-- All blocks that the driver owns. -/
def owned (bridge : Bridge) : Ledger := (contents bridge.blocks).bind fun entry => entry.2.owned entry.1

/-- The blocks of the owner at an address. -/
def ownedAt (bridge : Bridge) (owner : Address) : Ledger := bridge.blocks[owner]?.elim 0 (·.owned owner)

/-- The parts of the owner at an address. -/
def partsAt (bridge : Bridge) (owner : Address) : List Address := bridge.blocks[owner]?.elim [] (·.parts)

variable {bridge after : Bridge} {owner address : Address} {block : Block}

theorem ownedAt_of_some (h : bridge.blocks[owner]? = some block) : bridge.ownedAt owner = block.owned owner := by
  simp [ownedAt, h]

theorem ownedAt_of_none (h : bridge.blocks[owner]? = none) : bridge.ownedAt owner = 0 := by simp [ownedAt, h]

theorem partsAt_of_some (h : bridge.blocks[owner]? = some block) : bridge.partsAt owner = block.parts := by
  simp [partsAt, h]

theorem partsAt_of_none (h : bridge.blocks[owner]? = none) : bridge.partsAt owner = [] := by simp [partsAt, h]

theorem mem_partsAt_iff : address ∈ bridge.partsAt owner ↔
    ∃ block, bridge.blocks[owner]? = some block ∧ address ∈ block.parts := by
  cases h : bridge.blocks[owner]? with
  | none => simp [partsAt, h]
  | some block => simp [partsAt, h]

/-! ## Blocks after a change of the state -/

theorem blocks_put_self : (bridge.put owner block).blocks[owner]? = some block := getElem?_insert_self

theorem blocks_put (h : address ≠ owner) : (bridge.put owner block).blocks[address]? = bridge.blocks[address]? :=
  getElem?_insert_ne h

/-- Where nothing lies once a block has been put, nothing lay before. -/
theorem ne_of_vacant_put {place : Address} {found : Block} (h : (bridge.put owner block).blocks[address]? = none)
    (hb : bridge.blocks[place]? = some found) : place ≠ address := by
  rintro rfl
  by_cases heq : place = owner
  · rw [heq, blocks_put_self] at h
    cases h
  · rw [blocks_put heq, hb] at h
    cases h

theorem blocks_remove_self : (bridge.remove owner).blocks[owner]? = none := getElem?_erase_self

theorem blocks_remove (h : address ≠ owner) : (bridge.remove owner).blocks[address]? = bridge.blocks[address]? :=
  getElem?_erase_ne h

/-- A block put in its own place changes nothing. -/
theorem put_self (h : bridge.blocks[owner]? = some block) : bridge.put owner block = bridge := by
  have : bridge.blocks.insert owner block = bridge.blocks := by
    refine Std.ExtTreeMap.ext_getElem? fun other => ?_
    by_cases he : other = owner
    · rw [he, getElem?_insert_self, h]
    · rw [getElem?_insert_ne he]
  rw [put, this]

/-- What one owner owns, and what the others own. -/
theorem owned_eq (bridge : Bridge) (owner : Address) :
    bridge.owned = bridge.ownedAt owner + (bridge.remove owner).owned := by
  cases h : bridge.blocks[owner]? with
  | none =>
    rw [ownedAt_of_none h, Multiset.zero_add]
    have : (bridge.remove owner).blocks = bridge.blocks := by
      refine Std.ExtTreeMap.ext_getElem? fun other => ?_
      by_cases he : other = owner
      · rw [he, blocks_remove_self, h]
      · rw [blocks_remove he]
    rw [owned, owned, this]
  | some block =>
    rw [ownedAt_of_some h, owned, contents_erase h, Multiset.cons_bind]
    rfl

/-- Only the records of owners count. -/
theorem owned_eq_bind_filter (bridge : Bridge) :
    bridge.owned = ((contents bridge.blocks).filter (·.2.IsOwner)).bind fun entry => entry.2.owned entry.1 := by
  rw [owned]
  induction contents bridge.blocks using Multiset.induction_on with
  | empty => rfl
  | cons entry rest ih =>
    by_cases h : entry.2.IsOwner
    · have : (entry ::ₘ rest).filter (·.2.IsOwner) = entry ::ₘ rest.filter (·.2.IsOwner) :=
        Multiset.filter_cons_of_pos _ h
      rw [this, Multiset.cons_bind, Multiset.cons_bind, ih]
    · have : (entry ::ₘ rest).filter (·.2.IsOwner) = rest.filter (·.2.IsOwner) := Multiset.filter_cons_of_neg _ h
      rw [this, Multiset.cons_bind, Block.owned_of_not_owner h, Multiset.zero_add, ih]

/-- States with the same owners own the same. -/
theorem owned_congr (h : ∀ (address : Address) (block : Block), block.IsOwner →
    (after.blocks[address]? = some block ↔ bridge.blocks[address]? = some block)) : after.owned = bridge.owned := by
  rw [owned_eq_bind_filter, owned_eq_bind_filter]
  congr 1
  refine (Multiset.Nodup.ext ((nodup_contents _).filter _) ((nodup_contents _).filter _)).2 fun entry => ?_
  rw [Multiset.mem_filter, Multiset.mem_filter, mem_contents, mem_contents]
  constructor
  · exact fun ⟨hm, ho⟩ => ⟨(h _ _ ho).1 hm, ho⟩
  · exact fun ⟨hm, ho⟩ => ⟨(h _ _ ho).2 hm, ho⟩

theorem owned_le (h : bridge.blocks[owner]? = some block) : block.owned owner ≤ bridge.owned := by
  rw [owned_eq bridge owner, ownedAt_of_some h]
  exact Multiset.le_add_right ..

theorem owned_of_blocks (h : after.blocks = bridge.blocks) : after.owned = bridge.owned := by rw [owned, owned, h]

/-! ## Records behind handles -/

/-- A record that has a block of its own is the only one there. -/
theorem record?_iff {kind : ObjectKind} {block : kind.Record → Block} (hk : kind.ownBlock? = some block) {handle : Handle}
    {record : kind.Record} :
    bridge.record? kind handle = some record ↔ handle.slot = 0 ∧ bridge.blocks[handle.block]? = some (block record) := by
  obtain ⟨place, slot⟩ := handle
  rw [record?, Option.bind_eq_some_iff]
  cases kind
  case physicalDevice | queue => cases hk
  all_goals
    obtain rfl := Option.some.inj hk
    constructor
    · rintro ⟨found, hb, hr⟩
      cases found <;> cases slot <;> simp_all [Block.record?]
    · rintro ⟨rfl, hb⟩
      exact ⟨_, hb, rfl⟩

theorem record?_inst_iff {handle : Handle} {record : Instance} :
    bridge.record? .inst handle = some record ↔ handle.slot = 0 ∧ bridge.blocks[handle.block]? = some (.inst record) :=
  record?_iff rfl

theorem record?_device_iff {handle : Handle} {record : Device} :
    bridge.record? .device handle = some record ↔
      handle.slot = 0 ∧ bridge.blocks[handle.block]? = some (.device record) := record?_iff rfl

theorem record?_commandBuffer_iff {handle : Handle} {record : CommandBuffer} :
    bridge.record? .commandBuffer handle = some record ↔
      handle.slot = 0 ∧ bridge.blocks[handle.block]? = some (.commandBuffer record) := record?_iff rfl

end Bridge

namespace Device

variable {address : Address} {device : Device}

theorem mem_parts_iff : address ∈ device.parts ↔
    (∃ family ∈ device.families, family.queues = some address) ∨ ∃ pool, (pool, address) ∈ device.commandBuffers := by
  simp only [parts, List.mem_append, List.mem_filterMap, List.mem_map, Std.ExtTreeSet.mem_toList, Prod.exists,
    exists_eq_right]

/-- What is owned, seen from the children of one device. -/
theorem exists_owned_put (bridge : Bridge) (owner : Address) (device : Device) :
    ∃ rest, (bridge.put owner (.device device)).owned = device.childrenOwned + rest := by
  refine ⟨device.allocator.granted owner .device + device.queuesOwned +
    ((bridge.put owner (.device device)).remove owner).owned, ?_⟩
  rw [Bridge.owned_eq _ owner, Bridge.ownedAt_of_some Bridge.blocks_put_self, Block.owned, owned,
    Multiset.add_comm _ device.childrenOwned, Multiset.add_assoc]

end Device

/-! ## Records that fit together -/

variable [Reckoning]

/-- The record of an instance fits the state: it is tagged, its memory can be given back, and its physical devices
lie where it says. -/
structure Instance.Sound (bridge : Bridge) (address : Address) (record : Instance) : Prop where
  tag : record.header.tag = ObjectKind.inst.tag
  free : record.allocator.Returns
  capacity : ∀ array ∈ record.physicalDevices, array.capacity ≠ 0
  listed : ∀ array ∈ record.physicalDevices, ∃ records,
    bridge.blocks[array.block]? = some (.physicalDevices records) ∧
      ∀ found ∈ records, found.header.tag = ObjectKind.physicalDevice.tag ∧ found.inst = address

/-- The record of a device fits the state: it is tagged, its memory can be given back, it has the arrays its families
need, its queues and command buffers lie where it says, and each pool with command buffers has a reference for every
one of them and another. -/
structure Device.Sound (bridge : Bridge) (address : Address) (record : Device) : Prop where
  tag : record.header.tag = ObjectKind.device.tag
  free : record.allocator.Returns
  few : record.families.length < 2 ^ 32
  familyBlock : record.familyBlock.isSome ↔ record.families ≠ []
  queues : ∀ family ∈ record.families, family.queues.isSome ↔ family.count ≠ 0
  queueBlocks : ∀ family ∈ record.families, ∀ block ∈ family.queues, ∃ records,
    bridge.blocks[block]? = some (.queues records) ∧
      ∀ found ∈ records, found.header.tag = ObjectKind.queue.tag ∧ found.device = address
  pools : record.pools.Sound
  fences : record.fences.Sound
  commandBuffers : ∀ pool block, (pool, block) ∈ record.commandBuffers → ∃ found,
    bridge.blocks[block]? = some (.commandBuffer found) ∧
      found.header.tag = ObjectKind.commandBuffer.tag ∧ found.pool = pool ∧ found.device = address
  counted : ∀ pool, record.held pool ≠ 0 → record.held pool < record.pools.references pool

/-- A block fits the state. -/
def Block.Sound (bridge : Bridge) (address : Address) : Block → Prop
  | inst record => record.Sound bridge address
  | device record => record.Sound bridge address
  | physicalDevices _ | queues _ | commandBuffer _ => ∃ owner, address ∈ bridge.partsAt owner
  | foreign _ => False

/-- All records fit together. -/
def Bridge.Sound (bridge : Bridge) : Prop :=
  ∀ (address : Address) (block : Block), bridge.blocks[address]? = some block → block.Sound bridge address

theorem Block.Sound.owner_or_part {bridge : Bridge} {address : Address} {block : Block} (h : block.Sound bridge address) :
    block.IsOwner ∨ (block.IsPart ∧ ∃ owner, address ∈ bridge.partsAt owner) := by
  cases block with
  | inst _ => exact .inl trivial
  | device _ => exact .inl trivial
  | physicalDevices _ => exact .inr ⟨trivial, h⟩
  | queues _ => exact .inr ⟨trivial, h⟩
  | commandBuffer _ => exact .inr ⟨trivial, h⟩
  | foreign _ => exact h.elim

/-- A block belongs to a record that lists it, and all its own records have their tag and name that record. -/
inductive Block.Belongs (bridge : Bridge) (address : Address) : Block → Prop
  | physicalDevices {owner : Address} {inst : Instance} {records : Array PhysicalDevice} :
      bridge.blocks[owner]? = some (.inst inst) →
      (∀ found ∈ records, found.header.tag = ObjectKind.physicalDevice.tag ∧ found.inst = owner) →
      Belongs bridge address (.physicalDevices records)
  | queues {owner : Address} {device : Device} {records : Array Queue} :
      bridge.blocks[owner]? = some (.device device) →
      (∀ found ∈ records, found.header.tag = ObjectKind.queue.tag ∧ found.device = owner) →
      Belongs bridge address (.queues records)
  | commandBuffer {record : CommandBuffer} {device : Device} :
      bridge.blocks[record.device]? = some (.device device) → (record.pool, address) ∈ device.commandBuffers →
      record.header.tag = ObjectKind.commandBuffer.tag → Belongs bridge address (.commandBuffer record)

theorem Block.Sound.of_part {bridge : Bridge} {address : Address} {block : Block} (owner : Address) (h : block.IsPart)
    (hm : address ∈ bridge.partsAt owner) : block.Sound bridge address := by
  cases block with
  | inst _ => exact h.elim
  | device _ => exact h.elim
  | physicalDevices _ => exact ⟨owner, hm⟩
  | queues _ => exact ⟨owner, hm⟩
  | commandBuffer _ => exact ⟨owner, hm⟩
  | foreign _ => exact h.elim

namespace Block

variable {bridge after : Bridge} {address part : Address} {block : Block}

theorem Sound.found_part (h : block.Sound bridge address) (hm : part ∈ block.parts) :
    ∃ found, bridge.blocks[part]? = some found ∧ found.IsPart := by
  cases block with
  | inst record =>
    simp only [parts, Instance.parts, List.mem_map, Option.mem_toList] at hm
    obtain ⟨array, ha, rfl⟩ := hm
    obtain ⟨records, hr, -⟩ := Instance.Sound.listed h array ha
    exact ⟨_, hr, trivial⟩
  | device record =>
    simp only [parts, Device.parts, List.mem_append, List.mem_filterMap, List.mem_map, Std.ExtTreeSet.mem_toList] at hm
    obtain ⟨family, hf, hq⟩ | ⟨⟨pool, place⟩, he, rfl⟩ := hm
    · obtain ⟨records, hr, -⟩ := Device.Sound.queueBlocks h family hf part hq
      exact ⟨_, hr, trivial⟩
    · obtain ⟨found, hr, -⟩ := Device.Sound.commandBuffers h pool place he
      exact ⟨_, hr, trivial⟩
  | _ => simp [parts] at hm

/-- The memory of a part belongs to its owner. -/
theorem Sound.part_owned (h : block.Sound bridge address) (hm : part ∈ block.parts) :
    ∃ grant ∈ block.owned address, grant.address = part := by
  cases block with
  | inst record =>
    simp only [parts, Instance.parts, List.mem_map, Option.mem_toList] at hm
    obtain ⟨array, ha, rfl⟩ := hm
    refine ⟨⟨array.block, record.allocator, Layout.physicalDevice.array array.capacity.toUInt64⟩, ?_, rfl⟩
    rw [owned, Instance.owned, Multiset.mem_add, Instance.arrayOwned, ha]
    exact .inr (Multiset.mem_singleton_self _)
  | device record =>
    simp only [parts, Device.parts, List.mem_append, List.mem_filterMap, List.mem_map, Std.ExtTreeSet.mem_toList] at hm
    obtain ⟨family, hf, hq⟩ | ⟨⟨pool, place⟩, he, rfl⟩ := hm
    · refine ⟨⟨part, record.allocator, Layout.queue.array family.count.toUInt64⟩, ?_, rfl⟩
      rw [owned, Device.owned, Device.queuesOwned, Multiset.mem_add, Multiset.mem_add, Multiset.mem_add]
      refine .inl (.inr (.inr ?_))
      refine Multiset.mem_of_le (QueueFamily.owned_le hf) ?_
      rw [hq]
      exact Multiset.mem_singleton_self _
    · have hp : record.held pool ≠ 0 := by
        have : 0 < record.held pool := Multiset.countP_pos.2 ⟨(pool, place), mem_elements.2 he, rfl⟩
        omega
      have hr := Device.Sound.counted h pool hp
      have : record.pools.get? pool ≠ none := by
        intro hn
        rw [Registry.get?, Option.map_eq_none_iff] at hn
        rw [Registry.references_of_none hn] at hr
        omega
      obtain ⟨allocator, ha⟩ := Option.ne_none_iff_exists'.1 this
      refine ⟨⟨place, allocator, .commandBuffer⟩, ?_, rfl⟩
      refine Multiset.mem_add.2 (.inr (Multiset.mem_add.2 (.inr ?_)))
      refine (Multiset.mem_filterMap _ _).2 ⟨(pool, place), mem_elements.2 he, ?_⟩
      rw [ha]
      rfl
  | _ => simp [parts] at hm

/-- A block that finds its parts unchanged still fits. -/
theorem Sound.frame (h : block.Sound bridge address) (ho : block.IsOwner)
    (hp : ∀ part ∈ block.parts, after.blocks[part]? = bridge.blocks[part]?) : block.Sound after address := by
  cases block with
  | inst record =>
    have hp (array) (ha : array ∈ record.physicalDevices) :
        after.blocks[array.block]? = bridge.blocks[array.block]? := by
      refine hp _ ?_
      simp only [parts, Instance.parts, List.mem_map, Option.mem_toList]
      exact ⟨array, ha, rfl⟩
    have h : record.Sound bridge address := h
    refine ⟨h.tag, h.free, h.capacity, fun array ha => ?_⟩
    rw [hp array ha]
    exact h.listed array ha
  | device record =>
    have h : record.Sound bridge address := h
    have mem (part) : part ∈ (Block.device record).parts ↔
        (∃ family ∈ record.families, family.queues = some part) ∨ ∃ entry ∈ record.commandBuffers, entry.2 = part := by
      simp only [parts, Device.parts, List.mem_append, List.mem_filterMap, List.mem_map, Std.ExtTreeSet.mem_toList]
    refine { h with queueBlocks := fun family hf block hb => ?_, commandBuffers := fun pool block he => ?_ }
    · rw [hp block ((mem block).2 (.inl ⟨family, hf, hb⟩))]
      exact h.queueBlocks family hf block hb
    · rw [hp block ((mem block).2 (.inr ⟨(pool, block), he, rfl⟩))]
      exact h.commandBuffers pool block he
  | _ => exact ho.elim

end Block

namespace Bridge

variable {bridge after : Bridge} {owner other address : Address} {block : Block}

theorem Sound.part (hs : bridge.Sound) (h : address ∈ bridge.partsAt owner) :
    ∃ block, bridge.blocks[address]? = some block ∧ block.IsPart := by
  obtain ⟨block, hb, hm⟩ := mem_partsAt_iff.1 h
  exact (hs owner block hb).found_part hm

/-- A block owns itself, or belongs to a record that lists it. -/
theorem Sound.owner_or_belongs (hs : bridge.Sound) (h : bridge.blocks[address]? = some block) :
    block.IsOwner ∨ block.Belongs bridge address := by
  refine (hs address block h).owner_or_part.imp_right fun ⟨_, owner, hm⟩ => ?_
  obtain ⟨parent, hb, hm⟩ := mem_partsAt_iff.1 hm
  have hp := hs owner parent hb
  cases parent with
  | inst found =>
    simp only [Block.parts, Instance.parts, List.mem_map, Option.mem_toList] at hm
    obtain ⟨array, ha, rfl⟩ := hm
    obtain ⟨records, hr, hall⟩ := Instance.Sound.listed hp array ha
    obtain rfl := Option.some.inj (h.symm.trans hr)
    exact .physicalDevices hb hall
  | device found =>
    obtain ⟨family, hf, hq⟩ | ⟨pool, hentry⟩ := Device.mem_parts_iff.1 hm
    · obtain ⟨records, hr, hall⟩ := Device.Sound.queueBlocks hp family hf address hq
      obtain rfl := Option.some.inj (h.symm.trans hr)
      exact .queues hb hall
    · obtain ⟨record, hr, htag, rfl, rfl⟩ := Device.Sound.commandBuffers hp pool address hentry
      obtain rfl := Option.some.inj (h.symm.trans hr)
      exact .commandBuffer hb hentry htag
  | _ => simp [Block.parts] at hm

/-- No record lies in memory that is not owned. -/
theorem Sound.key_owned (hs : bridge.Sound) (h : bridge.blocks[address]? = some block) :
    address ∈ bridge.owned.map Grant.address := by
  obtain ho | ⟨-, owner, hp⟩ := (hs address block h).owner_or_part
  · obtain ⟨grant, hg, rfl⟩ := Block.address_owned ho address
    exact Multiset.mem_map_of_mem _ (Multiset.mem_of_le (owned_le h) hg)
  · obtain ⟨parent, hb, hm⟩ := mem_partsAt_iff.1 hp
    obtain ⟨grant, hg, rfl⟩ := (hs owner parent hb).part_owned hm
    exact Multiset.mem_map_of_mem _ (Multiset.mem_of_le (owned_le hb) hg)

/-- New memory holds no record yet. -/
theorem Sound.fresh (hs : bridge.Sound) {more : Ledger} {trace natives : Trace} {places : List Address}
    (ho : bridge.owned.Occupies places) (hf : trace.Fresh places) (he : trace.Effect 0 natives more) {grant : Grant}
    (hg : grant ∈ more) : bridge.blocks[grant.address]? = none := by
  have hd := ((he.accounts.frame bridge.owned).occupies (by rwa [Multiset.zero_add]) hf).distinct
  by_contra hn
  obtain ⟨block, hb⟩ := Option.ne_none_iff_exists'.1 hn
  obtain ⟨found, hf, he⟩ := Multiset.mem_map.1 (hs.key_owned hb)
  exact hd.ne hg hf he.symm

/-- No part belongs to two owners. -/
theorem Sound.parts_disjoint (hs : bridge.Sound) (hd : bridge.owned.Distinct) (hne : other ≠ owner)
    (h : address ∈ bridge.partsAt owner) : address ∉ bridge.partsAt other := by
  intro h'
  obtain ⟨block, hb, hm⟩ := mem_partsAt_iff.1 h
  obtain ⟨block', hb', hm'⟩ := mem_partsAt_iff.1 h'
  obtain ⟨grant, hg, rfl⟩ := (hs owner block hb).part_owned hm
  obtain ⟨grant', hg', he⟩ := (hs other block' hb').part_owned hm'
  rw [owned_eq bridge owner, ownedAt_of_some hb] at hd
  have hb'' : (bridge.remove owner).blocks[other]? = some block' := by rw [blocks_remove hne, hb']
  exact hd.ne hg (Multiset.mem_of_le (owned_le hb'') hg') he.symm

/-- Two states differ only in one owner and its parts. -/
structure Changes (bridge after : Bridge) (owner : Address) : Prop where
  elsewhere : ∀ address, address ≠ owner → address ∉ bridge.partsAt owner → address ∉ after.partsAt owner →
    after.blocks[address]? = bridge.blocks[address]?
  /-- The owner's place holds an owner, or nothing. -/
  place : ∀ block, bridge.blocks[owner]? = some block → block.IsOwner
  /-- New parts lie where there was no record. -/
  newcomers : ∀ address ∈ after.partsAt owner, address ∈ bridge.partsAt owner ∨ bridge.blocks[address]? = none
  /-- Of the old parts and the new, those that have a record are parts. -/
  parts : ∀ address block, address ∈ bridge.partsAt owner ∨ address ∈ after.partsAt owner →
    after.blocks[address]? = some block → block.IsPart ∧ address ∈ after.partsAt owner
  self : ∀ block, after.blocks[owner]? = some block → block.Sound after owner

/-- The other owners do not change. -/
theorem Changes.others (hc : bridge.Changes after owner) (hs : bridge.Sound) (hne : address ≠ owner)
    (ho : block.IsOwner) : after.blocks[address]? = some block ↔ bridge.blocks[address]? = some block := by
  by_cases hb : address ∈ bridge.partsAt owner
  · refine iff_of_false (fun h => ?_) fun h => ?_
    · exact (hc.parts address block (.inl hb) h).1.not_owner ho
    · obtain ⟨found, hf, hp⟩ := hs.part hb
      obtain rfl := Option.some.inj (h.symm.trans hf)
      exact hp.not_owner ho
  · by_cases ha : address ∈ after.partsAt owner
    · refine iff_of_false (fun h => (hc.parts address block (.inr ha) h).1.not_owner ho) fun h => ?_
      rw [(hc.newcomers address ha).resolve_left hb] at h
      cases h
    · rw [hc.elsewhere address hne hb ha]

theorem Changes.owned_remove (hc : bridge.Changes after owner) (hs : bridge.Sound) :
    (after.remove owner).owned = (bridge.remove owner).owned := by
  refine Bridge.owned_congr fun address block ho => ?_
  by_cases he : address = owner
  · rw [he, blocks_remove_self, blocks_remove_self]
  · rw [blocks_remove he, blocks_remove he]
    exact hc.others hs he ho

/-- What is owned after a change in one owner. -/
theorem Changes.owned_eq (hc : bridge.Changes after owner) (hs : bridge.Sound) :
    after.owned = after.ownedAt owner + (bridge.remove owner).owned := by
  rw [Bridge.owned_eq after owner, hc.owned_remove hs]

/-- A change in one owner and its parts leaves all records fitting together. -/
theorem Sound.change (hs : bridge.Sound) (hd : bridge.owned.Distinct) (hc : bridge.Changes after owner) :
    after.Sound := by
  intro address block hb
  by_cases he : address = owner
  · subst he
    exact hc.self block hb
  by_cases hp : address ∈ bridge.partsAt owner ∨ address ∈ after.partsAt owner
  · obtain ⟨hp, hm⟩ := hc.parts address block hp hb
    exact .of_part _ hp hm
  obtain ⟨hold, hnew⟩ := not_or.1 hp
  rw [hc.elsewhere address he hold hnew] at hb
  have hsb := hs address block hb
  obtain ho | ⟨hpart, parent, hm⟩ := hsb.owner_or_part
  · refine hsb.frame ho fun part hm => ?_
    have hm' : part ∈ bridge.partsAt address := mem_partsAt_iff.2 ⟨block, hb, hm⟩
    obtain ⟨found, hf, hfp⟩ := hs.part hm'
    have hold' := hs.parts_disjoint hd (Ne.symm he) hm'
    refine hc.elsewhere part ?_ hold' fun hn => ?_
    · rintro rfl
      exact hfp.not_owner (hc.place found hf)
    · rw [(hc.newcomers part hn).resolve_left hold'] at hf
      cases hf
  · obtain ⟨found, hf, hm'⟩ := mem_partsAt_iff.1 hm
    have ho := Block.isOwner_of_parts hm'
    have hne : parent ≠ owner := by
      rintro rfl
      exact hold hm
    have hold' : parent ∉ bridge.partsAt owner := by
      intro hp
      obtain ⟨found', hf', hp'⟩ := hs.part hp
      obtain rfl := Option.some.inj (hf.symm.trans hf')
      exact hp'.not_owner ho
    have hnew' : parent ∉ after.partsAt owner := by
      intro hp
      rw [(hc.newcomers parent hp).resolve_left hold'] at hf
      cases hf
    refine .of_part parent hpart (mem_partsAt_iff.2 ⟨found, ?_, hm'⟩)
    rw [hc.elsewhere parent hne hold' hnew', hf]

/-- What a call leaves behind that deals with one owner: records that fit together, the memory they own, and all
other owners as they were, none of their memory given back. -/
structure Keeps (bridge : Bridge) (owner : Address) (trace natives : Trace) (after : Bridge) : Prop where
  sound : after.Sound
  effect : trace.Effect bridge.owned natives after.owned
  others : ∀ (address : Address) (block : Block), address ≠ owner → block.IsOwner →
    (after.blocks[address]? = some block ↔ bridge.blocks[address]? = some block)
  spares : ∀ grant ∈ (bridge.remove owner).owned, ∀ exchange ∈ trace, exchange.returned? ≠ some grant.address

variable {trace natives : Trace} {places : List Address}

theorem Changes.keeps (hc : bridge.Changes after owner) (hs : bridge.Sound) (ho : bridge.owned.Occupies places)
    (hf : trace.Fresh places) (he : trace.Effect (bridge.ownedAt owner) natives (after.ownedAt owner)) :
    bridge.Keeps owner trace natives after where
  sound := hs.change ho.distinct hc
  effect := by
    rw [hc.owned_eq hs, Bridge.owned_eq bridge owner]
    exact he.frame _
  others _ _ hne howner := hc.others hs hne howner
  spares grant hg := he.accounts.spares (by rwa [← Bridge.owned_eq]) hf hg

theorem Keeps.owned_remove (hk : bridge.Keeps owner trace natives after) :
    (after.remove owner).owned = (bridge.remove owner).owned := by
  refine Bridge.owned_congr fun address block ho => ?_
  by_cases he : address = owner
  · rw [he, blocks_remove_self, blocks_remove_self]
  · rw [blocks_remove he, blocks_remove he]
    exact hk.others address block he ho

/-- One call after another. -/
theorem Keeps.trans {last : Bridge} {later laterNatives : Trace} (hf : bridge.Keeps owner trace natives after)
    (hl : after.Keeps owner later laterNatives last) :
    bridge.Keeps owner (trace ++ later) (natives ++ laterNatives) last where
  sound := hl.sound
  effect := hf.effect.append hl.effect
  others address block hne ho := (hl.others address block hne ho).trans (hf.others address block hne ho)
  spares grant hg exchange he := by
    obtain he | he := List.mem_append.1 he
    · exact hf.spares grant hg exchange he
    · exact hl.spares grant (hf.owned_remove ▸ hg) exchange he

/-- Nothing but the records counts. -/
theorem Sound.congr (hs : bridge.Sound) (h : after.blocks = bridge.blocks) : after.Sound := by
  intro address block hb
  rw [h] at hb
  have hsb := hs address block hb
  obtain ho | ⟨hp, owner, hm⟩ := hsb.owner_or_part
  · exact hsb.frame ho fun part _ => by rw [h]
  · refine .of_part owner hp ?_
    rw [mem_partsAt_iff] at hm ⊢
    rwa [h]

theorem Keeps.congr {last : Bridge} (hk : bridge.Keeps owner trace natives after) (h : last.blocks = after.blocks) :
    bridge.Keeps owner trace natives last where
  sound := hk.sound.congr h
  effect := owned_of_blocks h ▸ hk.effect
  others address block hne ho := by
    rw [h]
    exact hk.others address block hne ho
  spares := hk.spares

/-- A call that changes no record and keeps no memory. -/
theorem Sound.keeps_still (hs : bridge.Sound) (ho : bridge.owned.Occupies places) (hf : trace.Fresh places)
    (h : after.blocks = bridge.blocks) (he : trace.Effect 0 natives 0) (owner : Address) :
    bridge.Keeps owner trace natives after where
  sound := hs.congr h
  others address block _ _ := by rw [h]
  effect := by
    have := he.frame bridge.owned
    rw [owned_of_blocks h]
    rwa [Multiset.zero_add] at this
  spares grant hg := by
    have ho' : (0 + bridge.owned).Occupies places := by rwa [Multiset.zero_add]
    refine he.accounts.spares ho' hf ?_
    rw [Bridge.owned_eq bridge owner]
    exact Multiset.mem_add.2 (.inr hg)

/-- A call that changes no record and handles no memory. -/
theorem Sound.keeps_idle (hs : bridge.Sound) (hi : trace.Idle) (owner : Address) :
    bridge.Keeps owner trace [] bridge where
  sound := hs
  others _ _ _ _ := Iff.rfl
  effect := hi.effect _
  spares _ _ exchange he := by simp [(hi exchange he).returned]

end Bridge

/-! ## Inheritance of allocators -/

/-- The allocator of an instance or a device. -/
def Block.allocator? : Block → Option Allocator
  | inst record => some record.allocator
  | device record => some record.allocator
  | _ => none

/-- What a new object may inherit: the process's own allocator, or that of an instance or a device. -/
def Bridge.Bequeaths (bridge : Bridge) (parent : Allocator) : Prop :=
  parent = .system ∨ ∃ (address : Address) (block : Block),
    bridge.blocks[address]? = some block ∧ block.allocator? = some parent

namespace Device

variable {bridge after : Bridge} {owner address : Address} {device changed : Device} {trace natives : Trace}

/-- Two records of one device, which differ in its children only. -/
structure SameDevice (device changed : Device) : Prop where
  header : changed.header = device.header
  native : changed.native = device.native
  allocator : changed.allocator = device.allocator
  families : changed.families = device.families
  familyBlock : changed.familyBlock = device.familyBlock

/-- What is done for a device's children is done for the device. -/
theorem SameDevice.effect (h : device.SameDevice changed) (he : trace.Effect device.childrenOwned natives changed.childrenOwned)
    (owner : Address) : trace.Effect (device.owned owner) natives (changed.owned owner) := by
  have hq : changed.queuesOwned = device.queuesOwned := by
    rw [queuesOwned, queuesOwned, h.allocator, h.families, h.familyBlock]
  rw [owned, owned, h.allocator, hq, Multiset.add_comm, Multiset.add_comm _ changed.childrenOwned]
  exact he.frame _

/-- A command buffer of a device lies elsewhere than the device, whose record is in place. -/
theorem Sound.commandBuffer (h : device.Sound (bridge.put owner (.device device)) owner) {pool : NativeHandle}
    {place : Address} (hm : (pool, place) ∈ device.commandBuffers) :
    place ≠ owner ∧ ∃ found, bridge.blocks[place]? = some (.commandBuffer found) ∧
      found.header.tag = ObjectKind.commandBuffer.tag ∧ found.pool = pool ∧ found.device = owner := by
  obtain ⟨found, hfound, ht⟩ := h.commandBuffers pool place hm
  have hne : place ≠ owner := by
    rintro rfl
    rw [Bridge.blocks_put_self] at hfound
    cases hfound
  rw [Bridge.blocks_put hne] at hfound
  exact ⟨hne, found, hfound, ht⟩

/-- A device gets other children. The blocks of its queues, which lie where no command buffer ever does, stay as they are. -/
theorem SameDevice.queueBlocks (h : device.SameDevice changed) (hs : (bridge.put owner (.device device)).Sound)
    (hrest : ∀ address, address ≠ owner → (∀ pool, (pool, address) ∉ device.commandBuffers) →
      (∀ pool, (pool, address) ∉ changed.commandBuffers) → after.blocks[address]? = bridge.blocks[address]?)
    (hnew : ∀ pool place, (pool, place) ∈ changed.commandBuffers →
      (pool, place) ∈ device.commandBuffers ∨ (bridge.put owner (.device device)).blocks[place]? = none) :
    ∀ family ∈ changed.families, ∀ block ∈ family.queues, ∃ records,
      (after.put owner (.device changed)).blocks[block]? = some (.queues records) ∧
        ∀ found ∈ records, found.header.tag = ObjectKind.queue.tag ∧ found.device = owner := by
  have hsd : device.Sound (bridge.put owner (.device device)) owner := hs owner _ Bridge.blocks_put_self
  rw [h.families]
  intro family hf block hb
  obtain ⟨records, hr, ht⟩ := hsd.queueBlocks family hf block hb
  have hne : block ≠ owner := by
    rintro rfl
    rw [Bridge.blocks_put_self] at hr
    cases hr
  have hold (pool : NativeHandle) : (pool, block) ∉ device.commandBuffers := by
    intro hm
    obtain ⟨found, hfound, -⟩ := hsd.commandBuffers pool block hm
    rw [hr] at hfound
    cases hfound
  refine ⟨records, ?_, ht⟩
  rw [Bridge.blocks_put hne, hrest block hne hold, ← hr, Bridge.blocks_put hne]
  intro pool hm
  rw [(hnew pool block hm).resolve_left (hold pool)] at hr
  cases hr

/-- A device gets other children, and blocks change where its command buffers lie. This is seen from states in which
the record of the device is in place. -/
theorem SameDevice.changes (h : device.SameDevice changed) (hs : (bridge.put owner (.device device)).Sound)
    (hrest : ∀ address, address ≠ owner → (∀ pool, (pool, address) ∉ device.commandBuffers) →
      (∀ pool, (pool, address) ∉ changed.commandBuffers) → after.blocks[address]? = bridge.blocks[address]?)
    (hnew : ∀ pool place, (pool, place) ∈ changed.commandBuffers →
      (pool, place) ∈ device.commandBuffers ∨ (bridge.put owner (.device device)).blocks[place]? = none)
    (hgone : ∀ pool place, (pool, place) ∈ device.commandBuffers → (pool, place) ∉ changed.commandBuffers →
      after.blocks[place]? = none)
    (hfound : ∀ pool place, (pool, place) ∈ changed.commandBuffers → place ≠ owner ∧ ∃ found,
      after.blocks[place]? = some (.commandBuffer found) ∧
        found.header.tag = ObjectKind.commandBuffer.tag ∧ found.pool = pool ∧ found.device = owner)
    (hpools : changed.pools.Sound) (hfences : changed.fences.Sound)
    (hcounted : ∀ pool, changed.held pool ≠ 0 → changed.held pool < changed.pools.references pool) :
    (bridge.put owner (.device device)).Changes (after.put owner (.device changed)) owner := by
  have hself : (bridge.put owner (.device device)).blocks[owner]? = some (.device device) := Bridge.blocks_put_self
  have hself' : (after.put owner (.device changed)).blocks[owner]? = some (.device changed) := Bridge.blocks_put_self
  have hsd : device.Sound (bridge.put owner (.device device)) owner := hs owner _ hself
  have hparts : (bridge.put owner (.device device)).partsAt owner = device.parts := Bridge.partsAt_of_some hself
  have hparts' : (after.put owner (.device changed)).partsAt owner = changed.parts := Bridge.partsAt_of_some hself'
  have hqueue := h.queueBlocks hs hrest hnew
  refine ⟨fun other hne hold hnew' => ?_, ?_, ?_, ?_, ?_⟩
  · rw [hparts, mem_parts_iff, not_or] at hold
    rw [hparts', mem_parts_iff, not_or] at hnew'
    rw [Bridge.blocks_put hne, Bridge.blocks_put hne]
    exact hrest other hne (not_exists.1 hold.2) (not_exists.1 hnew'.2)
  · rw [hself]
    rintro block ⟨rfl⟩
    trivial
  · rw [hparts, hparts']
    intro other hm
    obtain ⟨family, hf, hq⟩ | ⟨pool, hm⟩ := mem_parts_iff.1 hm
    · rw [h.families] at hf
      exact .inl (mem_parts_iff.2 (.inl ⟨family, hf, hq⟩))
    · obtain hold | hnone := hnew pool other hm
      · exact .inl (mem_parts_iff.2 (.inr ⟨pool, hold⟩))
      · exact .inr hnone
  · rw [hparts, hparts']
    intro other block hm hblock
    have queue (hq : ∃ family ∈ changed.families, family.queues = some other) : block.IsPart ∧ other ∈ changed.parts := by
      obtain ⟨family, hf, hq⟩ := hq
      obtain ⟨records, hr, -⟩ := hqueue family hf other hq
      obtain rfl := Option.some.inj (hr.symm.trans hblock)
      exact ⟨trivial, mem_parts_iff.2 (.inl ⟨family, hf, hq⟩)⟩
    have buffer (pool : NativeHandle) (hm : (pool, other) ∈ changed.commandBuffers) :
        block.IsPart ∧ other ∈ changed.parts := by
      obtain ⟨hne, found, hf, -⟩ := hfound pool other hm
      rw [Bridge.blocks_put hne] at hblock
      obtain rfl := Option.some.inj (hf.symm.trans hblock)
      exact ⟨trivial, mem_parts_iff.2 (.inr ⟨pool, hm⟩)⟩
    obtain hm | hm := hm
    · obtain hq | ⟨pool, hm⟩ := mem_parts_iff.1 hm
      · rw [← h.families] at hq
        exact queue hq
      · by_cases hm' : (pool, other) ∈ changed.commandBuffers
        · exact buffer pool hm'
        · rw [Bridge.blocks_put (hsd.commandBuffer hm).1, hgone pool other hm hm'] at hblock
          cases hblock
    · obtain hq | ⟨pool, hm⟩ := mem_parts_iff.1 hm
      · exact queue hq
      · exact buffer pool hm
  · intro block hblock
    obtain rfl := Option.some.inj (hself'.symm.trans hblock)
    refine ⟨?_, ?_, ?_, ?_, ?_, hqueue, hpools, hfences, fun pool place hm => ?_, hcounted⟩
    · rw [h.header]
      exact hsd.tag
    · rw [h.allocator]
      exact hsd.free
    · rw [h.families]
      exact hsd.few
    · rw [h.familyBlock, h.families]
      exact hsd.familyBlock
    · rw [h.families]
      exact hsd.queues
    · obtain ⟨hne, found, hf, ht⟩ := hfound pool place hm
      refine ⟨found, ?_, ht⟩
      rw [Bridge.blocks_put hne, hf]

/-- The states before and after an operation on the children of a device, once its effect is known. -/
theorem SameDevice.keeps {places : List Address} (h : device.SameDevice changed)
    (hs : (bridge.put owner (.device device)).Sound)
    (ho : (bridge.put owner (.device device)).owned.Occupies places) (hf : trace.Fresh places)
    (hc : (bridge.put owner (.device device)).Changes (after.put owner (.device changed)) owner)
    (he : trace.Effect device.childrenOwned natives changed.childrenOwned) :
    (bridge.put owner (.device device)).Keeps owner trace natives (after.put owner (.device changed)) := by
  refine hc.keeps hs ho hf ?_
  rw [Bridge.ownedAt_of_some Bridge.blocks_put_self, Bridge.ownedAt_of_some Bridge.blocks_put_self]
  exact h.effect he owner

end Device

end VulkanBridge
