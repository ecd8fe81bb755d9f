import VulkanBridge.Proofs.Live
/-!
# The objects of the application and the records of the driver

`Agrees` compares the objects that are live after a use with the records in the state: each instance and each device
that is live has its record, and no other has one. Every event keeps the two in agreement (`Agrees.step`).
-/

namespace VulkanBridge

/-- A place in the state has what the objects of its handle call for. -/
def Matches (address : Address) : Option Block → Multiset Object → Prop
  | some (.inst record), objects =>
    ∃ explicit, objects = {.inst address.toHandle explicit (record.physicalDevices.map (·.capacity))} ∧
      record.allocator = Allocator.merge explicit .system
  | some (.device record), objects => record.Matches address objects
  | _, objects => objects = 0

theorem Matches.congr {address : Address} {found found' : Option Block} {objects : Multiset Object}
    (h : ∀ block : Block, block.IsOwner → (found = some block ↔ found' = some block)) (hm : Matches address found objects) :
    Matches address found' objects := by
  by_cases ho : ∃ block, found = some block ∧ block.IsOwner
  · obtain ⟨block, rfl, ho⟩ := ho
    rwa [(h block ho).1 rfl]
  · have ho' : ¬∃ block, found' = some block ∧ block.IsOwner := fun ⟨block, hb, hblock⟩ => ho ⟨block, (h block hblock).2 hb, hblock⟩
    have empty {place : Option Block} (hn : ¬∃ block, place = some block ∧ block.IsOwner) :
        Matches address place objects ↔ objects = 0 := by
      cases place with
      | none => rfl
      | some block => cases block <;> simp_all [Matches, Block.IsOwner]
    rw [empty ho'] at *
    exact (empty ho).1 hm

theorem Matches.cons {owner : Address} {found : Option Block} {live : List Object} (object : Object)
    (h : object.owner = owner.toHandle) (hm : Matches owner found (object ::ₘ objectsOf owner.toHandle live)) :
    Matches owner found (objectsOf owner.toHandle (object :: live)) := by
  rwa [objectsOf_cons, if_pos h]

/-- The live objects and the records agree. -/
structure Agrees (bridge : Bridge) (live : List Object) : Prop where
  owners : ∀ object ∈ live, ∃ address : Address, object.owner = address.toHandle
  places : ∀ address : Address, Matches address bridge.blocks[address]? (objectsOf address.toHandle live)

namespace Agrees

variable {bridge after : Bridge} {live live' : List Object} {owner address : Address}

theorem initial : Agrees .initial [] where
  owners _ hm := absurd hm List.not_mem_nil
  places address := by
    have : Bridge.initial.blocks[address]? = none := Std.ExtTreeMap.getElem?_empty
    rw [this]
    rfl

theorem inst (h : Agrees bridge live) {record : Instance} (hb : bridge.blocks[address]? = some (.inst record)) :
    ∃ explicit, objectsOf address.toHandle live =
        {.inst address.toHandle explicit (record.physicalDevices.map (·.capacity))} ∧
      record.allocator = Allocator.merge explicit .system := by
  have := h.places address
  rwa [hb] at this

theorem device (h : Agrees bridge live) {record : Device} (hb : bridge.blocks[address]? = some (.device record)) :
    record.Matches address (objectsOf address.toHandle live) := by
  have := h.places address
  rwa [hb] at this

theorem vacant (h : Agrees bridge live) (hb : bridge.blocks[address]? = none) : objectsOf address.toHandle live = 0 := by
  have := h.places address
  rwa [hb] at this

theorem rooted (h : Agrees bridge live) : Rooted bridge live := by
  intro object hm
  obtain ⟨address, ho⟩ := h.owners object hm
  have hm := mem_objectsOf.2 ⟨hm, ho⟩
  have hp := h.places address
  rw [ho]
  cases hb : bridge.blocks[address]? with
  | none =>
    rw [h.vacant hb] at hm
    exact absurd hm (Multiset.notMem_zero _)
  | some block =>
    rw [hb] at hp
    cases block with
    | inst record =>
      obtain ⟨explicit, he, -⟩ := hp
      rw [he, Multiset.mem_singleton] at hm
      subst hm
      exact ⟨record, Bridge.record?_inst_iff.2 ⟨rfl, hb⟩⟩
    | device record =>
      rw [Object.ownerKind, if_neg (Device.Matches.noInst hp object hm)]
      exact ⟨record, Bridge.record?_device_iff.2 ⟨rfl, hb⟩⟩
    | _ =>
      have hp : objectsOf address.toHandle live = 0 := hp
      rw [hp] at hm
      exact absurd hm (Multiset.notMem_zero _)

/-- An event that touches one owner only leaves all others in agreement. -/
theorem change [Reckoning] {trace natives : Trace} (h : Agrees bridge live) (hk : bridge.Keeps owner trace natives after)
    (ht : Touches owner live live') (hself : Matches owner after.blocks[owner]? (objectsOf owner.toHandle live')) :
    Agrees after live' where
  owners object hm := (ht.owners object hm).elim (h.owners object) fun ho => ⟨owner, ho⟩
  places address := by
    by_cases he : address = owner
    · rwa [he]
    · rw [ht.others address he]
      exact (h.places address).congr fun block ho => (hk.others address block he ho).symm

/-- What becomes of the owner that an outcome is about. -/
theorem self [Reckoning] {event : Event} (h : Agrees bridge live) (ho : Outcome bridge owner event after) :
    Matches owner after.blocks[owner]? (objectsOf owner.toHandle (event.live live)) := by
  cases ho with
  | kept hb _ _ hl =>
    rw [hl live h.rooted, hb]
    exact h.places owner
  | @createdInstance _ explicit _ _ _ _ _ _ hn hb hk =>
    refine .cons (.inst owner.toHandle explicit none) rfl ?_
    rw [hb, Bridge.blocks_put_self, h.vacant hn]
    exact ⟨explicit, rfl, rfl⟩
  | @populated _ _ trace _ record array listed _ hb ha hk =>
    obtain ⟨explicit, he, hm⟩ := h.inst hb
    -- The capacity that the trace tells is that of the array.
    have hlisted : trace.findSome? Exchange.listed? = some array.capacity := by
      rw [trace.findSome?_listed?, hk.effect.lifecycle]
      rfl
    show Matches owner _ (objectsOf owner.toHandle ((trace.findSome? Exchange.listed?).elim live _))
    rw [hlisted, Option.elim_some, ha, objectsOf_map_list, he]
    exact ⟨explicit, by simp [Object.list], hm⟩
  | destroyedInstance hb ha hk =>
    obtain ⟨explicit, he, -⟩ := h.inst hb
    show Matches owner _ (objectsOf owner.toHandle (live.filter _))
    rw [ha, objectsOf_filter, he, Multiset.filter_singleton]
    simp [Matches, Object.isInst, Object.owner]
  | @createdDevice _ info explicit _ _ _ native _ parent block built _ hn hm hk =>
    have hrequests : (built.map (·.family)).map (·.request) = info.queues.toList := hm.arrays.requests
    refine .cons (.device owner.toHandle explicit info.queues.toList) rfl ?_
    rw [hm.left, hn.found, h.vacant hn.place, ← hrequests]
    exact Device.Matches.new owner native explicit parent block _
  | destroyedDevice hd =>
    show Matches owner _ (objectsOf owner.toHandle (live.filter _))
    rw [hd.gone, objectsOf_filter]
    refine Multiset.filter_eq_nil.2 fun object hm => ?_
    have hi := (h.device hd.found).noInst object hm
    obtain ⟨-, howner⟩ := mem_objectsOf.1 hm
    simp [hi, howner]
  | @createdPool _ explicit _ _ device pending pool pools _ hm hk =>
    obtain ⟨first, last, -, -, -, hins⟩ := hm.registers
    refine .cons (.pool owner.toHandle pool explicit) rfl ?_
    rw [hm.left, Bridge.blocks_put_self]
    exact (h.device hm.found).with_pool hins.references
  | @destroyedPool explicit _ device changed pool _ hz hd =>
    have hm := h.device hd.found
    -- Beyond those of its command buffers a handle has one reference for each live pool, so there is one.
    have hpool : ∃ object ∈ objectsOf owner.toHandle live, object.isPool pool := by
      have := hd.references
      have := hm.pools pool
      exact Multiset.countP_pos.1 (by omega)
    show Matches owner _ (objectsOf owner.toHandle (if pool = 0 then live else _))
    rw [if_neg hz, hd.left, objectsOf_filter]
    obtain ⟨hn, -⟩ | ⟨object, hp, he⟩ := objectsOf_eraseP live owner.toHandle
      (p := fun object => object.isPool pool && object.owner = owner.toHandle) (fun object hp => by simp_all)
    · obtain ⟨object, hmem, hp⟩ := hpool
      exact absurd (by simp [hp, (mem_objectsOf.1 hmem).2]) (hn object hmem)
    · rw [he] at hm
      refine hm.without_pool (by simp_all) (fun found hmem => ?_) hd.same hd.fences hd.commandBuffers hd.references
        hd.surplus
      exact (mem_objectsOf.1 hmem).2
  | @allocated request _ _ stored device changed new _ hr hnew hall =>
    have hm := (h.device hr.found).allocate hr.regroups hall
    rw [← hnew] at hm
    rw [hr.left]
    cases stored with
    | none => exact (Multiset.zero_add (objectsOf owner.toHandle live)).subst (motive := changed.Matches owner) hm
    | some stored =>
      show Matches owner _ (objectsOf owner.toHandle ((stored.filterMap id).map _ ++ live))
      rw [objectsOf_commandBuffers]
      exact hm
  | @freed pool commandBuffers _ device changed addresses _ hr haddresses hall =>
    have hm := (h.device hr.found).free (fun object hm => (mem_objectsOf.1 hm).2) hr.regroups hall
    show Matches owner _ (objectsOf owner.toHandle (live.filter _))
    rw [hr.left, objectsOf_filter, haddresses]
    exact hm
  | @createdFence _ set _ _ device pending fence fences _ hm hk =>
    obtain ⟨first, last, -, -, -, hins⟩ := hm.registers
    refine .cons (.fence owner.toHandle fence (some set)) rfl ?_
    rw [hm.left, Bridge.blocks_put_self]
    exact (h.device hm.found).with_fence fun other => (hins.references other).le
  | @createdPlainFence _ _ device fence hb hk =>
    refine .cons (.fence owner.toHandle fence none) rfl ?_
    rw [hb]
    exact (h.device hb).with_fence fun _ => Nat.le_add_right ..
  | @destroyedFence _ _ device fence fences _ hz hd =>
    have hm := h.device hd.found
    show Matches owner _ (objectsOf owner.toHandle (if fence = 0 then live else _))
    rw [if_neg hz, hd.left, Bridge.blocks_put_self]
    obtain ⟨-, he⟩ | ⟨object, hp, he⟩ := objectsOf_eraseP live owner.toHandle
      (p := fun object => object.isFence fence && object.owner = owner.toHandle) (fun object hp => by simp_all)
    · rw [he]
      refine { hm with fences := fun other => ?_ }
      exact ((hd.references other).trans_le (Nat.sub_le ..)).trans (hm.fences other)
    · rw [he] at hm
      exact hm.without_fence (by simp_all) hd.references

/-- Every event leaves live objects and records in agreement. -/
theorem step [Reckoning] {event : Event} {trace natives : Trace} (h : Agrees bridge live)
    (ho : Outcome bridge owner event after) (hk : bridge.Keeps owner trace natives after) :
    Agrees after (event.live live) :=
  h.change hk (ho.touches h.rooted) (h.self ho)

end Agrees

end VulkanBridge
