import VulkanBridge.Proofs.Outcomes
/-!
# The objects of one device

`Device.Matches` compares the record of a device with the live objects of its handle: it has a pair for each command
buffer, and a pool's handle has a reference for every pool and every command buffer of that handle. Each way in which
the objects of a device change has its lemma.
-/

namespace VulkanBridge

theorem toHandle_inj {address other : Address} : address.toHandle = other.toHandle ↔ address = other :=
  ⟨fun h => (Handle.mk.inj h).1, fun h => h ▸ rfl⟩

section ObjectsOf

variable {live : List Object} {object : Object} {handle : Handle}

theorem mem_objectsOf : object ∈ objectsOf handle live ↔ object ∈ live ∧ object.owner = handle := Multiset.mem_filter

theorem objectsOf_cons (object : Object) (live : List Object) :
    objectsOf handle (object :: live) =
      if object.owner = handle then object ::ₘ objectsOf handle live else objectsOf handle live := by
  split
  case isTrue h => exact Multiset.filter_cons_of_pos (p := fun found : Object => found.owner = handle) (live : Multiset _) h
  case isFalse h => exact Multiset.filter_cons_of_neg (p := fun found : Object => found.owner = handle) (live : Multiset _) h

/-- Objects are as few without the latest. -/
theorem countP_objectsOf_succ_lt {p : Object → Bool} {limit : Nat}
    (h : (objectsOf handle (object :: live)).countP (fun found => p found) < limit) (ho : object.owner = handle)
    (hp : p object) : (objectsOf handle live).countP (fun found => p found) + 1 < limit := by
  rwa [objectsOf_cons, if_pos ho, Multiset.countP_cons, if_pos hp] at h

theorem objectsOf_append_ne {objects : List Object} (h : ∀ object ∈ objects, object.owner ≠ handle) :
    objectsOf handle (objects ++ live) = objectsOf handle live := by
  rw [objectsOf, ← Multiset.coe_add, Multiset.filter_add, Multiset.filter_eq_nil.2 h, Multiset.zero_add]
  rfl

/-- Command buffers of a device come to its objects. -/
theorem objectsOf_commandBuffers (pool : NativeHandle) (handles : List Handle) :
    objectsOf handle (handles.map (.commandBuffer handle pool) ++ live) =
      (handles.map (.commandBuffer handle pool) : List Object) + objectsOf handle live := by
  have howner : ∀ object ∈ ((handles.map (.commandBuffer handle pool) : List Object) : Multiset Object),
      object.owner = handle := by
    intro object hm
    obtain ⟨_, -, rfl⟩ := List.mem_map.1 (Multiset.mem_coe.1 hm)
    rfl
  rw [objectsOf, ← Multiset.coe_add, Multiset.filter_add, Multiset.filter_eq_self.2 howner]
  rfl

theorem objectsOf_filter (p : Object → Bool) :
    objectsOf handle (live.filter p) = (objectsOf handle live).filter fun object => p object := by
  have : ((live.filter p : List Object) : Multiset Object) = (live : Multiset Object).filter fun object => p object := by
    rw [Multiset.filter_coe]
    simp
  rw [objectsOf, this, Multiset.filter_comm]
  rfl

/-- A filter that lets all objects of an owner through. -/
theorem objectsOf_filter_ne {p : Object → Bool} (h : ∀ object ∈ live, object.owner = handle → p object) :
    objectsOf handle (live.filter p) = objectsOf handle live := by
  rw [objectsOf_filter, Multiset.filter_eq_self]
  intro object hm
  obtain ⟨hm, ho⟩ := mem_objectsOf.1 hm
  exact h object hm ho

theorem Object.owner_list (object : Object) (handle : Handle) (capacity : UInt32) :
    (object.list handle capacity).owner = object.owner := by
  cases object <;> rfl

theorem Object.list_of_ne {capacity : UInt32} (h : object.owner ≠ handle) : object.list handle capacity = object := by
  cases object with
  | inst found explicit listed =>
    have h : found ≠ handle := h
    rw [Object.list, if_neg h]
  | _ => rfl

/-- The objects of one owner, after the physical devices of some instance were listed. -/
theorem objectsOf_map_list (owner : Handle) (capacity : UInt32) :
    objectsOf owner (live.map (·.list handle capacity)) = (objectsOf owner live).map (·.list handle capacity) := by
  rw [objectsOf, objectsOf, ← Multiset.map_coe, Multiset.filter_map]
  simp only [Function.comp_def, Object.owner_list]

theorem objectsOf_map_list_ne {owner : Handle} {capacity : UInt32} (h : owner ≠ handle) :
    objectsOf owner (live.map (·.list handle capacity)) = objectsOf owner live := by
  rw [objectsOf_map_list]
  refine (Multiset.map_congr rfl fun object hm => ?_).trans (Multiset.map_id _)
  exact Object.list_of_ne ((mem_objectsOf.1 hm).2 ▸ h)

/-- One object goes, if there is one to go. -/
theorem eraseP_cases (p : Object → Bool) (live : List Object) :
    ((∀ object ∈ live, ¬p object) ∧ live.eraseP p = live) ∨
      ∃ object, object ∈ live ∧ p object ∧ (live : Multiset Object) = object ::ₘ (live.eraseP p : List Object) := by
  by_cases h : ∃ object ∈ live, p object
  · obtain ⟨object, hm, hp⟩ := h
    obtain ⟨found, first, last, -, hp, rfl, he⟩ := List.exists_of_eraseP hm hp
    refine .inr ⟨found, by simp, hp, ?_⟩
    rw [he]
    exact Multiset.coe_eq_coe.2 List.perm_middle
  · have h : ∀ object ∈ live, ¬p object := fun object hm hp => h ⟨object, hm, hp⟩
    exact .inl ⟨h, List.eraseP_of_forall_not h⟩

/-- An object of an owner goes, if there is one of its sort. -/
theorem exists_erased {sort : Object → Bool} (h : ∃ object ∈ live, sort object ∧ object.owner = handle) :
    ∃ object ∈ live, sort object ∧ object.owner = handle ∧
      (live : Multiset Object) = object ::ₘ (live.eraseP fun object => sort object && object.owner = handle : List Object) := by
  obtain ⟨hnone, -⟩ | ⟨object, hm, hp, he⟩ := eraseP_cases (fun object => sort object && object.owner = handle) live
  · obtain ⟨object, hm, hp, ho⟩ := h
    exact absurd (by simp [hp, ho]) (hnone object hm)
  · obtain ⟨hp, ho⟩ := (Bool.and_eq_true ..).mp hp
    exact ⟨object, hm, hp, of_decide_eq_true ho, he⟩

theorem objectsOf_eraseP_ne {p : Object → Bool} (h : ∀ object, p object → object.owner ≠ handle) :
    objectsOf handle (live.eraseP p) = objectsOf handle live := by
  obtain ⟨-, he⟩ | ⟨object, -, hp, he⟩ := eraseP_cases p live
  · rw [he]
  · have he : objectsOf handle live = objectsOf handle (object :: live.eraseP p) := congrArg (Multiset.filter _) he
    rw [he, objectsOf_cons, if_neg (h object hp)]

/-- One object of the owner goes, if there is one to go. -/
theorem objectsOf_eraseP (live : List Object) (handle : Handle) {p : Object → Bool}
    (h : ∀ object, p object → object.owner = handle) :
    ((∀ object ∈ objectsOf handle live, ¬p object) ∧ objectsOf handle (live.eraseP p) = objectsOf handle live) ∨
      ∃ object, p object ∧ objectsOf handle live = object ::ₘ objectsOf handle (live.eraseP p) := by
  obtain ⟨hn, he⟩ | ⟨object, -, hp, he⟩ := eraseP_cases p live
  · exact .inl ⟨fun object hm => hn object (mem_objectsOf.1 hm).1, by rw [he]⟩
  · refine .inr ⟨object, hp, ?_⟩
    have he : objectsOf handle live = objectsOf handle (object :: live.eraseP p) := congrArg (Multiset.filter _) he
    rw [he, objectsOf_cons, if_pos (h object hp)]

/-- If an owner has at most one object of a sort, none is left once one goes. -/
theorem objectsOf_erase_only {sort : Object → Bool} (h : (objectsOf handle live).countP (fun object => sort object) ≤ 1) :
    objectsOf handle (live.eraseP fun object => sort object && object.owner = handle) ≤ objectsOf handle live ∧
      ∀ object ∈ objectsOf handle (live.eraseP fun object => sort object && object.owner = handle), ¬sort object := by
  obtain ⟨hn, he⟩ | ⟨object, hp, he⟩ := objectsOf_eraseP live handle
    (p := fun object => sort object && object.owner = handle) (fun object hp => by simp_all)
  · rw [he]
    refine ⟨le_rfl, fun object hm hs => hn object hm ?_⟩
    simp [hs, (mem_objectsOf.1 hm).2]
  · have hs : sort object := by simp_all
    rw [he, Multiset.countP_cons, if_pos hs] at h
    rw [he]
    exact ⟨Multiset.le_cons_self .., Multiset.countP_eq_zero.1 (by omega)⟩

/-- Of two lists of live objects, the latter differs in the objects of one owner only. -/
structure Touches (owner : Address) (live live' : List Object) : Prop where
  owners : ∀ object ∈ live', object ∈ live ∨ object.owner = owner.toHandle
  others : ∀ address, address ≠ owner → objectsOf address.toHandle live' = objectsOf address.toHandle live

namespace Touches

variable {owner : Address} {live' last : List Object}

theorem refl (live : List Object) : Touches owner live live := ⟨fun _ => .inl, fun _ _ => rfl⟩

theorem trans (hf : Touches owner live live') (hl : Touches owner live' last) : Touches owner live last where
  owners object hm := (hl.owners object hm).elim (hf.owners object) .inr
  others address hne := (hl.others address hne).trans (hf.others address hne)

theorem append {objects : List Object} (h : ∀ object ∈ objects, object.owner = owner.toHandle) :
    Touches owner live (objects ++ live) where
  owners object hm := (List.mem_append.1 hm).symm.imp_right (h object)
  others address hne := by
    refine objectsOf_append_ne fun object hm => ?_
    rw [h object hm]
    exact mt toHandle_inj.1 (Ne.symm hne)

theorem cons (h : object.owner = owner.toHandle) : Touches owner live (object :: live) := by
  show Touches owner live ([object] ++ live)
  refine append fun found hm => ?_
  rwa [List.mem_singleton.1 hm]

theorem filter {p : Object → Bool} (h : ∀ object ∈ live, object.owner ≠ owner.toHandle → p object) :
    Touches owner live (live.filter p) where
  owners object hm := .inl (List.mem_filter.1 hm).1
  others address hne := by
    refine objectsOf_filter_ne fun object hm ho => h object hm ?_
    rw [ho]
    exact mt toHandle_inj.1 hne

theorem eraseP {p : Object → Bool} (h : ∀ object, p object → object.owner = owner.toHandle) :
    Touches owner live (live.eraseP p) where
  owners object hm := .inl (List.mem_of_mem_eraseP hm)
  others address hne := by
    refine objectsOf_eraseP_ne fun object hp => ?_
    rw [h object hp]
    exact mt toHandle_inj.1 (Ne.symm hne)

theorem map_list (capacity : UInt32) : Touches owner live (live.map (·.list owner.toHandle capacity)) where
  owners object hm := by
    obtain ⟨found, hfound, rfl⟩ := List.mem_map.1 hm
    by_cases ho : found.owner = owner.toHandle
    · exact .inr (found.owner_list .. ▸ ho)
    · rw [Object.list_of_ne ho]
      exact .inl hfound
  others address hne := objectsOf_map_list_ne (mt toHandle_inj.1 hne)

end Touches

end ObjectsOf

/-- The objects that an event touches are those of the owner that its outcome is about. -/
theorem Outcome.touches [Reckoning] {bridge after : Bridge} {owner : Address} {event : Event} {live : List Object}
    (h : Outcome bridge owner event after) (hr : Rooted bridge live) : Touches owner live (event.live live) := by
  cases h with
  | kept _ _ _ hl =>
    rw [hl live hr]
    exact .refl live
  | createdInstance _ _ _ => exact .cons rfl
  | @populated _ _ trace =>
    show Touches owner live ((trace.findSome? Exchange.listed?).elim live _)
    cases trace.findSome? Exchange.listed? with
    | none => exact .refl live
    | some capacity => exact .map_list capacity
  | destroyedInstance _ _ _ => exact .filter fun object _ hne => by simp [hne]
  | createdDevice _ _ _ => exact .cons rfl
  | destroyedDevice _ => exact .filter fun object _ hne => by simp [hne]
  | createdPool _ _ => exact .cons rfl
  | @destroyedPool _ _ _ _ pool =>
    show Touches owner live (if pool = 0 then live else _)
    split
    · exact .refl live
    · exact (Touches.eraseP fun object hp => by simp_all).trans (.filter fun object _ hne => by simp [hne])
  | @allocated request _ _ stored =>
    cases stored with
    | none => exact .refl live
    | some stored =>
      refine .append fun object hm => ?_
      obtain ⟨handle, -, rfl⟩ := List.mem_map.1 hm
      rfl
  | freed _ _ _ =>
    refine .filter fun object _ hne => ?_
    simp only [Bool.not_eq_true', List.any_eq_false, decide_eq_true_eq]
    rintro handle - rfl
    exact hne rfl
  | createdFence _ _ => exact .cons rfl
  | createdPlainFence _ _ => exact .cons rfl
  | @destroyedFence _ _ _ fence =>
    show Touches owner live (if fence = 0 then live else _)
    split
    · exact .refl live
    · exact .eraseP fun object hp => by simp_all

/-! ## A device and its objects -/

def Object.isDevice : Object → Bool
  | .device .. => true
  | _ => false

namespace Object

variable {object : Object} {handle : NativeHandle}

theorem commandBuffer?_of_isDevice (h : object.isDevice) : object.commandBuffer? = none := by
  cases object <;> simp_all [isDevice, commandBuffer?]

theorem commandBuffer?_of_isPool (h : object.isPool handle) : object.commandBuffer? = none := by
  cases object <;> simp_all [isPool, commandBuffer?]

theorem commandBuffer?_of_isFence (h : object.isFence handle) : object.commandBuffer? = none := by
  cases object <;> simp_all [isFence, commandBuffer?]

theorem isDevice_of_isPool (h : object.isPool handle) : object.isDevice = false := by
  cases object <;> simp_all [isPool, isDevice]

theorem isDevice_of_isFence (h : object.isFence handle) : object.isDevice = false := by
  cases object <;> simp_all [isFence, isDevice]

theorem isFence_of_isPool (h : object.isPool handle) (fence : NativeHandle) : object.isFence fence = false := by
  cases object <;> simp_all [isPool, isFence]

theorem isPool_of_isFence (h : object.isFence handle) (pool : NativeHandle) : object.isPool pool = false := by
  cases object <;> simp_all [isPool, isFence]

theorem isPool_eq (h : object.isPool handle) (other : NativeHandle) : object.isPool other = decide (handle = other) := by
  cases object <;> simp_all [isPool]

theorem isFence_eq (h : object.isFence handle) (other : NativeHandle) : object.isFence other = decide (handle = other) := by
  cases object <;> simp_all [isFence]

theorem eq_pool (h : object.isPool handle) : ∃ explicit, object = .pool object.owner handle explicit := by
  cases object <;> simp_all [isPool, owner]

theorem eq_fence (h : object.isFence handle) : ∃ explicit, object = .fence object.owner handle explicit := by
  cases object <;> simp_all [isFence, owner]

theorem isCommandBuffer_of_none (h : object.commandBuffer? = none) (pool : NativeHandle) :
    object.isCommandBuffer pool = false := by
  cases object <;> simp_all [isCommandBuffer, commandBuffer?]

end Object

/-- The record of a device has what its objects call for. Its allocator is such that the callbacks it was created with
change nothing when they are merged over it once more. -/
structure Device.Matches (address : Address) (record : Device) (objects : Multiset Object) : Prop where
  device : ∃ explicit, objects.filter (·.isDevice) = {.device address.toHandle explicit (record.families.map (·.request))} ∧
    Allocator.merge explicit record.allocator = record.allocator
  noInst : ∀ object ∈ objects, ¬object.isInst
  commandBuffers : (elements record.commandBuffers).map (fun entry => (entry.1, entry.2.toHandle)) =
    objects.filterMap (·.commandBuffer?)
  references : ∀ pool, record.pools.references pool = objects.countP (·.refersTo pool)
  fences : ∀ fence, record.fences.references fence ≤ objects.countP (·.isFence fence)

/-! ## Counting objects -/

theorem countP_refersTo (objects : Multiset Object) (pool : NativeHandle) :
    objects.countP (·.refersTo pool) = objects.countP (·.isPool pool) + objects.countP (·.isCommandBuffer pool) := by
  induction objects using Multiset.induction_on with
  | empty => rfl
  | cons object rest ih =>
    rw [Multiset.countP_cons, Multiset.countP_cons, Multiset.countP_cons, ih]
    cases object <;> simp [Object.refersTo, Object.isPool, Object.isCommandBuffer] <;> omega

theorem countP_commandBuffer? (objects : Multiset Object) (pool : NativeHandle) :
    (objects.filterMap (·.commandBuffer?)).countP (·.1 = pool) = objects.countP (·.isCommandBuffer pool) := by
  induction objects using Multiset.induction_on with
  | empty => rfl
  | cons object rest ih =>
    rw [Multiset.countP_cons, ← ih]
    cases object with
    | commandBuffer device found handle =>
      rw [Multiset.filterMap_cons_some Object.commandBuffer? (.commandBuffer device found handle) rest rfl,
        Multiset.countP_cons]
      simp [Object.isCommandBuffer]
    | _ => rw [Multiset.filterMap_cons_none _ rest rfl]; rfl

/-! ## Some of the objects -/

section Filter

variable {objects : Multiset Object} {p r : Object → Prop} [DecidablePred p] [DecidablePred r]

/-- A filter that lets all objects of a sort through. -/
theorem countP_filter_of_imp (h : ∀ object ∈ objects, r object → p object) :
    (objects.filter p).countP r = objects.countP r := by
  rw [Multiset.countP_filter]
  exact Multiset.countP_congr rfl fun object hm => propext ⟨fun hr => hr.1, fun hr => ⟨hr, h object hm hr⟩⟩

theorem filter_filter_of_imp (h : ∀ object ∈ objects, r object → p object) :
    (objects.filter p).filter r = objects.filter r := by
  rw [Multiset.filter_filter]
  exact Multiset.filter_congr fun object hm => ⟨fun hr => hr.1, fun hr => ⟨hr, h object hm hr⟩⟩

/-- Objects filtered by what they are as command buffers. -/
theorem filterMap_filter_commandBuffer? {q : NativeHandle × Handle → Prop} [DecidablePred q]
    (h : ∀ object ∈ objects, ∀ entry ∈ object.commandBuffer?, p object ↔ q entry) :
    (objects.filter p).filterMap (·.commandBuffer?) = (objects.filterMap (·.commandBuffer?)).filter q := by
  induction objects using Multiset.induction_on with
  | empty => rfl
  | cons object rest ih =>
    have ih := ih fun other hm => h other (Multiset.mem_cons_of_mem hm)
    cases hc : object.commandBuffer? with
    | none =>
      rw [Multiset.filterMap_cons_none object rest hc, ← ih]
      by_cases hp : p object
      · rw [Multiset.filter_cons_of_pos rest hp, Multiset.filterMap_cons_none object _ hc]
      · rw [Multiset.filter_cons_of_neg rest hp]
    | some entry =>
      have hiff := h object (Multiset.mem_cons_self ..) entry hc
      rw [Multiset.filterMap_cons_some Object.commandBuffer? object rest hc]
      by_cases hp : p object
      · rw [Multiset.filter_cons_of_pos rest hp, Multiset.filter_cons_of_pos _ (hiff.1 hp), ← ih,
          Multiset.filterMap_cons_some Object.commandBuffer? object _ hc]
      · rw [Multiset.filter_cons_of_neg rest hp, Multiset.filter_cons_of_neg _ (mt hiff.2 hp), ← ih]

end Filter

namespace Device.Matches

variable {address : Address} {record changed : Device} {objects rest : Multiset Object} {pool fence : NativeHandle}
  {explicit : Option CallbackSet}

/-- The live command buffers of a pool are those the device holds. -/
theorem held (h : record.Matches address objects) (pool : NativeHandle) :
    record.held pool = objects.countP (·.isCommandBuffer pool) := by
  rw [← countP_commandBuffer?, ← h.commandBuffers, Multiset.countP_map, Device.held, Multiset.countP_eq_card_filter]

/-- The live pools of a handle, counted by references. -/
theorem pools (h : record.Matches address objects) (pool : NativeHandle) :
    record.pools.references pool = objects.countP (·.isPool pool) + record.held pool := by
  rw [h.references, countP_refersTo, h.held]

theorem device_of_same (h : record.Matches address objects) (hs : record.SameDevice changed)
    (hd : rest.filter (·.isDevice) = objects.filter (·.isDevice)) :
    ∃ explicit, rest.filter (·.isDevice) = {.device address.toHandle explicit (changed.families.map (·.request))} ∧
      Allocator.merge explicit changed.allocator = changed.allocator := by
  rw [hd, hs.families, hs.allocator]
  exact h.device

/-- A new device has no children. -/
theorem new (address : Address) (native : NativeHandle) (explicit : Option CallbackSet) (parent : Allocator)
    (block : Option Address) (families : List QueueFamily) :
    (Device.new native (Allocator.merge explicit parent) block families).Matches address
      {.device address.toHandle explicit (families.map (·.request))} where
  device := ⟨explicit, rfl, Allocator.merge_merge explicit parent⟩
  noInst object hm := by
    rw [Multiset.mem_singleton.1 hm]
    exact Bool.false_ne_true
  commandBuffers := by
    have : (Device.new native (Allocator.merge explicit parent) block families).commandBuffers = ∅ := rfl
    rw [this, elements_empty]
    rfl
  references pool := Registry.references_of_none (Std.ExtTreeMap.getElem?_empty)
  fences fence := (Registry.references_of_none (Std.ExtTreeMap.getElem?_empty)).le

/-- One more pool, and one more reference to its handle. -/
theorem with_pool {pools : Registry} (h : record.Matches address objects)
    (hr : ∀ other, pools.references other = record.pools.references other + if pool = other then 1 else 0) :
    Device.Matches address { record with pools } (.pool address.toHandle pool explicit ::ₘ objects) where
  device := h.device_of_same ⟨rfl, rfl, rfl, rfl, rfl⟩ (Multiset.filter_cons_of_neg _ Bool.false_ne_true)
  noInst object hm := by
    obtain rfl | hm := Multiset.mem_cons.1 hm
    · exact Bool.false_ne_true
    · exact h.noInst object hm
  commandBuffers := by
    rw [Multiset.filterMap_cons_none _ objects rfl]
    exact h.commandBuffers
  references other := by
    rw [hr, h.references, Multiset.countP_cons]
    simp [Object.refersTo, Object.isPool, Object.isCommandBuffer]
  fences other := (h.fences other).trans (Multiset.countP_le_of_le _ (Multiset.le_cons_self ..))

/-- One more fence, and at most one more reference to its handle. -/
theorem with_fence {fences : Registry} (h : record.Matches address objects)
    (hr : ∀ other, fences.references other ≤ record.fences.references other + if fence = other then 1 else 0) :
    Device.Matches address { record with fences } (.fence address.toHandle fence explicit ::ₘ objects) where
  device := h.device_of_same ⟨rfl, rfl, rfl, rfl, rfl⟩ (Multiset.filter_cons_of_neg _ Bool.false_ne_true)
  noInst object hm := by
    obtain rfl | hm := Multiset.mem_cons.1 hm
    · exact Bool.false_ne_true
    · exact h.noInst object hm
  commandBuffers := by
    rw [Multiset.filterMap_cons_none _ objects rfl]
    exact h.commandBuffers
  references other := by
    rw [Multiset.countP_cons]
    exact h.references other
  fences other := by
    refine (hr other).trans ?_
    rw [Multiset.countP_cons]
    have he : (Object.fence address.toHandle fence explicit).isFence other = decide (fence = other) := rfl
    simp only [he, decide_eq_true_eq]
    exact Nat.add_le_add_right (h.fences other) _

/-- Command buffers come and go; pools and references keep pace with them. -/
theorem regroup (h : record.Matches address objects) (hs : record.SameDevice changed) (hf : changed.fences = record.fences)
    (hd : rest.filter (·.isDevice) = objects.filter (·.isDevice)) (hn : ∀ object ∈ rest, ¬object.isInst)
    (hc : (elements changed.commandBuffers).map (fun entry => (entry.1, entry.2.toHandle)) =
      rest.filterMap (·.commandBuffer?))
    (hp : ∀ pool, changed.pools.references pool + record.held pool + objects.countP (·.isPool pool) =
      record.pools.references pool + changed.held pool + rest.countP (·.isPool pool))
    (hfences : ∀ fence, rest.countP (·.isFence fence) = objects.countP (·.isFence fence)) :
    changed.Matches address rest where
  device := h.device_of_same hs hd
  noInst := hn
  commandBuffers := hc
  references pool := by
    have held : changed.held pool = rest.countP (·.isCommandBuffer pool) := by
      rw [← countP_commandBuffer?, ← hc, Multiset.countP_map, Device.held, Multiset.countP_eq_card_filter]
    have := h.pools pool
    have := hp pool
    rw [countP_refersTo]
    omega
  fences fence := by
    rw [hf, hfences]
    exact h.fences fence

/-- New command buffers of a pool. -/
theorem allocate [Reckoning] {trace : Trace} {new : List Address} (h : record.Matches address objects)
    (hr : record.Regroups trace changed)
    (he : elements changed.commandBuffers = (new.map (pool, ·) : Multiset _) + elements record.commandBuffers) :
    changed.Matches address
      (((new.map Address.toHandle).map (.commandBuffer address.toHandle pool) : List Object) + objects) := by
  have none (p : Object → Prop) [DecidablePred p] (hp : ∀ handle, ¬p (.commandBuffer address.toHandle pool handle)) :
      ((new.map Address.toHandle).map (Object.commandBuffer address.toHandle pool) : Multiset Object).filter p = 0 := by
    refine Multiset.filter_eq_nil.2 fun object hm => ?_
    obtain ⟨handle, -, rfl⟩ := List.mem_map.1 (Multiset.mem_coe.1 hm)
    exact hp handle
  refine h.regroup hr.same hr.fences ?_ (fun object hm => ?_) ?_ (fun other => ?_) fun fence => ?_
  · rw [Multiset.filter_add, none _ fun _ => Bool.false_ne_true, Multiset.zero_add]
  · obtain hm | hm := Multiset.mem_add.1 hm
    · obtain ⟨handle, -, rfl⟩ := List.mem_map.1 (Multiset.mem_coe.1 hm)
      exact Bool.false_ne_true
    · exact h.noInst object hm
  · rw [he, Multiset.map_add, h.commandBuffers, Multiset.filterMap_add]
    congr 1
    rw [Multiset.map_coe, Multiset.filterMap_coe]
    simp [List.filterMap_map, Function.comp_def, Object.commandBuffer?]
  · have := hr.surplus other
    rw [Multiset.countP_add, Multiset.countP_eq_card_filter _ (Multiset.ofList _), none _ fun _ => Bool.false_ne_true]
    simp only [Multiset.card_zero]
    omega
  · rw [Multiset.countP_add, Multiset.countP_eq_card_filter _ (Multiset.ofList _), none _ fun _ => Bool.false_ne_true]
    simp

/-- Command buffers of a pool go. -/
theorem free [Reckoning] {trace : Trace} {addresses : List Address} (h : record.Matches address objects)
    (ho : ∀ object ∈ objects, object.owner = address.toHandle) (hr : record.Regroups trace changed)
    (he : elements record.commandBuffers = (addresses.map (pool, ·) : Multiset _) + elements changed.commandBuffers) :
    changed.Matches address (objects.filter fun object =>
      !((addresses.map Address.toHandle).any fun handle => object = .commandBuffer address.toHandle pool handle)) := by
  have kept {object : Object} (hc : object.commandBuffer? = none) :
      !((addresses.map Address.toHandle).any fun handle => object = .commandBuffer address.toHandle pool handle) := by
    simp only [Bool.not_eq_true', List.any_eq_false, decide_eq_true_eq]
    rintro handle - rfl
    cases hc
  -- A command buffer stays exactly if its entry is none of those that go.
  let stays (entry : NativeHandle × Handle) : Prop := ∀ place ∈ addresses, entry ≠ (pool, place.toHandle)
  have hiff : ∀ object ∈ objects, ∀ entry ∈ object.commandBuffer?,
      (!((addresses.map Address.toHandle).any fun handle => object = .commandBuffer address.toHandle pool handle)) = true ↔
        stays entry := by
    intro object hm entry hentry
    obtain ⟨owner, found, handle⟩ | _ := object <;> cases hentry
    obtain rfl := ho _ hm
    simp [stays]
  have hgone : ((addresses.map (pool, ·) : Multiset (NativeHandle × Address)).map fun entry =>
      (entry.1, entry.2.toHandle)).filter stays = 0 := by
    refine Multiset.filter_eq_nil.2 fun entry hm hstays => ?_
    obtain ⟨_, hentry, rfl⟩ := Multiset.mem_map.1 hm
    obtain ⟨place, hplace, rfl⟩ := List.mem_map.1 (Multiset.mem_coe.1 hentry)
    exact hstays place hplace rfl
  have hkept : ((elements changed.commandBuffers).map fun entry => (entry.1, entry.2.toHandle)).filter stays =
      (elements changed.commandBuffers).map fun entry => (entry.1, entry.2.toHandle) := by
    refine Multiset.filter_eq_self.2 fun entry hm place hplace heq => ?_
    obtain ⟨⟨found, address⟩, hentry, rfl⟩ := Multiset.mem_map.1 hm
    obtain ⟨rfl, ht⟩ := Prod.mk.inj heq
    obtain rfl := toHandle_inj.1 ht
    have := nodup_elements record.commandBuffers
    rw [he, Multiset.nodup_add, Multiset.disjoint_left] at this
    exact this.2.2 (Multiset.mem_coe.2 (List.mem_map_of_mem hplace)) hentry
  refine h.regroup hr.same hr.fences ?_ (fun object hm => ?_) ?_ (fun other => ?_) fun fence => ?_
  · exact filter_filter_of_imp fun object _ hd => kept (Object.commandBuffer?_of_isDevice hd)
  · exact h.noInst object (Multiset.mem_filter.1 hm).1
  · rw [filterMap_filter_commandBuffer? hiff, ← h.commandBuffers, he, Multiset.map_add, Multiset.filter_add, hgone, hkept,
      Multiset.zero_add]
  · have := hr.surplus other
    rw [countP_filter_of_imp fun object _ hp => kept (Object.commandBuffer?_of_isPool hp)]
    omega
  · exact countP_filter_of_imp fun object _ hp => kept (Object.commandBuffer?_of_isFence hp)

/-- One pool goes, with its command buffers and one reference of its handle. -/
theorem without_pool {object : Object} (h : record.Matches address (object ::ₘ objects)) (hobject : object.isPool pool)
    (ho : ∀ object ∈ objects, object.owner = address.toHandle) (hs : record.SameDevice changed)
    (hf : changed.fences = record.fences)
    (hc : elements changed.commandBuffers = (elements record.commandBuffers).filter (·.1 ≠ pool))
    (hr : changed.pools.references pool + record.held pool + 1 = record.pools.references pool)
    (hsurplus : ∀ other, other ≠ pool →
      changed.pools.references other + record.held other = record.pools.references other + changed.held other) :
    changed.Matches address (objects.filter fun object =>
      !(object.isCommandBuffer pool && object.owner = address.toHandle)) := by
  have kept {object : Object} (hc : object.commandBuffer? = none) :
      !(object.isCommandBuffer pool && object.owner = address.toHandle) := by
    rw [Object.isCommandBuffer_of_none hc]
    rfl
  have hiff : ∀ object ∈ objects, ∀ entry ∈ object.commandBuffer?,
      (!(object.isCommandBuffer pool && object.owner = address.toHandle)) = true ↔ entry.1 ≠ pool := by
    intro object hm entry hentry
    have := ho object hm
    cases object <;> cases hentry
    simp [Object.isCommandBuffer, this]
  have hgone : changed.held pool = 0 := by
    rw [Device.held, hc, Multiset.countP_eq_zero]
    exact fun entry he => (Multiset.mem_filter.1 he).2
  refine h.regroup hs hf ?_ (fun object hm => ?_) ?_ (fun other => ?_) fun fence => ?_
  · rw [Multiset.filter_cons_of_neg (p := fun found : Object => found.isDevice) objects
      (Bool.eq_false_iff.1 (Object.isDevice_of_isPool hobject))]
    exact filter_filter_of_imp fun object _ hd => kept (Object.commandBuffer?_of_isDevice hd)
  · exact h.noInst object (Multiset.mem_cons_of_mem (Multiset.mem_filter.1 hm).1)
  · rw [filterMap_filter_commandBuffer? hiff, hc,
      ← Multiset.filterMap_cons_none object objects (Object.commandBuffer?_of_isPool hobject), ← h.commandBuffers,
      Multiset.filter_map]
    rfl
  · rw [countP_filter_of_imp fun object _ hp => kept (Object.commandBuffer?_of_isPool hp), Multiset.countP_cons,
      Object.isPool_eq hobject]
    by_cases heq : pool = other
    · subst heq
      simp only [decide_true, if_true]
      omega
    · have := hsurplus other (Ne.symm heq)
      simp only [heq, decide_false]
      simp only [Bool.false_eq_true, if_false]
      omega
  · rw [Multiset.countP_cons_of_neg (p := fun found : Object => found.isFence fence) objects
      (Bool.eq_false_iff.1 (Object.isFence_of_isPool hobject fence))]
    exact countP_filter_of_imp fun object _ hp => kept (Object.commandBuffer?_of_isFence hp)

/-- One fence goes, with a reference of its handle if there is one. -/
theorem without_fence {object : Object} {fences : Registry} (h : record.Matches address (object ::ₘ objects))
    (hobject : object.isFence fence)
    (hr : ∀ other, fences.references other = record.fences.references other - if fence = other then 1 else 0) :
    Device.Matches address { record with fences } objects where
  device := by
    refine h.device_of_same ⟨rfl, rfl, rfl, rfl, rfl⟩ ?_
    exact (Multiset.filter_cons_of_neg (p := fun found : Object => found.isDevice) objects
      (Bool.eq_false_iff.1 (Object.isDevice_of_isFence hobject))).symm
  noInst found hm := h.noInst found (Multiset.mem_cons_of_mem hm)
  commandBuffers := by
    rw [← Multiset.filterMap_cons_none object objects (Object.commandBuffer?_of_isFence hobject)]
    exact h.commandBuffers
  references pool := by
    have hn : object.refersTo pool = false := by
      rw [Object.refersTo, Object.isPool_of_isFence hobject,
        Object.isCommandBuffer_of_none (Object.commandBuffer?_of_isFence hobject)]
      rfl
    rw [← Multiset.countP_cons_of_neg (p := fun found : Object => found.refersTo pool) objects (Bool.eq_false_iff.1 hn)]
    exact h.references pool
  fences other := by
    have := h.fences other
    rw [Multiset.countP_cons, Object.isFence_eq hobject] at this
    simp only [decide_eq_true_eq] at this
    have := hr other
    dsimp only
    omega

end Device.Matches

end VulkanBridge
