import VulkanBridge.Proofs.Environment
import VulkanBridge.Proofs.Handling
import Mathlib.Data.Set.Function
/-!
# Command buffers of the native driver

What the native driver has is read off what it was asked and what it answered (`NativeState`): its devices, and the command
buffers that it holds in their pools. As long as it answers with handles that it has not given out, the live command buffers
of a device stand one for one for those that it holds in the pools of that device (`wrappers_paired`), whatever fails on the
way.
-/

namespace VulkanBridge

/-! ## What the native driver has -/

/-- A command buffer that the native driver holds, with its device and its pool. -/
structure Holding where
  device : NativeHandle
  pool : NativeHandle
  commandBuffer : NativeHandle
  deriving DecidableEq

/-- The devices of the native driver, and the command buffers that it holds. -/
structure NativeState where
  devices : List NativeHandle
  held : List Holding

namespace NativeState

def initial : NativeState := ⟨[], []⟩

/-- What becomes of it in an exchange. A pool that is destroyed takes its command buffers along, and a device all of its. -/
def step (state : NativeState) : Exchange → NativeState
  | ⟨.native (.createDevice ..), .ok device⟩ => { state with devices := device :: state.devices }
  | ⟨.native (.destroyDevice device _), _⟩ =>
    ⟨state.devices.filter (· ≠ device), state.held.filter fun holding => holding.device ≠ device⟩
  | ⟨.native (.destroyPool device pool _), _⟩ =>
    { state with held := state.held.filter fun holding => ¬(holding.device = device ∧ holding.pool = pool) }
  | ⟨.native (.allocateCommandBuffers device request), .ok natives⟩ =>
    { state with held := natives.toList.map (⟨device, request.pool, ·⟩) ++ state.held }
  | ⟨.native (.freeCommandBuffers device pool natives), _⟩ =>
    { state with held := state.held.filter fun holding =>
        ¬(holding.device = device ∧ holding.pool = pool ∧ holding.commandBuffer ∈ natives) }
  | _ => state

/-- Devices and command buffers that are answered are new, and no command buffer is null. -/
def Answers (state : NativeState) : Exchange → Prop
  | ⟨.native (.createDevice ..), .ok device⟩ => device ∉ state.devices
  | ⟨.native (.allocateCommandBuffers ..), .ok natives⟩ =>
    natives.toList.Nodup ∧ 0 ∉ natives.toList ∧
      ∀ native ∈ natives.toList, ∀ holding ∈ state.held, holding.commandBuffer ≠ native
  | _ => True

/-- Command buffers that are given back are held in that pool of that device, and each is named once. Nulls may be named. -/
def Frees (state : NativeState) : Exchange → Prop
  | ⟨.native (.freeCommandBuffers device pool natives), _⟩ =>
    (natives.filter (· ≠ 0)).Nodup ∧ ∀ native ∈ natives, native ≠ 0 → ⟨device, pool, native⟩ ∈ state.held
  | _ => True

instance (state : NativeState) (exchange : Exchange) : Decidable (state.Answers exchange) := by
  unfold Answers
  split
  case h_2 natives =>
    -- Handles are many: the list is to be searched, not their type.
    have := List.decidableBAll (fun native => ∀ holding ∈ state.held, holding.commandBuffer ≠ native) natives.toList
    infer_instance
  all_goals infer_instance

/-- What there is after a trace. -/
def after (state : NativeState) (trace : Trace) : NativeState := trace.foldl step state

/-- Each exchange of a trace has a property, seen from what there is before it. -/
def Along (p : NativeState → Exchange → Prop) : NativeState → Trace → Prop
  | _, [] => True
  | state, exchange :: rest => p state exchange ∧ Along p (state.step exchange) rest

instance decidableAlong {p : NativeState → Exchange → Prop} [∀ state exchange, Decidable (p state exchange)]
    (state : NativeState) (trace : Trace) : Decidable (Along p state trace) :=
  match trace with
  | [] => isTrue trivial
  | exchange :: rest =>
    have := decidableAlong (p := p) (state.step exchange) rest
    inferInstanceAs (Decidable (_ ∧ _))

variable {state : NativeState} {exchange : Exchange} {trace first last : Trace} {p : NativeState → Exchange → Prop}

theorem after_append (state : NativeState) (first last : Trace) :
    state.after (first ++ last) = (state.after first).after last := List.foldl_append ..

theorem along_append_iff : Along p state (first ++ last) ↔ Along p state first ∧ Along p (state.after first) last := by
  induction first generalizing state with
  | nil => exact (and_iff_right trivial).symm
  | cons exchange rest ih => rw [List.cons_append, Along, Along, ih, and_assoc]; rfl

/-! ### What does not matter -/

theorem step_of_not (hl : exchange.isLifecycle = false) (hc : exchange.ofCommandBuffers = false) (state : NativeState) :
    state.step exchange = state := by
  unfold step
  split
  · cases hl
  · cases hl
  · cases hl
  · cases hc
  · cases hc
  · rfl

theorem answers_of_not (hl : exchange.isLifecycle = false) (hc : exchange.ofCommandBuffers = false) (state : NativeState) :
    state.Answers exchange := by
  unfold Answers
  split
  · cases hl
  · cases hc
  · trivial

theorem frees_of_not (hc : exchange.ofCommandBuffers = false) (state : NativeState) : state.Frees exchange := by
  unfold Frees
  split
  · cases hc
  · trivial

theorem after_filter {q : Exchange → Bool} (hq : ∀ exchange ∈ trace, q exchange = false → ∀ state : NativeState,
    state.step exchange = state) (state : NativeState) : state.after trace = state.after (trace.filter q) := by
  induction trace generalizing state with
  | nil => rfl
  | cons exchange rest ih =>
    have ih := ih fun other ho => hq other (List.mem_cons_of_mem _ ho)
    cases h : q exchange with
    | true => rw [List.filter_cons_of_pos h]; exact ih _
    | false =>
      rw [List.filter_cons_of_neg (by simp [h]), ← ih]
      exact congrArg (fun state : NativeState => state.after rest) (hq exchange (List.mem_cons_self ..) h state)

theorem along_filter {q : Exchange → Bool} (hq : ∀ exchange ∈ trace, q exchange = false → ∀ state : NativeState,
    state.step exchange = state ∧ p state exchange) : Along p state trace ↔ Along p state (trace.filter q) := by
  induction trace generalizing state with
  | nil => rfl
  | cons exchange rest ih =>
    have ih := fun state => @ih state fun other ho => hq other (List.mem_cons_of_mem _ ho)
    cases h : q exchange with
    | true => rw [List.filter_cons_of_pos h, Along, Along, ih]
    | false =>
      obtain ⟨hstep, hp⟩ := hq exchange (List.mem_cons_self ..) h state
      rw [List.filter_cons_of_neg (by simp [h]), Along, hstep, ih]
      exact and_iff_right hp

/-- In a trace that leaves command buffers alone only the creations and destructions count. -/
theorem after_lifecycle (h : trace.commandBuffers = []) (state : NativeState) :
    state.after trace = state.after trace.lifecycle :=
  after_filter (fun exchange hm hl => step_of_not hl (by simpa using List.filter_eq_nil_iff.1 h exchange hm)) state

theorem along_lifecycle (h : trace.commandBuffers = []) :
    Along Answers state trace ↔ Along Answers state trace.lifecycle :=
  along_filter fun exchange hm hl state =>
    have hc : exchange.ofCommandBuffers = false := by simpa using List.filter_eq_nil_iff.1 h exchange hm
    ⟨step_of_not hl hc state, answers_of_not hl hc state⟩

theorem along_frees (h : trace.commandBuffers = []) : Along Frees state trace := by
  induction trace generalizing state with
  | nil => trivial
  | cons exchange rest ih =>
    have hall := List.filter_eq_nil_iff.1 h
    refine ⟨frees_of_not (by simpa using hall exchange (List.mem_cons_self ..)) state, ih ?_⟩
    exact List.filter_eq_nil_iff.2 fun other ho => hall other (List.mem_cons_of_mem _ ho)

/-- Exchanges that neither make nor free anything. -/
theorem still (h : ∀ exchange ∈ trace, ∀ state : NativeState, state.step exchange = state ∧ state.Frees exchange)
    (state : NativeState) : state.after trace = state ∧ Along Frees state trace := by
  induction trace with
  | nil => exact ⟨rfl, trivial⟩
  | cons exchange rest ih =>
    obtain ⟨hstep, hfrees⟩ := h exchange (List.mem_cons_self ..) state
    obtain ⟨hafter, halong⟩ := ih fun other ho => h other (List.mem_cons_of_mem _ ho)
    rw [Along, hstep]
    exact ⟨(congrArg (after · rest) hstep).trans hafter, hfrees, halong⟩

/-- In a trace without creations and destructions only what is asked about command buffers counts. -/
theorem after_commandBuffers (h : trace.lifecycle = []) (state : NativeState) :
    state.after trace = state.after trace.commandBuffers :=
  after_filter (fun exchange hm hc => step_of_not (by simpa using List.filter_eq_nil_iff.1 h exchange hm) hc) state

theorem along_answers_commandBuffers (h : trace.lifecycle = []) :
    Along Answers state trace ↔ Along Answers state trace.commandBuffers :=
  along_filter fun exchange hm hc state =>
    have hl : exchange.isLifecycle = false := by simpa using List.filter_eq_nil_iff.1 h exchange hm
    ⟨step_of_not hl hc state, answers_of_not hl hc state⟩

theorem along_frees_commandBuffers (h : trace.lifecycle = []) :
    Along Frees state trace ↔ Along Frees state trace.commandBuffers :=
  along_filter fun exchange hm hc state =>
    ⟨step_of_not (by simpa using List.filter_eq_nil_iff.1 h exchange hm) hc state, frees_of_not hc state⟩

end NativeState

/-- What the native driver has after a use. -/
def nativeState (history : List Event) : NativeState := NativeState.initial.after (traceOf history)

/-! ## The command buffers of a device -/

/-- The native device at a place and its live command buffers. -/
def Bridge.group? (bridge : Bridge) (owner : Address) : Option (NativeHandle × LiveCommandBuffers) :=
  match bridge.blocks[owner]? with
  | some (.device device) => some (device.native, device.commandBuffers)
  | _ => none

/-- The device at a place is this native one, and lists a command buffer of the pool. -/
def Bridge.Lists (bridge : Bridge) (owner : Address) (native pool : NativeHandle) (place : Address) : Prop :=
  ∃ buffers, bridge.group? owner = some (native, buffers) ∧ (pool, place) ∈ buffers

/-- A command buffer that a device lists stands for this one of the native driver. -/
structure Bridge.Stands (bridge : Bridge) (owner place : Address) (holding : Holding) : Prop where
  listed : bridge.Lists owner holding.device holding.pool place
  record : ∃ record, bridge.blocks[place]? = some (.commandBuffer record) ∧ record.native = holding.commandBuffer

namespace Bridge

variable {bridge after : Bridge} {owner place : Address} {device : Device} {native pool : NativeHandle}
  {buffers : LiveCommandBuffers} {record : CommandBuffer} {holding : Holding}

theorem group?_device (h : bridge.blocks[owner]? = some (.device device)) :
    bridge.group? owner = some (device.native, device.commandBuffers) := by
  rw [group?, h]

theorem group?_eq_some_iff : bridge.group? owner = some (native, buffers) ↔
    ∃ device, bridge.blocks[owner]? = some (.device device) ∧ device.native = native ∧ device.commandBuffers = buffers := by
  unfold group?
  constructor
  · intro h
    split at h
    case h_1 device hb =>
      obtain ⟨rfl, rfl⟩ := Prod.mk.inj (Option.some.inj h)
      exact ⟨device, hb, rfl, rfl⟩
    case h_2 => cases h
  · rintro ⟨device, hb, rfl, rfl⟩
    rw [hb]

theorem group?_of_none (h : bridge.blocks[owner]? = none) : bridge.group? owner = none := by
  rw [group?, h]

theorem group?_inst {inst : Instance} (h : bridge.blocks[owner]? = some (.inst inst)) : bridge.group? owner = none := by
  rw [group?, h]

theorem group?_congr (h : after.blocks = bridge.blocks) (owner : Address) : after.group? owner = bridge.group? owner := by
  rw [group?, group?, h]

theorem lists_device_iff (h : bridge.blocks[owner]? = some (.device device)) :
    bridge.Lists owner native pool place ↔ device.native = native ∧ (pool, place) ∈ device.commandBuffers := by
  rw [Lists, group?_device h]
  constructor
  · rintro ⟨buffers, he, hm⟩
    obtain ⟨rfl, rfl⟩ := Prod.mk.inj (Option.some.inj he)
    exact ⟨rfl, hm⟩
  · rintro ⟨rfl, hm⟩
    exact ⟨_, rfl, hm⟩

theorem lists_congr (h : after.group? owner = bridge.group? owner) :
    after.Lists owner native pool place ↔ bridge.Lists owner native pool place := by
  rw [Lists, Lists, h]

variable [Reckoning]

theorem Keeps.group? {trace natives : Trace} {other : Address} (hk : bridge.Keeps owner trace natives after)
    (hne : other ≠ owner) : after.group? other = bridge.group? other := by
  refine Option.ext fun entry => ?_
  obtain ⟨native, buffers⟩ := entry
  simp only [group?_eq_some_iff]
  refine exists_congr fun device => and_congr_left fun _ => ?_
  exact hk.others other (.device device) hne trivial

/-- A listed command buffer has a record that fits. -/
theorem Sound.found (hs : bridge.Sound) (h : bridge.Lists owner native pool place) :
    ∃ record, bridge.blocks[place]? = some (.commandBuffer record) ∧ record.pool = pool ∧ record.device = owner := by
  obtain ⟨buffers, hg, hm⟩ := h
  obtain ⟨device, hd, rfl, rfl⟩ := group?_eq_some_iff.1 hg
  obtain ⟨record, hb, -, hp, ho⟩ := Device.Sound.commandBuffers (hs owner _ hd) pool place hm
  exact ⟨record, hb, hp, ho⟩

/-- Each command buffer is listed by its device, and stands for one of the native driver. -/
theorem Sound.stands (hs : bridge.Sound) (hb : bridge.blocks[place]? = some (.commandBuffer record)) :
    ∃ native, bridge.Stands record.device place ⟨native, record.pool, record.native⟩ := by
  obtain ⟨-, device, hd, hm⟩ := hs.listed hb
  exact ⟨device.native, (lists_device_iff hd).2 ⟨rfl, hm⟩, record, hb, rfl⟩

/-- A command buffer is of one device and one pool. -/
theorem Sound.stands_unique {other : Address} {holding' : Holding} (hs : bridge.Sound) (h : bridge.Stands owner place holding)
    (h' : bridge.Stands other place holding') : owner = other ∧ holding = holding' := by
  obtain ⟨hl, record, hb, hn⟩ := h
  obtain ⟨hl', record', hb', hn'⟩ := h'
  obtain ⟨found, hf, hp, ho⟩ := hs.found hl
  obtain ⟨found', hf', hp', ho'⟩ := hs.found hl'
  rw [hb] at hb' hf hf'
  cases hb'
  cases hf
  cases hf'
  obtain rfl := ho.symm.trans ho'
  obtain ⟨_, hg, -⟩ := hl
  obtain ⟨_, hg', -⟩ := hl'
  rw [hg] at hg'
  obtain ⟨hd, -⟩ := Prod.mk.inj (Option.some.inj hg')
  obtain ⟨device, pool, commandBuffer⟩ := holding
  obtain ⟨device', pool', commandBuffer'⟩ := holding'
  simp only at hd hp hp' hn hn'
  exact ⟨rfl, by rw [hd, ← hp, ← hp', ← hn, ← hn']⟩

end Bridge

/-! ## Live command buffers and those that the native driver holds -/

/-- The native driver holds the command buffers that live ones stand for, and no others. -/
structure Paired (state : NativeState) (bridge : Bridge) : Prop where
  devices : ∀ owner native buffers, bridge.group? owner = some (native, buffers) → native ∈ state.devices
  devicesApart : ∀ owner other native buffers others, bridge.group? owner = some (native, buffers) →
    bridge.group? other = some (native, others) → owner = other
  present : ∀ (place : Address) record, bridge.blocks[place]? = some (.commandBuffer record) → record.native ≠ 0
  apart : bridge.Apart
  held : ∀ holding, holding ∈ state.held ↔ ∃ owner place, bridge.Stands owner place holding

namespace Paired

variable [Reckoning] {state later : NativeState} {bridge after : Bridge} {owner : Address} {holding : Holding}

omit [Reckoning] in
theorem initial : Paired .initial .initial where
  devices owner native buffers h := by
    rw [Bridge.group?_of_none Std.ExtTreeMap.getElem?_empty] at h
    cases h
  devicesApart owner other native buffers others h := by
    rw [Bridge.group?_of_none Std.ExtTreeMap.getElem?_empty] at h
    cases h
  present place record h := by
    have : Bridge.initial.blocks[place]? = none := Std.ExtTreeMap.getElem?_empty
    rw [this] at h
    cases h
  apart := Bridge.apart_initial
  held holding := by
    refine iff_of_false List.not_mem_nil ?_
    rintro ⟨owner, place, ⟨buffers, hg, -⟩, -⟩
    rw [Bridge.group?_of_none Std.ExtTreeMap.getElem?_empty] at hg
    cases hg

omit [Reckoning] in
/-- The device of a command buffer that is held is there. -/
theorem device_mem (h : Paired state bridge) (hm : holding ∈ state.held) : holding.device ∈ state.devices := by
  obtain ⟨owner, place, ⟨buffers, hg, -⟩, -⟩ := (h.held holding).1 hm
  exact h.devices owner _ buffers hg

/-- No record is changed or made, and the native driver gives up the command buffers that are no longer listed. -/
theorem retain (h : Paired state bridge) (hs' : after.Sound) (hr : bridge.Retains after)
    (hdevices : ∀ owner native buffers, after.group? owner = some (native, buffers) → native ∈ later.devices)
    (hapart : ∀ owner other native buffers others, after.group? owner = some (native, buffers) →
      after.group? other = some (native, others) → owner = other)
    (hless : ∀ holding ∈ later.held, holding ∈ state.held)
    (hold : ∀ owner native pool place, after.Lists owner native pool place → bridge.Lists owner native pool place)
    (hkept : ∀ owner place holding, bridge.Stands owner place holding →
      (holding ∈ later.held ↔ after.Lists owner holding.device holding.pool place)) : Paired later after where
  devices := hdevices
  devicesApart := hapart
  present place record hb := h.present place record (hr place record hb)
  apart place other record found hb hb' := h.apart place other record found (hr place record hb) (hr other found hb')
  held holding := by
    constructor
    · intro hm
      obtain ⟨owner, place, hst⟩ := (h.held holding).1 (hless holding hm)
      have hl := (hkept owner place holding hst).1 hm
      obtain ⟨record, hb, -⟩ := hs'.found hl
      obtain ⟨-, record', hb', hn⟩ := hst
      rw [hr place record hb] at hb'
      cases hb'
      exact ⟨owner, place, hl, record, hb, hn⟩
    · rintro ⟨owner, place, hl, record, hb, hn⟩
      exact (hkept owner place holding ⟨hold _ _ _ _ hl, record, hr place record hb, hn⟩).2 hl

/-- Devices list what they listed. -/
theorem same (h : Paired state bridge) (hs' : after.Sound) (hr : bridge.Retains after)
    (hgroup : ∀ other, after.group? other = bridge.group? other) (hd : ∀ native ∈ state.devices, native ∈ later.devices)
    (hheld : ∀ holding, holding ∈ later.held ↔ holding ∈ state.held) : Paired later after := by
  refine h.retain hs' hr (fun owner native buffers hg => ?_) (fun owner other native buffers others hg hg' => ?_)
    (fun holding => (hheld holding).1) (fun owner native pool place => (Bridge.lists_congr (hgroup owner)).1)
    fun owner place holding hst => ?_
  · rw [hgroup] at hg
    exact hd native (h.devices owner native buffers hg)
  · rw [hgroup] at hg hg'
    exact h.devicesApart owner other native buffers others hg hg'
  · rw [hheld, Bridge.lists_congr (hgroup owner)]
    exact iff_of_true ((h.held holding).2 ⟨owner, place, hst⟩) hst.listed

variable {native : NativeHandle} {buffers : LiveCommandBuffers}

/-- A device is made. -/
theorem created (h : Paired state bridge) (hs' : after.Sound) (hr : bridge.Retains after)
    (hothers : ∀ other, other ≠ owner → after.group? other = bridge.group? other) (hnone : bridge.group? owner = none)
    (hself : after.group? owner = some (native, ∅)) (hfresh : native ∉ state.devices) :
    Paired { state with devices := native :: state.devices } after := by
  have hold (other : Address) (native' : NativeHandle) (buffers : LiveCommandBuffers)
      (hg : after.group? other = some (native', buffers)) :
      (other = owner ∧ native' = native ∧ buffers = ∅) ∨ bridge.group? other = some (native', buffers) := by
    by_cases he : other = owner
    · rw [he, hself] at hg
      cases hg
      exact .inl ⟨he, rfl, rfl⟩
    · rw [hothers other he] at hg
      exact .inr hg
  refine h.retain hs' hr (fun other native' buffers hg => ?_) (fun first last native' buffers others hg hg' => ?_)
    (fun _ hm => hm) (fun other native' pool place => ?_) fun other place holding hst => ?_
  · obtain ⟨-, rfl, -⟩ | hg := hold other native' buffers hg
    · exact List.mem_cons_self ..
    · exact List.mem_cons_of_mem _ (h.devices other native' buffers hg)
  · obtain ⟨rfl, rfl, -⟩ | hg := hold first native' buffers hg
    · obtain ⟨rfl, -⟩ | hg' := hold last _ others hg'
      · rfl
      · exact absurd (h.devices _ _ _ hg') hfresh
    · obtain ⟨-, rfl, -⟩ | hg' := hold last _ others hg'
      · exact absurd (h.devices _ _ _ hg) hfresh
      · exact h.devicesApart _ _ _ _ _ hg hg'
  · rintro ⟨buffers, hg, hm⟩
    obtain ⟨-, -, rfl⟩ | hg := hold other native' buffers hg
    · exact absurd hm Std.ExtTreeSet.not_mem_empty
    · exact ⟨buffers, hg, hm⟩
  · have hne : other ≠ owner := by
      rintro rfl
      obtain ⟨_, hg, -⟩ := hst.listed
      rw [hnone] at hg
      cases hg
    rw [Bridge.lists_congr (hothers other hne)]
    exact iff_of_true ((h.held holding).2 ⟨other, place, hst⟩) hst.listed

/-- Command buffers of one device go, and perhaps the device. -/
theorem reduced (h : Paired state bridge) (hs' : after.Sound) (hr : bridge.Retains after)
    (hothers : ∀ other, other ≠ owner → after.group? other = bridge.group? other)
    (hgroup : bridge.group? owner = some (native, buffers))
    (hself : ∀ entry, after.group? owner = some entry →
      entry.1 = native ∧ native ∈ later.devices ∧ ∀ listed ∈ entry.2, listed ∈ buffers)
    (hdevices : ∀ other ∈ state.devices, other ≠ native → other ∈ later.devices)
    (hless : ∀ holding ∈ later.held, holding ∈ state.held)
    (hspared : ∀ holding ∈ state.held, holding.device ≠ native → holding ∈ later.held)
    (hkept : ∀ place holding, bridge.Stands owner place holding →
      (holding ∈ later.held ↔ after.Lists owner native holding.pool place)) : Paired later after := by
  have hdevice (other : Address) (native' : NativeHandle) (left : LiveCommandBuffers)
      (hg : after.group? other = some (native', left)) :
      (other = owner ∧ native' = native ∧ native ∈ later.devices) ∨
        other ≠ owner ∧ bridge.group? other = some (native', left) := by
    by_cases he : other = owner
    · subst he
      obtain ⟨hn, hm, -⟩ := hself _ hg
      exact .inl ⟨rfl, hn, hm⟩
    · exact .inr ⟨he, hothers other he ▸ hg⟩
  have elsewhere {other : Address} {native' : NativeHandle} {others : LiveCommandBuffers} (hne : other ≠ owner)
      (hg : bridge.group? other = some (native', others)) : native' ≠ native := by
    rintro rfl
    exact hne (h.devicesApart other owner _ _ _ hg hgroup)
  refine h.retain hs' hr (fun other native' left hg => ?_) (fun first last native' left others hg hg' => ?_) hless
    (fun other native' pool place hl => ?_) fun other place holding hst => ?_
  · obtain ⟨-, rfl, hm⟩ | ⟨hne, hg⟩ := hdevice other native' left hg
    · exact hm
    · exact hdevices native' (h.devices other native' left hg) (elsewhere hne hg)
  · obtain ⟨rfl, rfl, -⟩ | ⟨hne, hg⟩ := hdevice first native' left hg
    · obtain ⟨rfl, -⟩ | ⟨hne, hg'⟩ := hdevice last _ others hg'
      · rfl
      · exact absurd rfl (elsewhere hne hg')
    · obtain ⟨-, rfl, -⟩ | ⟨-, hg'⟩ := hdevice last _ others hg'
      · exact absurd rfl (elsewhere hne hg)
      · exact h.devicesApart first last native' left others hg hg'
  · by_cases he : other = owner
    · subst he
      obtain ⟨left, hg, hm⟩ := hl
      obtain ⟨rfl, -, hall⟩ := hself _ hg
      exact ⟨buffers, hgroup, hall _ hm⟩
    · exact (Bridge.lists_congr (hothers other he)).1 hl
  · by_cases he : other = owner
    · subst he
      rw [hkept place holding hst]
      obtain ⟨_, hg, -⟩ := hst.listed
      rw [hgroup] at hg
      cases hg
      rfl
    · obtain ⟨left, hg, hm⟩ := hst.listed
      exact iff_of_true (hspared holding ((h.held holding).2 ⟨other, place, hst⟩) (elsewhere he hg))
        ((Bridge.lists_congr (hothers other he)).2 hst.listed)

/-- A device is destroyed. -/
theorem destroyed (h : Paired state bridge) (hs' : after.Sound) (hr : bridge.Retains after)
    (hothers : ∀ other, other ≠ owner → after.group? other = bridge.group? other)
    (hgroup : bridge.group? owner = some (native, buffers)) (hself : after.group? owner = none) :
    Paired ⟨state.devices.filter (· ≠ native), state.held.filter fun holding => holding.device ≠ native⟩ after := by
  refine h.reduced hs' hr hothers hgroup (fun entry hg => ?_) (fun other hm hne => ?_) (fun holding hm => ?_)
    (fun holding hm hne => ?_) fun place holding hst => ?_
  · rw [hself] at hg
    cases hg
  · exact List.mem_filter.2 ⟨hm, decide_eq_true hne⟩
  · exact (List.mem_filter.1 hm).1
  · exact List.mem_filter.2 ⟨hm, decide_eq_true hne⟩
  · obtain ⟨_, hg, -⟩ := hst.listed
    rw [hgroup] at hg
    cases hg
    refine iff_of_false (fun hm => of_decide_eq_true (List.mem_filter.1 hm).2 rfl) ?_
    rintro ⟨_, hg, -⟩
    rw [hself] at hg
    cases hg

/-- A pool is destroyed, and its command buffers with it. -/
theorem emptied {pool : NativeHandle} {left : LiveCommandBuffers} (h : Paired state bridge) (hs' : after.Sound)
    (hr : bridge.Retains after) (hothers : ∀ other, other ≠ owner → after.group? other = bridge.group? other)
    (hgroup : bridge.group? owner = some (native, buffers)) (hself : after.group? owner = some (native, left))
    (hleft : ∀ entry, entry ∈ left ↔ entry ∈ buffers ∧ entry.1 ≠ pool) :
    Paired ⟨state.devices, state.held.filter fun holding => ¬(holding.device = native ∧ holding.pool = pool)⟩ after := by
  refine h.reduced hs' hr hothers hgroup (fun entry hg => ?_) (fun other hm hne => hm) (fun holding hm => ?_)
    (fun holding hm hne => ?_) fun place holding hst => ?_
  · obtain rfl := Option.some.inj (hself.symm.trans hg)
    exact ⟨rfl, h.devices owner native buffers hgroup, fun listed hm => ((hleft listed).1 hm).1⟩
  · exact (List.mem_filter.1 hm).1
  · exact List.mem_filter.2 ⟨hm, decide_eq_true fun he => hne he.1⟩
  · have hheld := (h.held holding).2 ⟨owner, place, hst⟩
    obtain ⟨_, hg, hm⟩ := hst.listed
    rw [hgroup] at hg
    cases hg
    rw [Bridge.Lists, hself]
    refine List.mem_filter.trans ((and_iff_right hheld).trans ?_)
    simp [hleft, hm]

end Paired

/-! ## What events do -/

section Events

variable [Reckoning] {state later : NativeState} {bridge after : Bridge} {owner : Address} {natives : Trace} {event : Event}

/-- Live command buffers stay paired in an event that does not ask about command buffers. -/
theorem Paired.outcome (h : Paired state bridge) (hs' : after.Sound) (hr : bridge.Retains after)
    (ho : Outcome bridge owner event after) (hk : bridge.Keeps owner event.trace natives after)
    (hc : event.call.ofCommandBuffers = false) (ht : event.trace.commandBuffers = [])
    (ha : NativeState.Along NativeState.Answers state event.trace) : Paired (state.after event.trace) after := by
  rw [NativeState.along_lifecycle ht] at ha
  rw [NativeState.after_lifecycle ht]
  have hothers (other : Address) (hne : other ≠ owner) : after.group? other = bridge.group? other := hk.group? hne
  have everywhere (hself : after.group? owner = bridge.group? owner) (other : Address) :
      after.group? other = bridge.group? other := by
    by_cases he : other = owner
    · rw [he, hself]
    · exact hothers other he
  have still (hself : after.group? owner = bridge.group? owner) : Paired state after :=
    h.same hs' hr (everywhere hself) (fun _ hm => hm) fun _ => Iff.rfl
  cases ho with
  | kept hb he hfutile _ =>
    rw [he.lifecycle] at ha ⊢
    have hself := Bridge.group?_congr hb owner
    cases hfutile with
    | none => exact still hself
    | inst hab => cases hab <;> exact still hself
    | pool | fence => exact still hself
    | device _ hab =>
      cases hab with
      | unasked | refused => exact still hself
      | undone native =>
        -- The native device comes and goes within the call, and nothing is held of a device that is new.
        have hfresh : native ∉ state.devices := ha.1
        refine h.same hs' hr (everywhere hself) (fun other hm => ?_) fun holding => ?_
        · refine List.mem_filter.2 ⟨List.mem_cons_of_mem _ hm, ?_⟩
          simpa using ne_of_mem_of_not_mem hm hfresh
        · refine List.mem_filter.trans (and_iff_left_of_imp fun hm => ?_)
          simpa using ne_of_mem_of_not_mem (h.device_mem hm) hfresh
      | leaked => exact h.same hs' hr (everywhere hself) (fun _ => List.mem_cons_of_mem _) fun _ => Iff.rfl
  | createdInstance hb hput hk =>
    rw [hk.effect.lifecycle]
    exact still (by rw [Bridge.group?_congr hput, Bridge.group?_of_none hb, Bridge.group?_inst Bridge.blocks_put_self])
  | populated hb hb' hk =>
    rw [hk.effect.lifecycle]
    exact still (by rw [Bridge.group?_inst hb, Bridge.group?_inst hb'])
  | destroyedInstance hb hb' hk =>
    rw [hk.effect.lifecycle]
    exact still (by rw [Bridge.group?_inst hb, Bridge.group?_of_none hb'])
  | createdDevice hapart hm hk =>
    rw [hk.effect.lifecycle] at ha ⊢
    refine h.created hs' hr hothers (Bridge.group?_of_none hapart.place) ?_ ha.1
    rw [hm.left, Bridge.group?_device (hapart.found _)]
    rfl
  | destroyedDevice hd =>
    rw [hd.keeps.effect.lifecycle]
    exact h.destroyed hs' hr hothers (Bridge.group?_device hd.found) (Bridge.group?_of_none hd.gone)
  | createdPool hm hk =>
    rw [hk.effect.lifecycle]
    exact still (by rw [hm.left, Bridge.group?_device Bridge.blocks_put_self, Bridge.group?_device hm.found])
  | destroyedPool _ hd =>
    rw [hd.keeps.effect.lifecycle]
    refine h.emptied hs' hr hothers (Bridge.group?_device hd.found)
      (by rw [Bridge.group?_device hd.left, hd.same.native]) fun entry => ?_
    rw [← mem_elements, hd.commandBuffers, Multiset.mem_filter, mem_elements]
  | allocated | freed => cases hc
  | createdFence hm hk =>
    rw [hk.effect.lifecycle]
    exact still (by rw [hm.left, Bridge.group?_device Bridge.blocks_put_self, Bridge.group?_device hm.found])
  | createdPlainFence hb hmade =>
    rw [hmade.effect.lifecycle]
    exact still rfl
  | destroyedFence _ hd =>
    rw [hd.keeps.effect.lifecycle]
    exact still (by rw [hd.left, Bridge.group?_device Bridge.blocks_put_self, Bridge.group?_device hd.found])

section Given

variable {device changed : Device} {request : CommandBufferRequest} {trace : Trace} {new : List Address}
  {native pool : NativeHandle}

omit [Reckoning] in
/-- What the native driver holds more after an allocation is what records were made for. -/
theorem NativeState.after_answered {asks : Trace} (h : CommandBuffer.Answered after owner device request asks new)
    (ha : Along Answers state asks) :
    Along Frees state asks ∧ ∃ natives, CommandBuffer.Wraps after owner request.pool new natives ∧
      (state.after asks).devices = state.devices ∧ ∀ holding, holding ∈ (state.after asks).held ↔
        (∃ native ∈ natives, holding = ⟨device.native, request.pool, native⟩) ∨ holding ∈ state.held := by
  cases h with
  | @wrapped natives _ hw =>
    refine ⟨⟨trivial, trivial⟩, natives.toList, hw, rfl, fun holding => List.mem_append.trans (or_congr_left ?_)⟩
    rw [List.mem_map]
    exact exists_congr fun native => and_congr_right fun _ => eq_comm
  | @returned natives =>
    obtain ⟨⟨hn, -, hfresh⟩, -⟩ := ha
    refine ⟨⟨trivial, ⟨hn.filter _, fun native hm _ => List.mem_append_left _ (List.mem_map_of_mem hm)⟩, trivial⟩, [], .nil,
      rfl, fun holding => ?_⟩
    rw [or_iff_right (by simp)]
    refine List.mem_filter.trans ?_
    rw [decide_eq_true_iff]
    constructor
    · rintro ⟨hm, hn⟩
      refine (List.mem_append.1 hm).resolve_left fun hm => hn ?_
      obtain ⟨native, hnative, rfl⟩ := List.mem_map.1 hm
      exact ⟨rfl, rfl, hnative⟩
    · intro hm
      exact ⟨List.mem_append_right _ hm, fun hn => hfresh _ hn.2.2 holding hm rfl⟩

omit [Reckoning] in
/-- There is one answer with command buffers, and they were not held before. -/
theorem NativeState.answers_answered {native' : NativeHandle} {request' : CommandBufferRequest}
    {natives : Vector NativeHandle request'.count.toNat} {asks : Trace}
    (h : CommandBuffer.Answered after owner device request asks new) (ha : Along Answers state asks)
    (hm : .native (.allocateCommandBuffers native' request') (.ok natives) ∈ asks) :
    state.Answers (.native (.allocateCommandBuffers native' request') (.ok natives)) := by
  cases h with
  | wrapped =>
    rw [List.mem_singleton.1 hm]
    exact ha.1
  | returned =>
    obtain he | hm := List.mem_cons.1 hm
    · rw [he]
      exact ha.1
    · cases List.mem_singleton.1 hm

/-- The command buffers that live ones stand for after some were made. -/
theorem Bridge.stands_allocated_iff {natives : List NativeHandle} {holding : Holding} (hs : bridge.Sound)
    (hr : CommandBuffer.Regrouped bridge (some owner.toHandle) owner device trace after changed)
    (hall : elements changed.commandBuffers = (new.map (pool, ·) : Multiset _) + elements device.commandBuffers)
    (hkept : ∀ place : Address, place ≠ owner → ∀ block, bridge.blocks[place]? = some block →
      after.blocks[place]? = some block)
    (hw : CommandBuffer.Wraps after owner pool new natives) :
    (∃ other place, after.Stands other place holding) ↔
      (∃ native ∈ natives, holding = ⟨device.native, pool, native⟩) ∨ ∃ other place, bridge.Stands other place holding := by
  have hnative : changed.native = device.native := hr.regroups.same.native
  have hlisted (entry : NativeHandle × Address) :
      entry ∈ changed.commandBuffers ↔ (∃ place ∈ new, (pool, place) = entry) ∨ entry ∈ device.commandBuffers := by
    rw [← mem_elements, hall, Multiset.mem_add, mem_elements, Multiset.mem_coe, List.mem_map]
  have kept {place : Address} {record : CommandBuffer} (hb : bridge.blocks[place]? = some (.commandBuffer record)) :
      after.blocks[place]? = some (.commandBuffer record) := by
    refine hkept place ?_ _ hb
    rintro rfl
    rw [hr.found] at hb
    cases hb
  -- A command buffer that was listed before has the record that it had.
  have old {other place : Address} (hl : bridge.Lists other holding.device holding.pool place)
      (hst : after.Stands other place holding) : bridge.Stands other place holding := by
    obtain ⟨record, hb, -⟩ := hs.found hl
    obtain ⟨-, record', hb', hn⟩ := hst
    rw [kept hb] at hb'
    cases hb'
    exact ⟨hl, record, hb, hn⟩
  constructor
  · rintro ⟨other, place, hst⟩
    by_cases he : other = owner
    · subst he
      obtain ⟨hdevice, hm⟩ := (Bridge.lists_device_iff hr.left).1 hst.listed
      obtain ⟨address, hnew, heq⟩ | hold := (hlisted _).1 hm
      · obtain ⟨hpool, rfl⟩ := Prod.mk.inj heq
        obtain ⟨native, hn, hb⟩ := exists_of_forall₂ hw hnew
        obtain ⟨record, hb', hcb⟩ := hst.record
        rw [hb] at hb'
        cases hb'
        obtain rfl : native = holding.commandBuffer := hcb
        exact .inl ⟨_, hn, by rw [← hnative, hdevice, hpool]⟩
      · exact .inr ⟨other, place, old ((Bridge.lists_device_iff hr.found).2 ⟨hnative ▸ hdevice, hold⟩) hst⟩
    · exact .inr ⟨other, place, old ((Bridge.lists_congr (hr.keeps.group? he)).1 hst.listed) hst⟩
  · rintro (⟨native, hn, rfl⟩ | ⟨other, place, hl, record, hb, hn⟩)
    · obtain ⟨place, hnew, hb⟩ := exists_of_forall₂ (List.Forall₂.flip hw) hn
      exact ⟨owner, place, (Bridge.lists_device_iff hr.left).2 ⟨hnative, (hlisted _).2 (.inl ⟨place, hnew, rfl⟩)⟩, _, hb, rfl⟩
    · refine ⟨other, place, ?_, record, kept hb, hn⟩
      by_cases he : other = owner
      · subst he
        obtain ⟨hdevice, hm⟩ := (Bridge.lists_device_iff hr.found).1 hl
        exact (Bridge.lists_device_iff hr.left).2 ⟨hnative ▸ hdevice, (hlisted _).2 (.inr hm)⟩
      · exact (Bridge.lists_congr (hr.keeps.group? he)).2 hl

/-- Command buffers that are made are those that the native driver answers with, or all go back. -/
theorem Paired.allocated {code : ResultCode} {stored : Option (List (Option Handle))} (h : Paired state bridge)
    (hs : bridge.Sound) (hs' : after.Sound)
    (hh : CommandBuffer.Handled bridge after ⟨.allocateCommandBuffers (some owner.toHandle) (some request), trace, (code, stored)⟩)
    (hr : CommandBuffer.Regrouped bridge (some owner.toHandle) owner device trace after changed)
    (hall : elements changed.commandBuffers = (new.map (request.pool, ·) : Multiset _) + elements device.commandBuffers)
    (hanswered : CommandBuffer.Answered after owner device request trace.commandBuffers new)
    (hkept : ∀ place : Address, place ≠ owner → ∀ block, bridge.blocks[place]? = some block →
      after.blocks[place]? = some block)
    (ha : NativeState.Along NativeState.Answers state trace) :
    NativeState.Along NativeState.Frees state trace ∧ Paired (state.after trace) after := by
  have hl : trace.lifecycle = [] := hr.keeps.effect.lifecycle
  rw [NativeState.along_answers_commandBuffers hl] at ha
  rw [NativeState.along_frees_commandBuffers hl, NativeState.after_commandBuffers hl]
  obtain ⟨hfrees, natives, hw, hdevices, hheld⟩ := NativeState.after_answered hanswered ha
  refine ⟨hfrees, ?_⟩
  have hfresh {native' : NativeHandle} {request' : CommandBufferRequest} {natives : Vector NativeHandle request'.count.toNat}
      (hm : .native (.allocateCommandBuffers native' request') (.ok natives) ∈ trace) : natives.toList.Nodup ∧
        0 ∉ natives.toList ∧ ∀ native ∈ natives.toList, ∀ holding ∈ state.held, holding.commandBuffer ≠ native :=
    NativeState.answers_answered hanswered ha (List.mem_filter.2 ⟨hm, rfl⟩)
  have hgroup : after.group? owner = some (device.native, changed.commandBuffers) := by
    rw [Bridge.group?_device hr.left, hr.regroups.same.native]
  have hdevice (other : Address) (native : NativeHandle) (buffers : LiveCommandBuffers)
      (hg : after.group? other = some (native, buffers)) : ∃ others, bridge.group? other = some (native, others) := by
    by_cases he : other = owner
    · rw [he, hgroup] at hg
      cases hg
      exact ⟨_, he ▸ Bridge.group?_device hr.found⟩
    · exact ⟨buffers, hr.keeps.group? he ▸ hg⟩
  constructor
  · intro other native buffers hg
    obtain ⟨_, hg⟩ := hdevice other native buffers hg
    exact hdevices ▸ h.devices other native _ hg
  · intro first last native buffers others hg hg'
    obtain ⟨_, hg⟩ := hdevice first native buffers hg
    obtain ⟨_, hg'⟩ := hdevice last native others hg'
    exact h.devicesApart first last native _ _ hg hg'
  · intro place record hb
    obtain ⟨hold, -⟩ | hnew := hh.origin hs hs' hb
    · exact h.present place record hold
    · obtain ⟨-, _, _, natives, hm, -, hin⟩ := hh.answered hnew
      exact ne_of_mem_of_not_mem hin (hfresh hm).2.1
  · refine hh.apart hs hs' h.apart fun native' request' natives hm => ⟨(hfresh hm).1, fun native hin place record hb => ?_⟩
    obtain ⟨device', hst⟩ := hs.stands hb
    exact (hfresh hm).2.2 native hin _ ((h.held _).2 ⟨_, place, hst⟩)
  · intro holding
    rw [hheld, Bridge.stands_allocated_iff hs hr hall hkept hw, h.held]

omit [Reckoning] in
/-- Batches of command buffers of one pool that are held, each in one batch, go, and no others. -/
theorem NativeState.after_freed (state : NativeState) (native pool : NativeHandle) (named : List (List NativeHandle))
    (hn : (named.flatten.filter (· ≠ 0)).Nodup)
    (hm : ∀ native' ∈ named.flatten, native' ≠ 0 → ⟨native, pool, native'⟩ ∈ state.held) :
    Along Frees state (named.map fun natives => .native (.freeCommandBuffers native pool natives) ()) ∧
      (state.after (named.map fun natives => .native (.freeCommandBuffers native pool natives) ())).devices = state.devices ∧
      ∀ holding, holding ∈ (state.after (named.map fun natives => .native (.freeCommandBuffers native pool natives) ())).held ↔
        holding ∈ state.held ∧ ¬(holding.device = native ∧ holding.pool = pool ∧ holding.commandBuffer ∈ named.flatten) := by
  induction named generalizing state with
  | nil => exact ⟨trivial, rfl, fun holding => by simp [after]⟩
  | cons natives rest ih =>
    simp only [List.flatten_cons, List.filter_append, List.nodup_append, List.mem_append] at hn hm
    obtain ⟨hfirst, hrest, hdisjoint⟩ := hn
    -- What is named later is not named now, unless it is null.
    have hlater (native' : NativeHandle) (hin : native' ∈ rest.flatten) (hz : native' ≠ 0) :
        ⟨native, pool, native'⟩ ∈ (state.step (.native (.freeCommandBuffers native pool natives) ())).held := by
      refine List.mem_filter.2 ⟨hm native' (.inr hin) hz, decide_eq_true fun hnamed => ?_⟩
      have := hdisjoint native' (List.mem_filter.2 ⟨hnamed.2.2, decide_eq_true hz⟩) native'
        (List.mem_filter.2 ⟨hin, decide_eq_true hz⟩)
      exact this rfl
    obtain ⟨halong, hdevices, hheld⟩ := ih _ hrest hlater
    refine ⟨⟨⟨hfirst, fun native' hin => hm native' (.inl hin)⟩, halong⟩, hdevices, fun holding => (hheld holding).trans ?_⟩
    refine (and_congr_left fun _ => List.mem_filter).trans ?_
    rw [decide_eq_true_iff, List.flatten_cons, List.mem_append]
    tauto

omit [Reckoning] in
/-- The command buffers that are named to the native driver are those of the entries that are not null. -/
theorem CommandBuffer.filter_nativeOrNull (bridge : Bridge) (entries : List (Option Handle)) :
    (entries.map (nativeOrNull bridge)).filter (· ≠ 0) =
      ((entries.filterMap id).map fun handle => nativeOrNull bridge (some handle)).filter (· ≠ 0) := by
  induction entries with
  | nil => rfl
  | cons entry rest ih => cases entry <;> simp_all [List.filter_cons, nativeOrNull, at?]

omit [Reckoning] in
/-- Two live command buffers that stand for the same native one are one. -/
theorem Paired.place_eq {holding holding' : Holding} {place other : Address} (h : Paired state bridge)
    (hst : bridge.Stands owner place holding) (hst' : bridge.Stands owner other holding')
    (he : holding.commandBuffer = holding'.commandBuffer) : place = other := by
  obtain ⟨-, record, hb, hn⟩ := hst
  obtain ⟨-, found, hb', hn'⟩ := hst'
  exact h.apart place other record found hb hb' (by rw [hn, hn', he])

/-- A live command buffer of a pool is named by the native one that it stands for. -/
theorem Paired.named {address : Address} (h : Paired state bridge) (hs : bridge.Sound)
    (hb : bridge.blocks[owner]? = some (.device device)) (hm : (pool, address) ∈ device.commandBuffers) :
    CommandBuffer.nativeOrNull bridge (some address.toHandle) ≠ 0 ∧
      bridge.Stands owner address
        ⟨device.native, pool, CommandBuffer.nativeOrNull bridge (some address.toHandle)⟩ := by
  have hl := (Bridge.lists_device_iff hb).2 ⟨rfl, hm⟩
  obtain ⟨record, hrecord, -⟩ := hs.found hl
  have hn : CommandBuffer.nativeOrNull bridge (some address.toHandle) = record.native := by
    rw [CommandBuffer.nativeOrNull, CommandBuffer.at?_toHandle_iff.2 hrecord]
    rfl
  rw [hn]
  exact ⟨h.present address record hrecord, hl, record, hrecord, rfl⟩

/-- Command buffers of a pool that are given back in batches are held, and are then no longer held. -/
theorem Paired.after_batches {entries : List (Option Handle)} {addresses : List Address} (h : Paired state bridge)
    (hs : bridge.Sound) (hb : bridge.blocks[owner]? = some (.device device)) (hn : addresses.Nodup)
    (hm : ∀ address ∈ addresses, (pool, address) ∈ device.commandBuffers)
    (he : entries.filterMap id = addresses.map Address.toHandle) {asks : Trace}
    (hasks : asks = (batches Platform.batchSize entries).map fun batch =>
      .native (.freeCommandBuffers device.native pool (batch.map (CommandBuffer.nativeOrNull bridge))) ()) :
    NativeState.Along NativeState.Frees state asks ∧ (state.after asks).devices = state.devices ∧
      ∀ holding, holding ∈ (state.after asks).held ↔
        holding ∈ state.held ∧ ¬∃ address ∈ addresses, bridge.Stands owner address holding := by
  have hnames := CommandBuffer.filter_nativeOrNull bridge entries
  rw [he, List.map_map] at hnames
  have hnamed {native' : NativeHandle} (hz : native' ≠ 0) : native' ∈ entries.map (CommandBuffer.nativeOrNull bridge) ↔
      ∃ address ∈ addresses, CommandBuffer.nativeOrNull bridge (some address.toHandle) = native' := by
    have := congrArg (native' ∈ ·) hnames
    simpa [List.mem_filter, hz] using this
  have hflat : (batches Platform.batchSize (entries.map (CommandBuffer.nativeOrNull bridge))).flatten =
      entries.map (CommandBuffer.nativeOrNull bridge) := flatten_batches (by decide) _
  have hnodup : (addresses.map fun address => CommandBuffer.nativeOrNull bridge (some address.toHandle)).Nodup :=
    hn.map_on fun first hf last hl heq => h.place_eq (h.named hs hb (hm first hf)).2 (h.named hs hb (hm last hl)).2 heq
  have hasks : asks = (batches Platform.batchSize (entries.map (CommandBuffer.nativeOrNull bridge))).map
      fun natives => .native (.freeCommandBuffers device.native pool natives) () := by
    rw [hasks, batches_map, List.map_map]
    rfl
  obtain ⟨halong, hdevices, hheld⟩ := NativeState.after_freed state device.native pool
    (batches Platform.batchSize (entries.map (CommandBuffer.nativeOrNull bridge)))
    (by rw [hflat, hnames]; exact hnodup.filter _) (by
      rw [hflat]
      intro native' hmem hz
      obtain ⟨address, ha, rfl⟩ := (hnamed hz).1 hmem
      exact (h.held _).2 ⟨owner, address, (h.named hs hb (hm address ha)).2⟩)
  rw [hasks]
  refine ⟨halong, hdevices, fun holding => (hheld holding).trans (and_congr_right fun hmem => not_congr ?_)⟩
  rw [hflat]
  constructor
  · rintro ⟨hdevice, hpool, hin⟩
    obtain ⟨_, place, -, record, hrecord, hnative⟩ := (h.held holding).1 hmem
    obtain ⟨address, ha, hname⟩ := (hnamed (hnative ▸ h.present place record hrecord)).1 hin
    obtain ⟨-, hst⟩ := h.named hs hb (hm address ha)
    rw [hname, ← hdevice, ← hpool] at hst
    exact ⟨address, ha, hst⟩
  · rintro ⟨address, ha, hst⟩
    obtain ⟨hz, hst'⟩ := h.named hs hb (hm address ha)
    obtain ⟨-, rfl⟩ := hs.stands_unique hst hst'
    exact ⟨rfl, rfl, (hnamed hz).2 ⟨address, ha, rfl⟩⟩

/-- Command buffers that are freed are those that the native driver is told of. -/
theorem Paired.freed {addresses : List Address} {commandBuffers : Span (Option Handle)} (h : Paired state bridge)
    (hs : bridge.Sound) (hs' : after.Sound)
    (hr : CommandBuffer.Regrouped bridge (some owner.toHandle) owner device trace after changed)
    (haddresses : commandBuffers.toList.filterMap id = addresses.map Address.toHandle)
    (hall : elements device.commandBuffers = (addresses.map (pool, ·) : Multiset _) + elements changed.commandBuffers)
    (ht : trace.commandBuffers = (batches Platform.batchSize commandBuffers.toList).map fun batch =>
      .native (.freeCommandBuffers device.native pool (batch.map (CommandBuffer.nativeOrNull bridge))) ())
    (hretains : bridge.Retains after) :
    NativeState.Along NativeState.Frees state trace ∧ Paired (state.after trace) after := by
  have hl : trace.lifecycle = [] := hr.keeps.effect.lifecycle
  rw [NativeState.along_frees_commandBuffers hl, NativeState.after_commandBuffers hl]
  have hnodup := nodup_elements device.commandBuffers
  rw [hall, Multiset.nodup_add, Multiset.disjoint_left] at hnodup
  obtain ⟨hnodup, -, hdisjoint⟩ := hnodup
  have hlisted (entry : NativeHandle × Address) :
      entry ∈ device.commandBuffers ↔ (∃ address ∈ addresses, (pool, address) = entry) ∨ entry ∈ changed.commandBuffers := by
    rw [← mem_elements, hall, Multiset.mem_add, mem_elements, Multiset.mem_coe, List.mem_map]
  have hgone {address : Address} (ha : address ∈ addresses) : (pool, address) ∉ changed.commandBuffers := fun hc =>
    hdisjoint (Multiset.mem_coe.2 (List.mem_map_of_mem ha)) (mem_elements.2 hc)
  have hm {address : Address} (ha : address ∈ addresses) : (pool, address) ∈ device.commandBuffers :=
    (hlisted _).2 (.inl ⟨address, ha, rfl⟩)
  obtain ⟨halong, hdevices, hheld⟩ :=
    h.after_batches hs hr.found (List.Nodup.of_map _ (Multiset.coe_nodup.1 hnodup)) (fun _ => hm) haddresses ht
  refine ⟨halong, ?_⟩
  have hgroup : after.group? owner = some (device.native, changed.commandBuffers) := by
    rw [Bridge.group?_device hr.left, hr.regroups.same.native]
  refine h.reduced hs' hretains (fun other => hr.keeps.group?) (Bridge.group?_device hr.found) (fun entry hg => ?_)
    (fun other hm _ => hdevices ▸ hm) (fun holding hm => ((hheld holding).1 hm).1) (fun holding hm hne => ?_)
    fun place holding hst => ?_
  · obtain rfl := Option.some.inj (hgroup.symm.trans hg)
    exact ⟨rfl, hdevices ▸ h.devices owner _ _ (Bridge.group?_device hr.found), fun listed hc => (hlisted listed).2 (.inr hc)⟩
  · refine (hheld holding).2 ⟨hm, ?_⟩
    rintro ⟨address, -, hst⟩
    exact hne ((Bridge.lists_device_iff hr.found).1 hst.listed).1.symm
  · rw [hheld, and_iff_right ((h.held holding).2 ⟨owner, place, hst⟩), Bridge.lists_device_iff hr.left,
      and_iff_right hr.regroups.same.native]
    constructor
    · intro hstays
      refine ((hlisted _).1 ((Bridge.lists_device_iff hr.found).1 hst.listed).2).resolve_left ?_
      rintro ⟨address, ha, heq⟩
      obtain ⟨-, rfl⟩ := Prod.mk.inj heq
      exact hstays ⟨address, ha, hst⟩
    · rintro hc ⟨address, ha, hst'⟩
      obtain rfl := h.place_eq hst hst' rfl
      obtain ⟨-, rfl⟩ := hs.stands_unique hst (h.named hs hr.found (hm ha)).2
      exact hgone ha hc

/-- Live command buffers stay paired in every event, and all that is given back was held. -/
theorem Paired.step (h : Paired state bridge) (hs : bridge.Sound) (hs' : after.Sound)
    (hh : CommandBuffer.Handled bridge after event) (ho : Outcome bridge owner event after)
    (hk : bridge.Keeps owner event.trace natives after) (ha : NativeState.Along NativeState.Answers state event.trace) :
    NativeState.Along NativeState.Frees state event.trace ∧ Paired (state.after event.trace) after := by
  have still {trace : Trace} (he : after = bridge) (hi : trace.Idle) (ht : ∀ exchange ∈ trace.commandBuffers,
      ∀ state : NativeState, state.step exchange = state ∧ state.Frees exchange) :
      NativeState.Along NativeState.Frees state trace ∧ Paired (state.after trace) after := by
    have hl : trace.lifecycle = [] := (hi.effect 0).lifecycle
    obtain ⟨hafter, halong⟩ := NativeState.still ht state
    rw [NativeState.along_frees_commandBuffers hl, NativeState.after_commandBuffers hl, hafter, he]
    exact ⟨halong, h⟩
  have hh' := hh
  cases hh with
  | aside hc ht hr => exact ⟨NativeState.along_frees ht, h.outcome hs' hr ho hk hc ht ha⟩
  | unanswered he hi ht =>
    refine still he hi fun exchange hm state => ?_
    obtain ht | ⟨device, request, code, ht⟩ := ht
    · rw [ht] at hm
      cases hm
    · rw [ht] at hm
      rw [List.mem_singleton.1 hm]
      exact ⟨rfl, trivial⟩
  | allocated hr _ hall hanswered hkept => exact h.allocated hs hs' hh' hr hall hanswered hkept ha
  | spared he hi ht _ => exact still he hi (by simp [ht])
  | freed hr haddresses hall ht hretains => exact h.freed hs hs' hr haddresses hall ht hretains
  | recorded he hi _ ht =>
    refine still he hi fun exchange hm state => ?_
    rw [ht] at hm
    rw [List.mem_singleton.1 hm]
    exact ⟨rfl, trivial⟩
  | unrecorded he hi _ ht => exact still he hi (by simp [ht])
  | executed he hi _ _ ht =>
    refine still he hi fun exchange hm state => ?_
    rw [ht] at hm
    obtain ⟨batch, -, rfl⟩ := List.mem_map.1 hm
    exact ⟨rfl, trivial⟩
  | unexecuted he hi _ ht => exact still he hi (by simp [ht])

end Given

/-! ## Over a whole use -/

/-- The event is proper, and the native driver answers with devices and command buffers that it has not given out. -/
structure Event.Exclusive (history : List Event) (event : Event) : Prop extends Event.Proper history event where
  answers : NativeState.Along NativeState.Answers (nativeState history) event.trace

omit [Reckoning] in
theorem nativeState_cons (event : Event) (history : List Event) :
    nativeState (event :: history) = (nativeState history).after event.trace := by
  rw [nativeState, traceOf_cons, NativeState.after_append]
  rfl

namespace Reaches

variable {history later earlier : List Event} {place : Address} {record found : CommandBuffer}

/-- Both invariants hold after all uses in which the native driver answers with what is new. -/
theorem paired (h : Reaches Event.Exclusive history bridge) (hn : ¬Reckoning.strict) : Invariant history bridge ∧
    Paired (nativeState history) bridge ∧ NativeState.Along NativeState.Frees .initial (traceOf history) := by
  induction h with
  | initial => exact ⟨.initial, .initial, trivial⟩
  | @step history before after event _ ha hl ih =>
    obtain ⟨hi, hp, hfrees⟩ := ih
    have hpermitted := ha.toProper.permitted hi.agrees fun set _ hs => absurd hs hn
    obtain ⟨owner, natives, ho, hk⟩ := hi.outcome hpermitted ha.fresh hl
    have hi' := hi.step ho ha.fresh hk
    have hh := CommandBuffer.handled hi.sound hi.occupies ha.fresh hpermitted hl
    obtain ⟨hfrees', hp'⟩ := hp.step hi.sound hi'.sound hh ho hk ha.answers
    refine ⟨hi', ?_, ?_⟩
    · rw [nativeState_cons]
      exact hp'
    · rw [traceOf_cons]
      exact NativeState.along_append_iff.2 ⟨hfrees, hfrees'⟩

/-- As long as a command buffer lasts, its record stays as it is. -/
theorem record_eq {before : Bridge} (h : Reaches Event.Exclusive (later ++ earlier) bridge) (hn : ¬Reckoning.strict)
    (hl : Lasts place.toHandle earlier later) (hbefore : Reaches Event.Exclusive earlier before)
    (hb : before.blocks[place]? = some (.commandBuffer record)) : bridge.blocks[place]? = some (.commandBuffer record) := by
  induction later generalizing bridge with
  | nil =>
    obtain rfl := h.unique hbefore
    exact hb
  | cons event later ih =>
    obtain ⟨hlive, hl⟩ := hl
    obtain ⟨hi', -⟩ := h.paired hn
    cases h with
    | step h ha hleads =>
      obtain ⟨hi, -⟩ := h.paired hn
      have hh := CommandBuffer.handled hi.sound hi.occupies ha.fresh
        (ha.toProper.permitted hi.agrees fun set _ hs => absurd hs hn) hleads
      obtain ⟨found, hat⟩ := Option.isSome_iff_exists.1 ((hi'.agrees.any_isAt_iff hi'.sound).1 hlive)
      have hfound := CommandBuffer.at?_toHandle_iff.1 hat
      rw [hfound, hh.same (ih h hl) hfound]

end Reaches

end Events

/-- The native command buffer that an entry in a device's list stands for, in the pool of the entry. -/
def Device.holding (device : Device) (bridge : Bridge) (entry : NativeHandle × Address) : Holding :=
  ⟨device.native, entry.1, CommandBuffer.nativeOrNull bridge (some entry.2.toHandle)⟩

/-- The command buffers that a device lists have records, and stand one for one for those that the native driver holds in
the pools of the device. -/
structure Device.Paired (device : Device) (bridge : Bridge) (owner : Address) (state : NativeState) : Prop where
  records : ∀ entry ∈ device.commandBuffers, ∃ record,
    bridge.blocks[entry.2]? = some (.commandBuffer record) ∧ record.pool = entry.1 ∧ record.device = owner
  apart : Set.InjOn (fun entry => (device.holding bridge entry).commandBuffer) {entry | entry ∈ device.commandBuffers}
  held : Set.BijOn (device.holding bridge) {entry | entry ∈ device.commandBuffers}
    {holding | holding ∈ state.held ∧ holding.device = device.native}

theorem Paired.device [Reckoning] {state : NativeState} {bridge : Bridge} {owner : Address} {device : Device}
    (h : Paired state bridge) (hs : bridge.Sound) (hb : bridge.blocks[owner]? = some (.device device)) :
    device.Paired bridge owner state := by
  have stands {entry : NativeHandle × Address} (hm : entry ∈ device.commandBuffers) :
      bridge.Stands owner entry.2 (device.holding bridge entry) := (h.named hs hb hm).2
  have records (entry : NativeHandle × Address) (hm : entry ∈ device.commandBuffers) : ∃ record,
      bridge.blocks[entry.2]? = some (.commandBuffer record) ∧ record.pool = entry.1 ∧ record.device = owner :=
    hs.found ((Bridge.lists_device_iff hb).2 ⟨rfl, hm⟩)
  have apart {entry other : NativeHandle × Address} (hm : entry ∈ device.commandBuffers) (ho : other ∈ device.commandBuffers)
      (he : (device.holding bridge entry).commandBuffer = (device.holding bridge other).commandBuffer) : entry = other := by
    have hplace := h.place_eq (stands hm) (stands ho) he
    obtain ⟨record, hr, hp, -⟩ := records entry hm
    obtain ⟨found, hf, hp', -⟩ := records other ho
    rw [hplace, hf] at hr
    cases hr
    exact Prod.ext (hp.symm.trans hp') hplace
  refine ⟨records, fun entry hm other ho => apart hm ho, fun entry hm => ⟨(h.held _).2 ⟨owner, entry.2, stands hm⟩, rfl⟩,
    fun entry hm other ho he => apart hm ho (congrArg Holding.commandBuffer he), ?_⟩
  rintro holding ⟨hm, hdevice⟩
  obtain ⟨other, place, hst⟩ := (h.held holding).1 hm
  obtain ⟨buffers, hg, hlisted⟩ := hst.listed
  obtain rfl := h.devicesApart other owner _ _ _ (hdevice ▸ hg) (Bridge.group?_device hb)
  rw [Bridge.group?_device hb] at hg
  obtain ⟨-, rfl⟩ := Prod.mk.inj (Option.some.inj hg)
  exact ⟨(holding.pool, place), hlisted, (hs.stands_unique hst (stands hlisted)).2.symm⟩

/-- In every use in which the native driver answers with devices and command buffers that it has not given out: the live
command buffers of each device stand one for one for those that the native driver holds in the pools of this device; it
holds none of a device that is not live; whatever it is told to free it holds, and each only once; and the record of a
command buffer stays the same for as long as the command buffer lasts. -/
theorem wrappers_paired {history : List Event} {bridge : Bridge} (h : Reaches Event.Exclusive history bridge) :
    (∀ (owner : Address) device, bridge.blocks[owner]? = some (.device device) →
        device.Paired bridge owner (nativeState history)) ∧
      (∀ holding ∈ (nativeState history).held, ∃ (owner : Address) (device : Device),
        bridge.blocks[owner]? = some (.device device) ∧ device.native = holding.device) ∧
      NativeState.Along NativeState.Frees .initial (traceOf history) ∧
      ∀ later earlier before (place : Address) record, history = later ++ earlier → Reaches Event.Exclusive earlier before →
        Lasts place.toHandle earlier later → before.blocks[place]? = some (.commandBuffer record) →
          bridge.blocks[place]? = some (.commandBuffer record) := by
  let _ : Reckoning := ⟨False⟩
  obtain ⟨hi, hp, hfrees⟩ := h.paired id
  refine ⟨fun owner device => hp.device hi.sound, fun holding hm => ?_, hfrees, ?_⟩
  · obtain ⟨owner, place, ⟨buffers, hg, -⟩, -⟩ := (hp.held holding).1 hm
    obtain ⟨device, hb, hn, -⟩ := Bridge.group?_eq_some_iff.1 hg
    exact ⟨owner, device, hb, hn⟩
  · rintro later earlier before place record rfl hbefore hl hb
    exact h.record_eq id hl hbefore hb

/-! ## A sample -/

/-- A test for events of uses in which the native driver answers with what is new. -/
def Event.ExclusiveForSure (history : List Event) (event : Event) : Prop :=
  event.ProperForSure history ∧ NativeState.Along NativeState.Answers (nativeState history) event.trace

instance (history : List Event) (event : Event) : Decidable (event.ExclusiveForSure history) :=
  inferInstanceAs (Decidable (_ ∧ _))

theorem Event.ExclusiveForSure.exclusive {history : List Event} {event : Event} (h : event.ExclusiveForSure history) :
    event.Exclusive history where
  toProper := h.1.proper
  answers := h.2

/-- Of two command buffers of the pool one is freed, and the other is listed and held. -/
theorem wrappers_paired_sample : Reaches Event.Exclusive Sample.history Sample.bridge ∧
    (∀ (owner : Address) device, Sample.bridge.blocks[owner]? = some (.device device) →
      device.Paired Sample.bridge owner (nativeState Sample.history)) ∧
    (Sample.bridge.record? .device Sample.device).map (·.commandBuffers.toList.length) = some 1 ∧
    (nativeState Sample.history).held.map (·.pool) = [Sample.pool] := by
  have h : Reaches Event.ExclusiveForSure Sample.history Sample.bridge := reaches_session _ (by decide +kernel)
  have h := h.mono fun _ _ => Event.ExclusiveForSure.exclusive
  exact ⟨h, (wrappers_paired h).1, by decide +kernel, by decide +kernel⟩

end VulkanBridge
