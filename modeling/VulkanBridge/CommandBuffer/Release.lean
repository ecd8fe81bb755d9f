import VulkanBridge.Bridge
/-!
# Giving command buffers back

The record of a command buffer goes back to the allocator that is recorded for its pool, and with it goes
one reference to the pool's entry.

When a pool or a device goes, its command buffers are drained: the first of those that are live is given
back, then the first of those that are left, until there is none.
-/

namespace VulkanBridge

namespace CommandBuffer

/-- Give the record of a command buffer back to the allocator of its pool, and its reference to the pool's
entry with it. The set of live command buffers is the caller's business. -/
def free (pools : Registry) (address : Address) : Action Registry := do
  match (← get).record? .commandBuffer address.toHandle with
  | none => pure pools
  | some record =>
    match pools.get? record.pool with
    | some allocator =>
      allocator.freeObject .commandBuffer address
      modify (·.remove address)
    | none => Program.notice (.poolUnregistered address.toHandle)
    pools.release record.pool

/-- The command buffers of a pool, by bounds: from its lowest possible place to its highest, both included. -/
def ofPool (pool : NativeHandle) (entry : NativeHandle × Address) : Bool :=
  (lexOrd.compare (pool, Address.lowest) entry).isLE && (lexOrd.compare entry (pool, Address.highest)).isLE

/-- The first of the live command buffers that are meant. -/
def first? (live : LiveCommandBuffers) (meant : NativeHandle × Address → Bool) : Option (NativeHandle × Address) :=
  live.toList.find? meant

theorem size_erase_first_lt {live : LiveCommandBuffers} {meant : NativeHandle × Address → Bool}
    {entry : NativeHandle × Address} (h : first? live meant = some entry) : (live.erase entry).size < live.size := by
  have hm : entry ∈ live := Std.ExtTreeSet.mem_toList.1 (List.mem_of_find?_eq_some h)
  have hz : live.size ≠ 0 := by
    intro hz
    rw [Std.ExtTreeSet.eq_empty_iff_size_eq_zero.2 hz] at hm
    exact Std.ExtTreeSet.not_mem_empty hm
  rw [Std.ExtTreeSet.size_erase, if_pos (Std.ExtTreeSet.mem_iff_contains.1 hm)]
  omega

/-- Give the command buffers of a device back that are meant. Each time the first of those that are left is
looked for anew. -/
def drain (meant : NativeHandle × Address → Bool) (device : Device) : Action Device :=
  match _h : first? device.commandBuffers meant with
  | none => pure device
  | some entry => do
    let pools ← free device.pools entry.2
    drain meant { device with pools, commandBuffers := device.commandBuffers.erase entry }
termination_by device.commandBuffers.size
decreasing_by exact size_erase_first_lt _h

end CommandBuffer

end VulkanBridge
