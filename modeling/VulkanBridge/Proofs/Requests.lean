import VulkanBridge.Proofs.Devices
import VulkanBridge.CommandBuffer.Recording
import VulkanBridge.Submission
/-!
# Calls that keep nothing

Most calls put a request to the native driver and leave the state as it was. A submission also needs memory, which it
gives back before it returns.
-/

namespace VulkanBridge

namespace CommandBuffer

theorem idle_record (handle : Option Handle) (command : Command) : (record handle command).Idle := by
  refine .bind (idle_resolve _ _) fun resolved => ?_
  cases resolved with
  | error _ => exact Action.idle_pure _
  | ok resolved => exact Action.idle_lift (Program.idle_native fun _ => rfl)

theorem idle_firstInvalid? (index : Nat) (handles : List (Option Handle)) : (firstInvalid? index handles).Idle := by
  induction handles generalizing index with
  | nil => exact Action.idle_pure _
  | cons handle rest ih =>
    refine .bind (idle_validate _ _) fun validated => ?_
    cases validated with
    | error _ => exact Action.idle_pure _
    | ok _ => exact ih (index + 1)

theorem idle_nativeOf (handle : Option Handle) : (nativeOf handle).Idle := by
  refine .bind (idle_resolve _ _) fun resolved => ?_
  cases resolved with
  | error _ => exact Action.idle_pure _
  | ok _ => exact Action.idle_pure _

theorem idle_executeEach (native : NativeHandle) (batches : List (List (Option Handle))) :
    (executeEach native batches).Idle := by
  induction batches with
  | nil => exact Action.idle_pure _
  | cons batch rest ih =>
    refine .bind (.mapM fun handle _ => idle_nativeOf handle) fun natives => ?_
    exact .bind (Action.idle_lift (Program.idle_native fun _ => rfl)) fun _ => ih

theorem idle_execute (handle : Option Handle) (secondaries : Span (Option Handle)) : (execute handle secondaries).Idle := by
  refine .bind (idle_resolve _ _) fun resolved => ?_
  cases resolved with
  | error _ => exact Action.idle_pure _
  | ok resolved =>
    refine .bind (idle_firstInvalid? _ _) fun place => ?_
    cases place with
    | some index => exact Action.idle_lift (Program.idle_notice rfl)
    | none =>
      rw [executeBatches_eq (batched_batches (by decide) _).small]
      exact idle_executeEach _ _

end CommandBuffer

/-- Settling on a version may read the configuration, and changes no record. -/
theorem runs_negotiateVersion {requested : Option UInt32} {bridge after : Bridge} {trace : Trace}
    {result : ResultCode × Option UInt32} (h : (negotiateVersion requested).Runs bridge trace result after) :
    after.blocks = bridge.blocks ∧ trace.Idle := by
  unfold negotiateVersion at h
  rw [Action.runs_bind_iff] at h
  obtain ⟨reading, last, config, between, rfl, hc, h⟩ := h
  obtain ⟨hb, hi⟩ := runs_configuration hc
  split at h
  all_goals
    obtain ⟨rfl, -, rfl⟩ := Action.runs_pure_iff.1 h
    exact ⟨hb, Trace.idle_append_iff.2 ⟨hi, Trace.idle_nil⟩⟩

namespace Submission

/-! ## The block of a submission -/

/-- A block for submissions has the size of its parts and is aligned to eight bytes, with the native handles behind the
descriptions. It is refused only where it would be too large for any layout. -/
theorem blockLayout?_eq (count total : UInt64) : blockLayout? count total =
    if 72 * count.toNat + 8 * total.toNat ≤ 2 ^ 63 - 8 then some (⟨72 * count + 8 * total, 8⟩, 72 * count) else none := by
  have hlimit : (Layout.limit 8).toNat = 2 ^ 63 - 8 := by decide
  have hdescriptions : Layout.submission.array? count =
      if 72 * count.toNat ≤ (Layout.limit 8).toNat then some (Layout.submission.array count) else none :=
    Layout.array?_eq (by decide)
  have hhandles : Layout.nativeHandle.array? total =
      if 8 * total.toNat ≤ (Layout.limit 8).toNat then some (Layout.nativeHandle.array total) else none :=
    Layout.array?_eq (by decide)
  rw [blockLayout?, hdescriptions, hhandles, hlimit]
  by_cases hcount : 72 * count.toNat ≤ 2 ^ 63 - 8
  · by_cases htotal : 8 * total.toNat ≤ 2 ^ 63 - 8
    · have hfirst : (Layout.submission.array count).size.toNat = 72 * count.toNat := Layout.toNat_size_array hcount
      have hsecond : (Layout.nativeHandle.array total).size.toNat = 8 * total.toNat := Layout.toNat_size_array htotal
      have hextend : (Layout.submission.array count).extend? (Layout.nativeHandle.array total) = _ :=
        Layout.extend?_eq (k := 3) (by decide : Layout.isPowerOfTwo 8) rfl rfl (by rw [hfirst]; omega)
      rw [hfirst, hsecond, show (Layout.submission.array count).alignment = 8 from rfl, hlimit] at hextend
      rw [if_pos hcount, if_pos htotal]
      exact hextend
    · have hover : ¬72 * count.toNat + 8 * total.toNat ≤ 2 ^ 63 - 8 := by omega
      rw [if_pos hcount, if_neg htotal, if_neg hover]
      rfl
  · have hover : ¬72 * count.toNat + 8 * total.toNat ≤ 2 ^ 63 - 8 := by omega
    rw [if_neg hcount, if_neg hover]
    rfl

/-- The size of such a block does not wrap. -/
theorem toNat_blockSize {count total : UInt64} (hfits : 72 * count.toNat + 8 * total.toNat ≤ 2 ^ 63 - 8) :
    (72 * count + 8 * total).toNat = 72 * count.toNat + 8 * total.toNat := by
  simp only [UInt64.toNat_add, UInt64.toNat_mul, UInt64.reduceToNat]
  omega

/-- The block of a submission that has command buffers is not empty, and its measures exist. -/
theorem sound_blockLayout {count total offset : UInt64} {layout : Layout} (hz : total ≠ 0)
    (h : blockLayout? count total = some (layout, offset)) : layout.Sound := by
  rw [blockLayout?_eq] at h
  split at h
  case isFalse => cases h
  case isTrue hfits =>
    obtain ⟨rfl, -⟩ := Prod.mk.inj (Option.some.inj h)
    have hpos : total.toNat ≠ 0 := fun he => hz (UInt64.toNat_inj.1 he)
    have hsize := toNat_blockSize hfits
    have hlimit : 72 * count + 8 * total ≤ Layout.limit 8 := by
      rw [UInt64.le_iff_toNat_le, hsize]
      exact hfits
    refine Layout.sound_of_ofSize? (if_pos ⟨by decide, hlimit⟩) fun he => ?_
    rw [he, UInt64.toNat_zero] at hsize
    omega

variable {bridge after : Bridge} {trace : Trace}

variable [Reckoning]

variable {queue fence : NativeHandle} {allocator : Allocator} {submissions : List (Submission (Option Handle))}
  {result : Except CallError ResultCode}

/-- The block is given back, whatever becomes of the draft. -/
theorem runs_submitDraft {layout : Layout} {block : Address} (ha : allocator.Returns) (hl : layout.Sound)
    (h : (submitDraft queue allocator submissions fence layout block).Runs bridge trace result after) :
    after = bridge ∧ trace.Effect (allocator.granted block layout) [] 0 := by
  unfold submitDraft at h
  rw [Action.runs_bind_iff] at h
  obtain ⟨describing, last, described, between, rfl, hd, h⟩ := h
  obtain ⟨rfl, hdescribing⟩ := (passive_describe _ _ _).idle _ _ _ _ hd
  cases described with
  | error error =>
    simp only [Action.runs_bind_iff, Action.runs_lift_iff, Action.runs_pure_iff] at h
    obtain ⟨freeing, _, _, _, rfl, ⟨hf, rfl⟩, rfl, -, rfl⟩ := h
    exact ⟨rfl, .after_idle hdescribing ((Allocator.runs_freeObject ha hl hf).before_idle Trace.idle_nil)⟩
  | ok draft =>
    simp only [Action.runs_bind_iff, Action.runs_lift_iff, Action.runs_pure_iff] at h
    obtain ⟨submitting, _, _, _, rfl, ⟨hs, rfl⟩, freeing, _, _, _, rfl, ⟨hf, rfl⟩, rfl, -, rfl⟩ := h
    have hsubmitting := Program.idle_native (fun _ => rfl) _ _ hs
    have hfreeing := (Allocator.runs_freeObject ha hl hf).before_idle Trace.idle_nil
    exact ⟨rfl, .after_idle hdescribing (.after_idle hsubmitting hfreeing)⟩

/-- What a submission borrows it gives back. -/
theorem runs_submitTo (ha : allocator.Returns)
    (h : (submitTo queue allocator submissions fence).Runs bridge trace result after) :
    after = bridge ∧ trace.Effect 0 [] 0 := by
  unfold submitTo at h
  dsimp only at h
  split at h
  case isTrue =>
    obtain ⟨rfl, hi⟩ := Action.Idle.map (Action.idle_lift (Program.idle_native fun _ => rfl)) _ _ _ _ _ h
    exact ⟨rfl, hi.effect 0⟩
  case isFalse hz =>
    split at h
    case h_1 =>
      obtain ⟨rfl, -, rfl⟩ := Action.runs_pure_iff.1 h
      exact ⟨rfl, .nil 0⟩
    case h_2 layout offset hl =>
      simp only [Action.runs_bind_iff, Action.runs_lift_iff] at h
      obtain ⟨allocating, last, allocated, _, rfl, ⟨hallocate, rfl⟩, h⟩ := h
      obtain ⟨block, rfl, he⟩ | ⟨rfl, hi⟩ := Allocator.runs_allocateObject hallocate
      · obtain ⟨rfl, hdraft⟩ := runs_submitDraft ha (sound_blockLayout hz hl) h
        exact ⟨rfl, he.append hdraft⟩
      · obtain ⟨rfl, -, rfl⟩ := Action.runs_pure_iff.1 h
        exact ⟨rfl, .before_idle (hi.effect 0) Trace.idle_nil⟩

theorem runs_submit {handle : Option Handle} {submissions : Span (Submission (Option Handle))} {result : ResultCode}
    (hs : bridge.Sound) (h : (submit handle submissions fence).Runs bridge trace result after) :
    after = bridge ∧ trace.Effect 0 [] 0 := by
  unfold submit at h
  rw [Action.runs_bind_iff] at h
  obtain ⟨resolving, last, resolved, between, rfl, hr, h⟩ := h
  obtain ⟨rfl, hi⟩ := idle_resolve _ _ _ _ _ _ hr
  cases resolved with
  | error error =>
    obtain ⟨rfl, -, rfl⟩ := Action.runs_pure_iff.1 h
    exact ⟨rfl, .before_idle (hi.effect 0) Trace.idle_nil⟩
  | ok resolved =>
    obtain ⟨_, queue⟩ := resolved
    simp only [Action.runs_bind_iff, Action.runs_get_iff] at h
    obtain ⟨_, _, _, _, rfl, ⟨rfl, rfl, rfl⟩, h⟩ := h
    split at h
    case h_1 =>
      obtain ⟨rfl, -, rfl⟩ := Action.runs_pure_iff.1 h
      exact ⟨rfl, .before_idle (hi.effect 0) Trace.idle_nil⟩
    case h_2 device hd =>
      obtain ⟨-, hb⟩ := Bridge.record?_device_iff.1 hd
      have hsd : device.Sound bridge queue.device := hs queue.device _ hb
      rw [Action.runs_bind_iff] at h
      obtain ⟨submitting, last, submitted, between, rfl, hsubmit, h⟩ := h
      obtain ⟨rfl, he⟩ := runs_submitTo hsd.free hsubmit
      have hlast : after = between ∧ last = [] := by
        cases submitted with
        | ok _ =>
          obtain ⟨rfl, -, rfl⟩ := Action.runs_pure_iff.1 h
          exact ⟨rfl, rfl⟩
        | error _ =>
          obtain ⟨rfl, -, rfl⟩ := Action.runs_pure_iff.1 h
          exact ⟨rfl, rfl⟩
      obtain ⟨rfl, rfl⟩ := hlast
      exact ⟨rfl, .after_idle hi (he.before_idle Trace.idle_nil)⟩

end Submission

end VulkanBridge
