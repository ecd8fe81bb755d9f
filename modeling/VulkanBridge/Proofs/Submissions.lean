import VulkanBridge.Proofs.Execution
import VulkanBridge.Proofs.Requests
/-!
# Submissions reach the native queue translated

The native handles of all submissions are written one after another, each submission described by where its own begin.
What is written later lies behind what is described already, so the native queue reads each submission with its own
command buffers (`Submission.tells_describe`). A submission without command buffers takes no place, and submissions that
have none between them take no block.
-/

namespace VulkanBridge

namespace Submission

/-! ## Counts -/

section Counts

variable {α : Type} {submissions : List (Submission α)}

/-- The command buffers of all submissions, in order. -/
def entries (submissions : List (Submission α)) : List α := submissions.flatMap (·.commandBuffers)

@[simp] theorem entries_nil : entries ([] : List (Submission α)) = [] := rfl

@[simp] theorem entries_cons (submission : Submission α) (rest : List (Submission α)) :
    entries (submission :: rest) = submission.commandBuffers ++ entries rest := rfl

/-- The number of submissions and that of each one's command buffers are words of 32 bits. -/
def Counted (submissions : List (Submission α)) : Prop :=
  submissions.length < 2 ^ 32 ∧ ∀ submission ∈ submissions, submission.commandBuffers.length < 2 ^ 32

instance : Decidable (Counted submissions) := inferInstanceAs (Decidable (_ ∧ _))

/-- A total that has room for each remaining submission does not wrap. -/
theorem toNat_foldl_add {total : UInt64} (hroom : total.toNat + submissions.length * 2 ^ 32 ≤ 2 ^ 64 - 1)
    (h : ∀ submission ∈ submissions, submission.commandBuffers.length < 2 ^ 32) :
    (submissions.foldl (fun total submission => total + submission.commandBuffers.length.toUInt32.toUInt64) total).toNat =
      total.toNat + (entries submissions).length := by
  induction submissions generalizing total with
  | nil => rfl
  | cons submission rest ih =>
    obtain ⟨hone, hrest⟩ := List.forall_mem_cons.1 h
    rw [List.length_cons, Nat.succ_mul] at hroom
    have hword : submission.commandBuffers.length.toUInt32.toUInt64.toNat = submission.commandBuffers.length := by
      rw [UInt32.toNat_toUInt64, Nat.toUInt32_eq, UInt32.toNat_ofNat_of_lt' hone]
    have hsum : (total + submission.commandBuffers.length.toUInt32.toUInt64).toNat =
        total.toNat + submission.commandBuffers.length := by
      rw [UInt64.toNat_add, hword, Nat.mod_eq_of_lt (by omega)]
    rw [List.foldl_cons, ih (by omega) hrest, hsum, entries_cons, List.length_append, Nat.add_assoc]

/-- The total is the number of all command buffers. -/
theorem toNat_totalCommandBuffers (h : Counted submissions) :
    (totalCommandBuffers submissions).toNat = (entries submissions).length := by
  have hfew := h.1
  rw [totalCommandBuffers, toNat_foldl_add (by rw [UInt64.toNat_zero]; omega) h.2, UInt64.toNat_zero,
    Nat.zero_add]

theorem totalCommandBuffers_eq_zero_iff (h : Counted submissions) :
    totalCommandBuffers submissions = 0 ↔ entries submissions = [] := by
  rw [← UInt64.toNat_inj, toNat_totalCommandBuffers h, UInt64.toNat_zero, List.length_eq_zero_iff]

/-- The size, as a number, of a block for the descriptions of these submissions and all their native handles. -/
def needed (submissions : List (Submission α)) : Nat := 72 * submissions.length + 8 * (entries submissions).length

/-- The block that these submissions need. -/
def block (submissions : List (Submission α)) : Layout :=
  ⟨72 * submissions.length.toUInt64 + 8 * totalCommandBuffers submissions, 8⟩

theorem toNat_length (h : Counted submissions) : submissions.length.toUInt64.toNat = submissions.length := by
  rw [Nat.toUInt64_eq, UInt64.toNat_ofNat_of_lt' (h.1.trans (by decide))]

theorem blockLayout?_eq_some {layout : Layout} {offset : UInt64} (h : Counted submissions)
    (hl : blockLayout? submissions.length.toUInt64 (totalCommandBuffers submissions) = some (layout, offset)) :
    needed submissions ≤ 2 ^ 63 - 8 ∧ layout = block submissions := by
  rw [blockLayout?_eq, toNat_length h, toNat_totalCommandBuffers h] at hl
  split at hl
  case isTrue hfits => exact ⟨hfits, (Prod.mk.inj (Option.some.inj hl)).1.symm⟩
  case isFalse => cases hl

theorem blockLayout?_eq_none (h : Counted submissions)
    (hl : blockLayout? submissions.length.toUInt64 (totalCommandBuffers submissions) = none) :
    2 ^ 63 - 8 < needed submissions := by
  rw [blockLayout?_eq, toNat_length h, toNat_totalCommandBuffers h] at hl
  split at hl
  case isTrue => cases hl
  case isFalse hlarge => exact Nat.lt_of_not_le hlarge

/-- The size of the block does not wrap. -/
theorem toNat_size_block (h : Counted submissions) (hfits : needed submissions ≤ 2 ^ 63 - 8) :
    (block submissions).size.toNat = needed submissions := by
  rw [needed, ← toNat_length h, ← toNat_totalCommandBuffers h] at hfits ⊢
  exact toNat_blockSize hfits

end Counts

/-! ## Places for native handles -/

section Places

variable {places written : Array NativeHandle} {description : Description}

/-- A description is read in its own places only. -/
theorem Description.read_congr (hs : written.size = places.size)
    (h : ∀ i < description.first + description.count, written[i]? = places[i]?) :
    description.read written = description.read places := by
  have hextract : written.extract description.first (description.first + description.count) =
      places.extract description.first (description.first + description.count) := by
    refine Array.ext_getElem? fun i => ?_
    rw [Array.getElem?_extract, Array.getElem?_extract, hs]
    split
    · exact h _ (by omega)
    · rfl
  rw [read, read, hextract]

end Places

/-! ## Translations -/

variable {bridge after : Bridge} {trace : Trace} {submissions : List (Submission (Option Handle))}

/-- A submission with native handles for its command buffers, if they are all there. -/
def translated? (bridge : Bridge) (submission : Submission (Option Handle)) : Option (Submission NativeHandle) :=
  (CommandBuffer.nativesAt? bridge submission.commandBuffers).map (⟨submission.next, ·, submission.waits, submission.signals⟩)

/-- All submissions like that. -/
def translatedAll? (bridge : Bridge) (submissions : List (Submission (Option Handle))) :
    Option (List (Submission NativeHandle)) := submissions.mapM (translated? bridge)

/-- A submission with native handles for its command buffers, and nulls for those that are not there. -/
def translation (bridge : Bridge) (submission : Submission (Option Handle)) : Submission NativeHandle :=
  ⟨submission.next, submission.commandBuffers.map (CommandBuffer.nativeOrNull bridge), submission.waits,
    submission.signals⟩

theorem translated?_eq_some_iff {submission : Submission (Option Handle)} {submitted : Submission NativeHandle} :
    translated? bridge submission = some submitted ↔
      (∀ entry ∈ submission.commandBuffers, (CommandBuffer.at? bridge entry).isSome) ∧
        submitted = translation bridge submission := by
  rw [translated?, Option.map_eq_some_iff]
  constructor
  · rintro ⟨natives, hnatives, rfl⟩
    obtain ⟨hlive, rfl⟩ := CommandBuffer.nativesAt?_eq_some_iff.1 hnatives
    exact ⟨hlive, rfl⟩
  · rintro ⟨hlive, rfl⟩
    exact ⟨_, CommandBuffer.nativesAt?_eq_some_iff.2 ⟨hlive, rfl⟩, rfl⟩

theorem translatedAll?_eq_some_iff {submitted : List (Submission NativeHandle)} :
    translatedAll? bridge submissions = some submitted ↔
      (∀ entry ∈ entries submissions, (CommandBuffer.at? bridge entry).isSome) ∧
        submitted = submissions.map (translation bridge) := by
  rw [translatedAll?, mapM_eq_some_iff fun _ _ => translated?_eq_some_iff]
  simp only [entries, List.forall_mem_flatMap]

/-! ## Describing -/

section Describing

variable {natives : Array NativeHandle} {place : Nat} {handles : List (Option Handle)} {entry : Option Handle} {draft : Draft}
  {cursor : Nat}

theorem tells_writeNatives (hb : bridge.Tagged) (hv : ∀ entry ∈ handles, (CommandBuffer.at? bridge entry).isSome) :
    (writeNatives natives place handles).Tells bridge []
      (.ok (writeAll Array.setIfInBounds natives place (handles.map (CommandBuffer.nativeOrNull bridge)))) := by
  induction handles generalizing natives place with
  | nil => exact Action.tells_pure bridge _
  | cons handle rest ih =>
    obtain ⟨hlive, hrest⟩ := List.forall_mem_cons.1 hv
    obtain ⟨found, hat⟩ := Option.isSome_iff_exists.1 hlive
    obtain ⟨accepted, ht⟩ := CommandBuffer.tells_resolve hb hat
    rw [List.map_cons, CommandBuffer.nativeOrNull, hat]
    exact ht.bind (ih hrest)

/-- Writing ends at the first entry that is not a command buffer. -/
theorem tells_writeNatives_refused (hb : bridge.Tagged)
    (h : handles.find? (fun entry => (CommandBuffer.at? bridge entry).isNone) = some entry) :
    (writeNatives natives place handles).Tells bridge [Bridge.refusal .commandBuffer entry]
      (.error (.invalidHandle ObjectKind.commandBuffer.name)) := by
  induction handles generalizing natives place with
  | nil => cases h
  | cons handle rest ih =>
    cases hat : CommandBuffer.at? bridge handle with
    | none =>
      rw [List.find?_cons_of_pos (by rw [hat]; rfl)] at h
      obtain rfl := Option.some.inj h
      exact ((CommandBuffer.refuses_iff hb).2 hat).tells_resolve.bind (Action.tells_pure bridge _)
    | some found =>
      rw [List.find?_cons_of_neg (by rw [hat]; simp)] at h
      obtain ⟨accepted, ht⟩ := CommandBuffer.tells_resolve hb hat
      exact ht.bind (ih h)

/-- All descriptions end before the cursor. -/
def Draft.Below (draft : Draft) (cursor : Nat) : Prop :=
  ∀ description ∈ draft.descriptions, description.first + description.count ≤ cursor

/-- The draft with one more submission, written from the cursor on. -/
def Draft.extended (draft : Draft) (cursor : Nat) (submission : Submission NativeHandle) : Draft :=
  ⟨draft.descriptions.push
      ⟨submission.next, cursor, submission.commandBuffers.length, submission.waits, submission.signals⟩,
    writeAll Array.setIfInBounds draft.natives cursor submission.commandBuffers⟩

theorem Draft.Below.extended (h : draft.Below cursor) (submission : Submission NativeHandle) :
    (draft.extended cursor submission).Below (cursor + submission.commandBuffers.length) := by
  intro description hm
  rcases Array.mem_push.1 hm with hm | rfl
  · exact (h description hm).trans (Nat.le_add_right _ _)
  · exact Nat.le_refl _

/-- One more submission is read behind those that were read before. -/
theorem Draft.Below.read_extended (h : draft.Below cursor) (submission : Submission NativeHandle)
    (hfits : cursor + submission.commandBuffers.length ≤ draft.natives.size) :
    (draft.extended cursor submission).read = draft.read ++ [submission] := by
  rw [Draft.read, Draft.extended, Array.toList_push, List.map_append, Draft.read]
  congr 1
  · refine List.map_congr_left fun description hm => Description.read_congr size_writeAll fun i hi => ?_
    exact getElem?_writeAll_of_lt (hi.trans_le (h description (Array.mem_toList_iff.1 hm)))
  · rw [List.map_singleton, Description.read, extract_writeAll hfits]

/-- All submissions are read as they were translated. -/
theorem tells_describe (hb : bridge.Tagged)
    (hv : ∀ entry ∈ entries submissions, (CommandBuffer.at? bridge entry).isSome) (hd : draft.Below cursor)
    (hfits : cursor + (entries submissions).length ≤ draft.natives.size) :
    ∃ filled : Draft, (describe draft cursor submissions).Tells bridge [] (.ok filled) ∧
      filled.read = draft.read ++ submissions.map (translation bridge) := by
  induction submissions generalizing draft cursor with
  | nil => exact ⟨draft, Action.tells_pure bridge _, by rw [List.map_nil, List.append_nil]⟩
  | cons submission rest ih =>
    rw [entries_cons, List.forall_mem_append] at hv
    rw [entries_cons, List.length_append] at hfits
    have hcount : (translation bridge submission).commandBuffers.length = submission.commandBuffers.length :=
      List.length_map _
    have hbelow := hd.extended (translation bridge submission)
    have hread := hd.read_extended (translation bridge submission) (by rw [hcount]; omega)
    rw [hcount] at hbelow
    obtain ⟨filled, ht, hfilled⟩ := ih hv.2 hbelow (by rw [Draft.extended, size_writeAll]; omega)
    rw [Draft.extended, hcount] at ht
    refine ⟨filled, (tells_writeNatives hb hv.1).bind ht, ?_⟩
    rw [hfilled, hread, List.map_cons, List.append_assoc, List.singleton_append]

/-- Describing ends at the first entry of all that is not a command buffer. -/
theorem tells_describe_refused (hb : bridge.Tagged)
    (h : (entries submissions).find? (fun entry => (CommandBuffer.at? bridge entry).isNone) = some entry) :
    (describe draft cursor submissions).Tells bridge [Bridge.refusal .commandBuffer entry]
      (.error (.invalidHandle ObjectKind.commandBuffer.name)) := by
  induction submissions generalizing draft cursor with
  | nil => cases h
  | cons submission rest ih =>
    rw [entries_cons, List.find?_append] at h
    cases hone : submission.commandBuffers.find? fun entry => (CommandBuffer.at? bridge entry).isNone with
    | some found =>
      rw [hone, Option.some_or] at h
      obtain rfl := Option.some.inj h
      exact (tells_writeNatives_refused hb hone).bind (Action.tells_pure bridge _)
    | none =>
      rw [hone, Option.none_or] at h
      exact (tells_writeNatives hb (CommandBuffer.find?_invalid_eq_none_iff.1 hone)).bind (ih h)

end Describing

/-! ## Submitting -/

/-- The ways in which a submission to a native queue ends, each with its exchanges and its result. -/
inductive Ends (bridge : Bridge) (queue : NativeHandle) (allocator : Allocator)
    (submissions : List (Submission (Option Handle))) (fence : NativeHandle) : Trace → Except CallError ResultCode → Prop
  /-- Without command buffers there is nothing to be written. -/
  | unchanged (code : ResultCode) : entries submissions = [] →
      Ends bridge queue allocator submissions fence
        [.native (.submit queue (submissions.map (translation bridge)) fence) code] (.ok code)
  /-- No block can be large enough. -/
  | tooLarge : entries submissions ≠ [] → 2 ^ 63 - 8 < needed submissions →
      Ends bridge queue allocator submissions fence [] (.error .outOfHostMemory)
  /-- The block cannot be had. -/
  | scarce : entries submissions ≠ [] → needed submissions ≤ 2 ^ 63 - 8 →
      Ends bridge queue allocator submissions fence (allocator.asks (block submissions) .command none) (.error .outOfHostMemory)
  /-- An entry is not a command buffer. -/
  | refused (place : Address) (entry : Option Handle) : needed submissions ≤ 2 ^ 63 - 8 →
      (allocator.asks (block submissions) .command (some place)).length = 1 →
      (entries submissions).find? (fun entry => (CommandBuffer.at? bridge entry).isNone) = some entry →
      Ends bridge queue allocator submissions fence
        (allocator.lends (block submissions) .command place ⟨.notice (Bridge.refusal .commandBuffer entry), ()⟩)
        (.error (.invalidHandle ObjectKind.commandBuffer.name))
  /-- All entries are translated. -/
  | submitted (place : Address) (code : ResultCode) : entries submissions ≠ [] → needed submissions ≤ 2 ^ 63 - 8 →
      (allocator.asks (block submissions) .command (some place)).length = 1 →
      (∀ entry ∈ entries submissions, (CommandBuffer.at? bridge entry).isSome) →
      Ends bridge queue allocator submissions fence
        (allocator.lends (block submissions) .command place
          (.native (.submit queue (submissions.map (translation bridge)) fence) code))
        (.ok code)

variable {queue fence : NativeHandle} {allocator : Allocator} {result : Except CallError ResultCode}

/-- In a block of their own, submissions are sent as translated or given up, and the block is given back. -/
theorem ends_of_submitDraft {place : Address} (hb : bridge.Tagged) (hc : Counted submissions)
    (hsound : (block submissions).Sound)
    (h : (submitDraft queue allocator submissions fence (block submissions) place).Runs bridge trace result after) :
    after = bridge ∧
      ((∃ entry, (entries submissions).find? (fun entry => (CommandBuffer.at? bridge entry).isNone) = some entry ∧
          trace = ⟨.notice (Bridge.refusal .commandBuffer entry), ()⟩ :: allocator.returns (block submissions) place ∧
          result = .error (.invalidHandle ObjectKind.commandBuffer.name)) ∨
        (∀ entry ∈ entries submissions, (CommandBuffer.at? bridge entry).isSome) ∧ ∃ code,
          trace = .native (.submit queue (submissions.map (translation bridge)) fence) code ::
            allocator.returns (block submissions) place ∧ result = .ok code) := by
  unfold submitDraft at h
  cases hrefused : (entries submissions).find? fun entry => (CommandBuffer.at? bridge entry).isNone with
  | some entry =>
    obtain ⟨_, rfl, hgive⟩ := (tells_describe_refused hb hrefused).runs_bind h
    simp only [Action.runs_bind_iff, Action.runs_lift_iff, Action.runs_pure_iff] at hgive
    obtain ⟨freeing, _, _, _, rfl, ⟨hfree, rfl⟩, rfl, rfl, rfl⟩ := hgive
    obtain rfl := Allocator.returns_of_freeObject hsound hfree
    rw [List.append_nil]
    exact ⟨rfl, .inl ⟨entry, rfl, rfl, rfl⟩⟩
  | none =>
    have hlive := CommandBuffer.find?_invalid_eq_none_iff.1 hrefused
    have hbelow : (Draft.blank (totalCommandBuffers submissions)).Below 0 := by simp [Draft.Below, Draft.blank]
    have hplaces : 0 + (entries submissions).length ≤ (Draft.blank (totalCommandBuffers submissions)).natives.size := by
      simp [Draft.blank, toNat_totalCommandBuffers hc]
    obtain ⟨draft, ht, hread⟩ := tells_describe hb hlive hbelow hplaces
    obtain ⟨_, rfl, hgive⟩ := ht.runs_bind h
    simp only [Action.runs_bind_iff, Action.runs_lift_iff, Action.runs_pure_iff] at hgive
    obtain ⟨sending, _, code, _, rfl, ⟨hsend, rfl⟩, freeing, _, _, _, rfl, ⟨hfree, rfl⟩, rfl, rfl, rfl⟩ := hgive
    obtain rfl := Program.runs_native_iff.1 hsend
    obtain rfl := Allocator.returns_of_freeObject hsound hfree
    have hdraft : draft.read = submissions.map (translation bridge) := hread
    rw [List.append_nil, hdraft]
    exact ⟨rfl, .inr ⟨hlive, code, rfl, rfl⟩⟩

/-- A submission is sent as it is, or sent as translated, or given up. A block is given back whenever it was had. -/
theorem ends_of_submitTo (hb : bridge.Tagged) (hc : Counted submissions)
    (h : (submitTo queue allocator submissions fence).Runs bridge trace result after) :
    after = bridge ∧ Ends bridge queue allocator submissions fence trace result := by
  unfold submitTo at h
  dsimp only at h
  split at h
  case isTrue hz =>
    have hnone := (totalCommandBuffers_eq_zero_iff hc).1 hz
    obtain ⟨code, hsend, rfl⟩ := Action.runs_map_iff.1 h
    obtain ⟨hsent, rfl⟩ := Action.runs_lift_iff.1 hsend
    obtain rfl := Program.runs_native_iff.1 hsent
    have hsame : submissions.map (fun submission => ⟨submission.next, [], submission.waits, submission.signals⟩) =
        submissions.map (translation bridge) := by
      refine List.map_congr_left fun submission hm => ?_
      rw [translation, List.flatMap_eq_nil_iff.1 hnone submission hm, List.map_nil]
    rw [hsame]
    exact ⟨rfl, .unchanged code hnone⟩
  case isFalse hz =>
    have hsome : entries submissions ≠ [] := fun he => hz ((totalCommandBuffers_eq_zero_iff hc).2 he)
    split at h
    case h_1 hl =>
      obtain ⟨rfl, rfl, rfl⟩ := Action.runs_pure_iff.1 h
      exact ⟨rfl, .tooLarge hsome (blockLayout?_eq_none hc hl)⟩
    case h_2 layout offset hl =>
      have hsound := sound_blockLayout hz hl
      obtain ⟨hfits, rfl⟩ := blockLayout?_eq_some hc hl
      simp only [Action.runs_bind_iff, Action.runs_lift_iff] at h
      obtain ⟨allocating, last, allocated, _, rfl, ⟨hallocate, rfl⟩, h⟩ := h
      rcases Allocator.asks_of_allocateObject hsound hallocate with ⟨place, rfl, rfl⟩ | ⟨rfl, rfl⟩
      · have hone := Allocator.length_asks_of_allocateObject hsound hallocate
        obtain ⟨rfl, ⟨entry, hentry, rfl, rfl⟩ | ⟨hlive, code, rfl, rfl⟩⟩ := ends_of_submitDraft hb hc hsound h
        · exact ⟨rfl, .refused place entry hfits hone hentry⟩
        · exact ⟨rfl, .submitted place code hsome hfits hone hlive⟩
      · obtain ⟨rfl, rfl, rfl⟩ := Action.runs_pure_iff.1 h
        rw [List.append_nil]
        exact ⟨rfl, .scarce hsome hfits⟩

end Submission

/-- The device of a queue is there. -/
theorem Bridge.Sound.device_of_queue [Reckoning] {bridge : Bridge} {handle : Handle} {queue : Queue} (hs : bridge.Sound)
    (h : bridge.record? .queue handle = some queue) :
    ∃ device, bridge.record? .device queue.device.toHandle = some device := by
  obtain ⟨block, hb, hr⟩ := Option.bind_eq_some_iff.1 h
  obtain ⟨records, rfl⟩ : ∃ records, block = .queues records := by
    cases block with
    | queues records => exact ⟨records, rfl⟩
    | _ => cases hr
  rcases hs.owner_or_belongs hb with hown | hbelongs
  · exact hown.elim
  · cases hbelongs with
    | queues howner hall =>
      rw [(hall queue (Array.mem_of_getElem? hr)).2]
      exact ⟨_, record?_device_iff.2 ⟨rfl, howner⟩⟩

section Use

variable {history : List Event} {before after : Bridge} {handle : Handle} {queue : Queue}
  {submissions : Span (Submission (Option Handle))} {fence : NativeHandle} {trace : Trace} {code : ResultCode}

/-- The code that a call on a queue reports. -/
def Submission.reported : Except CallError ResultCode → ResultCode
  | .ok code => code
  | .error error => error.deviceResult

/-- To submit to a live queue is to submit to its native queue, with memory of its device. -/
theorem Submission.ends_of_submit [Reckoning] (hs : before.Sound) (hq : before.record? .queue handle = some queue)
    (hc : Counted submissions.toList) (hr : (submit (some handle) submissions fence).Runs before trace code after) :
    after = before ∧ ∃ device result, before.record? .device queue.device.toHandle = some device ∧
      Ends before queue.native device.allocator submissions.toList fence trace result ∧ code = reported result := by
  obtain ⟨device, hd⟩ := hs.device_of_queue hq
  unfold submit at hr
  obtain ⟨_, rfl, hlook⟩ := (hs.tagged.tells_resolve hq).runs_bind hr
  obtain ⟨_, rfl, hfind⟩ := (Action.tells_get before).runs_bind hlook
  rw [hd] at hfind
  rw [Action.runs_bind_iff] at hfind
  obtain ⟨submitting, _, result, _, rfl, hsubmit, hreport⟩ := hfind
  obtain ⟨rfl, hends⟩ := ends_of_submitTo hs.tagged hc hsubmit
  cases result with
  | ok answered =>
    obtain ⟨rfl, rfl, rfl⟩ := Action.runs_pure_iff.1 hreport
    exact ⟨rfl, device, _, hd, by simpa using hends, rfl⟩
  | error error =>
    obtain ⟨rfl, rfl, rfl⟩ := Action.runs_pure_iff.1 hreport
    exact ⟨rfl, device, _, hd, by simpa using hends, rfl⟩

/-- Where all entries are command buffers, the native queue gets the same submissions with native handles in their places,
and answers. A block is asked for only if there are command buffers, and what was had is given back. Where it cannot be had,
or an entry is null or of another kind, the native queue is not called. -/
theorem submitted_as_translated (h : Attains Event.Proper history before)
    (hq : before.record? .queue handle = some queue) (hc : Submission.Counted submissions.toList)
    (hr : (Submission.submit (some handle) submissions fence).Runs before trace code after) :
    after = before ∧
      (Submission.entries submissions.toList = [] → ∃ submitted,
        Submission.translatedAll? before submissions.toList = some submitted ∧
        trace = [.native (.submit queue.native submitted fence) code]) ∧
      (Submission.entries submissions.toList ≠ [] → ∃ device, before.record? .device queue.device.toHandle = some device ∧
        ((2 ^ 63 - 8 < Submission.needed submissions.toList ∧ code = .outOfHostMemory ∧ trace = []) ∨
        ∃ layout : Layout, layout.size.toNat = Submission.needed submissions.toList ∧ layout.alignment = 8 ∧
          ((code = .outOfHostMemory ∧ trace = device.allocator.asks layout .command none) ∨
          ∃ place : Address, (device.allocator.asks layout .command (some place)).length = 1 ∧
            (∀ submitted, Submission.translatedAll? before submissions.toList = some submitted →
              trace = device.allocator.lends layout .command place (.native (.submit queue.native submitted fence) code)) ∧
            ((∃ entry ∈ Submission.entries submissions.toList, before.Refuses .commandBuffer entry) →
              code = .deviceLost ∧ ∃ entry ∈ Submission.entries submissions.toList,
                before.Refuses .commandBuffer entry ∧
                trace = device.allocator.lends layout .command place
                  ⟨.notice (Bridge.refusal .commandBuffer entry), ()⟩)))) := by
  let _ : Reckoning := ⟨False⟩
  have hs : before.Sound := (h.settled_of_proper id).sound
  have hb := hs.tagged
  obtain ⟨rfl, device, result, hd, hends, rfl⟩ := Submission.ends_of_submit hs hq hc hr
  refine ⟨rfl, ?_, ?_⟩
  · intro hnone
    cases hends with
    | unchanged code _ =>
      have hlive : ∀ entry ∈ Submission.entries submissions.toList, (CommandBuffer.at? after entry).isSome := by
        rw [hnone]
        exact nofun
      exact ⟨_, Submission.translatedAll?_eq_some_iff.2 ⟨hlive, rfl⟩, rfl⟩
    | tooLarge hsome _ => exact absurd hnone hsome
    | scarce hsome _ => exact absurd hnone hsome
    | refused place entry _ _ hentry =>
      rw [hnone] at hentry
      cases hentry
    | submitted place code hsome _ _ _ => exact absurd hnone hsome
  · intro hsome
    refine ⟨device, hd, ?_⟩
    cases hends with
    | unchanged code hnone => exact absurd hnone hsome
    | tooLarge _ hlarge =>
      left
      exact ⟨hlarge, rfl, rfl⟩
    | scarce _ hfits =>
      right
      exact ⟨_, Submission.toNat_size_block hc hfits, rfl, .inl ⟨rfl, rfl⟩⟩
    | refused place entry hfits hone hentry =>
      right
      have hm := List.mem_of_find?_eq_some hentry
      have hinvalid : CommandBuffer.at? after entry = none := by simpa using List.find?_some hentry
      refine ⟨_, Submission.toNat_size_block hc hfits, rfl, .inr ⟨place, hone, ?_, ?_⟩⟩
      · intro submitted hsubmitted
        have hlive := (Submission.translatedAll?_eq_some_iff.1 hsubmitted).1 entry hm
        rw [hinvalid] at hlive
        cases hlive
      · intro _
        exact ⟨rfl, entry, hm, (CommandBuffer.refuses_iff hb).2 hinvalid, rfl⟩
    | submitted place code _ hfits hone hlive =>
      right
      refine ⟨_, Submission.toNat_size_block hc hfits, rfl, .inr ⟨place, hone, ?_, ?_⟩⟩
      · intro submitted hsubmitted
        obtain ⟨-, rfl⟩ := Submission.translatedAll?_eq_some_iff.1 hsubmitted
        rfl
      · rintro ⟨entry, hm, hrefused⟩
        have hthere := hlive entry hm
        rw [(CommandBuffer.refuses_iff hb).1 hrefused] at hthere
        cases hthere

end Use

namespace Sample

/-- Three submissions: one command buffer, none, and these. -/
def work (handles : List (Option Handle)) : List (Submission (Option Handle)) :=
  [⟨none, [some (member 1)], [(7, 1)], [8]⟩, ⟨some ⟨64⟩, [], [], [9]⟩, ⟨none, handles, [], []⟩]

/-- What it comes to, to submit them. -/
def submitting (bridge : Bridge) (handles : List (Option Handle)) : Trace × ResultCode × Bridge :=
  ((Submission.submit (some queue) (.present (work handles)) 5).run bridge).play .obliging 0

theorem runs_submitting (bridge : Bridge) (handles : List (Option Handle)) :
    (Submission.submit (some queue) (.present (work handles)) 5).Runs bridge (submitting bridge handles).1
      (submitting bridge handles).2.1 (submitting bridge handles).2.2 := Program.runs_play .obliging _ _

end Sample

/-- Three submissions reach the native queue, the one without command buffers among them. With a null at the end they do
not, and the block goes back. -/
theorem submitted_as_translated_crowd :
    Attains Event.Proper (session .obliging Sample.crowd).1 Sample.crowded ∧
    ∃ (queue : Queue) (device : Device), Sample.crowded.record? .queue Sample.queue = some queue ∧
      Sample.crowded.record? .device queue.device.toHandle = some device ∧
      (∃ (submitted : List (Submission NativeHandle)) (layout : Layout) (place : Address),
        Submission.Counted (Sample.work [some (Sample.member 2), some (Sample.member 0)]) ∧
        Submission.translatedAll? Sample.crowded (Sample.work [some (Sample.member 2), some (Sample.member 0)]) =
          some submitted ∧
        submitted.map (·.commandBuffers.length) = [1, 0, 2] ∧
        (Sample.submitting Sample.crowded [some (Sample.member 2), some (Sample.member 0)]).1 =
          device.allocator.lends layout .command place (.native (.submit queue.native submitted 5) .success)) ∧
      ∃ (layout : Layout) (place : Address) (entry : Option Handle),
        Submission.Counted (Sample.work [some (Sample.member 2), none]) ∧
        (Sample.submitting Sample.crowded [some (Sample.member 2), none]).2.1 = .deviceLost ∧
        (Sample.submitting Sample.crowded [some (Sample.member 2), none]).1 =
          device.allocator.lends layout .command place ⟨.notice (Bridge.refusal .commandBuffer entry), ()⟩ := by
  have hqueue : (Sample.crowded.record? .queue Sample.queue).isSome := by decide +kernel
  have hall : Submission.Counted (Sample.work [some (Sample.member 2), some (Sample.member 0)]) := by decide +kernel
  have hsuccess : (Sample.submitting Sample.crowded [some (Sample.member 2), some (Sample.member 0)]).2.1 = .success := by
    decide +kernel
  have htranslated :
      (Submission.translatedAll? Sample.crowded (Sample.work [some (Sample.member 2), some (Sample.member 0)])).map
        (·.map (·.commandBuffers.length)) = some [1, 0, 2] := by
    decide +kernel
  have hnull : Submission.Counted (Sample.work [some (Sample.member 2), none]) := by decide +kernel
  have hlost : (Sample.submitting Sample.crowded [some (Sample.member 2), none]).2.1 = .deviceLost := by decide +kernel
  have hsome (handles : List (Option Handle)) : Submission.entries (Sample.work handles) ≠ [] := by simp [Sample.work]
  have hattains := Sample.attains_crowd
  refine ⟨hattains, ?_⟩
  -- From here on it does not matter which state this is.
  generalize Sample.crowded = bridge at *
  obtain ⟨queue, hq⟩ := Option.isSome_iff_exists.1 hqueue
  obtain ⟨submitted, hsubmitted, hlengths⟩ := Option.map_eq_some_iff.1 htranslated
  obtain ⟨device, hd, ⟨-, hcode, -⟩ | ⟨layout, -, -, ⟨hcode, -⟩ | ⟨place, -, hsent, -⟩⟩⟩ :=
    (submitted_as_translated hattains hq (show Submission.Counted (Span.present (Sample.work _)).toList from hall)
      (Sample.runs_submitting bridge _)).2.2 (hsome _)
  · exact absurd (hsuccess.symm.trans hcode) (by decide)
  · exact absurd (hsuccess.symm.trans hcode) (by decide)
  have ht := hsent submitted hsubmitted
  rw [hsuccess] at ht
  obtain ⟨device', hd', ⟨-, hcode, -⟩ | ⟨layout', -, -, ⟨hcode, -⟩ | ⟨place', -, -, hgiven⟩⟩⟩ :=
    (submitted_as_translated hattains hq (show Submission.Counted (Span.present (Sample.work _)).toList from hnull)
      (Sample.runs_submitting bridge _)).2.2 (hsome _)
  · exact absurd (hlost.symm.trans hcode) (by decide)
  · exact absurd (hlost.symm.trans hcode) (by decide)
  obtain rfl := Option.some.inj (hd.symm.trans hd')
  obtain ⟨-, entry, -, -, ht'⟩ := hgiven ⟨none, by simp [Span.toList, Sample.work], nofun⟩
  exact ⟨queue, device, hq, hd, ⟨submitted, layout, place, hall, hsubmitted, hlengths, ht⟩,
    layout', place', entry, hnull, hlost, ht'⟩

end VulkanBridge
