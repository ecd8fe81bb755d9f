import VulkanBridge.Proofs.CommandBuffers
import VulkanBridge.Proofs.Loader
import VulkanBridge.Proofs.Tags
/-!
# Executing secondary command buffers

A command buffer that executes others looks at all of them before it sends the first. If each of them is a command
buffer, their native handles reach the native driver in order, in as few calls as can be. If one is not, no call is made,
and the log is told the place of the first that is not.
-/

namespace VulkanBridge

/-- A list goes over to another if each of its items does, and then item by item. -/
theorem mapM_eq_some_iff {α β : Type} {items : List α} {values : List β} {f : α → Option β} {p : α → Prop} {g : α → β}
    (hf : ∀ item value, f item = some value ↔ p item ∧ value = g item) :
    items.mapM f = some values ↔ (∀ item ∈ items, p item) ∧ values = items.map g := by
  induction items generalizing values with
  | nil => simp [eq_comm]
  | cons item rest ih =>
    simp only [List.mapM_cons, Option.bind_eq_bind, Option.bind_eq_some_iff, hf, ih, List.forall_mem_cons, List.map_cons]
    constructor
    · rintro ⟨_, ⟨hitem, rfl⟩, _, ⟨hrest, rfl⟩, ⟨⟩⟩
      exact ⟨⟨hitem, hrest⟩, rfl⟩
    · rintro ⟨⟨hitem, hrest⟩, rfl⟩
      exact ⟨_, ⟨hitem, rfl⟩, _, ⟨hrest, rfl⟩, rfl⟩

namespace CommandBuffer

variable {bridge after : Bridge} {trace : Trace} {handle : Option Handle} {handles : List (Option Handle)}

/-- The native command buffers that a list stands for, if none of its entries is invalid. -/
def nativesAt? (bridge : Bridge) (handles : List (Option Handle)) : Option (List NativeHandle) :=
  handles.mapM fun handle => (at? bridge handle).map (·.native)

theorem nativesAt?_eq_some_iff {natives : List NativeHandle} : nativesAt? bridge handles = some natives ↔
    (∀ entry ∈ handles, (at? bridge entry).isSome) ∧ natives = handles.map (nativeOrNull bridge) := by
  refine mapM_eq_some_iff fun handle native => ?_
  rw [nativeOrNull]
  cases at? bridge handle with
  | none => simp
  | some found => simp [eq_comm]

/-- There is no invalid entry if all are command buffers. -/
theorem find?_invalid_eq_none_iff : handles.find? (fun entry => (at? bridge entry).isNone) = none ↔
    ∀ entry ∈ handles, (at? bridge entry).isSome := by
  simp [List.find?_eq_none, Option.isSome_iff_ne_none]

/-! ## One entry -/

theorem refuses_iff (hb : bridge.Tagged) : bridge.Refuses .commandBuffer handle ↔ at? bridge handle = none :=
  hb.refuses_iff handle

theorem tells_resolve {found : CommandBuffer} (hb : bridge.Tagged) (h : at? bridge handle = some found) :
    ∃ accepted, (resolve .commandBuffer handle).Tells bridge [] (.ok (accepted, found)) := by
  obtain ⟨accepted, rfl, hrec⟩ := Option.bind_eq_some_iff.1 h
  exact ⟨accepted, hb.tells_resolve hrec⟩

theorem tells_validate (hb : bridge.Tagged) (h : (at? bridge handle).isSome) :
    ∃ accepted, (validate .commandBuffer handle).Tells bridge [] (.ok accepted) := by
  obtain ⟨found, hat⟩ := Option.isSome_iff_exists.1 h
  obtain ⟨accepted, rfl, hrec⟩ := Option.bind_eq_some_iff.1 hat
  exact ⟨accepted, Bridge.tells_validate ((hb.accepts_iff accepted).2 (by rw [hrec]; rfl))⟩

theorem tells_nativeOf (hb : bridge.Tagged) (h : (at? bridge handle).isSome) :
    (nativeOf handle).Tells bridge [] (nativeOrNull bridge handle) := by
  obtain ⟨found, hat⟩ := Option.isSome_iff_exists.1 h
  obtain ⟨accepted, ht⟩ := tells_resolve hb hat
  rw [nativeOrNull, hat]
  exact ht.bind (Action.tells_pure bridge _)

/-! ## All entries -/

/-- The first pass finds the first entry that is not a command buffer, and tells the log of that one only. -/
theorem tells_firstInvalid? (hb : bridge.Tagged) (index : Nat) (handles : List (Option Handle)) :
    (firstInvalid? index handles).Tells bridge
      ((handles.find? fun entry => (at? bridge entry).isNone).toList.map (Bridge.refusal .commandBuffer))
      ((handles.findIdx? fun entry => (at? bridge entry).isNone).map (index + ·)) := by
  induction handles generalizing index with
  | nil => exact Action.tells_pure bridge none
  | cons entry rest ih =>
    cases hat : at? bridge entry with
    | none =>
      rw [List.find?_cons_of_pos (by rw [hat]; rfl), List.findIdx?_cons, hat]
      exact ((refuses_iff hb).2 hat).tells_validate.bind (Action.tells_pure bridge (some index))
    | some found =>
      obtain ⟨accepted, ht⟩ := tells_validate hb (by rw [hat]; rfl : (at? bridge entry).isSome)
      have hplace : (index + 1 + ·) = (index + ·) ∘ (· + 1) := by
        funext i
        simp only [Function.comp_apply]
        omega
      have hrest := ih (index + 1)
      rw [hplace, ← Option.map_map] at hrest
      rw [List.find?_cons_of_neg (by rw [hat]; simp), List.findIdx?_cons, hat]
      exact ht.bind hrest

/-- The second pass sends what the entries stand for. -/
theorem runs_executeEach {native : NativeHandle} {batches : List (List (Option Handle))} {result : Unit}
    (hb : bridge.Tagged) (hv : ∀ batch ∈ batches, ∀ entry ∈ batch, (at? bridge entry).isSome)
    (h : (executeEach native batches).Runs bridge trace result after) :
    after = bridge ∧
      trace = batches.map fun batch => .native (.execute native (batch.map (nativeOrNull bridge))) () := by
  induction batches generalizing trace with
  | nil =>
    obtain ⟨rfl, -, rfl⟩ := Action.runs_pure_iff.1 h
    exact ⟨rfl, rfl⟩
  | cons batch rest ih =>
    obtain ⟨hbatch, hrest⟩ := List.forall_mem_cons.1 hv
    have htells := Action.Tells.mapM fun entry he => tells_nativeOf hb (hbatch entry he)
    obtain ⟨_, rfl, hsend⟩ := htells.runs_bind h
    rw [Action.runs_bind_iff] at hsend
    obtain ⟨sending, later, _, between, rfl, hsent, hlast⟩ := hsend
    obtain ⟨hnative, rfl⟩ := Action.runs_lift_iff.1 hsent
    obtain rfl := Program.runs_native_iff.1 hnative
    obtain ⟨rfl, rfl⟩ := ih hrest hlast
    exact ⟨rfl, by simp⟩

/-- All or nothing is executed. -/
theorem runs_execute_live {secondaries : Span (Option Handle)} {found : CommandBuffer} {result : Unit} (hb : bridge.Tagged)
    (hat : at? bridge handle = some found) (h : (execute handle secondaries).Runs bridge trace result after) :
    after = bridge ∧
      ((∃ natives, nativesAt? bridge secondaries.toList = some natives ∧
          trace = (batches Platform.batchSize natives).map fun batch => .native (.execute found.native batch) ()) ∨
        ∃ (index : Nat) (hi : index < secondaries.toList.length),
          (secondaries.toList.findIdx? fun entry => (at? bridge entry).isNone) = some index ∧
            trace = [⟨.notice (Bridge.refusal .commandBuffer secondaries.toList[index]), ()⟩,
              ⟨.notice (.invalidSecondary index), ()⟩]) := by
  obtain ⟨accepted, ht⟩ := tells_resolve hb hat
  obtain ⟨_, rfl, hlook⟩ := ht.runs_bind h
  obtain ⟨last, rfl, hsend⟩ := (tells_firstInvalid? hb 0 secondaries.toList).runs_bind hlook
  cases hplace : secondaries.toList.findIdx? fun entry => (at? bridge entry).isNone with
  | none =>
    have hlive : ∀ entry ∈ secondaries.toList, (at? bridge entry).isSome := by
      simpa using List.findIdx?_eq_none_iff.1 hplace
    rw [hplace] at hsend
    rw [find?_invalid_eq_none_iff.2 hlive]
    rw [Option.map_none, executeBatches_eq (batched_batches (by decide) _).small] at hsend
    obtain ⟨rfl, rfl⟩ := runs_executeEach hb (fun batch hbatch entry he => hlive entry (by
      rw [← flatten_batches (by decide : 0 < Platform.batchSize) secondaries.toList]
      exact List.mem_flatten.2 ⟨batch, hbatch, he⟩)) hsend
    refine ⟨rfl, .inl ⟨_, nativesAt?_eq_some_iff.2 ⟨hlive, rfl⟩, ?_⟩⟩
    simp [batches_map]
  | some index =>
    obtain ⟨hi, hinvalid, hfirst⟩ := List.findIdx?_eq_some_iff_getElem.1 hplace
    have hfind : secondaries.toList.find? (fun entry => (at? bridge entry).isNone) = some secondaries.toList[index] :=
      List.find?_eq_some_iff_getElem.2 ⟨hinvalid, index, hi, rfl, fun j hj => by simpa [Option.isSome_iff_ne_none] using hfirst j hj⟩
    simp only [hplace, Option.map_some, Nat.zero_add] at hsend
    obtain ⟨htell, rfl⟩ := Action.runs_lift_iff.1 hsend
    obtain rfl := Program.runs_notice_iff.1 htell
    refine ⟨rfl, .inr ⟨index, hi, rfl, ?_⟩⟩
    rw [hfind]
    rfl

end CommandBuffer

section Use

variable {history : List Event} {before after : Bridge} {primary : Handle} {found : CommandBuffer}
  {secondaries : Span (Option Handle)} {trace : Trace}

/-- If all secondaries are command buffers, their native handles reach the native primary in batches, and nothing else
happens. If one is null or of another kind, the log hears of the first that is, and nothing else happens either. -/
theorem executed_whole_or_not_at_all (h : Attains Event.Proper history before)
    (hp : before.record? .commandBuffer primary = some found)
    (hr : (CommandBuffer.execute (some primary) secondaries).Runs before trace () after) :
    after = before ∧
      (∀ natives, CommandBuffer.nativesAt? before secondaries.toList = some natives →
        ∃ calls, Batched Platform.batchSize natives calls ∧
          trace = calls.map fun batch => .native (.execute found.native batch) ()) ∧
      ((∃ entry ∈ secondaries.toList, before.Refuses .commandBuffer entry) →
        ∃ (index : Nat) (hi : index < secondaries.toList.length),
          before.Refuses .commandBuffer secondaries.toList[index] ∧
          (∀ (earlier : Nat) (he : earlier < index), ¬before.Refuses .commandBuffer secondaries.toList[earlier]) ∧
          trace = [⟨.notice (Bridge.refusal .commandBuffer secondaries.toList[index]), ()⟩,
            ⟨.notice (.invalidSecondary index), ()⟩]) := by
  let _ : Reckoning := ⟨False⟩
  have hb : before.Tagged := (h.settled_of_proper id).sound.tagged
  have hat : CommandBuffer.at? before (some primary) = some found := hp
  obtain ⟨rfl, hends⟩ := CommandBuffer.runs_execute_live hb hat hr
  refine ⟨rfl, fun natives hnatives => ?_, ?_⟩
  · obtain ⟨natives', hnatives', rfl⟩ | ⟨index, hi, hplace, -⟩ := hends
    · obtain rfl := Option.some.inj (hnatives.symm.trans hnatives')
      exact ⟨_, batched_batches (by decide) natives, rfl⟩
    · have hlive := (CommandBuffer.nativesAt?_eq_some_iff.1 hnatives).1 _ (List.getElem_mem hi)
      have hinvalid := (List.findIdx?_eq_some_iff_getElem.1 hplace).2.1
      rw [Option.isNone_iff_eq_none.1 hinvalid] at hlive
      cases hlive
  · rintro ⟨entry, hm, hrefused⟩
    obtain ⟨natives, hnatives, -⟩ | ⟨index, hi, hplace, ht⟩ := hends
    · have hlive := (CommandBuffer.nativesAt?_eq_some_iff.1 hnatives).1 entry hm
      rw [(CommandBuffer.refuses_iff hb).1 hrefused] at hlive
      cases hlive
    · obtain ⟨_, hinvalid, hfirst⟩ := List.findIdx?_eq_some_iff_getElem.1 hplace
      refine ⟨index, hi, (CommandBuffer.refuses_iff hb).2 (Option.isNone_iff_eq_none.1 hinvalid), fun earlier he hearlier => ?_, ht⟩
      exact hfirst earlier he (Option.isNone_iff_eq_none.2 ((CommandBuffer.refuses_iff hb).1 hearlier))

end Use

namespace Sample

/-- All but the first of the forty. -/
def others : List (Option Handle) := (List.range 39).map fun number => some (member (number + 1))

/-- What executing these secondaries comes to. -/
def execution (secondaries : List (Option Handle)) : Trace × Unit × Bridge :=
  ((CommandBuffer.execute (some (member 0)) (.present secondaries)).run crowded).play .obliging 0

theorem runs_execution (secondaries : List (Option Handle)) :
    (CommandBuffer.execute (some (member 0)) (.present secondaries)).Runs crowded (execution secondaries).1 ()
      (execution secondaries).2.2 := Program.runs_play .obliging _ _

end Sample

/-- Thirty-nine secondaries take two calls. With a device after them and a null at the end, there is no call at all. -/
theorem executed_whole_or_not_at_all_crowd :
    Attains Event.Proper (session .obliging Sample.crowd).1 Sample.crowded ∧
    (∃ found natives, ∃ calls : List (List NativeHandle),
      Sample.crowded.record? .commandBuffer (Sample.member 0) = some found ∧
      CommandBuffer.nativesAt? Sample.crowded Sample.others = some natives ∧ calls.length = 2 ∧
      (Sample.execution Sample.others).1 = calls.map fun batch => .native (.execute found.native batch) ()) ∧
    Sample.crowded.Refuses .commandBuffer (some Sample.device) ∧
    ∃ index entry, (Sample.execution (Sample.others ++ [some Sample.device, none])).1 =
      [⟨.notice (Bridge.refusal .commandBuffer entry), ()⟩, ⟨.notice (.invalidSecondary index), ()⟩] := by
  have hfound : (Sample.crowded.record? .commandBuffer (Sample.member 0)).isSome := by decide +kernel
  have hlive : (CommandBuffer.nativesAt? Sample.crowded Sample.others).isSome := by decide +kernel
  obtain ⟨found, hfound⟩ := Option.isSome_iff_exists.1 hfound
  obtain ⟨natives, hnatives⟩ := Option.isSome_iff_exists.1 hlive
  have hrefused : Sample.crowded.Refuses .commandBuffer (some Sample.device) := by
    rintro _ ⟨rfl⟩
    decide +kernel
  obtain ⟨-, hall, -⟩ :=
    executed_whole_or_not_at_all Sample.attains_crowd hfound (Sample.runs_execution Sample.others)
  obtain ⟨-, -, hnone⟩ := executed_whole_or_not_at_all Sample.attains_crowd hfound
    (Sample.runs_execution (Sample.others ++ [some Sample.device, none]))
  obtain ⟨calls, hcalls, ht⟩ := hall natives hnatives
  obtain ⟨index, _, -, -, ht'⟩ := hnone ⟨some Sample.device, List.mem_append_right _ (List.mem_cons_self ..), hrefused⟩
  refine ⟨Sample.attains_crowd, ⟨found, natives, calls, hfound, hnatives, ?_, ht⟩, hrefused, index, _, ht'⟩
  have hlength := congrArg List.length (CommandBuffer.nativesAt?_eq_some_iff.1 hnatives).2
  rw [List.length_map] at hlength
  rw [hcalls.few, hlength]
  decide

end VulkanBridge
