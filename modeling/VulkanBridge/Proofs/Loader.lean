import VulkanBridge.Proofs.Environment
import VulkanBridge.Proofs.Transitions
/-!
# The words of the loader

The first word of every record belongs to the loader, which may write to it whenever it likes (`Bridge.load`). `Attains`
is a use of the driver during which the loader does so. Nothing that holds after every use depends on these words
(`Attains.settled`).
-/

namespace VulkanBridge

/-! ## Records that differ in the loader's word -/

/-- Two blocks whose records differ in the loader's words only. -/
def Block.Like : Block → Block → Prop
  | inst record, inst other => other = { record with header := other.header } ∧ other.header.tag = record.header.tag
  | physicalDevices records, physicalDevices others => others.size = records.size ∧
      ∀ (i : Nat) (record other), records[i]? = some record → others[i]? = some other →
        other = { record with header := other.header } ∧ other.header.tag = record.header.tag
  | device record, device other => other = { record with header := other.header } ∧ other.header.tag = record.header.tag
  | queues records, queues others => others.size = records.size ∧
      ∀ (i : Nat) (record other), records[i]? = some record → others[i]? = some other →
        other = { record with header := other.header } ∧ other.header.tag = record.header.tag
  | commandBuffer record, commandBuffer other =>
    other = { record with header := other.header } ∧ other.header.tag = record.header.tag
  | foreign header, foreign other => other.tag = header.tag
  | _, _ => False

namespace Block

variable {block other : Block} {address : Address} {header : Header} {slot : Nat}

theorem Like.refl (block : Block) : block.Like block := by
  cases block with
  | inst _ | device _ | commandBuffer _ => exact ⟨rfl, rfl⟩
  | physicalDevices _ | queues _ =>
    refine ⟨rfl, fun i record other hr ho => ?_⟩
    obtain rfl := Option.some.inj (hr.symm.trans ho)
    exact ⟨rfl, rfl⟩
  | foreign _ => rfl

/-- A record with another header of the same tag. -/
theorem like_setHeader (h : block.header? slot = some header) (word : UInt64) :
    block.Like (block.setHeader { header with loader := word } slot) := by
  cases block with
  | inst record | device record | commandBuffer record =>
    cases slot with
    | zero =>
      obtain rfl := Option.some.inj h
      exact ⟨rfl, rfl⟩
    | succ => cases h
  | physicalDevices records | queues records =>
    refine ⟨Array.size_modify .., fun i record other hr ho => ?_⟩
    rw [Array.getElem?_modify] at ho
    by_cases he : slot = i
    · subst he
      obtain rfl : record.header = header := by simpa [header?, hr] using h
      rw [if_pos rfl, hr] at ho
      obtain rfl := Option.some.inj ho
      exact ⟨rfl, rfl⟩
    · rw [if_neg he, hr] at ho
      obtain rfl := Option.some.inj ho
      exact ⟨rfl, rfl⟩
  | foreign found =>
    cases slot with
    | zero =>
      obtain rfl := Option.some.inj h
      rfl
    | succ => cases h

theorem Like.isPart (h : block.Like other) : other.IsPart ↔ block.IsPart := by
  cases block <;> cases other <;> first | exact h.elim | exact Iff.rfl

theorem Like.symm (h : block.Like other) : other.Like block := by
  cases block <;> cases other
  case inst.inst | device.device | commandBuffer.commandBuffer =>
    refine ⟨?_, h.2.symm⟩
    rw [h.1]
  case physicalDevices.physicalDevices records others | queues.queues records others =>
    refine ⟨h.1.symm, fun i record other hr ho => ?_⟩
    obtain ⟨heq, ht⟩ := h.2 i other record ho hr
    refine ⟨?_, ht.symm⟩
    rw [heq]
  case foreign.foreign => exact h.symm
  all_goals exact h.elim

theorem Like.inst {record : Instance} (h : (Block.inst record).Like other) :
    ∃ header : Header, other = .inst { record with header } ∧ header.tag = record.header.tag := by
  cases other with
  | inst found => exact ⟨found.header, congrArg Block.inst h.1, h.2⟩
  | _ => exact h.elim

theorem Like.device {record : Device} (h : (Block.device record).Like other) :
    ∃ header : Header, other = .device { record with header } ∧ header.tag = record.header.tag := by
  cases other with
  | device found => exact ⟨found.header, congrArg Block.device h.1, h.2⟩
  | _ => exact h.elim

theorem Like.commandBuffer {record : CommandBuffer} (h : (Block.commandBuffer record).Like other) :
    ∃ header : Header, other = .commandBuffer { record with header } ∧ header.tag = record.header.tag := by
  cases other with
  | commandBuffer found => exact ⟨found.header, congrArg Block.commandBuffer h.1, h.2⟩
  | _ => exact h.elim

/-- Whatever holds of records at the same place relates each record of one array to one of the other. -/
theorem exists_record_of_places {ρ : Type} {like : ρ → ρ → Prop} {records others : Array ρ} (hs : others.size = records.size)
    (h : ∀ (i : Nat) (record other), records[i]? = some record → others[i]? = some other → like record other) {found : ρ}
    (hm : found ∈ others) : ∃ record ∈ records, like record found := by
  obtain ⟨i, hi, rfl⟩ := Array.mem_iff_getElem.1 hm
  have hi' : i < records.size := hs ▸ hi
  exact ⟨records[i], Array.getElem_mem hi', h i _ _ (Array.getElem?_eq_getElem hi') (Array.getElem?_eq_getElem hi)⟩

theorem Like.physicalDevices {records : Array PhysicalDevice} (h : (Block.physicalDevices records).Like other) :
    ∃ others : Array PhysicalDevice, other = .physicalDevices others ∧ others.size = records.size ∧
      ∀ found ∈ others, ∃ record ∈ records,
        found = { record with header := found.header } ∧ found.header.tag = record.header.tag := by
  cases other with
  | physicalDevices others => exact ⟨others, rfl, h.1, fun _ => exists_record_of_places h.1 h.2⟩
  | _ => exact h.elim

theorem Like.queues {records : Array Queue} (h : (Block.queues records).Like other) :
    ∃ others : Array Queue, other = .queues others ∧ others.size = records.size ∧
      ∀ found ∈ others, ∃ record ∈ records,
        found = { record with header := found.header } ∧ found.header.tag = record.header.tag := by
  cases other with
  | queues others => exact ⟨others, rfl, h.1, fun _ => exists_record_of_places h.1 h.2⟩
  | _ => exact h.elim

theorem Like.parts (h : block.Like other) : other.parts = block.parts := by
  cases block <;> cases other
  case inst.inst => rw [h.1]; rfl
  case device.device => rw [h.1]; rfl
  all_goals first | exact h.elim | rfl

theorem Like.owned (h : block.Like other) (address : Address) : other.owned address = block.owned address := by
  cases block <;> cases other
  case inst.inst => rw [h.1]; rfl
  case device.device => rw [h.1]; rfl
  all_goals first | exact h.elim | rfl

end Block

/-- Two states that differ in the loader's words only. -/
structure Bridge.Like (bridge after : Bridge) : Prop where
  found : ∀ (address : Address) (block : Block), bridge.blocks[address]? = some block →
    ∃ other, after.blocks[address]? = some other ∧ block.Like other
  origin : ∀ (address : Address) (other : Block), after.blocks[address]? = some other →
    ∃ block, bridge.blocks[address]? = some block ∧ block.Like other
  owned : after.owned = bridge.owned

namespace Bridge

/-- The state once the loader has written a word into a record. -/
def load (bridge : Bridge) (handle : Handle) (word : UInt64) : Bridge :=
  match bridge.header? handle with
  | none => bridge
  | some header => bridge.setHeader handle { header with loader := word }

variable {bridge after : Bridge} {owner address : Address}

namespace Like

theorem refl (bridge : Bridge) : bridge.Like bridge where
  found _ block hb := ⟨block, hb, .refl block⟩
  origin _ block hb := ⟨block, hb, .refl block⟩
  owned := rfl

theorem put {block other : Block} (hb : bridge.blocks[address]? = some block) (h : block.Like other) :
    bridge.Like (bridge.put address other) where
  -- The records agree at the place that is written to, and are the same at all others.
  found place found hfound := by
    by_cases he : place = address
    · subst he
      obtain rfl := Option.some.inj (hb.symm.trans hfound)
      exact ⟨other, blocks_put_self, h⟩
    · exact ⟨found, (blocks_put he).trans hfound, .refl found⟩
  origin place found hfound := by
    by_cases he : place = address
    · subst he
      rw [blocks_put_self] at hfound
      obtain rfl := Option.some.inj hfound
      exact ⟨block, hb, h⟩
    · exact ⟨found, (blocks_put he).symm.trans hfound, .refl found⟩
  owned := by
    have hrest : ((bridge.put address other).remove address).owned = (bridge.remove address).owned := by
      refine owned_congr fun place found _ => ?_
      by_cases he : place = address
      · rw [he, blocks_remove_self, blocks_remove_self]
      · rw [blocks_remove he, blocks_remove he, blocks_put he]
    rw [owned_eq _ address, owned_eq bridge address, hrest, ownedAt_of_some blocks_put_self, ownedAt_of_some hb, h.owned]

theorem load (bridge : Bridge) (handle : Handle) (word : UInt64) : bridge.Like (bridge.load handle word) := by
  unfold Bridge.load
  cases hh : bridge.header? handle with
  | none => exact .refl bridge
  | some header =>
    obtain ⟨block, hb, hheader⟩ := Option.bind_eq_some_iff.1 hh
    dsimp only
    rw [setHeader, hb]
    exact put hb (Block.like_setHeader hheader word)

/-- Where there is no record, the loader makes none. -/
theorem vacant (h : bridge.Like after) (hb : bridge.blocks[address]? = none) : after.blocks[address]? = none := by
  cases ha : after.blocks[address]? with
  | none => rfl
  | some other =>
    obtain ⟨block, hfound, -⟩ := h.origin address other ha
    rw [hb] at hfound
    cases hfound

theorem inst {record : Instance} (h : bridge.Like after) (hb : bridge.blocks[address]? = some (.inst record)) :
    ∃ header : Header, after.blocks[address]? = some (.inst { record with header }) := by
  obtain ⟨other, ho, hl⟩ := h.found address _ hb
  obtain ⟨header, rfl, -⟩ := hl.inst
  exact ⟨header, ho⟩

theorem device {record : Device} (h : bridge.Like after) (hb : bridge.blocks[address]? = some (.device record)) :
    ∃ header : Header, after.blocks[address]? = some (.device { record with header }) := by
  obtain ⟨other, ho, hl⟩ := h.found address _ hb
  obtain ⟨header, rfl, -⟩ := hl.device
  exact ⟨header, ho⟩

theorem partsAt (h : bridge.Like after) (owner : Address) : after.partsAt owner = bridge.partsAt owner := by
  cases hb : bridge.blocks[owner]? with
  | some block =>
    obtain ⟨other, ho, hl⟩ := h.found owner block hb
    rw [partsAt_of_some hb, partsAt_of_some ho, hl.parts]
  | none => rw [partsAt_of_none hb, partsAt_of_none (h.vacant hb)]

theorem symm (h : bridge.Like after) : after.Like bridge where
  found address block hb := by
    obtain ⟨other, ho, hl⟩ := h.origin address block hb
    exact ⟨other, ho, hl.symm⟩
  origin address other ho := by
    obtain ⟨block, hb, hl⟩ := h.found address other ho
    exact ⟨block, hb, hl.symm⟩
  owned := h.owned.symm

end Like

end Bridge

/-! ## What does not depend on the words -/

section Like

variable {bridge after : Bridge} {live : List Object}

variable [Reckoning]

theorem Instance.Sound.like {address : Address} {record : Instance} {header : Header} (h : record.Sound bridge address)
    (hl : bridge.Like after) (ht : header.tag = record.header.tag) :
    Instance.Sound after address { record with header } where
  tag := ht.trans h.tag
  free := h.free
  capacity := h.capacity
  listed array harray := by
    obtain ⟨records, hrecords, hall⟩ := h.listed array harray
    obtain ⟨other, hother, hlike⟩ := hl.found array.block _ hrecords
    obtain ⟨others, rfl, -, hsame⟩ := hlike.physicalDevices
    refine ⟨others, hother, fun found hm => ?_⟩
    obtain ⟨old, hold, heq, ht⟩ := hsame found hm
    rw [heq]
    exact ⟨ht.trans (hall old hold).1, (hall old hold).2⟩

theorem Device.Sound.like {address : Address} {record : Device} {header : Header} (h : record.Sound bridge address)
    (hl : bridge.Like after) (ht : header.tag = record.header.tag) :
    Device.Sound after address { record with header } where
  tag := ht.trans h.tag
  free := h.free
  few := h.few
  familyBlock := h.familyBlock
  queues := h.queues
  queueBlocks family hfamily block hblock := by
    obtain ⟨records, hrecords, hall⟩ := h.queueBlocks family hfamily block hblock
    obtain ⟨other, hother, hlike⟩ := hl.found block _ hrecords
    obtain ⟨others, rfl, -, hsame⟩ := hlike.queues
    refine ⟨others, hother, fun found hm => ?_⟩
    obtain ⟨old, hold, heq, ht⟩ := hsame found hm
    rw [heq]
    exact ⟨ht.trans (hall old hold).1, (hall old hold).2⟩
  pools := h.pools
  fences := h.fences
  commandBuffers pool block hm := by
    obtain ⟨record, hrecord, htag, hpool, hdevice⟩ := h.commandBuffers pool block hm
    obtain ⟨other, hother, hlike⟩ := hl.found block _ hrecord
    obtain ⟨header, rfl, ht⟩ := hlike.commandBuffer
    exact ⟨_, hother, ht.trans htag, hpool, hdevice⟩
  counted := h.counted

theorem Bridge.Sound.like (h : bridge.Sound) (hl : bridge.Like after) : after.Sound := by
  intro address other hother
  obtain ⟨block, hb, hlike⟩ := hl.origin address other hother
  have hs := h address block hb
  obtain ho | ⟨hp, owner, hm⟩ := hs.owner_or_part
  · cases block with
    | inst record =>
      obtain ⟨header, rfl, ht⟩ := hlike.inst
      exact Instance.Sound.like hs hl ht
    | device record =>
      obtain ⟨header, rfl, ht⟩ := hlike.device
      exact Device.Sound.like hs hl ht
    | _ => exact ho.elim
  · exact .of_part owner (hlike.isPart.2 hp) ((hl.partsAt owner).symm ▸ hm)

omit [Reckoning] in
theorem Matches.like {address : Address} {objects : Multiset Object} {block other : Block}
    (h : block.Like other) (hm : Matches address (some block) objects) : Matches address (some other) objects := by
  cases block with
  | inst record =>
    obtain ⟨header, rfl, -⟩ := h.inst
    exact hm
  | device record =>
    obtain ⟨header, rfl, -⟩ := h.device
    have hm : record.Matches address objects := hm
    exact ⟨hm.device, hm.noInst, hm.commandBuffers, hm.references, hm.fences⟩
  | _ => cases other <;> first | exact h.elim | exact hm

omit [Reckoning] in
theorem Agrees.like (h : Agrees bridge live) (hl : bridge.Like after) : Agrees after live where
  owners := h.owners
  places address := by
    have hm := h.places address
    cases hb : bridge.blocks[address]? with
    | some block =>
      obtain ⟨other, ho, hlike⟩ := hl.found address block hb
      rw [hb] at hm
      rw [ho]
      exact Matches.like hlike hm
    | none => rwa [hl.vacant hb, ← hb]

omit [Reckoning] in
theorem Bridge.Full.like (h : bridge.Full) (hl : bridge.Like after) : after.Full where
  physicalDevices owner record array records hb harray hrecords := by
    obtain ⟨header, hold⟩ := hl.symm.inst hb
    obtain ⟨other, hother, hlike⟩ := hl.symm.found array.block _ hrecords
    obtain ⟨others, rfl, hsize, -⟩ := hlike.physicalDevices
    exact hsize ▸ h.physicalDevices owner _ array others hold harray hother
  queues owner device family block records hb hfamily hblock hrecords := by
    obtain ⟨header, hold⟩ := hl.symm.device hb
    obtain ⟨other, hother, hlike⟩ := hl.symm.found block _ hrecords
    obtain ⟨others, rfl, hsize, -⟩ := hlike.queues
    exact hsize ▸ h.queues owner _ family block others hold hfamily hblock hother

/-- The invariant does not depend on the loader's words. -/
theorem Invariant.like {history : List Event} (h : Invariant history bridge) (hl : bridge.Like after) :
    Invariant history after where
  sound := h.sound.like hl
  accounts := hl.owned ▸ h.accounts
  occupies := hl.owned ▸ h.occupies
  quiet := h.quiet
  agrees := h.agrees.like hl

end Like

/-! ## Uses in which the loader writes -/

/-- A use leads from the initial state to this one, each of its events admitted after those before it, while the loader
writes into records as it likes. -/
inductive Attains (Admits : List Event → Event → Prop) : List Event → Bridge → Prop
  | initial : Attains Admits [] .initial
  | step {history : List Event} {before after : Bridge} {event : Event} :
      Attains Admits history before → Admits history event → event.Leads before after →
        Attains Admits (event :: history) after
  | load {history : List Event} {before : Bridge} (handle : Handle) (word : UInt64) :
      Attains Admits history before → Attains Admits history (before.load handle word)

theorem Reaches.attains {Admits : List Event → Event → Prop} {history : List Event} {bridge : Bridge}
    (h : Reaches Admits history bridge) : Attains Admits history bridge := by
  induction h with
  | initial => exact .initial
  | step _ ha hl ih => exact .step ih ha hl

/-- A use goes on from a state, with later events, while the loader writes into records as it likes. -/
inductive Continues (Admits : List Event → Event → Prop) (history : List Event) (bridge : Bridge) :
    List Event → Bridge → Prop
  | here : Continues Admits history bridge [] bridge
  | step {later : List Event} {before after : Bridge} {event : Event} :
      Continues Admits history bridge later before → Admits (later ++ history) event → event.Leads before after →
        Continues Admits history bridge (event :: later) after
  | load {later : List Event} {before : Bridge} (handle : Handle) (word : UInt64) :
      Continues Admits history bridge later before →
        Continues Admits history bridge later (before.load handle word)

theorem Attains.continues {Admits : List Event → Event → Prop} {history later : List Event} {bridge after : Bridge}
    (h : Attains Admits history bridge) (hc : Continues Admits history bridge later after) :
    Attains Admits (later ++ history) after := by
  induction hc with
  | here => exact h
  | step _ ha hl ih => exact .step ih ha hl
  | load handle word _ ih => exact .load handle word ih

/-- Calls that make proper events in an environment are such a use. -/
theorem attains_session {environment : Environment} {calls : List Call}
    (h : Admitted Event.ProperForSure (session environment calls).1) :
    Attains Event.Proper (session environment calls).1 (session environment calls).2 :=
  ((reaches_session environment h).mono fun _ _ => Event.ProperForSure.proper).attains

theorem Sample.attains_crowd : Attains Event.Proper (session .obliging crowd).1 crowded :=
  attains_session (by decide +kernel)

/-- The invariant, and arrays that are as long as they ought to be. -/
structure Settled [Reckoning] (history : List Event) (bridge : Bridge) : Prop extends Invariant history bridge where
  full : bridge.Full

section Attains

variable [Reckoning] {history : List Event} {bridge after : Bridge} {event : Event}

/-- What a proper event does after such a use. -/
theorem Settled.proceeds (h : Settled history bridge) (ha : event.Proper history)
    (hc : ∀ set ∈ event.call.explicit?, set.Returns) (hl : event.Leads bridge after) :
    ∃ owner natives, Outcome bridge owner event after ∧ bridge.Keeps owner event.trace natives after ∧
      bridge.Transition after := by
  have hp := ha.permitted h.agrees hc
  obtain ⟨owner, natives, ho, hk⟩ := h.outcome hp ha.fresh hl
  exact ⟨owner, natives, ho, hk, h.transition ho hk hp ha.fresh hl⟩

/-- What holds after every use of proper events, whatever the loader writes. -/
theorem Attains.settled {Admits : List Event → Event → Prop} (h : Attains Admits history bridge)
    (hp : ∀ history event, Admits history event → event.Proper history)
    (hc : ∀ history event, Admits history event → ∀ set ∈ event.call.explicit?, set.Returns) :
    Settled history bridge := by
  induction h with
  | initial => exact ⟨.initial, .initial⟩
  | step _ ha hl ih =>
    obtain ⟨owner, natives, ho, hk, ht⟩ := ih.proceeds (hp _ _ ha) (hc _ _ ha) hl
    exact ⟨ih.step ho (hp _ _ ha).fresh hk, ih.full.step ih.sound ht⟩
  | @load _ before handle word _ ih =>
    have hl := Bridge.Like.load before handle word
    exact ⟨ih.like hl, ih.full.like hl⟩

/-- Where nobody asks whether memory comes back, it is enough that events are proper. -/
theorem Attains.settled_of_proper (h : Attains Event.Proper history bridge) (hn : ¬Reckoning.strict) :
    Settled history bridge :=
  h.settled (fun _ _ => id) fun _ _ _ _ _ hs => absurd hs hn

theorem Settled.proceeds_of_proper (h : Settled history bridge) (hn : ¬Reckoning.strict) (ha : event.Proper history)
    (hl : event.Leads bridge after) :
    ∃ owner natives, Outcome bridge owner event after ∧ bridge.Keeps owner event.trace natives after ∧
      bridge.Transition after :=
  h.proceeds ha (fun _ _ hs => absurd hs hn) hl

/-- What proper events of some sort keep, each leaving something alone, and what does not depend on the loader's words, holds
on however a use goes on with such events. -/
theorem Continues.preserves (Holds : Bridge → Prop) (Suits Leaves : Event → Prop) {later : List Event} {before between : Bridge}
    (hn : ¬Reckoning.strict) (h : Attains Event.Proper history before)
    (hc : Continues Event.Proper history before later between) (hfirst : Holds before)
    (hstep : ∀ {earlier : List Event} {bridge after : Bridge} {event : Event} {owner : Address} {natives : Trace},
      Settled earlier bridge → event.Proper earlier → event.Leads bridge after → Outcome bridge owner event after →
        bridge.Keeps owner event.trace natives after → bridge.Transition after → Suits event → Holds bridge →
          Holds after ∧ Leaves event)
    (hlike : ∀ {bridge after : Bridge}, bridge.Like after → Holds bridge → Holds after)
    (hlater : ∀ event ∈ later, Suits event) : Holds between ∧ ∀ event ∈ later, Leaves event := by
  induction hc with
  | here => exact ⟨hfirst, List.forall_mem_nil _⟩
  | step hc ha hl ih =>
    obtain ⟨hevent, hlater⟩ := List.forall_mem_cons.1 hlater
    obtain ⟨hbetween, hleft⟩ := ih hlater
    have hs := (h.continues hc).settled_of_proper hn
    obtain ⟨owner, natives, ho, hk, ht⟩ := hs.proceeds_of_proper hn ha hl
    obtain ⟨hafter, hleaves⟩ := hstep hs ha hl ho hk ht hevent hbetween
    exact ⟨hafter, List.forall_mem_cons.2 ⟨hleaves, hleft⟩⟩
  | load handle word _ ih =>
    obtain ⟨hbetween, hleft⟩ := ih hlater
    exact ⟨hlike (.load ..) hbetween, hleft⟩

end Attains

end VulkanBridge
