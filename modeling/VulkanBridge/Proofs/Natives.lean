import VulkanBridge.Proofs.NativeMemory
import Mathlib.Data.Multiset.Bind
/-!
# Objects of the native driver

A native driver keeps what it obtained for an object until the object is destroyed: it obtains memory through the
callbacks that come with the creation, and gives it back through those that come with the destruction
(`NativeDriver.Acts`). All goes well for the application if these two are callbacks of the same functions. `Exchange.Pairs`
says so of the exchanges alone, and `NativeDriver.balanced_of_pairs` what follows for every native driver.
-/

namespace VulkanBridge

/-- An object of the native driver; pools and fences go with a device. -/
inductive NativeObject where
  | inst (native : NativeHandle)
  | device (native : NativeHandle)
  | pool (device native : NativeHandle)
  | fence (device native : NativeHandle)
  deriving DecidableEq

/-- What happens to native objects in an exchange, with the callbacks that are handed over. -/
inductive Dealing where
  | created (object : NativeObject) (callbacks : Option NativeCallbacks)
  | refused (callbacks : Option NativeCallbacks)
  | destroyed (object : NativeObject) (callbacks : Option NativeCallbacks)

namespace Exchange

/-- What happens to native objects in the exchange. -/
def dealing? : Exchange → Option Dealing
  | ⟨.native (.createInstance _ callbacks), .ok native⟩ => some (.created (.inst native) callbacks)
  | ⟨.native (.createInstance _ callbacks), .error _⟩ => some (.refused callbacks)
  | ⟨.native (.destroyInstance native callbacks), _⟩ => some (.destroyed (.inst native) callbacks)
  | ⟨.native (.createDevice _ _ callbacks), .ok native⟩ => some (.created (.device native) callbacks)
  | ⟨.native (.createDevice _ _ callbacks), .error _⟩ => some (.refused callbacks)
  | ⟨.native (.destroyDevice native callbacks), _⟩ => some (.destroyed (.device native) callbacks)
  | ⟨.native (.createPool device _ callbacks), .ok native⟩ => some (.created (.pool device native) callbacks)
  | ⟨.native (.createPool _ _ callbacks), .error _⟩ => some (.refused callbacks)
  | ⟨.native (.destroyPool device native callbacks), _⟩ => some (.destroyed (.pool device native) callbacks)
  | ⟨.native (.createFence device _ callbacks), .ok native⟩ => some (.created (.fence device native) callbacks)
  | ⟨.native (.createFence _ _ callbacks), .error _⟩ => some (.refused callbacks)
  | ⟨.native (.destroyFence device native callbacks), _⟩ => some (.destroyed (.fence device native) callbacks)
  | _ => none

variable {exchange : Exchange}

theorem dealing?_of_not_lifecycle (h : exchange.isLifecycle = false) : exchange.dealing? = none := by
  unfold dealing?
  split <;> first | rfl | cases h

end Exchange

/-! ## Creations and destructions in pairs -/

/-- Native objects, each with the callbacks that those of its creation stand for, if it was created with some. -/
abbrev Roster := Multiset (NativeObject × Option Callbacks)

/-- Each object is there once, and its callbacks are complete. -/
structure Roster.Sound (roster : Roster) : Prop where
  nodup : (roster.map Prod.fst).Nodup
  complete : ∀ entry ∈ roster, ∀ callbacks ∈ entry.2, callbacks.Complete

/-- The exchange creates an object that is not there yet, with complete callbacks, or fails to; or it destroys an object
with callbacks of the same functions as those of its creation; or it leaves the objects as they are. -/
def Exchange.Pairs (before : Roster) (exchange : Exchange) (after : Roster) : Prop :=
  match exchange.dealing? with
  | some (.created object callbacks) =>
    object ∉ before.map Prod.fst ∧ (∀ handed ∈ callbacks, handed.target.Complete) ∧
      (object, callbacks.map (·.target)) ::ₘ before = after
  | some (.refused callbacks) => (∀ handed ∈ callbacks, handed.target.Complete) ∧ before = after
  | some (.destroyed object callbacks) => before = (object, callbacks.map (·.target)) ::ₘ after
  | none => before = after

theorem Roster.sound_zero : Roster.Sound 0 := ⟨Multiset.nodup_zero, fun _ h => absurd h (Multiset.notMem_zero _)⟩

namespace Exchange

variable {exchange : Exchange} {before after : Roster}

theorem Pairs.sound (h : exchange.Pairs before after) (hs : before.Sound) : after.Sound := by
  unfold Pairs at h
  split at h
  · obtain ⟨hnew, hc, rfl⟩ := h
    constructor
    · rw [Multiset.map_cons, Multiset.nodup_cons]
      exact ⟨hnew, hs.nodup⟩
    · intro entry hm callbacks hcallbacks
      obtain rfl | hm := Multiset.mem_cons.1 hm
      · obtain ⟨handed, hh, rfl⟩ := Option.map_eq_some_iff.1 hcallbacks
        exact hc handed hh
      · exact hs.complete entry hm callbacks hcallbacks
  · exact h.2 ▸ hs
  · subst h
    have := hs.nodup
    rw [Multiset.map_cons, Multiset.nodup_cons] at this
    exact ⟨this.2, fun entry hm => hs.complete entry (Multiset.mem_cons_of_mem hm)⟩
  · exact h ▸ hs

theorem pairs_of_not_lifecycle (h : exchange.isLifecycle = false) (before after : Roster) :
    exchange.Pairs before after ↔ before = after := by
  rw [Pairs, dealing?_of_not_lifecycle h]

end Exchange

/-! ## Handles of live objects -/

/-- The objects after an exchange; there are none to speak of once a live object is created again. -/
def Exchange.standing? (objects : List NativeObject) (exchange : Exchange) : Option (List NativeObject) :=
  match exchange.dealing? with
  | some (.created object _) => if object ∈ objects then none else some (object :: objects)
  | some (.destroyed object _) => some (objects.erase object)
  | _ => some objects

/-- The objects after a trace, as long as no handle of a live object is given to another. -/
def Trace.standing? (trace : Trace) : Option (List NativeObject) := trace.foldlM Exchange.standing? []

namespace Exchange

variable {exchange : Exchange} {object : NativeObject} {callbacks : Option NativeCallbacks}
  {objects objects' : List NativeObject} {before after : Roster}

theorem standing?_of_not_lifecycle (h : exchange.isLifecycle = false) (before after : List NativeObject) :
    exchange.standing? before = some after ↔ before = after := by
  rw [standing?, dealing?_of_not_lifecycle h, Option.some_inj]

/-- What is created was not there. -/
theorem not_mem_of_standing? (h : exchange.standing? objects = some objects')
    (hc : exchange.dealing? = some (.created object callbacks)) : object ∉ objects := by
  rw [standing?, hc] at h
  intro hm
  simp [hm] at h

/-- The objects are those that are paired. -/
theorem Pairs.standing (h : exchange.Pairs before after) (hs : exchange.standing? objects = some objects')
    (he : (objects : Multiset NativeObject) = before.map Prod.fst) :
    (objects' : Multiset NativeObject) = after.map Prod.fst := by
  unfold Pairs at h
  unfold standing? at hs
  split at h
  all_goals rename_i hd; rw [hd] at hs; dsimp only at hs
  · obtain ⟨hnew, -, rfl⟩ := h
    rw [← he, Multiset.mem_coe] at hnew
    rw [if_neg hnew] at hs
    cases hs
    rw [Multiset.map_cons, ← he]
    rfl
  · cases hs
    rw [he, h.2]
  · cases hs
    rw [← Multiset.coe_erase, he, h, Multiset.map_cons, Multiset.erase_cons_head]
  · cases hs
    rw [he, h]

end Exchange

/-- Objects after one part of a trace, and after the next. -/
theorem Trace.takes_standing_iff {first last : Trace} {objects objects' : List NativeObject}
    (h : first.standing? = some objects) :
    (first ++ last).standing? = some objects' ↔
      Takes (fun before exchange after => exchange.standing? before = some after) objects last objects' := by
  rw [standing?, List.foldlM_append, show first.foldlM Exchange.standing? [] = some objects from h]
  clear h
  show last.foldlM Exchange.standing? objects = some objects' ↔ _
  induction last generalizing objects with
  | nil => exact Option.some_inj
  | cons exchange rest ih =>
    rw [List.foldlM_cons]
    show (exchange.standing? objects).bind _ = _ ↔ _
    rw [Option.bind_eq_some_iff]
    simp only [ih]
    rfl

/-- After a trace that pairs objects, those that stand are those that are paired. -/
theorem Trace.standing_of_pairs {trace : Trace} {before after : Roster} {objects objects' : List NativeObject}
    (hp : Takes Exchange.Pairs before trace after)
    (hs : Takes (fun before exchange after => exchange.standing? before = some after) objects trace objects')
    (he : (objects : Multiset NativeObject) = before.map Prod.fst) :
    (objects' : Multiset NativeObject) = after.map Prod.fst := by
  induction trace generalizing before objects with
  | nil =>
    obtain rfl : before = after := hp
    obtain rfl : objects = objects' := hs
    exact he
  | cons exchange rest ih =>
    obtain ⟨between, hp, hpr⟩ := hp
    obtain ⟨between', hs, hsr⟩ := hs
    exact ih hpr hsr (hp.standing hs he)

/-! ## Native drivers -/

/-- What the native driver holds for an object, and the callbacks that those of its creation stand for. -/
structure Stock where
  object : NativeObject
  callbacks : Option Callbacks
  items : Multiset Item

namespace Stock

def entry (stock : Stock) : NativeObject × Option Callbacks := (stock.object, stock.callbacks)

/-- The blocks that were obtained through callbacks. -/
def grants (stock : Stock) : Ledger := stock.callbacks.elim 0 (·.grants stock.items)

/-- The internal allocations that somebody was told of. -/
def notes (stock : Stock) : Multiset Note := stock.callbacks.elim 0 (·.notes stock.items)

end Stock

/-- What the native driver holds, and what it has asked of the application's callbacks so far. -/
structure NativeDriver where
  stocks : Multiset Stock
  activity : List Service

/-- What the native driver does while it is handed callbacks. Without callbacks it makes do with an allocator of its own,
and nobody is told. -/
inductive Conducts : Option NativeCallbacks → Multiset Item → List Service → Multiset Item → Prop
  | alone (before after : Multiset Item) : Conducts none before [] after
  | served {callbacks : NativeCallbacks} {before after : Multiset Item} {trace : Trace} :
      callbacks.Serves before trace after → Conducts (some callbacks) before (callbacks.target.services trace) after

namespace NativeDriver

def initial : NativeDriver := ⟨0, []⟩

/-- What the native driver does in an exchange: it obtains what an object needs when it creates it and gives everything back
when it destroys it, each time with the callbacks that are handed over, and it keeps nothing of an object that it does not
create. -/
inductive Acts : NativeDriver → Exchange → NativeDriver → Prop
  | created {stocks : Multiset Stock} {activity done : List Service} {exchange : Exchange} {object : NativeObject}
      {callbacks : Option NativeCallbacks} {items : Multiset Item} :
      exchange.dealing? = some (.created object callbacks) → Conducts callbacks 0 done items →
        Acts ⟨stocks, activity⟩ exchange ⟨⟨object, callbacks.map (·.target), items⟩ ::ₘ stocks, activity ++ done⟩
  | refused {stocks : Multiset Stock} {activity done : List Service} {exchange : Exchange} {callbacks : Option NativeCallbacks} :
      exchange.dealing? = some (.refused callbacks) → Conducts callbacks 0 done 0 →
        Acts ⟨stocks, activity⟩ exchange ⟨stocks, activity ++ done⟩
  | destroyed {stocks : Multiset Stock} {activity done : List Service} {exchange : Exchange} {stock : Stock}
      {callbacks : Option NativeCallbacks} :
      exchange.dealing? = some (.destroyed stock.object callbacks) → Conducts callbacks stock.items done 0 →
        Acts ⟨stock ::ₘ stocks, activity⟩ exchange ⟨stocks, activity ++ done⟩
  | unknown {driver : NativeDriver} {exchange : Exchange} {object : NativeObject} {callbacks : Option NativeCallbacks} :
      exchange.dealing? = some (.destroyed object callbacks) → (∀ stock ∈ driver.stocks, stock.object ≠ object) →
        Acts driver exchange driver
  | still {driver : NativeDriver} {exchange : Exchange} : exchange.dealing? = none → Acts driver exchange driver

/-- Of what the native driver obtained through callbacks, it has not given back exactly what it holds for its objects, each
block to be given back through the callbacks that it came from; and of the internal allocations that it told of, it has not
told the end of exactly those that it has for its objects. -/
structure Balanced (driver : NativeDriver) : Prop where
  blocks : Takes Service.Settles 0 driver.activity (driver.stocks.bind Stock.grants)
  notes : Takes Service.Tells 0 driver.activity (driver.stocks.bind Stock.notes)

theorem balanced_initial : initial.Balanced where
  blocks := rfl
  notes := rfl

end NativeDriver

section Conducts

variable {callbacks : Option NativeCallbacks} {before after : Multiset Item} {done : List Service}

theorem Conducts.settles (h : Conducts callbacks before done after)
    (hc : ∀ handed ∈ callbacks, handed.target.Complete) (object : NativeObject) :
    Takes Service.Settles (Stock.mk object (callbacks.map (·.target)) before).grants done
      (Stock.mk object (callbacks.map (·.target)) after).grants := by
  cases h with
  | alone => rfl
  | served h => exact h.takes (·.settles (hc _ rfl))

theorem Conducts.tells (h : Conducts callbacks before done after)
    (hc : ∀ handed ∈ callbacks, handed.target.Complete) (object : NativeObject) :
    Takes Service.Tells (Stock.mk object (callbacks.map (·.target)) before).notes done
      (Stock.mk object (callbacks.map (·.target)) after).notes := by
  cases h with
  | alone => rfl
  | served h => exact h.takes (·.tells (hc _ rfl))

/-- There is nothing to account for where nothing is held. -/
theorem Stock.grants_zero (object : NativeObject) (callbacks : Option Callbacks) : (Stock.mk object callbacks 0).grants = 0 := by
  cases callbacks <;> rfl

theorem Stock.notes_zero (object : NativeObject) (callbacks : Option Callbacks) : (Stock.mk object callbacks 0).notes = 0 := by
  cases callbacks <;> rfl

end Conducts

namespace NativeDriver

variable {driver driver' : NativeDriver} {exchange : Exchange} {trace : Trace} {roster roster' : Roster}

/-- What is done for one object keeps the balance. -/
theorem Balanced.conduct {stocks : Multiset Stock} {activity done : List Service} {before after : Multiset Item}
    {object : NativeObject} {callbacks : Option NativeCallbacks}
    (hb : Balanced ⟨⟨object, callbacks.map (·.target), before⟩ ::ₘ stocks, activity⟩)
    (h : Conducts callbacks before done after) (hc : ∀ handed ∈ callbacks, handed.target.Complete) :
    Balanced ⟨⟨object, callbacks.map (·.target), after⟩ ::ₘ stocks, activity ++ done⟩ where
  blocks := by
    refine Takes.append_iff.2 ⟨_, hb.blocks, ?_⟩
    rw [Multiset.cons_bind, Multiset.cons_bind]
    exact Service.frame_settles (h.settles hc object) _
  notes := by
    refine Takes.append_iff.2 ⟨_, hb.notes, ?_⟩
    rw [Multiset.cons_bind, Multiset.cons_bind]
    exact Service.frame_tells (h.tells hc object) _

/-- An object for which nothing is held does not matter. -/
theorem balanced_cons_iff {stocks : Multiset Stock} {activity : List Service} (object : NativeObject)
    (callbacks : Option Callbacks) : Balanced ⟨⟨object, callbacks, 0⟩ ::ₘ stocks, activity⟩ ↔ Balanced ⟨stocks, activity⟩ := by
  have hgrants : (Stock.mk object callbacks 0 ::ₘ stocks).bind Stock.grants = stocks.bind Stock.grants := by
    rw [Multiset.cons_bind, Stock.grants_zero, Multiset.zero_add]
  have hnotes : (Stock.mk object callbacks 0 ::ₘ stocks).bind Stock.notes = stocks.bind Stock.notes := by
    rw [Multiset.cons_bind, Stock.notes_zero, Multiset.zero_add]
  constructor
  · rintro ⟨hb, hn⟩
    exact ⟨hgrants ▸ hb, hnotes ▸ hn⟩
  · rintro ⟨hb, hn⟩
    exact ⟨hgrants.symm ▸ hb, hnotes.symm ▸ hn⟩

/-- Where objects are destroyed with the callbacks that they were created with, one exchange keeps the balance. -/
theorem Acts.balanced (ha : Acts driver exchange driver') (hp : exchange.Pairs roster roster') (hs : roster.Sound)
    (he : driver.stocks.map Stock.entry = roster) (hb : driver.Balanced) :
    driver'.Balanced ∧ driver'.stocks.map Stock.entry = roster' := by
  unfold Exchange.Pairs at hp
  cases ha with
  | @created stocks activity done _ object callbacks items hd hc =>
    rw [hd] at hp
    obtain ⟨-, hcomplete, rfl⟩ := hp
    refine ⟨Balanced.conduct ((balanced_cons_iff ..).2 hb) hc hcomplete, ?_⟩
    rw [Multiset.map_cons, he]
    rfl
  | @refused stocks activity done _ callbacks hd hc =>
    rw [hd] at hp
    -- A refused creation leaves no object: what it does, it does for one of any name, for which nothing is held.
    have : Balanced ⟨⟨.inst 0, callbacks.map (·.target), 0⟩ ::ₘ stocks, activity ++ done⟩ :=
      Balanced.conduct ((balanced_cons_iff ..).2 hb) hc hp.1
    exact ⟨(balanced_cons_iff ..).1 this, he.trans hp.2⟩
  | @destroyed stocks activity done _ stock callbacks hd hc =>
    rw [hd] at hp
    dsimp only at hp he
    subst he
    obtain ⟨object, found, items⟩ := stock
    have hcomplete := hs.complete (object, found) (Multiset.mem_map_of_mem Stock.entry (Multiset.mem_cons_self ..))
    have hnodup := hs.nodup
    rw [Multiset.map_cons] at hp hnodup
    -- There is one object of this name only, so it is the one that is paired.
    obtain ⟨hentry, hrest⟩ | ⟨-, others, hm, -⟩ := Multiset.cons_eq_cons.1 hp
    · obtain rfl : found = callbacks.map (·.target) := (Prod.mk.inj hentry).2
      refine ⟨(balanced_cons_iff ..).1 (Balanced.conduct hb hc fun handed hh => ?_), hrest⟩
      exact hcomplete handed.target (Option.mem_map_of_mem _ hh)
    · rw [Multiset.map_cons, Multiset.nodup_cons] at hnodup
      refine absurd (Multiset.mem_map.2 ⟨(object, callbacks.map (·.target)), ?_, rfl⟩) hnodup.1
      rw [hm]
      exact Multiset.mem_cons_self ..
  | @unknown _ _ object callbacks hd hnone =>
    rw [hd] at hp
    dsimp only at hp
    have hm : (object, callbacks.map (·.target)) ∈ driver.stocks.map Stock.entry := by
      rw [he, hp]
      exact Multiset.mem_cons_self ..
    obtain ⟨stock, hstock, heq⟩ := Multiset.mem_map.1 hm
    exact absurd (Prod.mk.inj heq).1 (hnone stock hstock)
  | still hd =>
    rw [hd] at hp
    exact ⟨hb, he.trans hp⟩

/-- Where objects are destroyed with the callbacks that they were created with, every native driver keeps the balance. -/
theorem balanced_of_pairs (ha : Takes Acts driver trace driver') (hp : Takes Exchange.Pairs roster trace roster')
    (hs : roster.Sound) (he : driver.stocks.map Stock.entry = roster) (hb : driver.Balanced) :
    driver'.Balanced ∧ driver'.stocks.map Stock.entry = roster' := by
  induction trace generalizing driver roster with
  | nil =>
    obtain rfl : driver = driver' := ha
    exact ⟨hb, he.trans hp⟩
  | cons exchange rest ih =>
    obtain ⟨between, ha, har⟩ := ha
    obtain ⟨between', hp, hpr⟩ := hp
    obtain ⟨hb, he⟩ := ha.balanced hp hs he hb
    exact ih har hpr (hp.sound hs) he hb

end NativeDriver

end VulkanBridge
