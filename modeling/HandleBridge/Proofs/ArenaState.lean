import Mathlib.Algebra.Group.Nat.Defs
import HandleBridge.Heap.Arena

/-!
The arena as a map from handles to entries. A handle packs a slot and a generation into halves that never overlap, so
it is decoded to what it was made from (`slot?_ofSlot`, `generation_ofSlot`), and a slot with a generation names one
handle only (`eq_of_slot?`). While every slot has a handle, an insertion adds one binding for a handle that had none
(`Sound.get?_insert`), and freeing takes one binding away (`get?_erase?`), whatever slots were recycled for it. `Sound`
keeps the slots, the free ones among them and the counts in step.
-/

namespace HandleBridge.Handle

theorem slot?_eq (h : Handle) :
    h.slot? = if h.id.toNat % 2 ^ 32 = 0 then none else some (h.id.toNat % 2 ^ 32 - 1) := by
  have low : (h.id &&& 0xFFFFFFFF).toNat = h.id.toNat % 2 ^ 32 := by
    rw [UInt64.toNat_and]
    exact Nat.and_two_pow_sub_one_eq_mod h.id.toNat 32
  simp only [slot?,low]

theorem toNat_generation (h : Handle) : h.generation.toNat = h.id.toNat / 2 ^ 32 := by
  have bound : h.id.toNat < 2 ^ 64 := h.id.toNat_lt
  have width : (32 : UInt64).toNat % 64 = 32 := rfl
  simp only [generation,UInt64.toNat_toUInt32,UInt64.toNat_shiftRight,width]
  rw [Nat.shiftRight_eq_div_pow]
  omega

/-- Below the last slot the halves of a handle do not overlap: it is a two-digit number. -/
theorem toNat_ofSlot (slot generation : UInt32) (small : slot.toNat + 1 < 2 ^ 32) :
    (ofSlot slot generation).id.toNat = generation.toNat * 2 ^ 32 + (slot.toNat + 1) := by
  have generationBound : generation.toNat < 2 ^ 32 := generation.toNat_lt
  have low : (slot.toUInt64 + 1).toNat = slot.toNat + 1 := by
    simp only [UInt64.toNat_add,UInt32.toNat_toUInt64,UInt64.toNat_one]
    omega
  have high : (generation.toUInt64 <<< 32).toNat = generation.toNat <<< 32 := by
    have width : (32 : UInt64).toNat % 64 = 32 := rfl
    simp only [UInt64.toNat_shiftLeft,UInt32.toNat_toUInt64,width,Nat.shiftLeft_eq]
    omega
  rw [ofSlot,UInt64.toNat_or,low,high,← Nat.shiftLeft_add_eq_or_of_lt small,Nat.shiftLeft_eq]

/-- A handle names the slot that it was made for. -/
theorem slot?_ofSlot (slot generation : UInt32) (small : slot.toNat + 1 < 2 ^ 32) :
    (ofSlot slot generation).slot? = some slot.toNat := by
  rw [slot?_eq,toNat_ofSlot slot generation small]
  have low : (generation.toNat * 2 ^ 32 + (slot.toNat + 1)) % 2 ^ 32 = slot.toNat + 1 := by omega
  rw [low]
  simp

theorem generation_ofSlot (slot generation : UInt32) (small : slot.toNat + 1 < 2 ^ 32) :
    (ofSlot slot generation).generation = generation := by
  apply UInt32.toNat_inj.mp
  rw [toNat_generation,toNat_ofSlot slot generation small]
  omega

/-- A slot and a generation determine the handle. -/
theorem eq_of_slot? {h k : Handle} {slot : Nat} (first : h.slot? = some slot) (second : k.slot? = some slot)
    (same : h.generation = k.generation) : h = k := by
  have generations := congrArg UInt32.toNat same
  rw [toNat_generation,toNat_generation] at generations
  rw [slot?_eq] at first second
  split at first
  · cases first
  split at second
  · cases second
  simp only [Option.some.injEq] at first second
  have equal : h.id.toNat = k.id.toNat := by omega
  obtain ⟨id⟩ := h
  obtain ⟨other⟩ := k
  exact congrArg Handle.mk (UInt64.toNat_inj.mp equal)

theorem slot?_null : null.slot? = none := by decide

theorem isNull_eq_true_iff (h : Handle) : h.isNull = true ↔ h = null := by
  obtain ⟨id⟩ := h
  simp [isNull,null]

/-- A handle that names a slot refers to something. -/
theorem isNull_of_slot? {h : Handle} {slot : Nat} (names : h.slot? = some slot) : h.isNull = false := by
  cases isNull : h.isNull with
  | false => rfl
  | true =>
    rw [(isNull_eq_true_iff h).mp isNull,slot?_null] at names
    cases names

end HandleBridge.Handle

namespace HandleBridge

theorem toNat_nextGeneration (generation : UInt32) :
    (nextGeneration generation).toNat = if generation.toNat + 1 < 2 ^ 32 then generation.toNat + 1 else 1 := by
  have bound : generation.toNat < 2 ^ 32 := generation.toNat_lt
  have one : (1 : UInt32).toNat = 1 := rfl
  have successor : (generation + 1).toNat = (generation.toNat + 1) % 2 ^ 32 := UInt32.toNat_add ..
  have larger : nextGeneration generation = if generation + 1 ≤ 1 then 1 else generation + 1 := rfl
  rw [larger]
  simp only [UInt32.le_iff_toNat_le]
  split <;> split <;> omega

namespace Arena

variable {α : Type} {a b : Arena α} {h k : Handle} {x : α}

def occupied (a : Arena α) : Nat := a.slots.countP (·.entry.isSome)

/-- An arena that its operations made, as long as it has a handle for every slot. -/
structure Sound (a : Arena α) : Prop where
  few : a.slots.size < 2 ^ 32
  generations : ∀ (i : Nat) (slot : Slot α), a.slots[i]? = some slot → 1 ≤ slot.generation.toNat
  distinct : a.free.Nodup
  /-- Exactly the empty slots wait for reuse. -/
  waiting : ∀ i : UInt32, i ∈ a.free ↔ ∃ slot, a.slots[i.toNat]? = some slot ∧ slot.entry = none
  live : a.live = a.occupied
  balance : a.created = a.live + a.destroyed

theorem sound_empty : Sound ({} : Arena α) where
  few := by simp
  generations i slot found := by simp at found
  distinct := List.nodup_nil
  waiting i := by simp
  live := by simp [occupied]
  balance := rfl

theorem get?_eq_some_iff :
    a.get? h = some x ↔ ∃ i, h.slot? = some i ∧ a.slots[i]? = some ⟨h.generation,some x⟩ := by
  simp only [get?,Option.bind_eq_bind,Option.bind_eq_some_iff]
  constructor
  · rintro ⟨i,names,slot,found,entry⟩
    refine ⟨i,names,?_⟩
    by_cases current : slot.generation = h.generation
    · simp only [current,if_true] at entry
      rw [found,← current,← entry]
    · simp [current] at entry
  · rintro ⟨i,names,found⟩
    exact ⟨i,names,_,found,by simp⟩

theorem isLive_iff : a.isLive h = true ↔ ∃ x, a.get? h = some x := by
  simp [isLive,Option.isSome_iff_exists]

theorem isLive_false_iff : a.isLive h = false ↔ a.get? h = none := by
  simp [isLive]

theorem isNull_of_get? (found : a.get? h = some x) : h.isNull = false := by
  obtain ⟨i,names,-⟩ := get?_eq_some_iff.mp found
  exact Handle.isNull_of_slot? names

theorem get?_null : a.get? .null = none := by
  cases found : a.get? .null with
  | none => rfl
  | some x =>
    have := isNull_of_get? found
    simp [Handle.isNull,Handle.null] at this

/-- A slot shows its entry under the handle that names it in its generation, and under no other. -/
theorem get?_of_slots {i : Nat} {slot : Slot α} (found : a.slots[i]? = some slot) (names : h.slot? = some i) :
    a.get? h = if slot.generation = h.generation then slot.entry else none := by
  simp [get?,names,found]

/-- Where two arenas agree on a slot, they agree on its handles. -/
theorem get?_congr (same : ∀ i, h.slot? = some i → a.slots[i]? = b.slots[i]?) : a.get? h = b.get? h := by
  cases names : h.slot? with
  | none => simp [get?,names]
  | some i => simp [get?,names,same i names]

/-- A slot holds nothing for the handles of its other generations. -/
theorem get?_other_generation {i : Nat} {slot : Slot α} (found : a.slots[i]? = some slot) (names : h.slot? = some i)
    (current : slot.generation = h.generation) (shared : k.slot? = some i) (other : k ≠ h) : a.get? k = none := by
  have apart : slot.generation ≠ k.generation :=
    fun equal => other (Handle.eq_of_slot? shared names (equal.symm.trans current))
  simp [get?_of_slots found shared,apart]

/-- When one slot changes and all its handles but `h` are without an entry before and after, only `h` changes. -/
theorem get?_of_slot_changed {i : Nat} {entry : Option α}
    (others : ∀ j, j ≠ i → b.slots[j]? = a.slots[j]?) (now : b.get? h = entry)
    (deadBefore : ∀ k : Handle, k.slot? = some i → k ≠ h → a.get? k = none)
    (deadAfter : ∀ k : Handle, k.slot? = some i → k ≠ h → b.get? k = none) (k : Handle) :
    b.get? k = if k = h then entry else a.get? k := by
  by_cases same : k = h
  · rw [if_pos same,same,now]
  · rw [if_neg same]
    by_cases shared : k.slot? = some i
    · rw [deadBefore k shared same,deadAfter k shared same]
    · exact get?_congr fun j named => others j fun equal => shared (equal ▸ named)

theorem set_of_get?_none (dead : a.get? h = none) : a.set h x = a := by
  unfold set
  split <;> simp [isLive,dead]

theorem set_eq {i : Nat} {y : α} (found : a.get? h = some y) (names : h.slot? = some i) :
    a.set h x = { a with slots := a.slots.setIfInBounds i ⟨h.generation,some x⟩ } := by
  simp [set,names,isLive,found]

/-- A replacement is found under its own handle, and under every other handle what was there before. -/
theorem get?_set {y : α} (found : a.get? h = some y) (k : Handle) :
    (a.set h x).get? k = if k = h then some x else a.get? k := by
  obtain ⟨i,names,slot⟩ := get?_eq_some_iff.mp found
  have inside : i < a.slots.size := (Array.getElem?_eq_some_iff.mp slot).1
  have changed : (a.set h x).slots[i]? = some ⟨h.generation,some x⟩ := by
    simp [set_eq found names,inside]
  apply get?_of_slot_changed (i := i)
  · intro j apart
    simp [set_eq found names,Ne.symm apart]
  · simp [get?_of_slots changed names]
  · exact fun k shared other => get?_other_generation slot names rfl shared other
  · exact fun k shared other => get?_other_generation changed names rfl shared other

/-- Putting back what is there changes nothing. -/
theorem set_self (found : a.get? h = some x) : a.set h x = a := by
  obtain ⟨i,names,slot⟩ := get?_eq_some_iff.mp found
  obtain ⟨inside,held⟩ := Array.getElem?_eq_some_iff.mp slot
  rw [set_eq found names,← held]
  simp [Array.setIfInBounds,inside]

/-- Of two replacements the later one counts. -/
theorem set_set {y z : α} (found : a.get? h = some x) : (a.set h y).set h z = a.set h z := by
  obtain ⟨i,names,-⟩ := get?_eq_some_iff.mp found
  have now : (a.set h y).get? h = some y := by rw [get?_set found,if_pos rfl]
  rw [set_eq now names,set_eq found names,set_eq found names,Array.setIfInBounds_setIfInBounds]

theorem live_set : (a.set h x).live = a.live := by
  unfold set
  split
  · split <;> rfl
  · rfl

theorem created_set : (a.set h x).created = a.created := by
  unfold set
  split
  · split <;> rfl
  · rfl

theorem destroyed_set : (a.set h x).destroyed = a.destroyed := by
  unfold set
  split
  · split <;> rfl
  · rfl

theorem isLive_set (k : Handle) : (a.set h x).isLive k = a.isLive k := by
  cases found : a.get? h with
  | none => rw [set_of_get?_none found]
  | some y =>
    by_cases same : k = h
    · simp [isLive,get?_set found,same,found]
    · simp [isLive,get?_set found,same]

/-- Replacing one slot moves the number of occupied slots by that slot alone. -/
theorem countP_replace {slots : Array (Slot α)} {i : Nat} {old : Slot α} (found : slots[i]? = some old)
    (new : Slot α) :
    (slots.setIfInBounds i new).countP (·.entry.isSome) + (if old.entry.isSome then 1 else 0) =
      slots.countP (·.entry.isSome) + (if new.entry.isSome then 1 else 0) := by
  obtain ⟨inside,rfl⟩ := Array.getElem?_eq_some_iff.mp found
  have counted : (if slots[i].entry.isSome then 1 else 0) ≤ slots.countP (·.entry.isSome) := by
    split
    · rename_i holds
      exact Array.countP_pos_iff.mpr ⟨_,Array.getElem_mem inside,holds⟩
    · exact Nat.zero_le _
  simp only [Array.setIfInBounds,inside,dite_true,Array.countP_set]
  omega

/-- Generations stay positive when one slot is replaced by one that has started. -/
theorem generations_replace (old : ∀ (i : Nat) (slot : Slot α), a.slots[i]? = some slot → 1 ≤ slot.generation.toNat)
    {i : Nat} {new : Slot α} (started : 1 ≤ new.generation.toNat) (j : Nat) (slot : Slot α)
    (found : (a.slots.setIfInBounds i new)[j]? = some slot) : 1 ≤ slot.generation.toNat := by
  by_cases same : i = j
  · subst same
    by_cases inside : i < a.slots.size
    · simp only [Array.getElem?_setIfInBounds_self_of_lt inside,Option.some.injEq] at found
      exact found ▸ started
    · simp [Nat.le_of_not_lt inside] at found
  · rw [Array.getElem?_setIfInBounds_ne same] at found
    exact old j slot found

/-- Replacing entries keeps an arena in order. -/
theorem Sound.set (sound : a.Sound) : (a.set h x).Sound := by
  cases found : a.get? h with
  | none => rwa [set_of_get?_none found]
  | some y =>
    obtain ⟨i,names,slot⟩ := get?_eq_some_iff.mp found
    obtain ⟨inside,held⟩ := Array.getElem?_eq_some_iff.mp slot
    rw [set_eq found names]
    refine ⟨by simpa using sound.few,generations_replace sound.generations (sound.generations i _ slot :),
      sound.distinct,?_,?_,sound.balance⟩
    · intro j
      rw [sound.waiting]
      by_cases same : i = j.toNat
      · subst same
        simp [inside,held]
      · simp [same]
    · have counted := countP_replace slot ⟨h.generation,some x⟩
      simpa [occupied,sound.live] using counted.symm

/-! ### Inserting -/

theorem insert_of_free {slot : UInt32} {rest : List UInt32} {old : Slot α} (free : a.free = slot :: rest)
    (found : a.slots[slot.toNat]? = some old) :
    a.insert true x = (.ofSlot slot old.generation,
      { a with
        slots := a.slots.setIfInBounds slot.toNat ⟨old.generation,some x⟩
        free := rest
        live := a.live + 1
        created := a.created + 1 }) := by
  simp [insert,free,found]

theorem insert_fresh {reuse : Bool} (full : reuse = true → a.free = []) :
    a.insert reuse x = (.ofSlot (UInt32.ofNat a.slots.size) 1,
      { a with slots := a.slots.push ⟨1,some x⟩, live := a.live + 1, created := a.created + 1 }) := by
  cases reuse with
  | false => rfl
  | true => simp [insert,full rfl]

/-- Where an insertion puts its entry: in an empty slot under the generation of that slot, or in a new slot. -/
theorem Sound.insert_cases (sound : a.Sound) (reuse : Bool) :
    (∃ slot rest old, reuse = true ∧ a.free = slot :: rest ∧ a.slots[slot.toNat]? = some old ∧ old.entry = none) ∨
      (reuse = true → a.free = []) := by
  cases reuse with
  | false => exact .inr nofun
  | true =>
    cases free : a.free with
    | nil => exact .inr fun _ => rfl
    | cons slot rest =>
      obtain ⟨old,found,empty⟩ := (sound.waiting slot).mp (by simp [free])
      exact .inl ⟨slot,rest,old,rfl,rfl,found,empty⟩

/-- Where an insertion puts its entry: one slot, empty or missing before, holds it in the generation of the handle. -/
theorem Sound.insert_placed {reuse : Bool} (sound : a.Sound) (made : a.insert reuse x = (h,b))
    (few : b.slots.size < 2 ^ 32) : ∃ slot generation, h = .ofSlot slot generation ∧ slot.toNat + 1 < 2 ^ 32 ∧
      (a.slots[slot.toNat]? = some ⟨generation,none⟩ ∨ a.slots[slot.toNat]? = none ∧ generation = 1) ∧
      ∀ i, b.slots[i]? = if i = slot.toNat then some ⟨generation,some x⟩ else a.slots[i]? := by
  rcases sound.insert_cases reuse with ⟨slot,rest,old,rfl,free,found,empty⟩ | full
  · rw [insert_of_free free found] at made
    cases made
    have inside : slot.toNat < a.slots.size := (Array.getElem?_eq_some_iff.mp found).1
    have limit := sound.few
    refine ⟨slot,old.generation,rfl,by omega,.inl ?_,?_⟩
    · rw [found,← empty]
    · intro i
      by_cases same : i = slot.toNat
      · subst same
        simp [inside]
      · simp [same,Ne.symm same]
  · rw [insert_fresh full] at made
    cases made
    simp only [Array.size_push] at few
    have index : (UInt32.ofNat a.slots.size).toNat = a.slots.size := UInt32.toNat_ofNat_of_lt' sound.few
    refine ⟨UInt32.ofNat a.slots.size,1,rfl,by omega,.inr ?_,?_⟩
    · simp [index]
    · intro i
      simp only [index,Array.getElem?_push]

/-- The handle of an insertion had no entry, and now has the new one; all other handles are as before. -/
theorem Sound.get?_insert {reuse : Bool} (sound : a.Sound) (made : a.insert reuse x = (h,b))
    (few : b.slots.size < 2 ^ 32) : a.get? h = none ∧ ∀ k, b.get? k = if k = h then some x else a.get? k := by
  obtain ⟨slot,generation,rfl,small,empty,slots⟩ := sound.insert_placed made few
  have names : (Handle.ofSlot slot generation).slot? = some slot.toNat := Handle.slot?_ofSlot slot generation small
  have dead : ∀ k : Handle, k.slot? = some slot.toNat → a.get? k = none := by
    intro k named
    rcases empty with empty | ⟨missing,-⟩
    · rw [get?_of_slots empty named]
      simp
    · simp [get?,named,missing]
  have changed : b.slots[slot.toNat]? = some ⟨generation,some x⟩ := by simp [slots]
  have current := Handle.generation_ofSlot slot generation small
  refine ⟨dead _ names,get?_of_slot_changed ?_ ?_ (fun k shared _ => dead k shared) ?_⟩
  · intro i apart
    simp [slots,apart]
  · simp [get?_of_slots changed names,current]
  · exact fun k shared other => get?_other_generation changed names current.symm shared other

theorem size_insert (a : Arena α) (reuse : Bool) (x : α) : a.slots.size ≤ (a.insert reuse x).2.slots.size := by
  simp only [insert]
  split <;> simp

theorem live_insert (a : Arena α) (reuse : Bool) (x : α) : (a.insert reuse x).2.live = a.live + 1 := by
  simp only [insert]
  split <;> rfl

theorem created_insert (a : Arena α) (reuse : Bool) (x : α) : (a.insert reuse x).2.created = a.created + 1 := by
  simp only [insert]
  split <;> rfl

theorem destroyed_insert (a : Arena α) (reuse : Bool) (x : α) : (a.insert reuse x).2.destroyed = a.destroyed := by
  simp only [insert]
  split <;> rfl

/-- Inserting keeps an arena in order as long as its slots have handles. -/
theorem Sound.insert {reuse : Bool} (sound : a.Sound) (made : a.insert reuse x = (h,b))
    (few : b.slots.size < 2 ^ 32) : b.Sound := by
  have balance := sound.balance
  rcases sound.insert_cases reuse with ⟨slot,rest,old,rfl,free,found,empty⟩ | full
  · rw [insert_of_free free found] at made
    cases made
    obtain ⟨inside,held⟩ := Array.getElem?_eq_some_iff.mp found
    have distinct := free ▸ sound.distinct
    refine ⟨few,generations_replace sound.generations (sound.generations _ old found),
      (List.nodup_cons.mp distinct).2,?_,?_,by simp only; omega⟩
    · intro i
      have before := sound.waiting i
      rw [free,List.mem_cons] at before
      by_cases same : i = slot
      · subst same
        simpa [inside] using (List.nodup_cons.mp distinct).1
      · have apart : slot.toNat ≠ i.toNat := fun equal => same (UInt32.toNat_inj.mp equal.symm)
        simpa [same,apart] using before
    · have counted := countP_replace found ⟨old.generation,some x⟩
      simpa [occupied,sound.live,empty] using counted.symm
  · rw [insert_fresh full] at made
    cases made
    refine ⟨few,?_,sound.distinct,?_,?_,by simp only; omega⟩
    · intro i slot found
      rw [Array.getElem?_push] at found
      split at found
      · cases found
        exact Nat.le_refl 1
      · exact sound.generations i slot found
    · intro i
      rw [sound.waiting]
      by_cases new : i.toNat = a.slots.size
      · simp [new]
      · simp [Array.getElem?_push,new]
    · simp [occupied,sound.live]

/-! ### Freeing -/

theorem erase?_eq_some (freed : a.erase? h = some (x,b)) :
    a.get? h = some x ∧ ∃ i, h.slot? = some i ∧ a.slots[i]? = some ⟨h.generation,some x⟩ ∧
      b = { a with
        slots := a.slots.setIfInBounds i ⟨nextGeneration h.generation,none⟩
        free := UInt32.ofNat i :: a.free
        live := a.live - 1
        destroyed := a.destroyed + 1 } := by
  simp only [erase?,Option.bind_eq_bind,Option.bind_eq_some_iff,Option.pure_def,Option.some.injEq,
    Prod.mk.injEq] at freed
  obtain ⟨y,found,i,names,rfl,rfl⟩ := freed
  obtain ⟨j,named,slot⟩ := get?_eq_some_iff.mp found
  cases names.symm.trans named
  exact ⟨found,i,names,slot,rfl⟩

theorem erase?_eq_none_iff : a.erase? h = none ↔ a.get? h = none := by
  constructor
  · intro kept
    cases found : a.get? h with
    | none => rfl
    | some x =>
      obtain ⟨i,names,-⟩ := get?_eq_some_iff.mp found
      simp [erase?,found,names] at kept
  · intro dead
    simp [erase?,dead]

theorem size_erase? (freed : a.erase? h = some (x,b)) : b.slots.size = a.slots.size := by
  obtain ⟨-,i,-,-,rfl⟩ := erase?_eq_some freed
  simp

/-- A freed handle finds nothing, and every other handle what it found before. -/
theorem get?_erase? (freed : a.erase? h = some (x,b)) (k : Handle) :
    b.get? k = if k = h then none else a.get? k := by
  obtain ⟨found,i,names,slot,rfl⟩ := erase?_eq_some freed
  have inside : i < a.slots.size := (Array.getElem?_eq_some_iff.mp slot).1
  have changed : (a.slots.setIfInBounds i ⟨nextGeneration h.generation,none⟩)[i]? =
      some ⟨nextGeneration h.generation,none⟩ := by simp [inside]
  refine get?_of_slot_changed ?_ ?_ (fun k shared other => get?_other_generation slot names rfl shared other) ?_ k
  · intro j apart
    simp [Ne.symm apart]
  · rw [get?_of_slots changed names]
    simp
  · intro k shared _
    rw [get?_of_slots changed shared]
    simp

/-- Freeing keeps an arena in order. -/
theorem Sound.erase? (sound : a.Sound) (freed : a.erase? h = some (x,b)) : b.Sound := by
  obtain ⟨found,i,names,slot,rfl⟩ := erase?_eq_some freed
  obtain ⟨inside,held⟩ := Array.getElem?_eq_some_iff.mp slot
  have index : (UInt32.ofNat i).toNat = i := UInt32.toNat_ofNat_of_lt' (Nat.lt_trans inside sound.few)
  have started : 1 ≤ (nextGeneration h.generation).toNat := by
    rw [toNat_nextGeneration]
    split <;> omega
  have counted := countP_replace slot ⟨nextGeneration h.generation,none⟩
  have live := sound.live
  have balance := sound.balance
  simp only [occupied,Option.isSome_some,Option.isSome_none,if_true,Bool.false_eq_true,if_false] at counted live
  refine ⟨by simpa using sound.few,generations_replace sound.generations started,?_,?_,?_,?_⟩
  · refine List.nodup_cons.mpr ⟨?_,sound.distinct⟩
    intro waits
    obtain ⟨other,at_i,empty⟩ := (sound.waiting _).mp waits
    rw [index,slot] at at_i
    cases at_i
    cases empty
  · intro j
    rw [List.mem_cons,sound.waiting]
    by_cases same : i = j.toNat
    · subst same
      simp [inside]
    · have apart : j ≠ UInt32.ofNat i := by
        rintro rfl
        exact same index.symm
      simp [same,apart]
  · simp only [occupied]
    omega
  · simp only
    omega

/-! ### Generations -/

def holds (a : Arena α) (i : Nat) : Bool := a.slots[i]?.any (·.entry.isSome)

/-- Generation of the slot at a place, or the one in which it will be made. -/
def current (a : Arena α) (i : Nat) : UInt32 := (a.slots[i]?.map Slot.generation).getD 1

theorem current_of_get? {i : Nat} (found : a.get? h = some x) (names : h.slot? = some i) :
    a.current i = h.generation := by
  obtain ⟨j,named,slot⟩ := get?_eq_some_iff.mp found
  cases names.symm.trans named
  simp [current,slot]

theorem current_set (i : Nat) : (a.set h x).current i = a.current i := by
  cases found : a.get? h with
  | none => rw [set_of_get?_none found]
  | some y =>
    obtain ⟨j,names,slot⟩ := get?_eq_some_iff.mp found
    have inside : j < a.slots.size := (Array.getElem?_eq_some_iff.mp slot).1
    by_cases same : j = i
    · subst same
      rw [current,current,set_eq found names,slot]
      simp [inside]
    · simp [current,set_eq found names,same]

theorem holds_set (i : Nat) : (a.set h x).holds i = a.holds i := by
  cases found : a.get? h with
  | none => rw [set_of_get?_none found]
  | some y =>
    obtain ⟨j,names,slot⟩ := get?_eq_some_iff.mp found
    have inside : j < a.slots.size := (Array.getElem?_eq_some_iff.mp slot).1
    by_cases same : j = i
    · subst same
      rw [holds,holds,set_eq found names,slot]
      simp [inside]
    · simp [holds,set_eq found names,same]

/-- An insertion fills a free slot in its generation and leaves all generations as they are. -/
theorem Sound.insert_current {reuse : Bool} (sound : a.Sound) (made : a.insert reuse x = (h,b))
    (few : b.slots.size < 2 ^ 32) : ∃ i, h.slot? = some i ∧ h.generation = a.current i ∧ a.holds i = false ∧
      (∀ j, b.current j = a.current j) ∧ ∀ j, b.holds j = if j = i then true else a.holds j := by
  obtain ⟨slot,generation,rfl,small,empty,slots⟩ := sound.insert_placed made few
  have now : generation = a.current slot.toNat := by
    rcases empty with empty | ⟨missing,rfl⟩
    · simp [current,empty]
    · simp [current,missing]
  refine ⟨slot.toNat,Handle.slot?_ofSlot slot generation small,?_,?_,?_,?_⟩
  · rw [Handle.generation_ofSlot slot generation small,now]
  · rcases empty with empty | ⟨missing,-⟩
    · simp [holds,empty]
    · simp [holds,missing]
  · intro j
    by_cases same : j = slot.toNat
    · rw [same,← now]
      simp [current,slots]
    · simp [current,slots,same]
  · intro j
    by_cases same : j = slot.toNat
    · simp [holds,slots,same]
    · simp [holds,slots,same]

/-- Freeing empties a slot and starts its next generation. -/
theorem erase?_current (freed : a.erase? h = some (x,b)) : ∃ i, h.slot? = some i ∧
    (∀ j, b.current j = if j = i then nextGeneration h.generation else a.current j) ∧
    ∀ j, b.holds j = if j = i then false else a.holds j := by
  obtain ⟨found,i,names,slot,rfl⟩ := erase?_eq_some freed
  have inside : i < a.slots.size := (Array.getElem?_eq_some_iff.mp slot).1
  refine ⟨i,names,?_,?_⟩
  · intro j
    by_cases same : j = i
    · subst same
      simp [current,inside]
    · simp [current,same,Ne.symm same]
  · intro j
    by_cases same : j = i
    · subst same
      simp [holds,inside]
    · simp [holds,same,Ne.symm same]

theorem countP_eq_range {β : Type} (p : β → Bool) (xs : List β) (n : Nat) (fits : xs.length ≤ n) :
    xs.countP p = (List.range n).countP fun i => xs[i]?.any p := by
  induction xs generalizing n with
  | nil => simp
  | cons first rest ih =>
    obtain ⟨m,rfl⟩ : ∃ m, n = m + 1 := ⟨n - 1,by simp at fits; omega⟩
    rw [List.range_succ_eq_map,List.countP_cons,List.countP_cons,List.countP_map,ih m (by simpa using fits)]
    simp [Function.comp_def]

theorem occupied_eq (a : Arena α) {n : Nat} (fits : a.slots.size ≤ n) :
    a.occupied = (List.range n).countP a.holds := by
  have counted := countP_eq_range (fun slot : Slot α => slot.entry.isSome) a.slots.toList n (by simpa using fits)
  simp only [Array.countP_toList,Array.getElem?_toList] at counted
  exact counted

/-- A slot holds an entry when some handle of it is alive. -/
theorem Sound.holds_iff (sound : a.Sound) (i : Nat) :
    a.holds i = true ↔ ∃ h : Handle, h.slot? = some i ∧ a.isLive h = true := by
  simp only [holds,Option.any_eq_true,isLive_iff]
  constructor
  · rintro ⟨slot,found,holds⟩
    obtain ⟨x,entry⟩ := Option.isSome_iff_exists.mp holds
    have inside : i < a.slots.size := (Array.getElem?_eq_some_iff.mp found).1
    have few := sound.few
    have index : (UInt32.ofNat i).toNat = i := UInt32.toNat_ofNat_of_lt' (Nat.lt_trans inside few)
    have small : (UInt32.ofNat i).toNat + 1 < 2 ^ 32 := by omega
    have names := Handle.slot?_ofSlot (UInt32.ofNat i) slot.generation small
    rw [index] at names
    refine ⟨.ofSlot (UInt32.ofNat i) slot.generation,names,x,?_⟩
    rw [get?_of_slots found names,Handle.generation_ofSlot _ _ small,if_pos rfl,entry]
  · rintro ⟨h,names,x,found⟩
    obtain ⟨j,named,slot⟩ := get?_eq_some_iff.mp found
    cases names.symm.trans named
    exact ⟨_,slot,rfl⟩

/-- The number of entries depends on which handles are live only. -/
theorem Sound.live_congr (first : a.Sound) (second : b.Sound) (same : ∀ h, a.isLive h = b.isLive h) :
    a.live = b.live := by
  have holds : a.holds = b.holds := by
    funext i
    rw [Bool.eq_iff_iff,first.holds_iff,second.holds_iff]
    simp only [same]
  rw [first.live,second.live,occupied_eq a (Nat.le_max_left ..),occupied_eq b (Nat.le_max_right ..),holds]

end Arena

end HandleBridge
