import HandleBridge.Value

/-!
A slot arena with generations. A handle names a slot and the generation of the slot when the handle was issued.
Freeing a slot starts its next generation, so the old handles no longer fit what the slot holds later.
-/

namespace HandleBridge

namespace Handle

/-- Handle of a slot in a generation: the generation in the high half, one more than the slot in the low half. -/
def ofSlot (slot generation : UInt32) : Handle :=
  ⟨generation.toUInt64 <<< 32 ||| (slot.toUInt64 + 1)⟩

/-- Slot that the handle names; a low half of zero names none. -/
def slot? (h : Handle) : Option Nat :=
  let low := (h.id &&& 0xFFFFFFFF).toNat
  if low = 0 then none else some (low - 1)

def generation (h : Handle) : UInt32 := (h.id >>> 32).toUInt32

end Handle

/-- One place of an arena. -/
structure Slot (α : Type) where
  generation : UInt32
  entry : Option α
  deriving DecidableEq

/-- Generation after the given one. Zero is skipped, so that no handle of a slot is a small number. -/
def nextGeneration (generation : UInt32) : UInt32 := max (generation + 1) 1

/-- Slots, the empty ones among them that wait for reuse, and counts of all that was made and freed. -/
structure Arena (α : Type) where
  slots : Array (Slot α) := #[]
  /-- Empty slots, the one freed last foremost. -/
  free : List UInt32 := []
  live : Nat := 0
  created : Nat := 0
  destroyed : Nat := 0

namespace Arena

variable {α : Type}

/-- Entry that the handle refers to, provided its slot is still in the handle's generation. -/
def get? (a : Arena α) (h : Handle) : Option α := do
  let slot ← a.slots[← h.slot?]?
  if slot.generation = h.generation then slot.entry else none

def isLive (a : Arena α) (h : Handle) : Bool := (a.get? h).isSome

/-- Replaces the entry that the handle refers to; a handle without an entry changes nothing. -/
def set (a : Arena α) (h : Handle) (x : α) : Arena α :=
  match h.slot? with
  | some slot =>
    if a.isLive h then { a with slots := a.slots.setIfInBounds slot ⟨h.generation,some x⟩ } else a
  | none => a

/-- Stores a new entry in the slot freed last, or in a fresh slot when there is none or slots are not reused. -/
def insert (a : Arena α) (reuse : Bool) (x : α) : Handle × Arena α :=
  let counted := { a with live := a.live + 1, created := a.created + 1 }
  match if reuse then a.free else [] with
  | slot :: rest =>
    let generation := (a.slots[slot.toNat]?.map Slot.generation).getD 1
    (.ofSlot slot generation,
      { counted with slots := a.slots.setIfInBounds slot.toNat ⟨generation,some x⟩, free := rest })
  | [] => (.ofSlot (UInt32.ofNat a.slots.size) 1,{ counted with slots := a.slots.push ⟨1,some x⟩ })

/-- Takes out the entry that the handle refers to and starts the next generation of its slot. -/
def erase? (a : Arena α) (h : Handle) : Option (α × Arena α) := do
  let x ← a.get? h
  let slot ← h.slot?
  return (x,{ a with
    slots := a.slots.setIfInBounds slot ⟨nextGeneration h.generation,none⟩
    free := UInt32.ofNat slot :: a.free
    live := a.live - 1
    destroyed := a.destroyed + 1 })

end Arena

end HandleBridge
