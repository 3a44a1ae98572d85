import HandleBridge.Heap.Respond
import HandleBridge.Proofs.ArenaState

/-!
Looking up, replacing, allocating and freeing entries of the heap, said of what its handles refer to. Proofs about
the operations use these and leave the slots alone.
-/

namespace HandleBridge

/-- What a computation in two parts succeeds with is what its second part makes of the first. -/
theorem bind_eq_ok_iff {ε α β : Type} {x : Except ε α} {f : α → Except ε β} {b : β} :
    x >>= f = .ok b ↔ ∃ a, x = .ok a ∧ f a = .ok b := by
  cases x <;> simp [bind,Except.bind]

theorem map_eq_ok_iff {ε α β : Type} {x : Except ε α} {f : α → β} {b : β} :
    x.map f = .ok b ↔ ∃ a, x = .ok a ∧ f a = b := by
  cases x <;> simp [Except.map]

namespace Heap

variable {heap next : Heap} {h k : Handle} {o : ObjectData} {l : ListData} {entry : Entry} {settings : HeapSettings}

@[simp] theorem get?_empty : Heap.empty.get? h = none := by
  simp [empty,Arena.get?]

theorem sound_empty : Heap.empty.Sound := Arena.sound_empty

theorem find_eq_ok_iff : heap.find h = .ok entry ↔ heap.get? h = some entry := by
  unfold find
  split
  · rename_i isNull
    rw [(Handle.isNull_eq_true_iff h).mp isNull,Arena.get?_null]
    simp
  · cases heap.get? h <;> simp

/-- Looking up an object succeeds exactly where there is one. -/
theorem object_eq_ok_iff : heap.object h = .ok o ↔ heap.get? h = some (.object o) := by
  rw [object,bind_eq_ok_iff]
  constructor
  · rintro ⟨entry,found,isObject⟩
    rw [find_eq_ok_iff] at found
    cases entry with
    | object other =>
      cases isObject
      exact found
    | list l => cases isObject
  · intro found
    exact ⟨.object o,find_eq_ok_iff.mpr found,rfl⟩

/-- Looking up a list succeeds exactly where there is one. -/
theorem list_eq_ok_iff : heap.list h = .ok l ↔ heap.get? h = some (.list l) := by
  rw [list,bind_eq_ok_iff]
  constructor
  · rintro ⟨entry,found,isList⟩
    rw [find_eq_ok_iff] at found
    cases entry with
    | object o => cases isList
    | list other =>
      cases isList
      exact found
  · intro found
    exact ⟨.list l,find_eq_ok_iff.mpr found,rfl⟩

/-- An element passes exactly when it is null or a live object of a class that fits. -/
theorem checkElement_eq_ok_iff {p : Package} {expected : ClassId} {element : Handle} :
    checkElement p heap expected element = .ok () ↔
      element.isNull = true ∨ ∃ o, heap.get? element = some (.object o) ∧ p.isA o.cls expected = true := by
  rw [checkElement]
  split
  · rename_i isNull
    simp [isNull]
  · rename_i notNull
    simp only [notNull,false_or,bind_eq_ok_iff,object_eq_ok_iff,Bool.false_eq_true]
    refine exists_congr fun o => and_congr_right fun _ => ?_
    split
    · rename_i fits
      simp [fits,pure,Except.pure]
    · rename_i misfit
      simp [misfit,throw,throwThe,MonadExceptOf.throw]

/-- An entry stays when another handle changes. -/
theorem kept_of_update {now : Option Entry} (view : ∀ k, next.get? k = if k = h then now else heap.get? k)
    (found : heap.get? k = some entry) (other : heap.get? h ≠ some entry) : next.get? k = some entry := by
  rw [view,if_neg ?_,found]
  rintro rfl
  exact other found

theorem get?_putObject (found : heap.get? h = some entry) (k : Handle) :
    (heap.putObject h o).get? k = if k = h then some (.object o) else heap.get? k :=
  Arena.get?_set found k

theorem get?_setItems {items : List Handle} (found : heap.get? h = some entry) (k : Handle) :
    (heap.setItems h l items).get? k = if k = h then some (.list { l with items }) else heap.get? k :=
  Arena.get?_set found k

theorem size_put : (heap.put h entry).slots.size = heap.slots.size := by
  unfold put Arena.set
  split
  · split <;> simp
  · rfl

/-- An allocation that succeeds found room, and inserts the entry. -/
theorem alloc_eq_ok (made : heap.alloc settings entry = .ok (h,next)) :
    heap.insert settings.reuseSlots entry = (h,next) ∧
      ∀ limit, settings.maxObjects = some limit → heap.live < limit.toNat := by
  unfold alloc at made
  split at made
  · rename_i limit bounded
    split at made
    · cases made
    · rename_i room
      refine ⟨Except.ok.inj made,?_⟩
      intro other same
      rw [bounded] at same
      cases same
      omega
  · rename_i unbounded
    refine ⟨Except.ok.inj made,?_⟩
    intro limit bounded
    rw [unbounded] at bounded
    cases bounded

/-- An allocation issues a handle that referred to nothing and leaves the others alone. -/
theorem get?_alloc (sound : heap.Sound) (made : heap.alloc settings entry = .ok (h,next))
    (few : next.slots.size < 2 ^ 32) :
    heap.get? h = none ∧ ∀ k, next.get? k = if k = h then some entry else heap.get? k :=
  sound.get?_insert (alloc_eq_ok made).1 few

theorem sound_alloc (sound : heap.Sound) (made : heap.alloc settings entry = .ok (h,next))
    (few : next.slots.size < 2 ^ 32) : next.Sound :=
  sound.insert (alloc_eq_ok made).1 few

theorem size_alloc (made : heap.alloc settings entry = .ok (h,next)) : heap.slots.size ≤ next.slots.size := by
  have grown := Arena.size_insert heap settings.reuseSlots entry
  rw [(alloc_eq_ok made).1] at grown
  exact grown

theorem live_alloc (made : heap.alloc settings entry = .ok (h,next)) : next.live = heap.live + 1 := by
  have counted := Arena.live_insert heap settings.reuseSlots entry
  rwa [(alloc_eq_ok made).1] at counted

theorem created_alloc (made : heap.alloc settings entry = .ok (h,next)) : next.created = heap.created + 1 := by
  have counted := Arena.created_insert heap settings.reuseSlots entry
  rwa [(alloc_eq_ok made).1] at counted

theorem destroyed_alloc (made : heap.alloc settings entry = .ok (h,next)) : next.destroyed = heap.destroyed := by
  have counted := Arena.destroyed_insert heap settings.reuseSlots entry
  rwa [(alloc_eq_ok made).1] at counted

/-- Taking an entry out leaves its handle without one and the others alone. -/
theorem get?_take? (freed : heap.take? h = some (entry,next)) (k : Handle) :
    next.get? k = if k = h then none else heap.get? k :=
  Arena.get?_erase? freed k

theorem found_of_take? (freed : heap.take? h = some (entry,next)) : heap.get? h = some entry :=
  (Arena.erase?_eq_some freed).1

theorem size_take? (freed : heap.take? h = some (entry,next)) : next.slots.size = heap.slots.size :=
  Arena.size_erase? freed

end Heap

end HandleBridge
