import HandleBridge.Proofs.Copying

/-!
Calls that fail. A creation may have allocated before it fails, and it frees all of that again; all other calls check
before they change anything, and what they rely on after that never fails in a well formed heap. So nothing that a
caller can observe tells the heap after a failed call from the heap before it.
-/

namespace HandleBridge.Heap

variable {p : Package} {settings : HeapSettings} {heap next : Heap}

def observes : Call Value → Bool
  | .upcast _ | .classOf _ | .get _ _ _ | .isSet _ _ | .listSize _ | .listAt _ _ => true
  | _ => false

/-- Two heaps that no observation tells apart. What was allocated in between was freed again. -/
structure Unchanged (p : Package) (settings : HeapSettings) (before after : Heap) : Prop where
  live : ∀ h, after.isLive h = before.isLive h
  /-- Class, features, set marks and the elements of lists are answered as before. -/
  replies : ∀ c, observes c = true → (after.respond p settings c).1 = (before.respond p settings c).1
  contents : ∀ b, (after.list b).map ListData.items = (before.list b).map ListData.items
  count : after.live = before.live
  /-- The counts of what was made and destroyed grow by equal amounts. -/
  counters : ∃ n, after.created = before.created + n ∧ after.destroyed = before.destroyed + n

theorem find_congr (same : ∀ k, next.get? k = heap.get? k) (h : Handle) : next.find h = heap.find h := by
  simp only [find,same]

theorem object_congr (same : ∀ k, next.get? k = heap.get? k) (h : Handle) : next.object h = heap.object h := by
  simp only [object,find_congr same]

theorem list_congr (same : ∀ k, next.get? k = heap.get? k) (h : Handle) : next.list h = heap.list h := by
  simp only [list,find_congr same]

/-- Observations depend on what the handles refer to and on nothing else. -/
theorem respond_congr (same : ∀ k, next.get? k = heap.get? k) (c : Call Value) (looks : observes c = true) :
    (next.respond p settings c).1 = (heap.respond p settings c).1 := by
  cases c with
  | upcast h => simp only [respond,answer,observe,object_congr same]
  | classOf h => simp only [respond,answer,observe,object_congr same]
  | get h f resolve => simp only [respond,answer,observe,get,objectFeature,object_congr same]
  | isSet h f => simp only [respond,answer,observe,isSet,objectFeature,object_congr same,list_congr same]
  | listSize h => simp only [respond,answer,observe,listSize,list_congr same]
  | listAt h i => simp only [respond,answer,observe,listAt,list_congr same]
  | _ => cases looks

theorem Unchanged.of_same (same : ∀ k, next.get? k = heap.get? k) (soundBefore : heap.Sound) (sound : next.Sound)
    (destroyed : heap.destroyed ≤ next.destroyed) : Unchanged p settings heap next := by
  have live : ∀ h, next.isLive h = heap.isLive h := fun h => by rw [Arena.isLive,same,Arena.isLive]
  have count := sound.live_congr soundBefore live
  have balance := sound.balance
  have balanceBefore := soundBefore.balance
  refine ⟨live,respond_congr same,fun b => by rw [list_congr same],count,next.destroyed - heap.destroyed,?_,?_⟩
  · omega
  · omega

/-- A call that fails after any run changes nothing that can be observed. The slots that it makes before it gives up
need their handles too. -/
theorem failed_calls_change_nothing (built : p.Built) (addressable : p.Addressable) (settings : HeapSettings)
    (calls : List (Call Value)) (c : Call Value) (e : Error)
    (few : ((Heap.empty.after p settings calls).respond p settings c).2.slots.size < 2 ^ 32)
    (failed : ((Heap.empty.after p settings calls).respond p settings c).1 = .error e) :
    Unchanged p settings (Heap.empty.after p settings calls)
      ((Heap.empty.after p settings calls).respond p settings c).2 := by
  have fewBefore := Nat.lt_of_le_of_lt (size_respond built settings _ c) few
  have sound := sound_after built calls fewBefore
  have wellFormed := wellFormed_after built addressable .empty sound_empty fewBefore
  have evolves := respond_evolves built sound c few
  have outcome := respond_outcome settings c built addressable wellFormed sound few
  refine .of_same ?_ sound (evolves.sound sound few) evolves.destroyed_le
  generalize (Heap.empty.after p settings calls).respond p settings c = result at outcome failed ⊢
  cases outcome with
  | refused e next same => exact same
  | edited a next edits => cases failed
  | freed a h entry next found unowned done => cases failed

/-- There is room for a second node but not for its list. -/
theorem failed_creation_changes_nothing :
    ((Heap.empty.after forest { maxObjects := some 3 } [.create ⟨1⟩]).respond forest { maxObjects := some 3 }
        (.create ⟨1⟩)).1 = .error (.heapExhausted 3) ∧
      Unchanged forest { maxObjects := some 3 } (Heap.empty.after forest { maxObjects := some 3 } [.create ⟨1⟩])
        ((Heap.empty.after forest { maxObjects := some 3 } [.create ⟨1⟩]).respond forest { maxObjects := some 3 }
          (.create ⟨1⟩)).2 :=
  ⟨rfl,failed_calls_change_nothing forest_built forest_addressable { maxObjects := some 3 } [.create ⟨1⟩] (.create ⟨1⟩)
    (.heapExhausted 3) (by decide) rfl⟩

end HandleBridge.Heap
