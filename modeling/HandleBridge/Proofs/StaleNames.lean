import HandleBridge.Proofs.ForeignCalls

/-!
Which handle an error of a destroyed object names, when the call went through a foreign library. Only a status comes
back, and the adapter names the handle that the call is about. The heap names the handle that it looked up in vain,
which may be another one: an element, a source list or one of its items.
-/

namespace HandleBridge

/-- Only one error of the heap has the status of destroyed objects. -/
theorem Error.OfHeap.eq_staleHandle {dead : Handle → Prop} {e : Error} (own : e.OfHeap dead)
    (status : e.status = Foreign.Status.staleHandle) : ∃ k, e = .staleHandle k := by
  cases own with
  | staleHandle k => exact ⟨k,rfl⟩
  | _ =>
    simp only [Error.status] at status
    exact absurd status (by decide)

namespace Foreign

/-- What there is to say of a handle that an error of the adapter calls stale: it is what the call is about, and the
heap named a handle without an object, this one or another one of the call. -/
structure Library.Blames (p : Package) (settings : HeapSettings) (library : Library) (c : Call Value) (h : Handle) :
    Prop where
  target : h = c.target
  source : ∃ k, (library.native.heap.respond p settings c).1 = .error (.staleHandle k) ∧
    library.native.heap.Dead k ∧ (k = c.target ∨ library.native.heap.Names c k)

variable {p : Package} {settings : HeapSettings} {library : Library} {c : Call Value} {h : Handle}

theorem blames_of_stale (regular : library.native.heap.Regular p settings c) (unscripted : library.faults = [])
    (stale : ((Adapter.call p c).run (Library.answer p settings) library).1 = .error (.staleHandle h)) :
    library.Blames p settings c h := by
  obtain ⟨related,-⟩ := Adapter.leads_call c library ⟨rfl,unscripted⟩
  rw [stale] at related
  have own : FailsOnly (Error.OfHeap fun _ => True) (library.native.heap.respond p settings c).1 :=
    Heap.respond_fails c (fun _ _ _ => trivial) (.inl fun _ => trivial)
  have found {k : Handle} (failed : (library.native.heap.respond p settings c).1 = .error (.staleHandle k)) :=
    Heap.stale_of_respond regular failed
  generalize replied : (library.native.heap.respond p settings c).1 = result at related own found
  cases related with
  | @error e _ restates =>
    obtain ⟨status,named⟩ := restates
    obtain ⟨k,rfl⟩ := (own e rfl).eq_staleHandle status
    exact ⟨named h rfl,k,replied,found rfl⟩

/-- After any run, an error of the adapter that speaks of a destroyed object names what the call is about. If nothing
else that the call names is dead, it is gone indeed and the heap names it too; else the heap may name another one. -/
theorem stale_error_names_target (built : p.Built) (addressable : p.Addressable) (calls : List (Call Value))
    (unscripted : library.faults = []) (reached : library.native.heap = Heap.empty.after p settings calls)
    (few : (library.native.heap.respond p settings c).2.slots.size < 2 ^ 32)
    (stale : ((Adapter.call p c).run (Library.answer p settings) library).1 = .error (.staleHandle h)) :
    library.Blames p settings c h ∧
      ((∀ k, library.native.heap.Names c k → ¬library.native.heap.Dead k) →
        library.native.heap.isLive h = false ∧
          (library.native.heap.respond p settings c).1 = .error (.staleHandle h)) := by
  have regular : library.native.heap.Regular p settings c := by
    rw [reached] at few ⊢
    exact Heap.regular_after built addressable few
  have blames := blames_of_stale regular unscripted stale
  refine ⟨blames,fun alive => ?_⟩
  obtain ⟨k,failed,gone,named⟩ := blames.source
  have same : k = h := (named.resolve_right fun named => alive k named gone).trans blames.target.symm
  rw [← same]
  exact ⟨Arena.isLive_false_iff.mpr gone.2,failed⟩

/-- Calls that leave a free-standing list of nodes alive and a node, with its own list, gone. -/
def listOutlivesNode : List (Call Value) := [.createList ⟨1⟩,.create ⟨1⟩,.destroy (.ofSlot 1 1)]

def afterListOutlivesNode : Library := { native := ⟨Heap.empty.after forest {} listOutlivesNode,#[]⟩ }

/-- Appending the node to the list is refused with an error that calls the list stale, while the list is alive and the
heap names the node. -/
theorem stale_error_names_live_list :
    ((Adapter.call forest (.pushBack (.ofSlot 0 1) (.ofSlot 1 1))).run (Library.answer forest {})
        afterListOutlivesNode).1 = .error (.staleHandle (.ofSlot 0 1)) ∧
      afterListOutlivesNode.native.heap.isLive (.ofSlot 0 1) = true ∧
      (afterListOutlivesNode.native.heap.respond forest {} (.pushBack (.ofSlot 0 1) (.ofSlot 1 1))).1 =
        .error (.staleHandle (.ofSlot 1 1)) :=
  ⟨rfl,rfl,rfl⟩

/-- Appending null to the node that is gone names the node. -/
theorem stale_error_names_node :
    afterListOutlivesNode.Blames forest {} (.pushBack (.ofSlot 1 1) .null) (.ofSlot 1 1) ∧
      afterListOutlivesNode.native.heap.isLive (.ofSlot 1 1) = false := by
  have few : (afterListOutlivesNode.native.heap.respond forest {} (.pushBack (.ofSlot 1 1) .null)).2.slots.size < 2 ^ 32 :=
    by decide +kernel
  obtain ⟨blames,gone⟩ := stale_error_names_target forest_built forest_addressable listOutlivesNode rfl rfl few rfl
  refine ⟨blames,(gone ?_).1⟩
  rintro _ ⟨⟩ ⟨notNull,-⟩
  cases notNull

end Foreign

end HandleBridge
