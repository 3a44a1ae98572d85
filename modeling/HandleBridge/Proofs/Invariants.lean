import HandleBridge.Proofs.Copying

/-!
What holds of the heap after every run, whatever its calls were given and however many of them failed: the free list
and the counts are exact, and lists and the objects that own them belong together one to one.
-/

namespace HandleBridge.Heap

variable {p : Package} {settings : HeapSettings} {heap : Heap} {h b : Handle} {o : ObjectData} {l : ListData}

/-- The free list holds each empty slot once, generations have started, and the counts are those of the slots. -/
structure Accounted (settings : HeapSettings) (heap : Heap) : Prop where
  distinct : heap.free.Nodup
  waiting : ∀ i : UInt32, i ∈ heap.free ↔ ∃ slot, heap.slots[i.toNat]? = some slot ∧ slot.entry = none
  generations : ∀ (i : Nat) slot, heap.slots[i]? = some slot → 1 ≤ slot.generation.toNat
  occupied : heap.live = heap.slots.countP (·.entry.isSome)
  balance : heap.destroyed ≤ heap.created ∧ heap.live = heap.created - heap.destroyed
  room : ∀ limit, settings.maxObjects = some limit → heap.live ≤ limit.toNat

/-- The object `h` has the list behind the many-valued feature at place `i` of its class. -/
def HeldAt (p : Package) (heap : Heap) (b h : Handle) (i : Nat) : Prop :=
  ∃ o cls feature field target, heap.get? h = some (.object o) ∧ p.class? o.cls = some cls ∧
    cls.features[i]? = some feature ∧ feature.kind = .reference target true ∧ o.fields[i]? = some field ∧
    field.value = .list b

/-- Many-valued features have lists that their objects own, and lists with an owner have their place in it. -/
structure Owned (p : Package) (heap : Heap) : Prop where
  /-- Behind every many-valued feature is a live list of the object, with the target as its element class. -/
  backed : ∀ h o, heap.get? h = some (.object o) → ∃ cls, p.class? o.cls = some cls ∧
    ∀ (i : Nat) feature target, cls.features[i]? = some feature → feature.kind = .reference target true →
      ∃ field b l t, o.fields[i]? = some field ∧ field.value = .list b ∧ heap.get? b = some (.list l) ∧
        l.owner = some h ∧ p.classNamed? target = some t ∧ l.elementClass = t.id
  /-- A list with an owner is behind one feature of it and behind no other feature of any object. -/
  placed : ∀ b l owner, heap.get? b = some (.list l) → l.owner = some owner →
    ∃ i, HeldAt p heap b owner i ∧ ∀ h j, HeldAt p heap b h j → h = owner ∧ j = i

/-- In a well formed heap lists and the features that have them belong together one to one. -/
theorem WellFormed.owned (wellFormed : WellFormed p heap) : Owned p heap := by
  refine ⟨?_,?_⟩
  · intro h o found
    obtain ⟨cls,object⟩ := wellFormed.objects h o found
    refine ⟨cls,object.known,?_⟩
    intro i feature target row isMany
    have inside : i < o.fields.length := object.length.symm ▸ (List.getElem?_eq_some_iff.mp row).1
    have there : o.fields[i]? = some o.fields[i] := List.getElem?_eq_getElem inside
    have fits := object.fits i feature _ row there
    rw [isMany] at fits
    obtain ⟨b,l,t,isList,atList,owned,named,ofClass⟩ := fits
    exact ⟨_,b,l,t,there,isList,atList,owned,named,ofClass⟩
  · intro b l owner atList owned
    obtain ⟨o,found,holds⟩ := wellFormed.held b l owner atList owned
    obtain ⟨cls,object⟩ := wellFormed.objects owner o found
    obtain ⟨i,field,there,isList⟩ := ObjectData.holds_iff.mp holds
    obtain ⟨feature,row,fits⟩ := object.feature_of_field there
    rw [isList] at fits
    obtain ⟨target,-,-,isMany,-⟩ := fits.many_of_list
    refine ⟨i,⟨o,cls,feature,field,target,found,object.known,row,isMany,there,isList⟩,?_⟩
    rintro h j ⟨other,-,-,second,-,found',-,-,-,there',isList'⟩
    obtain ⟨cls',object'⟩ := wellFormed.objects h other found'
    -- The holder of a list is its owner, and it holds no list twice.
    obtain ⟨l',atList',owned'⟩ := object'.owns (ObjectData.holds_iff.mpr ⟨j,second,there',isList'⟩)
    cases atList.symm.trans atList'
    cases owned.symm.trans owned'
    cases found.symm.trans found'
    exact ⟨rfl,object.distinct j i second field b there' there isList' isList⟩

theorem accounted_after {calls : List (Call Value)} (built : p.Built)
    (few : (Heap.empty.after p settings calls).slots.size < 2 ^ 32) :
    Accounted settings (Heap.empty.after p settings calls) := by
  have evolves := after_evolves built sound_empty calls few
  have sound := evolves.sound sound_empty few
  have balance := sound.balance
  refine ⟨sound.distinct,sound.waiting,sound.generations,sound.live,⟨by omega,by omega⟩,?_⟩
  intro limit bounded
  exact evolves.live_le bounded (Nat.zero_le _)

/-- After every run the slots are accounted for and the lists of objects belong to them one to one. -/
theorem arena_and_ownership_kept (built : p.Built) (addressable : p.Addressable) (settings : HeapSettings)
    (calls : List (Call Value)) (few : (Heap.empty.after p settings calls).slots.size < 2 ^ 32) :
    Accounted settings (Heap.empty.after p settings calls) ∧ Owned p (Heap.empty.after p settings calls) :=
  ⟨accounted_after built few,(wellFormed_after built addressable .empty sound_empty few).owned⟩

/-- A node gets a leaf as its child and is copied, a tag is refused as a child, and the leaf is destroyed. -/
theorem arena_and_ownership_kept_forest :
    Owned forest (Heap.empty.after forest {} [.create ⟨1⟩,.create ⟨2⟩,.pushBack (.ofSlot 1 1) (.ofSlot 2 1),
      .copy (.ofSlot 0 1),.create ⟨0⟩,.pushBack (.ofSlot 1 1) (.ofSlot 6 1),.destroy (.ofSlot 2 1)]) :=
  (arena_and_ownership_kept forest_built forest_addressable {} _ (by decide)).2

end HandleBridge.Heap
