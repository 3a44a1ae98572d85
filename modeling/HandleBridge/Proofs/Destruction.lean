import HandleBridge.Proofs.Invariants
import HandleBridge.Proofs.OwnedEntries
import HandleBridge.Proofs.Readings
import HandleBridge.Proofs.Typing

/-!
Destroying. What goes with an object are the lists behind its many-valued features and nothing else, whatever refers
to the object, whatever it refers to, and however often it is its own element. All that is left reads as before, and
the counts move by the number of entries that were freed (`destroy_frees_owned`).
-/

namespace HandleBridge.Heap

variable {p : Package} {settings : HeapSettings} {heap next : Heap} {h k b r owner : Handle} {o : ObjectData}
  {l : ListData} {freed : List Handle}

/-- Whether the listed handles, each once, are those that are live in one heap and no longer in the other. -/
structure Frees (heap : Heap) (freed : List Handle) (next : Heap) : Prop where
  once : freed.Nodup
  exact : ∀ k, k ∈ freed ↔ heap.isLive k = true ∧ next.isLive k = false

theorem frees_nothing (heap : Heap) : Frees heap [] heap := by
  refine ⟨List.nodup_nil,fun k => iff_of_false List.not_mem_nil ?_⟩
  rintro ⟨live,dead⟩
  cases live.symm.trans dead

theorem isLive_take? {entry : Entry} (taken : heap.take? h = some (entry,next)) (k : Handle) :
    next.isLive k = true ↔ k ≠ h ∧ heap.isLive k = true := by
  by_cases same : k = h
  · simp [Arena.isLive,get?_take? taken,same]
  · simp [Arena.isLive,get?_take? taken,same]

/-- What was freed first is not freed again, as nothing is made in between. -/
theorem Frees.cons {entry : Entry} {last : Heap} (taken : heap.take? h = some (entry,next))
    (frees : Frees next freed last) (stays : ∀ k, last.isLive k = true → next.isLive k = true) :
    Frees heap (h :: freed) last := by
  have view := isLive_take? taken
  have dead : next.isLive h = false := by simpa using mt (view h).mp (by simp)
  have live : heap.isLive h = true := Arena.isLive_iff.mpr ⟨entry,found_of_take? taken⟩
  refine ⟨List.nodup_cons.mpr ⟨?_,frees.once⟩,?_⟩
  · intro again
    cases dead.symm.trans ((frees.exact h).mp again).1
  · intro k
    rw [List.mem_cons,frees.exact,view]
    by_cases here : k = h
    · subst here
      have gone : last.isLive k = false := by
        cases back : last.isLive k with
        | false => rfl
        | true => rw [← dead,stays k back]
      simp [live,gone]
    · simp [here]

/-- Replacing an entry first neither makes nor frees. -/
theorem Frees.put {entry : Entry} (frees : Frees (heap.put h entry) freed next) : Frees heap freed next where
  once := frees.once
  exact k := by rw [frees.exact,Heap.put,Arena.isLive_set]

/-- Steps that make nothing bring nothing to life, and free what they list. -/
theorem Evolves.frees (evolves : Evolves settings (freed.map .freed) heap next) :
    Frees heap freed next ∧ ∀ k, next.isLive k = true → heap.isLive k = true := by
  generalize listed : freed.map Life.freed = lives at evolves
  induction evolves generalizing freed with
  | refl heap =>
    obtain rfl := List.map_eq_nil_iff.mp listed
    exact ⟨frees_nothing heap,fun _ live => live⟩
  | make made plain _ ih => cases freed <;> cases listed
  | free taken orphan _ ih =>
    cases freed with
    | nil => cases listed
    | cons first rest =>
      obtain ⟨same,others⟩ := List.cons.inj listed
      cases same
      obtain ⟨frees,stays⟩ := ih others
      exact ⟨frees.cons taken stays,fun k live => ((isLive_take? taken k).mp (stays k live)).2⟩
  | items found _ ih =>
    obtain ⟨frees,stays⟩ := ih listed
    exact ⟨frees.put,fun k live => Arena.isLive_set k ▸ stays k live⟩
  | object found _ _ ih =>
    obtain ⟨frees,stays⟩ := ih listed
    exact ⟨frees.put,fun k live => Arena.isLive_set k ▸ stays k live⟩

theorem Evolves.counted_freed (evolves : Evolves settings (freed.map .freed) heap next) :
    next.created = heap.created ∧ next.destroyed = heap.destroyed + freed.length := by
  simpa [List.countP_map,Function.comp_def,Life.begins] using evolves.counted

theorem discardLives_eq (h : Handle) (heap : Heap) : ∃ freed : List Handle, heap.discardLives h = freed.map .freed := by
  have backing : ∀ (heap : Heap) value, ∃ freed : List Handle, heap.backingLives h value = freed.map .freed := by
    intro heap value
    by_cases owned : ∃ b, value = .list b ∧ heap.Owns h b
    · obtain ⟨b,rfl,owns⟩ := owned
      exact ⟨[b],backingLives_of_owns owns⟩
    · exact ⟨[],backingLives_of_not_owns fun b isList owns => owned ⟨b,isList,owns⟩⟩
  have values : ∀ values (heap : Heap), ∃ freed : List Handle, valuesLives h values heap = freed.map .freed := by
    intro values
    induction values with
    | nil => exact fun _ => ⟨[],rfl⟩
    | cons value rest ih =>
      intro heap
      obtain ⟨first,isFirst⟩ := backing heap value
      obtain ⟨others,areOthers⟩ := ih (heap.eraseBacking h value)
      exact ⟨first ++ others,by rw [valuesLives,isFirst,areOthers,List.map_append]⟩
  unfold discardLives
  split
  · exact ⟨[],rfl⟩
  · rename_i o rest taken
    obtain ⟨freed,areFreed⟩ := values (o.fields.map Field.value) rest
    exact ⟨h :: freed,by rw [areFreed,List.map_cons]⟩
  · exact ⟨[h],rfl⟩

/-- Whether the handle refers to a list behind a many-valued feature. -/
def IsBacking (p : Package) (heap : Heap) (b : Handle) : Prop := ∃ owner i, HeldAt p heap b owner i

/-- What goes with `h`: it itself and the lists behind the many-valued features of the object that it refers to. -/
def GoesWith (p : Package) (heap : Heap) (h k : Handle) : Prop := k = h ∨ ∃ i, HeldAt p heap k h i

/-- The lists behind the features of an object are the lists that it owns. -/
theorem WellFormed.heldAt_iff (wellFormed : WellFormed p heap) : (∃ i, HeldAt p heap b h i) ↔ heap.Owns h b := by
  constructor
  · rintro ⟨i,o,-,-,field,-,found,-,-,-,there,isList⟩
    obtain ⟨cls,object⟩ := wellFormed.objects h o found
    exact object.owns (ObjectData.holds_iff.mpr ⟨i,field,there,isList⟩)
  · rintro ⟨l,atList,owned⟩
    obtain ⟨i,held,-⟩ := wellFormed.owned.placed b l h atList owned
    exact ⟨i,held⟩

theorem WellFormed.holds_of_owns (wellFormed : WellFormed p heap) (found : heap.get? h = some (.object o))
    (owns : heap.Owns h b) : o.Holds b := by
  obtain ⟨l,atList,owned⟩ := owns
  obtain ⟨other,there,holds⟩ := wellFormed.held b l h atList owned
  cases found.symm.trans there
  exact holds

/-- A live handle is at the top, or it refers to a list behind a feature. -/
theorem WellFormed.top_iff (wellFormed : WellFormed p heap) :
    heap.Top h ↔ heap.isLive h = true ∧ ¬ IsBacking p heap h := by
  constructor
  · intro top
    obtain ⟨entry,found,-⟩ := id top
    refine ⟨Arena.isLive_iff.mpr ⟨entry,found⟩,?_⟩
    rintro ⟨owner,held⟩
    exact not_top_of_owns (wellFormed.heldAt_iff.mp held) top
  · rintro ⟨live,free⟩
    obtain ⟨entry,found⟩ := Arena.isLive_iff.mp live
    refine ⟨entry,found,?_⟩
    rintro l rfl
    cases owned : l.owner with
    | none => rfl
    | some owner => exact absurd ⟨owner,wellFormed.heldAt_iff.mpr ⟨l,found,owned⟩⟩ free

/-- Destroying takes away what goes with the handle, and it changes nothing else. -/
theorem WellFormed.get?_of_destroy (wellFormed : WellFormed p heap) (done : destroy h heap = .ok next) (k : Handle) :
    GoesWith p heap h k ∧ next.get? k = none ∨ ¬ GoesWith p heap h k ∧ next.get? k = heap.get? k := by
  obtain ⟨⟨entry,found,unowned⟩,discarded⟩ := destroy_eq_ok done
  rw [GoesWith,wellFormed.heldAt_iff]
  cases entry with
  | object o =>
    have owned : (o.Holds k ∧ heap.Owns h k) ↔ heap.Owns h k := and_iff_right_of_imp (wellFormed.holds_of_owns found)
    have view := get?_discard found discarded k
    rwa [owned] at view
  | list l =>
    have none : ¬ heap.Owns h k := by
      rintro ⟨other,atList,owned⟩
      obtain ⟨o,there,-⟩ := wellFormed.held k other h atList owned
      cases found.symm.trans there
    rw [or_iff_left none]
    cases discard_eq_ok discarded with
    | object o rest taken erased => cases found.symm.trans (found_of_take? taken)
    | list l' taken =>
      by_cases same : k = h
      · exact .inl ⟨same,by rw [get?_take? taken,if_pos same]⟩
      · exact .inr ⟨same,by rw [get?_take? taken,if_neg same]⟩

/-- What is left does not go with the handle, and it is as it was. -/
theorem WellFormed.kept_of_destroy (wellFormed : WellFormed p heap) (done : destroy h heap = .ok next)
    (left : next.isLive k = true) : ¬ GoesWith p heap h k ∧ next.get? k = heap.get? k := by
  rcases wellFormed.get?_of_destroy done k with ⟨-,gone⟩ | kept
  · rw [Arena.isLive_false_iff.mpr gone] at left
    cases left
  · exact kept

/-- Whatever else can be destroyed is left. -/
theorem WellFormed.stays_of_destroy (wellFormed : WellFormed p heap) (done : destroy h heap = .ok next)
    (other : k ≠ h) (top : heap.Top k) : next.get? k = heap.get? k := by
  rcases wellFormed.get?_of_destroy done k with ⟨same | held,-⟩ | ⟨-,kept⟩
  · exact absurd same other
  · exact absurd top (not_top_of_owns (wellFormed.heldAt_iff.mp held))
  · exact kept

/-- What destroying takes away is exactly what goes with the handle. -/
theorem WellFormed.gone_iff_of_destroy (wellFormed : WellFormed p heap) (done : destroy h heap = .ok next)
    (k : Handle) : heap.isLive k = true ∧ next.isLive k = false ↔ GoesWith p heap h k := by
  rcases wellFormed.get?_of_destroy done k with ⟨goes,vacant⟩ | ⟨remains,same⟩
  · refine iff_of_true ⟨?_,Arena.isLive_false_iff.mpr vacant⟩ goes
    rcases goes with rfl | held
    · obtain ⟨⟨entry,found,-⟩,-⟩ := destroy_eq_ok done
      exact Arena.isLive_iff.mpr ⟨entry,found⟩
    · obtain ⟨l,atList,-⟩ := wellFormed.heldAt_iff.mp held
      exact Arena.isLive_iff.mpr ⟨.list l,atList⟩
  · refine iff_of_false ?_ remains
    rintro ⟨live,dead⟩
    rw [Arena.isLive,same,← Arena.isLive,live] at dead
    cases dead

/-- An object that is left is left with all of its lists. -/
theorem WellFormed.preserved_of_destroy (wellFormed : WellFormed p heap) (done : destroy h heap = .ok next)
    (left : next.isLive k = true) (found : heap.get? k = some (.object o)) : Preserved heap k next := by
  obtain ⟨remains,same⟩ := wellFormed.kept_of_destroy done left
  refine ⟨⟨o,o,found,same.trans found,rfl,fun _ => rfl⟩,?_⟩
  intro f b backs
  have owns := wellFormed.backed backs
  rcases wellFormed.get?_of_destroy done b with ⟨rfl | held,-⟩ | ⟨-,kept⟩
  · exact absurd (destroy_eq_ok done).1 (not_top_of_owns owns)
  · -- The list would be owned by both objects, so it is the object that goes.
    obtain ⟨l,atList,owned⟩ := owns
    obtain ⟨l',atList',owned'⟩ := wellFormed.heldAt_iff.mp held
    cases atList.symm.trans atList'
    cases owned.symm.trans owned'
    exact absurd (.inl rfl) remains
  · exact kept

/-- Destroying only frees. -/
theorem destroy_evolves (settings : HeapSettings) (done : destroy h heap = .ok next) :
    ∃ freed : List Handle, Evolves settings (freed.map .freed) heap next := by
  obtain ⟨⟨entry,found,unowned⟩,discarded⟩ := destroy_eq_ok done
  obtain ⟨freed,listed⟩ := discardLives_eq h heap
  refine ⟨freed,listed ▸ discard_evolves discarded fun l owner atList owned => ?_⟩
  cases found.symm.trans atList
  cases (unowned l rfl).symm.trans owned

/-! ### Destroying at the boundary -/

/-- The heap after `h` was destroyed: exactly what goes with `h` is gone, and the rest reads as before. -/
structure Removed (p : Package) (settings : HeapSettings) (heap : Heap) (h : Handle) (next : Heap) : Prop where
  gone : ∀ k, heap.isLive k = true ∧ next.isLive k = false ↔ GoesWith p heap h k
  kept : ∀ k, next.isLive k = true → next.get? k = heap.get? k
  /-- References to `h` that are stored elsewhere are read as before too. -/
  replies : ∀ k c, next.isLive k = true → observes c = true → c.target = k →
    (next.respond p settings c).1 = (heap.respond p settings c).1
  /-- Other objects stay, be they elements of the lists that go or referenced by the object. -/
  objects : ∀ k o, k ≠ h → heap.get? k = some (.object o) → next.get? k = some (.object o)
  /-- Other lists that no object owns stay, be they assigned to features of the object. -/
  lists : ∀ b l, b ≠ h → heap.get? b = some (.list l) → l.owner = none → next.get? b = some (.list l)
  counts : ∃ freed : List Handle, freed.Nodup ∧ (∀ k, k ∈ freed ↔ GoesWith p heap h k) ∧
    next.live + freed.length = heap.live ∧ next.destroyed = heap.destroyed + freed.length ∧
    next.created = heap.created

/-- What destroying does: it fails for what is not live and for lists behind features, and otherwise it takes away
what goes with the handle. -/
structure Destroys (p : Package) (settings : HeapSettings) (heap : Heap) (h : Handle) : Prop where
  succeeds : (∃ next, heap.respond p settings (.destroy h) = (.ok (),next)) ↔
    heap.isLive h = true ∧ ¬ IsBacking p heap h
  backing : ∀ owner i, HeldAt p heap h owner i → heap.respond p settings (.destroy h) =
    (.error (.native (-2) s!"list {h.display} is owned by object {owner.display}"),heap)
  null : h = .null → heap.respond p settings (.destroy h) = (.error .nullHandle,heap)
  stale : h ≠ .null → heap.isLive h = false → heap.respond p settings (.destroy h) = (.error (.staleHandle h),heap)
  removes : ∀ next, heap.respond p settings (.destroy h) = (.ok (),next) → Removed p settings heap h next

/-- The object `h` refers to the handle, or a list behind one of its features has it as an element. -/
def Mentions (p : Package) (heap : Heap) (h r : Handle) : Prop :=
  (∃ t, PointsTo p heap h t r) ∨ ∃ b i l, HeldAt p heap b h i ∧ heap.get? b = some (.list l) ∧ r ∈ l.items

theorem respond_destroy (p : Package) (settings : HeapSettings) (heap : Heap) (h : Handle) :
    heap.respond p settings (.destroy h) = commit (destroy h) heap := rfl

theorem respond_destroy_of_error {e : Error} (failed : destroy h heap = .error e) :
    heap.respond p settings (.destroy h) = (.error e,heap) := by
  simp only [respond_destroy,commit,failed]

theorem respond_destroy_eq_ok_iff :
    heap.respond p settings (.destroy h) = (.ok (),next) ↔ destroy h heap = .ok next := by
  rw [respond_destroy,commit]
  cases destroy h heap <;> simp

/-- A list with an owner is not destroyed by itself. -/
theorem destroy_of_owns (owns : heap.Owns owner h) : destroy h heap =
    .error (.native (-2) s!"list {h.display} is owned by object {owner.display}") := by
  obtain ⟨⟨elementClass,items,_⟩,atList,rfl⟩ := owns
  rw [destroy,find_eq_ok_iff.mpr atList]
  rfl

theorem destroy_of_find_error {e : Error} (lost : heap.find h = .error e) : destroy h heap = .error e := by
  rw [destroy,lost]
  rfl

section
variable (wellFormed : WellFormed p heap) (sound : heap.Sound)
include wellFormed sound

theorem removed_of_destroy (few : heap.slots.size < 2 ^ 32) (done : destroy h heap = .ok next) :
    Removed p settings heap h next := by
  refine ⟨wellFormed.gone_iff_of_destroy done,fun k left => (wellFormed.kept_of_destroy done left).2,?_,?_,?_,?_⟩
  · intro k c left looks target
    obtain ⟨-,same⟩ := wellFormed.kept_of_destroy done left
    obtain ⟨entry,there⟩ := Arena.isLive_iff.mp left
    have before := same.symm.trans there
    cases entry with
    | object o => exact (wellFormed.preserved_of_destroy done left before).readsAs wellFormed c looks (.inl target)
    | list l => exact replies_of_list before there looks target
  · intro k o other found
    exact (wellFormed.stays_of_destroy done other ⟨_,found,nofun⟩).trans found
  · intro b l other atList unowned
    have top : heap.Top b := ⟨_,atList,fun l' same => Entry.list.inj same ▸ unowned⟩
    exact (wellFormed.stays_of_destroy done other top).trans atList
  · obtain ⟨freed,evolves⟩ := destroy_evolves settings done
    obtain ⟨frees,-⟩ := evolves.frees
    have steady := evolves.sound sound (size_discard (destroy_eq_ok done).2 ▸ few)
    have balance := sound.balance
    have balanceNow := steady.balance
    obtain ⟨created,destroyed⟩ := evolves.counted_freed
    refine ⟨freed,frees.once,?_,by omega,destroyed,created⟩
    intro k
    rw [frees.exact,wellFormed.gone_iff_of_destroy done]

/-- In a heap in order, destroying does what it should for every handle. -/
theorem destroys (settings : HeapSettings) (h : Handle) (few : heap.slots.size < 2 ^ 32) :
    Destroys p settings heap h where
  succeeds := by
    rw [← wellFormed.top_iff]
    constructor
    · rintro ⟨next,done⟩
      exact (destroy_eq_ok (respond_destroy_eq_ok_iff.mp done)).1
    · intro top
      obtain ⟨next,done,-⟩ := destroy_of_top top
      exact ⟨next,respond_destroy_eq_ok_iff.mpr done⟩
  backing owner i held := respond_destroy_of_error (destroy_of_owns (wellFormed.heldAt_iff.mp ⟨i,held⟩))
  null isNull := by
    subst isNull
    exact respond_destroy_of_error (destroy_of_find_error rfl)
  stale notNull dead := by
    refine respond_destroy_of_error (destroy_of_find_error ?_)
    have notNull : h.isNull = false := Bool.eq_false_iff.mpr (mt (Handle.isNull_eq_true_iff h).mp notNull)
    simp [find,notNull,Arena.isLive_false_iff.mp dead]
  removes next done := removed_of_destroy wellFormed sound few (respond_destroy_eq_ok_iff.mp done)

end

/-- In a run that lets no generation come round, what an object mentions is still an object if it is live. -/
theorem object_of_mentioned {calls : List (Call Value)} (built : p.Built) (addressable : p.Addressable)
    (bounded : Bounded p settings calls) (mentions : Mentions p (Heap.empty.after p settings calls) h r)
    (live : (Heap.empty.after p settings calls).isLive r = true) :
    ∃ o, (Heap.empty.after p settings calls).get? r = some (.object o) := by
  have typed := typed_of_bounded built addressable bounded
  have refers : ∃ expected, Refers p (Destroyed p settings calls) (Heap.empty.after p settings calls) expected r := by
    rcases mentions with ⟨t,points⟩ | ⟨b,i,l,-,atList,member⟩
    · exact ⟨t.id,typed.references h t r points⟩
    · exact ⟨l.elementClass,typed.items b l atList r member⟩
  obtain ⟨expected,isNull | ⟨-,dead⟩ | ⟨o,found,-⟩⟩ := refers
  · subst isNull
    rw [Arena.isLive_iff,Arena.get?_null] at live
    obtain ⟨x,impossible⟩ := live
    cases impossible
  · cases dead.symm.trans live
  · exact ⟨o,found⟩

/-- After every run, destroying frees exactly the handle and what is owned by its object. What the object refers to
and the elements of its lists stay live, as no handle is issued twice within the generations of a slot. -/
theorem destroy_frees_owned (built : p.Built) (addressable : p.Addressable) (settings : HeapSettings)
    (calls : List (Call Value)) (h : Handle) (few : (Heap.empty.after p settings calls).slots.size < 2 ^ 32) :
    Destroys p settings (Heap.empty.after p settings calls) h ∧
    (Bounded p settings calls → ∀ next r,
      (Heap.empty.after p settings calls).respond p settings (.destroy h) = (.ok (),next) →
      Mentions p (Heap.empty.after p settings calls) h r → r ≠ h →
      (Heap.empty.after p settings calls).isLive r = true → next.isLive r = true) := by
  have sound := sound_after built calls few
  have wellFormed := wellFormed_after built addressable .empty sound_empty few
  have destroying := destroys wellFormed sound settings h few
  refine ⟨destroying,?_⟩
  intro bounded next r done mentions other live
  obtain ⟨o,found⟩ := object_of_mentioned built addressable bounded mentions live
  exact Arena.isLive_iff.mpr ⟨_,(destroying.removes next done).objects r o other found⟩

/-- A node with a tag, whose children are given by a list of their own: another node, and then the node itself. The
other node has it as a child in turn. -/
def knottedNode : List (Call Value) :=
  [.create ⟨1⟩,.create ⟨0⟩,.set (.ofSlot 0 1) ⟨0⟩ (.object (.ofSlot 2 1)),.create ⟨1⟩,.createList ⟨1⟩,
    .pushBack (.ofSlot 5 1) (.ofSlot 3 1),.set (.ofSlot 0 1) ⟨1⟩ (.list (.ofSlot 5 1)),
    .pushBack (.ofSlot 1 1) (.ofSlot 0 1),.pushBack (.ofSlot 4 1) (.ofSlot 0 1)]

/-- The node goes with one list. The tag, the other node and the given list stay, and the child is still listed. -/
theorem destroy_of_knottedNode :
    ∃ next, (Heap.empty.after forest {} knottedNode).respond forest {} (.destroy (.ofSlot 0 1)) = (.ok (),next) ∧
      Removed forest {} (Heap.empty.after forest {} knottedNode) (.ofSlot 0 1) next ∧
      GoesWith forest (Heap.empty.after forest {} knottedNode) (.ofSlot 0 1) (.ofSlot 1 1) ∧
      next.live = 4 ∧ next.destroyed = 2 ∧ next.contents (.ofSlot 4 1) = some [.ofSlot 0 1] ∧
      next.isLive (.ofSlot 2 1) = true ∧ next.isLive (.ofSlot 5 1) = true := by
  have bounded : Bounded forest {} knottedNode := bounded_of_short (by decide) (by decide)
  obtain ⟨destroying,spares⟩ :=
    destroy_frees_owned forest_built forest_addressable {} knottedNode (.ofSlot 0 1) bounded.few
  have removed := destroying.removes _ rfl
  have tag : Mentions forest (Heap.empty.after forest {} knottedNode) (.ofSlot 0 1) (.ofSlot 2 1) :=
    .inl ⟨_,_,_,0,_,_,_,rfl,rfl,rfl,rfl,rfl,rfl,rfl⟩
  refine ⟨_,rfl,removed,(removed.gone _).mp ⟨by decide,by decide⟩,rfl,rfl,rfl,?_,?_⟩
  · exact spares bounded _ _ rfl tag (by decide) (by decide)
  · exact Arena.isLive_iff.mpr ⟨_,removed.lists _ _ (by decide) rfl rfl⟩

end HandleBridge.Heap
