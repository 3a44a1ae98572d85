import HandleBridge.Proofs.Frames

/-!
Lists as sequences. An operation on a list does to its elements what it does to a sequence, and it does nothing else.
No two lists share their elements: a list that was assigned or copied goes its own way from then on.
-/

namespace HandleBridge.Heap

variable {p : Package} {settings : HeapSettings} {heap next : Heap} {h k b m made : Handle} {f : FeatureId}
  {l : ListData} {elements xs : List Handle} {calls : List (Call Value)}

/-- The list `b` has other elements, and no other list, no value of an object and no life is different. -/
structure Rewritten (p : Package) (settings : HeapSettings) (heap : Heap) (b : Handle) (elements : List Handle)
    (next : Heap) : Prop where
  here : next.contents b = some elements
  others : ∀ k, k ≠ b → next.contents k = heap.contents k
  values : ∀ h f resolve, (next.respond p settings (.get h f resolve)).1 =
    (heap.respond p settings (.get h f resolve)).1
  lives : ∀ k, next.isLive k = heap.isLive k

/-- What the list `b` does as the sequence `xs`. -/
structure Sequence (p : Package) (settings : HeapSettings) (heap : Heap) (b : Handle) (xs : List Handle) : Prop where
  pushBack : ∀ e next, heap.respond p settings (.pushBack b e) = (.ok (),next) →
    Rewritten p settings heap b (xs ++ [e]) next
  insertAt : ∀ i e next, heap.respond p settings (.insertAt b i e) = (.ok (),next) →
    i.toNat ≤ xs.length ∧ Rewritten p settings heap b (xs.take i.toNat ++ [e] ++ xs.drop i.toNat) next
  insertAll : ∀ m next, heap.respond p settings (.insertAll b m) = (.ok (),next) →
    ∃ ys, heap.contents m = some ys ∧ Rewritten p settings heap b (xs ++ ys) next
  clear : ∃ next, heap.respond p settings (.clear b) = (.ok (),next) ∧ Rewritten p settings heap b [] next
  size : heap.respond p settings (.listSize b) = (.ok (UInt64.ofNat xs.length),heap)
  inside : ∀ i x, xs[i.toNat]? = some x → heap.respond p settings (.listAt b i) = (.ok x,heap)
  outside : ∀ i, xs[i.toNat]? = none →
    heap.respond p settings (.listAt b i) = (.error (.indexOutOfRange i (UInt64.ofNat xs.length)),heap)
  /-- Nothing that is destroyed takes elements along, be it one of them. -/
  destroy : ∀ k, k ≠ b → ¬ heap.Owns k b → (heap.respond p settings (.destroy k)).2.contents b = some xs
  /-- A list that an object owns ends with it. -/
  owner : ∀ k next, heap.Owns k b → heap.respond p settings (.destroy k) = (.ok (),next) → next.contents b = none

/-- Two lists of the same elements, each of which keeps them whatever is done to the other. -/
structure Parted (p : Package) (settings : HeapSettings) (heap : Heap) (b m : Handle) : Prop where
  distinct : b ≠ m
  same : ∃ xs, heap.contents b = some xs ∧ heap.contents m = some xs
  first : ∀ more, (heap.after p settings more).slots.size < 2 ^ 32 → Throughout p settings (Spares b) heap more →
    (heap.after p settings more).contents b = heap.contents b
  second : ∀ more, (heap.after p settings more).slots.size < 2 ^ 32 → Throughout p settings (Spares m) heap more →
    (heap.after p settings more).contents m = heap.contents m

/-- Lists take over elements and not the lists that they come from. -/
structure Unaliased (p : Package) (settings : HeapSettings) (heap : Heap) : Prop where
  assigned : ∀ h f b m next, heap.backing h f = some b → m ≠ b →
    heap.respond p settings (.set h f (.list m)) = (.ok (),next) → Parted p settings next b m
  copied : ∀ h f b made next, heap.backing h f = some b → heap.respond p settings (.copy h) = (.ok made,next) →
    next.slots.size < 2 ^ 32 → ∃ c, next.backing made f = some c ∧ Parted p settings next b c

theorem object_setItems (found : heap.get? b = some (.list l)) (h : Handle) :
    (heap.setItems b l elements).object h = heap.object h := by
  unfold object
  by_cases same : h = b
  · subst same
    have now : (heap.setItems h l elements).get? h = some (.list { l with items := elements }) := by
      simp [get?_setItems found]
    rw [find_eq_ok_iff.mpr found,find_eq_ok_iff.mpr now]
    rfl
  · simp [find,get?_setItems found,same]

theorem rewritten_setItems (found : heap.get? b = some (.list l)) :
    Rewritten p settings heap b elements (heap.setItems b l elements) where
  here := by simp [contents_setItems found]
  others k other := by simp [contents_setItems found,other]
  values h f resolve := by simp [respond,answer,observe,get,objectFeature,object_setItems found]
  lives k := Arena.isLive_set k

theorem destroy_spares (other : k ≠ b) (unowned : ¬ heap.Owns k b) (found : heap.contents b = some xs) :
    (heap.respond p settings (.destroy k)).2.contents b = some xs := by
  simp only [respond,answer,commit]
  cases done : destroy k heap with
  | error e => exact found
  | ok next =>
    rcases entry_of_destroy done b with ⟨-,same | owned⟩ | same
    · exact absurd same.symm other
    · exact absurd owned unowned
    · exact (contents_congr same).trans found

theorem destroy_owner (wellFormed : WellFormed p heap) (owns : heap.Owns k b)
    (done : heap.respond p settings (.destroy k) = (.ok (),next)) : next.contents b = none := by
  obtain ⟨l,atList,owned⟩ := owns
  obtain ⟨o,found,holds⟩ := wellFormed.held b l k atList owned
  obtain ⟨-,discarded⟩ := destroy_eq_ok (committed done)
  rcases get?_discard found discarded b with ⟨-,gone⟩ | ⟨spared,-⟩
  · simp [contents,gone]
  · exact absurd (.inr ⟨holds,l,atList,owned⟩) spared

/-- Every list of a well formed heap is the sequence of its elements. -/
theorem sequence_of_contents (wellFormed : WellFormed p heap) (found : heap.contents b = some xs) :
    Sequence p settings heap b xs := by
  obtain ⟨l,atList,rfl⟩ := contents_eq_some_iff.mp found
  have isList : heap.list b = .ok l := list_eq_ok_iff.mpr atList
  refine ⟨?_,?_,?_,⟨heap.setItems b l [],?_,rewritten_setItems atList⟩,?_,?_,?_,?_,?_⟩
  · intro e next done
    obtain ⟨l',atList',-,rfl⟩ := pushBack_eq_ok (committed done)
    cases atList.symm.trans atList'
    exact rewritten_setItems atList
  · intro i e next done
    obtain ⟨l',atList',inside,-,rfl⟩ := insertAt_eq_ok (committed done)
    cases atList.symm.trans atList'
    rw [List.append_assoc]
    exact ⟨inside,rewritten_setItems atList⟩
  · intro m next done
    obtain ⟨given,l',atSource,atList',-,rfl⟩ := insertAll_eq_ok (committed done)
    cases atList.symm.trans atList'
    exact ⟨given.items,contents_of_get? atSource,rewritten_setItems atList⟩
  · simp [respond,answer,commit,clear,isList,bind,Except.bind,pure,Except.pure]
  · simp [respond,answer,observe,listSize,isList,bind,Except.bind,pure,Except.pure]
  · intro i x there
    simp [respond,answer,observe,listAt,isList,there,bind,Except.bind,pure,Except.pure]
  · intro i beyond
    simp [respond,answer,observe,listAt,isList,beyond,bind,Except.bind,throw,throwThe,MonadExceptOf.throw]
  · intro k other unowned
    exact destroy_spares other unowned found
  · intro k next owns done
    exact destroy_owner wellFormed owns done

section
variable {c : Call Value}

theorem parted_of_same (built : p.Built) (addressable : p.Addressable) (wellFormed : WellFormed p heap)
    (sound : heap.Sound) (distinct : b ≠ m) (here : (heap.respond p settings c).2.contents b = some xs)
    (there : (heap.respond p settings c).2.contents m = some xs) :
    Parted p settings (heap.respond p settings c).2 b m := by
  have kept : ∀ k, (heap.respond p settings c).2.contents k = some xs → ∀ more,
      ((heap.respond p settings c).2.after p settings more).slots.size < 2 ^ 32 →
      Throughout p settings (Spares k) (heap.respond p settings c).2 more →
      ((heap.respond p settings c).2.after p settings more).contents k = (heap.respond p settings c).2.contents k := by
    intro k found more few spared
    have fewNext := Nat.lt_of_le_of_lt (size_after built settings _ more) few
    obtain ⟨formed,steady⟩ := wellFormed_respond built addressable wellFormed sound fewNext
    rw [found]
    exact contents_of_after built addressable formed steady few found spared
  exact ⟨distinct,⟨xs,here,there⟩,kept b here,kept m there⟩

end

/-- A list that was assigned to a feature and the list behind the feature go separate ways. -/
theorem parted_of_set (built : p.Built) (addressable : p.Addressable) (wellFormed : WellFormed p heap)
    (sound : heap.Sound) (backs : heap.backing h f = some b) (other : m ≠ b)
    (done : heap.respond p settings (.set h f (.list m)) = (.ok (),next)) : Parted p settings next b m := by
  have written : set p h f (.list m) heap = .ok next := committed done
  obtain ⟨s,isList,live,filled⟩ := set_contents written backs wellFormed
  cases isList
  obtain ⟨xs,found⟩ := Option.ne_none_iff_exists'.mp live
  have apart : heap.backing h f ≠ some m := by
    rw [backs]
    exact fun same => other (Option.some.inj same).symm
  have kept : next.contents m = some xs := (leavesAll_set written).contents apart found
  have after : next = (heap.respond p settings (.set h f (.list m))).2 := by rw [done]
  subst after
  exact parted_of_same built addressable wellFormed sound other.symm (filled.trans found) kept

/-- So do the lists of an object and those of its copy. -/
theorem parted_of_copy (built : p.Built) (addressable : p.Addressable) (wellFormed : WellFormed p heap)
    (sound : heap.Sound) (backs : heap.backing h f = some b)
    (done : heap.respond p settings (.copy h) = (.ok made,next)) (few : next.slots.size < 2 ^ 32) :
    ∃ c, next.backing made f = some c ∧ Parted p settings next b c := by
  obtain ⟨o,found,duplicated⟩ := copy_eq_ok _ built addressable wellFormed sound few done
  obtain ⟨l,atList,owned⟩ := wellFormed.backed backs
  obtain ⟨o',found',holds⟩ := backing_eq_some_iff.mp backs
  cases found.symm.trans found'
  obtain ⟨field,row,holds⟩ := ObjectData.row_of_field holds
  obtain ⟨copied,there,-,fields⟩ := duplicated.copy
  obtain ⟨own,place,-,taken⟩ := fields _ field row
  rw [holds] at taken
  obtain ⟨c,isList,filled⟩ := taken
  have backing : next.backing made f = some c :=
    backing_eq_some_iff.mpr ⟨copied,there,by rw [field_eq place,isList]⟩
  have after : next = (heap.respond p settings (.copy h)).2 := by rw [done]
  subst after
  obtain ⟨formed,-⟩ := wellFormed_respond built addressable wellFormed sound few
  have still := duplicated.kept b _ atList
  -- The lists have different owners, for the copy was not there before.
  have apart : b ≠ c := by
    rintro rfl
    obtain ⟨l',atList',owned'⟩ := formed.backed backing
    cases still.symm.trans atList'
    cases owned.symm.trans owned'
    cases duplicated.fresh.symm.trans found
  exact ⟨c,backing,parted_of_same built addressable wellFormed sound apart (contents_of_get? still)
    (filled.trans (contents_of_get? atList))⟩

/-- In every heap that a run leads to, each live list is the sequence of its elements, and no lists are aliases. -/
theorem lists_are_sequences (built : p.Built) (addressable : p.Addressable) (settings : HeapSettings)
    (calls : List (Call Value)) (few : (Heap.empty.after p settings calls).slots.size < 2 ^ 32) :
    (∀ b xs, (Heap.empty.after p settings calls).contents b = some xs →
      Sequence p settings (Heap.empty.after p settings calls) b xs) ∧
    Unaliased p settings (Heap.empty.after p settings calls) := by
  have sound := sound_after built calls few
  have wellFormed := wellFormed_after built addressable .empty sound_empty few
  refine ⟨fun b xs found => sequence_of_contents wellFormed found,?_,?_⟩
  · intro h f b m next backs other done
    exact parted_of_set built addressable wellFormed sound backs other done
  · intro h f b made next backs done few
    exact parted_of_copy built addressable wellFormed sound backs done few

/-- A node among its own children and a list that got the children of the node: both lists are sequences. -/
theorem lists_are_sequences_forest :
    let calls := [.create ⟨1⟩,.pushBack (.ofSlot 1 1) (.ofSlot 0 1),.createList ⟨1⟩,
      .insertAll (.ofSlot 2 1) (.ofSlot 1 1)]
    Sequence forest {} (Heap.empty.after forest {} calls) (.ofSlot 1 1) [.ofSlot 0 1] ∧
      Unaliased forest {} (Heap.empty.after forest {} calls) :=
  let kept := lists_are_sequences forest_built forest_addressable {} _ (by decide)
  ⟨kept.1 (.ofSlot 1 1) [.ofSlot 0 1] (by decide),kept.2⟩

/-- A node becomes one of its own children. -/
def nodeAmongItsChildren : List (Call Value) := [.create ⟨1⟩,.pushBack (.ofSlot 1 1) (.ofSlot 0 1)]

/-- Destroying an element does not leave every list as it is: the list of the node goes with it. -/
theorem element_takes_its_list :
    (Heap.empty.after forest {} nodeAmongItsChildren).contents (.ofSlot 1 1) = some [.ofSlot 0 1] ∧
      ∃ next, (Heap.empty.after forest {} nodeAmongItsChildren).respond forest {} (.destroy (.ofSlot 0 1)) =
        (.ok (),next) ∧ next.contents (.ofSlot 1 1) = none :=
  ⟨by decide,_,rfl,by decide⟩

end HandleBridge.Heap
