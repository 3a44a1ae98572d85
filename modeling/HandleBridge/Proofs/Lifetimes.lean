import HandleBridge.Proofs.Chronicle
import HandleBridge.Proofs.Generations

/-!
Use after destroy. A call succeeds only when all handles that it is given are live or null, and a destroyed handle is
neither again before the generations of its slot come round: `destroyed_handles_detected` says this of every run, and
also that the 2^32 - 1 generations of a slot are not one more than stated.
-/

namespace HandleBridge.Heap

variable {p : Package} {settings : HeapSettings} {heap next last : Heap} {h : Handle} {f : FeatureId} {v : Value}
  {lives : List Life}

/-- Every list that an object holds is live and owned by the object. -/
def ListsHeld (heap : Heap) : Prop :=
  ∀ h o b, heap.get? h = some (.object o) → o.Holds b → heap.Owns h b

namespace ListsHeld

theorem alloc {entry : Entry} (held : heap.ListsHeld) (sound : heap.Sound)
    (made : heap.alloc settings entry = .ok (h,next)) (few : next.slots.size < 2 ^ 32)
    (plain : ∀ o b, entry = .object o → ¬ o.Holds b) : next.ListsHeld := by
  obtain ⟨vacant,bindings⟩ := get?_alloc sound made few
  intro k o b found holds
  rw [bindings] at found
  split at found
  · exact absurd holds (plain o b (Option.some.inj found))
  · obtain ⟨l,atList,owned⟩ := held k o b found holds
    exact ⟨l,kept_of_update bindings atList (by simp [vacant]),owned⟩

/-- Freeing takes no list away from an object that holds it, as such a list has an owner. -/
theorem take? {entry : Entry} (held : heap.ListsHeld) (freed : heap.take? h = some (entry,next))
    (orphan : ∀ l owner, entry = .list l → l.owner = some owner → heap.get? owner = none) : next.ListsHeld := by
  intro k o b found holds
  rw [get?_take? freed] at found
  split at found
  · cases found
  · obtain ⟨l,atList,owned⟩ := held k o b found holds
    refine ⟨l,?_,owned⟩
    rw [get?_take? freed,if_neg ?_,atList]
    rintro rfl
    cases (found_of_take? freed).symm.trans atList
    rw [orphan l k rfl owned] at found
    cases found

theorem setItems {l : ListData} {items : List Handle} (held : heap.ListsHeld) (atList : heap.get? h = some (.list l)) :
    (heap.setItems h l items).ListsHeld := by
  intro k o b found holds
  rw [get?_setItems atList] at found
  split at found
  · cases found
  · obtain ⟨other,there,owned⟩ := held k o b found holds
    by_cases same : b = h
    · subst same
      cases atList.symm.trans there
      exact ⟨{ l with items },by simp [get?_setItems atList],owned⟩
    · exact ⟨other,by rw [get?_setItems atList,if_neg same,there],owned⟩

theorem putObject {o changed : ObjectData} (held : heap.ListsHeld) (atObject : heap.get? h = some (.object o))
    (keeps : ∀ b, changed.Holds b → o.Holds b ∨ heap.Owns h b) : (heap.putObject h changed).ListsHeld := by
  have stays : ∀ k b, heap.Owns k b → (heap.putObject h changed).Owns k b := by
    rintro k b ⟨l,there,owned⟩
    exact ⟨l,kept_of_update (get?_putObject atObject) there (by simp [atObject]),owned⟩
  intro k other b found holds
  rw [get?_putObject atObject] at found
  split at found
  · rename_i same
    cases found
    subst same
    rcases keeps b holds with old | owns
    · exact stays k b (held k o b atObject old)
    · exact stays k b owns
  · exact stays k b (held k other b found holds)

end ListsHeld

theorem Evolves.listsHeld (evolves : Evolves settings lives heap last) (held : heap.ListsHeld) (sound : heap.Sound)
    (few : last.slots.size < 2 ^ 32) : last.ListsHeld := by
  induction evolves with
  | refl => exact held
  | make made plain rest ih =>
    have fewNext := Nat.lt_of_le_of_lt rest.size_le few
    exact ih (held.alloc sound made fewNext plain) (sound_alloc sound made fewNext) few
  | free freed orphan _ ih => exact ih (held.take? freed orphan) (sound.erase? freed) few
  | items found _ ih => exact ih (held.setItems found) sound.set few
  | object found keeps _ ih => exact ih (held.putObject found keeps) sound.set few

/-- After every run the lists that objects hold are alive and their own. -/
theorem listsHeld_after {calls : List (Call Value)} (built : p.Built)
    (few : (Heap.empty.after p settings calls).slots.size < 2 ^ 32) : (Heap.empty.after p settings calls).ListsHeld := by
  refine (after_evolves built sound_empty calls few).listsHeld ?_ sound_empty few
  intro h o b found
  simp at found

/-- Handles that a call is given: its target, an element, a source list and the handle in a value. -/
def givenTo : Call Value → List Handle
  | .create _ | .createList _ => []
  | .set h _ v => h :: v.handle?.toList
  | .pushBack h element | .insertAt h _ element => [h,element]
  | .insertAll h other => [h,other]
  | c => [c.target]

theorem isLive_of_get? {entry : Entry} (found : heap.get? h = some entry) : heap.isLive h = true :=
  Arena.isLive_iff.mpr ⟨entry,found⟩

theorem isLive_of_checkElement {expected : ClassId} (checked : checkElement p heap expected h = .ok ())
    (notNull : h.isNull = false) : heap.isLive h = true := by
  rcases checkElement_eq_ok_iff.mp checked with isNull | ⟨o,found,-⟩
  · rw [notNull] at isNull
    cases isNull
  · exact isLive_of_get? found

theorem isLive_of_map_object {α : Type} {a : α} {g : ObjectData → α} (done : (heap.object h).map g = .ok a) :
    heap.isLive h = true := by
  obtain ⟨o,found,-⟩ := map_eq_ok_iff.mp done
  exact isLive_of_get? (object_eq_ok_iff.mp found)

theorem isLive_of_objectFeature {o : ObjectData} {feature : Feature}
    (described : objectFeature p heap h f = .ok (o,feature)) : heap.isLive h = true :=
  isLive_of_get? (objectFeature_eq_ok_iff.mp described).1

/-- What `commit` answers is what the operation answers. -/
theorem commit_eq_ok {operation : Heap → Except Error Heap} (done : (commit operation heap).1 = .ok ()) :
    ∃ next, operation heap = .ok next := by
  unfold commit at done
  split at done
  · rename_i next succeeds
    exact ⟨next,succeeds⟩
  · cases done

/-- A value that a feature takes over carries no handle but one that is live or null. -/
theorem isLive_of_set {r : Handle} (built : p.Built) (held : heap.ListsHeld) (done : set p h f v heap = .ok next)
    (carried : v.handle? = some r) (notNull : r.isNull = false) : heap.isLive r = true := by
  obtain ⟨o,feature,described,fits,done⟩ := set_eq_ok done
  have proper := objectFeature_proper built described
  unfold Feature.Proper at proper
  cases done with
  | data plain isData written =>
    simp only [isData] at proper fits
    have kind := kind?_of_fits proper.1 fits
    -- Data never carries a handle.
    cases v with
    | object r => cases kind; exact absurd proper.1 (by decide)
    | list r => cases kind; exact absurd proper.1 (by decide)
    | _ => cases carried
  | single target isSingle fitsTarget written =>
    rw [isSingle] at fits
    cases v with
    | object other =>
      cases carried
      obtain ⟨t,-,checked⟩ := fitsTarget r rfl
      exact isLive_of_checkElement checked notNull
    | list other => cases fits
    | _ => cases carried
  | many target backing assigned isMany backs assign written =>
    rw [isMany] at fits
    rw [carried,Option.getD_some] at assign
    rcases assignList_eq_ok assign with ⟨rfl,-⟩ | ⟨given,own,atSource,-,-,-⟩
    · obtain ⟨l,found,-⟩ := held h o r (objectFeature_eq_ok_iff.mp described).1 (ObjectData.holds_of_field backs)
      exact isLive_of_get? found
    · exact isLive_of_get? atSource

/-- A call that succeeds was given live handles and null only. -/
theorem isLive_of_respond {c : Call Value} {reply : c.Reply} (built : p.Built) (held : heap.ListsHeld)
    (done : (heap.respond p settings c).1 = .ok reply) (given : h ∈ givenTo c) (notNull : h.isNull = false) :
    heap.isLive h = true := by
  unfold respond answer at done
  cases c with
  | create c => cases given
  | createList c => cases given
  | destroy k =>
    cases List.mem_singleton.mp given
    obtain ⟨next,done⟩ := commit_eq_ok done
    obtain ⟨⟨entry,found,-⟩,-⟩ := destroy_eq_ok done
    exact isLive_of_get? found
  | upcast k =>
    cases List.mem_singleton.mp given
    exact isLive_of_map_object done
  | initialise k =>
    cases List.mem_singleton.mp given
    obtain ⟨next,done⟩ := commit_eq_ok done
    obtain ⟨o,found,-⟩ := initialise_eq_ok done
    exact isLive_of_get? found
  | copy k =>
    cases List.mem_singleton.mp given
    have taken := copy_cases p settings k heap
    change (copy p settings k heap).1 = .ok reply at done
    generalize copy p settings k heap = result at taken done
    generalize heap.lives p settings (.copy k) = lives at taken
    cases taken with
    | refused e absent => cases done
    | failed o e next found created => cases done
    | made o made next found created => exact isLive_of_get? found
  | classOf k =>
    cases List.mem_singleton.mp given
    exact isLive_of_map_object done
  | get k f resolve =>
    cases List.mem_singleton.mp given
    obtain ⟨⟨o,feature⟩,described,-⟩ := bind_eq_ok_iff.mp done
    exact isLive_of_objectFeature described
  | set k f v =>
    obtain ⟨next,done⟩ := commit_eq_ok done
    rcases List.mem_cons.mp given with rfl | carried
    · obtain ⟨o,feature,described,-⟩ := set_eq_ok done
      exact isLive_of_objectFeature described
    · exact isLive_of_set built held done (Option.mem_toList.mp carried) notNull
  | isSet k f =>
    cases List.mem_singleton.mp given
    obtain ⟨⟨o,feature⟩,described,-⟩ := bind_eq_ok_iff.mp done
    exact isLive_of_objectFeature described
  | unset k f =>
    cases List.mem_singleton.mp given
    have taken := unset_cases p k f heap
    change (unset p k f heap).1 = .ok reply at done
    generalize unset p k f heap = result at taken done
    cases taken with
    | unknown e => cases done
    | emptied o feature held l described holds found => exact isLive_of_objectFeature described
    | missing o feature held e described holds lost => cases done
    | restored o feature described plain => exact isLive_of_objectFeature described
  | listSize k =>
    cases List.mem_singleton.mp given
    obtain ⟨l,found,-⟩ := bind_eq_ok_iff.mp done
    exact isLive_of_get? (list_eq_ok_iff.mp found)
  | listAt k i =>
    cases List.mem_singleton.mp given
    obtain ⟨l,found,-⟩ := bind_eq_ok_iff.mp done
    exact isLive_of_get? (list_eq_ok_iff.mp found)
  | pushBack k e =>
    obtain ⟨next,done⟩ := commit_eq_ok done
    obtain ⟨l,found,checked,-⟩ := pushBack_eq_ok done
    rcases List.mem_cons.mp given with rfl | element
    · exact isLive_of_get? found
    · cases List.mem_singleton.mp element
      exact isLive_of_checkElement checked notNull
  | insertAt k i e =>
    obtain ⟨next,done⟩ := commit_eq_ok done
    obtain ⟨l,found,-,checked,-⟩ := insertAt_eq_ok done
    rcases List.mem_cons.mp given with rfl | element
    · exact isLive_of_get? found
    · cases List.mem_singleton.mp element
      exact isLive_of_checkElement checked notNull
  | insertAll k other =>
    obtain ⟨next,done⟩ := commit_eq_ok done
    obtain ⟨source,target,atSource,atTarget,-⟩ := insertAll_eq_ok done
    rcases List.mem_cons.mp given with rfl | source
    · exact isLive_of_get? atTarget
    · cases List.mem_singleton.mp source
      exact isLive_of_get? atSource
  | clear k =>
    cases List.mem_singleton.mp given
    obtain ⟨next,done⟩ := commit_eq_ok done
    obtain ⟨l,found,-⟩ := clear_eq_ok done
    exact isLive_of_get? found

/-- Handle that an allocation replies. -/
def yields : (c : Call Value) → Except Error c.Reply → Option Handle
  | .create _,.ok h => some h
  | .copy _,.ok h => some h
  | .createList _,.ok h => some h
  | _,_ => none

theorem issued_of_create {c : ClassId} (done : (create p settings c heap).1 = .ok h) :
    .issued h ∈ createLives p settings c heap := by
  have taken := create_cases p settings c heap
  generalize create p settings c heap = result at taken done
  generalize createLives p settings c heap = lives at taken ⊢
  cases taken with
  | refused e => cases done
  | made cls k next known concrete made =>
    obtain ⟨⟨⟩,-,rfl⟩ := map_eq_ok_iff.mp done
    exact List.mem_cons_self ..

/-- The handle that an allocation replies is one that it issued. -/
theorem issued_of_yields {c : Call Value} (yielded : yields c (heap.respond p settings c).1 = some h) :
    .issued h ∈ heap.lives p settings c := by
  cases replied : (heap.respond p settings c).1 with
  | error e =>
    rw [replied] at yielded
    cases c <;> cases yielded
  | ok reply =>
    rw [replied] at yielded
    cases c with
    | create c =>
      cases yielded
      exact issued_of_create replied
    | copy k =>
      cases yielded
      have taken := copy_cases p settings k heap
      change (copy p settings k heap).1 = .ok h at replied
      generalize copy p settings k heap = result at taken replied
      generalize heap.lives p settings (.copy k) = lives at taken ⊢
      cases taken with
      | refused e absent => cases replied
      | failed o e next found created => cases replied
      | made o made next found created =>
        obtain ⟨⟨⟩,-,rfl⟩ := map_eq_ok_iff.mp replied
        exact issued_of_create (congrArg Prod.fst created)
    | createList c =>
      cases yielded
      simp only [respond,answer,commitWith] at replied
      unfold lives
      split at replied
      · rename_i k next done
        cases replied
        simp [done]
      · cases replied
    | _ => cases yielded

/-- A call to destroy that succeeds ends the life of its handle. -/
theorem freed_of_destroy (done : (heap.respond p settings (.destroy h)).1 = .ok ()) :
    .freed h ∈ heap.lives p settings (.destroy h) := by
  obtain ⟨next,destroyed⟩ := commit_eq_ok done
  simp only [lives,destroyed]
  cases discard_eq_ok (destroy_eq_ok destroyed).2 with
  | list l freed => simp [discardLives,freed]
  | object o rest freed erased => simp [discardLives,freed]

/-! ### Use after destroy -/

/-- What the history of a run says about the handles of the heap after it. -/
structure Detects (p : Package) (settings : HeapSettings) (calls : List (Call Value)) : Prop where
  /-- No allocation yields a handle that an earlier one yielded. -/
  distinct : (issuedIn (Heap.empty.history p settings calls)).Nodup
  notNull : Handle.null ∉ issuedIn (Heap.empty.history p settings calls)
  live : ∀ h, (Heap.empty.after p settings calls).isLive h = true ↔ Standing (Heap.empty.history p settings calls) h
  /-- No call that is given a destroyed handle succeeds. -/
  refuses : ∀ h c, .freed h ∈ Heap.empty.history p settings calls → h ∈ givenTo c →
    ∃ e, ((Heap.empty.after p settings calls).respond p settings c).1 = .error e

/-- Every bounded run tells of its handles what its history says. -/
theorem detects_of_bounded {calls : List (Call Value)} (built : p.Built) (bounded : Bounded p settings calls) :
    Detects p settings calls := by
  have chronicled := chronicled_after built bounded
  have held := listsHeld_after built bounded.few
  refine ⟨chronicled.distinct,chronicled.null_not_issued,chronicled.standing,?_⟩
  intro h c freed given
  cases replied : ((Heap.empty.after p settings calls).respond p settings c).1 with
  | error e => exact ⟨e,rfl⟩
  | ok reply =>
    obtain ⟨i,names,-⟩ := chronicled.freed h freed
    have live := isLive_of_respond built held replied given (Handle.isNull_of_slot? names)
    rw [chronicled.not_live_of_freed freed] at live
    cases live

theorem timesFreed_pairs (handles : List Handle) (first : ∀ h ∈ handles, h.slot? = some 0) :
    timesFreed 0 (handles.flatMap fun h => [.issued h,.freed h]) = handles.length := by
  induction handles with
  | nil => rfl
  | cons h rest ih =>
    obtain ⟨names,others⟩ := List.forall_mem_cons.mp first
    have counted := ih others
    simp only [timesFreed] at counted ⊢
    simp [names,counted]

theorem slot?_firstSlot {n : Nat} (member : h ∈ firstSlot n) : h.slot? = some 0 := by
  obtain ⟨k,-,rfl⟩ := List.mem_map.mp member
  exact Handle.slot?_ofSlot 0 (generationAfter k) (by decide)

theorem head?_firstSlot {n : Nat} (positive : 0 < n) : (firstSlot n).head? = some (.ofSlot 0 1) := by
  rw [firstSlot,List.head?_map,List.head?_range,if_neg (by omega)]
  rfl

/-- Once its generations came round, the first slot yields its first handle again. -/
theorem first_handle_returns {c : ClassId} {cls : ClassType} {n : Nat} (built : p.Built)
    (one : OneSlot p settings c cls) (round : generationAfter n = 1) :
    ((Heap.empty.after p settings (createDestroy c (firstSlot n))).respond p settings (.create c)).1 =
      .ok (.ofSlot 0 1) := by
  obtain ⟨idle,-⟩ := idle_after_createDestroy built one n
  rw [round] at idle
  obtain ⟨next,created,-⟩ := create_of_idle idle one
  exact congrArg Prod.fst created

/-- Use after destroy is detected in every run that frees no slot more than 2^32 - 2 times, and one time more is
enough for a destroyed handle to come back. -/
theorem destroyed_handles_detected (built : p.Built) (settings : HeapSettings) :
    (∀ (heap : Heap) c h, yields c (heap.respond p settings c).1 = some h → .issued h ∈ heap.lives p settings c) ∧
      (∀ (heap : Heap) h, (heap.respond p settings (.destroy h)).1 = .ok () →
        .freed h ∈ heap.lives p settings (.destroy h)) ∧
      (∀ calls, Bounded p settings calls → Detects p settings calls) ∧
      ∀ c cls, OneSlot p settings c cls → ∃ handles first, handles.length = 2 ^ 32 - 1 ∧ handles.head? = some first ∧
        Heap.empty.history p settings (createDestroy c handles) =
          handles.flatMap (fun h => [.issued h,.freed h]) ∧
        timesFreed 0 (Heap.empty.history p settings (createDestroy c handles)) = 2 ^ 32 - 1 ∧
        ((Heap.empty.after p settings (createDestroy c handles)).respond p settings (.create c)).1 = .ok first := by
  refine ⟨fun heap c h => issued_of_yields,fun heap h => freed_of_destroy,fun calls => detects_of_bounded built,?_⟩
  intro c cls one
  have length : (firstSlot (2 ^ 32 - 1)).length = 2 ^ 32 - 1 := by rw [firstSlot,List.length_map,List.length_range]
  obtain ⟨-,past⟩ := idle_after_createDestroy built one (2 ^ 32 - 1)
  refine ⟨firstSlot (2 ^ 32 - 1),.ofSlot 0 1,length,head?_firstSlot (by decide),past,?_,?_⟩
  · rw [past,timesFreed_pairs _ fun h => slot?_firstSlot,length]
  · exact first_handle_returns built one generationAfter_all

/-- A node comes and goes with its list, and another takes both slots; the old handle is refused. -/
theorem destroyed_node_detected :
    (∃ e, ((Heap.empty.after forest {} [.create ⟨1⟩,.destroy (.ofSlot 0 1),.create ⟨1⟩]).respond forest {}
        (.get (.ofSlot 0 1) ⟨0⟩ false)).1 = .error e) ∧
      ∃ handles first, handles.length = 2 ^ 32 - 1 ∧ handles.head? = some first ∧
        ((Heap.empty.after forest {} (createDestroy ⟨0⟩ handles)).respond forest {} (.create ⟨0⟩)).1 = .ok first := by
  obtain ⟨-,-,detects,returns⟩ := destroyed_handles_detected forest_built {}
  have bounded : Bounded forest {} [.create ⟨1⟩,.destroy (.ofSlot 0 1),.create ⟨1⟩] :=
    bounded_of_short (by decide) (by decide)
  have tag : OneSlot forest {} ⟨0⟩ ⟨⟨0⟩,"Tag",[],false,[⟨⟨0⟩,"text",.data .string,.string ""⟩]⟩ :=
    ⟨rfl,rfl,by decide,rfl,by decide⟩
  refine ⟨(detects _ bounded).refuses (.ofSlot 0 1) (.get (.ofSlot 0 1) ⟨0⟩ false) (by decide) (by decide),?_⟩
  obtain ⟨handles,first,length,head,-,-,again⟩ := returns _ _ tag
  exact ⟨handles,first,length,head,again⟩

end HandleBridge.Heap
