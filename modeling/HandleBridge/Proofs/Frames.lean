import HandleBridge.Proofs.Contents

/-!
What a call leaves alone, and what an access to a feature leaves behind. `listWritten` and `featureWritten` say what a
call may change: the elements of one list and one feature of one object. Every other entry stays as it is, and only a
destruction ends one (`entry_of_respond`).
-/

namespace HandleBridge

/-- Feature that a call writes. -/
def Call.featureWritten {V : Type} : Call V → Option (Handle × FeatureId)
  | .set h f _ | .unset h f => some (h,f)
  | _ => none

/-- List that an operation on lists changes. -/
def Call.listChanged {V : Type} : Call V → Option Handle
  | .pushBack b _ | .insertAt b _ _ | .insertAll b _ | .clear b => some b
  | _ => none

namespace Heap

variable {p : Package} {settings : HeapSettings} {heap middle next : Heap} {h k b : Handle} {f : FeatureId} {v : Value}
  {o changed : ObjectData} {l : ListData} {elements : List Handle} {feature : Feature} {cls : ClassType}
  {entry : Entry} {c : Call Value}

/-- List whose elements a call may change, as the object of a list operation or behind the feature that is written. -/
def listWritten (heap : Heap) : Call Value → Option Handle
  | .set h f _ | .unset h f => heap.backing h f
  | c => c.listChanged

/-- What may become of the entry behind `k` where only one list and one feature are written. -/
inductive Left (list : Option Handle) (written : Option (Handle × FeatureId)) (k : Handle) : Entry → Entry → Prop
  | same (entry : Entry) : Left list written k entry entry
  | items {l : ListData} {items : List Handle} (here : list = some k) :
      Left list written k (.list l) (.list { l with items })
  | object {o changed : ObjectData} (sameClass : changed.cls = o.cls)
      (fields : ∀ f, written ≠ some (k,f) → changed.field f = o.field f) :
      Left list written k (.object o) (.object changed)

theorem Left.trans {list : Option Handle} {written : Option (Handle × FeatureId)} {first second third : Entry}
    (one : Left list written k first second) (other : Left list written k second third) :
    Left list written k first third := by
  cases one with
  | same => exact other
  | items here =>
    cases other with
    | same => exact .items here
    | items => exact .items here
  | object sameClass fields =>
    cases other with
    | same => exact .object sameClass fields
    | object again further =>
      exact .object (again.trans sameClass) fun f elsewhere => (further f elsewhere).trans (fields f elsewhere)

section
variable {list : Option Handle} {written : Option (Handle × FeatureId)}

/-- Every entry is still there, and only the written list and the written feature changed. -/
def LeavesAll (list : Option Handle) (written : Option (Handle × FeatureId)) (heap next : Heap) : Prop :=
  ∀ k entry, heap.get? k = some entry → ∃ now, next.get? k = some now ∧ Left list written k entry now

theorem leavesAll_of_kept (kept : ∀ k entry, heap.get? k = some entry → next.get? k = some entry) :
    LeavesAll list written heap next :=
  fun k entry found => ⟨entry,kept k entry found,.same entry⟩

theorem LeavesAll.trans (one : LeavesAll list written heap middle) (other : LeavesAll list written middle next) :
    LeavesAll list written heap next := by
  intro k entry found
  obtain ⟨now,there,left⟩ := one k entry found
  obtain ⟨last,still,further⟩ := other k now there
  exact ⟨last,still,left.trans further⟩

/-- A list that was not written keeps its elements. -/
theorem LeavesAll.contents (leaves : LeavesAll list written heap next) (apart : list ≠ some b)
    (found : heap.contents b = some elements) : next.contents b = some elements := by
  obtain ⟨l,atList,rfl⟩ := contents_eq_some_iff.mp found
  obtain ⟨now,there,left⟩ := leaves b _ atList
  cases left with
  | same => exact contents_of_get? there
  | items here => exact absurd here apart

theorem leavesAll_setItems (found : heap.get? b = some (.list l)) (here : list = some b) :
    LeavesAll list written heap (heap.setItems b l elements) := by
  intro k entry there
  by_cases same : k = b
  · subst same
    cases found.symm.trans there
    exact ⟨.list { l with items := elements },by simp [get?_setItems found],.items here⟩
  · exact ⟨entry,by simp [get?_setItems found,same,there],.same entry⟩

theorem leavesAll_putObject (found : heap.get? h = some (.object o)) (sameClass : changed.cls = o.cls)
    (fields : ∀ f, written ≠ some (h,f) → changed.field f = o.field f) :
    LeavesAll list written heap (heap.putObject h changed) := by
  intro k entry there
  by_cases same : k = h
  · subst same
    cases found.symm.trans there
    exact ⟨_,by simp [get?_putObject found],.object sameClass fields⟩
  · exact ⟨entry,by simp [get?_putObject found,same,there],.same entry⟩

/-- Writing one field leaves the others. -/
theorem leavesAll_putField {field : Field} (found : heap.get? h = some (.object o)) (here : written = some (h,f)) :
    LeavesAll list written heap (heap.putObject h (o.setField f field)) := by
  refine leavesAll_putObject found rfl fun g elsewhere => ObjectData.field_setField_ne ?_
  rintro rfl
  exact elsewhere here

end

/-- Writing a feature touches that feature and the list behind it, and nothing else. -/
theorem leavesAll_set (done : set p h f v heap = .ok next) :
    LeavesAll (heap.backing h f) (some (h,f)) heap next := by
  obtain ⟨o,feature,described,-,done⟩ := set_eq_ok done
  obtain ⟨found,-⟩ := objectFeature_eq_ok_iff.mp described
  cases done with
  | data plain isData written => exact written ▸ leavesAll_putField found rfl
  | single target isSingle fits written => exact written ▸ leavesAll_putField found rfl
  | many target backing assigned isMany backs assign written =>
    rcases assignList_eq_ok assign with ⟨-,rfl⟩ | ⟨given,own,-,atBacking,-,rfl⟩
    · exact written ▸ leavesAll_putField found rfl
    · have other : h ≠ backing := by
        rintro rfl
        cases found.symm.trans atBacking
      have kept : (heap.setItems backing own given.items).get? h = some (.object o) := by
        rw [get?_setItems atBacking,if_neg other,found]
      have here : heap.backing h f = some backing := backing_eq_some_iff.mpr ⟨o,found,backs⟩
      exact written ▸ (leavesAll_setItems atBacking here).trans (leavesAll_putField kept rfl)

/-- So does reverting one. -/
theorem leavesAll_unset (h : Handle) (f : FeatureId) (heap : Heap) :
    LeavesAll (heap.backing h f) (some (h,f)) heap (unset p h f heap).2 := by
  have done := unset_cases p h f heap
  generalize unset p h f heap = result at done ⊢
  cases done with
  | unknown e => exact leavesAll_of_kept fun k entry found => found
  | emptied o feature held l described holds there =>
    obtain ⟨found,-⟩ := objectFeature_eq_ok_iff.mp described
    have here : heap.backing h f = some held := backing_eq_some_iff.mpr ⟨o,found,holds⟩
    exact (leavesAll_putField found rfl).trans (leavesAll_setItems there here)
  | missing o feature held e described holds lost =>
    exact leavesAll_putField (objectFeature_eq_ok_iff.mp described).1 rfl
  | restored o feature described plain => exact leavesAll_putField (objectFeature_eq_ok_iff.mp described).1 rfl

theorem committed {operation : Heap → Except Error Heap} (done : commit operation heap = (.ok (),next)) :
    operation heap = .ok next := by
  unfold commit at done
  split at done
  · rename_i changed succeeds
    cases done
    exact succeeds
  · cases done

/-- What a committed operation does is what it does when it succeeds. -/
theorem leavesAll_commit {operation : Heap → Except Error Heap} {list : Option Handle}
    {written : Option (Handle × FeatureId)}
    (succeeds : ∀ next, operation heap = .ok next → LeavesAll list written heap next) :
    LeavesAll list written heap (commit operation heap).2 := by
  unfold commit
  cases done : operation heap with
  | error e => exact leavesAll_of_kept fun k entry found => found
  | ok next => exact succeeds next done

/-- A failed call changes nothing behind any handle. -/
theorem same_of_error {e : Error} (built : p.Built) (addressable : p.Addressable) (wellFormed : WellFormed p heap)
    (sound : heap.Sound) (few : (heap.respond p settings c).2.slots.size < 2 ^ 32)
    (failed : (heap.respond p settings c).1 = .error e) (k : Handle) :
    (heap.respond p settings c).2.get? k = heap.get? k := by
  have outcome := respond_outcome settings c built addressable wellFormed sound few
  generalize heap.respond p settings c = result at outcome failed ⊢
  cases outcome with
  | refused e next same => exact same k
  | edited a next edits => cases failed
  | freed a h entry next found unowned done => cases failed

theorem kept_of_createList {made : Handle} {cls : ClassId} (sound : heap.Sound) (few : next.slots.size < 2 ^ 32)
    (done : createList p settings cls heap = .ok (made,next)) (found : heap.get? k = some entry) :
    next.get? k = some entry := by
  obtain ⟨vacant,view⟩ := get?_alloc sound (createList_eq_ok done).2 few
  exact kept_of_update view found (by simp [vacant])

/-- A call that destroys nothing leaves every entry but for what it writes. -/
theorem leavesAll_respond (built : p.Built) (addressable : p.Addressable) (wellFormed : WellFormed p heap)
    (sound : heap.Sound) (few : (heap.respond p settings c).2.slots.size < 2 ^ 32) (spares : ∀ k, c ≠ .destroy k) :
    LeavesAll (heap.listWritten c) c.featureWritten heap (heap.respond p settings c).2 := by
  have unchanged : ∀ list written, LeavesAll list written heap heap :=
    fun _ _ => leavesAll_of_kept fun k entry found => found
  cases failure : (heap.respond p settings c).1 with
  | error e =>
    have same := same_of_error built addressable wellFormed sound few failure
    exact leavesAll_of_kept fun k entry found => (same k).trans found
  | ok reply =>
    cases c with
    | create c =>
      have spec := create_spec settings c built addressable wellFormed sound few
      rcases spec with ⟨made,o,cls,-,-,created⟩ | ⟨e,failed,-⟩
      · exact leavesAll_of_kept fun k entry found => created.kept found
      · cases failed.symm.trans failure
    | destroy k => exact absurd rfl (spares k)
    | copy source =>
      obtain ⟨o,-,duplicated⟩ := copy_eq_ok settings built addressable wellFormed sound few
        (Prod.ext failure rfl)
      exact leavesAll_of_kept duplicated.kept
    | createList cls =>
      simp only [respond,answer,commitWith] at few failure ⊢
      cases done : createList p settings cls heap with
      | error e => simp [done] at failure
      | ok result =>
        rw [done] at few
        exact leavesAll_of_kept fun k entry found => kept_of_createList sound few done found
    | initialise h =>
      refine leavesAll_commit fun next done => ?_
      obtain ⟨o,found,rfl⟩ := initialise_eq_ok done
      exact leavesAll_putObject found rfl fun f _ => rfl
    | set h f v => exact leavesAll_commit fun next done => leavesAll_set done
    | unset h f => exact leavesAll_unset h f heap
    | pushBack b e =>
      refine leavesAll_commit fun next done => ?_
      obtain ⟨l,found,-,rfl⟩ := pushBack_eq_ok done
      exact leavesAll_setItems found rfl
    | insertAt b i e =>
      refine leavesAll_commit fun next done => ?_
      obtain ⟨l,found,-,-,rfl⟩ := insertAt_eq_ok done
      exact leavesAll_setItems found rfl
    | insertAll b source =>
      refine leavesAll_commit fun next done => ?_
      obtain ⟨given,l,-,found,-,rfl⟩ := insertAll_eq_ok done
      exact leavesAll_setItems found rfl
    | clear b =>
      refine leavesAll_commit fun next done => ?_
      obtain ⟨l,found,rfl⟩ := clear_eq_ok done
      exact leavesAll_setItems found rfl
    | upcast h => exact unchanged _ _
    | classOf h => exact unchanged _ _
    | get h f resolve => exact unchanged _ _
    | isSet h f => exact unchanged _ _
    | listSize b => exact unchanged _ _
    | listAt b i => exact unchanged _ _

/-- Destroying ends an entry and the lists that it owns, and leaves all others as they are. -/
theorem entry_of_destroy (done : destroy h heap = .ok next) (k : Handle) :
    next.get? k = none ∧ (k = h ∨ heap.Owns h k) ∨ next.get? k = heap.get? k := by
  obtain ⟨-,discarded⟩ := destroy_eq_ok done
  cases discard_eq_ok discarded with
  | list l freed =>
    by_cases same : k = h
    · exact .inl ⟨by simp [get?_take? freed,same],.inl same⟩
    · exact .inr (by simp [get?_take? freed,same])
  | object o rest freed erased =>
    rcases get?_discard (found_of_take? freed) discarded k with ⟨ended,gone⟩ | ⟨-,same⟩
    · exact .inl ⟨gone,ended.imp_right And.right⟩
    · exact .inr same

/-- What a call does to an entry: it may end with what the call destroys, and otherwise only what is written changes. -/
theorem entry_of_respond (built : p.Built) (addressable : p.Addressable) (wellFormed : WellFormed p heap)
    (sound : heap.Sound) (few : (heap.respond p settings c).2.slots.size < 2 ^ 32) (found : heap.get? k = some entry) :
    (heap.respond p settings c).2.get? k = none ∧ (c = .destroy k ∨ ∃ h, c = .destroy h ∧ heap.Owns h k) ∨
      ∃ now, (heap.respond p settings c).2.get? k = some now ∧
        Left (heap.listWritten c) c.featureWritten k entry now := by
  by_cases destroys : ∃ h, c = .destroy h
  · obtain ⟨h,rfl⟩ := destroys
    simp only [respond,answer,commit]
    cases done : destroy h heap with
    | error e => exact .inr ⟨entry,found,.same entry⟩
    | ok next =>
      rcases entry_of_destroy done k with ⟨gone,rfl | owned⟩ | same
      · exact .inl ⟨gone,.inl rfl⟩
      · exact .inl ⟨gone,.inr ⟨h,rfl,owned⟩⟩
      · exact .inr ⟨entry,same.trans found,.same entry⟩
  · have spares : ∀ h, c ≠ .destroy h := fun h isDestroy => destroys ⟨h,isDestroy⟩
    exact .inr (leavesAll_respond built addressable wellFormed sound few spares k entry found)

/-- A list that lives on keeps its elements unless the call writes it. -/
theorem contents_of_respond (built : p.Built) (addressable : p.Addressable) (wellFormed : WellFormed p heap)
    (sound : heap.Sound) (few : (heap.respond p settings c).2.slots.size < 2 ^ 32)
    (found : heap.contents b = some elements) (unwritten : heap.listWritten c ≠ some b)
    (live : (heap.respond p settings c).2.isLive b = true) :
    (heap.respond p settings c).2.contents b = some elements := by
  obtain ⟨l,atList,rfl⟩ := contents_eq_some_iff.mp found
  obtain ⟨here,there⟩ := Arena.isLive_iff.mp live
  rcases entry_of_respond built addressable wellFormed sound few atList with ⟨gone,-⟩ | ⟨now,still,left⟩
  · cases there.symm.trans gone
  · cases left with
    | same => exact contents_of_get? still
    | items written => exact absurd written unwritten

/-- An object lives on unless it is destroyed, and keeps its class and its fields but for the one that is written. -/
theorem object_of_respond (built : p.Built) (addressable : p.Addressable) (wellFormed : WellFormed p heap)
    (sound : heap.Sound) (few : (heap.respond p settings c).2.slots.size < 2 ^ 32)
    (found : heap.get? h = some (.object o)) (spared : c ≠ .destroy h) :
    ∃ changed, (heap.respond p settings c).2.get? h = some (.object changed) ∧ changed.cls = o.cls ∧
      ∀ f, c.featureWritten ≠ some (h,f) → changed.field f = o.field f := by
  rcases entry_of_respond built addressable wellFormed sound few found with ⟨-,rfl | owned⟩ | ⟨now,still,left⟩
  · exact absurd rfl spared
  · obtain ⟨owner,-,l,atList,-⟩ := owned
    cases found.symm.trans atList
  · cases left with
    | same => exact ⟨o,still,rfl,fun _ _ => rfl⟩
    | object sameClass fields => exact ⟨_,still,sameClass,fields⟩

/-! ### Runs -/

/-- Whether every call of a run is good, told from the heap before it and the heap after it. -/
def Throughout (p : Package) (settings : HeapSettings) (good : Heap → Call Value → Heap → Prop) (heap : Heap) :
    List (Call Value) → Prop
  | [] => True
  | c :: rest => good heap c (heap.respond p settings c).2 ∧
      Throughout p settings good (heap.respond p settings c).2 rest

/-- What runs rely on still holds after a call. -/
theorem wellFormed_respond (built : p.Built) (addressable : p.Addressable) (wellFormed : WellFormed p heap)
    (sound : heap.Sound) (few : (heap.respond p settings c).2.slots.size < 2 ^ 32) :
    WellFormed p (heap.respond p settings c).2 ∧ (heap.respond p settings c).2.Sound :=
  ⟨(respond_outcome settings c built addressable wellFormed sound few).wellFormed wellFormed,
    (respond_evolves built sound c few).sound sound few⟩

/-- Neither does the call write the elements of `b`, nor does it free `b`. -/
def Spares (b : Handle) (heap : Heap) (c : Call Value) (next : Heap) : Prop :=
  heap.listWritten c ≠ some b ∧ next.isLive b = true

/-- A list keeps its elements over a run that spares it. -/
theorem contents_of_after {calls : List (Call Value)} (built : p.Built) (addressable : p.Addressable)
    (wellFormed : WellFormed p heap) (sound : heap.Sound) (few : (heap.after p settings calls).slots.size < 2 ^ 32)
    (found : heap.contents b = some elements) (spared : Throughout p settings (Spares b) heap calls) :
    (heap.after p settings calls).contents b = some elements := by
  induction calls generalizing heap with
  | nil => exact found
  | cons c rest ih =>
    obtain ⟨⟨unwritten,live⟩,later⟩ := spared
    have fewNext := Nat.lt_of_le_of_lt (size_after built settings _ rest) few
    have kept := contents_of_respond built addressable wellFormed sound fewNext found unwritten live
    obtain ⟨formed,steady⟩ := wellFormed_respond built addressable wellFormed sound fewNext
    exact ih formed steady few kept later

/-- The object behind `h` after an access to a feature of it: the feature is marked, and its value is the given one
unless it holds a list, which stays. -/
def Accessed (next : Heap) (h : Handle) (o : ObjectData) (f : FeatureId) (feature : Feature) (v : Value)
    (marked : Bool) : Prop :=
  ∃ changed, next.get? h = some (.object changed) ∧ changed.cls = o.cls ∧
    changed.field f = ⟨if feature.kind.isMany then (o.field f).value else v,marked⟩

/-- Each described feature has its place in the object. -/
theorem WellFormed.inside (wellFormed : WellFormed p heap) (described : objectFeature p heap h f = .ok (o,feature)) :
    f.index.toNat < o.fields.length ∧ Fits p heap h feature.kind (o.field f).value := by
  obtain ⟨found,cls,known,row⟩ := objectFeature_eq_ok_iff.mp described
  obtain ⟨other,object⟩ := wellFormed.objects h o found
  cases known.symm.trans object.known
  exact ⟨object.length.symm ▸ (List.getElem?_eq_some_iff.mp row).1,fits_of_row object row⟩

theorem set_accessed (wellFormed : WellFormed p heap) (done : set p h f v heap = .ok next)
    (described : objectFeature p heap h f = .ok (o,feature)) : Accessed next h o f feature v true := by
  obtain ⟨inside,-⟩ := wellFormed.inside described
  obtain ⟨found,-⟩ := objectFeature_eq_ok_iff.mp described
  obtain ⟨o',feature',described',-,done⟩ := set_eq_ok done
  cases described.symm.trans described'
  cases done with
  | data plain isData written =>
    subst written
    exact ⟨_,get?_putObject_self found _,rfl,by simp [ObjectData.field_setField inside,isData,FeatureKind.isMany]⟩
  | single target isSingle fits written =>
    subst written
    exact ⟨_,get?_putObject_self found _,rfl,by simp [ObjectData.field_setField inside,isSingle,FeatureKind.isMany]⟩
  | many target backing assigned isMany backs assign written =>
    have kept : assigned.get? h = some (.object o) := by
      rcases assignList_eq_ok assign with ⟨-,rfl⟩ | ⟨given,own,-,atBacking,-,rfl⟩
      · exact found
      · exact kept_of_update (get?_setItems atBacking) found (by simp [atBacking])
    subst written
    exact ⟨_,get?_putObject_self kept _,rfl,by simp [ObjectData.field_setField inside,isMany,FeatureKind.isMany]⟩

/-- A write gives the list behind a feature the elements of the list that is written. -/
theorem set_contents (done : set p h f v heap = .ok next) (backs : heap.backing h f = some b)
    (wellFormed : WellFormed p heap) : ∃ s, v = .list s ∧ heap.contents s ≠ none ∧ next.contents b = heap.contents s := by
  obtain ⟨o,found,holds⟩ := backing_eq_some_iff.mp backs
  obtain ⟨o',feature,described,fits,done⟩ := set_eq_ok done
  obtain ⟨found',-⟩ := objectFeature_eq_ok_iff.mp described
  cases found.symm.trans found'
  obtain ⟨-,own⟩ := wellFormed.inside described
  rw [holds] at own
  obtain ⟨target,l,t,isMany,atList,-⟩ := own.many_of_list
  cases done with
  | data plain isData written => cases isMany.symm.trans isData
  | single target isSingle fits written => cases isMany.symm.trans isSingle
  | many target backing assigned again backs' assign written =>
    cases holds.symm.trans backs'
    subst written
    obtain ⟨s,rfl⟩ : ∃ s, v = .list s := by
      rw [isMany] at fits
      cases v with
      | list s => exact ⟨s,rfl⟩
      | _ => cases fits
    refine ⟨s,rfl,?_⟩
    replace assign : heap.assignList p b s = .ok assigned := assign
    rcases assignList_eq_ok assign with ⟨rfl,rfl⟩ | ⟨given,own,atSource,atBacking,-,rfl⟩
    · exact ⟨by simp [contents,atList],contents_putObject found _⟩
    · have kept : (heap.setItems b own given.items).get? h = some (.object o) :=
        kept_of_update (get?_setItems atBacking) found (by simp [atBacking])
      refine ⟨by simp [contents_of_get? atSource],?_⟩
      rw [contents_putObject kept,contents_setItems atBacking,if_pos rfl]
      exact (contents_of_get? atSource).symm

/-- Reverting a feature of a live object always succeeds, for a list that it has is alive. -/
theorem unset_succeeds (wellFormed : WellFormed p heap) (described : objectFeature p heap h f = .ok (o,feature)) :
    (unset p h f heap).1 = .ok () := by
  obtain ⟨-,fits⟩ := wellFormed.inside described
  obtain ⟨found,-⟩ := objectFeature_eq_ok_iff.mp described
  unfold unset
  rw [described]
  simp only
  split
  · rename_i held holds
    rw [holds] at fits
    obtain ⟨target,l,t,-,atList,-⟩ := fits.many_of_list
    have kept : (heap.putObject h (o.setField f { o.field f with isSet := false })).get? held = some (.list l) :=
      kept_of_update (get?_putObject found) atList (by simp [found])
    simp only [list_eq_ok_iff.mpr kept]
  · rfl

/-- Reverting restores the default, or leaves the list of the feature in its place. -/
theorem unset_accessed (wellFormed : WellFormed p heap) (described : objectFeature p heap h f = .ok (o,feature)) :
    Accessed (unset p h f heap).2 h o f feature feature.default false := by
  obtain ⟨inside,fits⟩ := wellFormed.inside described
  obtain ⟨found,-⟩ := objectFeature_eq_ok_iff.mp described
  have succeeds := unset_succeeds wellFormed described
  have done := unset_cases p h f heap
  generalize unset p h f heap = result at done succeeds ⊢
  cases done with
  | unknown e => cases succeeds
  | missing o feature held e described' holds lost => cases succeeds
  | emptied o' feature' held l described' holds there =>
    cases described.symm.trans described'
    rw [holds] at fits
    obtain ⟨target,-,-,isMany,-⟩ := fits.many_of_list
    refine ⟨_,kept_of_update (get?_setItems there) (get?_putObject_self found _) (by simp [there]),rfl,?_⟩
    simp [ObjectData.field_setField inside,isMany,FeatureKind.isMany]
  | restored o' feature' described' plain =>
    cases described.symm.trans described'
    have single : feature.kind.isMany = false := by
      rw [FeatureKind.isMany_eq_false_iff]
      intro target isMany
      rw [isMany] at fits
      obtain ⟨b,-,-,holds,-⟩ := fits
      exact plain b holds
    exact ⟨_,get?_putObject_self found _,rfl,by simp [ObjectData.field_setField inside,single]⟩

/-- Reverting empties the list that the feature has. -/
theorem unset_contents (wellFormed : WellFormed p heap) (described : objectFeature p heap h f = .ok (o,feature))
    (backs : heap.backing h f = some b) : (unset p h f heap).2.contents b = some [] := by
  obtain ⟨found,-⟩ := objectFeature_eq_ok_iff.mp described
  obtain ⟨o',found',holds'⟩ := backing_eq_some_iff.mp backs
  cases found.symm.trans found'
  have succeeds := unset_succeeds wellFormed described
  have done := unset_cases p h f heap
  generalize unset p h f heap = result at done succeeds ⊢
  cases done with
  | unknown e => cases succeeds
  | missing o feature held e described' holds lost => cases succeeds
  | emptied o' feature' held l described' holds there =>
    cases described.symm.trans described'
    cases holds'.symm.trans holds
    simp [contents_setItems there]
  | restored o' feature' described' plain =>
    cases described.symm.trans described'
    exact absurd holds' (plain b)

end Heap

end HandleBridge
