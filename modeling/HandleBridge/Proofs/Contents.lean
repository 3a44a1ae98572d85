import HandleBridge.Proofs.Copying

/-!
What lists contain, and what a copy takes over. `contents` and `backing` are the views that speak of lists without
their entries. A copy has the plain values and the marks of its source and lists of its own with the same elements,
and everything that was there before it is left alone (`copy_eq_ok`).
-/

namespace HandleBridge

namespace ObjectData

variable {o : ObjectData} {f g : FeatureId} {new : Field} {v : Value}

theorem field_setField (inside : f.index.toNat < o.fields.length) : (o.setField f new).field f = new := by
  simp [ObjectData.field,getElem?_setField,inside]

theorem field_setField_ne (other : f ≠ g) : (o.setField f new).field g = o.field g := by
  have apart : ¬ f.index.toNat = g.index.toNat := by
    intro same
    exact other (by cases f; cases g; simpa using UInt32.toNat_inj.mp same)
  simp [ObjectData.field,getElem?_setField,apart]

/-- A list that is read from a feature is in its row. -/
theorem row_of_field {b : Handle} (holds : (o.field f).value = .list b) :
    ∃ field, o.fields[f.index.toNat]? = some field ∧ field.value = .list b := by
  unfold ObjectData.field at holds
  cases there : o.fields[f.index.toNat]? with
  | none => simp [there] at holds
  | some field => exact ⟨field,rfl,by simpa [there] using holds⟩

/-- No feature of the object counts as set. -/
def Unmarked (o : ObjectData) : Prop := ∀ field ∈ o.fields, field.isSet = false

theorem unmarked_fresh (cls : ClassType) : (ObjectData.fresh cls).Unmarked := by
  intro field member
  obtain ⟨feature,-,rfl⟩ := List.mem_map.mp member
  rfl

theorem Unmarked.field (unmarked : o.Unmarked) (f : FeatureId) : (o.field f).isSet = false := by
  unfold ObjectData.field
  cases there : o.fields[f.index.toNat]? with
  | none => rfl
  | some field => exact unmarked field (List.mem_of_getElem? there)

theorem Unmarked.setValue (unmarked : o.Unmarked) : (o.setValue f v).Unmarked := by
  intro field member
  rcases List.mem_or_eq_of_mem_set member with old | rfl
  · exact unmarked field old
  · exact unmarked.field f

end ObjectData

namespace Heap

variable {p : Package} {settings : HeapSettings} {start heap next last : Heap} {h k b source made : Handle}
  {o : ObjectData} {l : ListData} {elements : List Handle} {f : FeatureId} {n : Nat} {c : ClassId}

/-- Elements of the list behind a handle. -/
def contents (heap : Heap) (b : Handle) : Option (List Handle) :=
  match heap.get? b with
  | some (.list l) => some l.items
  | _ => none

/-- List that an object holds in a feature. -/
def backing (heap : Heap) (h : Handle) (f : FeatureId) : Option Handle :=
  match heap.get? h with
  | some (.object o) =>
    match (o.field f).value with
    | .list b => some b
    | _ => none
  | _ => none

theorem contents_eq_some_iff :
    heap.contents b = some elements ↔ ∃ l, heap.get? b = some (.list l) ∧ l.items = elements := by
  unfold contents
  constructor
  · intro found
    split at found
    · rename_i l there
      exact ⟨l,there,Option.some.inj found⟩
    · cases found
  · rintro ⟨l,there,rfl⟩
    simp [there]

theorem contents_of_get? (found : heap.get? b = some (.list l)) : heap.contents b = some l.items := by
  simp [contents,found]

theorem contents_congr (same : next.get? b = heap.get? b) : next.contents b = heap.contents b := by
  simp [contents,same]

theorem backing_eq_some_iff :
    heap.backing h f = some b ↔ ∃ o, heap.get? h = some (.object o) ∧ (o.field f).value = .list b := by
  unfold backing
  constructor
  · intro found
    split at found
    · rename_i o there
      split at found
      · rename_i list holds
        cases found
        exact ⟨o,there,holds⟩
      · cases found
    · cases found
  · rintro ⟨o,there,holds⟩
    simp [there,holds]

/-- New items are the contents of their own list and of no other. -/
theorem contents_setItems (found : heap.get? b = some (.list l)) (k : Handle) :
    (heap.setItems b l elements).contents k = if k = b then some elements else heap.contents k := by
  by_cases same : k = b
  · simp [contents,get?_setItems found,same]
  · simp [contents,get?_setItems found,same]

/-- Objects have no contents, before and after. -/
theorem contents_putObject {changed : ObjectData} (found : heap.get? h = some (.object o)) (k : Handle) :
    (heap.putObject h changed).contents k = heap.contents k := by
  by_cases same : k = h
  · simp [contents,get?_putObject found,same,found]
  · simp [contents,get?_putObject found,same]

/-- The list behind a feature is alive and belongs to the object. -/
theorem WellFormed.backed (wellFormed : WellFormed p heap) (backs : heap.backing h f = some b) :
    ∃ l, heap.get? b = some (.list l) ∧ l.owner = some h := by
  obtain ⟨o,found,holds⟩ := backing_eq_some_iff.mp backs
  obtain ⟨cls,object⟩ := wellFormed.objects h o found
  exact object.owns (ObjectData.holds_of_field holds)

/-- A list is behind one feature of one object only. -/
theorem WellFormed.backing_inj {g : FeatureId} (wellFormed : WellFormed p heap) (first : heap.backing h f = some b)
    (second : heap.backing k g = some b) : k = h ∧ g = f := by
  obtain ⟨l,atList,owned⟩ := wellFormed.backed first
  obtain ⟨l',atList',owned'⟩ := wellFormed.backed second
  cases atList.symm.trans atList'
  cases owned.symm.trans owned'
  obtain ⟨o,found,holds⟩ := backing_eq_some_iff.mp first
  obtain ⟨o',found',holds'⟩ := backing_eq_some_iff.mp second
  cases found.symm.trans found'
  obtain ⟨cls,object⟩ := wellFormed.objects h o found
  obtain ⟨field,row,isList⟩ := ObjectData.row_of_field holds
  obtain ⟨field',row',isList'⟩ := ObjectData.row_of_field holds'
  have index := object.distinct _ _ field' field b row' row isList' isList
  refine ⟨rfl,?_⟩
  cases f
  cases g
  simpa using UInt32.toNat_inj.mp index

/-! ### New objects -/

/-- Handing out lists marks nothing as set. -/
theorem unmarked_backFeatures {changed : ObjectData} (features : List Feature) (sound : heap.Sound)
    (found : heap.get? h = some (.object o)) (unmarked : o.Unmarked)
    (few : (backFeatures p settings h features heap).2.slots.size < 2 ^ 32)
    (done : (backFeatures p settings h features heap).1 = .ok ())
    (there : (backFeatures p settings h features heap).2.get? h = some (.object changed)) : changed.Unmarked := by
  induction features generalizing heap o with
  | nil =>
    cases found.symm.trans there
    exact unmarked
  | cons feature rest ih =>
    have step := backFeatures_cons p settings h heap feature rest
    generalize backFeatures p settings h (feature :: rest) heap = result at step few done there
    generalize backFeaturesLives p settings h (feature :: rest) heap = lives at step
    cases step with
    | plain single => exact ih sound found unmarked few done there
    | backed target t list next other isMany named made kept =>
      have fewNext : next.slots.size < 2 ^ 32 :=
        Nat.lt_of_le_of_lt (Nat.le_trans (Nat.le_of_eq size_put.symm) (size_backFeatures rest _)) few
      obtain ⟨vacant,view⟩ := get?_alloc sound made fewNext
      have same : next.get? h = some (.object o) := kept_of_update view found (by simp [vacant])
      cases kept.symm.trans same
      exact ih (sound_alloc sound made fewNext).set (get?_putObject_self kept _) unmarked.setValue few done there
    | _ => cases done

theorem unmarked_create (sound : heap.Sound) (few : next.slots.size < 2 ^ 32)
    (done : create p settings c heap = (.ok h,next)) (found : next.get? h = some (.object o)) : o.Unmarked := by
  have created := create_cases p settings c heap
  rw [done] at created
  generalize same : (Except.ok h,next) = result at created
  generalize createLives p settings c heap = lives at created
  cases created with
  | refused e => cases same
  | made cls made middle known concrete allocated =>
    obtain ⟨yielded,rfl⟩ := Prod.mk.inj same
    obtain ⟨⟨⟩,backed,rfl⟩ := map_eq_ok_iff.mp yielded.symm
    have fewMiddle := Nat.lt_of_le_of_lt (size_backFeatures cls.features middle) few
    have there : middle.get? made = some (.object (.fresh cls)) := by simp [(get?_alloc sound allocated fewMiddle).2]
    exact unmarked_backFeatures cls.features (sound_alloc sound allocated fewMiddle) there
      (ObjectData.unmarked_fresh cls) few backed found

/-! ### Copies -/

/-- What a value of the source is in the copy: a list of the copy with the elements of the source's list, or the
value itself. -/
def TakenOver (start heap : Heap) (value own : Value) : Prop :=
  match value with
  | .list b => ∃ c, own = .list c ∧ heap.contents c = start.contents b
  | v => own = v

theorem takenOver_of_plain {value : Value} (plain : ∀ b, value ≠ .list b) : TakenOver start heap value value := by
  unfold TakenOver
  split
  · rename_i b
    exact absurd rfl (plain b)
  · rfl

theorem TakenOver.eq_of_plain {value own : Value} (taken : TakenOver start heap value own)
    (plain : ∀ b, value ≠ .list b) : own = value := by
  unfold TakenOver at taken
  split at taken
  · rename_i b
    exact absurd rfl (plain b)
  · exact taken

theorem TakenOver.congr {value own : Value} (taken : TakenOver start heap value own)
    (same : ∀ c, own = .list c → next.contents c = heap.contents c) : TakenOver start next value own := by
  unfold TakenOver at taken ⊢
  split at taken
  · obtain ⟨c,isList,filled⟩ := taken
    exact ⟨c,isList,(same c isList).trans filled⟩
  · exact taken

/-- The copy `h` of the object behind `source` has the first `n` values, and nothing else than the copy and its lists
is other than at the start. -/
structure Transferred (p : Package) (start : Heap) (source : Handle) (o : ObjectData) (h : Handle) (n : Nat)
    (heap : Heap) : Prop where
  filling : Filling p source o h heap
  fresh : start.get? h = none
  kept : ∀ k entry, start.get? k = some entry → heap.get? k = some entry
  objects : ∀ k other, heap.get? k = some (.object other) → k = h ∨ start.get? k = some (.object other)
  done : ∀ (i : Nat) field, i < n → o.fields[i]? = some field → ∃ copied own, heap.get? h = some (.object copied) ∧
    copied.fields[i]? = some own ∧ TakenOver start heap field.value own.value

namespace Transferred

/-- The lists of the copy were not there at the start. -/
theorem fresh_list {copied : ObjectData} (transferred : Transferred p start source o h n heap)
    (wellFormed : WellFormed p start) (there : heap.get? h = some (.object copied)) (holds : copied.Holds b) :
    start.get? b = none := by
  obtain ⟨cls,object⟩ := transferred.filling.wellFormed.objects h copied there
  obtain ⟨l,atList,owned⟩ := object.owns holds
  cases before : start.get? b with
  | none => rfl
  | some entry =>
    cases atList.symm.trans (transferred.kept b entry before)
    obtain ⟨owner,live,-⟩ := wellFormed.held b l h before owned
    cases transferred.fresh.symm.trans live

/-- The copy has a place for every value of the source, of the same kind. -/
theorem place {field : Field} (transferred : Transferred p start source o h n heap) (row : o.fields[n]? = some field) :
    ∃ copied own kind, heap.get? h = some (.object copied) ∧ copied.fields[n]? = some own ∧
      Fits p heap source kind field.value ∧ Fits p heap h kind own.value := by
  obtain ⟨copied,cls,there,-,object,copy⟩ := transferred.filling.instances
  obtain ⟨feature,known,fits⟩ := object.feature_of_field row
  have inside : n < copied.fields.length := copy.length.symm ▸ (List.getElem?_eq_some_iff.mp known).1
  have place : copied.fields[n]? = some copied.fields[n] := List.getElem?_eq_getElem inside
  exact ⟨copied,_,feature.kind,there,place,fits,copy.fits n feature _ known place⟩

/-- The list of the copy behind a feature takes over the elements of the source's list. -/
theorem items {copied : ObjectData} {field own : Field} {given : ListData}
    (transferred : Transferred p start source o h n heap) (filled : Filling p source o h (heap.setItems b l given.items))
    (wellFormed : WellFormed p start) (there : heap.get? h = some (.object copied))
    (place : copied.fields[n]? = some own) (holds : own.value = .list b) (atList : heap.get? b = some (.list l))
    (row : o.fields[n]? = some field) (isList : field.value = .list k)
    (atSource : start.contents k = some given.items) :
    Transferred p start source o h (n + 1) (heap.setItems b l given.items) := by
  have view : ∀ k, (heap.setItems b l given.items).get? k =
      if k = b then some (.list { l with items := given.items }) else heap.get? k := get?_setItems atList
  have new : start.get? b = none :=
    transferred.fresh_list wellFormed there (ObjectData.holds_iff.mpr ⟨n,own,place,holds⟩)
  have still : (heap.setItems b l given.items).get? h = some (.object copied) :=
    kept_of_update view there (by simp [atList])
  refine ⟨filled,transferred.fresh,?_,?_,?_⟩
  · intro k entry found
    have apart : k ≠ b := by
      rintro rfl
      cases new.symm.trans found
    rw [view,if_neg apart]
    exact transferred.kept k entry found
  · intro k other found
    rw [view] at found
    split at found
    · cases found
    · exact transferred.objects k other found
  · intro i old before found
    by_cases last : i = n
    · subst last
      cases row.symm.trans found
      refine ⟨copied,own,still,place,?_⟩
      rw [isList]
      exact ⟨b,holds,by simp [contents_setItems atList,atSource]⟩
    · obtain ⟨copied',earlier,there',place',taken⟩ := transferred.done i old (by omega) found
      cases there.symm.trans there'
      refine ⟨copied,earlier,still,place',taken.congr ?_⟩
      -- The copy holds no list twice.
      intro c holds'
      obtain ⟨cls,object⟩ := transferred.filling.wellFormed.objects h copied there
      have apart : c ≠ b := by
        rintro rfl
        exact last (object.distinct i n earlier own c place' place holds' holds)
      rw [contents_setItems atList,if_neg apart]

/-- Any other value goes to its place. -/
theorem value {copied : ObjectData} {field own : Field} (transferred : Transferred p start source o h n heap)
    (filled : Filling p source o h (heap.putObject h (copied.setValue f field.value))) (index : f.index.toNat = n)
    (there : heap.get? h = some (.object copied)) (place : copied.fields[n]? = some own)
    (row : o.fields[n]? = some field) (plain : ∀ b, field.value ≠ .list b) :
    Transferred p start source o h (n + 1) (heap.putObject h (copied.setValue f field.value)) := by
  have view : ∀ k, (heap.putObject h (copied.setValue f field.value)).get? k =
      if k = h then some (.object (copied.setValue f field.value)) else heap.get? k := get?_putObject there
  have now : (heap.putObject h (copied.setValue f field.value)).get? h =
      some (.object (copied.setValue f field.value)) := get?_putObject_self there _
  have inside : n < copied.fields.length := (List.getElem?_eq_some_iff.mp place).1
  refine ⟨filled,transferred.fresh,?_,?_,?_⟩
  · intro k entry found
    have apart : k ≠ h := by
      rintro rfl
      cases transferred.fresh.symm.trans found
    rw [view,if_neg apart]
    exact transferred.kept k entry found
  · intro k other found
    by_cases same : k = h
    · exact .inl same
    · rw [view,if_neg same] at found
      exact transferred.objects k other found
  · intro i old before found
    by_cases last : i = n
    · subst last
      cases row.symm.trans found
      refine ⟨_,{ copied.field f with value := field.value },now,?_,takenOver_of_plain plain⟩
      simp [ObjectData.setValue,ObjectData.getElem?_setField,index,inside]
    · obtain ⟨copied',earlier,there',place',taken⟩ := transferred.done i old (by omega) found
      cases there.symm.trans there'
      have apart : ¬ (f.index.toNat = i ∧ i < copied.fields.length) := by omega
      refine ⟨_,earlier,now,?_,taken.congr fun c _ => contents_putObject there c⟩
      rw [ObjectData.setValue,ObjectData.getElem?_setField,if_neg apart,place']

theorem step {field : Field} (transferred : Transferred p start source o h n heap) (wellFormed : WellFormed p start)
    (found : start.get? source = some (.object o)) (built : p.Built) (addressable : p.Addressable)
    (row : o.fields[n]? = some field) :
    ∃ next, heap.copyValue h (field.value,n) = .ok next ∧ Transferred p start source o h (n + 1) next := by
  obtain ⟨next,done,-,filled⟩ := transferred.filling.copyValue built addressable row
  refine ⟨next,done,?_⟩
  obtain ⟨cls,object⟩ := wellFormed.objects source o found
  obtain ⟨feature,known,-⟩ := object.feature_of_field row
  have small : n < 2 ^ 32 := Nat.lt_trans (List.getElem?_eq_some_iff.mp known).1
    (addressable.features cls (Package.class?_mem object.known))
  have index : (UInt32.ofNat n).toNat = n := UInt32.toNat_ofNat_of_lt' small
  obtain ⟨copied,own,kind,there,place,fits,ownFits⟩ := transferred.place row
  have ownField : copied.field ⟨UInt32.ofNat n⟩ = own := field_eq (by rwa [index])
  have copy := copyValue_eq_ok done
  generalize same : field.value = v at copy
  cases copy with
  | items k target other given l atSource atCopy holds atTarget written =>
    cases there.symm.trans atCopy
    rw [ownField] at holds
    have owned := object.owns (ObjectData.holds_iff.mpr ⟨n,field,row,same⟩)
    obtain ⟨before,atStart,-⟩ := owned
    cases atSource.symm.trans (transferred.kept k _ atStart)
    subst written
    exact transferred.items filled wellFormed there place holds atTarget row same (contents_of_get? atStart)
  | skipped k other given atSource atCopy plain written =>
    -- Only many-valued features hold lists, and in those the copy has one too.
    cases there.symm.trans atCopy
    rw [same] at fits
    obtain ⟨target,-,-,isMany,-⟩ := fits.many_of_list
    rw [isMany] at ownFits
    obtain ⟨c,-,-,holds,-⟩ := ownFits
    rw [ownField] at plain
    exact absurd holds (plain c)
  | value v other plain atCopy written =>
    cases there.symm.trans atCopy
    subst written same
    exact transferred.value filled index there place row plain

/-- All values of the source go over, those in front first. -/
theorem all {before : List Field} (fields : List Field) (transferred : Transferred p start source o h before.length heap)
    (wellFormed : WellFormed p start) (found : start.get? source = some (.object o)) (built : p.Built)
    (addressable : p.Addressable) (split : o.fields = before ++ fields) :
    ∃ next, copyValues h ((fields.map Field.value).zipIdx before.length) heap = (.ok (),next) ∧
      Transferred p start source o h o.fields.length next := by
  induction fields generalizing before heap with
  | nil =>
    rw [List.append_nil] at split
    exact ⟨heap,rfl,by rwa [split]⟩
  | cons field rest ih =>
    have row : o.fields[before.length]? = some field := by simp [split]
    obtain ⟨next,copied,further⟩ := transferred.step wellFormed found built addressable row
    have grown : before.length + 1 = (before ++ [field]).length := by simp
    rw [grown] at further
    obtain ⟨last,done,filled⟩ := ih further (by simp [split])
    refine ⟨last,?_,filled⟩
    rw [← grown] at done
    simp [copyValues,copied,done]

end Transferred

/-- What copying an object did. -/
structure Duplicated (heap : Heap) (o : ObjectData) (made : Handle) (next : Heap) : Prop where
  fresh : heap.get? made = none
  kept : ∀ k entry, heap.get? k = some entry → next.get? k = some entry
  objects : ∀ k other, next.get? k = some (.object other) → k = made ∨ heap.get? k = some (.object other)
  copy : ∃ copied, next.get? made = some (.object copied) ∧ copied.cls = o.cls ∧
    ∀ (i : Nat) field, o.fields[i]? = some field → ∃ own, copied.fields[i]? = some own ∧ own.isSet = field.isSet ∧
      TakenOver heap next field.value own.value

/-- Once all values went over, the marks of the source are written over those of the copy. -/
theorem Transferred.duplicated {copied : ObjectData} {initialised : Bool}
    (transferred : Transferred p start source o h o.fields.length heap)
    (there : heap.get? h = some (.object copied)) :
    Duplicated start o h (heap.putObject h { copied with
      fields := copied.fields.zipWith (fun field source => { field with isSet := source.isSet }) o.fields
      initialised }) := by
  generalize marked : ObjectData.mk copied.cls
    (copied.fields.zipWith (fun field source => { field with isSet := source.isSet }) o.fields) initialised = changed
  have view : ∀ k, (heap.putObject h changed).get? k = if k = h then some (.object changed) else heap.get? k :=
    get?_putObject there
  refine ⟨transferred.fresh,?_,?_,changed,get?_putObject_self there changed,?_,?_⟩
  · intro k entry found
    have apart : k ≠ h := by
      rintro rfl
      cases transferred.fresh.symm.trans found
    rw [view,if_neg apart]
    exact transferred.kept k entry found
  · intro k other found
    by_cases same : k = h
    · exact .inl same
    · rw [view,if_neg same] at found
      exact transferred.objects k other found
  · obtain ⟨copied',there',sameClass⟩ := transferred.filling.copy
    cases there.symm.trans there'
    rw [← marked,sameClass]
  · intro i field row
    obtain ⟨copied',own,there',place,taken⟩ :=
      transferred.done i field (List.getElem?_eq_some_iff.mp row).1 row
    cases there.symm.trans there'
    refine ⟨{ own with isSet := field.isSet },?_,rfl,taken.congr fun c _ => contents_putObject there c⟩
    simp [← marked,List.getElem?_zipWith,place,row]

/-- A copy that was made has everything of its source, with lists of its own. -/
theorem copy_eq_ok (settings : HeapSettings) (built : p.Built) (addressable : p.Addressable)
    (wellFormed : WellFormed p heap) (sound : heap.Sound) (few : next.slots.size < 2 ^ 32)
    (done : copy p settings source heap = (.ok made,next)) :
    ∃ o, heap.get? source = some (.object o) ∧ Duplicated heap o made next := by
  have copied := copy_cases p settings source heap
  rw [done] at copied
  generalize same : (Except.ok made,next) = result at copied
  generalize heap.lives p settings (.copy source) = lives at copied
  cases copied with
  | refused e absent => cases same
  | failed o e last found created => cases same
  | made o h middle found created =>
    obtain ⟨yielded,rfl⟩ := Prod.mk.inj same
    obtain ⟨⟨⟩,finished,rfl⟩ := map_eq_ok_iff.mp yielded.symm
    have fewMiddle := Nat.lt_of_le_of_lt (copyInto_evolves settings h o middle).size_le few
    obtain ⟨⟨copied,cls,creation⟩,filling⟩ :=
      filling_of_create built addressable wellFormed sound found created fewMiddle
    have transferred : Transferred p heap source o h ([] : List Field).length middle := by
      refine ⟨filling,creation.fresh,fun k entry there => creation.kept there,?_,fun i field before => by simp at before⟩
      intro k other there
      by_cases here : k = h
      · exact .inl here
      · rcases creation.others k here with old | ⟨-,-,t,-,new⟩
        · exact .inr (old ▸ there)
        · cases new.symm.trans there
    obtain ⟨last,moved,full⟩ := transferred.all o.fields wellFormed found built addressable rfl
    obtain ⟨filled,there,-⟩ := full.filling.copy
    refine ⟨o,found,?_⟩
    rw [List.length_nil] at moved
    simp only [copyInto,moved,object_eq_ok_iff.mpr there]
    exact full.duplicated there

end Heap

end HandleBridge
