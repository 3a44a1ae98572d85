import HandleBridge.Proofs.Outcomes

/-!
Copying an object. The copy is created with lists of its own and then filled from the source. As both have the
features of one class, filling never fails (`copyInto_spec`): a copy is refused by its creation or not at all. With
this, every call has one of the outcomes (`respond_outcome`).
-/

namespace HandleBridge.Heap

variable {p : Package} {settings : HeapSettings} {heap next last : Heap} {h source : Handle} {o : ObjectData}
  {cls : ClassType}

/-- A copy is being filled: the source is as it was, and the copy is another object of its class. -/
structure Filling (p : Package) (source : Handle) (o : ObjectData) (h : Handle) (heap : Heap) : Prop where
  wellFormed : WellFormed p heap
  apart : h ≠ source
  found : heap.get? source = some (.object o)
  copy : ∃ copied, heap.get? h = some (.object copied) ∧ copied.cls = o.cls

namespace Filling

theorem instances (filling : Filling p source o h heap) : ∃ copied cls, heap.get? h = some (.object copied) ∧
    copied.cls = o.cls ∧ Instance p heap source o cls ∧ Instance p heap h copied cls := by
  obtain ⟨copied,there,sameClass⟩ := filling.copy
  obtain ⟨cls,object⟩ := filling.wellFormed.objects source o filling.found
  obtain ⟨other,copy⟩ := filling.wellFormed.objects h copied there
  have known := copy.known
  rw [sameClass,object.known] at known
  cases known
  exact ⟨copied,cls,there,sameClass,object,copy⟩

theorem setItems {b : Handle} {l : ListData} (filling : Filling p source o h heap)
    (atList : heap.get? b = some (.list l)) (items : List Handle) : Filling p source o h (heap.setItems b l items) := by
  have objects : ∀ k other, heap.get? k = some (.object other) →
      (heap.setItems b l items).get? k = some (.object other) := by
    intro k other there
    exact kept_of_update (get?_setItems atList) there (by simp [atList])
  obtain ⟨copied,there,sameClass⟩ := filling.copy
  exact ⟨filling.wellFormed.setItems atList items,filling.apart,objects source o filling.found,
    copied,objects h copied there,sameClass⟩

theorem putObject {copied changed : ObjectData} (filling : Filling p source o h heap)
    (there : heap.get? h = some (.object copied)) (known : p.class? copied.cls = some cls)
    (changes : Changes p heap cls copied changed) : Filling p source o h (heap.putObject h changed) := by
  obtain ⟨other,found,sameClass⟩ := filling.copy
  cases found.symm.trans there
  refine ⟨filling.wellFormed.putObject there known changes,filling.apart,?_,changed,?_,?_⟩
  · rw [get?_putObject there,if_neg (Ne.symm filling.apart),filling.found]
  · rw [get?_putObject there,if_pos rfl]
  · rw [changes.sameClass,sameClass]

/-- What a list of the source has, the list of the copy behind the same feature may have too. -/
theorem copyList {copied : ObjectData} {feature : Feature} {f : FeatureId} {b : Handle}
    (filling : Filling p source o h heap) (built : p.Built) (addressable : p.Addressable)
    (there : heap.get? h = some (.object copied)) (fits : Fits p heap source feature.kind (.list b))
    (own : Fits p heap h feature.kind (copied.field f).value) :
    ∃ next, heap.copyValue h (.list b,f.index.toNat) = .ok next ∧ Edits p heap next ∧ Filling p source o h next := by
  obtain ⟨target,given,t,isMany,atSource,-,named,ofSource⟩ := fits.many_of_list
  rw [isMany] at own
  obtain ⟨c,l,t',holds,atTarget,-,named',ofTarget⟩ := own
  cases named.symm.trans named'
  have done : heap.copyValue h (.list b,f.index.toNat) = .ok (heap.setItems c l given.items) := by
    simp only [Heap.copyValue,UInt32.ofNat_toNat,list_eq_ok_iff.mpr atSource,object_eq_ok_iff.mpr there,bind,
      Except.bind,holds,list_eq_ok_iff.mpr atTarget]
    rfl
  have fitting : p.isA given.elementClass l.elementClass = true := by
    rw [ofSource,ofTarget]
    exact built.isA_refl (built.class?_id addressable (Package.classNamed?_mem named))
  exact ⟨_,done,.single (.items atTarget fun x member => .shared atSource member fitting),
    filling.setItems atTarget given.items⟩

/-- Any other value goes to the same place of the copy, where there is no list either. -/
theorem copyPlain {copied : ObjectData} {feature : Feature} {field : Field} {f : FeatureId}
    (filling : Filling p source o h heap) (there : heap.get? h = some (.object copied))
    (sameClass : copied.cls = o.cls) (known : p.class? copied.cls = some cls)
    (row : cls.features[f.index.toNat]? = some feature) (place : o.fields[f.index.toNat]? = some field)
    (fits : Fits p heap source feature.kind field.value) (own : Fits p heap h feature.kind (copied.field f).value)
    (plain : ∀ b, field.value ≠ .list b) :
    ∃ next, heap.copyValue h (field.value,f.index.toNat) = .ok next ∧ Edits p heap next ∧
      Filling p source o h next := by
  have single : ∀ b, (copied.field f).value ≠ .list b := by
    intro b isList
    rw [isList] at own
    obtain ⟨target,-,-,isMany,-⟩ := own.many_of_list
    rw [isMany] at fits
    obtain ⟨b,-,-,isList,-⟩ := fits
    exact plain b isList
  have done : heap.copyValue h (field.value,f.index.toNat) =
      .ok (heap.putObject h (copied.setValue f field.value)) := by
    simp only [Heap.copyValue,UInt32.ofNat_toNat,object_eq_ok_iff.mpr there]
    rfl
  have change : Change p heap copied f.index.toNat feature.kind (copied.field f).value field.value :=
    .copied filling.found sameClass.symm place plain single
  have changes : Changes p heap cls copied (copied.setValue f field.value) := changes_setField row change
  exact ⟨_,done,.single (.values there known changes),filling.putObject there known changes⟩

/-- Each value of the source can be copied. -/
theorem copyValue (filling : Filling p source o h heap) (built : p.Built) (addressable : p.Addressable) {i : Nat}
    {field : Field} (place : o.fields[i]? = some field) :
    ∃ next, heap.copyValue h (field.value,i) = .ok next ∧ Edits p heap next ∧ Filling p source o h next := by
  obtain ⟨copied,cls,there,sameClass,object,copy⟩ := filling.instances
  obtain ⟨feature,row,fits⟩ := object.feature_of_field place
  have inside : i < cls.features.length := (List.getElem?_eq_some_iff.mp row).1
  have bound := addressable.features cls (Package.class?_mem object.known)
  obtain ⟨f,index⟩ : ∃ f : FeatureId, f.index.toNat = i :=
    ⟨⟨UInt32.ofNat i⟩,UInt32.toNat_ofNat_of_lt' (Nat.lt_trans inside bound)⟩
  subst index
  have own := fits_of_row copy row
  by_cases isList : ∃ b, field.value = .list b
  · obtain ⟨b,isList⟩ := isList
    rw [isList] at fits ⊢
    exact filling.copyList built addressable there fits own
  · exact filling.copyPlain there sameClass copy.known row place fits own fun b again => isList ⟨b,again⟩

/-- Values at places of the source can be copied one after another. -/
theorem copyValues (filling : Filling p source o h heap) (built : p.Built) (addressable : p.Addressable)
    (places : List (Value × Nat))
    (within : ∀ v i, (v,i) ∈ places → ∃ field, o.fields[i]? = some field ∧ field.value = v) :
    ∃ next, Heap.copyValues h places heap = (.ok (),next) ∧ Edits p heap next ∧ Filling p source o h next := by
  induction places generalizing heap with
  | nil => exact ⟨heap,rfl,.refl,filling⟩
  | cons place rest ih =>
    obtain ⟨v,i⟩ := place
    obtain ⟨field,there,rfl⟩ := within v i (List.mem_cons_self ..)
    obtain ⟨next,done,edits,further⟩ := filling.copyValue built addressable there
    obtain ⟨last,finished,others,filled⟩ := ih further fun v i later => within v i (List.mem_cons_of_mem _ later)
    refine ⟨last,?_,edits.trans others,filled⟩
    rw [Heap.copyValues,done]
    exact finished

end Filling

/-- Filling a copy never fails. -/
theorem copyInto_spec (filling : Filling p source o h heap) (built : p.Built) (addressable : p.Addressable) :
    ∃ next, copyInto h o heap = (.ok (),next) ∧ Edits p heap next := by
  have within : ∀ v i, (v,i) ∈ (o.fields.map Field.value).zipIdx → ∃ field, o.fields[i]? = some field ∧ field.value = v := by
    intro v i member
    have place := List.mem_zipIdx_iff_getElem?.mp member
    simpa using place
  obtain ⟨next,done,edits,filled⟩ := filling.copyValues built addressable _ within
  obtain ⟨copied,cls,there,sameClass,object,copy⟩ := filled.instances
  have changes : Changes p next cls copied { copied with
      fields := copied.fields.zipWith (fun field source => { field with isSet := source.isSet }) o.fields
      initialised := o.initialised } := by
    refine ⟨rfl,by simp [copy.length,object.length],?_⟩
    intro i feature old new row before now
    simp only [List.getElem?_zipWith,before] at now
    split at now
    · rename_i old source held marked
      cases held
      cases now
      exact .kept
    · cases now
  exact ⟨_,by simp only [copyInto,done,object_eq_ok_iff.mpr there],edits.tail (.values there copy.known changes)⟩

/-- An object that was created for a copy can be filled from its source. -/
theorem filling_of_create {made : Handle} {next : Heap} (built : p.Built) (addressable : p.Addressable)
    (wellFormed : WellFormed p heap) (sound : heap.Sound) (found : heap.get? h = some (.object o))
    (created : create p settings o.cls heap = (.ok made,next)) (few : next.slots.size < 2 ^ 32) :
    (∃ copied cls, Created p heap made copied cls next) ∧ Filling p h o made next := by
  have spec := create_spec settings o.cls built addressable wellFormed sound
  rw [created] at spec
  rcases spec few with ⟨k,copied,cls,yielded,ofClass,creation⟩ | ⟨e,failed,-⟩
  · cases yielded
    have apart : made ≠ h := by
      rintro rfl
      cases creation.fresh.symm.trans found
    exact ⟨⟨copied,cls,creation⟩,wellFormed.newObject creation,apart,creation.kept found,copied,creation.found,ofClass⟩
  · cases failed

/-- Copying an object is a sequence of well formed steps. -/
theorem copy_outcome (settings : HeapSettings) (h : Handle) (built : p.Built) (addressable : p.Addressable)
    (wellFormed : WellFormed p heap) (sound : heap.Sound) (few : (copy p settings h heap).2.slots.size < 2 ^ 32) :
    Outcome p heap (copy p settings h heap) := by
  have done := copy_cases p settings h heap
  generalize copy p settings h heap = result at done few ⊢
  generalize heap.lives p settings (.copy h) = lives at done
  cases done with
  | refused e absent => exact .refused e heap fun _ => rfl
  | failed o e next found created =>
    have spec := create_spec settings o.cls built addressable wellFormed sound
    rw [created] at spec
    rcases spec few with ⟨made,-,-,succeeds,-⟩ | ⟨-,-,same⟩
    · cases succeeds
    · exact .refused e next same
  | made o made next found created =>
    have fewNext := Nat.lt_of_le_of_lt (copyInto_evolves settings made o next).size_le few
    obtain ⟨⟨copied,cls,creation⟩,filling⟩ := filling_of_create built addressable wellFormed sound found created fewNext
    obtain ⟨last,filled,edits⟩ := copyInto_spec filling built addressable
    rw [filled]
    exact .edited made last (.head (.object creation) edits)

/-- So is making one. -/
theorem create_outcome (settings : HeapSettings) (c : ClassId) (built : p.Built) (addressable : p.Addressable)
    (wellFormed : WellFormed p heap) (sound : heap.Sound) (few : (create p settings c heap).2.slots.size < 2 ^ 32) :
    Outcome p heap (create p settings c heap) := by
  have spec := create_spec settings c built addressable wellFormed sound few
  generalize create p settings c heap = result at spec ⊢
  obtain ⟨result,next⟩ := result
  rcases spec with ⟨h,o,cls,rfl,-,created⟩ | ⟨e,rfl,same⟩
  · exact .edited h next (.single (.object created))
  · exact .refused e next same

theorem createList_outcome (settings : HeapSettings) (c : ClassId) (sound : heap.Sound)
    (few : (commitWith (createList p settings c) heap).2.slots.size < 2 ^ 32) :
    Outcome p heap (commitWith (createList p settings c) heap) := by
  unfold commitWith at few ⊢
  cases done : createList p settings c heap with
  | error e => exact .refused e heap fun _ => rfl
  | ok made =>
    obtain ⟨h,next⟩ := made
    rw [done] at few
    obtain ⟨⟨cls,known⟩,made⟩ := createList_eq_ok done
    obtain ⟨fresh,view⟩ := get?_alloc sound made few
    exact .edited h next (.single (.list known fresh view))

theorem destroy_outcome (h : Handle) : Outcome p heap (commit (destroy h) heap) := by
  unfold commit
  cases done : destroy h heap with
  | error e => exact .refused e heap fun _ => rfl
  | ok next =>
    obtain ⟨⟨entry,found,unowned⟩,discarded⟩ := destroy_eq_ok done
    exact .freed () h entry next found unowned discarded

/-- What any call comes to is a sequence of well formed steps. -/
theorem respond_outcome (settings : HeapSettings) (c : Call Value) (built : p.Built) (addressable : p.Addressable)
    (wellFormed : WellFormed p heap) (sound : heap.Sound) (few : (heap.respond p settings c).2.slots.size < 2 ^ 32) :
    Outcome p heap (heap.respond p settings c) := by
  cases c with
  | create c => exact create_outcome settings c built addressable wellFormed sound few
  | destroy h => exact destroy_outcome h
  | upcast h => exact observe_outcome fun heap => (heap.object h).map fun _ => h
  | initialise h => exact commit_outcome fun next done => initialise_edits wellFormed done
  | copy h => exact copy_outcome settings h built addressable wellFormed sound few
  | classOf h => exact observe_outcome fun heap => (heap.object h).map ObjectData.cls
  | get h f resolve => exact observe_outcome _
  | set h f v => exact commit_outcome fun next done => set_edits built done
  | isSet h f => exact observe_outcome _
  | unset h f => exact unset_outcome h f built wellFormed
  | createList c => exact createList_outcome settings c sound few
  | listSize h => exact observe_outcome _
  | listAt h i => exact observe_outcome _
  | pushBack h e => exact commit_outcome fun next done => pushBack_edits built wellFormed done
  | insertAt h i e => exact commit_outcome fun next done => insertAt_edits built wellFormed done
  | insertAll h source => exact commit_outcome fun next done => insertAll_edits built wellFormed done
  | clear h => exact commit_outcome fun next done => clear_edits done

/-- Every run keeps the invariant of ownership. -/
theorem wellFormed_after {calls : List (Call Value)} (built : p.Built) (addressable : p.Addressable)
    (wellFormed : WellFormed p heap) (sound : heap.Sound) (few : (heap.after p settings calls).slots.size < 2 ^ 32) :
    WellFormed p (heap.after p settings calls) := by
  induction calls generalizing heap with
  | nil => exact wellFormed
  | cons c rest ih =>
    have fewNext := Nat.lt_of_le_of_lt (size_after built settings _ rest) few
    have outcome := respond_outcome settings c built addressable wellFormed sound fewNext
    exact ih (outcome.wellFormed wellFormed) ((respond_evolves built sound c fewNext).sound sound fewNext) few

end HandleBridge.Heap
