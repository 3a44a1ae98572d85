import HandleBridge.Proofs.Lives

/-!
Every boundary call as a sequence of steps on single entries. The steps carry the discipline of ownership: an object
takes no list but one that it owns, and a list that has an owner is freed only when its owner is gone. Main
statement: a call takes such steps, and they begin and end the lives of the call (`respond_evolves`).
-/

namespace HandleBridge

/-- The list is among the values of the object. -/
def ObjectData.Holds (o : ObjectData) (b : Handle) : Prop := Value.list b ∈ o.fields.map Field.value

namespace ObjectData

variable {o : ObjectData} {f : FeatureId} {v : Value} {b : Handle}

theorem holds_iff : o.Holds b ↔ ∃ (i : Nat) (field : Field), o.fields[i]? = some field ∧ field.value = .list b := by
  simp [Holds,List.mem_iff_getElem?]

theorem holds_setField {field : Field} (holds : (o.setField f field).Holds b) : field.value = .list b ∨ o.Holds b := by
  obtain ⟨held,member,same⟩ := List.mem_map.mp holds
  rcases List.mem_or_eq_of_mem_set member with old | rfl
  · exact .inr (List.mem_map.mpr ⟨held,old,same⟩)
  · exact .inl same

theorem holds_of_field (holds : (o.field f).value = .list b) : o.Holds b := by
  unfold field at holds
  cases found : o.fields[f.index.toNat]? with
  | none => simp [found] at holds
  | some held =>
    rw [found,Option.getD_some] at holds
    exact List.mem_map.mpr ⟨held,List.mem_of_getElem? found,holds⟩

/-- Keeping the value of a field keeps the lists. -/
theorem holds_setField_self {isSet : Bool} (holds : (o.setField f { o.field f with isSet }).Holds b) : o.Holds b := by
  rcases holds_setField holds with same | old
  · exact holds_of_field same
  · exact old

end ObjectData

theorem ClassType.holds_fresh {p : Package} {cls : ClassType} {b : Handle} (built : p.Built)
    (member : cls ∈ p.classes) : ¬ (ObjectData.fresh cls).Holds b := by
  intro holds
  simp only [ObjectData.Holds,ObjectData.fresh,List.map_map,List.mem_map,Function.comp] at holds
  obtain ⟨feature,row,isList⟩ := holds
  exact (built.proper member row).default_ne_list b isList

namespace Heap

/-- Steps on single entries from one heap to another, with the lives that begin and end on the way. -/
inductive Evolves (settings : HeapSettings) : List Life → Heap → Heap → Prop
  | refl (heap : Heap) : Evolves settings [] heap heap
  | make {heap next last : Heap} {h : Handle} {entry : Entry} {lives : List Life}
      (made : heap.alloc settings entry = .ok (h,next)) (plain : ∀ o b, entry = .object o → ¬ o.Holds b)
      (rest : Evolves settings lives next last) : Evolves settings (.issued h :: lives) heap last
  | free {heap next last : Heap} {h : Handle} {entry : Entry} {lives : List Life}
      (freed : heap.take? h = some (entry,next))
      (orphan : ∀ l owner, entry = .list l → l.owner = some owner → heap.get? owner = none)
      (rest : Evolves settings lives next last) : Evolves settings (.freed h :: lives) heap last
  | items {heap last : Heap} {h : Handle} {l : ListData} {items : List Handle} {lives : List Life}
      (found : heap.get? h = some (.list l)) (rest : Evolves settings lives (heap.setItems h l items) last) :
      Evolves settings lives heap last
  | object {heap last : Heap} {h : Handle} {o changed : ObjectData} {lives : List Life}
      (found : heap.get? h = some (.object o))
      (keeps : ∀ b, changed.Holds b → o.Holds b ∨ heap.Owns h b)
      (rest : Evolves settings lives (heap.putObject h changed) last) : Evolves settings lives heap last

namespace Evolves

variable {settings : HeapSettings} {first second : List Life} {heap next last : Heap}

theorem trans (one : Evolves settings first heap next) (other : Evolves settings second next last) :
    Evolves settings (first ++ second) heap last := by
  induction one with
  | refl => exact other
  | make made plain _ ih => exact .make made plain (ih other)
  | free freed orphan _ ih => exact .free freed orphan (ih other)
  | items found _ ih => exact .items found (ih other)
  | object found keeps _ ih => exact .object found keeps (ih other)

/-- Slots are never given back. -/
theorem size_le (evolves : Evolves settings first heap last) : heap.slots.size ≤ last.slots.size := by
  induction evolves with
  | refl => exact Nat.le_refl _
  | make made _ _ ih => exact Nat.le_trans (size_alloc made) ih
  | free freed _ _ ih => exact size_take? freed ▸ ih
  | items _ _ ih => exact Nat.le_trans (Nat.le_of_eq size_put.symm) ih
  | object _ _ _ ih => exact Nat.le_trans (Nat.le_of_eq size_put.symm) ih

/-- Steps keep the heap sound while there is a handle for every slot. -/
theorem sound (evolves : Evolves settings first heap last) (sound : heap.Sound) (few : last.slots.size < 2 ^ 32) :
    last.Sound := by
  induction evolves with
  | refl => exact sound
  | make made _ rest ih => exact ih (sound_alloc sound made (Nat.lt_of_le_of_lt rest.size_le few)) few
  | free freed _ _ ih => exact ih (sound.erase? freed) few
  | items _ _ ih => exact ih sound.set few
  | object _ _ _ ih => exact ih sound.set few

/-- Room is checked at every allocation. -/
theorem live_le {limit : UInt64} (evolves : Evolves settings first heap last) (bounded : settings.maxObjects = some limit)
    (within : heap.live ≤ limit.toNat) : last.live ≤ limit.toNat := by
  induction evolves with
  | refl => exact within
  | make made _ _ ih =>
    have counted := live_alloc made
    have before := (alloc_eq_ok made).2 limit bounded
    exact ih (by omega)
  | free freed _ _ ih =>
    obtain ⟨-,i,-,-,rfl⟩ := Arena.erase?_eq_some freed
    exact ih (Nat.le_trans (Nat.sub_le ..) within)
  | items _ _ ih => exact ih (Nat.le_trans (Nat.le_of_eq Arena.live_set) within)
  | object _ _ _ ih => exact ih (Nat.le_trans (Nat.le_of_eq Arena.live_set) within)

/-- Each life that begins is counted as made, and each that ends as destroyed. -/
theorem counted (evolves : Evolves settings first heap last) :
    last.created = heap.created + first.countP Life.begins ∧
      last.destroyed = heap.destroyed + first.countP fun life => !life.begins := by
  induction evolves with
  | refl => exact ⟨rfl,rfl⟩
  | make made _ _ ih =>
    have created := created_alloc made
    have destroyed := destroyed_alloc made
    simp only [List.countP_cons,Life.begins,if_true,Bool.not_true,Bool.false_eq_true,if_false] at ih ⊢
    omega
  | free freed _ _ ih =>
    obtain ⟨-,i,-,-,rfl⟩ := Arena.erase?_eq_some freed
    simp only [List.countP_cons,Life.begins,Bool.false_eq_true,if_false,Bool.not_false,if_true] at ih ⊢
    omega
  | items _ _ ih => exact ⟨ih.1.trans (congrArg (· + _) Arena.created_set),
      ih.2.trans (congrArg (· + _) Arena.destroyed_set)⟩
  | object _ _ _ ih => exact ⟨ih.1.trans (congrArg (· + _) Arena.created_set),
      ih.2.trans (congrArg (· + _) Arena.destroyed_set)⟩

theorem destroyed_le (evolves : Evolves settings first heap last) : heap.destroyed ≤ last.destroyed :=
  evolves.counted.2 ▸ Nat.le_add_right ..

/-- One replaced object. -/
theorem putObject {h : Handle} {o changed : ObjectData} (found : heap.get? h = some (.object o))
    (keeps : ∀ b, changed.Holds b → o.Holds b) : Evolves settings [] heap (heap.putObject h changed) :=
  .object found (fun b holds => .inl (keeps b holds)) (.refl _)

/-- One list with other items. -/
theorem setItems {h : Handle} {l : ListData} {items : List Handle} (found : heap.get? h = some (.list l)) :
    Evolves settings [] heap (heap.setItems h l items) :=
  .items found (.refl _)

end Evolves

variable {p : Package} {settings : HeapSettings} {heap next : Heap} {h owner : Handle} {v : Value} {f : FeatureId}

theorem eraseBacking_evolves (dead : heap.get? owner = none) (value : Value) :
    Evolves settings (heap.backingLives owner value) heap (heap.eraseBacking owner value) ∧
      (heap.eraseBacking owner value).get? owner = none := by
  by_cases owned : ∃ b, value = .list b ∧ heap.Owns owner b
  · obtain ⟨b,rfl,owns⟩ := owned
    obtain ⟨l,owned,freed⟩ := eraseBacking_of_owns owns
    rw [backingLives_of_owns owns]
    refine ⟨.free freed ?_ (.refl _),by simp [get?_take? freed,dead]⟩
    intro l other isList owns
    cases isList
    cases owned.symm.trans owns
    exact dead
  · have free : ∀ b, value = .list b → ¬ heap.Owns owner b := fun b isList owns => owned ⟨b,isList,owns⟩
    rw [backingLives_of_not_owns free,eraseBacking_of_not_owns free]
    exact ⟨.refl _,dead⟩

theorem eraseBackings_evolves (dead : heap.get? owner = none) (values : List Value) :
    Evolves settings (valuesLives owner values heap) heap (values.foldl (eraseBacking owner) heap) := by
  induction values generalizing heap with
  | nil => exact .refl _
  | cons value rest ih =>
    obtain ⟨step,stillDead⟩ := eraseBacking_evolves dead value
    exact step.trans (ih stillDead)

theorem discard_evolves (done : heap.discard h = .ok next)
    (free : ∀ l owner, heap.get? h = some (.list l) → l.owner = some owner → heap.get? owner = none) :
    Evolves settings (heap.discardLives h) heap next := by
  cases discard_eq_ok done with
  | list l freed =>
    simp only [discardLives,freed]
    refine .free freed ?_ (.refl _)
    intro l owner isList owns
    cases isList
    exact free _ owner (found_of_take? freed) owns
  | object o rest freed erased =>
    simp only [discardLives,freed]
    rw [erased]
    have dead : rest.get? h = none := by simp [get?_take? freed]
    exact .free freed (fun l owner isList _ => by cases isList) (eraseBackings_evolves dead _)

/-! ### Creating -/

theorem get?_putObject_self {o : ObjectData} (found : heap.get? h = some (.object o)) (changed : ObjectData) :
    (heap.putObject h changed).get? h = some (.object changed) := by
  rw [get?_putObject found,if_pos rfl]

theorem size_backFeatures (features : List Feature) (heap : Heap) :
    heap.slots.size ≤ (backFeatures p settings h features heap).2.slots.size := by
  induction features generalizing heap with
  | nil => exact Nat.le_refl _
  | cons feature rest ih =>
    have step := backFeatures_cons p settings h heap feature rest
    generalize backFeatures p settings h (feature :: rest) heap = result at step ⊢
    generalize backFeaturesLives p settings h (feature :: rest) heap = lives at step
    cases step with
    | plain single => exact ih heap
    | unknown target e isMany missing => exact Nat.le_refl _
    | absent e dead => exact Nat.le_refl _
    | full e next discarded => exact Nat.le_of_eq (size_discard discarded).symm
    | lost target t list next e made gone => exact size_alloc made
    | backed target t list next o isMany named made kept =>
      exact Nat.le_trans (size_alloc made) (Nat.le_trans (Nat.le_of_eq size_put.symm) (ih _))

/-- Making the lists of an object is a series of allocations, each followed by handing the list over. -/
theorem backFeatures_evolves (features : List Feature) {o : ObjectData} (sound : heap.Sound)
    (found : heap.get? h = some (.object o))
    (few : (backFeatures p settings h features heap).2.slots.size < 2 ^ 32) :
    Evolves settings (backFeaturesLives p settings h features heap) heap
      (backFeatures p settings h features heap).2 := by
  induction features generalizing heap o with
  | nil => exact .refl _
  | cons feature rest ih =>
    have step := backFeatures_cons p settings h heap feature rest
    generalize backFeatures p settings h (feature :: rest) heap = result at step few ⊢
    generalize backFeaturesLives p settings h (feature :: rest) heap = lives at step ⊢
    cases step with
    | plain single => exact ih sound found few
    | unknown target e isMany missing => exact .refl _
    | absent e dead => exact .refl _
    | full e next discarded =>
      refine discard_evolves discarded fun l owner isList _ => ?_
      rw [found] at isList
      cases isList
    | lost target t list next e made gone => exact .make made nofun (.refl _)
    | backed target t list next o isMany named made kept =>
      have put := get?_putObject_self kept (o.setValue feature.id (.list list))
      have fewNext : next.slots.size < 2 ^ 32 :=
        Nat.lt_of_le_of_lt (Nat.le_trans (Nat.le_of_eq size_put.symm) (size_backFeatures rest _)) few
      have owns : next.Owns h list := ⟨⟨t.id,[],some h⟩,by simp [(get?_alloc sound made fewNext).2 list],rfl⟩
      refine .make made nofun (.object kept ?_ (ih (sound_alloc sound made fewNext).set put few))
      intro b holds
      rcases ObjectData.holds_setField holds with new | old
      · cases new
        exact .inr owns
      · exact .inl old

/-- Making an object takes steps that begin its lives, and end them again if it is given up. -/
theorem create_evolves (settings : HeapSettings) (c : ClassId) (built : p.Built) (sound : heap.Sound)
    (few : (create p settings c heap).2.slots.size < 2 ^ 32) :
    Evolves settings (createLives p settings c heap) heap (create p settings c heap).2 := by
  have done := create_cases p settings c heap
  generalize create p settings c heap = result at done few ⊢
  generalize createLives p settings c heap = lives at done ⊢
  cases done with
  | refused e => exact .refl _
  | made cls h next known concrete made =>
    have plain : ∀ o b, Entry.object (.fresh cls) = .object o → ¬ o.Holds b := by
      intro o b same
      cases same
      exact ClassType.holds_fresh built (Package.class?_mem known)
    have fewNext := Nat.lt_of_le_of_lt (size_backFeatures cls.features next) few
    have found : next.get? h = some (.object (.fresh cls)) := by simp [(get?_alloc sound made fewNext).2 h]
    exact .make made plain (backFeatures_evolves cls.features (sound_alloc sound made fewNext) found few)

theorem objectFeature_proper {o : ObjectData} {feature : Feature} (built : p.Built)
    (described : objectFeature p heap h f = .ok (o,feature)) : feature.Proper p := by
  obtain ⟨-,cls,known,row⟩ := objectFeature_eq_ok_iff.mp described
  exact built.proper (Package.class?_mem known) (List.mem_of_getElem? row)

theorem putField_evolves {o : ObjectData} {field : Field} (found : heap.get? h = some (.object o))
    (plain : ∀ b, field.value ≠ .list b) : Evolves settings [] heap (heap.putObject h (o.setField f field)) := by
  refine .putObject found fun b holds => ?_
  rcases ObjectData.holds_setField holds with new | old
  · exact absurd new (plain b)
  · exact old

/-- Writing a feature replaces entries and neither makes nor frees any. -/
theorem set_evolves (built : p.Built) (done : set p h f v heap = .ok next) : Evolves settings [] heap next := by
  obtain ⟨o,feature,described,fits,done⟩ := set_eq_ok done
  have proper := objectFeature_proper built described
  obtain ⟨found,-⟩ := objectFeature_eq_ok_iff.mp described
  cases done with
  | data plain isData written =>
    have single : ∀ target, feature.kind ≠ .reference target true := by simp [isData]
    exact written ▸ putField_evolves found (proper.not_list_of_fits single fits)
  | single target isSingle _ written =>
    have single : ∀ target, feature.kind ≠ .reference target true := by simp [isSingle]
    exact written ▸ putField_evolves found (proper.not_list_of_fits single fits)
  | many target backing assigned isMany backs assign written =>
    have keeps : ∀ b, (o.setField f { o.field f with isSet := true }).Holds b → o.Holds b :=
      fun b holds => ObjectData.holds_setField_self holds
    rcases assignList_eq_ok assign with ⟨-,rfl⟩ | ⟨given,target,atSource,atBacking,checked,rfl⟩
    · exact written ▸ .putObject found keeps
    · have other : h ≠ backing := by
        rintro rfl
        rw [found] at atBacking
        cases atBacking
      have kept : (heap.setItems backing target given.items).get? h = some (.object o) := by
        rw [get?_setItems atBacking,if_neg other,found]
      exact written ▸ .items atBacking (.putObject kept keeps)

/-- So does reverting one. -/
theorem unset_evolves (built : p.Built) : Evolves settings [] heap (unset p h f heap).2 := by
  have done := unset_cases p h f heap
  generalize unset p h f heap = result at done ⊢
  cases done with
  | unknown e => exact .refl _
  | emptied o feature held l described holds found =>
    obtain ⟨present,-⟩ := objectFeature_eq_ok_iff.mp described
    exact (Evolves.putObject present fun b kept => ObjectData.holds_setField_self kept).trans (.setItems found)
  | missing o feature held e described holds lost =>
    obtain ⟨present,-⟩ := objectFeature_eq_ok_iff.mp described
    exact .putObject present fun b kept => ObjectData.holds_setField_self kept
  | restored o feature described plain =>
    obtain ⟨present,-⟩ := objectFeature_eq_ok_iff.mp described
    exact putField_evolves present (objectFeature_proper built described).default_ne_list

theorem copyValue_evolves {place : Nat} (done : copyValue h (v,place) heap = .ok next) :
    Evolves settings [] heap next := by
  cases copyValue_eq_ok done with
  | items source target o given own atSource found holds atTarget written => exact written ▸ .setItems atTarget
  | skipped source o given atSource found plain written => exact written ▸ .refl _
  | value v o plain found written => exact written ▸ putField_evolves found plain

theorem copyValues_evolves (settings : HeapSettings) (h : Handle) (places : List (Value × Nat)) (heap : Heap) :
    Evolves settings [] heap (copyValues h places heap).2 := by
  induction places generalizing heap with
  | nil => exact .refl _
  | cons place rest ih =>
    unfold copyValues
    cases done : heap.copyValue h place with
    | error e => exact .refl _
    | ok next => exact (copyValue_evolves done).trans (ih next)

/-- The object with the marks of another, whose lists are kept. -/
theorem holds_zipWith {o source : ObjectData} {initialised : Bool} {b : Handle}
    (holds : ObjectData.Holds { o with
      fields := o.fields.zipWith (fun field source => { field with isSet := source.isSet }) source.fields
      initialised } b) : o.Holds b := by
  obtain ⟨field,member,isList⟩ := List.mem_map.mp holds
  rw [← List.map_uncurry_zip_eq_zipWith] at member
  obtain ⟨⟨old,mark⟩,both,rfl⟩ := List.mem_map.mp member
  exact List.mem_map.mpr ⟨old,(List.of_mem_zip both).1,isList⟩

theorem copyInto_evolves (settings : HeapSettings) (h : Handle) (o : ObjectData) (heap : Heap) :
    Evolves settings [] heap (copyInto h o heap).2 := by
  unfold copyInto
  have filled := copyValues_evolves settings h (o.fields.map Field.value).zipIdx heap
  generalize copyValues h (o.fields.map Field.value).zipIdx heap = result at filled ⊢
  obtain ⟨result,next⟩ := result
  cases result with
  | error e => exact filled
  | ok =>
    simp only
    cases found : next.object h with
    | error e => exact filled
    | ok copied =>
      exact filled.trans (.putObject (object_eq_ok_iff.mp found) fun b holds => holds_zipWith holds)

/-! ### Calls -/

theorem commit_evolves {operation : Heap → Except Error Heap}
    (succeeds : ∀ next, operation heap = .ok next → Evolves settings [] heap next) :
    Evolves settings [] heap (commit operation heap).2 := by
  unfold commit
  cases done : operation heap with
  | error e => exact .refl _
  | ok next => exact succeeds next done

/-- Whether a success of the call yields a new handle. -/
def allocates : Call Value → Bool
  | .create _ | .copy _ | .createList _ => true
  | _ => false

/-- A call that allocates nothing takes steps that end its lives, however many slots there are. -/
theorem respond_evolves_of_not_allocates (built : p.Built) (c : Call Value) (settled : allocates c = false) :
    Evolves settings (heap.lives p settings c) heap (heap.respond p settings c).2 := by
  unfold respond answer
  cases c with
  | create c => cases settled
  | copy h => cases settled
  | createList c => cases settled
  | destroy h =>
    unfold lives
    simp only [commit]
    cases done : destroy h heap with
    | error e => exact .refl _
    | ok next =>
      obtain ⟨⟨entry,found,free⟩,discarded⟩ := destroy_eq_ok done
      refine discard_evolves discarded fun l owner isList owns => ?_
      cases found.symm.trans isList
      cases (free l rfl).symm.trans owns
  | initialise h =>
    refine commit_evolves fun next done => ?_
    obtain ⟨o,found,rfl⟩ := initialise_eq_ok done
    exact .putObject found fun b holds => holds
  | set h f v => exact commit_evolves fun next done => set_evolves built done
  | unset h f => exact unset_evolves built
  | pushBack h e =>
    refine commit_evolves fun next done => ?_
    obtain ⟨l,found,-,rfl⟩ := pushBack_eq_ok done
    exact .setItems found
  | insertAt h i e =>
    refine commit_evolves fun next done => ?_
    obtain ⟨l,found,-,-,rfl⟩ := insertAt_eq_ok done
    exact .setItems found
  | insertAll h source =>
    refine commit_evolves fun next done => ?_
    obtain ⟨given,target,-,found,-,rfl⟩ := insertAll_eq_ok done
    exact .setItems found
  | clear h =>
    refine commit_evolves fun next done => ?_
    obtain ⟨l,found,rfl⟩ := clear_eq_ok done
    exact .setItems found
  | upcast h => exact .refl _
  | classOf h => exact .refl _
  | get h f resolve => exact .refl _
  | isSet h f => exact .refl _
  | listSize h => exact .refl _
  | listAt h i => exact .refl _

theorem size_create (p : Package) (settings : HeapSettings) (c : ClassId) (heap : Heap) :
    heap.slots.size ≤ (create p settings c heap).2.slots.size := by
  have done := create_cases p settings c heap
  generalize create p settings c heap = result at done ⊢
  generalize createLives p settings c heap = lives at done
  cases done with
  | refused e => exact Nat.le_refl _
  | made cls h next known concrete made => exact Nat.le_trans (size_alloc made) (size_backFeatures cls.features next)

theorem size_copy (p : Package) (settings : HeapSettings) (h : Handle) (heap : Heap) :
    heap.slots.size ≤ (copy p settings h heap).2.slots.size := by
  have done := copy_cases p settings h heap
  generalize copy p settings h heap = result at done ⊢
  generalize heap.lives p settings (.copy h) = lives at done
  cases done with
  | refused e absent => exact Nat.le_refl _
  | failed o e next found created =>
    have grown := size_create p settings o.cls heap
    rwa [created] at grown
  | made o made next found created =>
    have grown := size_create p settings o.cls heap
    rw [created] at grown
    exact Nat.le_trans grown (copyInto_evolves settings made o next).size_le

/-- No call gives a slot back. -/
theorem size_respond (built : p.Built) (settings : HeapSettings) (heap : Heap) (c : Call Value) :
    heap.slots.size ≤ (heap.respond p settings c).2.slots.size := by
  cases allocating : allocates c with
  | false => exact (respond_evolves_of_not_allocates built c allocating).size_le
  | true =>
    unfold respond answer
    cases c with
    | create c => exact size_create p settings c heap
    | copy h => exact size_copy p settings h heap
    | createList c =>
      simp only [commitWith]
      cases done : createList p settings c heap with
      | error e => exact Nat.le_refl _
      | ok result => exact size_alloc (createList_eq_ok done).2
    | _ => cases allocating

/-- A call takes steps that begin and end its lives. -/
theorem respond_evolves (built : p.Built) (sound : heap.Sound) (c : Call Value)
    (few : (heap.respond p settings c).2.slots.size < 2 ^ 32) :
    Evolves settings (heap.lives p settings c) heap (heap.respond p settings c).2 := by
  cases allocating : allocates c with
  | false => exact respond_evolves_of_not_allocates built c allocating
  | true =>
    unfold respond answer at few ⊢
    cases c with
    | create c => exact create_evolves settings c built sound few
    | copy h =>
      have done := copy_cases p settings h heap
      simp only at few ⊢
      generalize copy p settings h heap = result at done few ⊢
      generalize heap.lives p settings (.copy h) = lives at done ⊢
      cases done with
      | refused e absent => exact .refl _
      | failed o e next found created =>
        have step := create_evolves settings o.cls built sound
        rw [created] at step
        exact step few
      | made o made next found created =>
        have filled := copyInto_evolves settings made o next
        have step := create_evolves settings o.cls built sound
        rw [created] at step
        simpa using (step (Nat.lt_of_le_of_lt filled.size_le few)).trans filled
    | createList c =>
      unfold lives
      simp only [commitWith]
      cases done : createList p settings c heap with
      | error e => exact .refl _
      | ok result =>
        obtain ⟨h,next⟩ := result
        exact .make (createList_eq_ok done).2 nofun (.refl _)
    | _ => cases allocating

/-! ### Runs -/

theorem size_after (built : p.Built) (settings : HeapSettings) (heap : Heap) (calls : List (Call Value)) :
    heap.slots.size ≤ (heap.after p settings calls).slots.size := by
  induction calls generalizing heap with
  | nil => exact Nat.le_refl _
  | cons c rest ih => exact Nat.le_trans (size_respond built settings heap c) (ih _)

/-- A run takes steps that begin and end the lives of its history. -/
theorem after_evolves (built : p.Built) (sound : heap.Sound) (calls : List (Call Value))
    (few : (heap.after p settings calls).slots.size < 2 ^ 32) :
    Evolves settings (heap.history p settings calls) heap (heap.after p settings calls) := by
  induction calls generalizing heap with
  | nil => exact .refl _
  | cons c rest ih =>
    have fewNext := Nat.lt_of_le_of_lt (size_after built settings _ rest) few
    have step := respond_evolves built sound c fewNext
    exact step.trans (ih (step.sound sound fewNext) few)

/-- Every run from the empty heap leaves a sound one. -/
theorem sound_after (built : p.Built) (calls : List (Call Value))
    (few : (Heap.empty.after p settings calls).slots.size < 2 ^ 32) : (Heap.empty.after p settings calls).Sound :=
  (after_evolves built sound_empty calls few).sound sound_empty few

end Heap

end HandleBridge
