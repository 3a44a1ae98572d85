import HandleBridge.Proofs.Ownership

/-!
Making an object with the lists behind its features. While it is made, the object is well formed as far as its lists
go (`Building`). In the end it is complete and everything else is as before, or room ran out and all handles refer to
what they referred to before (`create_spec`).
-/

namespace HandleBridge

theorem ObjectData.getElem?_setField {o : ObjectData} {f : FeatureId} {field : Field} (i : Nat) :
    (o.setField f field).fields[i]? = if f.index.toNat = i ∧ i < o.fields.length then some field else o.fields[i]? := by
  simp only [setField,List.getElem?_set]
  by_cases same : f.index.toNat = i
  · by_cases inside : i < o.fields.length
    · simp [same,inside]
    · simp [same,inside]
  · simp [same]

/-- The object with a list at one place. -/
structure ObjectData.Placed (o : ObjectData) (n : Nat) (list : Handle) (changed : ObjectData) : Prop where
  ofClass : changed.cls = o.cls
  length : changed.fields.length = o.fields.length
  here : ∃ field, changed.fields[n]? = some field ∧ field.value = .list list
  elsewhere : ∀ i, i ≠ n → changed.fields[i]? = o.fields[i]?

theorem ObjectData.placed_setValue {o : ObjectData} {n : Nat} {list : Handle} (inside : n < o.fields.length)
    (small : n < 2 ^ 32) : o.Placed n list (o.setValue ⟨UInt32.ofNat n⟩ (.list list)) := by
  have index : (UInt32.ofNat n).toNat = n := UInt32.toNat_ofNat_of_lt' small
  refine ⟨rfl,by simp [setValue,setField],⟨{ o.field ⟨UInt32.ofNat n⟩ with value := .list list },?_,rfl⟩,?_⟩
  · rw [setValue,getElem?_setField,if_pos ⟨index,inside⟩]
  · intro i apart
    rw [setValue,getElem?_setField,index,if_neg fun here => apart here.1.symm]

namespace ObjectData.Placed

variable {o changed : ObjectData} {n : Nat} {list b : Handle}

theorem holds_new (placed : o.Placed n list changed) : changed.Holds list := by
  obtain ⟨field,there,isList⟩ := placed.here
  exact holds_iff.mpr ⟨n,field,there,isList⟩

theorem holds_old (placed : o.Placed n list changed)
    (free : ∀ field, o.fields[n]? = some field → field.value ≠ .list b) (holds : o.Holds b) : changed.Holds b := by
  obtain ⟨i,field,there,isList⟩ := holds_iff.mp holds
  have elsewhere : i ≠ n := by
    rintro rfl
    exact free field there isList
  exact holds_iff.mpr ⟨i,field,(placed.elsewhere i elsewhere).trans there,isList⟩

/-- A list the object did not hold is at one place only. -/
theorem unique (placed : o.Placed n list changed) (unheld : ¬ o.Holds list) {i : Nat} {field : Field}
    (there : changed.fields[i]? = some field) (isList : field.value = .list list) : i = n := by
  by_cases here : i = n
  · exact here
  · rw [placed.elsewhere i here] at there
    exact absurd (holds_iff.mpr ⟨i,field,there,isList⟩) unheld

theorem distinct (placed : o.Placed n list changed) (unheld : ¬ o.Holds list)
    (before : ∀ (i j : Nat) one other b, o.fields[i]? = some one → o.fields[j]? = some other →
      one.value = .list b → other.value = .list b → i = j)
    (i j : Nat) (one other : Field) (b : Handle) (first : changed.fields[i]? = some one)
    (second : changed.fields[j]? = some other) (isList : one.value = .list b) (again : other.value = .list b) :
    i = j := by
  obtain ⟨field,here,new⟩ := placed.here
  by_cases atFirst : i = n
  · subst atFirst
    cases here.symm.trans first
    cases new.symm.trans isList
    exact (placed.unique unheld second again).symm
  · by_cases atSecond : j = n
    · subst atSecond
      cases here.symm.trans second
      cases new.symm.trans again
      exact placed.unique unheld first isList
    · rw [placed.elsewhere i atFirst] at first
      rw [placed.elsewhere j atSecond] at second
      exact before i j one other b first second isList again

end ObjectData.Placed

namespace Heap

variable {p : Package} {settings : HeapSettings} {start heap next : Heap} {h list : Handle} {o : ObjectData}
  {cls t : ClassType} {n : Nat} {feature : Feature} {c : ClassId}

/-- The object `h` is under construction: it has lists behind the many-valued ones of its first `n` features, all
else is at its default, and the other handles refer to what they did at the start or to one of these lists. -/
structure Building (p : Package) (start : Heap) (h : Handle) (cls : ClassType) (n : Nat) (heap : Heap)
    (o : ObjectData) : Prop where
  sound : heap.Sound
  vacant : start.get? h = none
  found : heap.get? h = some (.object o)
  ofClass : o.cls = cls.id
  length : o.fields.length = cls.features.length
  backed : ∀ (i : Nat) feature field, i < n → cls.features[i]? = some feature → o.fields[i]? = some field →
    feature.kind.isMany = true → Fits p heap h feature.kind field.value
  plain : ∀ (i : Nat) feature field, n ≤ i ∨ feature.kind.isMany = false → cls.features[i]? = some feature →
    o.fields[i]? = some field → field.value = feature.default
  distinct : ∀ (i j : Nat) one other b, o.fields[i]? = some one → o.fields[j]? = some other → one.value = .list b →
    other.value = .list b → i = j
  others : ∀ k, k ≠ h → (heap.get? k = start.get? k ∧ ¬ heap.Owns h k) ∨
    start.get? k = none ∧ o.Holds k ∧ ∃ t, p.class? t.id = some t ∧ heap.get? k = some (.list ⟨t.id,[],some h⟩)

/-- An entry is made and an object that was there before takes note of it. -/
theorem get?_alloc_putObject {entry : Entry} (sound : heap.Sound) (found : heap.get? h = some (.object o))
    (made : heap.alloc settings entry = .ok (list,next)) (few : next.slots.size < 2 ^ 32) (changed : ObjectData) :
    heap.get? list = none ∧ list ≠ h ∧ ∀ k, (next.putObject h changed).get? k =
      if k = h then some (.object changed) else if k = list then some entry else heap.get? k := by
  obtain ⟨vacant,grown⟩ := get?_alloc sound made few
  have apart : list ≠ h := by
    rintro rfl
    rw [found] at vacant
    cases vacant
  have atObject : next.get? h = some (.object o) := by rw [grown,if_neg (Ne.symm apart),found]
  refine ⟨vacant,apart,fun k => ?_⟩
  rw [get?_putObject atObject,grown]

namespace Building

/-- A new object has its defaults, and nothing belongs to it yet. -/
theorem begin (wellFormed : WellFormed p start) (sound : start.Sound)
    (made : start.alloc settings (.object (.fresh cls)) = .ok (h,heap)) (few : heap.slots.size < 2 ^ 32)
    (built : p.Built) (member : cls ∈ p.classes) : Building p start h cls 0 heap (.fresh cls) := by
  obtain ⟨vacant,view⟩ := get?_alloc sound made few
  have holdsNone : ∀ (i : Nat) field b, (ObjectData.fresh cls).fields[i]? = some field → field.value ≠ .list b := by
    intro i field b there isList
    exact ClassType.holds_fresh built member (ObjectData.holds_iff.mpr ⟨i,field,there,isList⟩)
  refine ⟨sound_alloc sound made few,vacant,by rw [view,if_pos rfl],rfl,by simp [ObjectData.fresh],?_,?_,?_,?_⟩
  · intro i feature field before
    omega
  · intro i feature field _ row there
    simp only [ObjectData.fresh,List.getElem?_map,row,Option.map_some,Option.some.injEq] at there
    rw [← there]
  · intro i j one other b there _ isList
    exact absurd isList (holdsNone i one b there)
  · intro k apart
    have same : heap.get? k = start.get? k := by rw [view,if_neg apart]
    refine .inl ⟨same,?_⟩
    rintro ⟨l,there,owned⟩
    obtain ⟨owner,live,-⟩ := wellFormed.held k l h (same ▸ there) owned
    rw [vacant] at live
    cases live

/-- A feature that is not many-valued has its value already. -/
theorem skip (building : Building p start h cls n heap o) (row : cls.features[n]? = some feature)
    (single : feature.kind.isMany = false) : Building p start h cls (n + 1) heap o where
  sound := building.sound
  vacant := building.vacant
  found := building.found
  ofClass := building.ofClass
  length := building.length
  backed i other field before there found isMany := by
    by_cases same : i = n
    · subst same
      cases row.symm.trans there
      rw [single] at isMany
      cases isMany
    · exact building.backed i other field (by omega) there found isMany
  plain i other field which := building.plain i other field (which.imp_left (by omega))
  distinct := building.distinct
  others := building.others

/-- What the object holds so far, it owns. -/
theorem owns {b : Handle} (building : Building p start h cls n heap o)
    (defaults : ∀ feature ∈ cls.features, ∀ b, feature.default ≠ .list b) (holds : o.Holds b) : heap.Owns h b := by
  obtain ⟨i,field,there,isList⟩ := ObjectData.holds_iff.mp holds
  have inside : i < cls.features.length := building.length ▸ (List.getElem?_eq_some_iff.mp there).1
  have row : cls.features[i]? = some cls.features[i] := List.getElem?_eq_getElem inside
  have notDefault := defaults _ (List.mem_of_getElem? row) b
  by_cases backed : i < n ∧ cls.features[i].kind.isMany = true
  · have fits := building.backed i _ field backed.1 row there backed.2
    rw [isList] at fits
    obtain ⟨target,l,t,-,found,owned,-⟩ := fits.many_of_list
    exact ⟨l,found,owned⟩
  · have which : n ≤ i ∨ cls.features[i].kind.isMany = false := by
      rcases Nat.lt_or_ge i n with before | after
      · exact .inr (by simpa using fun isMany => backed ⟨before,isMany⟩)
      · exact .inl after
    rw [building.plain i _ field which row there] at isList
    exact absurd isList notDefault

/-- A new list goes behind a many-valued feature. -/
theorem back {target : String} {changed : ObjectData} (building : Building p start h cls n heap o)
    (defaults : ∀ feature ∈ cls.features, ∀ b, feature.default ≠ .list b) (row : cls.features[n]? = some feature)
    (isMany : feature.kind = .reference target true) (named : p.classNamed? target = some t)
    (known : p.class? t.id = some t) (made : heap.alloc settings (.list ⟨t.id,[],some h⟩) = .ok (list,next))
    (few : next.slots.size < 2 ^ 32) (placed : o.Placed n list changed) :
    Building p start h cls (n + 1) (next.putObject h changed) changed := by
  obtain ⟨vacant,apart,view⟩ := get?_alloc_putObject building.sound building.found made few changed
  have atList : (next.putObject h changed).get? list = some (.list ⟨t.id,[],some h⟩) := by
    rw [view,if_neg apart,if_pos rfl]
  have kept : ∀ k, k ≠ h → k ≠ list → (next.putObject h changed).get? k = heap.get? k := by
    intro k notObject notList
    rw [view,if_neg notObject,if_neg notList]
  have keeps : KeepsLists heap (next.putObject h changed) h := by
    intro b l there _
    refine ⟨l.items,?_⟩
    rw [kept b ?_ ?_,there]
    · rintro rfl
      cases building.found.symm.trans there
    · rintro rfl
      cases vacant.symm.trans there
  have unheld : ¬ o.Holds list := by
    intro holds
    obtain ⟨l,live,-⟩ := building.owns defaults holds
    cases vacant.symm.trans live
  have free : ∀ b field, o.fields[n]? = some field → field.value ≠ .list b := by
    intro b field there isList
    rw [building.plain n feature field (.inl (Nat.le_refl n)) row there] at isList
    exact defaults feature (List.mem_of_getElem? row) b isList
  refine ⟨(sound_alloc building.sound made few).set,building.vacant,by rw [view,if_pos rfl],
    placed.ofClass.trans building.ofClass,placed.length.trans building.length,?_,?_,
    placed.distinct unheld building.distinct,?_⟩
  · intro i other field before there found many
    by_cases here : i = n
    · subst here
      cases row.symm.trans there
      obtain ⟨field',there',isList⟩ := placed.here
      cases found.symm.trans there'
      rw [isMany]
      exact ⟨list,_,t,isList,atList,rfl,named,rfl⟩
    · rw [placed.elsewhere i here] at found
      exact (building.backed i other field (by omega) there found many).keeps keeps
  · intro i other field which there found
    have here : i ≠ n := by
      rintro rfl
      cases row.symm.trans there
      rcases which with after | single
      · omega
      · rw [isMany] at single
        cases single
    rw [placed.elsewhere i here] at found
    exact building.plain i other field (which.imp_left (by omega)) there found
  · intro k notObject
    by_cases new : k = list
    · subst new
      rcases building.others k notObject with ⟨same,-⟩ | ⟨-,-,t,-,live⟩
      · exact .inr ⟨same.symm.trans vacant,placed.holds_new,t,known,atList⟩
      · cases vacant.symm.trans live
    · rw [Owns,kept k notObject new]
      rcases building.others k notObject with old | ⟨vacant,holds,made⟩
      · exact .inl old
      · exact .inr ⟨vacant,placed.holds_old (free k) holds,made⟩

/-- Giving up frees the object with the lists made so far. -/
theorem abandon (building : Building p start h cls n heap o) (done : heap.discard h = .ok next) (k : Handle) :
    next.get? k = start.get? k := by
  rcases get?_discard building.found done k with ⟨rfl | ⟨-,owns⟩,gone⟩ | ⟨spared,same⟩
  · rw [gone,building.vacant]
  · by_cases self : k = h
    · rw [gone,self,building.vacant]
    · rcases building.others k self with ⟨-,free⟩ | ⟨vacant,-⟩
      · exact absurd owns free
      · rw [gone,vacant]
  · have apart : k ≠ h := fun self => spared (.inl self)
    rcases building.others k apart with ⟨old,-⟩ | ⟨-,holds,t,-,made⟩
    · rw [same,old]
    · exact absurd (.inr ⟨holds,_,made,rfl⟩) spared

/-- With all its features done the object is complete. -/
theorem finish (building : Building p start h cls cls.features.length heap o) (known : p.class? cls.id = some cls)
    (concrete : cls.isAbstract = false) (proper : ∀ feature ∈ cls.features, feature.Proper p) :
    Created p start h o cls heap := by
  refine ⟨building.vacant,building.found,⟨by rw [building.ofClass,known],concrete,building.length,?_,
    building.distinct⟩,?_,?_⟩
  · intro i feature field row there
    cases isMany : feature.kind.isMany with
    | true => exact building.backed i feature field (List.getElem?_eq_some_iff.mp row).1 row there isMany
    | false =>
      rw [building.plain i feature field (.inr isMany) row there]
      have own := proper feature (List.mem_of_getElem? row)
      unfold Feature.Proper at own
      unfold Fits
      cases isKind : feature.kind with
      | data kind =>
        simp only [isKind] at own
        exact ⟨own.2,own.1⟩
      | reference target many =>
        simp only [isKind] at own
        rw [isKind] at isMany
        cases many with
        | true => cases isMany
        | false => exact .inl own.1
  · intro i feature field row there single
    exact building.plain i feature field (.inr single) row there
  · intro k apart
    rcases building.others k apart with ⟨old,-⟩ | new
    · exact .inl old
    · exact .inr new

end Building

/-- The lists of an object are made one after another, or room runs out and nothing is left of any of it. -/
theorem backFeatures_spec {before : List Feature} (features : List Feature) (built : p.Built)
    (addressable : p.Addressable) (member : cls ∈ p.classes) (concrete : cls.isAbstract = false)
    (building : Building p start h cls before.length heap o) (split : cls.features = before ++ features)
    (few : (backFeatures p settings h features heap).2.slots.size < 2 ^ 32) :
    (∃ o, (backFeatures p settings h features heap).1 = .ok () ∧
        Created p start h o cls (backFeatures p settings h features heap).2) ∨
      ∃ e, (backFeatures p settings h features heap).1 = .error e ∧
        ∀ k, (backFeatures p settings h features heap).2.get? k = start.get? k := by
  have proper : ∀ feature ∈ cls.features, feature.Proper p := fun feature row => built.proper member row
  -- The construction has come through the features `before`; every step takes it one feature further.
  induction features generalizing before heap o with
  | nil =>
    rw [List.append_nil] at split
    rw [← split] at building
    exact .inl ⟨o,rfl,building.finish (built.class?_id addressable member) concrete proper⟩
  | cons feature rest ih =>
    have row : cls.features[before.length]? = some feature := by simp [split]
    have further : cls.features = (before ++ [feature]) ++ rest := by simp [split]
    have grown : before.length + 1 = (before ++ [feature]).length := by simp
    have step := backFeatures_cons p settings h heap feature rest
    generalize backFeatures p settings h (feature :: rest) heap = result at step few ⊢
    generalize backFeaturesLives p settings h (feature :: rest) heap = lives at step
    cases step with
    | plain single =>
      have skipped := building.skip row (FeatureKind.isMany_eq_false_iff.mpr single)
      rw [grown] at skipped
      exact ih skipped further few
    | unknown target e isMany missing =>
      have own := proper feature (List.mem_of_getElem? row)
      simp only [Feature.Proper,isMany] at own
      obtain ⟨-,t,named⟩ := own
      cases missing.symm.trans named
    | full e next discarded => exact .inr ⟨e,rfl,building.abandon discarded⟩
    | absent e dead => cases building.found.symm.trans dead
    | lost target t list next e made gone =>
      obtain ⟨vacant,view⟩ := get?_alloc building.sound made few
      exact absurd (kept_of_update view building.found (by simp [vacant])) (gone o)
    | backed target t list next other isMany named made found =>
      have fewNext : next.slots.size < 2 ^ 32 :=
        Nat.lt_of_le_of_lt (Nat.le_trans (Nat.le_of_eq size_put.symm) (size_backFeatures rest _)) few
      obtain ⟨vacant,view⟩ := get?_alloc building.sound made fewNext
      have same : other = o := by
        rw [view] at found
        split at found
        · cases found
        · cases building.found.symm.trans found
          rfl
      subst same
      have inside : before.length < cls.features.length := by simp [split]
      have small : before.length < 2 ^ 32 := Nat.lt_trans inside (addressable.features cls member)
      have backed := building.back (fun feature row => (proper feature row).default_ne_list) row isMany named
        (built.class?_id addressable (Package.classNamed?_mem named)) made fewNext
        (ObjectData.placed_setValue (building.length.symm ▸ inside) small)
      rw [grown,← built.feature_id member row] at backed
      exact ih backed further few

/-- A create makes an object with its lists, or fails and leaves what all handles refer to as it was. -/
theorem create_spec (settings : HeapSettings) (c : ClassId) (built : p.Built) (addressable : p.Addressable)
    (wellFormed : WellFormed p heap) (sound : heap.Sound) (few : (create p settings c heap).2.slots.size < 2 ^ 32) :
    (∃ h o cls, (create p settings c heap).1 = .ok h ∧ o.cls = c ∧
        Created p heap h o cls (create p settings c heap).2) ∨
      ∃ e, (create p settings c heap).1 = .error e ∧ ∀ k, (create p settings c heap).2.get? k = heap.get? k := by
  have done := create_cases p settings c heap
  generalize create p settings c heap = result at done few ⊢
  generalize createLives p settings c heap = lives at done
  cases done with
  | refused e => exact .inr ⟨e,rfl,fun _ => rfl⟩
  | made cls h next known concrete made =>
    have member := Package.class?_mem known
    have fewNext := Nat.lt_of_le_of_lt (size_backFeatures cls.features next) few
    have building : Building p heap h cls ([] : List Feature).length next (.fresh cls) :=
      .begin wellFormed sound made fewNext built member
    rcases backFeatures_spec cls.features built addressable member concrete building rfl few with
      ⟨o,finished,created⟩ | ⟨e,failed,same⟩
    · have ofClass : o.cls = c := (built.id_eq created.object.known).symm.trans (built.id_eq known)
      exact .inl ⟨h,o,cls,by rw [finished]; rfl,ofClass,created⟩
    · exact .inr ⟨e,by rw [failed]; rfl,same⟩

end Heap

end HandleBridge
