import HandleBridge.Proofs.Evolution

/-!
Which lists belong to which objects. In a well formed heap every object has the fields of its class, a many-valued
feature holds a live list that its object owns, and a list with an owner is held by it. `WellFormed` says it of what
the handles refer to, and the lemmas below take it along every change that a call can make: new items of a list, new
values of an object, a new list, a new object with its lists, and the end of an object with its lists.
-/

namespace HandleBridge

namespace Heap

variable {p : Package} {heap next : Heap} {h b : Handle} {o changed : ObjectData} {l : ListData} {cls : ClassType}

/-- A feature of the kind may hold the value in the object `h`: plain data of the kind, null or an object, or a live
list that the object owns, with the target class as its element class. -/
def Fits (p : Package) (heap : Heap) (h : Handle) (kind : FeatureKind) (v : Value) : Prop :=
  match kind with
  | .data plain => v.kind? = some plain ∧ plain.holdsHandle = false
  | .reference _ false => v = .null ∨ ∃ r, v = .object r
  | .reference target true => ∃ b l t, v = .list b ∧ heap.get? b = some (.list l) ∧ l.owner = some h ∧
      p.classNamed? target = some t ∧ l.elementClass = t.id

/-- An object of the class: it has a value of its own for every feature, and no list twice. -/
structure Instance (p : Package) (heap : Heap) (h : Handle) (o : ObjectData) (cls : ClassType) : Prop where
  known : p.class? o.cls = some cls
  concrete : cls.isAbstract = false
  length : o.fields.length = cls.features.length
  fits : ∀ (i : Nat) feature field, cls.features[i]? = some feature → o.fields[i]? = some field →
    Fits p heap h feature.kind field.value
  distinct : ∀ (i j : Nat) one other b, o.fields[i]? = some one → o.fields[j]? = some other → one.value = .list b →
    other.value = .list b → i = j

/-- The invariant of ownership. -/
structure WellFormed (p : Package) (heap : Heap) : Prop where
  objects : ∀ h o, heap.get? h = some (.object o) → ∃ cls, Instance p heap h o cls
  held : ∀ b l owner, heap.get? b = some (.list l) → l.owner = some owner →
    ∃ o, heap.get? owner = some (.object o) ∧ o.Holds b
  elements : ∀ b l, heap.get? b = some (.list l) → ∃ cls, p.class? l.elementClass = some cls

/-- The lists that the object owns in one heap are there in the other, with the same element class. -/
def KeepsLists (heap next : Heap) (h : Handle) : Prop :=
  ∀ b l, heap.get? b = some (.list l) → l.owner = some h → ∃ items, next.get? b = some (.list { l with items })

theorem Fits.keeps {kind : FeatureKind} {v : Value} (fits : Fits p heap h kind v) (keeps : KeepsLists heap next h) :
    Fits p next h kind v := by
  unfold Fits at fits ⊢
  split at fits
  · exact fits
  · exact fits
  · obtain ⟨b,l,t,isList,found,owned,named,ofClass⟩ := fits
    obtain ⟨items,still⟩ := keeps b l found owned
    exact ⟨b,{ l with items },t,isList,still,owned,named,ofClass⟩

/-- Only many-valued features hold lists. -/
theorem Fits.many_of_list {kind : FeatureKind} (fits : Fits p heap h kind (.list b)) : ∃ target l t,
    kind = .reference target true ∧ heap.get? b = some (.list l) ∧ l.owner = some h ∧
      p.classNamed? target = some t ∧ l.elementClass = t.id := by
  unfold Fits at fits
  split at fits
  · obtain ⟨kind,plain⟩ := fits
    cases kind
    cases plain
  · rcases fits with isNull | ⟨r,isObject⟩
    · cases isNull
    · cases isObject
  · rename_i target
    obtain ⟨other,l,t,same,found,owned,named,ofClass⟩ := fits
    cases same
    exact ⟨target,l,t,rfl,found,owned,named,ofClass⟩

namespace Instance

theorem keeps (object : Instance p heap h o cls) (keeps : KeepsLists heap next h) : Instance p next h o cls where
  known := object.known
  concrete := object.concrete
  length := object.length
  fits i feature field row found := (object.fits i feature field row found).keeps keeps
  distinct := object.distinct

theorem feature_of_field (object : Instance p heap h o cls) {i : Nat} {field : Field} (found : o.fields[i]? = some field) :
    ∃ feature, cls.features[i]? = some feature ∧ Fits p heap h feature.kind field.value := by
  have inside : i < cls.features.length := object.length ▸ (List.getElem?_eq_some_iff.mp found).1
  have row : cls.features[i]? = some cls.features[i] := List.getElem?_eq_getElem inside
  exact ⟨_,row,object.fits i _ field row found⟩

/-- What an object holds, it owns. -/
theorem owns (object : Instance p heap h o cls) (holds : o.Holds b) : heap.Owns h b := by
  obtain ⟨i,field,found,isList⟩ := ObjectData.holds_iff.mp holds
  obtain ⟨feature,-,fits⟩ := object.feature_of_field found
  rw [isList] at fits
  obtain ⟨target,l,t,-,there,owned,-⟩ := fits.many_of_list
  exact ⟨l,there,owned⟩

end Instance

/-! ### Changes of values -/

/-- What a call may do to the value of a feature: leave it, write data or an admitted reference, or take over what
another object of the class has there, unless it is a list. -/
inductive Change (p : Package) (heap : Heap) (o : ObjectData) (i : Nat) (kind : FeatureKind) (old : Value) :
    Value → Prop
  | kept : Change p heap o i kind old old
  | data {v : Value} {plain : Kind} (isData : kind = .data plain) (fits : v.kind? = some plain) :
      Change p heap o i kind old v
  | cleared {target : String} (isSingle : kind = .reference target false) : Change p heap o i kind old .null
  | reference {target : String} {t : ClassType} {r : Handle} (isSingle : kind = .reference target false)
      (named : p.classNamed? target = some t) (checked : checkElement p heap t.id r = .ok ()) :
      Change p heap o i kind old (.object r)
  | copied {k : Handle} {source : ObjectData} {field : Field} (found : heap.get? k = some (.object source))
      (sameClass : source.cls = o.cls) (there : source.fields[i]? = some field)
      (plain : ∀ b, field.value ≠ .list b) (single : ∀ b, old ≠ .list b) : Change p heap o i kind old field.value

/-- What a call may do to an object of the class. -/
structure Changes (p : Package) (heap : Heap) (cls : ClassType) (o changed : ObjectData) : Prop where
  sameClass : changed.cls = o.cls
  length : changed.fields.length = o.fields.length
  each : ∀ (i : Nat) feature old new, cls.features[i]? = some feature → o.fields[i]? = some old →
    changed.fields[i]? = some new → Change p heap o i feature.kind old.value new.value

/-- A value that a call changes still fits its feature. -/
theorem Change.fits {i : Nat} {feature : Feature} {old new : Value} (objects : ∀ k other, heap.get? k = some (.object other) →
    ∃ cls, Instance p heap k other cls) (known : p.class? o.cls = some cls) (row : cls.features[i]? = some feature)
    (fits : Fits p heap h feature.kind old) (change : Change p heap o i feature.kind old new) :
    Fits p heap h feature.kind new := by
  cases change with
  | kept => exact fits
  | data isData ofKind =>
    rw [isData] at fits ⊢
    exact ⟨ofKind,fits.2⟩
  | cleared isSingle =>
    rw [isSingle]
    exact .inl rfl
  | reference isSingle named checked =>
    rw [isSingle]
    exact .inr ⟨_,rfl⟩
  | @copied k source field found sameClass there plain single =>
    obtain ⟨other,object⟩ := objects k source found
    have same : other = cls := by
      have known' := object.known
      rw [sameClass,known] at known'
      exact (Option.some.inj known').symm
    subst same
    have copied := object.fits i feature field row there
    -- A list is neither copied nor replaced.
    unfold Fits at copied fits ⊢
    split at copied
    · exact copied
    · exact copied
    · obtain ⟨b,-,-,isList,-⟩ := copied
      exact absurd isList (plain b)

theorem Change.list_kept {i : Nat} {kind : FeatureKind} {old : Value} (fits : Fits p heap h kind old)
    (change : Change p heap o i kind old (.list b)) : old = .list b := by
  generalize same : Value.list b = new at change
  cases change with
  | kept => rfl
  | data isData ofKind =>
    rw [isData] at fits
    subst same
    cases ofKind
    cases fits.2
  | cleared isSingle => cases same
  | reference isSingle named checked => cases same
  | copied found sameClass there plain single => exact absurd same.symm (plain b)

/-- A list stays with the feature that it is behind. -/
theorem Change.list_stays {i : Nat} {kind : FeatureKind} {new : Value} (fits : Fits p heap h kind (.list b))
    (change : Change p heap o i kind (.list b) new) : new = .list b := by
  obtain ⟨target,-,-,isMany,-⟩ := fits.many_of_list
  generalize same : Value.list b = old at change
  cases change with
  | kept => rfl
  | data isData ofKind => cases isMany.symm.trans isData
  | cleared isSingle => cases isMany.symm.trans isSingle
  | reference isSingle named checked => cases isMany.symm.trans isSingle
  | copied found sameClass there plain single => exact absurd same.symm (single b)

namespace Changes

theorem old_of_new {new : Field} {i : Nat} (changes : Changes p heap cls o changed) (found : changed.fields[i]? = some new) :
    ∃ old, o.fields[i]? = some old := by
  have inside : i < o.fields.length := changes.length ▸ (List.getElem?_eq_some_iff.mp found).1
  exact ⟨_,List.getElem?_eq_getElem inside⟩

/-- Lists stay where they are. -/
theorem list_kept {new : Field} {i : Nat} (changes : Changes p heap cls o changed) (object : Instance p heap h o cls)
    (found : changed.fields[i]? = some new) (isList : new.value = .list b) :
    ∃ old, o.fields[i]? = some old ∧ old.value = .list b := by
  obtain ⟨old,before⟩ := changes.old_of_new found
  obtain ⟨feature,row,fits⟩ := object.feature_of_field before
  have change := changes.each i feature old new row before found
  rw [isList] at change
  exact ⟨old,before,change.list_kept fits⟩

theorem holds (changes : Changes p heap cls o changed) (object : Instance p heap h o cls) (holds : o.Holds b) :
    changed.Holds b := by
  obtain ⟨i,old,before,isList⟩ := ObjectData.holds_iff.mp holds
  obtain ⟨feature,row,fits⟩ := object.feature_of_field before
  have inside : i < changed.fields.length := changes.length.symm ▸ (List.getElem?_eq_some_iff.mp before).1
  have now : changed.fields[i]? = some changed.fields[i] := List.getElem?_eq_getElem inside
  have change := changes.each i feature old _ row before now
  rw [isList] at fits change
  exact ObjectData.holds_iff.mpr ⟨i,_,now,change.list_stays fits⟩

end Changes

theorem get?_eraseBacking (owner : Handle) (heap : Heap) (value : Value) (k : Handle) :
    value = .list k ∧ heap.Owns owner k ∧ (heap.eraseBacking owner value).get? k = none ∨
      ¬ (value = .list k ∧ heap.Owns owner k) ∧ (heap.eraseBacking owner value).get? k = heap.get? k := by
  by_cases owned : ∃ b, value = .list b ∧ heap.Owns owner b
  · obtain ⟨b,rfl,owns⟩ := owned
    obtain ⟨l,-,freed⟩ := eraseBacking_of_owns owns
    by_cases same : k = b
    · subst same
      exact .inl ⟨rfl,owns,by simp [get?_take? freed]⟩
    · refine .inr ⟨?_,by simp [get?_take? freed,same]⟩
      rintro ⟨equal,-⟩
      cases equal
      exact same rfl
  · refine .inr ⟨fun ⟨isList,owns⟩ => owned ⟨k,isList,owns⟩,?_⟩
    rw [eraseBacking_of_not_owns fun b isList owns => owned ⟨b,isList,owns⟩]

/-- Exactly the lists among the values that the owner owns are gone. -/
theorem get?_eraseBackings (owner : Handle) (heap : Heap) (values : List Value) (k : Handle) :
    .list k ∈ values ∧ heap.Owns owner k ∧ (values.foldl (eraseBacking owner) heap).get? k = none ∨
      ¬ (.list k ∈ values ∧ heap.Owns owner k) ∧ (values.foldl (eraseBacking owner) heap).get? k = heap.get? k := by
  induction values generalizing heap with
  | nil => exact .inr ⟨by simp,rfl⟩
  | cons value rest ih =>
    rw [List.foldl_cons]
    rcases get?_eraseBacking owner heap value k with ⟨rfl,owns,gone⟩ | ⟨other,same⟩
    · refine .inl ⟨List.mem_cons_self ..,owns,?_⟩
      rcases ih (heap.eraseBacking owner (.list k)) with ⟨-,-,gone⟩ | ⟨-,kept⟩
      · exact gone
      · rw [kept,gone]
    · have owns : (heap.eraseBacking owner value).Owns owner k ↔ heap.Owns owner k := by rw [Owns,same,Owns]
      rcases ih (heap.eraseBacking owner value) with ⟨later,owned,gone⟩ | ⟨spared,kept⟩
      · exact .inl ⟨List.mem_cons_of_mem _ later,owns.mp owned,gone⟩
      · refine .inr ⟨?_,kept.trans same⟩
        rintro ⟨member,owned⟩
        rcases List.mem_cons.mp member with isList | later
        · exact other ⟨isList.symm,owned⟩
        · exact spared ⟨later,owns.mpr owned⟩

/-- Freeing an object takes it away with the lists that it holds and owns. -/
theorem get?_discard (found : heap.get? h = some (.object o)) (done : heap.discard h = .ok next) (k : Handle) :
    (k = h ∨ o.Holds k ∧ heap.Owns h k) ∧ next.get? k = none ∨
      ¬ (k = h ∨ o.Holds k ∧ heap.Owns h k) ∧ next.get? k = heap.get? k := by
  cases discard_eq_ok done with
  | list l freed =>
    rw [found_of_take? freed] at found
    cases found
  | object other rest freed erased =>
    cases found.symm.trans (found_of_take? freed)
    subst erased
    have owns : ∀ k, k ≠ h → (rest.Owns h k ↔ heap.Owns h k) := by
      intro k apart
      rw [Owns,get?_take? freed,if_neg apart,Owns]
    by_cases same : k = h
    · subst same
      refine .inl ⟨.inl rfl,?_⟩
      rcases get?_eraseBackings k rest (o.fields.map Field.value) k with ⟨-,-,gone⟩ | ⟨-,kept⟩
      · exact gone
      · rw [kept,get?_take? freed,if_pos rfl]
    · rcases get?_eraseBackings h rest (o.fields.map Field.value) k with ⟨holds,owned,gone⟩ | ⟨spared,kept⟩
      · exact .inl ⟨.inr ⟨holds,(owns k same).mp owned⟩,gone⟩
      · refine .inr ⟨?_,by rw [kept,get?_take? freed,if_neg same]⟩
        rintro (equal | ⟨holds,owned⟩)
        · exact same equal
        · exact spared ⟨holds,(owns k same).mpr owned⟩

/-- Freeing takes entries away and changes none. -/
theorem get?_of_discard (done : heap.discard h = .ok next) (k : Handle) :
    next.get? k = none ∨ next.get? k = heap.get? k := by
  cases discard_eq_ok done with
  | list l freed =>
    rw [get?_take? freed]
    split
    · exact .inl rfl
    · exact .inr rfl
  | object o rest freed erased => exact (get?_discard (found_of_take? freed) done k).imp And.right And.right

/-! ### What keeps the invariant -/

/-- A new object with new lists behind its many-valued features. Nothing else changes. -/
structure Created (p : Package) (heap : Heap) (h : Handle) (o : ObjectData) (cls : ClassType) (next : Heap) : Prop where
  fresh : heap.get? h = none
  found : next.get? h = some (.object o)
  object : Instance p next h o cls
  plain : ∀ (i : Nat) feature field, cls.features[i]? = some feature → o.fields[i]? = some field →
    feature.kind.isMany = false → field.value = feature.default
  others : ∀ k, k ≠ h → next.get? k = heap.get? k ∨ heap.get? k = none ∧ o.Holds k ∧
    ∃ t, p.class? t.id = some t ∧ next.get? k = some (.list ⟨t.id,[],some h⟩)

theorem Created.kept {k : Handle} {entry : Entry} (created : Created p heap h o cls next)
    (found : heap.get? k = some entry) : next.get? k = some entry := by
  have apart : k ≠ h := by
    rintro rfl
    rw [created.fresh] at found
    cases found
  rcases created.others k apart with same | ⟨vacant,-⟩
  · rw [same,found]
  · rw [vacant] at found
    cases found

namespace WellFormed

theorem empty : WellFormed p .empty := by
  refine ⟨?_,?_,?_⟩
  · intro h o found
    simp at found
  · intro b l owner found
    simp at found
  · intro b l found
    simp at found

theorem congr (wellFormed : WellFormed p heap) (same : ∀ k, next.get? k = heap.get? k) : WellFormed p next := by
  refine ⟨?_,?_,?_⟩
  · intro h o found
    obtain ⟨cls,object⟩ := wellFormed.objects h o (same h ▸ found)
    exact ⟨cls,object.keeps fun b l there _ => ⟨l.items,(same b).trans there⟩⟩
  · intro b l owner found owned
    rw [same] at found
    simpa only [same] using wellFormed.held b l owner found owned
  · intro b l found
    exact wellFormed.elements b l (same b ▸ found)

/-- Other elements in a list keep the invariant. -/
theorem setItems (wellFormed : WellFormed p heap) (atList : heap.get? b = some (.list l)) (items : List Handle) :
    WellFormed p (heap.setItems b l items) := by
  have view : ∀ k, (heap.setItems b l items).get? k = if k = b then some (.list { l with items }) else heap.get? k :=
    get?_setItems atList
  refine ⟨?_,?_,?_⟩
  · intro h o found
    rw [view] at found
    split at found
    · cases found
    · obtain ⟨cls,object⟩ := wellFormed.objects h o found
      refine ⟨cls,object.keeps fun k other there _ => ?_⟩
      rw [view]
      split
      · rename_i same
        subst same
        cases atList.symm.trans there
        exact ⟨items,rfl⟩
      · exact ⟨other.items,there⟩
  · intro k other owner found owned
    have before : ∃ old, heap.get? k = some (.list old) ∧ old.owner = some owner := by
      rw [view] at found
      split at found
      · rename_i same
        cases found
        exact ⟨l,same ▸ atList,owned⟩
      · exact ⟨other,found,owned⟩
    obtain ⟨old,there,ownedBefore⟩ := before
    obtain ⟨o,atOwner,holds⟩ := wellFormed.held k old owner there ownedBefore
    exact ⟨o,kept_of_update view atOwner (by simp [atList]),holds⟩
  · intro k other found
    rw [view] at found
    split at found
    · cases found
      exact wellFormed.elements b l atList
    · exact wellFormed.elements k other found

/-- An object that changes as a call may change it keeps the invariant. -/
theorem putObject (wellFormed : WellFormed p heap) (atObject : heap.get? h = some (.object o))
    (known : p.class? o.cls = some cls) (changes : Changes p heap cls o changed) :
    WellFormed p (heap.putObject h changed) := by
  have view : ∀ k, (heap.putObject h changed).get? k = if k = h then some (.object changed) else heap.get? k :=
    get?_putObject atObject
  have lists : ∀ k b l, heap.get? b = some (.list l) → l.owner = some k →
      ∃ items, (heap.putObject h changed).get? b = some (.list { l with items }) := by
    intro k b l there _
    exact ⟨l.items,kept_of_update view there (by simp [atObject])⟩
  obtain ⟨cls',object⟩ := wellFormed.objects h o atObject
  cases known.symm.trans object.known
  refine ⟨?_,?_,?_⟩
  · intro k other found
    rw [view] at found
    split at found
    · rename_i same
      cases found
      subst same
      refine ⟨cls,Instance.keeps ?_ (lists k)⟩
      refine ⟨by rw [changes.sameClass,known],object.concrete,changes.length.trans object.length,?_,?_⟩
      · intro i feature new row now
        obtain ⟨old,before⟩ := changes.old_of_new now
        exact (changes.each i feature old new row before now).fits wellFormed.objects known row
          (object.fits i feature old row before)
      · intro i j one other b first second isList again
        obtain ⟨old,before,was⟩ := changes.list_kept object first isList
        obtain ⟨older,earlier,were⟩ := changes.list_kept object second again
        exact object.distinct i j old older b before earlier was were
    · obtain ⟨cls,object⟩ := wellFormed.objects k other found
      exact ⟨cls,object.keeps (lists k)⟩
  · intro b l owner found owned
    rw [view] at found
    split at found
    · cases found
    · obtain ⟨other,atOwner,holds⟩ := wellFormed.held b l owner found owned
      by_cases same : owner = h
      · subst same
        cases atObject.symm.trans atOwner
        exact ⟨changed,by rw [view,if_pos rfl],changes.holds object holds⟩
      · exact ⟨other,by rw [view,if_neg same,atOwner],holds⟩
  · intro b l found
    rw [view] at found
    split at found
    · cases found
    · exact wellFormed.elements b l found

/-- A new list without an owner keeps the invariant. -/
theorem newList {c : ClassId} (wellFormed : WellFormed p heap) (known : p.class? c = some cls)
    (fresh : heap.get? b = none) (view : ∀ k, next.get? k = if k = b then some (.list ⟨c,[],none⟩) else heap.get? k) :
    WellFormed p next := by
  have kept : ∀ k entry, heap.get? k = some entry → next.get? k = some entry := by
    intro k entry found
    exact kept_of_update view found (by simp [fresh])
  refine ⟨?_,?_,?_⟩
  · intro h o found
    rw [view] at found
    split at found
    · cases found
    · obtain ⟨cls,object⟩ := wellFormed.objects h o found
      exact ⟨cls,object.keeps fun k l there _ => ⟨l.items,kept k _ there⟩⟩
  · intro k l owner found owned
    rw [view] at found
    split at found
    · cases found
      cases owned
    · obtain ⟨o,atOwner,holds⟩ := wellFormed.held k l owner found owned
      exact ⟨o,kept owner _ atOwner,holds⟩
  · intro k l found
    rw [view] at found
    split at found
    · cases found
      exact ⟨cls,known⟩
    · exact wellFormed.elements k l found

/-- A new object keeps the invariant with the lists of its features. -/
theorem newObject (wellFormed : WellFormed p heap) (created : Created p heap h o cls next) : WellFormed p next := by
  refine ⟨?_,?_,?_⟩
  · intro k other found
    by_cases same : k = h
    · subst same
      cases created.found.symm.trans found
      exact ⟨cls,created.object⟩
    · rcases created.others k same with old | ⟨-,-,t,-,new⟩
      · rw [old] at found
        obtain ⟨cls,object⟩ := wellFormed.objects k other found
        exact ⟨cls,object.keeps fun b l there _ => ⟨l.items,created.kept there⟩⟩
      · rw [new] at found
        cases found
  · intro b l owner found owned
    have apart : b ≠ h := by
      rintro rfl
      cases created.found.symm.trans found
    rcases created.others b apart with old | ⟨-,holds,t,-,new⟩
    · rw [old] at found
      obtain ⟨other,atOwner,holds⟩ := wellFormed.held b l owner found owned
      exact ⟨other,created.kept atOwner,holds⟩
    · rw [new] at found
      cases found
      cases owned
      exact ⟨o,created.found,holds⟩
  · intro b l found
    have apart : b ≠ h := by
      rintro rfl
      cases created.found.symm.trans found
    rcases created.others b apart with old | ⟨-,-,t,known,new⟩
    · exact wellFormed.elements b l (old ▸ found)
    · rw [new] at found
      cases found
      exact ⟨t,known⟩

/-- Freeing a list without an owner keeps the invariant. -/
theorem freeList (wellFormed : WellFormed p heap) (atList : heap.get? h = some (.list l)) (orphan : l.owner = none)
    (view : ∀ k, next.get? k = if k = h then none else heap.get? k) : WellFormed p next := by
  have old : ∀ k entry, next.get? k = some entry → heap.get? k = some entry := by
    intro k entry found
    rw [view] at found
    split at found
    · cases found
    · exact found
  refine ⟨?_,?_,fun b l found => wellFormed.elements b l (old b _ found)⟩
  · intro k o found
    obtain ⟨cls,object⟩ := wellFormed.objects k o (old k _ found)
    refine ⟨cls,object.keeps fun b other there owned => ⟨other.items,?_⟩⟩
    rw [view,if_neg ?_,there]
    rintro rfl
    cases atList.symm.trans there
    cases orphan.symm.trans owned
  · intro b other owner found owned
    obtain ⟨o,atOwner,holds⟩ := wellFormed.held b other owner (old b _ found) owned
    exact ⟨o,kept_of_update view atOwner (by simp [atList]),holds⟩

/-- Freeing an object takes its lists along and keeps the invariant. -/
theorem freeObject (wellFormed : WellFormed p heap) (atObject : heap.get? h = some (.object o))
    (done : heap.discard h = .ok next) : WellFormed p next := by
  have view := get?_discard atObject done
  have old : ∀ k entry, next.get? k = some entry → ¬ (k = h ∨ o.Holds k ∧ heap.Owns h k) ∧ heap.get? k = some entry := by
    intro k entry found
    rcases view k with ⟨-,gone⟩ | ⟨spared,same⟩
    · rw [gone] at found
      cases found
    · exact ⟨spared,same ▸ found⟩
  refine ⟨?_,?_,fun b l found => wellFormed.elements b l (old b _ found).2⟩
  · intro k other found
    obtain ⟨spared,before⟩ := old k _ found
    obtain ⟨cls,object⟩ := wellFormed.objects k other before
    refine ⟨cls,object.keeps fun b l there owned => ⟨l.items,?_⟩⟩
    rcases view b with ⟨rfl | ⟨-,l',there',owned'⟩,-⟩ | ⟨-,same⟩
    · cases atObject.symm.trans there
    · cases there.symm.trans there'
      cases owned.symm.trans owned'
      exact absurd (.inl rfl) spared
    · rw [same,there]
  · intro b l owner found owned
    obtain ⟨spared,before⟩ := old b _ found
    obtain ⟨other,atOwner,holds⟩ := wellFormed.held b l owner before owned
    rcases view owner with ⟨rfl | ⟨-,l',there',-⟩,-⟩ | ⟨-,same⟩
    · cases atObject.symm.trans atOwner
      exact absurd (.inr ⟨holds,l,before,owned⟩) spared
    · cases atOwner.symm.trans there'
    · exact ⟨other,by rw [same,atOwner],holds⟩

end WellFormed

end Heap

end HandleBridge
