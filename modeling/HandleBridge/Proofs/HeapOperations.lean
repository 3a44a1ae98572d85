import HandleBridge.Proofs.HeapEntries

/-!
What each operation of the heap did when it succeeded: which checks passed and which entries were replaced. Every
lemma opens one operation, so that proofs about runs never unfold them.
-/

namespace HandleBridge

theorem forM_eq_ok_iff {ε α : Type} {f : α → Except ε Unit} (xs : List α) :
    xs.forM f = .ok () ↔ ∀ x ∈ xs, f x = .ok () := by
  induction xs with
  | nil => simp [pure,Except.pure]
  | cons x rest ih =>
    show (f x >>= fun _ => rest.forM f) = .ok () ↔ _
    rw [bind_eq_ok_iff,ih,List.forall_mem_cons]
    constructor
    · rintro ⟨⟨⟩,first,others⟩
      exact ⟨first,others⟩
    · rintro ⟨first,others⟩
      exact ⟨(),first,others⟩

namespace Package

variable {p : Package} {c : ClassId} {name : String} {cls : ClassType}

theorem require_eq_ok_iff : p.require c = .ok cls ↔ p.class? c = some cls := by
  unfold require
  split <;> simp_all

theorem requireNamed_eq_ok_iff : p.requireNamed name = .ok cls ↔ p.classNamed? name = some cls := by
  unfold requireNamed
  split <;> simp_all

end Package

theorem ClassType.feature_eq_ok_iff {cls : ClassType} {f : FeatureId} {feature : Feature} :
    cls.feature f = .ok feature ↔ cls.features[f.index.toNat]? = some feature := by
  unfold ClassType.feature
  split <;> simp_all

namespace Heap

variable {p : Package} {heap next : Heap} {h k source : Handle} {f : FeatureId} {v : Value} {o : ObjectData}
  {l : ListData} {feature : Feature}

theorem objectFeature_eq_ok_iff : objectFeature p heap h f = .ok (o,feature) ↔
    heap.get? h = some (.object o) ∧ ∃ cls, p.class? o.cls = some cls ∧
      cls.features[f.index.toNat]? = some feature := by
  simp only [objectFeature,bind_eq_ok_iff,object_eq_ok_iff,Package.require_eq_ok_iff,ClassType.feature_eq_ok_iff]
  constructor
  · rintro ⟨other,found,cls,known,other,row,same⟩
    cases same
    exact ⟨found,cls,known,row⟩
  · rintro ⟨found,cls,known,row⟩
    exact ⟨o,found,cls,known,feature,row,rfl⟩

/-- Giving a list the elements of another replaces its items, once every one of them passed; of itself, nothing. -/
theorem assignList_eq_ok {backing : Handle} (done : heap.assignList p backing source = .ok next) :
    (source = backing ∧ next = heap) ∨ ∃ given target, heap.get? source = some (.list given) ∧
      heap.get? backing = some (.list target) ∧
      (∀ x ∈ given.items, checkElement p heap target.elementClass x = .ok ()) ∧
      next = heap.setItems backing target given.items := by
  unfold assignList at done
  split at done
  · rename_i same
    cases done
    exact .inl ⟨same,rfl⟩
  · simp only [bind_eq_ok_iff,list_eq_ok_iff] at done
    obtain ⟨given,atSource,target,atBacking,⟨⟩,checked,done⟩ := done
    exact .inr ⟨given,target,atSource,atBacking,(forM_eq_ok_iff _).mp checked,(Except.ok.inj done).symm⟩

/-- What a successful write of a feature did, by the kind of the feature. -/
inductive SetDone (p : Package) (heap : Heap) (h : Handle) (f : FeatureId) (v : Value) (o : ObjectData)
    (kind : FeatureKind) (next : Heap) : Prop
  | data (plain : Kind) (isData : kind = .data plain) (written : next = heap.putObject h (o.setField f ⟨v,true⟩))
  | single (target : String) (isSingle : kind = .reference target false)
      (fits : ∀ r, v = .object r → ∃ t, p.classNamed? target = some t ∧ checkElement p heap t.id r = .ok ())
      (written : next = heap.putObject h (o.setField f ⟨v,true⟩))
  | many (target : String) (backing : Handle) (assigned : Heap) (isMany : kind = .reference target true)
      (backs : (o.field f).value = .list backing)
      (assign : heap.assignList p backing (v.handle?.getD backing) = .ok assigned)
      (written : next = assigned.putObject h (o.setField f { o.field f with isSet := true }))

/-- A write that succeeds found a feature that the value fits, and did what its kind asks for. -/
theorem set_eq_ok (done : set p h f v heap = .ok next) :
    ∃ o feature, objectFeature p heap h f = .ok (o,feature) ∧ v.fits feature.kind.valueKind = true ∧
      SetDone p heap h f v o feature.kind next := by
  simp only [set,bind_eq_ok_iff] at done
  obtain ⟨⟨o,feature⟩,described,done⟩ := done
  refine ⟨o,feature,described,?_⟩
  split at done
  · rename_i fits
    refine ⟨fits,?_⟩
    split at done
    · rename_i kind isData
      exact .data kind isData (Except.ok.inj done).symm
    · rename_i target isSingle
      split at done
      · rename_i r
        simp only [bind_eq_ok_iff,Package.requireNamed_eq_ok_iff] at done
        obtain ⟨t,named,⟨⟩,checked,written⟩ := done
        refine .single target isSingle ?_ (Except.ok.inj written).symm
        intro other same
        cases same
        exact ⟨t,named,checked⟩
      · rename_i other
        exact .single target isSingle (fun r same => absurd same (other r)) (Except.ok.inj done).symm
    · rename_i target isMany
      split at done
      · rename_i backing backs
        rw [bind_eq_ok_iff] at done
        obtain ⟨assigned,assign,written⟩ := done
        exact .many target backing assigned isMany backs assign (Except.ok.inj written).symm
      · cases done
  · cases done

/-- What reverting a feature does: it stops at an error, empties the list of the feature, or restores the default. -/
inductive UnsetDone (p : Package) (heap : Heap) (h : Handle) (f : FeatureId) : Except Error Unit × Heap → Prop
  | unknown (e : Error) : UnsetDone p heap h f (.error e,heap)
  | emptied (o : ObjectData) (feature : Feature) (held : Handle) (l : ListData)
      (described : objectFeature p heap h f = .ok (o,feature)) (holds : (o.field f).value = .list held)
      (found : (heap.putObject h (o.setField f { o.field f with isSet := false })).get? held = some (.list l)) :
      UnsetDone p heap h f
        (.ok (),(heap.putObject h (o.setField f { o.field f with isSet := false })).setItems held l [])
  | missing (o : ObjectData) (feature : Feature) (held : Handle) (e : Error)
      (described : objectFeature p heap h f = .ok (o,feature)) (holds : (o.field f).value = .list held)
      (lost : (heap.putObject h (o.setField f { o.field f with isSet := false })).list held = .error e) :
      UnsetDone p heap h f (.error e,heap.putObject h (o.setField f { o.field f with isSet := false }))
  | restored (o : ObjectData) (feature : Feature) (described : objectFeature p heap h f = .ok (o,feature))
      (plain : ∀ held, (o.field f).value ≠ .list held) :
      UnsetDone p heap h f (.ok (),heap.putObject h (o.setField f ⟨feature.default,false⟩))

/-- Whatever reverting a feature comes to is one of these cases. -/
theorem unset_cases (p : Package) (h : Handle) (f : FeatureId) (heap : Heap) :
    UnsetDone p heap h f (unset p h f heap) := by
  unfold unset
  split
  · exact .unknown _
  · rename_i o feature described
    split
    · rename_i held holds
      dsimp only
      split
      · rename_i l found
        exact .emptied o feature held l described holds (list_eq_ok_iff.mp found)
      · rename_i e lost
        exact .missing o feature held e described holds lost
    · rename_i plain
      exact .restored o feature described plain

theorem initialise_eq_ok (done : initialise h heap = .ok next) :
    ∃ o, heap.get? h = some (.object o) ∧ next = heap.putObject h { o with initialised := true } := by
  simp only [initialise,bind_eq_ok_iff,object_eq_ok_iff] at done
  obtain ⟨o,found,done⟩ := done
  exact ⟨o,found,(Except.ok.inj done).symm⟩

/-- A push that succeeds puts an element that passed at the end of a list. -/
theorem pushBack_eq_ok {element : Handle} (done : pushBack p h element heap = .ok next) :
    ∃ l, heap.get? h = some (.list l) ∧ checkElement p heap l.elementClass element = .ok () ∧
      next = heap.setItems h l (l.items ++ [element]) := by
  simp only [pushBack,bind_eq_ok_iff,list_eq_ok_iff] at done
  obtain ⟨l,found,⟨⟩,checked,done⟩ := done
  exact ⟨l,found,checked,(Except.ok.inj done).symm⟩

theorem insertAt_eq_ok {element : Handle} {i : UInt64} (done : insertAt p h i element heap = .ok next) :
    ∃ l, heap.get? h = some (.list l) ∧ i.toNat ≤ l.items.length ∧
      checkElement p heap l.elementClass element = .ok () ∧
      next = heap.setItems h l (l.items.take i.toNat ++ element :: l.items.drop i.toNat) := by
  simp only [insertAt,bind_eq_ok_iff,list_eq_ok_iff] at done
  obtain ⟨l,found,done⟩ := done
  split at done
  · cases done
  · rename_i inside
    obtain ⟨⟨⟩,checked,done⟩ := bind_eq_ok_iff.mp done
    exact ⟨l,found,Nat.le_of_not_lt inside,checked,(Except.ok.inj done).symm⟩

/-- Appending a list takes over all of its items, and asks for a class that fits. -/
theorem insertAll_eq_ok (done : insertAll p h source heap = .ok next) :
    ∃ given target, heap.get? source = some (.list given) ∧ heap.get? h = some (.list target) ∧
      p.isA given.elementClass target.elementClass = true ∧
      next = heap.setItems h target (target.items ++ given.items) := by
  simp only [insertAll,bind_eq_ok_iff,list_eq_ok_iff] at done
  obtain ⟨given,atSource,target,atTarget,done⟩ := done
  split at done
  · rename_i fits
    exact ⟨given,target,atSource,atTarget,fits,(Except.ok.inj done).symm⟩
  · cases done

theorem clear_eq_ok (done : clear h heap = .ok next) :
    ∃ l, heap.get? h = some (.list l) ∧ next = heap.setItems h l [] := by
  simp only [clear,bind_eq_ok_iff,list_eq_ok_iff] at done
  obtain ⟨l,found,done⟩ := done
  exact ⟨l,found,(Except.ok.inj done).symm⟩

/-- The handle refers to a list that the object owns. -/
def Owns (heap : Heap) (owner b : Handle) : Prop := ∃ l, heap.get? b = some (.list l) ∧ l.owner = some owner

/-- Freeing what an object holds takes out a list that it owns. -/
theorem eraseBacking_of_owns {owner b : Handle} (owns : heap.Owns owner b) :
    ∃ l, l.owner = some owner ∧ heap.take? b = some (.list l,heap.eraseBacking owner (.list b)) := by
  obtain ⟨l,found,owned⟩ := owns
  cases freed : heap.take? b with
  | none =>
    have lost := Arena.erase?_eq_none_iff.mp freed
    rw [found] at lost
    cases lost
  | some taken =>
    obtain ⟨entry,next⟩ := taken
    have same := found_of_take? freed
    rw [found] at same
    cases same
    exact ⟨l,owned,by simp [eraseBacking,found,owned,freed]⟩

/-- Any other value is left alone. -/
theorem eraseBacking_of_not_owns {owner : Handle} {value : Value} (free : ∀ b, value = .list b → ¬ heap.Owns owner b) :
    heap.eraseBacking owner value = heap := by
  unfold eraseBacking
  split
  · rename_i b
    split
    · rename_i l found
      split
      · rename_i owned
        exact absurd ⟨l,found,owned⟩ (free b rfl)
      · rfl
    · rfl
  · rfl

theorem size_eraseBacking (owner : Handle) (heap : Heap) (value : Value) :
    (heap.eraseBacking owner value).slots.size = heap.slots.size := by
  by_cases owned : ∃ b, value = .list b ∧ heap.Owns owner b
  · obtain ⟨b,rfl,owns⟩ := owned
    obtain ⟨l,-,freed⟩ := eraseBacking_of_owns owns
    exact size_take? freed
  · rw [eraseBacking_of_not_owns fun b isList owns => owned ⟨b,isList,owns⟩]

theorem size_eraseBackings (owner : Handle) (heap : Heap) (values : List Value) :
    (values.foldl (eraseBacking owner) heap).slots.size = heap.slots.size := by
  induction values generalizing heap with
  | nil => rfl
  | cons value rest ih => exact (ih _).trans (size_eraseBacking owner heap value)

/-- What freeing an entry did: a list goes alone, an object with the lists that it owns among its values. -/
inductive DiscardDone (heap : Heap) (h : Handle) (next : Heap) : Prop
  | list (l : ListData) (freed : heap.take? h = some (.list l,next))
  | object (o : ObjectData) (rest : Heap) (freed : heap.take? h = some (.object o,rest))
      (erased : next = (o.fields.map Field.value).foldl (eraseBacking h) rest)

/-- Freeing that succeeds did one of these. -/
theorem discard_eq_ok (done : heap.discard h = .ok next) : DiscardDone heap h next := by
  unfold discard at done
  split at done
  · cases done
  · rename_i o rest freed
    exact .object o rest freed (Except.ok.inj done).symm
  · rename_i l rest freed
    cases done
    exact .list l freed

/-- Only what has no entry cannot be freed. -/
theorem take?_of_discard_error {e : Error} (failed : heap.discard h = .error e) : heap.take? h = none := by
  unfold discard at failed
  split at failed
  · rename_i lost
    exact lost
  · cases failed
  · cases failed

theorem size_discard (done : heap.discard h = .ok next) : next.slots.size = heap.slots.size := by
  cases discard_eq_ok done with
  | list l freed => exact size_take? freed
  | object o rest freed erased => rw [erased,size_eraseBackings,size_take? freed]

/-! ### Creating, copying and destroying -/

theorem createList_eq_ok {settings : HeapSettings} {c : ClassId} (done : createList p settings c heap = .ok (h,next)) :
    (∃ cls, p.class? c = some cls) ∧ heap.alloc settings (.list ⟨c,[],none⟩) = .ok (h,next) := by
  simp only [createList,bind_eq_ok_iff,Package.require_eq_ok_iff] at done
  obtain ⟨cls,known,made⟩ := done
  exact ⟨⟨cls,known⟩,made⟩

/-- Only lists without an owner and objects are destroyed at a caller's wish. -/
theorem destroy_eq_ok (done : destroy h heap = .ok next) :
    (∃ entry, heap.get? h = some entry ∧ ∀ l, entry = .list l → l.owner = none) ∧ heap.discard h = .ok next := by
  simp only [destroy,bind_eq_ok_iff,find_eq_ok_iff] at done
  obtain ⟨entry,found,done⟩ := done
  split at done
  · cases done
  · rename_i free
    refine ⟨⟨entry,found,?_⟩,done⟩
    rintro ⟨elementClass,items,owner⟩ rfl
    cases owner with
    | none => rfl
    | some owner => exact absurd rfl (free elementClass items owner)

/-- What copying one value did: the items of a list moved over to the list of the copy, or the value itself. -/
inductive CopyDone (heap : Heap) (h : Handle) (f : FeatureId) (next : Heap) : Value → Prop
  | items (source target : Handle) (o : ObjectData) (given own : ListData)
      (atSource : heap.get? source = some (.list given)) (found : heap.get? h = some (.object o))
      (holds : (o.field f).value = .list target) (atTarget : heap.get? target = some (.list own))
      (written : next = heap.setItems target own given.items) : CopyDone heap h f next (.list source)
  | skipped (source : Handle) (o : ObjectData) (given : ListData) (atSource : heap.get? source = some (.list given))
      (found : heap.get? h = some (.object o)) (plain : ∀ target, (o.field f).value ≠ .list target)
      (written : next = heap) : CopyDone heap h f next (.list source)
  | value (v : Value) (o : ObjectData) (plain : ∀ source, v ≠ .list source) (found : heap.get? h = some (.object o))
      (written : next = heap.putObject h (o.setValue f v)) : CopyDone heap h f next v

theorem copyValue_eq_ok {place : Nat} (done : copyValue h (v,place) heap = .ok next) :
    CopyDone heap h ⟨UInt32.ofNat place⟩ next v := by
  simp only [copyValue] at done
  split at done
  · rename_i source
    simp only [bind_eq_ok_iff,list_eq_ok_iff,object_eq_ok_iff] at done
    obtain ⟨given,atSource,o,found,done⟩ := done
    split at done
    · rename_i target holds
      simp only [bind_eq_ok_iff,list_eq_ok_iff] at done
      obtain ⟨own,atTarget,done⟩ := done
      exact .items source target o given own atSource found holds atTarget (Except.ok.inj done).symm
    · rename_i plain
      exact .skipped source o given atSource found plain (Except.ok.inj done).symm
  · rename_i plain
    simp only [bind_eq_ok_iff,object_eq_ok_iff] at done
    obtain ⟨o,found,done⟩ := done
    exact .value v o plain found (Except.ok.inj done).symm

end Heap

end HandleBridge
