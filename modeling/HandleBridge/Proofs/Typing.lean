import HandleBridge.Proofs.Shapes

/-!
Type soundness of the heap. References point to null, to what was destroyed, or to live objects of a class that
derives from the expected one. Elements reach a list on several ways with different checks; what makes all of them
safe is that deriving is transitive, that an object never changes its class, and that what was destroyed never comes
back.
-/

namespace HandleBridge.Heap

variable {p : Package} {settings : HeapSettings} {heap next last : Heap} {gone later : Handle → Prop} {h r : Handle}
  {expected : ClassId} {log lives : List Life}

/-- The handle may stand where objects of the class are expected: it is null, it is among those that are gone, or it
is a live object whose class derives from the expected one. -/
def Refers (p : Package) (gone : Handle → Prop) (heap : Heap) (expected : ClassId) (r : Handle) : Prop :=
  r = .null ∨ gone r ∨ ∃ o, heap.get? r = some (.object o) ∧ p.isA o.cls expected = true

/-- A single reference of the object `h` to the class `t` points to `r`. -/
def PointsTo (p : Package) (heap : Heap) (h : Handle) (t : ClassType) (r : Handle) : Prop :=
  ∃ o cls, ∃ i : Nat, ∃ feature field target, heap.get? h = some (.object o) ∧ p.class? o.cls = some cls ∧
    cls.features[i]? = some feature ∧ feature.kind = .reference target false ∧ o.fields[i]? = some field ∧
    field.value = .object r ∧ p.classNamed? target = some t

/-- References and elements refer to what their features and lists ask for. -/
structure Typed (p : Package) (gone : Handle → Prop) (heap : Heap) : Prop where
  references : ∀ h t r, PointsTo p heap h t r → Refers p gone heap t.id r
  items : ∀ b l, heap.get? b = some (.list l) → ∀ x ∈ l.items, Refers p gone heap l.elementClass x

theorem Refers.mono (refers : Refers p gone heap expected r) (more : ∀ k, gone k → later k)
    (persists : ∀ o, heap.get? r = some (.object o) →
      later r ∨ ∃ changed, next.get? r = some (.object changed) ∧ changed.cls = o.cls) :
    Refers p later next expected r := by
  rcases refers with isNull | isGone | ⟨o,found,derives⟩
  · exact .inl isNull
  · exact .inr (.inl (more r isGone))
  · rcases persists o found with isGone | ⟨changed,still,sameClass⟩
    · exact .inr (.inl isGone)
    · exact .inr (.inr ⟨changed,still,by rwa [sameClass]⟩)

theorem Refers.of_checkElement (checked : checkElement p heap expected r = .ok ()) : Refers p gone heap expected r := by
  rcases checkElement_eq_ok_iff.mp checked with isNull | found
  · exact .inl ((Handle.isNull_eq_true_iff r).mp isNull)
  · exact .inr (.inr found)

/-- A class that derives from the expected one is as good. -/
theorem Refers.derived {c : ClassId} (built : p.Built) (addressable : p.Addressable) (refers : Refers p gone heap c r)
    (derives : p.isA c expected = true) : Refers p gone heap expected r := by
  rcases refers with isNull | isGone | ⟨o,found,fits⟩
  · exact .inl isNull
  · exact .inr (.inl isGone)
  · exact .inr (.inr ⟨o,found,built.isA_trans addressable fits derives⟩)

theorem Typed.refers_of_admitted (typed : Typed p gone heap) (built : p.Built) (addressable : p.Addressable)
    (admitted : Admitted p heap expected r) : Refers p gone heap expected r := by
  cases admitted with
  | checked passes => exact .of_checkElement passes
  | shared found member fits => exact (typed.items _ _ found r member).derived built addressable fits

/-- No step of an edit ends an object or changes its class. -/
theorem Edit.persists (edit : Edit p heap next) {o : ObjectData} (found : heap.get? r = some (.object o)) :
    ∃ changed, next.get? r = some (.object changed) ∧ changed.cls = o.cls := by
  obtain ⟨now,still,same⟩ := edit.keeps_shape found
  obtain ⟨changed,rfl,sameClass⟩ := Entry.shape_eq_object_iff.mp same
  exact ⟨changed,still,sameClass⟩

theorem Refers.edit (refers : Refers p gone heap expected r) (edit : Edit p heap next) :
    Refers p gone next expected r :=
  refers.mono (fun _ isGone => isGone) fun _ found => .inr (edit.persists found)

/-- A single reference of a changed object comes from its old value, a check, or an object of the same class. -/
theorem Typed.refers_of_change {o : ObjectData} {cls t : ClassType} {i : Nat} {feature : Feature} {target : String}
    {old : Field} {new : Value} (typed : Typed p gone heap) (found : heap.get? h = some (.object o))
    (known : p.class? o.cls = some cls) (row : cls.features[i]? = some feature)
    (isSingle : feature.kind = .reference target false) (before : o.fields[i]? = some old)
    (named : p.classNamed? target = some t) (change : Change p heap o i feature.kind old.value new)
    (isObject : new = .object r) : Refers p gone heap t.id r := by
  cases change with
  | kept => exact typed.references h t r ⟨o,cls,i,feature,old,target,found,known,row,isSingle,before,isObject,named⟩
  | data isData ofKind => cases isSingle.symm.trans isData
  | cleared again => cases isObject
  | reference again named' checked =>
    cases isObject
    cases isSingle.symm.trans again
    cases named.symm.trans named'
    exact .of_checkElement checked
  | @copied k source field there sameClass place plain single =>
    have knownSource : p.class? source.cls = some cls := by rw [sameClass,known]
    exact typed.references k t r
      ⟨source,cls,i,feature,field,target,there,knownSource,row,isSingle,place,isObject,named⟩

/-- Only the entries that are not the old ones have to be looked at, when what was right stays right. -/
theorem Typed.of_entries (typed : Typed p gone heap)
    (carry : ∀ expected r, Refers p gone heap expected r → Refers p later next expected r)
    (objects : ∀ h o, next.get? h = some (.object o) →
      heap.get? h = some (.object o) ∨ ∀ t r, PointsTo p next h t r → Refers p later next t.id r)
    (lists : ∀ b l, next.get? b = some (.list l) →
      heap.get? b = some (.list l) ∨ ∀ x ∈ l.items, Refers p later next l.elementClass x) :
    Typed p later next where
  references h t r points := by
    obtain ⟨o,cls,i,feature,field,target,found,rest⟩ := points
    rcases objects h o found with old | changed
    · exact carry t.id r (typed.references h t r ⟨o,cls,i,feature,field,target,old,rest⟩)
    · exact changed t r ⟨o,cls,i,feature,field,target,found,rest⟩
  items b l found x member := by
    rcases lists b l found with old | changed
    · exact carry l.elementClass x (typed.items b l old x member)
    · exact changed x member

/-- A list stays typed when its new items are admitted. -/
theorem Typed.setItems {b : Handle} {l : ListData} {items : List Handle} (typed : Typed p gone heap) (built : p.Built)
    (addressable : p.Addressable) (atList : heap.get? b = some (.list l))
    (admitted : ∀ x ∈ items, Admitted p heap l.elementClass x) : Typed p gone (heap.setItems b l items) := by
  have carry : ∀ expected r, Refers p gone heap expected r → Refers p gone (heap.setItems b l items) expected r :=
    fun _ _ refers => refers.edit (.items atList admitted)
  refine typed.of_entries carry ?_ ?_
  · intro h o found
    rw [get?_setItems atList] at found
    split at found
    · cases found
    · exact .inl found
  · intro k other found
    rw [get?_setItems atList] at found
    split at found
    · cases found
      exact .inr fun x member => carry _ x (typed.refers_of_admitted built addressable (admitted x member))
    · exact .inl found

/-- So does an object that a call changes. -/
theorem Typed.putObject {o changed : ObjectData} {cls : ClassType} (typed : Typed p gone heap)
    (atObject : heap.get? h = some (.object o)) (known : p.class? o.cls = some cls)
    (changes : Changes p heap cls o changed) : Typed p gone (heap.putObject h changed) := by
  have carry : ∀ expected r, Refers p gone heap expected r → Refers p gone (heap.putObject h changed) expected r :=
    fun _ _ refers => refers.edit (.values atObject known changes)
  have view : ∀ k, (heap.putObject h changed).get? k = if k = h then some (.object changed) else heap.get? k :=
    get?_putObject atObject
  refine typed.of_entries carry ?_ ?_
  · intro k other found
    by_cases same : k = h
    · subst same
      refine .inr ?_
      rintro t r ⟨other,cls',i,feature,field,target,found,known',row,isSingle,there,isObject,named⟩
      rw [view,if_pos rfl] at found
      cases found
      rw [changes.sameClass,known] at known'
      cases known'
      obtain ⟨old,was⟩ := changes.old_of_new there
      have change := changes.each i feature old field row was there
      exact carry t.id r (typed.refers_of_change atObject known row isSingle was named change isObject)
    · rw [view,if_neg same] at found
      exact .inl found
  · intro b l found
    rw [view] at found
    split at found
    · cases found
    · exact .inl found

theorem Typed.newList {b : Handle} {c : ClassId} (typed : Typed p gone heap)
    (carry : ∀ expected r, Refers p gone heap expected r → Refers p gone next expected r)
    (view : ∀ k, next.get? k = if k = b then some (.list ⟨c,[],none⟩) else heap.get? k) : Typed p gone next := by
  refine typed.of_entries carry ?_ ?_
  · intro h o found
    rw [view] at found
    split at found
    · cases found
    · exact .inl found
  · intro k l found
    rw [view] at found
    split at found
    · cases found
      exact .inr fun x member => absurd member List.not_mem_nil
    · exact .inl found

/-- A new object refers to nothing, and the lists behind its features are empty. -/
theorem Typed.newObject {o : ObjectData} {cls : ClassType} (typed : Typed p gone heap) (built : p.Built)
    (created : Created p heap h o cls next) : Typed p gone next := by
  refine typed.of_entries (fun _ _ refers => refers.edit (.object created)) ?_ ?_
  · intro k other found
    by_cases same : k = h
    · subst same
      refine .inr ?_
      rintro t r ⟨other,cls',i,feature,field,target,found,known,row,isSingle,there,isObject,named⟩
      cases created.found.symm.trans found
      cases created.object.known.symm.trans known
      have proper := built.proper (Package.class?_mem known) (List.mem_of_getElem? row)
      rw [created.plain i feature field row there (by rw [isSingle]; rfl)] at isObject
      simp only [Feature.Proper,isSingle] at proper
      rw [proper.1] at isObject
      cases isObject
    · rcases created.others k same with old | ⟨-,-,t,-,new⟩
      · exact .inl (old ▸ found)
      · cases new.symm.trans found
  · intro b l found
    by_cases same : b = h
    · subst same
      cases created.found.symm.trans found
    · rcases created.others b same with old | ⟨-,-,t,-,new⟩
      · exact .inl (old ▸ found)
      · cases new.symm.trans found
        exact .inr fun x member => absurd member List.not_mem_nil

/-- Each well formed step keeps the heap typed. -/
theorem Edit.typed (edit : Edit p heap next) (typed : Typed p gone heap) (built : p.Built)
    (addressable : p.Addressable) : Typed p gone next := by
  cases edit with
  | items atList admitted => exact typed.setItems built addressable atList admitted
  | values atObject known changes => exact typed.putObject atObject known changes
  | list known fresh view => exact typed.newList (fun _ _ refers => refers.edit (.list known fresh view)) view
  | object created => exact typed.newObject built created

theorem Edits.typed (edits : Edits p heap last) (typed : Typed p gone heap) (built : p.Built)
    (addressable : p.Addressable) : Typed p gone last := by
  induction edits with
  | refl => exact typed
  | tail _ edit ih => exact edit.typed ih built addressable

/-- What remains after a call stays typed, when the objects that it ends are counted among those that are gone. -/
theorem Typed.of_remaining (typed : Typed p gone heap) (more : ∀ k, gone k → later k)
    (dies : ∀ k o, heap.get? k = some (.object o) → next.get? k = none → later k)
    (view : ∀ k, next.get? k = none ∨ next.get? k = heap.get? k) : Typed p later next := by
  have old : ∀ k entry, next.get? k = some entry → heap.get? k = some entry := by
    intro k entry found
    rcases view k with lost | same
    · cases lost.symm.trans found
    · rw [← same,found]
  refine typed.of_entries ?_ (fun h o found => .inl (old h _ found)) fun b l found => .inl (old b _ found)
  intro expected r refers
  refine refers.mono more fun o found => ?_
  rcases view r with lost | same
  · exact .inl (dies r o found lost)
  · exact .inr ⟨o,same.trans found,rfl⟩

/-- A call keeps the heap typed, when the objects that it ends are counted among the gone. -/
theorem Outcome.typed {α : Type} {result : Except Error α × Heap} (outcome : Outcome p heap result)
    (typed : Typed p gone heap) (built : p.Built) (addressable : p.Addressable) (more : ∀ k, gone k → later k)
    (dies : ∀ k o, heap.get? k = some (.object o) → result.2.get? k = none → later k) : Typed p later result.2 := by
  cases outcome with
  | refused e next same => exact typed.of_remaining more dies fun k => .inr (same k)
  | edited a next edits =>
    refine (edits.typed typed built addressable).of_remaining more ?_ fun k => .inr rfl
    intro k o found lost
    cases lost.symm.trans found
  | freed a h entry next found unowned done => exact typed.of_remaining more dies (get?_of_discard done)

/-- Every run keeps the heap typed, when all objects that were freed are counted among the gone. -/
theorem typed_after {calls : List (Call Value)} (built : p.Built) (addressable : p.Addressable) (sound : heap.Sound)
    (wellFormed : WellFormed p heap) (chronicled : heap.Chronicled log)
    (typed : Typed p (fun k => .freed k ∈ log) heap) (few : (heap.after p settings calls).slots.size < 2 ^ 32)
    (seldom : ∀ i, timesFreed i (log ++ heap.history p settings calls) ≤ 2 ^ 32 - 2) :
    Typed p (fun k => .freed k ∈ log ++ heap.history p settings calls) (heap.after p settings calls) := by
  induction calls generalizing heap log with
  | nil => simpa [history,after] using typed
  | cons c rest ih =>
    have fewNext := Nat.lt_of_le_of_lt (size_after built settings _ rest) few
    have evolves := respond_evolves built sound c fewNext
    have outcome := respond_outcome settings c built addressable wellFormed sound fewNext
    rw [history,← List.append_assoc] at seldom ⊢
    have chronicledNext := evolves.chronicled chronicled sound fewNext fun i =>
      Nat.le_trans (timesFreed_le_append _) (seldom i)
    refine ih (evolves.sound sound fewNext) (outcome.wellFormed wellFormed) chronicledNext ?_ few seldom
    refine outcome.typed typed built addressable (fun k freed => List.mem_append_left _ freed) ?_
    -- An object that the call ends was standing and no longer is, so the lives of the call have its end.
    intro k o found lost
    have standing := (chronicled.standing k).mp (Arena.isLive_iff.mpr ⟨_,found⟩)
    refine List.mem_append_right _ (standing.freed_of_not fun still => ?_)
    obtain ⟨entry,again⟩ := Arena.isLive_iff.mp ((chronicledNext.standing k).mpr still)
    cases lost.symm.trans again

/-- A value has the type of its feature: plain data of the kind, null or a reference that refers to the target class,
or a list. -/
def Conforms (p : Package) (gone : Handle → Prop) (heap : Heap) (kind : FeatureKind) (v : Value) : Prop :=
  match kind with
  | .data plain => v.kind? = some plain
  | .reference target false => ∃ t, p.classNamed? target = some t ∧
      (v = .null ∨ ∃ r, v = .object r ∧ Refers p gone heap t.id r)
  | .reference _ true => ∃ b, v = .list b

/-- Objects have a class that is not abstract and one value of the right type for each of its features, and lists
have elements of the right class. -/
structure TypeSound (p : Package) (gone : Handle → Prop) (heap : Heap) : Prop where
  objects : ∀ h o, heap.get? h = some (.object o) → ∃ cls, p.class? o.cls = some cls ∧ cls.isAbstract = false ∧
    o.fields.length = cls.featureCount.toNat ∧ ∀ (i : Nat) feature field, cls.features[i]? = some feature →
      o.fields[i]? = some field → Conforms p gone heap feature.kind field.value
  items : ∀ b l, heap.get? b = some (.list l) → ∀ x ∈ l.items, Refers p gone heap l.elementClass x

theorem Typed.typeSound (typed : Typed p gone heap) (wellFormed : WellFormed p heap) (built : p.Built)
    (addressable : p.Addressable) : TypeSound p gone heap := by
  refine ⟨?_,typed.items⟩
  intro h o found
  obtain ⟨cls,object⟩ := wellFormed.objects h o found
  have member := Package.class?_mem object.known
  have count : cls.featureCount.toNat = cls.features.length :=
    UInt32.toNat_ofNat_of_lt' (addressable.features cls member)
  refine ⟨cls,object.known,object.concrete,object.length.trans count.symm,?_⟩
  intro i feature field row there
  have fits := object.fits i feature field row there
  have proper := built.proper member (List.mem_of_getElem? row)
  unfold Feature.Proper at proper
  unfold Conforms
  cases isKind : feature.kind with
  | data plain =>
    rw [isKind] at fits
    exact fits.1
  | reference target many =>
    simp only [isKind] at proper
    rw [isKind] at fits
    cases many with
    | true =>
      obtain ⟨b,-,-,isList,-⟩ := fits
      exact ⟨b,isList⟩
    | false =>
      obtain ⟨-,t,named⟩ := proper
      refine ⟨t,named,fits.imp_right ?_⟩
      rintro ⟨r,isObject⟩
      exact ⟨r,isObject,typed.references h t r
        ⟨o,cls,i,feature,field,target,found,object.known,row,isKind,there,isObject,named⟩⟩

/-- The run destroyed what the handle referred to, and it refers to nothing afterwards. -/
def Destroyed (p : Package) (settings : HeapSettings) (calls : List (Call Value)) (k : Handle) : Prop :=
  .freed k ∈ Heap.empty.history p settings calls ∧ (Heap.empty.after p settings calls).isLive k = false

/-- After a run that lets no generation come round, what references and elements refer to is null, destroyed by the
run, or as it should be. -/
theorem typed_of_bounded {calls : List (Call Value)} (built : p.Built) (addressable : p.Addressable)
    (bounded : Bounded p settings calls) :
    Typed p (Destroyed p settings calls) (Heap.empty.after p settings calls) := by
  have nothing : Typed p (fun k => .freed k ∈ ([] : List Life)) .empty := by
    refine ⟨?_,?_⟩
    · rintro h t r ⟨o,cls,i,feature,field,target,found,-⟩
      simp at found
    · intro b l found
      simp at found
  have chronicled := chronicled_after built bounded
  have typed := typed_after built addressable sound_empty .empty chronicled_empty nothing bounded.few bounded.seldom
  refine typed.of_remaining (fun k freed => And.intro freed (chronicled.not_live_of_freed freed)) ?_ fun k => .inr rfl
  intro k o found lost
  cases lost.symm.trans found

/-- After every run that lets no generation come round the heap is sound in its types, where a reference may also be
to what the run destroyed. -/
theorem heap_type_sound (built : p.Built) (addressable : p.Addressable) (settings : HeapSettings)
    (calls : List (Call Value)) (bounded : Bounded p settings calls) :
    TypeSound p (Destroyed p settings calls) (Heap.empty.after p settings calls) :=
  (typed_of_bounded built addressable bounded).typeSound
    (wellFormed_after built addressable .empty sound_empty bounded.few) built addressable

/-- A leaf becomes a child of a node and the node's tag is destroyed. -/
def losesTag : List (Call Value) :=
  [.create ⟨1⟩,.create ⟨2⟩,.create ⟨0⟩,.pushBack (.ofSlot 1 1) (.ofSlot 2 1),
    .set (.ofSlot 0 1) ⟨0⟩ (.object (.ofSlot 4 1)),.destroy (.ofSlot 4 1)]

theorem heap_type_sound_losesTag :
    TypeSound forest (Destroyed forest {} losesTag) (Heap.empty.after forest {} losesTag) :=
  heap_type_sound forest_built forest_addressable {} losesTag (bounded_of_short (by decide) (by decide))

end HandleBridge.Heap
