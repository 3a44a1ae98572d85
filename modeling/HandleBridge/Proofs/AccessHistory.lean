import HandleBridge.Proofs.Frames
import HandleBridge.Proofs.OwnedEntries

/-!
Features as their history. What a feature holds and whether it counts as set is told by the last access that changed
it, and by the elements of its list if it has one; the accesses of a run are read off its calls and their answers.
-/

namespace HandleBridge

/-- An access that changes a feature. -/
inductive Access where
  | set (v : Value)
  | unset

namespace Access

/-- Whether the last access was a write. -/
def wasSet : Option Access → Bool
  | some (.set _) => true
  | _ => false

/-- Value that the last access left to a feature. -/
def leftTo (feature : Feature) : Option Access → Value
  | some (.set v) => v
  | _ => feature.default

end Access

/-- Last access to each feature of each object. -/
abbrev Accesses := Handle → FeatureId → Option Access

namespace Accesses

def none : Accesses := fun _ _ => .none

def write (last : Accesses) (h : Handle) (f : FeatureId) (access : Access) : Accesses :=
  fun k g => if k = h ∧ g = f then some access else last k g

/-- The accesses with those of a new object. -/
def start (last : Accesses) (made : Handle) (given : FeatureId → Option Access) : Accesses :=
  fun k g => if k = made then given g else last k g

/-- The accesses after a call: writing and reverting count when they succeed, a new object has none, and a copy has
those of the object that it is a copy of. -/
def noted (last : Accesses) : (c : Call Value) → Except Error c.Reply → Accesses
  | .set h f v,.ok _ => last.write h f (.set v)
  | .unset h f,.ok _ => last.write h f .unset
  | .create _,.ok made => last.start made fun _ => .none
  | .copy source,.ok made => last.start made (last source)
  | _,_ => last

theorem noted_error (last : Accesses) (c : Call Value) (e : Error) : last.noted c (.error e) = last := by
  cases c <;> rfl

end Accesses

/-- The field of a feature is what the last access left. -/
def Field.Reflects (field : Field) (feature : Feature) (latest : Option Access) : Prop :=
  field.isSet = Access.wasSet latest ∧ (feature.kind.isMany = false → field.value = Access.leftTo feature latest)

namespace Heap

variable {p : Package} {settings : HeapSettings} {heap next : Heap} {h k b made source : Handle} {f g : FeatureId}
  {v : Value} {o changed : ObjectData} {cls : ClassType} {feature : Feature} {last : Accesses} {c : Call Value}
  {xs : List Handle} {calls : List (Call Value)}

def accesses (p : Package) (settings : HeapSettings) (heap : Heap) (last : Accesses) : List (Call Value) → Accesses
  | [] => last
  | c :: rest =>
    accesses p settings (heap.respond p settings c).2 (last.noted c (heap.respond p settings c).1) rest

/-- All fields are what the last accesses left. -/
def Remembers (p : Package) (heap : Heap) (last : Accesses) : Prop :=
  ∀ h o f feature, objectFeature p heap h f = .ok (o,feature) → (o.field f).Reflects feature (last h f)

theorem described_of_class (described : objectFeature p heap h f = .ok (o,feature))
    (found : next.get? k = some (.object changed)) (sameClass : changed.cls = o.cls) :
    objectFeature p next k f = .ok (changed,feature) := by
  obtain ⟨-,cls,known,row⟩ := objectFeature_eq_ok_iff.mp described
  exact objectFeature_eq_ok_iff.mpr ⟨found,cls,sameClass ▸ known,row⟩

/-- A field that is still the same reflects the same access. -/
theorem Remembers.old (remembers : Remembers p heap last) (described : objectFeature p next k g = .ok (changed,feature))
    (found : heap.get? k = some (.object o)) (sameClass : changed.cls = o.cls)
    (sameField : changed.field g = o.field g) : (changed.field g).Reflects feature (last k g) := by
  rw [sameField]
  exact remembers k o g feature (described_of_class described found sameClass.symm)

theorem Remembers.congr (remembers : Remembers p heap last) (same : ∀ k, next.get? k = heap.get? k) :
    Remembers p next last := by
  intro k o g feature described
  have found := (objectFeature_eq_ok_iff.mp described).1
  exact remembers.old described ((same k).symm.trans found) rfl rfl

theorem Remembers.create (remembers : Remembers p heap last) (created : Created p heap made o cls next)
    (unmarked : o.Unmarked) : Remembers p next (last.start made fun _ => none) := by
  intro k changed g feature described
  unfold Accesses.start
  obtain ⟨found,other,known,row⟩ := objectFeature_eq_ok_iff.mp described
  by_cases new : k = made
  · subst new
    cases created.found.symm.trans found
    cases created.object.known.symm.trans known
    have inside : g.index.toNat < o.fields.length :=
      created.object.length.symm ▸ (List.getElem?_eq_some_iff.mp row).1
    have place : o.fields[g.index.toNat]? = some o.fields[g.index.toNat] := List.getElem?_eq_getElem inside
    rw [if_pos rfl]
    refine ⟨unmarked.field g,fun plain => ?_⟩
    rw [field_eq place]
    exact created.plain _ feature _ row place plain
  · rw [if_neg new]
    rcases created.others k new with same | ⟨-,-,t,-,isList⟩
    · exact remembers.old described (same.symm.trans found) rfl rfl
    · cases isList.symm.trans found

theorem Remembers.copy (remembers : Remembers p heap last) (wellFormed : WellFormed p heap)
    (found : heap.get? source = some (.object o)) (duplicated : Duplicated heap o made next) :
    Remembers p next (last.start made (last source)) := by
  intro k changed g feature described
  unfold Accesses.start
  have there := (objectFeature_eq_ok_iff.mp described).1
  by_cases new : k = made
  · subst new
    obtain ⟨copied,atCopy,sameClass,fields⟩ := duplicated.copy
    cases there.symm.trans atCopy
    have before := described_of_class described found sameClass.symm
    obtain ⟨inside,fits⟩ := wellFormed.inside before
    have row : o.fields[g.index.toNat]? = some o.fields[g.index.toNat] := List.getElem?_eq_getElem inside
    obtain ⟨own,place,sameMark,taken⟩ := fields _ _ row
    obtain ⟨marked,held⟩ := remembers source o g feature before
    rw [field_eq row] at marked held fits
    rw [if_pos rfl,field_eq place]
    refine ⟨sameMark.trans marked,fun plain => ?_⟩
    rw [← held plain]
    refine taken.eq_of_plain fun b isList => ?_
    rw [isList] at fits
    obtain ⟨target,-,-,isMany,-⟩ := fits.many_of_list
    exact FeatureKind.isMany_eq_false_iff.mp plain target isMany
  · rw [if_neg new]
    rcases duplicated.objects k changed there with same | old
    · exact absurd same new
    · exact remembers.old described old rfl rfl

/-- What a call that makes no object leaves behind an object's handle was there before. -/
theorem live_before (built : p.Built) (sound : heap.Sound)
    (few : (heap.respond p settings c).2.slots.size < 2 ^ 32) (old : ∀ cls, c ≠ .create cls)
    (original : ∀ source, c ≠ .copy source) (there : (heap.respond p settings c).2.get? k = some (.object changed)) :
    ∃ entry, heap.get? k = some entry := by
  cases neutral : c.isNeutral with
  | true =>
    have top : (heap.respond p settings c).2.Top k := ⟨.object changed,there,nofun⟩
    obtain ⟨entry,found,-⟩ := (top_of_evolves (respond_evolves_of_neutral built neutral) k).mp top
    exact ⟨entry,found⟩
  | false =>
    cases c with
    | create cls => exact absurd rfl (old cls)
    | copy source => exact absurd rfl (original source)
    | destroy h =>
      simp only [respond,answer,commit] at there
      cases done : destroy h heap with
      | error e => exact ⟨.object changed,by simpa [done] using there⟩
      | ok next =>
        rw [done] at there
        rcases entry_of_destroy done k with ⟨gone,-⟩ | same
        · cases gone.symm.trans there
        · exact ⟨.object changed,same.symm.trans there⟩
    | createList cls =>
      simp only [respond,answer,commitWith] at there few
      cases done : createList p settings cls heap with
      | error e => exact ⟨.object changed,by simpa [done] using there⟩
      | ok result =>
        rw [done] at there few
        obtain ⟨-,view⟩ := get?_alloc sound (createList_eq_ok done).2 few
        rw [view] at there
        split at there
        · cases there
        · exact ⟨.object changed,there⟩
    | _ => cases neutral

/-- An object was there before a call that does not make it, and only what is written is new about it. -/
theorem object_before (built : p.Built) (addressable : p.Addressable) (wellFormed : WellFormed p heap)
    (sound : heap.Sound) (few : (heap.respond p settings c).2.slots.size < 2 ^ 32) (old : ∀ cls, c ≠ .create cls)
    (original : ∀ source, c ≠ .copy source) (there : (heap.respond p settings c).2.get? k = some (.object changed)) :
    ∃ o, heap.get? k = some (.object o) ∧ changed.cls = o.cls ∧
      ∀ f, c.featureWritten ≠ some (k,f) → changed.field f = o.field f := by
  obtain ⟨entry,found⟩ := live_before built sound few old original there
  rcases entry_of_respond built addressable wellFormed sound few found with ⟨gone,-⟩ | ⟨now,still,left⟩
  · cases gone.symm.trans there
  · cases still.symm.trans there
    cases left with
    | same => exact ⟨changed,found,rfl,fun _ _ => rfl⟩
    | object sameClass fields => exact ⟨_,found,sameClass,fields⟩

/-- Writing or reverting a feature is its last access. -/
theorem Remembers.write {access : Access} (remembers : Remembers p heap last)
    (described : objectFeature p heap h f = .ok (o,feature))
    (accessed : Accessed next h o f feature (Access.leftTo feature (some access)) (Access.wasSet (some access)))
    (others : ∀ k changed, next.get? k = some (.object changed) → ∃ o, heap.get? k = some (.object o) ∧
      changed.cls = o.cls ∧ ∀ g, some (h,f) ≠ some (k,g) → changed.field g = o.field g) :
    Remembers p next (last.write h f access) := by
  intro k changed g row describedNow
  have there := (objectFeature_eq_ok_iff.mp describedNow).1
  unfold Accesses.write
  by_cases here : k = h ∧ g = f
  · obtain ⟨rfl,rfl⟩ := here
    obtain ⟨now,found,sameClass,field⟩ := accessed
    cases there.symm.trans found
    cases (described_of_class described found sameClass).symm.trans describedNow
    rw [if_pos ⟨rfl,rfl⟩,field]
    exact ⟨rfl,fun plain => by simp [plain]⟩
  · obtain ⟨old,found,sameClass,fields⟩ := others k changed there
    have elsewhere : some (h,f) ≠ some (k,g) := by
      rintro ⟨⟩
      exact here ⟨rfl,rfl⟩
    rw [if_neg here]
    exact remembers.old describedNow found sameClass (fields g elsewhere)

/-- What one call does to the fields is what it does to the accesses. -/
theorem Remembers.respond (remembers : Remembers p heap last) (settings : HeapSettings) (c : Call Value)
    (built : p.Built) (addressable : p.Addressable) (wellFormed : WellFormed p heap) (sound : heap.Sound)
    (few : (heap.respond p settings c).2.slots.size < 2 ^ 32) :
    Remembers p (heap.respond p settings c).2 (last.noted c (heap.respond p settings c).1) := by
  cases answered : (heap.respond p settings c).1 with
  | error e =>
    rw [Accesses.noted_error]
    exact remembers.congr (same_of_error built addressable wellFormed sound few answered)
  | ok reply =>
    have before {k : Handle} {changed : ObjectData} (old : ∀ cls, c ≠ .create cls) (original : ∀ source, c ≠ .copy source) :=
      @object_before p settings heap k changed c built addressable wellFormed sound few old original
    cases c with
    | create cls =>
      rcases create_spec settings cls built addressable wellFormed sound few with ⟨made,o,type,done,-,created⟩ | ⟨e,failed,-⟩
      · cases done.symm.trans answered
        exact remembers.create created (unmarked_create sound few (Prod.ext done rfl) created.found)
      · cases failed.symm.trans answered
    | copy source =>
      obtain ⟨o,found,duplicated⟩ := copy_eq_ok settings built addressable wellFormed sound few
        (Prod.ext answered rfl)
      exact remembers.copy wellFormed found duplicated
    | set h f v =>
      have done : set p h f v heap = .ok (heap.respond p settings (.set h f v)).2 := committed (Prod.ext answered rfl)
      obtain ⟨o,feature,described,-⟩ := set_eq_ok done
      exact remembers.write described (set_accessed wellFormed done described) fun k changed => before (by simp) (by simp)
    | unset h f =>
      cases described : objectFeature p heap h f with
      | error e => simp [Heap.respond,answer,unset,described] at answered
      | ok row =>
        obtain ⟨o,feature⟩ := row
        exact remembers.write described (unset_accessed wellFormed described) fun k changed => before (by simp) (by simp)
    | _ =>
      intro k changed g feature described
      obtain ⟨o,found,sameClass,fields⟩ := before (by simp) (by simp) (objectFeature_eq_ok_iff.mp described).1
      exact remembers.old described found sameClass (fields g (Option.some_ne_none (k,g)).symm)

/-- The fields after a run are what the accesses of the run left. -/
theorem Remembers.after {calls : List (Call Value)} (remembers : Remembers p heap last) (built : p.Built)
    (addressable : p.Addressable) (wellFormed : WellFormed p heap) (sound : heap.Sound)
    (few : (heap.after p settings calls).slots.size < 2 ^ 32) :
    Remembers p (heap.after p settings calls) (accesses p settings heap last calls) := by
  induction calls generalizing heap last with
  | nil => exact remembers
  | cons c rest ih =>
    have fewNext := Nat.lt_of_le_of_lt (size_after built settings _ rest) few
    obtain ⟨formed,steady⟩ := wellFormed_respond built addressable wellFormed sound fewNext
    exact ih (remembers.respond settings c built addressable wellFormed sound fewNext) formed steady few

theorem remembers_empty : Remembers p .empty .none := by
  intro h o f feature described
  obtain ⟨found,-⟩ := objectFeature_eq_ok_iff.mp described
  simp at found

/-! ### What is read -/

theorem respond_get (described : objectFeature p heap h f = .ok (o,feature)) (resolve : Bool) :
    heap.respond p settings (.get h f resolve) = (.ok (o.field f).value,heap) := by
  simp [respond,answer,observe,get,described,bind,Except.bind,pure,Except.pure]

theorem respond_isSet_of_plain (described : objectFeature p heap h f = .ok (o,feature))
    (plain : ∀ b, (o.field f).value ≠ .list b) :
    heap.respond p settings (.isSet h f) = (.ok (o.field f).isSet,heap) := by
  simp only [respond,answer,observe,isSet,described,bind,Except.bind,pure,Except.pure]
  split
  · rename_i marked
    rw [marked]
  · rename_i unmarked
    simp [unmarked]

theorem respond_isSet_of_list (described : objectFeature p heap h f = .ok (o,feature))
    (holds : (o.field f).value = .list b) (filled : heap.contents b = some xs) :
    heap.respond p settings (.isSet h f) = (.ok ((o.field f).isSet || !xs.isEmpty),heap) := by
  obtain ⟨l,atList,rfl⟩ := contents_eq_some_iff.mp filled
  have isList : heap.list b = .ok l := list_eq_ok_iff.mpr atList
  cases marked : (o.field f).isSet with
  | true => simp [respond,answer,observe,isSet,described,marked,bind,Except.bind,pure,Except.pure]
  | false => simp [respond,answer,observe,isSet,described,marked,holds,isList,bind,Except.bind,pure,Except.pure]

/-- What a feature that holds no list answers, given its last access. -/
structure PlainReflected (p : Package) (settings : HeapSettings) (heap : Heap) (h : Handle) (f : FeatureId)
    (feature : Feature) (latest : Option Access) : Prop where
  get : ∀ resolve, heap.respond p settings (.get h f resolve) = (.ok (Access.leftTo feature latest),heap)
  isSet : heap.respond p settings (.isSet h f) = (.ok (Access.wasSet latest),heap)

/-- What a feature with the list `b` answers, given its last access. -/
structure ListReflected (p : Package) (settings : HeapSettings) (heap : Heap) (h : Handle) (f : FeatureId)
    (latest : Option Access) (b : Handle) (xs : List Handle) : Prop where
  /-- The feature has the list from here to the end of its object. -/
  get : ∀ more resolve, (heap.after p settings more).slots.size < 2 ^ 32 → .destroy h ∉ more →
    ((heap.after p settings more).respond p settings (.get h f resolve)).1 = .ok (.list b)
  filled : heap.contents b = some xs
  isSet : heap.respond p settings (.isSet h f) = (.ok (Access.wasSet latest || !xs.isEmpty),heap)
  unset : ∃ next, heap.respond p settings (.unset h f) = (.ok (),next) ∧ next.contents b = some []
  set : ∀ s next, s ≠ b → heap.respond p settings (.set h f (.list s)) = (.ok (),next) →
    ∃ ys, heap.contents s = some ys ∧ next.contents b = some ys

/-- A call that neither destroys the object nor writes the feature or its list is not seen by those who read the
feature. -/
def Undisturbed (p : Package) (settings : HeapSettings) (heap : Heap) (h : Handle) (f : FeatureId) : Prop :=
  ∀ c, (heap.respond p settings c).2.slots.size < 2 ^ 32 → c ≠ .destroy h → c.featureWritten ≠ some (h,f) →
    (∀ b, heap.backing h f = some b → c.listChanged ≠ some b) →
    (∀ resolve, ((heap.respond p settings c).2.respond p settings (.get h f resolve)).1 =
      (heap.respond p settings (.get h f resolve)).1) ∧
    ((heap.respond p settings c).2.respond p settings (.isSet h f)).1 = (heap.respond p settings (.isSet h f)).1 ∧
    ∀ b, heap.backing h f = some b → (heap.respond p settings c).2.contents b = heap.contents b

theorem plain_of_single (wellFormed : WellFormed p heap) (described : objectFeature p heap h f = .ok (o,feature))
    (single : feature.kind.isMany = false) (b : Handle) : (o.field f).value ≠ .list b := by
  intro holds
  obtain ⟨-,fits⟩ := wellFormed.inside described
  rw [holds] at fits
  obtain ⟨target,-,-,isMany,-⟩ := fits.many_of_list
  exact FeatureKind.isMany_eq_false_iff.mp single target isMany

/-- A many-valued feature has a live list. -/
theorem list_of_many (wellFormed : WellFormed p heap) (described : objectFeature p heap h f = .ok (o,feature))
    (many : feature.kind.isMany = true) : ∃ b xs, (o.field f).value = .list b ∧ heap.contents b = some xs := by
  obtain ⟨-,fits⟩ := wellFormed.inside described
  cases isKind : feature.kind with
  | data kind => simp [isKind,FeatureKind.isMany] at many
  | reference target several =>
    cases several with
    | false => simp [isKind,FeatureKind.isMany] at many
    | true =>
      rw [isKind] at fits
      obtain ⟨b,l,-,holds,atList,-⟩ := fits
      exact ⟨b,l.items,holds,contents_of_get? atList⟩

/-- No call takes the list of a many-valued feature away from an object that lives on. -/
theorem list_of_respond (built : p.Built) (addressable : p.Addressable) (wellFormed : WellFormed p heap)
    (sound : heap.Sound) (few : (heap.respond p settings c).2.slots.size < 2 ^ 32)
    (described : objectFeature p heap h f = .ok (o,feature)) (many : feature.kind.isMany = true)
    (holds : (o.field f).value = .list b) (spared : c ≠ .destroy h) :
    ∃ changed, objectFeature p (heap.respond p settings c).2 h f = .ok (changed,feature) ∧
      (changed.field f).value = .list b := by
  have found := (objectFeature_eq_ok_iff.mp described).1
  have accessed {v : Value} {marked : Bool} (accessed : Accessed (heap.respond p settings c).2 h o f feature v marked) :
      ∃ changed, objectFeature p (heap.respond p settings c).2 h f = .ok (changed,feature) ∧
        (changed.field f).value = .list b := by
    obtain ⟨changed,there,sameClass,field⟩ := accessed
    exact ⟨changed,described_of_class described there sameClass,by simp [field,many,holds]⟩
  by_cases written : c.featureWritten = some (h,f)
  · cases c with
    | set k g v =>
      cases written
      cases answered : (heap.respond p settings (.set h f v)).1 with
      | error e =>
        have same := same_of_error built addressable wellFormed sound few answered h
        exact ⟨o,described_of_class described (same.trans found) rfl,holds⟩
      | ok reply =>
        exact accessed (set_accessed wellFormed (committed (Prod.ext answered rfl)) described)
    | unset k g =>
      cases written
      exact accessed (unset_accessed wellFormed described)
    | _ => cases written
  · obtain ⟨changed,there,sameClass,fields⟩ :=
      object_of_respond built addressable wellFormed sound few found spared
    exact ⟨changed,described_of_class described there sameClass,by rw [fields f written,holds]⟩

theorem list_of_after (built : p.Built) (addressable : p.Addressable) (wellFormed : WellFormed p heap)
    (sound : heap.Sound) (few : (heap.after p settings calls).slots.size < 2 ^ 32)
    (described : objectFeature p heap h f = .ok (o,feature)) (many : feature.kind.isMany = true)
    (holds : (o.field f).value = .list b) (spared : .destroy h ∉ calls) :
    ∃ changed, objectFeature p (heap.after p settings calls) h f = .ok (changed,feature) ∧
      (changed.field f).value = .list b := by
  induction calls generalizing heap o with
  | nil => exact ⟨o,described,holds⟩
  | cons c rest ih =>
    have fewNext := Nat.lt_of_le_of_lt (size_after built settings _ rest) few
    rw [List.mem_cons,not_or] at spared
    obtain ⟨now,later⟩ := spared
    obtain ⟨changed,describedNext,holdsNext⟩ :=
      list_of_respond built addressable wellFormed sound fewNext described many holds (Ne.symm now)
    obtain ⟨formed,steady⟩ := wellFormed_respond built addressable wellFormed sound fewNext
    exact ih formed steady few describedNext holdsNext later

/-! ### The whole run -/

theorem Remembers.plain (remembers : Remembers p heap last) (wellFormed : WellFormed p heap)
    (described : objectFeature p heap h f = .ok (o,feature)) (single : feature.kind.isMany = false) :
    PlainReflected p settings heap h f feature (last h f) := by
  obtain ⟨marked,held⟩ := remembers h o f feature described
  refine ⟨fun resolve => ?_,?_⟩
  · rw [respond_get described,held single]
  · rw [respond_isSet_of_plain described (plain_of_single wellFormed described single),marked]

theorem Remembers.list (remembers : Remembers p heap last) (built : p.Built) (addressable : p.Addressable)
    (wellFormed : WellFormed p heap) (sound : heap.Sound) (described : objectFeature p heap h f = .ok (o,feature))
    (many : feature.kind.isMany = true) : ∃ b xs, ListReflected p settings heap h f (last h f) b xs := by
  obtain ⟨b,xs,holds,filled⟩ := list_of_many wellFormed described many
  obtain ⟨marked,-⟩ := remembers h o f feature described
  have backs : heap.backing h f = some b :=
    backing_eq_some_iff.mpr ⟨o,(objectFeature_eq_ok_iff.mp described).1,holds⟩
  refine ⟨b,xs,?_,filled,?_,?_,?_⟩
  · intro more resolve few spared
    obtain ⟨changed,describedNow,holdsNow⟩ :=
      list_of_after built addressable wellFormed sound few described many holds spared
    rw [respond_get describedNow,holdsNow]
  · rw [respond_isSet_of_list described holds filled,marked]
  · exact ⟨_,Prod.ext (unset_succeeds wellFormed described) rfl,unset_contents wellFormed described backs⟩
  · intro s next other done
    obtain ⟨t,isList,live,taken⟩ := set_contents (committed done) backs wellFormed
    cases isList
    obtain ⟨ys,found⟩ := Option.ne_none_iff_exists'.mp live
    exact ⟨ys,found,taken.trans found⟩

/-- A list that a feature has is written through that feature and by operations on the list only. -/
theorem listWritten_ne (wellFormed : WellFormed p heap) (backs : heap.backing h f = some b)
    (unwritten : c.featureWritten ≠ some (h,f)) (unchanged : c.listChanged ≠ some b) : heap.listWritten c ≠ some b := by
  cases c with
  | set k g v =>
    intro same
    obtain ⟨rfl,rfl⟩ := wellFormed.backing_inj backs same
    exact unwritten rfl
  | unset k g =>
    intro same
    obtain ⟨rfl,rfl⟩ := wellFormed.backing_inj backs same
    exact unwritten rfl
  | _ => exact unchanged

theorem undisturbed (built : p.Built) (addressable : p.Addressable) (wellFormed : WellFormed p heap)
    (sound : heap.Sound) (described : objectFeature p heap h f = .ok (o,feature)) :
    Undisturbed p settings heap h f := by
  intro c few spared unwritten unchanged
  have found := (objectFeature_eq_ok_iff.mp described).1
  obtain ⟨changed,there,sameClass,fields⟩ := object_of_respond built addressable wellFormed sound few found spared
  obtain ⟨formed,-⟩ := wellFormed_respond built addressable wellFormed sound few
  have describedNow := described_of_class described there sameClass
  have field : changed.field f = o.field f := fields f unwritten
  have kept : ∀ b, heap.backing h f = some b → (heap.respond p settings c).2.contents b = heap.contents b := by
    intro b backs
    obtain ⟨l,atList,-⟩ := wellFormed.backed backs
    have backsNow : (heap.respond p settings c).2.backing h f = some b := by
      obtain ⟨o',found',holds⟩ := backing_eq_some_iff.mp backs
      cases found.symm.trans found'
      exact backing_eq_some_iff.mpr ⟨changed,there,field ▸ holds⟩
    obtain ⟨now,still,-⟩ := formed.backed backsNow
    rw [contents_of_get? atList]
    exact contents_of_respond built addressable wellFormed sound few (contents_of_get? atList)
      (listWritten_ne wellFormed backs unwritten (unchanged b backs)) (Arena.isLive_iff.mpr ⟨_,still⟩)
  refine ⟨fun resolve => ?_,?_,kept⟩
  · rw [respond_get describedNow,respond_get described,field]
  · cases single : feature.kind.isMany with
    | false =>
      have plain := plain_of_single wellFormed described single
      rw [respond_isSet_of_plain describedNow (field ▸ plain),respond_isSet_of_plain described plain,field]
    | true =>
      obtain ⟨b,xs,holds,filled⟩ := list_of_many wellFormed described single
      have same := kept b (backing_eq_some_iff.mpr ⟨o,found,holds⟩)
      rw [respond_isSet_of_list describedNow (field ▸ holds) (same.trans filled),
        respond_isSet_of_list described holds filled,field]

/-- After every run, what is read of a feature is told by the last access to it, and other calls do not disturb it. -/
theorem access_reflects_history (built : p.Built) (addressable : p.Addressable) (settings : HeapSettings)
    (calls : List (Call Value)) (few : (Heap.empty.after p settings calls).slots.size < 2 ^ 32)
    (described : objectFeature p (Heap.empty.after p settings calls) h f = .ok (o,feature)) :
    (feature.kind.isMany = false → PlainReflected p settings (Heap.empty.after p settings calls) h f feature
      (accesses p settings .empty .none calls h f)) ∧
    (feature.kind.isMany = true → ∃ b xs, ListReflected p settings (Heap.empty.after p settings calls) h f
      (accesses p settings .empty .none calls h f) b xs) ∧
    Undisturbed p settings (Heap.empty.after p settings calls) h f := by
  have sound := sound_after built calls few
  have wellFormed := wellFormed_after built addressable .empty sound_empty few
  have remembers := remembers_empty.after built addressable .empty sound_empty few
  refine ⟨?_,?_,?_⟩
  · intro single
    exact remembers.plain wellFormed described single
  · intro many
    exact remembers.list built addressable wellFormed sound described many
  · exact undisturbed built addressable wellFormed sound described

/-- The tag of a node is set before the node is copied and reverted afterwards: the copy still has it. -/
theorem access_reflects_history_of_copy :
    ∃ o feature,
      let calls := [.create ⟨0⟩,.create ⟨1⟩,.set (.ofSlot 1 1) ⟨0⟩ (.object (.ofSlot 0 1)),.copy (.ofSlot 1 1),
        .unset (.ofSlot 1 1) ⟨0⟩]
      objectFeature forest (Heap.empty.after forest {} calls) (.ofSlot 3 1) ⟨0⟩ = .ok (o,feature) ∧
        PlainReflected forest {} (Heap.empty.after forest {} calls) (.ofSlot 3 1) ⟨0⟩ feature
          (some (.set (.object (.ofSlot 0 1)))) :=
  ⟨_,_,rfl,(access_reflects_history forest_built forest_addressable {} _ (by decide) rfl).1 rfl⟩

end Heap

end HandleBridge
