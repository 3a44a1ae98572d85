import HandleBridge.Proofs.AccessHistory
import HandleBridge.Proofs.CommonErrors
import HandleBridge.Proofs.Failures

/-!
What is read from an object: its class, its features, and the elements of the lists behind them. Only calls about the
object or about one of these lists change any of it (`preserved_of_respond`), over any number of other calls
(`preserved_of_after`).
-/

namespace HandleBridge

namespace Call

variable {V : Type} {c : Call V} {h b : Handle} {f : FeatureId}

theorem target_of_featureWritten (written : c.featureWritten = some (h,f)) : c.target = h := by
  cases c <;> cases written <;> rfl

theorem target_of_listChanged (changed : c.listChanged = some b) : c.target = b := by
  cases c <;> cases changed <;> rfl

end Call

namespace Heap

variable {p : Package} {settings : HeapSettings} {heap middle next : Heap} {h k b : Handle} {f : FeatureId}
  {o copied changed : ObjectData} {l : ListData} {c : Call Value}

/-- Whether a call is about the object `h` or about a list behind one of its features. -/
def About (heap : Heap) (h : Handle) (c : Call Value) : Prop :=
  c.target = h ∨ ∃ f, heap.backing h f = some c.target

/-- All that is read from the object and from its lists is read in a later heap too. -/
def ReadsAs (p : Package) (settings : HeapSettings) (heap : Heap) (h : Handle) (next : Heap) : Prop :=
  ∀ c, observes c = true → heap.About h c → (next.respond p settings c).1 = (heap.respond p settings c).1

/-- The object `k` of one heap has the class, the marks and the values of the object `h` of another; its lists may be
other ones with the same elements. -/
structure Like (heap : Heap) (h : Handle) (o : ObjectData) (next : Heap) (k : Handle) (copied : ObjectData) :
    Prop where
  found : heap.get? h = some (.object o)
  there : next.get? k = some (.object copied)
  sameClass : copied.cls = o.cls
  marks : ∀ f, (copied.field f).isSet = (o.field f).isSet
  values : ∀ f, TakenOver heap next (o.field f).value (copied.field f).value

namespace Like

theorem classOf (like : Like heap h o next k copied) :
    (next.respond p settings (.classOf k)).1 = (heap.respond p settings (.classOf h)).1 := by
  simp only [respond,answer,observe,object_eq_ok_iff.mpr like.found,object_eq_ok_iff.mpr like.there,Except.map,
    like.sameClass]

/-- Objects of one class have the same features, and the same features are out of range. -/
theorem objectFeature (like : Like heap h o next k copied) (f : FeatureId) :
    objectFeature p next k f = (objectFeature p heap h f).map fun described => (copied,described.2) := by
  simp only [Heap.objectFeature,object_eq_ok_iff.mpr like.found,object_eq_ok_iff.mpr like.there,bind,Except.bind,
    like.sameClass]
  cases p.require o.cls with
  | error e => rfl
  | ok cls =>
    dsimp only
    cases cls.feature f <;> rfl

theorem described {other : ObjectData} {feature : Feature} (like : Like heap h o next k copied)
    (described : Heap.objectFeature p heap h f = .ok (other,feature)) :
    other = o ∧ Heap.objectFeature p next k f = .ok (copied,feature) := by
  obtain ⟨atObject,-⟩ := objectFeature_eq_ok_iff.mp described
  cases like.found.symm.trans atObject
  exact ⟨rfl,described_of_class described like.there like.sameClass⟩

/-- Features with the same value read the same. -/
theorem get (like : Like heap h o next k copied) (same : (copied.field f).value = (o.field f).value) (resolve : Bool) :
    (next.respond p settings (.get k f resolve)).1 = (heap.respond p settings (.get h f resolve)).1 := by
  cases described : Heap.objectFeature p heap h f with
  | error e =>
    have refused := like.objectFeature (p := p) f
    rw [described] at refused
    simp only [respond,answer,observe,Heap.get,described,refused,bind,Except.bind,Except.map]
  | ok row =>
    obtain ⟨other,feature⟩ := row
    obtain ⟨rfl,describedCopy⟩ := like.described described
    rw [respond_get described,respond_get describedCopy,same]

/-- A list counts for whether a feature is set, and it does so by its elements. -/
theorem isSet (like : Like heap h o next k copied) (wellFormed : WellFormed p heap) (f : FeatureId) :
    (next.respond p settings (.isSet k f)).1 = (heap.respond p settings (.isSet h f)).1 := by
  cases described : Heap.objectFeature p heap h f with
  | error e =>
    have refused := like.objectFeature (p := p) f
    rw [described] at refused
    simp only [respond,answer,observe,Heap.isSet,described,refused,bind,Except.bind,Except.map]
  | ok row =>
    obtain ⟨other,feature⟩ := row
    obtain ⟨rfl,describedCopy⟩ := like.described described
    have taken := like.values f
    by_cases isList : ∃ b, (other.field f).value = .list b
    · obtain ⟨b,holds⟩ := isList
      obtain ⟨l,atList,-⟩ := wellFormed.backed (backing_eq_some_iff.mpr ⟨other,like.found,holds⟩)
      have filled := contents_of_get? atList
      rw [holds] at taken
      obtain ⟨own,holdsOwn,sameItems⟩ := taken
      rw [respond_isSet_of_list described holds filled,
        respond_isSet_of_list describedCopy holdsOwn (sameItems.trans filled),like.marks]
    · have plain : ∀ b, (other.field f).value ≠ .list b := fun b holds => isList ⟨b,holds⟩
      have same := taken.eq_of_plain plain
      rw [respond_isSet_of_plain described plain,respond_isSet_of_plain describedCopy (same ▸ plain),like.marks]

end Like

theorem object_of_list (found : heap.get? b = some (.list l)) : heap.object b = .error .listForObject := by
  rw [object,find_eq_ok_iff.mpr found]
  rfl

theorem list_of_object (found : heap.get? h = some (.object o)) : heap.list h = .error (.notAList h) := by
  rw [list,find_eq_ok_iff.mpr found]
  rfl

/-- A list that is as it was answers as before. -/
theorem replies_of_list (before : heap.get? b = some (.list l)) (after : next.get? b = some (.list l))
    (looks : observes c = true) (target : c.target = b) :
    (next.respond p settings c).1 = (heap.respond p settings c).1 := by
  have items : next.list b = heap.list b := by rw [list_eq_ok_iff.mpr before,list_eq_ok_iff.mpr after]
  have refused : next.object b = heap.object b := by rw [object_of_list before,object_of_list after]
  cases c with
  | upcast k =>
    obtain rfl : k = b := target
    simp only [respond,answer,observe,refused]
  | classOf k =>
    obtain rfl : k = b := target
    simp only [respond,answer,observe,refused]
  | get k f resolve =>
    obtain rfl : k = b := target
    simp only [respond,answer,observe,get,objectFeature,refused]
  | isSet k f =>
    obtain rfl : k = b := target
    simp only [respond,answer,observe,isSet,objectFeature,object_of_list before,object_of_list after,bind,Except.bind]
  | listSize k =>
    obtain rfl : k = b := target
    simp only [respond,answer,observe,listSize,items]
  | listAt k i =>
    obtain rfl : k = b := target
    simp only [respond,answer,observe,listAt,items]
  | _ => cases looks

/-- The object has the class, the fields and the lists that it had, and its lists are as they were. -/
structure Preserved (heap : Heap) (h : Handle) (next : Heap) : Prop where
  object : ∃ o changed, heap.get? h = some (.object o) ∧ next.get? h = some (.object changed) ∧
    changed.cls = o.cls ∧ ∀ f, changed.field f = o.field f
  lists : ∀ f b, heap.backing h f = some b → next.get? b = heap.get? b

namespace Preserved

theorem backing (preserved : Preserved heap h next) (f : FeatureId) : next.backing h f = heap.backing h f := by
  obtain ⟨o,changed,found,there,-,fields⟩ := preserved.object
  simp only [Heap.backing,found,there,fields]

theorem refl (found : heap.get? h = some (.object o)) : Preserved heap h heap :=
  ⟨⟨o,o,found,found,rfl,fun _ => rfl⟩,fun _ _ _ => rfl⟩

/-- Where every entry stays, so does the object with its lists. -/
theorem of_kept (wellFormed : WellFormed p heap) (kept : ∀ k entry, heap.get? k = some entry → next.get? k = some entry)
    (found : heap.get? h = some (.object o)) : Preserved heap h next := by
  refine ⟨⟨o,o,found,kept h _ found,rfl,fun _ => rfl⟩,?_⟩
  intro f b backs
  obtain ⟨l,atList,-⟩ := wellFormed.backed backs
  exact (kept b _ atList).trans atList.symm

theorem trans (first : Preserved heap h middle) (second : Preserved middle h next) : Preserved heap h next := by
  obtain ⟨o,between,found,there,sameClass,fields⟩ := first.object
  obtain ⟨between',changed,there',still,again,further⟩ := second.object
  cases there.symm.trans there'
  refine ⟨⟨o,changed,found,still,again.trans sameClass,fun f => (further f).trans (fields f)⟩,?_⟩
  intro f b backs
  have backsThen : middle.backing h f = some b := (first.backing f).trans backs
  exact (second.lists f b backsThen).trans (first.lists f b backs)

theorem like (preserved : Preserved heap h next) : ∃ o changed, Like heap h o next h changed ∧
    ∀ f, changed.field f = o.field f := by
  obtain ⟨o,changed,found,there,sameClass,fields⟩ := preserved.object
  refine ⟨o,changed,⟨found,there,sameClass,fun f => by rw [fields],?_⟩,fields⟩
  intro f
  rw [fields]
  unfold TakenOver
  split
  · rename_i b holds
    exact ⟨b,holds,contents_congr (preserved.lists f b (backing_eq_some_iff.mpr ⟨o,found,holds⟩))⟩
  · rfl

/-- All that is read from a preserved object is read as before. -/
theorem readsAs (preserved : Preserved heap h next) (wellFormed : WellFormed p heap) :
    ReadsAs p settings heap h next := by
  intro c looks about
  obtain ⟨o,changed,like,fields⟩ := preserved.like
  rcases about with target | ⟨f,backs⟩
  · have refused : next.list h = heap.list h := by rw [list_of_object like.found,list_of_object like.there]
    cases c with
    | upcast k =>
      obtain rfl : k = h := target
      simp only [respond,answer,observe,object_eq_ok_iff.mpr like.found,object_eq_ok_iff.mpr like.there,Except.map]
    | classOf k =>
      obtain rfl : k = h := target
      exact like.classOf
    | get k f resolve =>
      obtain rfl : k = h := target
      exact like.get (by rw [fields]) resolve
    | isSet k f =>
      obtain rfl : k = h := target
      exact like.isSet wellFormed f
    | listSize k =>
      obtain rfl : k = h := target
      simp only [respond,answer,observe,listSize,refused]
    | listAt k i =>
      obtain rfl : k = h := target
      simp only [respond,answer,observe,listAt,refused]
    | _ => cases looks
  · obtain ⟨l,atList,-⟩ := wellFormed.backed backs
    exact replies_of_list atList ((preserved.lists f _ backs).trans atList) looks rfl

end Preserved

/-- Where every entry stays, all that is asked of a live handle is answered as before. -/
theorem replies_of_kept (wellFormed : WellFormed p heap)
    (kept : ∀ k entry, heap.get? k = some entry → next.get? k = some entry) (live : heap.isLive k = true)
    (looks : observes c = true) (target : c.target = k) :
    (next.respond p settings c).1 = (heap.respond p settings c).1 := by
  obtain ⟨entry,found⟩ := Arena.isLive_iff.mp live
  cases entry with
  | object o => exact (Preserved.of_kept wellFormed kept found).readsAs wellFormed c looks (.inl target)
  | list l => exact replies_of_list found (kept k _ found) looks target

section
variable (built : p.Built) (addressable : p.Addressable)
include built addressable

/-- A call that is neither about an object nor about its lists preserves it. -/
theorem preserved_of_respond (wellFormed : WellFormed p heap) (sound : heap.Sound)
    (few : (heap.respond p settings c).2.slots.size < 2 ^ 32) (found : heap.get? h = some (.object o))
    (elsewhere : ¬ heap.About h c) : Preserved heap h (heap.respond p settings c).2 := by
  have spared : c.target ≠ h := fun here => elsewhere (.inl here)
  have spares : ∀ f b, heap.backing h f = some b → c.target ≠ b := by
    rintro f b backs rfl
    exact elsewhere (.inr ⟨f,backs⟩)
  have unwritten : ∀ f, c.featureWritten ≠ some (h,f) :=
    fun f written => spared (Call.target_of_featureWritten written)
  have kept : c ≠ .destroy h := by
    rintro rfl
    exact spared rfl
  obtain ⟨changed,there,sameClass,fields⟩ := object_of_respond built addressable wellFormed sound few found kept
  refine ⟨⟨o,changed,found,there,sameClass,fun f => fields f (unwritten f)⟩,?_⟩
  intro f b backs
  obtain ⟨l,atList,owned⟩ := wellFormed.backed backs
  rw [atList]
  rcases entry_of_respond built addressable wellFormed sound few atList with ⟨-,destroyed⟩ | ⟨now,still,left⟩
  · -- The list is not destroyed itself, and its owner is the object.
    rcases destroyed with rfl | ⟨k,rfl,l',atList',owned'⟩
    · exact absurd rfl (spares f b backs)
    · cases atList.symm.trans atList'
      cases owned.symm.trans owned'
      exact absurd rfl spared
  · cases left with
    | same => exact still
    | items written =>
      have unchanged : c.listChanged ≠ some b := fun changed => spares f b backs (Call.target_of_listChanged changed)
      exact absurd written (listWritten_ne wellFormed backs (unwritten f) unchanged)

/-- No run preserves an object less than its calls do. -/
theorem preserved_of_after {calls : List (Call Value)} (wellFormed : WellFormed p heap) (sound : heap.Sound)
    (few : (heap.after p settings calls).slots.size < 2 ^ 32) (found : heap.get? h = some (.object o))
    (elsewhere : Throughout p settings (fun now c _ => ¬ now.About h c) heap calls) :
    Preserved heap h (heap.after p settings calls) := by
  induction calls generalizing heap o with
  | nil => exact .refl found
  | cons c rest ih =>
    obtain ⟨now,later⟩ := elsewhere
    have fewNext := Nat.lt_of_le_of_lt (size_after built settings _ rest) few
    have preserved := preserved_of_respond built addressable wellFormed sound fewNext found now
    obtain ⟨formed,steady⟩ := wellFormed_respond built addressable wellFormed sound fewNext
    obtain ⟨-,changed,-,there,-⟩ := preserved.object
    exact preserved.trans (ih formed steady few there later)

end

/-- A call about an object or its lists is not about another object or the lists of that. -/
theorem not_about_of_about (wellFormed : WellFormed p heap) (distinct : h ≠ k)
    (found : heap.get? h = some (.object o)) (there : heap.get? k = some (.object copied)) (about : heap.About h c) :
    ¬ heap.About k c := by
  have object_ne_list : ∀ {h k : Handle} {o : ObjectData} {f : FeatureId}, heap.get? h = some (.object o) →
      heap.backing k f ≠ some h := by
    intro h k o f found backs
    obtain ⟨l,atList,-⟩ := wellFormed.backed backs
    cases found.symm.trans atList
  rcases about with target | ⟨f,backs⟩
  · subst target
    rintro (same | ⟨g,backs⟩)
    · exact distinct same
    · exact object_ne_list found backs
  · rintro (same | ⟨g,backs'⟩)
    · exact object_ne_list there (same ▸ backs)
    · exact distinct (wellFormed.backing_inj backs backs').1.symm

/-- What is read from the object `k` does not change by what is done to the object `h`. -/
structure Independent (p : Package) (settings : HeapSettings) (heap : Heap) (h k : Handle) : Prop where
  call : ∀ c, (heap.respond p settings c).2.slots.size < 2 ^ 32 → heap.About h c →
    ReadsAs p settings heap k (heap.respond p settings c).2
  /-- Over any number of calls, those about `h` and its lists among them, only calls about `k` and its lists count. -/
  run : ∀ calls, (heap.after p settings calls).slots.size < 2 ^ 32 →
    Throughout p settings (fun now c _ => ¬ now.About k c) heap calls →
    ReadsAs p settings heap k (heap.after p settings calls)

/-- Any two objects are independent. -/
theorem independent_of_ne (settings : HeapSettings) (built : p.Built) (addressable : p.Addressable)
    (wellFormed : WellFormed p heap) (sound : heap.Sound) (distinct : h ≠ k)
    (found : heap.get? h = some (.object o)) (there : heap.get? k = some (.object copied)) :
    Independent p settings heap h k := by
  refine ⟨?_,?_⟩
  · intro c few about
    have elsewhere := not_about_of_about wellFormed distinct found there about
    exact (preserved_of_respond built addressable wellFormed sound few there elsewhere).readsAs wellFormed
  · intro calls few elsewhere
    exact (preserved_of_after built addressable wellFormed sound few there elsewhere).readsAs wellFormed

end Heap

end HandleBridge
