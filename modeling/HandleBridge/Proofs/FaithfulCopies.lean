import HandleBridge.Proofs.Capacity
import HandleBridge.Proofs.Readings
import HandleBridge.Proofs.Sequences

/-!
Copies as their callers see them. Copying fails when there is no object to copy or no room for the copy, and for
nothing else. A copy is read like its source, but that its lists are its own; nothing else is read differently for it,
and from then on the two are independent.
-/

namespace HandleBridge.Heap

variable {p : Package} {settings : HeapSettings} {heap next : Heap} {h made b : Handle} {f : FeatureId}
  {o copied : ObjectData} {feature : Feature} {e : Error} {cls : ClassType}

/-- Error of an allocation in a heap with a limit. -/
inductive Exhausts (settings : HeapSettings) : Error → Prop
  | full (limit : UInt64) (bounded : settings.maxObjects = some limit) : Exhausts settings (.heapExhausted limit)

/-- Why the object behind a handle cannot be copied. -/
inductive Uncopied (settings : HeapSettings) (heap : Heap) (h : Handle) : Error → Prop
  | nullHandle (isNull : h.isNull = true) : Uncopied settings heap h .nullHandle
  | staleHandle (dead : heap.Dead h) : Uncopied settings heap h (.staleHandle h)
  | list (l : ListData) (atList : heap.get? h = some (.list l)) : Uncopied settings heap h .listForObject
  | full (o : ObjectData) (found : heap.get? h = some (.object o)) (e : Error) (exhausts : Exhausts settings e) :
      Uncopied settings heap h e

theorem Overflows.exhausts {entries : Nat} (overflows : Overflows settings entries e) : Exhausts settings e := by
  obtain ⟨limit,bounded,-⟩ := overflows
  exact .full limit bounded

theorem object_uncopied : FailsOnly (Uncopied settings heap h) (heap.object h) := by
  intro e failed
  by_cases isNull : h.isNull = true
  · have found : heap.find h = .error .nullHandle := by rw [find,if_pos isNull]
    rw [object,found] at failed
    cases failed
    exact .nullHandle isNull
  · cases there : heap.get? h with
    | none =>
      have found : heap.find h = .error (.staleHandle h) := by rw [find,if_neg isNull,there]
      rw [object,found] at failed
      cases failed
      exact .staleHandle ⟨by simpa using isNull,there⟩
    | some entry =>
      cases entry with
      | object o =>
        rw [object_eq_ok_iff.mpr there] at failed
        cases failed
      | list l =>
        rw [object_of_list there] at failed
        cases failed
        exact .list l there

/-- Copying fails only because of its source or for want of room. -/
theorem copy_uncopied (built : p.Built) (addressable : p.Addressable) (wellFormed : WellFormed p heap)
    (sound : heap.Sound) (few : (copy p settings h heap).2.slots.size < 2 ^ 32) :
    FailsOnly (Uncopied settings heap h) (copy p settings h heap).1 := by
  intro e failed
  cases there : heap.object h with
  | error absent =>
    simp only [copy,there] at failed
    cases failed
    exact object_uncopied e there
  | ok o =>
    have found := object_eq_ok_iff.mp there
    obtain ⟨cls,object⟩ := wellFormed.objects h o found
    obtain ⟨answer,fewCreated⟩ := copy_of_create built addressable wellFormed sound found few
    have overflows := create_overflows built sound object.known object.concrete fewCreated e (answer.symm.trans failed)
    exact .full o found e overflows.exhausts

/-- The object `made` as a copy of the object `h`, in the heap after copying. -/
structure Faithful (p : Package) (settings : HeapSettings) (heap : Heap) (h made : Handle) (next : Heap) : Prop where
  /-- Neither the copy nor any of its lists was there before. -/
  fresh : heap.isLive made = false ∧ ∀ f b, next.backing made f = some b → heap.isLive b = false
  classOf : ∃ c, (next.respond p settings (.classOf h)).1 = .ok c ∧ (next.respond p settings (.classOf made)).1 = .ok c
  isSet : ∀ f, (next.respond p settings (.isSet made f)).1 = (next.respond p settings (.isSet h f)).1
  /-- Attributes and single references have the same values. -/
  plain : ∀ f o feature, objectFeature p next h f = .ok (o,feature) → feature.kind.isMany = false → ∃ v,
    ∀ resolve, (next.respond p settings (.get h f resolve)).1 = .ok v ∧
      (next.respond p settings (.get made f resolve)).1 = .ok v
  /-- Many-valued features have different lists with the same elements, be they alive or not. -/
  lists : ∀ f o feature, objectFeature p next h f = .ok (o,feature) → feature.kind.isMany = true → ∃ b c xs,
    (∀ resolve, (next.respond p settings (.get h f resolve)).1 = .ok (.list b) ∧
      (next.respond p settings (.get made f resolve)).1 = .ok (.list c)) ∧
    next.Owns h b ∧ next.Owns made c ∧ b ≠ c ∧ next.contents b = some xs ∧ next.contents c = some xs
  /-- Every entry that was there is there unchanged. -/
  kept : ∀ k entry, heap.get? k = some entry → next.get? k = some entry
  /-- All that is asked of a handle that was live is answered as before. -/
  replies : ∀ k c, heap.isLive k = true → observes c = true → c.target = k →
    (next.respond p settings c).1 = (heap.respond p settings c).1

theorem TakenOver.of_source {value own : Value} (taken : TakenOver heap next value own)
    (same : ∀ b, value = .list b → next.contents b = heap.contents b) : TakenOver next next value own := by
  unfold TakenOver at taken ⊢
  split at taken
  · rename_i b
    obtain ⟨c,isList,filled⟩ := taken
    exact ⟨c,isList,filled.trans (same b rfl).symm⟩
  · exact taken

/-- Fields beyond the feature table are all the same. -/
theorem field_of_beyond (beyond : o.fields[f.index.toNat]? = none) : o.field f = ⟨.null,false⟩ := by
  simp [ObjectData.field,beyond]

section
variable {other : ObjectData}

theorem Like.plainValues (like : Like next h o next made copied) (formed : WellFormed p next)
    (described : Heap.objectFeature p next h f = .ok (other,feature)) (single : feature.kind.isMany = false) : ∃ v,
    ∀ resolve, (next.respond p settings (.get h f resolve)).1 = .ok v ∧
      (next.respond p settings (.get made f resolve)).1 = .ok v := by
  obtain ⟨rfl,describedCopy⟩ := like.described described
  have same := (like.values f).eq_of_plain (plain_of_single formed described single)
  refine ⟨_,fun resolve => ⟨by rw [respond_get described],?_⟩⟩
  rw [respond_get describedCopy,same]

theorem Like.ownLists (like : Like next h o next made copied) (formed : WellFormed p next) (distinct : made ≠ h)
    (described : Heap.objectFeature p next h f = .ok (other,feature)) (many : feature.kind.isMany = true) : ∃ b c xs,
    (∀ resolve, (next.respond p settings (.get h f resolve)).1 = .ok (.list b) ∧
      (next.respond p settings (.get made f resolve)).1 = .ok (.list c)) ∧
    next.Owns h b ∧ next.Owns made c ∧ b ≠ c ∧ next.contents b = some xs ∧ next.contents c = some xs := by
  obtain ⟨rfl,describedCopy⟩ := like.described described
  obtain ⟨b,xs,holds,filled⟩ := list_of_many formed described many
  have taken := like.values f
  rw [holds] at taken
  obtain ⟨c,holdsCopy,sameItems⟩ := taken
  have backs : next.backing h f = some b := backing_eq_some_iff.mpr ⟨_,like.found,holds⟩
  have backsCopy : next.backing made f = some c := backing_eq_some_iff.mpr ⟨copied,like.there,holdsCopy⟩
  refine ⟨b,c,xs,fun resolve => ⟨?_,?_⟩,formed.backed backs,formed.backed backsCopy,?_,filled,sameItems.trans filled⟩
  · rw [respond_get described,holds]
  · rw [respond_get describedCopy,holdsCopy]
  · rintro rfl
    exact distinct (formed.backing_inj backs backsCopy).1

end

namespace Duplicated

/-- The copy is like its source. -/
theorem like (duplicated : Duplicated heap o made next) (wellFormed : WellFormed p heap) (formed : WellFormed p next)
    (found : heap.get? h = some (.object o)) : ∃ copied, Like next h o next made copied := by
  obtain ⟨copied,there,sameClass,fields⟩ := duplicated.copy
  have still := duplicated.kept h _ found
  obtain ⟨cls,object⟩ := formed.objects h o still
  obtain ⟨other,copy⟩ := formed.objects made copied there
  have known := copy.known
  rw [sameClass,object.known] at known
  cases known
  have alike : ∀ f : FeatureId, (copied.field f).isSet = (o.field f).isSet ∧
      TakenOver next next (o.field f).value (copied.field f).value := by
    intro f
    cases place : o.fields[f.index.toNat]? with
    | none =>
      have beyond : copied.fields[f.index.toNat]? = none := by
        rw [List.getElem?_eq_none_iff] at place ⊢
        rw [copy.length,← object.length]
        exact place
      rw [field_of_beyond place,field_of_beyond beyond]
      exact ⟨rfl,rfl⟩
    | some field =>
      obtain ⟨own,ownPlace,marked,taken⟩ := fields _ field place
      rw [field_eq place,field_eq ownPlace]
      refine ⟨marked,taken.of_source fun b holds => ?_⟩
      have backs : heap.backing h f = some b := backing_eq_some_iff.mpr ⟨o,found,by rw [field_eq place,holds]⟩
      obtain ⟨l,atList,-⟩ := wellFormed.backed backs
      exact contents_congr ((duplicated.kept b _ atList).trans atList.symm)
  exact ⟨copied,still,there,sameClass,fun f => (alike f).1,fun f => (alike f).2⟩

/-- The lists of the copy are as new as the copy. -/
theorem fresh_list (duplicated : Duplicated heap o made next) (wellFormed : WellFormed p heap)
    (formed : WellFormed p next) (backs : next.backing made f = some b) : heap.isLive b = false := by
  obtain ⟨l,atList,owned⟩ := formed.backed backs
  rw [Arena.isLive_false_iff]
  cases before : heap.get? b with
  | none => rfl
  | some entry =>
    cases atList.symm.trans (duplicated.kept b entry before)
    obtain ⟨owner,live,-⟩ := wellFormed.held b l made before owned
    cases duplicated.fresh.symm.trans live

/-- What copying made is a faithful copy. -/
theorem faithful (duplicated : Duplicated heap o made next) (wellFormed : WellFormed p heap)
    (formed : WellFormed p next) (found : heap.get? h = some (.object o)) :
    Faithful p settings heap h made next := by
  obtain ⟨copied,like⟩ := duplicated.like wellFormed formed found
  have distinct : made ≠ h := by
    rintro rfl
    cases duplicated.fresh.symm.trans found
  refine ⟨⟨Arena.isLive_false_iff.mpr duplicated.fresh,?_⟩,?_,like.isSet formed,?_,?_,duplicated.kept,?_⟩
  · intro f b backs
    exact duplicated.fresh_list wellFormed formed backs
  · refine ⟨o.cls,?_,?_⟩
    · simp only [respond,answer,observe,object_eq_ok_iff.mpr like.found,Except.map]
    · simp only [respond,answer,observe,object_eq_ok_iff.mpr like.there,Except.map,like.sameClass]
  · intro f other feature described single
    exact like.plainValues formed described single
  · intro f other feature described many
    exact like.ownLists formed distinct described many
  · intro k c live looks target
    exact replies_of_kept wellFormed duplicated.kept live looks target

end Duplicated

/-- After every run, copying fails only as `Uncopied` tells, and a copy is faithful. At any time after, its source and
it are independent of each other if both are still there. -/
theorem copies_faithful_and_independent (built : p.Built) (addressable : p.Addressable) (settings : HeapSettings)
    (calls : List (Call Value)) (h : Handle)
    (few : ((Heap.empty.after p settings calls).respond p settings (.copy h)).2.slots.size < 2 ^ 32) :
    FailsOnly (Uncopied settings (Heap.empty.after p settings calls) h)
      ((Heap.empty.after p settings calls).respond p settings (.copy h)).1 ∧
    ∀ made next, (Heap.empty.after p settings calls).respond p settings (.copy h) = (.ok made,next) →
      Faithful p settings (Heap.empty.after p settings calls) h made next ∧
      ∀ more o copied, (next.after p settings more).slots.size < 2 ^ 32 →
        (next.after p settings more).get? h = some (.object o) →
        (next.after p settings more).get? made = some (.object copied) →
        Independent p settings (next.after p settings more) h made ∧
          Independent p settings (next.after p settings more) made h := by
  have fewBefore := Nat.lt_of_le_of_lt (size_respond built settings _ (.copy h)) few
  have sound := sound_after built calls fewBefore
  have wellFormed := wellFormed_after built addressable .empty sound_empty fewBefore
  generalize Heap.empty.after p settings calls = heap at few sound wellFormed ⊢
  refine ⟨copy_uncopied built addressable wellFormed sound few,?_⟩
  intro made next done
  obtain ⟨formed,steady⟩ := wellFormed_respond built addressable wellFormed sound few
  rw [done] at few formed steady
  obtain ⟨o,found,duplicated⟩ := copy_eq_ok settings built addressable wellFormed sound few done
  refine ⟨duplicated.faithful wellFormed formed found,?_⟩
  intro more o' copied fewLater foundLater thereLater
  have distinct : h ≠ made := by
    rintro rfl
    cases duplicated.fresh.symm.trans found
  have later := wellFormed_after built addressable formed steady fewLater
  have soundLater := (after_evolves built steady more fewLater).sound steady fewLater
  exact ⟨independent_of_ne settings built addressable later soundLater distinct foundLater thereLater,
    independent_of_ne settings built addressable later soundLater (Ne.symm distinct) thereLater foundLater⟩

/-- A node that has a tag, and a child that is gone. -/
def bereftNode : List (Call Value) :=
  [.create ⟨0⟩,.create ⟨1⟩,.set (.ofSlot 1 1) ⟨0⟩ (.object (.ofSlot 0 1)),.create ⟨2⟩,
    .pushBack (.ofSlot 2 1) (.ofSlot 3 1),.destroy (.ofSlot 3 1)]

/-- The copy of the node has a list of its own, with the child that is gone. -/
theorem copy_of_bereft_node :
    ∃ made c next, (Heap.empty.after forest {} bereftNode).respond forest {} (.copy (.ofSlot 1 1)) = (.ok made,next) ∧
      Faithful forest {} (Heap.empty.after forest {} bereftNode) (.ofSlot 1 1) made next ∧
      next.backing made ⟨1⟩ = some c ∧ c ≠ .ofSlot 2 1 ∧ next.contents c = some [.ofSlot 3 1] ∧
      Independent forest {} next (.ofSlot 1 1) made := by
  have copies := copies_faithful_and_independent forest_built forest_addressable {} bereftNode (.ofSlot 1 1) (by decide)
  obtain ⟨faithful,independent⟩ := copies.2 _ _ rfl
  exact ⟨_,_,_,rfl,faithful,rfl,by decide,rfl,(independent [] _ _ (by decide) rfl rfl).1⟩

end HandleBridge.Heap
