import HandleBridge.Proofs.HeapErrors
import HandleBridge.Proofs.Sequences
import HandleBridge.Proofs.Typing
import Mathlib.Data.List.TakeWhile

/-!
Operations on whole lists against those on single elements. Appending a list checks its element class only, assigning
one checks each element first, and pushing checks each element when its turn comes. Elements that are not destroyed are
what their list promises, so all three agree on them (`bulk_agrees_elementwise`).
-/

namespace HandleBridge.Heap

variable {p : Package} {settings : HeapSettings} {heap next : Heap} {h b m x : Handle} {f : FeatureId} {c : ClassId}
  {o : ObjectData} {l : ListData} {xs ys : List Handle} {e : Error} {gone : Handle → Prop}

/-- Pushes elements onto a list, one call for each, up to the first that is refused. -/
def pushEach (p : Package) (settings : HeapSettings) (b : Handle) : List Handle → Heap → Except Error Unit × Heap
  | [], heap => (.ok (),heap)
  | x :: rest, heap =>
    match heap.respond p settings (.pushBack b x) with
    | (.ok (),next) => pushEach p settings b rest next
    | (.error e,next) => (.error e,next)

/-- Elements before the first that may not stand where objects of the class are expected. -/
def acceptedPrefix (p : Package) (heap : Heap) (c : ClassId) (xs : List Handle) : List Handle :=
  xs.takeWhile fun x => (checkElement p heap c x).isOk

theorem setItems_self (found : heap.get? b = some (.list l)) : heap.setItems b l l.items = heap :=
  Arena.set_self found

theorem setItems_setItems (found : heap.get? b = some (.list l)) :
    (heap.setItems b l xs).setItems b { l with items := xs } ys = heap.setItems b l ys :=
  Arena.set_set found

/-- Whether an element passes does not depend on what lists contain. -/
theorem checkElement_setItems (found : heap.get? b = some (.list l)) :
    checkElement p (heap.setItems b l xs) c = checkElement p heap c := by
  funext x
  simp only [checkElement,object_setItems found]

theorem checkElement_of_dead (dead : heap.Dead x) : checkElement p heap c x = .error (.staleHandle x) := by
  obtain ⟨notNull,vacant⟩ := dead
  have lost : heap.object x = .error (.staleHandle x) := by
    simp [object,find,notNull,vacant,bind,Except.bind]
  simp only [checkElement,notNull,lost,Bool.false_eq_true,if_false]
  rfl

theorem checkElement_of_refers (refers : Refers p gone heap c x) (stays : ¬ gone x) :
    checkElement p heap c x = .ok () := by
  refine checkElement_eq_ok_iff.mpr ?_
  rcases refers with isNull | isGone | found
  · exact .inl ((Handle.isNull_eq_true_iff x).mpr isNull)
  · exact absurd isGone stays
  · exact .inr found

theorem acceptedPrefix_of_ok (passes : ∀ x ∈ xs, checkElement p heap c x = .ok ()) :
    acceptedPrefix p heap c xs = xs := by
  refine List.takeWhile_eq_self_iff.mpr fun x member => ?_
  rw [passes x member]
  rfl

/-- Where the first refused element stands, the checks stop. -/
theorem checks_of_first (passes : ∀ y ∈ xs, checkElement p heap c y = .ok ())
    (refused : checkElement p heap c x = .error e) (rest : List Handle) :
    (xs ++ x :: rest).forM (checkElement p heap c) = .error e ∧
      acceptedPrefix p heap c (xs ++ x :: rest) = xs := by
  induction xs with
  | nil =>
    refine ⟨?_,by simp [acceptedPrefix,refused,Except.isOk,Except.toBool]⟩
    show (checkElement p heap c x >>= fun _ => rest.forM (checkElement p heap c)) = .error e
    rw [refused]
    rfl
  | cons y xs ih =>
    obtain ⟨first,others⟩ := List.forall_mem_cons.mp passes
    obtain ⟨stops,before⟩ := ih others
    constructor
    · show (checkElement p heap c y >>= fun _ => (xs ++ x :: rest).forM (checkElement p heap c)) = .error e
      rw [first]
      exact stops
    · rw [acceptedPrefix,List.cons_append,List.takeWhile_cons_of_pos (by rw [first]; rfl)]
      exact congrArg (y :: ·) before

theorem respond_pushBack (atList : heap.get? b = some (.list l)) (x : Handle) :
    heap.respond p settings (.pushBack b x) =
      match checkElement p heap l.elementClass x with
      | .ok () => (.ok (),heap.setItems b l (l.items ++ [x]))
      | .error e => (.error e,heap) := by
  simp only [respond,answer,commit,pushBack,list_eq_ok_iff.mpr atList,bind,Except.bind,pure,Except.pure]
  cases checkElement p heap l.elementClass x <;> rfl

/-- Pushing one by one answers what checking all elements in order answers, and pushes those before the first that is
refused. -/
theorem pushEach_eq (settings : HeapSettings) (atList : heap.get? b = some (.list l)) (xs : List Handle) :
    pushEach p settings b xs heap = (xs.forM (checkElement p heap l.elementClass),
      heap.setItems b l (l.items ++ acceptedPrefix p heap l.elementClass xs)) := by
  induction xs generalizing heap l with
  | nil => rw [pushEach,acceptedPrefix,List.takeWhile_nil,List.append_nil,setItems_self atList]; rfl
  | cons x rest ih =>
    have all : (x :: rest).forM (checkElement p heap l.elementClass) =
      checkElement p heap l.elementClass x >>= fun _ => rest.forM (checkElement p heap l.elementClass) := rfl
    rw [pushEach,respond_pushBack atList,all]
    cases check : checkElement p heap l.elementClass x with
    | error e =>
      have none : acceptedPrefix p heap l.elementClass (x :: rest) = [] := by
        simp [acceptedPrefix,check,Except.isOk,Except.toBool]
      rw [none,List.append_nil,setItems_self atList]
      rfl
    | ok passed =>
      have pushed : (heap.setItems b l (l.items ++ [x])).get? b = some (.list { l with items := l.items ++ [x] }) := by
        rw [get?_setItems atList,if_pos rfl]
      have one : acceptedPrefix p heap l.elementClass (x :: rest) = x :: acceptedPrefix p heap l.elementClass rest := by
        simp [acceptedPrefix,check,Except.isOk,Except.toBool]
      dsimp only
      rw [ih pushed,checkElement_setItems atList,setItems_setItems atList,one,acceptedPrefix,checkElement_setItems atList,
        List.append_assoc]
      rfl

theorem respond_clear (atList : heap.get? b = some (.list l)) :
    heap.respond p settings (.clear b) = (.ok (),heap.setItems b l []) := by
  simp only [respond,answer,commit,clear,list_eq_ok_iff.mpr atList]
  rfl

theorem respond_insertAll {given : ListData} (atList : heap.get? b = some (.list l))
    (atSource : heap.get? m = some (.list given)) (fits : p.isA given.elementClass l.elementClass = true) :
    heap.respond p settings (.insertAll b m) = (.ok (),heap.setItems b l (l.items ++ given.items)) := by
  simp only [respond,answer,commit,insertAll,list_eq_ok_iff.mpr atList,list_eq_ok_iff.mpr atSource,bind,Except.bind,
    fits,if_true]
  rfl

theorem assignList_of_ne {given : ListData} (atList : heap.get? b = some (.list l))
    (atSource : heap.get? m = some (.list given)) (other : m ≠ b) : heap.assignList p b m =
      (given.items.forM (checkElement p heap l.elementClass)).map fun _ => heap.setItems b l given.items := by
  simp only [assignList,if_neg other,list_eq_ok_iff.mpr atList,list_eq_ok_iff.mpr atSource,bind,Except.bind]
  cases given.items.forM (checkElement p heap l.elementClass) <;> rfl

/-- What has a list behind it is a many-valued feature. -/
theorem WellFormed.described_of_backing (wellFormed : WellFormed p heap) (backs : heap.backing h f = some b) :
    ∃ o feature target, objectFeature p heap h f = .ok (o,feature) ∧ feature.kind = .reference target true ∧
      (o.field f).value = .list b := by
  obtain ⟨o,found,holds⟩ := backing_eq_some_iff.mp backs
  obtain ⟨cls,object⟩ := wellFormed.objects h o found
  obtain ⟨field,there,isList⟩ := ObjectData.row_of_field holds
  obtain ⟨feature,row,fits⟩ := object.feature_of_field there
  rw [isList] at fits
  obtain ⟨target,-,-,isMany,-⟩ := fits.many_of_list
  exact ⟨o,feature,target,objectFeature_eq_ok_iff.mpr ⟨found,cls,object.known,row⟩,isMany,holds⟩

/-- Assigning a list to a feature checks the elements in order, and changes nothing if one of them is refused. -/
theorem respond_set_list {given : ListData} (settings : HeapSettings) (wellFormed : WellFormed p heap)
    (backs : heap.backing h f = some b) (atList : heap.get? b = some (.list l))
    (atSource : heap.get? m = some (.list given)) (other : m ≠ b) :
    (heap.respond p settings (.set h f (.list m))).1 = given.items.forM (checkElement p heap l.elementClass) ∧
      (∀ e, given.items.forM (checkElement p heap l.elementClass) = .error e →
        (heap.respond p settings (.set h f (.list m))).2 = heap) ∧
      (given.items.forM (checkElement p heap l.elementClass) = .ok () →
        (heap.respond p settings (.set h f (.list m))).2.contents b = some given.items) := by
  obtain ⟨o,feature,target,described,isMany,holds⟩ := wellFormed.described_of_backing backs
  obtain ⟨found,-⟩ := objectFeature_eq_ok_iff.mp described
  have kept : (heap.setItems b l given.items).get? h = some (.object o) :=
    kept_of_update (get?_setItems atList) found (by simp [atList])
  have assigns := assignList_of_ne (p := p) atList atSource other
  simp only [respond,answer,commit,set,described,bind,Except.bind,isMany,holds,Value.handle?,Option.getD_some]
  rw [assigns]
  cases checks : given.items.forM (checkElement p heap l.elementClass) with
  | error e =>
    refine ⟨rfl,fun _ _ => rfl,?_⟩
    intro done
    cases done
  | ok =>
    refine ⟨rfl,?_,?_⟩
    · intro e failed
      cases failed
    · intro _
      show ((heap.setItems b l given.items).putObject h _).contents b = some given.items
      rw [contents_putObject kept,contents_setItems atList,if_pos rfl]

/-- Appending the list `m` to the list `b` succeeds, and it comes to pushing its elements `xs` one by one unless one of
them is gone. Pushing stops at the first of these. -/
structure InsertsEach (p : Package) (settings : HeapSettings) (gone : Handle → Prop) (heap : Heap) (b m : Handle)
    (xs : List Handle) : Prop where
  succeeds : ∃ next, heap.respond p settings (.insertAll b m) = (.ok (),next) ∧
    ((∀ x ∈ xs, ¬ gone x) → pushEach p settings b xs heap = (.ok (),next))
  stops : ∀ before x rest, xs = before ++ x :: rest → (∀ y ∈ before, ¬ gone y) → gone x →
    (pushEach p settings b xs heap).1 = .error (.staleHandle x) ∧
      pushEach p settings b before heap = (.ok (),(pushEach p settings b xs heap).2)

/-- Assigning the list `m` to a feature comes to emptying the list `b` behind it and pushing the elements `xs` of `m`
one by one, except that nothing is done when one of them is refused. -/
structure AssignsEach (p : Package) (settings : HeapSettings) (heap : Heap) (h : Handle) (f : FeatureId) (b m : Handle)
    (xs : List Handle) (cleared : Heap) : Prop where
  clears : heap.respond p settings (.clear b) = (.ok (),cleared)
  same : (heap.respond p settings (.set h f (.list m))).1 = (pushEach p settings b xs cleared).1
  contents : (heap.respond p settings (.set h f (.list m))).1 = .ok () →
    (heap.respond p settings (.set h f (.list m))).2.contents b = some xs ∧
      (pushEach p settings b xs cleared).2.contents b = some xs
  untouched : ∀ e, (heap.respond p settings (.set h f (.list m))).1 = .error e →
    (heap.respond p settings (.set h f (.list m))).2 = heap

/-- Appending a list agrees with pushing its elements one by one in every well typed heap. -/
theorem insertsEach {given : ListData} (settings : HeapSettings) (built : p.Built) (addressable : p.Addressable)
    (typed : Typed p gone heap) (dead : ∀ x, gone x → heap.Dead x) (atList : heap.get? b = some (.list l))
    (atSource : heap.get? m = some (.list given)) (fits : p.isA given.elementClass l.elementClass = true) :
    InsertsEach p settings gone heap b m given.items := by
  have passes : ∀ x ∈ given.items, ¬ gone x → checkElement p heap l.elementClass x = .ok () := by
    intro x member stays
    have refers := (typed.items m given atSource x member).derived built addressable fits
    exact checkElement_of_refers refers stays
  refine ⟨⟨_,respond_insertAll atList atSource fits,?_⟩,?_⟩
  · intro stay
    have all : ∀ x ∈ given.items, checkElement p heap l.elementClass x = .ok () :=
      fun x member => passes x member (stay x member)
    rw [pushEach_eq settings atList,(forM_eq_ok_iff _).mpr all,acceptedPrefix_of_ok all]
  · intro before x rest split stay isGone
    have first : ∀ y ∈ before, checkElement p heap l.elementClass y = .ok () :=
      fun y member => passes y (split ▸ List.mem_append_left _ member) (stay y member)
    obtain ⟨refused,accepted⟩ := checks_of_first first (checkElement_of_dead (dead x isGone)) rest
    rw [split,pushEach_eq settings atList,pushEach_eq settings atList,refused,accepted,(forM_eq_ok_iff _).mpr first,
      acceptedPrefix_of_ok first]
    exact ⟨rfl,rfl⟩

/-- Assigning a list agrees with clearing and pushing in every heap whose lists are where they belong. -/
theorem assignsEach {given : ListData} (settings : HeapSettings) (wellFormed : WellFormed p heap)
    (backs : heap.backing h f = some b) (atSource : heap.get? m = some (.list given)) (other : m ≠ b) :
    ∃ cleared, AssignsEach p settings heap h f b m given.items cleared := by
  obtain ⟨l,atList,-⟩ := wellFormed.backed backs
  obtain ⟨answer,untouched,assigned⟩ := respond_set_list settings wellFormed backs atList atSource other
  have emptied : (heap.setItems b l []).get? b = some (.list { l with items := [] }) := by
    rw [get?_setItems atList,if_pos rfl]
  have pushed := pushEach_eq (p := p) settings emptied given.items
  rw [checkElement_setItems atList] at pushed
  refine ⟨_,respond_clear atList,by rw [answer,pushed],?_,?_⟩
  · intro done
    have passes := answer.symm.trans done
    refine ⟨assigned passes,?_⟩
    rw [pushed,contents_setItems emptied,if_pos rfl,acceptedPrefix,checkElement_setItems atList,← acceptedPrefix,
      acceptedPrefix_of_ok ((forM_eq_ok_iff _).mp passes)]
    rfl
  · intro e failed
    exact untouched e (answer.symm.trans failed)

/-- After every run that lets no generation come round, appending and assigning lists agree with pushing their
elements one by one. -/
theorem bulk_agrees_elementwise (built : p.Built) (addressable : p.Addressable) (settings : HeapSettings)
    (calls : List (Call Value)) (bounded : Bounded p settings calls) :
    (∀ b m l given, (Heap.empty.after p settings calls).get? b = some (.list l) →
      (Heap.empty.after p settings calls).get? m = some (.list given) →
      p.isA given.elementClass l.elementClass = true →
      InsertsEach p settings (Destroyed p settings calls) (Heap.empty.after p settings calls) b m given.items) ∧
    ∀ h f b m given, (Heap.empty.after p settings calls).backing h f = some b →
      (Heap.empty.after p settings calls).get? m = some (.list given) → m ≠ b →
      ∃ cleared, AssignsEach p settings (Heap.empty.after p settings calls) h f b m given.items cleared := by
  have chronicled := chronicled_after built bounded
  have typed := typed_of_bounded built addressable bounded
  have wellFormed := wellFormed_after built addressable .empty sound_empty bounded.few
  have dead : ∀ x, Destroyed p settings calls x → (Heap.empty.after p settings calls).Dead x := by
    rintro x ⟨freed,gone⟩
    obtain ⟨i,names,-⟩ := chronicled.freed x freed
    exact ⟨Handle.isNull_of_slot? names,Arena.isLive_false_iff.mp gone⟩
  refine ⟨?_,?_⟩
  · intro b m l given atList atSource fits
    exact insertsEach settings built addressable typed dead atList atSource fits
  · intro h f b m given backs atSource other
    exact assignsEach settings wellFormed backs atSource other

/-- A list of nodes, a list of leaves that holds a leaf and null, another one whose second leaf is gone, and a node. -/
def leafLists : List (Call Value) :=
  [.createList ⟨1⟩,.createList ⟨2⟩,.create ⟨2⟩,.pushBack (.ofSlot 1 1) (.ofSlot 2 1),.pushBack (.ofSlot 1 1) .null,
    .create ⟨2⟩,.createList ⟨2⟩,.pushBack (.ofSlot 6 1) (.ofSlot 2 1),.pushBack (.ofSlot 6 1) (.ofSlot 4 1),
    .destroy (.ofSlot 4 1),.create ⟨1⟩]

/-- The leaf and null are appended as they are pushed. The leaf that is gone is not pushed, and its list is not
assigned to the node. -/
theorem bulk_agrees_for_leafLists :
    (∃ next, (Heap.empty.after forest {} leafLists).respond forest {} (.insertAll (.ofSlot 0 1) (.ofSlot 1 1)) =
        (.ok (),next) ∧
      pushEach forest {} (.ofSlot 0 1) [.ofSlot 2 1,.null] (Heap.empty.after forest {} leafLists) = (.ok (),next)) ∧
    (pushEach forest {} (.ofSlot 0 1) [.ofSlot 2 1,.ofSlot 4 1] (Heap.empty.after forest {} leafLists)).1 =
      .error (.staleHandle (.ofSlot 4 1)) ∧
    ∃ cleared, AssignsEach forest {} (Heap.empty.after forest {} leafLists) (.ofSlot 5 2) ⟨1⟩ (.ofSlot 4 2)
        (.ofSlot 6 1) [.ofSlot 2 1,.ofSlot 4 1] cleared ∧
      ((Heap.empty.after forest {} leafLists).respond forest {} (.set (.ofSlot 5 2) ⟨1⟩ (.list (.ofSlot 6 1)))).1 =
        .error (.staleHandle (.ofSlot 4 1)) := by
  have bounded : Bounded forest {} leafLists := bounded_of_short (by decide) (by decide)
  obtain ⟨inserts,assigns⟩ := bulk_agrees_elementwise forest_built forest_addressable {} leafLists bounded
  have stays : ¬ Destroyed forest {} leafLists (.ofSlot 2 1) := by unfold Destroyed; decide
  have null : ¬ Destroyed forest {} leafLists .null := by unfold Destroyed; decide
  have gone : Destroyed forest {} leafLists (.ofSlot 4 1) := by unfold Destroyed; decide
  obtain ⟨next,inserted,each⟩ := (inserts (.ofSlot 0 1) (.ofSlot 1 1) _ _ rfl rfl (by decide)).succeeds
  have stops := (inserts (.ofSlot 0 1) (.ofSlot 6 1) _ _ rfl rfl (by decide)).stops [.ofSlot 2 1] _ [] rfl
    (by simpa using stays) gone
  obtain ⟨cleared,assigned⟩ := assigns (.ofSlot 5 2) ⟨1⟩ (.ofSlot 4 2) (.ofSlot 6 1) _ rfl rfl (by decide)
  exact ⟨⟨next,inserted,each (by simpa using ⟨stays,null⟩)⟩,stops.1,cleared,assigned,rfl⟩

end HandleBridge.Heap
