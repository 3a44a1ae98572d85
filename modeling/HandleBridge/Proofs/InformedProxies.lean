import HandleBridge.Proofs.HeapWork
import HandleBridge.Proofs.Shapes

/-!
What proxies know of their objects and lists. An object proxy keeps the class that it found when it was made, and a list
proxy keeps an element class. In every state that a bridge reaches on the in-memory heap both are right for as long as
the object or the list is alive (`Reached.informed`).
-/

namespace HandleBridge

/-- What an object proxy knows is right: its object has its class, and the handle for reflective calls is the one that
the proxy was made for. -/
structure ObjectProxy.Informed (p : Package) (settings : HeapSettings) (calls : List (Call Value)) (o : ObjectProxy) :
    Prop where
  base : o.proxy.isReleased = false → o.base = o.proxy.handle
  known : p.class? o.cls.id = some o.cls
  refers : Heap.RefersAs p settings calls o.base (.object o.cls.id)

theorem Proxy.live_eq_ok_iff {p : Proxy} {h : Handle} :
    p.live = .ok h ↔ p.isReleased = false ∧ p.handle.isNull = false ∧ p.handle = h := by
  unfold Proxy.live
  cases p.isReleased <;> cases p.handle.isNull <;> simp

/-- What a list proxy knows is right: its list is for elements of its element class. -/
def ListProxy.Informed (p : Package) (settings : HeapSettings) (calls : List (Call Value)) (l : ListProxy) : Prop :=
  l.proxy.isReleased = false → Heap.RefersAs p settings calls l.proxy.handle (.list l.elementClass)

/-- What an object proxy knows is right for the heap: behind its handle is nothing or an object of its class. -/
structure ObjectProxy.Truthful (p : Package) (heap : Heap) (o : ObjectProxy) : Prop where
  base : o.proxy.isReleased = false → o.base = o.proxy.handle
  found : heap.get? o.base = none ∨ ∃ obj, heap.get? o.base = some (.object obj) ∧ p.class? obj.cls = some o.cls

/-- What a list proxy knows is right for the heap: behind its handle is nothing or a list for its elements. -/
def ListProxy.Truthful (heap : Heap) (l : ListProxy) : Prop :=
  l.proxy.isReleased = false → heap.get? l.proxy.handle = none ∨
    ∃ list, heap.get? l.proxy.handle = some (.list list) ∧ list.elementClass = l.elementClass

section
variable {p : Package} {settings : HeapSettings} {calls : List (Call Value)}

/-- What an informed object proxy knows is right for the heap of its run. -/
theorem ObjectProxy.Informed.truthful {o : ObjectProxy} (informed : o.Informed p settings calls) (built : p.Built)
    (bounded : Heap.Bounded p settings calls) : o.Truthful p (Heap.empty.after p settings calls) := by
  refine ⟨informed.base,(informed.refers.get? built bounded).imp_right ?_⟩
  rintro ⟨entry,there,same⟩
  obtain ⟨obj,rfl,sameClass⟩ := Entry.shape_eq_object_iff.mp same
  exact ⟨obj,there,by rw [sameClass,informed.known]⟩

/-- So is what an informed list proxy knows. -/
theorem ListProxy.Informed.truthful {l : ListProxy} (informed : l.Informed p settings calls) (built : p.Built)
    (bounded : Heap.Bounded p settings calls) : l.Truthful (Heap.empty.after p settings calls) := by
  intro unreleased
  refine ((informed unreleased).get? built bounded).imp_right ?_
  rintro ⟨entry,there,same⟩
  obtain ⟨list,rfl,sameClass⟩ := Entry.shape_eq_list_iff.mp same
  exact ⟨list,there,sameClass⟩

end

namespace Bridge

/-- States of the in-memory native side that a bridge reaches, with the log of what was asked for, and the proxies that
were got on the way. Any work may be done in between. Every object proxy is made by `wrap`, and a list proxy for a new
list or for the list behind a feature; a proxy that is released stays as what is left of it. -/
inductive Reached (b : Bridge) : Native × List Asked → List ObjectProxy → List ListProxy → Prop
  | start : Reached b ({},[]) [] []
  | work {state : Native × List Asked} {os : List ObjectProxy} {ls : List ListProxy} {α : Type} (r : Routine α)
      (reached : Reached b state os ls) : Reached b (r.run (recording b.answerInMemory) state).2 os ls
  | object {state next : Native × List Asked} {os : List ObjectProxy} {ls : List ListProxy} {o : ObjectProxy}
      (required : Option String) (p : Proxy) (reached : Reached b state os ls)
      (made : (b.wrap required p).run.run (recording b.answerInMemory) state = (.ok o,next)) :
      Reached b next (o :: os) ls
  | newList {state next : Native × List Asked} {os : List ObjectProxy} {ls : List ListProxy} {l : ListProxy}
      (view : View) (name : String) (reached : Reached b state os ls)
      (made : (b.createListOf view name).run.run (recording b.answerInMemory) state = (.ok l,next)) :
      Reached b next os (l :: ls)
  | featureList {state next : Native × List Asked} {os : List ObjectProxy} {ls : List ListProxy} {o : ObjectProxy}
      {l : ListProxy} (f : FeatureId) (view : View) (reached : Reached b state os ls) (member : o ∈ os)
      (got : (o.list b f view).run.run (recording b.answerInMemory) state = (.ok l,next)) : Reached b next os (l :: ls)
  | retireObject {state : Native × List Asked} {os : List ObjectProxy} {ls : List ListProxy} {o : ObjectProxy}
      (reached : Reached b state os ls) (member : o ∈ os) : Reached b state ({ o with proxy := .retired } :: os) ls
  | retireList {state : Native × List Asked} {os : List ObjectProxy} {ls : List ListProxy} {l : ListProxy}
      (reached : Reached b state os ls) (member : l ∈ ls) : Reached b state os ({ l with proxy := .retired } :: ls)

variable {b : Bridge} {α : Type} {state next : Native × List Asked} {os : List ObjectProxy} {ls : List ListProxy}
  {heap last : Heap} {o : ObjectProxy} {l : ListProxy}

theorem onHeap_of_recording {x : Action α} {result : Except Error α}
    (ran : x.run.run (recording b.answerInMemory) state = (result,next)) :
    b.onHeap x state.1.heap = (result,next.1.heap) := by
  obtain ⟨answer,native⟩ := b.run_recording x.run state.1 state.2
  rw [ran] at answer native
  rw [onHeap,run_answerOnHeap,← answer,← native]

/-- The calls in the log led to the heap. -/
theorem Reached.heap_eq (reached : b.Reached state os ls) :
    state.1.heap = Heap.empty.after b.package b.config.heap (callsIn state.2) := by
  have leads : ∀ {α : Type} (r : Routine α) (state : Native × List Asked),
      state.1.heap = Heap.empty.after b.package b.config.heap (callsIn state.2) →
        ∀ a next, r.run (recording b.answerInMemory) state = (a,next) →
          next.1.heap = Heap.empty.after b.package b.config.heap (callsIn next.2) := by
    intro α r state led a next ran
    have leads := b.after_recording r led
    rwa [ran] at leads
  induction reached with
  | start => rfl
  | work r _ ih => exact leads r _ ih _ _ rfl
  | object _ _ _ made ih => exact leads _ _ ih _ _ made
  | newList _ _ _ made ih => exact leads _ _ ih _ _ made
  | featureList _ _ _ _ got ih => exact leads _ _ ih _ _ got
  | retireObject _ _ ih => exact ih
  | retireList _ _ ih => exact ih

theorem onHeap_wrap (required : Option String) (p : Proxy) : b.onHeap (b.wrap required p) heap =
    match b.onHeap (b.inspect p required) heap with
    | (.ok (base,cls),next) => (.ok ⟨p,base,cls⟩,next)
    | (.error e,next) => (.error e,((p.drop b).run b.answerOnHeap next).2) := by
  show Script.run b.answerOnHeap ((b.inspect p required).run >>= _) heap = _
  rw [Script.run_seq]
  unfold onHeap
  generalize Script.run b.answerOnHeap (b.inspect p required).run heap = result
  obtain ⟨e | ⟨base,cls⟩,next⟩ := result
  · exact Script.run_seq ..
  · rfl

/-- What looking at an object finds out. -/
theorem onHeap_inspect_eq_ok {required : Option String} {p : Proxy} {base : Handle} {cls : ClassType}
    (looked : b.onHeap (b.inspect p required) heap = (.ok (base,cls),last)) : heap = last ∧ base = p.handle ∧
      (∃ obj, heap.get? p.handle = some (.object obj) ∧ b.package.class? obj.cls = some cls) ∧
      ∀ name, required = some name →
        ∃ expected, b.package.classNamed? name = some expected ∧ cls.isSubtypeOf expected.id = true := by
  simp only [inspect,onHeap_bind_eq_ok,onHeap_lift_eq_ok] at looked
  obtain ⟨handle,_,⟨live,rfl⟩,up,middle,upcast,c,after,classOf,found,_,⟨known,rfl⟩,checked⟩ := looked
  obtain ⟨isObject,rfl⟩ := Prod.mk.inj ((b.onHeap_call _ b (.upcast handle)).symm.trans upcast)
  obtain ⟨ofClass,rfl⟩ := Prod.mk.inj ((b.onHeap_call _ b (.classOf up)).symm.trans classOf)
  obtain ⟨other,-,rfl⟩ := map_eq_ok_iff.mp isObject
  obtain ⟨obj,there,rfl⟩ := map_eq_ok_iff.mp ofClass
  have result : found = cls ∧ handle = base ∧ heap = last ∧ ∀ name, required = some name →
      ∃ expected, b.package.classNamed? name = some expected ∧ found.isSubtypeOf expected.id = true := by
    cases required with
    | none =>
      cases checked
      exact ⟨rfl,rfl,rfl,nofun⟩
    | some name =>
      simp only [onHeap_bind_eq_ok,onHeap_lift_eq_ok] at checked
      obtain ⟨expected,_,⟨named,rfl⟩,checked⟩ := checked
      split at checked
      · rename_i derives
        cases checked
        refine ⟨rfl,rfl,rfl,?_⟩
        rintro _ ⟨⟩
        exact ⟨expected,Package.requireNamed_eq_ok_iff.mp named,derives⟩
      · cases checked
  obtain ⟨rfl,rfl,rfl,fits⟩ := result
  obtain ⟨-,-,rfl⟩ := Proxy.live_eq_ok_iff.mp live
  exact ⟨rfl,rfl,⟨obj,Heap.object_eq_ok_iff.mp there,Package.require_eq_ok_iff.mp known⟩,fits⟩

/-- What making a list came to. -/
theorem onHeap_createListOf_eq_ok {view : View} {name : String}
    (made : b.onHeap (b.createListOf view name) heap = (.ok l,last)) :
    heap.alloc b.config.heap (.list ⟨l.elementClass,[],none⟩) = .ok (l.proxy.handle,last) := by
  simp only [createListOf,onHeap_bind_eq_ok,onHeap_lift_eq_ok] at made
  obtain ⟨cls,_,⟨-,rfl⟩,_,_,⟨-,rfl⟩,h,next,created,_,_,noted,made⟩ := made
  have created := (b.onHeap_call _ b (.createList cls.id)).symm.trans created
  cases noted
  cases made
  change Heap.commitWith (Heap.createList b.package b.config.heap cls.id) heap = _ at created
  unfold Heap.commitWith at created
  split at created
  · rename_i done
    cases created
    exact (Heap.createList_eq_ok done).2
  · cases created

/-- What looking for the list behind a feature found. -/
theorem onHeap_list_eq_ok {f : FeatureId} {view : View} (got : b.onHeap (o.list b f view) heap = (.ok l,last)) :
    heap = last ∧ ∃ feature target cls obj, o.cls.features[f.index.toNat]? = some feature ∧
      feature.kind = .reference target true ∧ b.package.classNamed? target = some cls ∧ l.elementClass = cls.id ∧
      heap.get? o.base = some (.object obj) ∧ (obj.field f).value = .list l.proxy.handle := by
  simp only [ObjectProxy.list,onHeap_bind_eq_ok,onHeap_lift_eq_ok] at got
  obtain ⟨feature,_,⟨row,rfl⟩,got⟩ := got
  split at got
  · rename_i target isMany
    simp only [ObjectProxy.get,onHeap_bind_eq_ok,onHeap_lift_eq_ok] at got
    obtain ⟨cls,_,⟨named,rfl⟩,v,next,⟨_,_,⟨-,rfl⟩,base,_,⟨live,rfl⟩,called⟩,got⟩ := got
    obtain ⟨read,rfl⟩ := Prod.mk.inj ((b.onHeap_call _ b (.get base f false)).symm.trans called)
    split at got
    · rename_i h
      split at got
      · cases got
      · obtain ⟨borrowed,rfl⟩ := onHeap_lift_eq_ok.mp got
        simp only [borrowList,bind_eq_ok_iff] at borrowed
        obtain ⟨⟨⟩,-,borrowed⟩ := borrowed
        cases borrowed
        obtain ⟨⟨obj,described⟩,found,value⟩ := bind_eq_ok_iff.mp (show Heap.get b.package base f heap = _ from read)
        simp only [ObjectProxy.liveBase,bind_eq_ok_iff] at live
        obtain ⟨-,-,live⟩ := live
        cases live
        exact ⟨rfl,feature,target,cls,obj,ClassType.feature_eq_ok_iff.mp row,isMany,
          Package.requireNamed_eq_ok_iff.mp named,rfl,(Heap.objectFeature_eq_ok_iff.mp found).1,Except.ok.inj value⟩
    · cases got
  · cases got

/-- What the proxies know is right. -/
structure Informed (b : Bridge) (log : List Asked) (os : List ObjectProxy) (ls : List ListProxy) : Prop where
  objects : ∀ o ∈ os, o.Informed b.package b.config.heap (callsIn log)
  lists : ∀ l ∈ ls, l.Informed b.package b.config.heap (callsIn log)

/-- Whatever is done in between, what proxies know stays right. -/
theorem Informed.run (built : b.package.Built) (addressable : b.package.Addressable) {r : Routine α} {a : α}
    (ran : r.run (recording b.answerInMemory) state = (a,next))
    (bounded : Heap.Bounded b.package b.config.heap (callsIn next.2)) (informed : b.Informed state.2 os ls) :
    b.Informed next.2 os ls := by
  obtain ⟨more,calls⟩ := b.callsIn_recording r state.1 state.2
  rw [ran] at calls
  rw [calls] at bounded
  constructor
  · intro o member
    obtain ⟨base,known,refers⟩ := informed.objects o member
    exact ⟨base,known,calls ▸ refers.append built addressable bounded⟩
  · intro l member unreleased
    exact calls ▸ (informed.lists l member unreleased).append built addressable bounded

theorem bounded_of_run (built : b.package.Built) {r : Routine α} {a : α}
    (ran : r.run (recording b.answerInMemory) state = (a,next))
    (bounded : Heap.Bounded b.package b.config.heap (callsIn next.2)) :
    Heap.Bounded b.package b.config.heap (callsIn state.2) := by
  obtain ⟨more,calls⟩ := b.callsIn_recording r state.1 state.2
  rw [ran] at calls
  rw [calls] at bounded
  exact bounded.of_append built

section
variable {calls : List (Call Value)}

/-- A proxy that was just made knows the class of its object. -/
theorem informed_of_wrap {required : Option String} {p : Proxy} (built : b.package.Built)
    (wrapped : b.onHeap (b.wrap required p) heap = (.ok o,Heap.empty.after b.package b.config.heap calls)) :
    o.Informed b.package b.config.heap calls := by
  rw [onHeap_wrap] at wrapped
  split at wrapped
  · rename_i base cls middle looked
    cases wrapped
    obtain ⟨rfl,rfl,⟨obj,found,known⟩,-⟩ := onHeap_inspect_eq_ok looked
    have ofClass := built.id_eq known
    refine ⟨fun _ => rfl,by rw [ofClass,known],.inr ⟨.object obj,found,?_⟩⟩
    rw [ofClass]
    rfl
  · cases wrapped

/-- A list that was just made is for the elements that it was made for. -/
theorem informed_of_createListOf {view : View} {name : String} (sound : heap.Sound)
    (few : (Heap.empty.after b.package b.config.heap calls).slots.size < 2 ^ 32)
    (made : b.onHeap (b.createListOf view name) heap = (.ok l,Heap.empty.after b.package b.config.heap calls)) :
    l.Informed b.package b.config.heap calls := by
  intro _
  obtain ⟨-,view⟩ := Heap.get?_alloc sound (onHeap_createListOf_eq_ok made) few
  exact .inr ⟨.list ⟨l.elementClass,[],none⟩,by rw [view,if_pos rfl],rfl⟩

/-- The list behind a feature is for elements of the class that the feature refers to. -/
theorem informed_of_list {f : FeatureId} {view : View} (wellFormed : Heap.WellFormed b.package heap)
    (truthful : o.Truthful b.package heap)
    (got : b.onHeap (o.list b f view) heap = (.ok l,Heap.empty.after b.package b.config.heap calls)) :
    l.Informed b.package b.config.heap calls := by
  intro _
  obtain ⟨rfl,feature,target,t,obj,row,isMany,named,ofClass,found,holds⟩ := onHeap_list_eq_ok got
  -- The object is there, so its class is the one that the proxy knows.
  have there := truthful.found
  rw [found] at there
  rcases there with lost | ⟨_,⟨⟩,known⟩
  · cases lost
  · obtain ⟨cls,object⟩ := wellFormed.objects o.base obj found
    cases known.symm.trans object.known
    have fits := Heap.fits_of_row object row
    rw [isMany,holds] at fits
    obtain ⟨held,list,other,isList,there,-,named',ofTarget⟩ := fits
    cases isList
    cases named.symm.trans named'
    exact .inr ⟨.list list,there,by rw [Entry.shape,ofTarget,ofClass]⟩

end

/-- In every state that a bridge reaches, what its proxies know is right. -/
theorem Reached.informed (built : b.package.Built) (addressable : b.package.Addressable)
    (reached : b.Reached state os ls) (bounded : Heap.Bounded b.package b.config.heap (callsIn state.2)) :
    b.Informed state.2 os ls := by
  induction reached with
  | start => exact ⟨by simp,by simp⟩
  | work r _ ih => exact (ih (bounded_of_run built rfl bounded)).run built addressable rfl bounded
  | @object state next os ls o required p reached made ih =>
    have informed := (ih (bounded_of_run built made bounded)).run built addressable made bounded
    refine ⟨List.forall_mem_cons.mpr ⟨?_,informed.objects⟩,informed.lists⟩
    have wrapped := onHeap_of_recording made
    rw [(reached.object required p made).heap_eq] at wrapped
    exact informed_of_wrap built wrapped
  | @newList state next os ls l view name reached made ih =>
    have before := bounded_of_run built made bounded
    have informed := (ih before).run built addressable made bounded
    refine ⟨informed.objects,List.forall_mem_cons.mpr ⟨?_,informed.lists⟩⟩
    have created := onHeap_of_recording made
    rw [(reached.newList view name made).heap_eq,reached.heap_eq] at created
    exact informed_of_createListOf (Heap.sound_after built _ before.few) bounded.few created
  | @featureList state next os ls o l f view reached member got ih =>
    have before := bounded_of_run built got bounded
    have informed := (ih before).run built addressable got bounded
    refine ⟨informed.objects,List.forall_mem_cons.mpr ⟨?_,informed.lists⟩⟩
    have listed := onHeap_of_recording got
    rw [(reached.featureList f view member got).heap_eq,reached.heap_eq] at listed
    have wellFormed := Heap.wellFormed_after built addressable .empty Heap.sound_empty before.few
    exact informed_of_list wellFormed (((ih before).objects o member).truthful built before) listed
  | retireObject _ member ih =>
    have informed := ih bounded
    obtain ⟨-,known,refers⟩ := informed.objects _ member
    refine ⟨List.forall_mem_cons.mpr ⟨⟨?_,known,refers⟩,informed.objects⟩,informed.lists⟩
    intro unreleased
    cases unreleased
  | retireList _ _ ih =>
    refine ⟨(ih bounded).objects,List.forall_mem_cons.mpr ⟨?_,(ih bounded).lists⟩⟩
    intro unreleased
    cases unreleased

end Bridge

end HandleBridge
