import HandleBridge.Proofs.InformedProxies

/-!
Checks of proxies and checks of the heap. A proxy may check the kind of a value and the class of an element before it
makes a call, and the heap checks both again. As what a proxy knows is right, both sides accept the same calls and refuse
them with the same words, so the checks of the proxies decide nothing (`validation_decides_nothing`).
-/

namespace HandleBridge

namespace Heap

variable {p : Package} {heap : Heap} {h source element : Handle} {f : FeatureId} {v : Value} {o : ObjectData}
  {l given : ListData} {cls : ClassType} {feature : Feature} {e : Error}

theorem set_of_lost (lost : heap.get? h = none) : ∃ e, set p h f v heap = .error e := by
  cases done : set p h f v heap with
  | error e => exact ⟨e,rfl⟩
  | ok next =>
    obtain ⟨o,feature,described,-⟩ := set_eq_ok done
    cases lost.symm.trans (objectFeature_eq_ok_iff.mp described).1

theorem set_of_misfit (found : heap.get? h = some (.object o)) (known : p.class? o.cls = some cls)
    (row : cls.feature f = .ok feature) (misfit : v.fits feature.kind.valueKind = false) :
    set p h f v heap = .error (.typeMismatch feature.kind.valueKind.name v.typeName) := by
  have described : objectFeature p heap h f = .ok (o,feature) :=
    objectFeature_eq_ok_iff.mpr ⟨found,cls,known,ClassType.feature_eq_ok_iff.mp row⟩
  rw [set,described]
  simp only [bind,Except.bind,misfit]
  rfl

theorem pushBack_of_lost (lost : heap.get? h = none) : ∃ e, pushBack p h element heap = .error e := by
  cases done : pushBack p h element heap with
  | error e => exact ⟨e,rfl⟩
  | ok next =>
    obtain ⟨l,found,-⟩ := pushBack_eq_ok done
    cases lost.symm.trans found

theorem pushBack_of_refused (found : heap.get? h = some (.list l))
    (refused : checkElement p heap l.elementClass element = .error e) : pushBack p h element heap = .error e := by
  rw [pushBack,list_eq_ok_iff.mpr found]
  simp only [bind,Except.bind,refused]

theorem insertAt_of_refused {i : UInt64} (found : heap.get? h = some (.list l)) (inside : i.toNat ≤ l.items.length)
    (refused : checkElement p heap l.elementClass element = .error e) : insertAt p h i element heap = .error e := by
  rw [insertAt,list_eq_ok_iff.mpr found]
  simp only [bind,Except.bind,if_neg (Nat.not_lt.mpr inside),refused]

theorem insertAll_of_lost (lost : heap.get? h = none ∨ heap.get? source = none) :
    ∃ e, insertAll p h source heap = .error e := by
  cases done : insertAll p h source heap with
  | error e => exact ⟨e,rfl⟩
  | ok next =>
    obtain ⟨given,target,atSource,atTarget,-⟩ := insertAll_eq_ok done
    rcases lost with lost | lost
    · cases lost.symm.trans atTarget
    · cases lost.symm.trans atSource

theorem insertAll_of_misfit (atSource : heap.get? source = some (.list given)) (atTarget : heap.get? h = some (.list l))
    (misfit : p.isA given.elementClass l.elementClass = false) :
    insertAll p h source heap = .error (.classMismatch (p.className l.elementClass) (p.className given.elementClass)) := by
  rw [insertAll,list_eq_ok_iff.mpr atSource]
  simp only [bind,Except.bind,list_eq_ok_iff.mpr atTarget,misfit]
  rfl

/-- An operation that fails leaves the heap as it is. -/
theorem commit_of_failed {operation : Heap → Except Error Heap} (failed : operation heap = .error e) :
    commit operation heap = (.error e,heap) := by
  rw [commit,failed]

end Heap

/-- Two ways to do some work agree: both succeed or both fail, and they leave the same heap. Under the guard they come
to the same result. -/
structure Agree {α : Type} (guard : Prop) (x y : Except Error α × Heap) : Prop where
  succeeds : (∃ a, x.1 = .ok a) ↔ ∃ a, y.1 = .ok a
  heap : x.2 = y.2
  result : guard → x.1 = y.1

namespace Agree

variable {α β : Type} {guard : Prop} {x y z : Except Error α × Heap}

theorem refl (x : Except Error α × Heap) : Agree guard x x := ⟨.rfl,rfl,fun _ => rfl⟩

theorem symm (agree : Agree guard x y) : Agree guard y x :=
  ⟨agree.succeeds.symm,agree.heap.symm,fun holds => (agree.result holds).symm⟩

theorem trans (first : Agree guard x y) (second : Agree guard y z) : Agree guard x z :=
  ⟨first.succeeds.trans second.succeeds,first.heap.trans second.heap,
    fun holds => (first.result holds).trans (second.result holds)⟩

theorem imp {stronger : Prop} (agree : Agree guard x y) (implies : stronger → guard) : Agree stronger x y :=
  ⟨agree.succeeds,agree.heap,fun holds => agree.result (implies holds)⟩

theorem failed {heap : Heap} {e e' : Error} (same : guard → e = e') :
    Agree guard ((.error e,heap) : Except Error α × Heap) (.error e',heap) := by
  refine ⟨by simp,rfl,fun holds => ?_⟩
  rw [same holds]

/-- Work that starts alike agrees if the rest does. -/
theorem bind {b : Bridge} {heap : Heap} {x y : Action α} {f g : α → Action β} (same : b.onHeap x heap = b.onHeap y heap)
    (rest : ∀ a next, b.onHeap x heap = (.ok a,next) → Agree guard (b.onHeap (f a) next) (b.onHeap (g a) next)) :
    Agree guard (b.onHeap (x >>= f) heap) (b.onHeap (y >>= g) heap) := by
  rw [Bridge.onHeap_bind,Bridge.onHeap_bind,← same]
  generalize b.onHeap x heap = done at rest
  obtain ⟨e | a,next⟩ := done
  · exact refl _
  · exact rest a next rfl

/-- Work that starts with a look at whether a proxy is live. -/
theorem live {b : Bridge} {heap : Heap} {p : Proxy} {f g : Handle → Action α}
    (rest : p.isReleased = false → Agree guard (b.onHeap (f p.handle) heap) (b.onHeap (g p.handle) heap)) :
    Agree guard (b.onHeap (liftM p.live >>= f) heap) (b.onHeap (liftM p.live >>= g) heap) := by
  refine bind rfl fun h next looked => ?_
  obtain ⟨live,rfl⟩ := Bridge.onHeap_lift_eq_ok.mp looked
  obtain ⟨unreleased,-,rfl⟩ := Proxy.live_eq_ok_iff.mp live
  exact rest unreleased

end Agree

/-- Whether a proxy was not released and what it stands for is alive. -/
def Proxy.Usable (heap : Heap) (p : Proxy) : Prop := p.isReleased = false ∧ heap.isLive p.handle = true

namespace Proxy.Usable

variable {heap : Heap} {p : Proxy} (usable : p.Usable heap)

include usable

theorem live : p.live = .ok p.handle := by
  obtain ⟨unreleased,isLive⟩ := usable
  obtain ⟨entry,found⟩ := Arena.isLive_iff.mp isLive
  exact Proxy.live_eq_ok_iff.mpr ⟨unreleased,Arena.isNull_of_get? found,rfl⟩

theorem not_lost : heap.get? p.handle ≠ none := by
  intro lost
  rw [← Arena.isLive_false_iff,usable.2] at lost
  cases lost

end Proxy.Usable

namespace Bridge

/-- The bridge with other checks on the side of its proxies. -/
def validating (b : Bridge) (v : Validation) : Bridge := { b with config := { b.config with validation := v } }

/-- The bridge whose proxies leave the checks to the heap. -/
def trusting (b : Bridge) : Bridge := b.validating ⟨false,false⟩

variable {b : Bridge} {heap : Heap} {o element : ObjectProxy} {l other : ListProxy} {f : FeatureId} {x : Value}

theorem onHeap_size_eq_ok {n : UInt64} {last : Heap} (counted : b.onHeap (l.size b) heap = (.ok n,last)) :
    heap = last ∧ ∃ list, heap.get? l.proxy.handle = some (.list list) ∧ UInt64.ofNat list.items.length = n := by
  rw [ListProxy.size,onHeap_bind_eq_ok] at counted
  obtain ⟨h,next,looked,called⟩ := counted
  obtain ⟨live,rfl⟩ := onHeap_lift_eq_ok.mp looked
  obtain ⟨-,-,rfl⟩ := Proxy.live_eq_ok_iff.mp live
  obtain ⟨answered,rfl⟩ := Prod.mk.inj ((b.onHeap_call _ b (.listSize l.proxy.handle)).symm.trans called)
  obtain ⟨list,found,length⟩ := bind_eq_ok_iff.mp (show Heap.listSize l.proxy.handle heap = _ from answered)
  exact ⟨rfl,list,Heap.list_eq_ok_iff.mp found,Except.ok.inj length⟩

/-- A check that throws before the rest of the work does no harm if the rest fails too. -/
theorem agree_refuse {guard p : Prop} [Decidable p] {e : Error} {rest : PUnit → Action Unit}
    (fails : p → ∃ e', b.onHeap (rest ⟨⟩) heap = (.error e',heap) ∧ (guard → e = e')) :
    Agree guard (b.onHeap (if p then throw e >>= rest else rest ⟨⟩) heap) (b.onHeap (rest ⟨⟩) heap) := by
  split
  · rename_i refused
    obtain ⟨e',failed,same⟩ := fails refused
    rw [failed,onHeap_bind,onHeap_throw]
    exact .failed same
  · exact .refl _

/-- Writing comes to the same with and without the check of the value. -/
theorem agree_set (truthful : o.Truthful b.package heap) (v : Validation) :
    Agree (o.proxy.Usable heap) (b.onHeap (o.set (b.validating v) f x) heap)
      (b.onHeap (o.set b.trusting f x) heap) := by
  refine .bind rfl fun feature next described => ?_
  obtain ⟨row,rfl⟩ := onHeap_lift_eq_ok.mp described
  refine agree_refuse fun refused => ?_
  have misfit : x.fits feature.kind.valueKind = false := by
    rw [Bool.and_eq_true,Bool.not_eq_true'] at refused
    exact refused.2
  rw [onHeap_bind,onHeap_lift,ObjectProxy.liveBase]
  cases live : o.proxy.live with
  | error e =>
    refine ⟨e,rfl,fun usable => ?_⟩
    rw [usable.live] at live
    cases live
  | ok h =>
    obtain ⟨unreleased,-,rfl⟩ := Proxy.live_eq_ok_iff.mp live
    show ∃ e', b.onHeap (b.call (.set o.base f x)) heap = _ ∧ _
    rw [onHeap_call]
    rcases truthful.found with lost | ⟨obj,there,known⟩
    · obtain ⟨e,failed⟩ := Heap.set_of_lost lost
      refine ⟨e,Heap.commit_of_failed failed,fun usable => ?_⟩
      rw [truthful.base unreleased] at lost
      exact absurd lost usable.not_lost
    · exact ⟨_,Heap.commit_of_failed (Heap.set_of_misfit there known row misfit),fun _ => rfl⟩

/-- The check of an element is the one that the heap makes, provided that it is made. -/
theorem onHeap_checkedElement (v : Validation) : b.onHeap (l.checkedElement (b.validating v) element) heap =
    ((do
      let h ← element.proxy.live
      if v.elementClasses then Heap.checkElement b.package heap l.elementClass h
      return h),heap) := by
  rw [ListProxy.checkedElement,onHeap_bind,onHeap_lift]
  cases live : element.proxy.live with
  | error e => rfl
  | ok h =>
    obtain ⟨-,notNull,rfl⟩ := Proxy.live_eq_ok_iff.mp live
    by_cases checks : v.elementClasses = true
    · have asked : b.onHeap ((b.validating v).call (.classOf element.proxy.handle)) heap =
          ((heap.object element.proxy.handle).map ObjectData.cls,heap) := b.onHeap_call heap _ _
      simp only [validating,checks,if_true] at asked ⊢
      rw [onHeap_bind,asked]
      simp only [bind,Except.bind,Heap.checkElement,notNull]
      cases heap.object element.proxy.handle with
      | error e => rfl
      | ok obj =>
        by_cases fits : b.package.isA obj.cls l.elementClass = true
        · simp only [Except.map,fits,if_true]
          rfl
        · simp only [Except.map,fits]
          rfl
    · simp only [validating,checks]
      rfl

/-- A check of an element before a call does no harm if the call fails where the check does. -/
theorem agree_element {guard : Prop} (v : Validation) {rest : Handle → Action Unit}
    (fails : ∀ h e, Heap.checkElement b.package heap l.elementClass h = .error e →
      ∃ e', b.onHeap (rest h) heap = (.error e',heap) ∧ (guard → e = e')) :
    Agree guard (b.onHeap (l.checkedElement (b.validating v) element >>= rest) heap)
      (b.onHeap (l.checkedElement b.trusting element >>= rest) heap) := by
  rw [onHeap_bind,onHeap_bind,trusting,onHeap_checkedElement,onHeap_checkedElement]
  cases element.proxy.live with
  | error e => exact .refl _
  | ok h =>
    cases checks : v.elementClasses with
    | false => exact .refl _
    | true =>
      cases checked : Heap.checkElement b.package heap l.elementClass h with
      | ok =>
        simp only [bind,Except.bind,checked,if_true]
        exact .refl _
      | error e =>
        obtain ⟨e',failed,same⟩ := fails h e checked
        simp only [bind,Except.bind,checked,if_true,Bool.false_eq_true,if_false]
        show Agree guard _ (b.onHeap (rest h) heap)
        rw [failed]
        exact .failed same

/-- Appending comes to the same with and without the check of the element. -/
theorem agree_pushBack (truthful : l.Truthful heap) (v : Validation) : Agree (l.proxy.Usable heap)
    (b.onHeap (l.pushBack (b.validating v) element) heap) (b.onHeap (l.pushBack b.trusting element) heap) := by
  refine .live fun unreleased => agree_element v fun h e refused => ?_
  show ∃ e', b.onHeap (b.call (.pushBack l.proxy.handle h)) heap = _ ∧ _
  rw [onHeap_call]
  rcases truthful unreleased with lost | ⟨list,there,sameClass⟩
  · obtain ⟨e',failed⟩ := Heap.pushBack_of_lost lost
    exact ⟨e',Heap.commit_of_failed failed,fun usable => absurd lost usable.not_lost⟩
  · rw [← sameClass] at refused
    exact ⟨e,Heap.commit_of_failed (Heap.pushBack_of_refused there refused),fun _ => rfl⟩

/-- An insertion has looked at the list before it looks at the element, so here the results agree without a guard. -/
theorem agree_insertAt (truthful : l.Truthful heap) (v : Validation) (i : UInt64) : Agree True
    (b.onHeap (l.insertAt (b.validating v) i element) heap) (b.onHeap (l.insertAt b.trusting i element) heap) := by
  refine .live fun unreleased => .bind rfl fun length next counted => ?_
  obtain ⟨rfl,list,there,rfl⟩ := onHeap_size_eq_ok counted
  by_cases outside : UInt64.ofNat list.items.length < i
  · simp only [outside,if_true]
    rw [onHeap_bind,onHeap_bind,onHeap_throw]
    exact .refl _
  · simp only [outside,if_false]
    refine agree_element v fun h e refused => ?_
    show ∃ e', b.onHeap (b.call (.insertAt l.proxy.handle i h)) heap = _ ∧ _
    rw [onHeap_call]
    rcases truthful unreleased with lost | ⟨same,again,sameClass⟩
    · cases lost.symm.trans there
    · cases there.symm.trans again
      have inside : i.toNat ≤ list.items.length := by
        rw [UInt64.lt_iff_toNat_lt,UInt64.toNat_ofNat'] at outside
        have := Nat.mod_le list.items.length (2 ^ 64)
        omega
      rw [← sameClass] at refused
      exact ⟨e,Heap.commit_of_failed (Heap.insertAt_of_refused there inside refused),fun _ => rfl⟩

/-- Appending a list comes to the same with and without the check of its class. -/
theorem agree_insertAll (truthful : l.Truthful heap) (otherTruthful : other.Truthful heap) (v : Validation) :
    Agree (l.proxy.Usable heap ∧ other.proxy.Usable heap) (b.onHeap (l.insertAll (b.validating v) other) heap)
      (b.onHeap (l.insertAll b.trusting other) heap) := by
  refine .live fun unreleased => .live fun otherUnreleased => agree_refuse fun refused => ?_
  show ∃ e', b.onHeap (b.call (.insertAll l.proxy.handle other.proxy.handle)) heap = _ ∧ _
  rw [onHeap_call]
  by_cases lost : heap.get? l.proxy.handle = none ∨ heap.get? other.proxy.handle = none
  · obtain ⟨e,failed⟩ := Heap.insertAll_of_lost lost
    refine ⟨e,Heap.commit_of_failed failed,fun usable => ?_⟩
    exact absurd lost (not_or.mpr ⟨usable.1.not_lost,usable.2.not_lost⟩)
  · rw [not_or] at lost
    obtain ⟨list,there,sameClass⟩ := (truthful unreleased).resolve_left lost.1
    obtain ⟨given,atSource,otherClass⟩ := (otherTruthful otherUnreleased).resolve_left lost.2
    have misfit : b.package.isA given.elementClass list.elementClass = false := by
      rw [Bool.and_eq_true,Bool.not_eq_true'] at refused
      rw [sameClass,otherClass]
      exact refused.2
    refine ⟨_,Heap.commit_of_failed (Heap.insertAll_of_misfit atSource there misfit),fun _ => ?_⟩
    rw [sameClass,otherClass]
    rfl

/-! ### The checks of proxies -/

/-- What work comes to on the in-memory native side, and the heap that it leaves. -/
def outcome {α : Type} (b : Bridge) (x : Action α) (native : Native) : Except Error α × Heap :=
  ((b.runInMemory x.run native).1,(b.runInMemory x.run native).2.heap)

theorem outcome_eq_onHeap {α : Type} (b : Bridge) (x : Action α) (native : Native) :
    b.outcome x native = b.onHeap x native.heap :=
  (b.run_answerOnHeap x.run native).symm

/-- Whether work succeeds and which heap it leaves are the same whatever the proxies check, and under the guard so is
the result. -/
def Indifferent (b : Bridge) (native : Native) (guard : Prop) (work : Bridge → Action Unit) : Prop :=
  ∀ v w : Validation, Agree guard ((b.validating v).outcome (work (b.validating v)) native)
    ((b.validating w).outcome (work (b.validating w)) native)

/-- Work that agrees with its unchecked form under all settings is indifferent to them. -/
theorem indifferent_of_agree {native : Native} {guard : Prop} {work : Bridge → Action Unit}
    (agree : ∀ v, Agree guard (b.onHeap (work (b.validating v)) native.heap) (b.onHeap (work b.trusting) native.heap)) :
    b.Indifferent native guard work := by
  intro v w
  rw [outcome_eq_onHeap,outcome_eq_onHeap]
  exact (agree v).trans (agree w).symm

/-- The checks of the proxies decide nothing: they neither make a call fail or succeed nor change what it does, and a
failure is the one that the heap has for it as long as the object or the lists are there to be looked at. -/
structure DecidesNothing (b : Bridge) (native : Native) (os : List ObjectProxy) (ls : List ListProxy) : Prop where
  set : ∀ o ∈ os, ∀ f v, b.Indifferent native (o.proxy.Usable native.heap) fun b => o.set b f v
  pushBack : ∀ l ∈ ls, ∀ element, b.Indifferent native (l.proxy.Usable native.heap) fun b => l.pushBack b element
  insertAt : ∀ l ∈ ls, ∀ i element, b.Indifferent native (l.proxy.Usable native.heap) fun b => l.insertAt b i element
  insertAll : ∀ l ∈ ls, ∀ other ∈ ls, b.Indifferent native (l.proxy.Usable native.heap ∧ other.proxy.Usable native.heap)
    fun b => l.insertAll b other

/-- In every state that a bridge reaches on the in-memory heap without letting a generation come round, the checks of
its proxies decide nothing. An element may be any object proxy at all. -/
theorem validation_decides_nothing {b : Bridge} {state : Native × List Asked} {os : List ObjectProxy}
    {ls : List ListProxy} (built : b.package.Built) (addressable : b.package.Addressable)
    (reached : b.Reached state os ls) (bounded : Heap.Bounded b.package b.config.heap (callsIn state.2)) :
    b.DecidesNothing state.1 os ls := by
  have informed := reached.informed built addressable bounded
  have object : ∀ o ∈ os, o.Truthful b.package state.1.heap := by
    intro o member
    rw [reached.heap_eq]
    exact (informed.objects o member).truthful built bounded
  have list : ∀ l ∈ ls, l.Truthful state.1.heap := by
    intro l member
    rw [reached.heap_eq]
    exact (informed.lists l member).truthful built bounded
  constructor
  · intro o member f v
    exact indifferent_of_agree (agree_set (object o member))
  · intro l member element
    exact indifferent_of_agree (agree_pushBack (list l member))
  · intro l member i element
    exact indifferent_of_agree fun v => (agree_insertAt (list l member) v i).imp fun _ => trivial
  · intro l member other otherMember
    exact indifferent_of_agree (agree_insertAll (list l member) (list other otherMember))

/-- A node and the list of its children can both be got and used. -/
theorem validation_decides_nothing_of_node : ∃ state o l, Reached ⟨forest,{}⟩ state [o] [l] ∧
    o.proxy.Usable state.1.heap ∧ l.proxy.Usable state.1.heap ∧ DecidesNothing ⟨forest,{}⟩ state.1 [o] [l] := by
  have node : Reached ⟨forest,{}⟩ _ [_] [] :=
    .object none (.owning (.ofSlot 0 1)) (.work (call ⟨forest,{}⟩ (.create ⟨1⟩)).run .start) rfl
  have children : Reached ⟨forest,{}⟩ _ [_] [_] := .featureList ⟨1⟩ .reflective node (List.mem_singleton.mpr rfl) rfl
  refine ⟨_,_,_,children,⟨rfl,by decide +kernel⟩,⟨rfl,by decide +kernel⟩,?_⟩
  exact validation_decides_nothing forest_built forest_addressable children
    (Heap.bounded_of_short (by decide +kernel) (by decide +kernel))

end Bridge

end HandleBridge
