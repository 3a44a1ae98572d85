import HandleBridge.Proofs.BulkOperations
import HandleBridge.Proofs.Validation

/-!
Reading lists. The view of a list proxy is checked once, when the proxy is made, against the element class of the list.
As elements are of that class or destroyed, whatever way they came in, and as deriving is transitive, no element is ever
of the wrong class for the view, so reading a list fails for a bad index or a destroyed element only
(`lists_read_back`).
-/

namespace HandleBridge

/-- The view of a list proxy is good for elements of its class. -/
def ListProxy.Suits (p : Package) (l : ListProxy) : Prop :=
  ∀ name, l.element.required = some name → ∃ t, p.classNamed? name = some t ∧ p.isA l.elementClass t.id = true

/-- The list of the proxy is there and has the elements, which can be counted. -/
structure ListProxy.Filled (heap : Heap) (l : ListProxy) (xs : List Handle) : Prop where
  live : l.proxy.live = .ok l.proxy.handle
  contents : heap.contents l.proxy.handle = some xs
  countable : xs.length < 2 ^ 64

/-- What a run destroyed can be told from null and is not there any more. -/
theorem Heap.Destroyed.dead {p : Package} {settings : HeapSettings} {calls : List (Call Value)} {x : Handle}
    (destroyed : Heap.Destroyed p settings calls x) (built : p.Built) (bounded : Heap.Bounded p settings calls) :
    (Heap.empty.after p settings calls).Dead x := by
  obtain ⟨freed,gone⟩ := destroyed
  obtain ⟨i,names,-⟩ := (Heap.chronicled_after built bounded).freed x freed
  exact ⟨Handle.isNull_of_slot? names,Arena.isLive_false_iff.mp gone⟩

theorem Heap.object_of_dead {heap : Heap} {x : Handle} (dead : heap.Dead x) :
    heap.object x = .error (.staleHandle x) := by
  obtain ⟨notNull,vacant⟩ := dead
  simp [object,find,notNull,vacant,bind,Except.bind]

namespace Bridge

variable {b : Bridge} {heap last : Heap} {l : ListProxy} {o : ObjectProxy} {xs : List Handle} {i : UInt64} {x : Handle}
  {view : View}

theorem checkView_eq_ok {c : ClassId} (checked : b.checkView c view = .ok ()) :
    ∀ name, view.required = some name → ∃ t, b.package.classNamed? name = some t ∧ b.package.isA c t.id = true := by
  intro name required
  unfold checkView at checked
  simp only [required,bind_eq_ok_iff] at checked
  obtain ⟨-,-,t,named,checked⟩ := checked
  split at checked
  · rename_i derives
    exact ⟨t,Package.requireNamed_eq_ok_iff.mp named,derives⟩
  · cases checked

theorem suits_of_createListOf {name : String} (made : b.onHeap (b.createListOf view name) heap = (.ok l,last)) :
    l.Suits b.package := by
  simp only [createListOf,onHeap_bind_eq_ok,onHeap_lift_eq_ok] at made
  obtain ⟨cls,_,⟨-,rfl⟩,_,_,⟨checked,rfl⟩,_,_,-,_,_,-,made⟩ := made
  cases made
  exact checkView_eq_ok checked

theorem suits_of_borrowList {h : Handle} {c : ClassId} (borrowed : b.borrowList view h c = .ok l) :
    l.Suits b.package := by
  simp only [borrowList,bind_eq_ok_iff] at borrowed
  obtain ⟨⟨⟩,checked,borrowed⟩ := borrowed
  cases borrowed
  exact checkView_eq_ok checked

theorem suits_of_list {f : FeatureId} (got : b.onHeap (o.list b f view) heap = (.ok l,last)) : l.Suits b.package := by
  simp only [ObjectProxy.list,onHeap_bind_eq_ok,onHeap_lift_eq_ok] at got
  obtain ⟨feature,_,-,got⟩ := got
  split at got
  · simp only [onHeap_bind_eq_ok] at got
    obtain ⟨cls,_,-,v,_,-,got⟩ := got
    split at got
    · split at got
      · cases got
      · exact suits_of_borrowList (onHeap_lift_eq_ok.mp got).1
    · cases got
  · cases got

/-- In every state that a bridge reaches, the views of its list proxies are good for the elements. -/
theorem Reached.suits {state : Native × List Asked} {os : List ObjectProxy} {ls : List ListProxy}
    (reached : b.Reached state os ls) : ∀ l ∈ ls, l.Suits b.package := by
  induction reached with
  | start => simp
  | work _ _ ih => exact ih
  | object _ _ _ _ ih => exact ih
  | newList _ _ _ made ih => exact List.forall_mem_cons.mpr ⟨suits_of_createListOf (onHeap_of_recording made),ih⟩
  | featureList _ _ _ _ got ih => exact List.forall_mem_cons.mpr ⟨suits_of_list (onHeap_of_recording got),ih⟩
  | retireObject _ _ ih => exact ih
  | @retireList _ _ _ l _ member ih => exact List.forall_mem_cons.mpr ⟨ih l member,ih⟩

section
variable (filled : l.Filled heap xs)
include filled

theorem onHeap_size : b.onHeap (l.size b) heap = (.ok (UInt64.ofNat xs.length),heap) := by
  obtain ⟨list,found,rfl⟩ := Heap.contents_eq_some_iff.mp filled.contents
  rw [ListProxy.size,onHeap_bind,onHeap_lift,filled.live]
  show b.onHeap (b.call (.listSize l.proxy.handle)) heap = _
  rw [onHeap_call]
  simp only [Heap.respond,Heap.answer,Heap.observe,Heap.listSize,Heap.list_eq_ok_iff.mpr found]
  rfl

theorem inside_iff : i < UInt64.ofNat xs.length ↔ i.toNat < xs.length := by
  rw [UInt64.lt_iff_toNat_lt,UInt64.toNat_ofNat_of_lt' filled.countable]

theorem onHeap_handleAt_outside (outside : xs.length ≤ i.toNat) :
    b.onHeap (l.handleAt b i) heap = (.error (.indexOutOfRange i (UInt64.ofNat xs.length)),heap) := by
  rw [ListProxy.handleAt,onHeap_bind,onHeap_lift,filled.live]
  dsimp only
  rw [onHeap_bind,onHeap_size filled]
  dsimp only
  rw [if_neg (mt (inside_iff filled).mp (Nat.not_lt.mpr outside)),onHeap_bind,onHeap_throw]

theorem onHeap_handleAt_inside (there : xs[i.toNat]? = some x) : b.onHeap (l.handleAt b i) heap = (.ok x,heap) := by
  obtain ⟨inside,-⟩ := List.getElem?_eq_some_iff.mp there
  rw [ListProxy.handleAt,onHeap_bind,onHeap_lift,filled.live]
  dsimp only
  rw [onHeap_bind,onHeap_size filled]
  dsimp only
  rw [if_pos ((inside_iff filled).mpr inside)]
  show b.onHeap (b.call (.listAt l.proxy.handle i)) heap = _
  rw [onHeap_call]
  obtain ⟨list,found,rfl⟩ := Heap.contents_eq_some_iff.mp filled.contents
  simp only [Heap.respond,Heap.answer,Heap.observe,Heap.listAt,Heap.list_eq_ok_iff.mpr found,bind,Except.bind,there]
  rfl

theorem toNat_next (inside : i.toNat < xs.length) : (i + 1).toNat = i.toNat + 1 := by
  rw [UInt64.toNat_add]
  exact Nat.mod_eq_of_lt (Nat.lt_of_le_of_lt inside filled.countable)

theorem onHeap_handlesFrom (count : Nat) (within : i.toNat + count ≤ xs.length) :
    b.onHeap (l.handlesFrom b i count) heap = (.ok ((xs.drop i.toNat).take count),heap) := by
  induction count generalizing i with
  | zero => rfl
  | succ count ih =>
    have inside : i.toNat < xs.length := by omega
    have next := toNat_next filled inside
    rw [ListProxy.handlesFrom,onHeap_bind,onHeap_handleAt_inside filled (List.getElem?_eq_getElem inside)]
    dsimp only
    rw [onHeap_bind,ih (by omega),next,List.drop_eq_getElem_cons inside]
    rfl

/-- The handles of a list are its elements, in order. -/
theorem onHeap_handles : b.onHeap (l.handles b) heap = (.ok xs,heap) := by
  rw [ListProxy.handles,onHeap_bind,onHeap_size filled]
  dsimp only
  rw [UInt64.toNat_ofNat_of_lt' filled.countable,onHeap_handlesFrom filled _ (Nat.zero_add _).le]
  exact congrArg (fun handles => (Except.ok handles,heap)) List.take_length

end

theorem onHeap_wrapBorrowed_null : b.onHeap (b.wrapBorrowed view .null) heap = (.ok none,heap) := rfl

theorem onHeap_wrapBorrowed (notNull : x.isNull = false) : b.onHeap (b.wrapBorrowed view x) heap =
    match b.onHeap (b.inspect (.borrowing x) view.required) heap with
    | (.ok (base,cls),next) => (.ok (some ⟨.borrowing x,base,cls⟩),next)
    | (.error e,next) => (.error e,next) := by
  have given : x.nonNull? = some x := by rw [Handle.nonNull?,notNull]; rfl
  rw [wrapBorrowed,given]
  dsimp only
  rw [map_eq_pure_bind,onHeap_bind,onHeap_wrap,Proxy.drop_of_not_owns b (Proxy.owns_borrowing x)]
  generalize b.onHeap (b.inspect (.borrowing x) view.required) heap = looked
  obtain ⟨e | ⟨base,cls⟩,next⟩ := looked <;> rfl

section
variable {p : Proxy} {required : Option String} (live : p.live = .ok x)
include live

theorem onHeap_inspect_of_failed {e : Error} (failed : heap.object x = .error e) :
    b.onHeap (b.inspect p required) heap = (.error e,heap) := by
  have upcast : b.onHeap (b.call (.upcast x)) heap = ((heap.object x).map fun _ => x,heap) :=
    b.onHeap_call heap b (.upcast x)
  rw [inspect,onHeap_bind,onHeap_lift,live]
  dsimp only
  rw [onHeap_bind,upcast,failed]
  rfl

theorem onHeap_inspect_of_found {obj : ObjectData} {cls : ClassType} (found : heap.get? x = some (.object obj))
    (known : b.package.class? obj.cls = some cls) (fits : ∀ name, required = some name →
      ∃ t, b.package.classNamed? name = some t ∧ cls.isSubtypeOf t.id = true) :
    b.onHeap (b.inspect p required) heap = (.ok (x,cls),heap) := by
  have upcast : b.onHeap (b.call (.upcast x)) heap = ((heap.object x).map fun _ => x,heap) :=
    b.onHeap_call heap b (.upcast x)
  have classOf : b.onHeap (b.call (.classOf x)) heap = ((heap.object x).map ObjectData.cls,heap) :=
    b.onHeap_call heap b (.classOf x)
  rw [Heap.object_eq_ok_iff.mpr found] at upcast classOf
  rw [inspect,onHeap_bind,onHeap_lift,live]
  dsimp only
  rw [onHeap_bind,upcast]
  simp only [Except.map]
  rw [onHeap_bind,classOf]
  simp only [Except.map]
  rw [onHeap_bind,onHeap_lift,Package.require_eq_ok_iff.mpr known]
  cases required with
  | none => rfl
  | some name =>
    obtain ⟨t,named,derives⟩ := fits name rfl
    dsimp only
    rw [onHeap_bind,onHeap_lift,Package.requireNamed_eq_ok_iff.mpr named]
    dsimp only
    rw [if_pos derives]
    rfl

end

/-- A destroyed element makes no proxy, and the error names it. -/
theorem onHeap_wrapBorrowed_dead (dead : heap.Dead x) :
    b.onHeap (b.wrapBorrowed view x) heap = (.error (.staleHandle x),heap) := by
  have live : (Proxy.borrowing x).live = .ok x := Proxy.live_eq_ok_iff.mpr ⟨rfl,dead.1,rfl⟩
  rw [onHeap_wrapBorrowed dead.1,onHeap_inspect_of_failed live (Heap.object_of_dead dead)]

theorem onHeap_wrapBorrowed_object {obj : ObjectData} {cls : ClassType} (found : heap.get? x = some (.object obj))
    (known : b.package.class? obj.cls = some cls) (fits : ∀ name, view.required = some name →
      ∃ t, b.package.classNamed? name = some t ∧ cls.isSubtypeOf t.id = true) :
    b.onHeap (b.wrapBorrowed view x) heap = (.ok (some ⟨.borrowing x,x,cls⟩),heap) := by
  have notNull := Arena.isNull_of_get? found
  have live : (Proxy.borrowing x).live = .ok x := Proxy.live_eq_ok_iff.mpr ⟨rfl,notNull,rfl⟩
  rw [onHeap_wrapBorrowed notNull,onHeap_inspect_of_found live found known fits]

/-- The element at an index inside of the list is the one behind its handle. -/
theorem onHeap_elementAt_inside (filled : l.Filled heap xs) (there : xs[i.toNat]? = some x) :
    b.onHeap (l.elementAt b i) heap = b.onHeap (b.wrapBorrowed l.element x) heap := by
  rw [ListProxy.elementAt,onHeap_bind,onHeap_handleAt_inside filled there]

/-- An index beyond the list is refused with the index and the length. -/
theorem onHeap_elementAt_outside (filled : l.Filled heap xs) (outside : xs.length ≤ i.toNat) :
    b.onHeap (l.elementAt b i) heap = (.error (.indexOutOfRange i (UInt64.ofNat xs.length)),heap) := by
  rw [ListProxy.elementAt,onHeap_bind,onHeap_handleAt_outside filled outside]

end Bridge

/-! ### Reading -/

/-- What a proxy shows of an element that is alive: a proxy that borrows it and knows its class, which derives from the
element class of the list and from the class of the view. -/
structure ListProxy.Presents (p : Package) (heap : Heap) (l : ListProxy) (x : Handle) (element : ObjectProxy) :
    Prop where
  borrows : element.proxy = .borrowing x
  base : element.base = x
  found : ∃ obj, heap.get? x = some (.object obj) ∧ p.class? obj.cls = some element.cls
  derives : p.isA element.cls.id l.elementClass = true
  fits : ∀ name, l.element.required = some name →
    ∃ t, p.classNamed? name = some t ∧ p.isA element.cls.id t.id = true

/-- What reading a list comes to, given which handles are of objects that were destroyed. Reading leaves the heap as it
is. -/
structure ListProxy.ReadsBack (b : Bridge) (native : Native) (gone : Handle → Prop) (l : ListProxy)
    (xs : List Handle) : Prop where
  outside : ∀ i, xs.length ≤ i.toNat →
    b.outcome (l.elementAt b i) native = (.error (.indexOutOfRange i (UInt64.ofNat xs.length)),native.heap)
  null : ∀ i, xs[i.toNat]? = some .null → b.outcome (l.elementAt b i) native = (.ok none,native.heap)
  alive : ∀ i x, xs[i.toNat]? = some x → native.heap.isLive x = true →
    ∃ element, b.outcome (l.elementAt b i) native = (.ok (some element),native.heap) ∧
      l.Presents b.package native.heap x element
  destroyed : ∀ i x, xs[i.toNat]? = some x → gone x →
    b.outcome (l.elementAt b i) native = (.error (.staleHandle x),native.heap)
  /-- There are no other elements. -/
  complete : ∀ x ∈ xs, x = .null ∨ native.heap.isLive x = true ∨ gone x
  handles : b.outcome (l.handles b) native = (.ok xs,native.heap)
  iterate : b.outcome (l.iterate b) native = (.ok (UInt64.ofNat xs.length,(List.range xs.length).map fun i =>
    (b.outcome (l.elementAt b (UInt64.ofNat i)) native).1),native.heap)

namespace Bridge

variable {b : Bridge} {heap : Heap} {l : ListProxy} {xs : List Handle} {i : UInt64} {x : Handle} {gone : Handle → Prop}

/-- Of an element that is alive a proxy shows what it is, whatever class the view asks for. -/
theorem onHeap_element (built : b.package.Built) (addressable : b.package.Addressable)
    (wellFormed : Heap.WellFormed b.package heap) (suits : l.Suits b.package)
    (refers : Heap.Refers b.package gone heap l.elementClass x) (dead : ∀ x, gone x → heap.Dead x)
    (live : heap.isLive x = true) :
    ∃ element, b.onHeap (b.wrapBorrowed l.element x) heap = (.ok (some element),heap) ∧
      l.Presents b.package heap x element := by
  obtain ⟨entry,there⟩ := Arena.isLive_iff.mp live
  rcases refers with rfl | isGone | ⟨obj,found,derives⟩
  · cases Arena.isNull_of_get? there
  · cases there.symm.trans (dead x isGone).2
  · obtain ⟨cls,object⟩ := wellFormed.objects x obj found
    have known := object.known
    rw [← built.id_eq known] at derives
    have fits : ∀ name, l.element.required = some name →
        ∃ t, b.package.classNamed? name = some t ∧ b.package.isA cls.id t.id = true := by
      intro name required
      obtain ⟨t,named,above⟩ := suits name required
      exact ⟨t,named,built.isA_trans addressable derives above⟩
    refine ⟨_,onHeap_wrapBorrowed_object found known fun name required => ?_,⟨rfl,rfl,⟨obj,found,known⟩,derives,fits⟩⟩
    obtain ⟨t,named,below⟩ := fits name required
    rw [Package.isA,built.id_eq known,known] at below
    exact ⟨t,named,below⟩

theorem onHeap_always {α : Type} (r : Routine α) :
    b.onHeap (liftM r) heap = (.ok (r.run b.answerOnHeap heap).1,(r.run b.answerOnHeap heap).2) := by
  show (r >>= fun a => pure (Except.ok a) : Routine (Except Error α)).run b.answerOnHeap heap = _
  rw [Script.run_seq]
  rfl

/-- An iteration that changes nothing gives one element after the other. -/
theorem run_itemsFrom (filled : l.Filled heap xs)
    (still : ∀ i : UInt64, i.toNat < xs.length → (b.onHeap (l.elementAt b i) heap).2 = heap) (count : Nat)
    (within : i.toNat + count ≤ xs.length) : (l.itemsFrom b i count).run b.answerOnHeap heap =
      ((List.range' i.toNat count).map fun k => (b.onHeap (l.elementAt b (UInt64.ofNat k)) heap).1,heap) := by
  induction count generalizing i with
  | zero => rfl
  | succ count ih =>
    have inside : i.toNat < xs.length := by omega
    have next := toNat_next filled inside
    have item : (l.elementAt b i).run.run b.answerOnHeap heap = ((b.onHeap (l.elementAt b i) heap).1,heap) :=
      Prod.ext rfl (still i inside)
    rw [ListProxy.itemsFrom,Script.run_seq,item,Script.run_seq,ih (by omega),next,List.range'_succ,List.map_cons,
      UInt64.ofNat_toNat]
    rfl

theorem onHeap_iterate (filled : l.Filled heap xs)
    (still : ∀ i : UInt64, i.toNat < xs.length → (b.onHeap (l.elementAt b i) heap).2 = heap) :
    b.onHeap (l.iterate b) heap = (.ok (UInt64.ofNat xs.length,
      (List.range xs.length).map fun k => (b.onHeap (l.elementAt b (UInt64.ofNat k)) heap).1),heap) := by
  have count := UInt64.toNat_ofNat_of_lt' filled.countable
  have items := run_itemsFrom filled still (i := 0) xs.length (Nat.zero_add _).le
  rw [ListProxy.iterate,onHeap_bind,onHeap_size filled]
  dsimp only
  rw [count,onHeap_bind,onHeap_always,items,List.range_eq_range']
  rfl

/-- A filled list reads back when its elements refer to what they should. -/
theorem readsBack {native : Native} (built : b.package.Built) (addressable : b.package.Addressable)
    (wellFormed : Heap.WellFormed b.package native.heap) (suits : l.Suits b.package) (filled : l.Filled native.heap xs)
    (refers : ∀ x ∈ xs, Heap.Refers b.package gone native.heap l.elementClass x)
    (dead : ∀ x, gone x → native.heap.Dead x) : l.ReadsBack b native gone xs := by
  have alive : ∀ x ∈ xs, native.heap.isLive x = true → ∃ element,
      b.onHeap (b.wrapBorrowed l.element x) native.heap = (.ok (some element),native.heap) ∧
        l.Presents b.package native.heap x element :=
    fun x member => onHeap_element built addressable wellFormed suits (refers x member) dead
  have complete : ∀ x ∈ xs, x = .null ∨ native.heap.isLive x = true ∨ gone x := by
    intro x member
    rcases refers x member with isNull | isGone | ⟨obj,found,-⟩
    · exact .inl isNull
    · exact .inr (.inr isGone)
    · exact .inr (.inl (Arena.isLive_iff.mpr ⟨_,found⟩))
  -- Iterating reads each element on the heap that the one before it left, so no read may change anything.
  have still : ∀ i : UInt64, i.toNat < xs.length → (b.onHeap (l.elementAt b i) native.heap).2 = native.heap := by
    intro i inside
    rw [onHeap_elementAt_inside filled (List.getElem?_eq_getElem inside)]
    have member := List.getElem_mem inside
    rcases complete _ member with isNull | live | isGone
    · rw [isNull,onHeap_wrapBorrowed_null]
    · obtain ⟨element,read,-⟩ := alive _ member live
      rw [read]
    · rw [onHeap_wrapBorrowed_dead (dead _ isGone)]
  refine ⟨?_,?_,?_,?_,complete,?_,?_⟩ <;> simp only [outcome_eq_onHeap]
  · exact fun i outside => onHeap_elementAt_outside filled outside
  · exact fun i there => onHeap_elementAt_inside filled there
  · intro i x there live
    rw [onHeap_elementAt_inside filled there]
    exact alive x (List.mem_of_getElem? there) live
  · intro i x there isGone
    rw [onHeap_elementAt_inside filled there,onHeap_wrapBorrowed_dead (dead x isGone)]
  · exact onHeap_handles filled
  · exact onHeap_iterate filled still

/-- In every state that a bridge reaches on the in-memory heap without letting a generation come round, reading the list
of a proxy fails for an index outside of the list or an element that was destroyed, and otherwise gives what is there. -/
theorem lists_read_back {state : Native × List Asked} {os : List ObjectProxy} {ls : List ListProxy}
    (built : b.package.Built) (addressable : b.package.Addressable) (reached : b.Reached state os ls)
    (bounded : Heap.Bounded b.package b.config.heap (callsIn state.2)) (member : l ∈ ls)
    (usable : l.proxy.Usable state.1.heap) :
    ∃ xs, state.1.heap.contents l.proxy.handle = some xs ∧ (xs.length < 2 ^ 64 →
      l.ReadsBack b state.1 (Heap.Destroyed b.package b.config.heap (callsIn state.2)) xs) := by
  have truthful := ((reached.informed built addressable bounded).lists l member).truthful built bounded
  have wellFormed := Heap.wellFormed_after built addressable .empty Heap.sound_empty bounded.few
  have typed := Heap.typed_of_bounded built addressable bounded
  have dead := fun x destroyed => Heap.Destroyed.dead (x := x) destroyed built bounded
  rw [← reached.heap_eq] at truthful wellFormed typed dead
  -- The typing of the heap speaks of the element class of the list, which is the one that the proxy has cached.
  obtain ⟨list,found,sameClass⟩ := (truthful usable.1).resolve_left usable.not_lost
  refine ⟨list.items,Heap.contents_of_get? found,fun countable => ?_⟩
  refine readsBack built addressable wellFormed (reached.suits l member) ⟨usable.live,?_,countable⟩ ?_ dead
  · exact Heap.contents_of_get? found
  · exact sameClass ▸ typed.items _ list found

/-- Puts a leaf, null and another leaf into a list, and destroys the other leaf. -/
def losesLeaf : Action Unit := do
  call ⟨forest,{}⟩ (.pushBack (.ofSlot 4 1) (.ofSlot 0 1))
  call ⟨forest,{}⟩ (.pushBack (.ofSlot 4 1) .null)
  call ⟨forest,{}⟩ (.pushBack (.ofSlot 4 1) (.ofSlot 2 1))
  call ⟨forest,{}⟩ (.destroy (.ofSlot 2 1))

/-- A list of leaves can be got, filled and read as a list of nodes. -/
theorem lists_read_back_after_losesLeaf : ∃ state l, Reached ⟨forest,{}⟩ state [] [l] ∧
    l.proxy.Usable state.1.heap ∧ l.element.required = some "Node" ∧ l.ReadsBack ⟨forest,{}⟩ state.1
      (Heap.Destroyed forest {} (callsIn state.2)) [.ofSlot 0 1,.null,.ofSlot 2 1] := by
  have leaves : Reached ⟨forest,{}⟩ _ [] [] :=
    .work (call ⟨forest,{}⟩ (.create ⟨2⟩)).run (.work (call ⟨forest,{}⟩ (.create ⟨2⟩)).run .start)
  have listed : Reached ⟨forest,{}⟩ _ [] [⟨.owning (.ofSlot 4 1),⟨2⟩,⟨"Node",some "Node"⟩⟩] :=
    .newList ⟨"Node",some "Node"⟩ "Leaf" leaves rfl
  have filled := listed.work losesLeaf.run
  obtain ⟨xs,contents,reads⟩ := lists_read_back forest_built forest_addressable filled
    (Heap.bounded_of_short (by decide +kernel) (by decide +kernel)) List.mem_cons_self ⟨rfl,by decide +kernel⟩
  have same : xs = [.ofSlot 0 1,.null,.ofSlot 2 1] := Option.some.inj (contents.symm.trans (by decide +kernel))
  exact ⟨_,_,filled,⟨rfl,by decide +kernel⟩,rfl,same ▸ reads (by rw [same]; decide)⟩

end Bridge

end HandleBridge
