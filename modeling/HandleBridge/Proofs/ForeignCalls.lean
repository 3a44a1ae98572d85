import HandleBridge.Foreign.Adapter
import HandleBridge.Foreign.Library
import HandleBridge.Proofs.HeapErrors
import HandleBridge.Proofs.Matching
import HandleBridge.Proofs.RoundTrips

/-!
Calls through a foreign library that follows no script. Each comes to the same as the call on the heap behind the
library: the reply is the same, or the error has the same status, and the heap is the same afterwards, even when the
adapter had to ask the library what exactly went wrong.
-/

namespace HandleBridge

/-- Whether two computations come to the same: to related results, or to failures of one status. -/
abbrev Agrees {α β : Type} (R : α → β → Prop) : Except Error α → Except Error β → Prop :=
  Matches (fun e e' => e.status = e'.status) R

/-- What the adapter makes of an error of the heap: an error of the same status, and one that speaks of a destroyed
object names what the call is about. -/
def Call.Restates (c : Call Value) (e e' : Error) : Prop :=
  e.status = e'.status ∧ ∀ h, e' = .staleHandle h → h = c.target

/-- The low half of an issued handle is one more than the slot, so not all bits are zero. -/
theorem Handle.isNull_ofSlot (slot generation : UInt32) : (ofSlot slot generation).isNull = false := by
  have low : (slot.toUInt64 + 1).toNat = slot.toNat + 1 := by
    have bound := slot.toNat_lt
    simp only [UInt64.toNat_add,UInt32.toNat_toUInt64,UInt64.toNat_one]
    omega
  have within : slot.toNat + 1 ≤ (ofSlot slot generation).id.toNat := by
    rw [ofSlot,UInt64.toNat_or,low]
    exact Nat.right_le_or
  refine decide_eq_false fun isZero => ?_
  rw [isZero] at within
  exact Nat.not_succ_le_zero _ within

namespace Heap

variable {p : Package} {settings : HeapSettings} {heap next : Heap} {h k : Handle}

theorem isNull_of_alloc {entry : Entry} (made : heap.alloc settings entry = .ok (h,next)) : h.isNull = false := by
  have inserted := congrArg Prod.fst (alloc_eq_ok made).1
  revert inserted
  rintro rfl
  unfold Arena.insert
  dsimp only
  split <;> exact Handle.isNull_ofSlot _ _

theorem isNull_of_create {c : ClassId} (done : (create p settings c heap).1 = .ok h) : h.isNull = false := by
  have taken := create_cases p settings c heap
  generalize create p settings c heap = result at taken done
  generalize createLives p settings c heap = lives at taken
  cases taken with
  | refused e => cases done
  | made cls k next known concrete made =>
    obtain ⟨⟨⟩,-,rfl⟩ := map_eq_ok_iff.mp done
    exact isNull_of_alloc made

theorem isNull_of_copy (done : (copy p settings k heap).1 = .ok h) : h.isNull = false := by
  have taken := copy_cases p settings k heap
  generalize copy p settings k heap = result at taken done
  generalize heap.lives p settings (.copy k) = lives at taken
  cases taken with
  | refused e absent => cases done
  | failed o e next found created => cases done
  | made o made next found created =>
    obtain ⟨⟨⟩,-,rfl⟩ := map_eq_ok_iff.mp done
    exact isNull_of_create (congrArg Prod.fst created)

theorem isNull_of_createList {c : ClassId} (done : (commitWith (createList p settings c) heap).1 = .ok h) :
    h.isNull = false := by
  unfold commitWith at done
  split at done
  · rename_i k next made
    cases done
    exact isNull_of_alloc (createList_eq_ok made).2
  · cases done

theorem isNull_of_upcast (done : (heap.respond p settings (.upcast k)).1 = .ok h) : h.isNull = false := by
  obtain ⟨o,found,rfl⟩ := map_eq_ok_iff.mp done
  exact Arena.isNull_of_get? (object_eq_ok_iff.mp found)

end Heap

/-! ### Exchanges with a library that follows no script -/

namespace Foreign

variable {p : Package} {settings : HeapSettings} {heap mid next : Heap} {α β : Type}

/-- Whether a library keeps its objects in the heap and follows no script. -/
structure Library.Keeps (library : Library) (heap : Heap) : Prop where
  heap : library.native.heap = heap
  unscripted : library.faults = []

/-- Whether an exchange takes the heap behind every library that follows no script from one to another, with a
result of a given sort. -/
def Exchange.Leads (p : Package) (settings : HeapSettings) (heap next : Heap) (x : Exchange α) (post : α → Prop) :
    Prop :=
  ∀ library : Library, library.Keeps heap →
    post (x.run (Library.answer p settings) library).1 ∧ (x.run (Library.answer p settings) library).2.Keeps next

namespace Exchange.Leads

theorem pure {post : α → Prop} {a : α} (holds : post a) : Leads p settings heap heap (Pure.pure a) post :=
  fun _ keeps => ⟨holds,keeps⟩

theorem bind {x : Exchange α} {f : α → Exchange β} {post : α → Prop} {last : β → Prop}
    (first : Leads p settings heap mid x post) (rest : ∀ a, post a → Leads p settings mid next (f a) last) :
    Leads p settings heap next (x >>= f) last := by
  intro library keeps
  obtain ⟨holds,then'⟩ := first library keeps
  have run : (x >>= f).run (Library.answer p settings) library =
      (f (x.run (Library.answer p settings) library).1).run (Library.answer p settings)
        (x.run (Library.answer p settings) library).2 := by
    show (Script.bind x f).run _ library = _
    rw [Script.run_bind]
    rfl
  rw [run]
  exact rest _ holds _ then'

/-- What is made of the result at the end. -/
theorem returns {x : Exchange α} {f : α → β} {post : α → Prop} {last : β → Prop}
    (leads : Leads p settings heap next x post) (holds : ∀ a, post a → last (f a)) :
    Leads p settings heap next (do return f (← x)) last :=
  leads.bind fun a ofA => .pure (holds a ofA)

end Exchange.Leads

/-- Whether what stands in the place for the result of a call is the foreign form of the reply. -/
def Means : (c : Call Value) → c.Reply → (c.map RawValue.borrow).Reply → Prop
  | .get _ _ _,v,raw => raw.toValue = .ok v
  | .create _,reply,out | .createList _,reply,out | .upcast _,reply,out | .copy _,reply,out
  | .listAt _ _,reply,out => reply = out
  | .classOf _,reply,out => reply = out
  | .isSet _ _,reply,out => reply = out
  | .listSize _,reply,out => reply = out
  | .destroy _,reply,out | .initialise _,reply,out | .set _ _ _,reply,out | .unset _ _,reply,out
  | .pushBack _ _,reply,out | .insertAt _ _ _,reply,out | .insertAll _ _,reply,out | .clear _,reply,out => reply = out

/-- What an entry leaves behind when the heap answers its call: the reply, or the status of the error. -/
inductive Served (c : Call Value) : Except Error c.Reply → Outcome (c.map RawValue.borrow).Reply → Prop where
  | ok {reply : c.Reply} {out : (c.map RawValue.borrow).Reply} (means : Means c reply out) :
    Served c (.ok reply) ⟨.ok,out⟩
  | error (e : Error) (out : (c.map RawValue.borrow).Reply) : Served c (.error e) ⟨e.status,out⟩

/-- Whether an entry leaves behind what it has to, in a library that has gone on from one to another heap. -/
def Serves (p : Package) (settings : HeapSettings) (heap : Heap) (c : Call Value)
    (result : Outcome (c.map RawValue.borrow).Reply × Library) : Prop :=
  Served c (heap.respond p settings c).1 result.1 ∧ result.2.Keeps (heap.respond p settings c).2

/-- Text that is handed out is a copy, and stands for the same value. -/
theorem copyOut_spec (library : Library) (keeps : library.Keeps heap) (v : Value) :
    (Library.copyOut v library).1.toValue = .ok v ∧ (Library.copyOut v library).2.Keeps heap := by
  unfold Library.copyOut
  cases lent : (RawValue.borrow v).buffer? with
  | some buffer => exact ⟨RawValue.toValue_moved lent _,keeps.heap,keeps.unscripted⟩
  | none => exact ⟨RawValue.toValue_borrow v,keeps⟩

theorem serve_get (library : Library) (keeps : library.Keeps heap) (h : Handle) (f : FeatureId) (resolve : Bool) :
    Serves p settings heap (.get h f resolve) (Library.serve p settings (.get h f resolve) library) := by
  obtain ⟨rfl,quiet⟩ := keeps
  unfold Serves
  simp only [Library.serve,Library.ask,Library.onNative,Native.call,bind,StateT.bind]
  generalize Heap.report p settings library.native.heap _ = report
  generalize Heap.respond p settings library.native.heap _ = r
  obtain ⟨result,last⟩ := r
  cases result with
  | ok v =>
    obtain ⟨means,keeps⟩ :=
      copyOut_spec { library with native := ⟨last,library.native.journal ++ report (.ok v)⟩ } ⟨rfl,quiet⟩ v
    exact ⟨.ok means,keeps⟩
  | error e => exact ⟨.error e _,rfl,quiet⟩

theorem serve_set (library : Library) (keeps : library.Keeps heap) (h : Handle) (f : FeatureId) (v : Value) :
    Serves p settings heap (.set h f v) (Library.serve p settings (.set h f (RawValue.borrow v)) library) := by
  obtain ⟨rfl,quiet⟩ := keeps
  unfold Serves
  simp only [Library.serve,RawValue.toValue_borrow,Library.ask,Library.onNative,Native.call,bind,StateT.bind]
  generalize Heap.report p settings library.native.heap _ = report
  generalize Heap.respond p settings library.native.heap _ = r
  obtain ⟨result,last⟩ := r
  cases result with
  | ok reply => exact ⟨.ok rfl,rfl,quiet⟩
  | error e => exact ⟨.error e _,rfl,quiet⟩

/-- A library without a script serves every call as its heap answers it. -/
theorem serve_spec (library : Library) (keeps : library.Keeps heap) (c : Call Value) :
    Serves p settings heap c (Library.serve p settings (c.map RawValue.borrow) library) := by
  cases c
  case get h f resolve => exact serve_get library keeps h f resolve
  case set h f v => exact serve_set library keeps h f v
  all_goals
    obtain ⟨rfl,quiet⟩ := keeps
    refine ⟨?_,rfl,quiet⟩
    dsimp only [Call.map,Library.serve,Library.ask,Library.onNative,Native.call,Functor.map,StateT.map,bind,pure]
    generalize Heap.respond p settings library.native.heap _ = r
    obtain ⟨result,last⟩ := r
    cases result with
    | ok reply => exact .ok rfl
    | error e => exact .error e _

/-- Entering the entry of a call takes the heap where the call takes it. -/
theorem leads_enterEntry (c : Call Value) :
    Exchange.Leads p settings heap (heap.respond p settings c).2 (enterEntry (c.map RawValue.borrow))
      (Served c (heap.respond p settings c).1) := by
  intro library keeps
  obtain ⟨native,faults,entered,handedOut,freed⟩ := library
  obtain ⟨rfl,rfl⟩ := keeps
  let served : Library := ⟨native,[],entered.push (Library.describe (c.map RawValue.borrow)),handedOut,freed⟩
  exact serve_spec served ⟨rfl,rfl⟩ c

/-! ### What the adapter makes of a status -/

namespace Adapter

/-- What a look finds: the reply of the heap, or nothing where the call fails. -/
inductive Seen (c : Call Value) : Except Error c.Reply → Option (c.map RawValue.borrow).Reply → Prop where
  | reply {reply : c.Reply} {out : (c.map RawValue.borrow).Reply} (means : Means c reply out) :
    Seen c (.ok reply) (some out)
  | nothing (e : Error) : Seen c (.error e) none

/-- A look leaves a heap alone that its call leaves alone. -/
theorem leads_look (c : Call Value) (reads : (heap.respond p settings c).2 = heap) :
    Exchange.Leads p settings heap heap (look (c.map RawValue.borrow)) (Seen c (heap.respond p settings c).1) := by
  have entered : Exchange.Leads p settings heap (heap.respond p settings c).2 (enterEntry (c.map RawValue.borrow))
      (Served c (heap.respond p settings c).1) := leads_enterEntry c
  rw [reads] at entered
  refine entered.returns fun outcome served => ?_
  generalize replied : (heap.respond p settings c).1 = result at served ⊢
  cases served with
  | ok means => exact .reply means
  | error e out =>
    rw [if_neg (Heap.status_of_respond replied)]
    exact .nothing e

/-- Class of the object behind a handle; a list and a handle without an entry have none. -/
def classAt? (p : Package) (heap : Heap) (h : Handle) : Option ClassType :=
  match heap.object h with
  | .ok o => p.class? o.cls
  | .error _ => none

theorem classAt?_eq_some_iff {h : Handle} {cls : ClassType} :
    classAt? p heap h = some cls ↔ ∃ o, heap.object h = .ok o ∧ p.class? o.cls = some cls := by
  unfold classAt?
  cases heap.object h <;> simp

theorem leads_classOf (h : Handle) :
    Exchange.Leads p settings heap heap (classOf p h) (· = classAt? p heap h) := by
  refine (leads_look (.classOf h) rfl).returns fun seen looked => ?_
  change Seen (.classOf h) ((heap.object h).map ObjectData.cls :
    Except Error (Call.classOf h : Call Value).Reply) seen at looked
  unfold classAt?
  generalize heap.object h = found at looked ⊢
  cases found with
  | error e =>
    cases looked
    rfl
  | ok o =>
    cases looked with
    | reply same =>
      cases same
      rfl

/-- Error for an index that is not in the list behind a handle; without a list there is none. -/
def indexOutside? (heap : Heap) (list : Handle) (index : UInt64) : Option Error :=
  (heap.list list).toOption.map fun l => .indexOutOfRange index (UInt64.ofNat l.items.length)

/-- Error for a feature that the class of the object behind a handle does not have. -/
def featureOutside? (p : Package) (heap : Heap) (h : Handle) (f : FeatureId) : Option Error :=
  (classAt? p heap h).bind fun cls =>
    match cls.feature f with
    | .error e => some e
    | .ok _ => none

/-- Error for what a call on the heap takes if that is out of range. -/
def outside? (p : Package) (heap : Heap) : Call Value → Option Error
  | .listAt list index | .insertAt list index _ => indexOutside? heap list index
  | .get h f _ | .set h f _ | .isSet h f | .unset h f => featureOutside? p heap h f
  | _ => none

theorem leads_indexFailure (list : Handle) (index : UInt64) :
    Exchange.Leads p settings heap heap (indexFailure list index) (· = indexOutside? heap list index) := by
  refine (leads_look (.listSize list) rfl).returns fun seen looked => ?_
  change Seen (.listSize list) ((heap.list list).map fun l => UInt64.ofNat l.items.length :
    Except Error (Call.listSize list : Call Value).Reply) seen at looked
  unfold indexOutside?
  generalize heap.list list = found at looked ⊢
  cases found with
  | error e =>
    cases looked
    rfl
  | ok l =>
    cases looked with
    | reply same =>
      cases same
      rfl

theorem leads_featureFailure (h : Handle) (f : FeatureId) :
    Exchange.Leads p settings heap heap (featureFailure p h f) (· = featureOutside? p heap h f) := by
  refine (leads_classOf h).bind ?_
  rintro _ rfl
  unfold featureOutside?
  cases classAt? p heap h with
  | none => exact .pure rfl
  | some cls =>
    rw [Option.bind_some]
    dsimp only
    cases cls.feature f with
    | error e => exact .pure rfl
    | ok feature => exact .pure rfl

/-- What the adapter finds out of range is what the heap finds out of range. -/
theorem leads_rangeFailure (c : Call Value) :
    Exchange.Leads p settings heap heap (rangeFailure p c) (· = outside? p heap c) := by
  cases c with
  | listAt list i => exact leads_indexFailure list i
  | insertAt list i element => exact leads_indexFailure list i
  | get h f resolve => exact leads_featureFailure h f
  | set h f v => exact leads_featureFailure h f
  | isSet h f => exact leads_featureFailure h f
  | unset h f => exact leads_featureFailure h f
  | _ => exact .pure rfl

theorem status_of_feature {cls : ClassType} {f : FeatureId} {e : Error} (failed : cls.feature f = .error e) :
    e.status = .outOfRange := by
  unfold ClassType.feature at failed
  split at failed <;> cases failed
  rfl

theorem featureOutside?_eq_some_iff {h : Handle} {f : FeatureId} {e : Error} :
    featureOutside? p heap h f = some e ↔ ∃ cls, classAt? p heap h = some cls ∧ cls.feature f = .error e := by
  unfold featureOutside?
  rw [Option.bind_eq_some_iff]
  refine exists_congr fun cls => and_congr_right fun _ => ?_
  cases cls.feature f <;> simp

theorem status_of_outside {c : Call Value} {e : Error} (outside : outside? p heap c = some e) :
    e.status = .outOfRange := by
  have index {list : Handle} {i : UInt64} (outside : indexOutside? heap list i = some e) : e.status = .outOfRange := by
    obtain ⟨l,-,rfl⟩ := Option.map_eq_some_iff.mp outside
    rfl
  have feature {h : Handle} {f : FeatureId} (outside : featureOutside? p heap h f = some e) :
      e.status = .outOfRange := by
    obtain ⟨cls,-,failed⟩ := featureOutside?_eq_some_iff.mp outside
    exact status_of_feature failed
  cases c with
  | listAt list i => exact index outside
  | insertAt list i element => exact index outside
  | get h f resolve => exact feature outside
  | set h f v => exact feature outside
  | isSet h f => exact feature outside
  | unset h f => exact feature outside
  | _ => cases outside

theorem leads_elementFailure (list element : Handle) :
    Exchange.Leads p settings heap heap (elementFailure p list element) fun found =>
      ∀ e ∈ found, e.status = .typeMismatch := by
  refine (leads_classOf element).returns fun seen _ e found => ?_
  obtain ⟨cls,-,rfl⟩ := Option.map_eq_some_iff.mp found
  rfl

/-- A write that failed for its type found the feature, so what the adapter makes of it has the same status. -/
theorem leads_valueFailure {h : Handle} {f : FeatureId} {v : Value} {e : Error} (failed : heap.set p h f v = .error e)
    (status : e.status = .typeMismatch) :
    Exchange.Leads p settings heap heap (valueFailure p h f v) fun found =>
      ∀ e ∈ found, e.status = .typeMismatch := by
  refine (leads_classOf h).bind fun seen looked => ?_
  cases seen with
  | none => exact .pure nofun
  | some cls =>
    obtain ⟨o,there,known⟩ := classAt?_eq_some_iff.mp looked.symm
    dsimp only
    split
    · rename_i other unknown
      -- Without the feature the write had failed for its range, not for its type.
      have missed : heap.objectFeature p h f = .error other := by
        simp only [Heap.objectFeature,there,Package.require_eq_ok_iff.mpr known,unknown,bind,Except.bind]
      rw [Heap.set,missed] at failed
      cases failed
      exact absurd ((status_of_feature unknown).symm.trans status) (by decide)
    · split
      · refine (leads_classOf _).returns fun seen _ e found => ?_
        obtain ⟨cls,-,rfl⟩ := Option.map_eq_some_iff.mp found
        rfl
      · refine .pure fun e found => ?_
        cases found
        rfl
      · refine .pure fun e found => ?_
        cases found
        rfl

/-- What a failed call has to do with the heap that it leaves: only a write is looked into further. -/
theorem leads_typeFailure {c : Call Value} {e : Error} (failed : (heap.respond p settings c).1 = .error e)
    (status : e.status = .typeMismatch) :
    Exchange.Leads p settings (heap.respond p settings c).2 (heap.respond p settings c).2 (typeFailure p c)
      fun found => ∀ e ∈ found, e.status = .typeMismatch := by
  cases c with
  | set h f v =>
    obtain ⟨failing,same⟩ := Heap.commit_eq_error failed
    have same : (heap.respond p settings (.set h f v)).2 = heap := same
    rw [same]
    exact leads_valueFailure failing status
  | pushBack list element => exact leads_elementFailure list element
  | insertAt list i element => exact leads_elementFailure list element
  | insertAll list other =>
    refine .pure fun e found => ?_
    cases found
    rfl
  | _ => exact .pure nofun

/-- An error for a status has the status. Only that of destroyed objects leads to an error that speaks of one. -/
theorem leads_diagnose {c : Call Value} {e : Error} (failed : (heap.respond p settings c).1 = .error e) :
    Exchange.Leads p settings (heap.respond p settings c).2 (heap.respond p settings c).2 (diagnose p c e.status)
      (c.Restates e) := by
  have other {made : Error} (same : e.status = made.status) (fresh : e.status ≠ Status.staleHandle) :
      c.Restates e made := by
    refine ⟨same,fun h isStale => absurd (same.trans ?_) fresh⟩
    rw [isStale]
    rfl
  -- The status decides alone which kind of error is made, so the cases are those of the status.
  unfold diagnose
  split
  · rename_i isNull
    exact .pure ⟨isNull,nofun⟩
  split
  · rename_i isStale
    refine .pure ⟨isStale,fun h same => ?_⟩
    cases same
    rfl
  rename_i fresh
  split
  · rename_i outOfRange
    refine (leads_rangeFailure c).returns fun found sees => other ?_ fresh
    cases found with
    | none => rfl
    | some made => exact outOfRange.trans (status_of_outside sees.symm).symm
  split
  · rename_i typeMismatch
    refine (leads_typeFailure failed typeMismatch).returns fun found sees => other ?_ fresh
    cases found with
    | none => rfl
    | some made => exact typeMismatch.trans (sees made rfl).symm
  · exact .pure (other rfl fresh)

/-- Whether what the adapter makes of the failure of a call on the heap is as a relation says. -/
def Diagnoses (p : Package) (settings : HeapSettings) (heap : Heap) (c : Call Value) (E : Error → Error → Prop) :
    Prop :=
  ∀ e, (heap.respond p settings c).1 = .error e →
    Exchange.Leads p settings (heap.respond p settings c).2 (heap.respond p settings c).2 (diagnose p c e.status) (E e)

/-- A call that is entered comes to what the heap answers, with errors restated by the diagnosis. -/
theorem leads_enter {c : Call Value} {E : Error → Error → Prop} (diagnoses : Diagnoses p settings heap c E) :
    Exchange.Leads p settings heap (heap.respond p settings c).2 (enter p c)
      (Matches E (Means c) (heap.respond p settings c).1) := by
  refine (leads_enterEntry c).bind fun outcome served => ?_
  unfold Diagnoses at diagnoses
  generalize replied : (heap.respond p settings c).1 = result at served diagnoses ⊢
  cases served with
  | ok means => exact .pure (.ok means)
  | error e out =>
    rw [if_neg (Heap.status_of_respond replied)]
    exact (diagnoses e rfl).returns fun made restates => .error restates

theorem leads_nonNull {E : Error → Error → Prop} {x : Exchange (Except Error Handle)} {result : Except Error Handle}
    (leads : Exchange.Leads p settings heap next x (Matches E Eq result))
    (issued : ∀ h, result = .ok h → h.isNull = false) :
    Exchange.Leads p settings heap next (do return (← x) >>= nonNull) (Matches E Eq result) := by
  refine leads.returns fun other agrees => ?_
  cases agrees with
  | ok same =>
    cases same
    show Matches E Eq _ (nonNull _)
    rw [nonNull,if_neg (Bool.eq_false_iff.mp (issued _ rfl))]
    exact .ok rfl
  | error same => exact .error same

/-- A value that is taken over is the one that the entry answered, with its text given back. -/
theorem leads_takeOver {E : Error → Error → Prop} {v : Value} {raw : RawValue} (means : raw.toValue = .ok v) :
    Exchange.Leads p settings heap heap (takeOver raw) (Matches E Eq (.ok v)) := by
  have reading (buffer : Buffer) : Exchange.Leads p settings heap heap (readText buffer) (· = buffer.bytes) :=
    fun library keeps => ⟨rfl,keeps⟩
  have giving (buffer : Buffer) : Exchange.Leads p settings heap heap (giveBack buffer) fun _ => True :=
    fun library keeps => ⟨trivial,keeps.heap,keeps.unscripted⟩
  have done : Exchange.Leads p settings heap heap (do return raw.toValue) (Matches E Eq (.ok v)) := by
    rw [means]
    exact .pure (.ok rfl)
  unfold takeOver
  split
  · rename_i buffer lent
    refine (reading buffer).bind fun bytes read => (giving buffer).bind fun _ _ => ?_
    obtain ⟨-,text⟩ := RawValue.buffer?_eq_some_iff.mp lent
    rw [read,← text]
    exact done
  · exact done

/-- A call through the library comes to the same as the call on the heap, up to what the adapter makes of errors. -/
theorem leads_call_of {c : Call Value} {E : Error → Error → Prop} (diagnoses : Diagnoses p settings heap c E) :
    Exchange.Leads p settings heap (heap.respond p settings c).2 (call p c)
      (Matches E Eq (heap.respond p settings c).1) := by
  have entered := leads_enter diagnoses
  cases c with
  | create cls => exact leads_nonNull entered fun h => Heap.isNull_of_create
  | createList cls => exact leads_nonNull entered fun h => Heap.isNull_of_createList
  | upcast k => exact leads_nonNull entered fun h => Heap.isNull_of_upcast
  | copy k => exact leads_nonNull entered fun h => Heap.isNull_of_copy
  | get h f resolve =>
    refine entered.bind fun entered agrees => ?_
    generalize (heap.respond p settings (.get h f resolve)).1 = result at agrees ⊢
    cases agrees with
    | ok means => exact leads_takeOver means
    | error restates => exact .pure (.error restates)
  | _ => exact entered

/-- A call through the library comes to the call on the heap, with the same status. -/
theorem leads_call (c : Call Value) :
    Exchange.Leads p settings heap (heap.respond p settings c).2 (call p c)
      (Matches c.Restates Eq (heap.respond p settings c).1) :=
  leads_call_of fun _ failed => leads_diagnose failed

end Adapter

end Foreign

end HandleBridge
