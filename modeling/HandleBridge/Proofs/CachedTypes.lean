import HandleBridge.Proofs.CaughtEarly
import HandleBridge.Proofs.ListReadings
import HandleBridge.Proofs.NamedAccess
import HandleBridge.Proofs.RangeFailures

/-!
The class that an object proxy caches. For as long as the object is alive it is the class that the object has, so the
features of that class can be read and written through the proxy. Once the object was destroyed every access finds out,
whatever took its slot. As the cached class is never wrong, the heap never has to tell a proxy that a feature is out of
range (`cached_types_stay_right`).
-/

namespace HandleBridge

theorem Value.fits_of_kind? {v : Value} {kind : Kind} (own : v.kind? = some kind) : v.fits kind = true := by
  rw [fits,own]
  exact decide_eq_true rfl

namespace Heap

variable {p : Package} {settings : HeapSettings} {heap : Heap} {h : Handle} {f : FeatureId} {v : Value} {o : ObjectData}
  {feature : Feature} {target : String} {t : ClassType} (dead : heap.Dead h)

section
include dead

theorem objectFeature_of_dead : objectFeature p heap h f = .error (.staleHandle h) := by
  rw [objectFeature,object_of_dead dead]
  rfl

/-- Writing to what is not alive fails and names it. -/
theorem respond_set_of_dead : heap.respond p settings (.set h f v) = (.error (.staleHandle h),heap) := by
  have failed : set p h f v heap = .error (.staleHandle h) := by
    rw [set,objectFeature_of_dead dead]
    rfl
  exact commit_of_failed failed

theorem respond_unset_of_dead : heap.respond p settings (.unset h f) = (.error (.staleHandle h),heap) := by
  show unset p h f heap = _
  rw [unset,objectFeature_of_dead dead]

end

/-- Whether a feature counts as set can always be told. -/
theorem isSet_succeeds (wellFormed : WellFormed p heap) (described : objectFeature p heap h f = .ok (o,feature)) :
    ∃ marked, isSet p h f heap = .ok marked := by
  obtain ⟨-,fits⟩ := wellFormed.inside described
  by_cases isList : ∃ b, (o.field f).value = .list b
  · obtain ⟨b,holds⟩ := isList
    rw [holds] at fits
    obtain ⟨target,l,t,-,atList,-⟩ := fits.many_of_list
    have answered : heap.respond p {} (.isSet h f) = _ := respond_isSet_of_list described holds (contents_of_get? atList)
    exact ⟨_,congrArg Prod.fst answered⟩
  · have answered : heap.respond p {} (.isSet h f) = _ := respond_isSet_of_plain described fun b holds => isList ⟨b,holds⟩
    exact ⟨_,congrArg Prod.fst answered⟩

/-- What a single reference may be set to. -/
theorem set_reference_succeeds_iff (described : objectFeature p heap h f = .ok (o,feature))
    (isSingle : feature.kind = .reference target false) (named : p.classNamed? target = some t) (r : Handle) :
    (∃ next, set p h f (.object r) heap = .ok next) ↔ checkElement p heap t.id r = .ok () := by
  constructor
  · rintro ⟨next,done⟩
    obtain ⟨other,feature',described',-,done⟩ := set_eq_ok done
    cases described.symm.trans described'
    cases done with
    | data kind isData => cases isSingle.symm.trans isData
    | many target backing assigned isMany => cases isSingle.symm.trans isMany
    | single target' again fits =>
      cases isSingle.symm.trans again
      obtain ⟨t',named',passes⟩ := fits r rfl
      cases named.symm.trans named'
      exact passes
  · intro passes
    refine ⟨heap.putObject h (o.setField f ⟨.object r,true⟩),?_⟩
    rw [set,described]
    simp only [bind,Except.bind,isSingle,Package.requireNamed_eq_ok_iff.mpr named,passes]
    rfl

/-- A single reference can always be set to null. -/
theorem set_null_succeeds (described : objectFeature p heap h f = .ok (o,feature))
    (isSingle : feature.kind = .reference target false) :
    set p h f .null heap = .ok (heap.putObject h (o.setField f ⟨.null,true⟩)) := by
  rw [set,described]
  simp only [bind,Except.bind,isSingle]
  rfl

end Heap

/-! ### Access through proxies -/

/-- Through the proxy of an object that is alive the features of the cached class can be read and written: the class is
the one that the object has. -/
structure ObjectProxy.Serves (b : Bridge) (native : Native) (o : ObjectProxy) : Prop where
  type : ∃ obj, native.heap.get? o.proxy.handle = some (.object obj) ∧ b.package.class? obj.cls = some o.cls
  get : ∀ f feature resolve, o.cls.feature f = .ok feature →
    ∃ v, b.outcome (o.get b f resolve) native = (.ok v,native.heap)
  isSet : ∀ f feature, o.cls.feature f = .ok feature →
    ∃ marked, b.outcome (o.isSet b f) native = (.ok marked,native.heap)
  unset : ∀ f feature, o.cls.feature f = .ok feature → ∃ next, b.outcome (o.unset b f) native = (.ok (),next)
  getAs : ∀ f feature kind, o.cls.feature f = .ok feature → feature.kind = .data kind →
    ∃ x, b.outcome (o.getAs b kind.hostType f) native = (.ok x,native.heap)
  setData : ∀ f feature kind v, o.cls.feature f = .ok feature → feature.kind = .data kind → v.kind? = some kind →
    ∃ next, b.outcome (o.set b f v) native = (.ok (),next)
  setNull : ∀ f feature target, o.cls.feature f = .ok feature → feature.kind = .reference target false →
    ∃ next, b.outcome (o.set b f .null) native = (.ok (),next)
  /-- A reference may be set to null and to objects of the class that it is for. -/
  setObject : ∀ f feature target h, o.cls.feature f = .ok feature → feature.kind = .reference target false →
    ((∃ next, b.outcome (o.set b f (.object h)) native = (.ok (),next)) ↔ h = .null ∨
      ∃ t obj, b.package.classNamed? target = some t ∧ native.heap.get? h = some (.object obj) ∧
        b.package.isA obj.cls t.id = true)

/-- Through the proxy of an object that was destroyed nothing is read or written, and the error names the handle. -/
structure ObjectProxy.Detects (b : Bridge) (native : Native) (o : ObjectProxy) : Prop where
  lost : native.heap.isLive o.proxy.handle = false
  get : ∀ f feature resolve, o.cls.feature f = .ok feature →
    b.outcome (o.get b f resolve) native = (.error (.staleHandle o.proxy.handle),native.heap)
  isSet : ∀ f feature, o.cls.feature f = .ok feature →
    b.outcome (o.isSet b f) native = (.error (.staleHandle o.proxy.handle),native.heap)
  unset : ∀ f feature, o.cls.feature f = .ok feature →
    b.outcome (o.unset b f) native = (.error (.staleHandle o.proxy.handle),native.heap)
  getAs : ∀ f feature t, o.cls.feature f = .ok feature →
    b.outcome (o.getAs b t f) native = (.error (.staleHandle o.proxy.handle),native.heap)
  set : ∀ f feature v, o.cls.feature f = .ok feature → v.fits feature.kind.valueKind = true →
    b.outcome (o.set b f v) native = (.error (.staleHandle o.proxy.handle),native.heap)

/-- Whatever is done on an object, that a feature is out of range is found out before any call. -/
def ObjectProxy.ChecksRange (b : Bridge) (native : Native) (o : ObjectProxy) : Prop :=
  ∀ (op : Operation) cls f count, op.object? = some o →
    (b.outcome (op.action b) native).1 = .error (.featureOutOfRange cls f count) →
    op.action b = throw (.featureOutOfRange cls f count)

namespace Bridge

variable {b : Bridge} {heap : Heap} {o : ObjectProxy} {obj : ObjectData} {f : FeatureId} {feature : Feature} {v : Value}

/-- What is met on the way to a feature of the cached class. -/
theorem leadsTo_of_row (built : b.package.Built) (wellFormed : Heap.WellFormed b.package heap)
    (unreleased : o.proxy.isReleased = false) (based : o.base = o.proxy.handle)
    (found : heap.get? o.base = some (.object obj)) (known : b.package.class? obj.cls = some o.cls)
    (row : o.cls.feature f = .ok feature) : o.LeadsTo b.package heap f obj feature := by
  have described : Heap.objectFeature b.package heap o.base f = .ok (obj,feature) :=
    Heap.objectFeature_eq_ok_iff.mpr ⟨found,o.cls,known,ClassType.feature_eq_ok_iff.mp row⟩
  have member := Package.class?_mem known
  refine ⟨?_,row,built.featureId_name member row,described,(wellFormed.inside described).1,?_⟩
  · rw [ObjectProxy.liveBase,Proxy.live_eq_ok_iff.mpr ⟨unreleased,Arena.isNull_of_get? (based ▸ found),rfl⟩]
    rfl
  · exact built.proper member (List.mem_of_getElem? (ClassType.feature_eq_ok_iff.mp row))

theorem onHeap_unset (live : o.liveBase = .ok o.base) (row : o.cls.feature f = .ok feature) :
    b.onHeap (o.unset b f) heap = Heap.unset b.package o.base f heap := by
  rw [ObjectProxy.unset,onHeap_bind,onHeap_lift,row]
  exact (onHeap_liveBase live _).trans (b.onHeap_call heap b (.unset o.base f))

section
variable (leads : o.LeadsTo b.package heap f obj feature)
include leads

theorem onHeap_get_of_leadsTo (resolve : Bool) : b.onHeap (o.get b f resolve) heap = (.ok (obj.field f).value,heap) := by
  rw [onHeap_get leads.live,leads.row]
  simp only [Except.bind,Heap.get,leads.described,bind,pure,Except.pure]

theorem onHeap_getAs_of_leadsTo (wellFormed : Heap.WellFormed b.package heap) {kind : Kind}
    (isData : feature.kind = .data kind) : ∃ x, b.onHeap (o.getAs b kind.hostType f) heap = (.ok x,heap) := by
  obtain ⟨-,fits⟩ := wellFormed.inside leads.described
  rw [isData] at fits
  obtain ⟨ofKind,plain⟩ := fits
  obtain ⟨x,boxed⟩ := Kind.box_of_fits plain (Value.fits_of_kind? ofKind)
  refine ⟨x,?_⟩
  rw [ObjectProxy.getAs,onHeap_bind,onHeap_get_of_leadsTo leads,← boxed]
  dsimp only
  rw [onHeap_lift,HostType.unbox_box (Kind.hostType_ne_reference plain)]

/-- A write that fits comes to what it comes to on the heap. -/
theorem onHeap_set_succeeds_iff (fits : v.fits feature.kind.valueKind = true) :
    (∃ next, b.onHeap (o.set b f v) heap = (.ok (),next)) ↔ ∃ next, Heap.set b.package o.base f v heap = .ok next := by
  rw [onHeap_set leads.live leads.row fits]
  show (∃ next, Heap.commit (Heap.set b.package o.base f v) heap = _) ↔ _
  unfold Heap.commit
  cases Heap.set b.package o.base f v heap with
  | error e => exact ⟨fun ⟨_,done⟩ => (nomatch congrArg Prod.fst done),fun ⟨_,done⟩ => (nomatch done)⟩
  | ok next => exact ⟨fun _ => ⟨next,rfl⟩,fun _ => ⟨next,rfl⟩⟩

end

/-- The proxy of a live object serves if it cached the class of the object. -/
theorem serves_of_found {native : Native} (built : b.package.Built) (wellFormed : Heap.WellFormed b.package native.heap)
    (unreleased : o.proxy.isReleased = false) (based : o.base = o.proxy.handle)
    (found : native.heap.get? o.base = some (.object obj)) (known : b.package.class? obj.cls = some o.cls) :
    o.Serves b native := by
  have leads : ∀ {f feature}, o.cls.feature f = .ok feature → o.LeadsTo b.package native.heap f obj feature :=
    leadsTo_of_row built wellFormed unreleased based found known
  have writes : ∀ {f feature v next}, o.cls.feature f = .ok feature → v.fits feature.kind.valueKind = true →
      Heap.set b.package o.base f v native.heap = .ok next → ∃ next, b.onHeap (o.set b f v) native.heap = (.ok (),next) :=
    fun row fits done => (onHeap_set_succeeds_iff (leads row) fits).mpr ⟨_,done⟩
  refine ⟨⟨obj,based ▸ found,known⟩,?_,?_,?_,?_,?_,?_,?_⟩ <;> simp only [outcome_eq_onHeap]
  · exact fun f feature resolve row => ⟨_,onHeap_get_of_leadsTo (leads row) resolve⟩
  · intro f feature row
    obtain ⟨marked,read⟩ := Heap.isSet_succeeds wellFormed (leads row).described
    rw [onHeap_isSet (leads row).live,row]
    exact ⟨marked,congrArg (·,native.heap) read⟩
  · intro f feature row
    rw [onHeap_unset (leads row).live row]
    exact ⟨_,Prod.ext (Heap.unset_succeeds wellFormed (leads row).described) rfl⟩
  · exact fun f feature kind row isData => onHeap_getAs_of_leadsTo (leads row) wellFormed isData
  · intro f feature kind v row isData ofKind
    have fits : v.fits feature.kind.valueKind = true := by
      rw [isData]
      exact Value.fits_of_kind? ofKind
    exact writes row fits (Heap.set_of_data (leads row).described isData fits)
  · intro f feature target row isSingle
    have fits : Value.null.fits feature.kind.valueKind = true := by rw [isSingle]; rfl
    exact writes row fits (Heap.set_null_succeeds (leads row).described isSingle)
  · intro f feature target h row isSingle
    have fits : (Value.object h).fits feature.kind.valueKind = true := by rw [isSingle]; rfl
    have proper := (leads row).proper
    rw [Feature.Proper,isSingle] at proper
    obtain ⟨-,t,named⟩ := proper
    rw [onHeap_set_succeeds_iff (leads row) fits,
      Heap.set_reference_succeeds_iff (leads row).described isSingle named,Heap.checkElement_eq_ok_iff,
      Handle.isNull_eq_true_iff]
    refine or_congr_right ⟨?_,?_⟩
    · rintro ⟨obj,there,derives⟩
      exact ⟨t,obj,named,there,derives⟩
    · rintro ⟨t',obj,named',there,derives⟩
      cases named.symm.trans named'
      exact ⟨obj,there,derives⟩

/-- The proxy of a destroyed object detects that it is gone. -/
theorem detects_of_dead {native : Native} (unreleased : o.proxy.isReleased = false) (based : o.base = o.proxy.handle)
    (dead : native.heap.Dead o.proxy.handle) : o.Detects b native := by
  have live : o.liveBase = .ok o.base := by
    rw [ObjectProxy.liveBase,Proxy.live_eq_ok_iff.mpr ⟨unreleased,dead.1,rfl⟩]
    rfl
  have missing : ∀ f, Heap.objectFeature b.package native.heap o.base f = .error (.staleHandle o.proxy.handle) := by
    rw [based]
    exact fun f => Heap.objectFeature_of_dead dead
  have got : ∀ f feature resolve, o.cls.feature f = .ok feature →
      b.onHeap (o.get b f resolve) native.heap = (.error (.staleHandle o.proxy.handle),native.heap) := by
    intro f feature resolve row
    rw [onHeap_get live,row]
    simp only [Except.bind,Heap.get,missing,bind]
  refine ⟨Arena.isLive_false_iff.mpr dead.2,?_,?_,?_,?_,?_⟩ <;> simp only [outcome_eq_onHeap]
  · exact got
  · intro f feature row
    rw [onHeap_isSet live,row]
    simp only [Except.bind,Heap.isSet,missing,bind]
  · intro f feature row
    have refused : native.heap.respond b.package {} (.unset o.proxy.handle f) = _ := Heap.respond_unset_of_dead dead
    rw [onHeap_unset live row,based]
    exact refused
  · intro f feature t row
    rw [ObjectProxy.getAs,onHeap_bind,got f feature false row]
  · intro f feature v row fits
    rw [onHeap_set live row fits,based]
    exact Heap.respond_set_of_dead dead

/-! ### Failures for a range -/

variable {α β : Type} {x : Action α} {e : Error}

/-- Whether work on a heap does not fail for a range. -/
def Unranged (b : Bridge) (heap : Heap) (x : Action α) : Prop :=
  ∀ e, (b.onHeap x heap).1 = .error e → ¬e.Ranged

namespace Unranged

theorem pure (a : α) : b.Unranged heap (Pure.pure a) := fun _ failed => nomatch failed

theorem throw (other : ¬e.Ranged) : b.Unranged heap (MonadExcept.throw e : Action α) := by
  rintro _ ⟨⟩
  exact other

/-- Work in two parts does not fail for a range if neither part does, in whatever heap the second one starts. -/
theorem bind {f : α → Action β} (first : b.Unranged heap x) (rest : ∀ a next, b.Unranged next (f a)) :
    b.Unranged heap (x >>= f) := by
  intro e failed
  rw [onHeap_bind] at failed
  generalize done : b.onHeap x heap = result at failed
  obtain ⟨e' | a,next⟩ := result
  · cases failed
    exact first _ (congrArg Prod.fst done)
  · exact rest a next e failed

theorem map (f : α → β) (first : b.Unranged heap x) : b.Unranged heap (f <$> x) := by
  rw [map_eq_pure_bind]
  exact first.bind fun a _ => pure (f a)

theorem lift {y : Except Error α} (only : FailsOnly (¬Error.Ranged ·) y) : b.Unranged heap (liftM y) := by
  intro e failed
  rw [onHeap_lift] at failed
  exact only e failed

/-- A look at what is known without a call leaves the heap as it is. -/
theorem after {y : Except Error α} {f : α → Action β} (only : FailsOnly (¬Error.Ranged ·) y)
    (rest : ∀ a, y = .ok a → b.Unranged heap (f a)) : b.Unranged heap (liftM y >>= f) := by
  cases y with
  | ok a => exact rest a rfl
  | error e => exact throw (only e rfl)

theorem always (r : Routine α) : b.Unranged heap (liftM r) := by
  intro e failed
  rw [onHeap_always] at failed
  cases failed

/-- A call fails for a range only if what it takes is out of range. -/
theorem call {c : Call Value} (inside : Foreign.Adapter.outside? b.package heap c = none) : b.Unranged heap (b.call c) := by
  intro e failed ranged
  rw [onHeap_call] at failed
  cases inside.symm.trans (Heap.ranged_of_respond failed ranged).1

theorem check {p : Prop} [Decidable p] {rest : PUnit → Action α} (other : ¬e.Ranged)
    (work : b.Unranged heap (rest ⟨⟩)) : b.Unranged heap (if p then rest ⟨⟩ else MonadExcept.throw e >>= rest) := by
  split
  · exact work
  · exact (throw other : b.Unranged heap (MonadExcept.throw e : Action α))

theorem refuse {p : Prop} [Decidable p] {rest : PUnit → Action α} (other : ¬e.Ranged)
    (work : b.Unranged heap (rest ⟨⟩)) : b.Unranged heap (if p then MonadExcept.throw e >>= rest else rest ⟨⟩) := by
  split
  · exact (throw other : b.Unranged heap (MonadExcept.throw e : Action α))
  · exact work

end Unranged

theorem unranged_of_common {y : Except Error α} (only : FailsOnly Error.Common y) : FailsOnly (¬Error.Ranged ·) y :=
  only.mono fun _ => Error.Common.not_ranged

theorem unranged_of_ok {y : Except Error α} {a : α} (done : y = .ok a) : FailsOnly (¬Error.Ranged ·) y :=
  done ▸ .ok a

theorem live_unranged (p : Proxy) : FailsOnly (¬Error.Ranged ·) p.live := by
  unfold Proxy.live
  split
  · exact .error nofun
  · split
    · exact .error nofun
    · exact .ok _

theorem liveBase_unranged (o : ObjectProxy) : FailsOnly (¬Error.Ranged ·) o.liveBase :=
  .bind (live_unranged o.proxy) fun _ _ => .ok _

theorem unbox_unranged (t : HostType) (v : Value) : FailsOnly (¬Error.Ranged ·) (t.unbox v) := by
  intro e failed ranged
  cases t <;> cases v <;> cases failed <;> cases ranged

/-- That a view is not good for a class is no failure for a range. -/
theorem checkView_unranged (c : ClassId) (view : View) : FailsOnly (¬Error.Ranged ·) (b.checkView c view) := by
  refine .bind (unranged_of_common (b.package.require_common c)) fun _ _ => ?_
  split
  · exact .bind (unranged_of_common (b.package.requireNamed_common _)) fun _ _ => .check nofun (.ok _)
  · exact .ok _

theorem unranged_inspect (p : Proxy) (required : Option String) : b.Unranged heap (b.inspect p required) := by
  refine .after (live_unranged p) fun h _ => (Unranged.call rfl).bind fun base _ => (Unranged.call rfl).bind fun c _ =>
    .after (unranged_of_common (b.package.require_common c)) fun cls _ => ?_
  cases required with
  | none => exact .pure _
  | some name =>
    exact .after (unranged_of_common (b.package.requireNamed_common name)) fun expected _ => .check nofun (.pure _)

/-- Making an object proxy does not fail for a range. -/
theorem unranged_wrap (required : Option String) (p : Proxy) : b.Unranged heap (b.wrap required p) := by
  have looked : b.Unranged heap (b.inspect p required) := unranged_inspect p required
  intro e failed
  rw [onHeap_wrap] at failed
  generalize done : b.onHeap (b.inspect p required) heap = result at failed
  obtain ⟨e' | ⟨base,cls⟩,next⟩ := result
  · cases failed
    exact looked _ (congrArg Prod.fst done)
  · cases failed

theorem unranged_wrapBorrowed (view : View) (h : Handle) : b.Unranged heap (b.wrapBorrowed view h) := by
  unfold wrapBorrowed
  split
  · exact (unranged_wrap _ _).map _
  · exact .pure _

theorem unranged_borrowList (view : View) (h : Handle) (c : ClassId) :
    FailsOnly (¬Error.Ranged ·) (b.borrowList view h c) :=
  .bind (checkView_unranged c view) fun _ _ => .ok _

theorem unranged_liveBase {work : Handle → Action α} (rest : b.Unranged heap (work o.base)) :
    b.Unranged heap (liftM o.liveBase >>= work) := by
  refine .after (liveBase_unranged o) fun h live => ?_
  obtain ⟨-,-,live⟩ := bind_eq_ok_iff.mp live
  cases live
  exact rest

section
variable (truthful : o.Truthful b.package heap) (row : o.cls.feature f = .ok feature)
include truthful row

/-- To the heap a feature of the cached class is never out of range. -/
theorem featureOutside?_of_truthful : Foreign.Adapter.featureOutside? b.package heap o.base f = none := by
  unfold Foreign.Adapter.featureOutside? Foreign.Adapter.classAt?
  rcases truthful.found with lost | ⟨obj,found,known⟩
  · cases seen : heap.object o.base with
    | error e => rfl
    | ok obj => cases lost.symm.trans (Heap.object_eq_ok_iff.mp seen)
  · rw [Heap.object_eq_ok_iff.mpr found]
    simp only [known,Option.bind_some,row]

theorem unranged_get (resolve : Bool) : b.Unranged heap (o.get b f resolve) :=
  .after (unranged_of_ok row) fun _ _ => unranged_liveBase (.call (featureOutside?_of_truthful truthful row))

theorem unranged_set (v : Value) : b.Unranged heap (o.set b f v) :=
  .after (unranged_of_ok row) fun _ _ =>
    .refuse nofun (unranged_liveBase (.call (featureOutside?_of_truthful truthful row)))

theorem unranged_isSet : b.Unranged heap (o.isSet b f) :=
  .after (unranged_of_ok row) fun _ _ => unranged_liveBase (.call (featureOutside?_of_truthful truthful row))

theorem unranged_unset : b.Unranged heap (o.unset b f) :=
  .after (unranged_of_ok row) fun _ _ => unranged_liveBase (.call (featureOutside?_of_truthful truthful row))

theorem unranged_reference (view : View) : b.Unranged heap (o.reference b f view) := by
  refine (unranged_get truthful row true).bind fun v _ => ?_
  split
  · exact .pure _
  · exact unranged_wrapBorrowed view _
  · exact .throw nofun

theorem unranged_list (view : View) : b.Unranged heap (o.list b f view) := by
  refine .after (unranged_of_ok row) fun feature _ => ?_
  split
  · rename_i target _
    refine .after (unranged_of_common (b.package.requireNamed_common target)) fun cls _ => ?_
    refine (unranged_get truthful row false).bind fun v _ => ?_
    split
    · split
      · exact .throw nofun
      · exact .lift (unranged_borrowList view _ cls.id)
    · exact .throw nofun
  · exact .throw nofun

end

theorem row_of_writable (passed : o.writable b f v = .ok ()) : ∃ feature, o.cls.feature f = .ok feature :=
  (bind_eq_ok_iff.mp passed).imp fun _ => And.left

/-- What passed the checks of an operation does not fail for a range. -/
theorem unranged_of_checks {op : Operation} (truthful : o.Truthful b.package heap) (found : op.object? = some o)
    (passed : op.checks b = .ok ()) : b.Unranged heap (op.action b) := by
  cases op with
  | get _ f resolve =>
    cases found
    obtain ⟨feature,row,-⟩ := bind_eq_ok_iff.mp passed
    exact unranged_get truthful row resolve
  | set _ f v =>
    cases found
    obtain ⟨feature,row⟩ := row_of_writable passed
    exact unranged_set truthful row v
  | isSet _ f =>
    cases found
    obtain ⟨feature,row,-⟩ := bind_eq_ok_iff.mp passed
    exact unranged_isSet truthful row
  | unset _ f =>
    cases found
    obtain ⟨feature,row,-⟩ := bind_eq_ok_iff.mp passed
    exact unranged_unset truthful row
  | getAs _ t f =>
    cases found
    obtain ⟨feature,row,-⟩ := bind_eq_ok_iff.mp passed
    exact (unranged_get truthful row false).bind fun v _ => .lift (unbox_unranged t v)
  | getNamed _ name =>
    cases found
    obtain ⟨f,named,passed⟩ := bind_eq_ok_iff.mp passed
    obtain ⟨feature,row,-⟩ := bind_eq_ok_iff.mp passed
    refine .after (unranged_of_ok named) fun g again => ?_
    cases named.symm.trans again
    exact unranged_get truthful row false
  | setNamed _ name v =>
    cases found
    obtain ⟨f,named,passed⟩ := bind_eq_ok_iff.mp passed
    obtain ⟨feature,row⟩ := row_of_writable passed
    refine .after (unranged_of_ok named) fun g again => ?_
    cases named.symm.trans again
    exact unranged_set truthful row v
  | reference _ f view =>
    cases found
    obtain ⟨feature,row,-⟩ := bind_eq_ok_iff.mp passed
    exact unranged_reference truthful row view
  | setReference _ f target =>
    cases found
    cases target with
    | none =>
      obtain ⟨feature,row⟩ := row_of_writable passed
      exact unranged_set truthful row .null
    | some target =>
      obtain ⟨h,-,passed⟩ := bind_eq_ok_iff.mp passed
      obtain ⟨feature,row⟩ := row_of_writable passed
      exact .after (live_unranged target.proxy) fun h _ => unranged_set truthful row (.object h)
  | list _ f view =>
    cases found
    obtain ⟨feature,row,-⟩ := bind_eq_ok_iff.mp passed
    exact unranged_list truthful row view
  | initialise =>
    cases found
    exact unranged_liveBase (.call rfl)
  | downcast _ view =>
    cases found
    exact .after (live_unranged o.proxy) fun h _ => unranged_wrap _ _
  | duplicate _ view =>
    cases found
    refine .after (live_unranged o.proxy) fun h _ => (Unranged.call rfl).bind fun copy _ => ?_
    exact (Unranged.always _).bind fun _ _ => unranged_wrap _ _
  | _ => cases found

/-- An operation on an object fails for a range before any call, or not at all. -/
theorem checksRange {native : Native} (truthful : o.Truthful b.package native.heap) : o.ChecksRange b native := by
  intro op cls f count found failed
  rw [outcome_eq_onHeap] at failed
  cases checked : op.checks b with
  | ok => exact absurd (.feature cls f count) (unranged_of_checks truthful found checked _ failed)
  | error e =>
    have stopped := (Operation.begins_of_object (b := b) found).refused checked
    rw [stopped] at failed
    cases failed
    exact stopped

/-! ### Cached types -/

/-- What a proxy caches is right: its object is alive and the proxy serves, or the object was destroyed and the proxy
detects it. -/
structure KnowsType (b : Bridge) (state : Native × List Asked) (o : ObjectProxy) : Prop where
  fate : state.1.heap.isLive o.proxy.handle = true ∨
    .freed o.proxy.handle ∈ Heap.empty.history b.package b.config.heap (callsIn state.2)
  serves : state.1.heap.isLive o.proxy.handle = true → o.Serves b state.1
  detects : .freed o.proxy.handle ∈ Heap.empty.history b.package b.config.heap (callsIn state.2) →
    o.Detects b state.1
  checksRange : o.ChecksRange b state.1

/-- In every state that a bridge reaches on the in-memory heap without letting a generation come round, the type that an
object proxy caches is right until the proxy is released. -/
theorem cached_types_stay_right {state : Native × List Asked} {os : List ObjectProxy} {ls : List ListProxy}
    (built : b.package.Built) (addressable : b.package.Addressable) (reached : b.Reached state os ls)
    (bounded : Heap.Bounded b.package b.config.heap (callsIn state.2)) (member : o ∈ os)
    (unreleased : o.proxy.isReleased = false) : b.KnowsType state o := by
  have informed := (reached.informed built addressable bounded).objects o member
  have based := informed.base unreleased
  have truthful := informed.truthful built bounded
  have wellFormed := Heap.wellFormed_after built addressable .empty Heap.sound_empty bounded.few
  have chronicled := Heap.chronicled_after built bounded
  have refers := informed.refers
  unfold Heap.RefersAs at refers
  rw [based] at refers
  rw [← reached.heap_eq] at truthful wellFormed chronicled refers
  refine ⟨?_,?_,?_,checksRange truthful⟩
  · rcases refers with freed | ⟨entry,found,-⟩
    · exact .inr freed
    · exact .inl (Arena.isLive_iff.mpr ⟨entry,found⟩)
  · intro live
    rcases truthful.found with lost | ⟨obj,found,known⟩
    · rw [based,← Arena.isLive_false_iff,live] at lost
      cases lost
    · exact serves_of_found built wellFormed unreleased based found known
  · intro freed
    -- What took the slot since has another generation, so the handle stays dead.
    obtain ⟨i,names,-⟩ := chronicled.freed _ freed
    have gone := Arena.isLive_false_iff.mp (chronicled.not_live_of_freed freed)
    exact detects_of_dead unreleased based ⟨Handle.isNull_of_slot? names,gone⟩

/-- Destroys a leaf and creates a tag in its place. -/
def replacesLeaf : Action Handle := do
  call ⟨forest,{}⟩ (.destroy (.ofSlot 2 1))
  call ⟨forest,{}⟩ (.create ⟨0⟩)

/-- Of two leaves the proxy of the one that is left serves, and the other one detects that its leaf was replaced. -/
theorem cached_types_stay_right_after_replacesLeaf : ∃ state lost,
    Reached ⟨forest,{}⟩ state [lost,leafProxy] [] ∧ leafProxy.Serves ⟨forest,{}⟩ state.1 ∧
      lost.Detects ⟨forest,{}⟩ state.1 ∧ lost.proxy = .owning (.ofSlot 2 1) := by
  have one : Reached ⟨forest,{}⟩ _ [leafProxy] [] :=
    .object none (.owning (.ofSlot 0 1)) (.work (call ⟨forest,{}⟩ (.create ⟨2⟩)).run .start) rfl
  have two : Reached ⟨forest,{}⟩ _ [⟨.owning (.ofSlot 2 1),.ofSlot 2 1,forest.classes[2]⟩,leafProxy] [] :=
    .object none (.owning (.ofSlot 2 1)) (one.work (call ⟨forest,{}⟩ (.create ⟨2⟩)).run) rfl
  have replaced := two.work replacesLeaf.run
  have knows := fun o member unreleased => cached_types_stay_right (o := o) forest_built forest_addressable replaced
    (Heap.bounded_of_short (by decide +kernel) (by decide +kernel)) member unreleased
  have serves := (knows leafProxy (List.mem_cons_of_mem _ List.mem_cons_self) rfl).serves (by decide +kernel)
  exact ⟨_,_,replaced,serves,(knows _ List.mem_cons_self rfl).detects (by decide +kernel),rfl⟩

end Bridge

end HandleBridge
