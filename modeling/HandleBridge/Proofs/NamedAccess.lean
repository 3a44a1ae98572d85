import HandleBridge.Proofs.AccessHistory
import HandleBridge.Proofs.FeatureTables
import HandleBridge.Proofs.Validation
import HandleBridge.Schema.Sample

/-!
Named and generic access to a feature. The accessors of a typed view go by fixed identifiers. An identifier means the
same in every class that derives, so accessors that fit the class of the view fit the class that a proxy knows and the
class of the object behind it (`Viewed.leadsTo`). Boxing loses nothing, and a write of plain data changes one field of
one object, so all ways to read a feature agree on what was written in any way (`named_access_agrees`).
-/

namespace HandleBridge

theorem HostType.unbox_box {t : HostType} (plain : t ≠ .reference) (x : t.Carrier) : t.unbox (t.box x) = .ok x := by
  cases t with
  | reference => exact absurd rfl plain
  | _ => rfl

namespace Kind

variable {kind : Kind}

theorem hostType_ne_reference (plain : kind.holdsHandle = false) : kind.hostType ≠ .reference := by
  cases kind with
  | object => cases plain
  | _ => nofun

theorem fits_box (plain : kind.holdsHandle = false) (x : kind.hostType.Carrier) :
    (kind.hostType.box x).fits kind = true := by
  cases kind with
  | object => cases plain
  | list => cases plain
  | _ => rfl

/-- Every value of the kind comes from boxing. -/
theorem box_of_fits {v : Value} (plain : kind.holdsHandle = false) (fits : v.fits kind = true) :
    ∃ x, kind.hostType.box x = v := by
  have own := kind?_of_fits plain fits
  cases v with
  | null => cases own
  | object h | list h =>
    cases own
    cases plain
  | bool x | int x | long x | double x | string x =>
    cases own
    exact ⟨x,rfl⟩

end Kind

namespace Heap

variable {p : Package} {heap : Heap} {h : Handle} {f g : FeatureId} {o : ObjectData} {feature : Feature} {v : Value}
  {kind : Kind} {new : Field}

theorem list_putObject {changed : ObjectData} (found : heap.get? h = some (.object o)) (k : Handle) :
    (heap.putObject h changed).list k = heap.list k := by
  unfold list
  by_cases same : k = h
  · subst same
    rw [find_eq_ok_iff.mpr found,find_eq_ok_iff.mpr (get?_putObject_self found changed)]
    rfl
  · simp [find,get?_putObject found,same]

/-- Writing plain data that fits always succeeds, and writes one field. -/
theorem set_of_data (described : objectFeature p heap h f = .ok (o,feature)) (isData : feature.kind = .data kind)
    (fits : v.fits feature.kind.valueKind = true) :
    set p h f v heap = .ok (heap.putObject h (o.setField f ⟨v,true⟩)) := by
  rw [isData] at fits
  simp only [set,described,bind,Except.bind,isData,fits,if_true]
  rfl

theorem objectFeature_putField (found : heap.get? h = some (.object o)) (f g : FeatureId) (new : Field) :
    objectFeature p (heap.putObject h (o.setField f new)) h g =
      (objectFeature p heap h g).map fun (_,feature) => (o.setField f new,feature) := by
  have now : (heap.putObject h (o.setField f new)).object h = .ok (o.setField f new) :=
    object_eq_ok_iff.mpr (get?_putObject_self found _)
  have sameClass : (o.setField f new).cls = o.cls := rfl
  simp only [objectFeature,object_eq_ok_iff.mpr found,now,sameClass,bind,Except.bind]
  cases p.require o.cls with
  | error e => rfl
  | ok cls =>
    dsimp only
    cases cls.feature g <;> rfl

/-- Writing one field is not seen by who reads another, whether there is such a feature or not. -/
theorem get_putField (found : heap.get? h = some (.object o)) (other : f ≠ g) :
    get p h g (heap.putObject h (o.setField f new)) = get p h g heap := by
  rw [get,get,objectFeature_putField found]
  cases described : objectFeature p heap h g with
  | error e => rfl
  | ok row =>
    cases found.symm.trans (objectFeature_eq_ok_iff.mp described).1
    simp only [Except.map,bind,Except.bind,ObjectData.field_setField_ne other]

theorem isSet_putField (found : heap.get? h = some (.object o)) (other : f ≠ g) :
    isSet p h g (heap.putObject h (o.setField f new)) = isSet p h g heap := by
  rw [isSet,isSet,objectFeature_putField found]
  cases described : objectFeature p heap h g with
  | error e => rfl
  | ok row =>
    cases found.symm.trans (objectFeature_eq_ok_iff.mp described).1
    simp only [Except.map,bind,Except.bind,ObjectData.field_setField_ne other,list_putObject found]

end Heap

/-! ### Typed views -/

namespace Package

variable {p : Package} {cls above : ClassType} {c e : ClassId} {f : FeatureId} {feature : Feature}

/-- A feature of a class is the same feature in every class that derives from it. -/
theorem Built.feature_of_isA (built : p.Built) (addressable : p.Addressable) (derives : p.isA c e = true)
    (known : p.class? c = some cls) (knownAbove : p.class? e = some above) (row : above.feature f = .ok feature) :
    cls.feature f = .ok feature := by
  obtain ⟨name,uri,defs,-,done⟩ := built
  exact Package.feature_of_isA done addressable.classes derives known knownAbove row

/-- The name of a feature leads to the identifier that it was got by. -/
theorem Built.featureId_name (built : p.Built) (member : cls ∈ p.classes) (row : cls.feature f = .ok feature) :
    cls.featureId feature.name = .ok f := by
  obtain ⟨name,uri,defs,-,done⟩ := built
  rw [(indexed_of_build done member).named _ _ (ClassType.feature_eq_ok_iff.mp row),UInt32.ofNat_toNat]

end Package

/-- The accessor goes by the identifier of the feature, which holds plain data of the accessor's type. -/
structure Accessor.Fits (a : Accessor) (cls : ClassType) (feature : Feature) : Prop where
  row : cls.feature a.feature = .ok feature
  data : ∃ kind, feature.kind = .data kind ∧ kind.hostType = a.type

namespace Accessor.Fits

variable {p : Package} {a : Accessor} {cls : ClassType} {feature : Feature} (fits : a.Fits cls feature)
  (proper : feature.Proper p)
include fits proper

theorem plain : ∃ kind, feature.kind = .data kind ∧ kind.hostType = a.type ∧ kind.holdsHandle = false := by
  obtain ⟨kind,isData,ofType⟩ := fits.data
  rw [Feature.Proper,isData] at proper
  exact ⟨kind,isData,ofType,proper.1⟩

theorem unbox_box (x : a.type.Carrier) : a.type.unbox (a.type.box x) = .ok x := by
  obtain ⟨kind,-,ofType,plain⟩ := fits.plain proper
  exact HostType.unbox_box (ofType ▸ Kind.hostType_ne_reference plain) x

theorem fits_box (x : a.type.Carrier) : (a.type.box x).fits feature.kind.valueKind = true := by
  obtain ⟨kind,isData,ofType,plain⟩ := fits.plain proper
  revert x
  rw [isData,← ofType]
  exact Kind.fits_box plain

theorem box_of_fits {v : Value} (kindFits : v.fits feature.kind.valueKind = true) : ∃ x, a.type.box x = v := by
  obtain ⟨kind,isData,ofType,plain⟩ := fits.plain proper
  rw [isData] at kindFits
  rw [← ofType]
  exact Kind.box_of_fits plain kindFits

end Accessor.Fits

/-- The view is for the class, which has a feature for each of the view's accessors. -/
structure TypedView.FitsIn (view : TypedView) (p : Package) (cls : ClassType) : Prop where
  named : ∃ name, view.required = some name ∧ p.classNamed? name = some cls
  accessors : ∀ a ∈ view.accessors, ∃ feature, a.Fits cls feature

/-- Every typed view of the sample fits in the package of the sample. -/
theorem Sample.views_fit : ∃ p, package = .ok p ∧ ∀ view ∈ views, ∃ cls, view.FitsIn p cls := by
  refine ⟨_,rfl,?_⟩
  simp only [views,List.forall_mem_cons]
  refine ⟨⟨_,⟨_,rfl,rfl⟩,?_⟩,⟨_,⟨_,rfl,rfl⟩,?_⟩,⟨_,⟨_,rfl,rfl⟩,?_⟩,⟨_,⟨_,rfl,rfl⟩,nofun⟩,nofun⟩
  · simp only [optionValue,List.forall_mem_cons]
    exact ⟨⟨_,rfl,_,rfl,rfl⟩,⟨_,rfl,_,rfl,rfl⟩,nofun⟩
  · simp only [localAccount,List.forall_mem_cons]
    exact ⟨⟨_,rfl,_,rfl,rfl⟩,⟨_,rfl,_,rfl,rfl⟩,⟨_,rfl,_,rfl,rfl⟩,⟨_,rfl,_,rfl,rfl⟩,⟨_,rfl,_,rfl,rfl⟩,nofun⟩
  · simp only [jobOutputOptions,List.forall_mem_cons]
    exact ⟨⟨_,rfl,_,rfl,rfl⟩,⟨_,rfl,_,rfl,rfl⟩,⟨_,rfl,_,rfl,rfl⟩,nofun⟩

/-- The object that a proxy shows as one of the class is there. -/
structure ObjectProxy.Present (p : Package) (heap : Heap) (cls : ClassType) (o : ObjectProxy) : Prop where
  unreleased : o.proxy.isReleased = false
  found : ∃ obj, heap.get? o.proxy.handle = some (.object obj) ∧ p.isA obj.cls cls.id = true

/-- What is met on the way from a proxy to a feature of its object. -/
structure ObjectProxy.LeadsTo (p : Package) (heap : Heap) (o : ObjectProxy) (f : FeatureId) (obj : ObjectData)
    (feature : Feature) : Prop where
  live : o.liveBase = .ok o.base
  row : o.cls.feature f = .ok feature
  named : o.cls.featureId feature.name = .ok f
  described : Heap.objectFeature p heap o.base f = .ok (obj,feature)
  inside : f.index.toNat < obj.fields.length
  proper : feature.Proper p

namespace Bridge

variable {b : Bridge} {view : TypedView} {state : Native × List Asked} {o : ObjectProxy} {above : ClassType}

/-- States that a bridge reaches with a proxy that was made for a view. -/
inductive Viewed (b : Bridge) (view : View) : Native × List Asked → ObjectProxy → Prop
  | made {state next : Native × List Asked} {os : List ObjectProxy} {ls : List ListProxy} {o : ObjectProxy} (p : Proxy)
      (reached : b.Reached state os ls)
      (wrapped : (b.wrap view.required p).run.run (recording b.answerInMemory) state = (.ok o,next)) :
      Viewed b view next o
  | later {state : Native × List Asked} {o : ObjectProxy} {α : Type} (r : Routine α) (viewed : Viewed b view state o) :
      Viewed b view (r.run (recording b.answerInMemory) state).2 o

namespace Viewed

theorem reached {view : View} (viewed : b.Viewed view state o) : ∃ os ls, b.Reached state (o :: os) ls := by
  induction viewed with
  | made p reached wrapped => exact ⟨_,_,.object view.required p reached wrapped⟩
  | later r _ ih =>
    obtain ⟨os,ls,reached⟩ := ih
    exact ⟨os,ls,.work r reached⟩

/-- What the proxy found when it was made. -/
theorem inspected (built : b.package.Built) (viewed : b.Viewed view.toView state o)
    (fits : view.FitsIn b.package above) : o.base = o.proxy.handle ∧ b.package.class? o.cls.id = some o.cls ∧
      b.package.isA o.cls.id above.id = true := by
  induction viewed with
  | later r _ ih => exact ih
  | made p reached wrapped =>
    have looked := onHeap_of_recording wrapped
    rw [onHeap_wrap] at looked
    split at looked
    · rename_i base cls middle inspected
      cases looked
      obtain ⟨-,same,⟨obj,-,known⟩,derives⟩ := onHeap_inspect_eq_ok inspected
      rw [← built.id_eq known] at known
      obtain ⟨name,required,named⟩ := fits.named
      obtain ⟨expected,named',derives⟩ := derives name required
      cases named.symm.trans named'
      exact ⟨same,known,by rw [Package.isA,known]; exact derives⟩
    · cases looked

/-- As long as no generation comes round, the object is there while its handle is alive. -/
theorem present (built : b.package.Built) (addressable : b.package.Addressable) (viewed : b.Viewed view.toView state o)
    (fits : view.FitsIn b.package above) (bounded : Heap.Bounded b.package b.config.heap (callsIn state.2))
    (usable : o.proxy.Usable state.1.heap) : o.Present b.package state.1.heap above := by
  obtain ⟨os,ls,reached⟩ := viewed.reached
  obtain ⟨base,known,derives⟩ := viewed.inspected built fits
  have truthful := ((reached.informed built addressable bounded).objects o List.mem_cons_self).truthful built bounded
  rw [← reached.heap_eq] at truthful
  rcases truthful.found with lost | ⟨obj,found,ofClass⟩
  · rw [base] at lost
    exact absurd lost usable.not_lost
  · exact ⟨usable.1,obj,base ▸ found,by rw [← built.id_eq ofClass]; exact derives⟩

/-- The feature of an identifier is the same in the class of the view, the class that the proxy knows, and the class of
the object. -/
theorem leadsTo {f : FeatureId} {feature : Feature} (built : b.package.Built) (addressable : b.package.Addressable)
    (viewed : b.Viewed view.toView state o) (fits : view.FitsIn b.package above)
    (few : state.1.heap.slots.size < 2 ^ 32) (present : o.Present b.package state.1.heap above)
    (row : above.feature f = .ok feature) : ∃ obj, o.LeadsTo b.package state.1.heap f obj feature := by
  have wellFormed : Heap.WellFormed b.package state.1.heap := by
    obtain ⟨os,ls,reached⟩ := viewed.reached
    rw [reached.heap_eq] at few ⊢
    exact Heap.wellFormed_after built addressable .empty Heap.sound_empty few
  obtain ⟨name,-,named⟩ := fits.named
  obtain ⟨base,known,derives⟩ := viewed.inspected built fits
  obtain ⟨unreleased,obj,found,ofView⟩ := present
  obtain ⟨cls,object⟩ := wellFormed.objects _ obj found
  have knownAbove := built.class?_id addressable (Package.classNamed?_mem named)
  have rowKnown := built.feature_of_isA addressable derives known knownAbove row
  have rowThere := built.feature_of_isA addressable ofView object.known knownAbove row
  have described : Heap.objectFeature b.package state.1.heap o.base f = .ok (obj,feature) :=
    Heap.objectFeature_eq_ok_iff.mpr ⟨base ▸ found,cls,object.known,ClassType.feature_eq_ok_iff.mp rowThere⟩
  have member := Package.class?_mem known
  refine ⟨obj,?_,rowKnown,built.featureId_name member rowKnown,described,(wellFormed.inside described).1,?_⟩
  · rw [ObjectProxy.liveBase,Proxy.live_eq_ok_iff.mpr ⟨unreleased,Arena.isNull_of_get? found,rfl⟩]
    rfl
  · exact built.proper member (List.mem_of_getElem? (ClassType.feature_eq_ok_iff.mp rowKnown))

end Viewed

/-! ### Reading and writing through proxies -/

section
variable {heap : Heap} {f : FeatureId} {feature : Feature} {v : Value} (live : o.liveBase = .ok o.base)
include live

theorem onHeap_liveBase {α : Type} (work : Handle → Action α) :
    b.onHeap (liftM o.liveBase >>= work) heap = b.onHeap (work o.base) heap := by
  rw [onHeap_bind,onHeap_lift,live]

theorem onHeap_get (resolve : Bool) : b.onHeap (o.get b f resolve) heap =
    ((o.cls.feature f).bind fun _ => Heap.get b.package o.base f heap,heap) := by
  rw [ObjectProxy.get,onHeap_bind,onHeap_lift]
  cases o.cls.feature f with
  | error e => rfl
  | ok feature => exact (onHeap_liveBase live _).trans (b.onHeap_call heap b (.get o.base f resolve))

theorem onHeap_isSet : b.onHeap (o.isSet b f) heap =
    ((o.cls.feature f).bind fun _ => Heap.isSet b.package o.base f heap,heap) := by
  rw [ObjectProxy.isSet,onHeap_bind,onHeap_lift]
  cases o.cls.feature f with
  | error e => rfl
  | ok feature => exact (onHeap_liveBase live _).trans (b.onHeap_call heap b (.isSet o.base f))

/-- A value that fits passes the check of the proxy, if there is one. -/
theorem onHeap_set (row : o.cls.feature f = .ok feature) (fits : v.fits feature.kind.valueKind = true) :
    b.onHeap (o.set b f v) heap = heap.respond b.package b.config.heap (.set o.base f v) := by
  rw [ObjectProxy.set,onHeap_bind,onHeap_lift,row]
  simp only [fits,Bool.not_true,Bool.and_false,Bool.false_eq_true,if_false]
  exact (onHeap_liveBase live _).trans (b.onHeap_call heap b (.set o.base f v))

end

/-- Every way to read a feature gives what was written, and no other feature reads otherwise than before. Reading leaves
the heap as it is. -/
structure Shows (b : Bridge) (o : ObjectProxy) (a : Accessor) (feature : Feature) (x : a.type.Carrier)
    (before after : Native) : Prop where
  read : b.outcome (o.read b a) after = (.ok x,after.heap)
  get : ∀ resolve, b.outcome (o.get b a.feature resolve) after = (.ok (a.type.box x),after.heap)
  named : b.outcome (o.getNamedAs b a.type feature.name) after = (.ok x,after.heap)
  namedValue : b.outcome (o.getNamed b feature.name) after = (.ok (a.type.box x),after.heap)
  isSet : b.outcome (o.isSet b a.feature) after = (.ok true,after.heap)
  others : ∀ g, g ≠ a.feature →
    (∀ resolve, b.outcome (o.get b g resolve) after = ((b.outcome (o.get b g resolve) before).1,after.heap)) ∧
    b.outcome (o.isSet b g) after = ((b.outcome (o.isSet b g) before).1,after.heap)
  /-- All other objects and all lists are as before. -/
  elsewhere : ∀ h, h ≠ o.base → after.heap.get? h = before.heap.get? h

/-- Named and generic access to a feature agree: a write in either way succeeds, and every way to read shows it. -/
structure AccessAgrees (b : Bridge) (native : Native) (o : ObjectProxy) (a : Accessor) (feature : Feature) : Prop where
  write : ∀ x, ∃ next, b.runInMemory (o.write b a x).run native = (.ok (),next) ∧ b.Shows o a feature x native next
  set : ∀ v, v.fits feature.kind.valueKind = true → ∃ x next, a.type.box x = v ∧
    b.runInMemory (o.set b a.feature v).run native = (.ok (),next) ∧ b.Shows o a feature x native next

section
variable {a : Accessor} {cls : ClassType} {feature : Feature} {obj : ObjectData} {x : a.type.Carrier}
  {before after : Native}

/-- Once the field is written, every way of reading shows the value. -/
theorem shows_of_putField (leads : o.LeadsTo b.package before.heap a.feature obj feature) (fits : a.Fits cls feature)
    (changed : after.heap = before.heap.putObject o.base (obj.setField a.feature ⟨a.type.box x,true⟩)) :
    b.Shows o a feature x before after := by
  obtain ⟨live,row,named,described,inside,proper⟩ := leads
  obtain ⟨found,-⟩ := Heap.objectFeature_eq_ok_iff.mp described
  have now : Heap.objectFeature b.package after.heap o.base a.feature =
      .ok (obj.setField a.feature ⟨a.type.box x,true⟩,feature) := by
    rw [changed,Heap.objectFeature_putField found,described]
    rfl
  have got : ∀ resolve, b.onHeap (o.get b a.feature resolve) after.heap = (.ok (a.type.box x),after.heap) := by
    intro resolve
    rw [onHeap_get live,row]
    simp only [Except.bind,Heap.get,now,bind,ObjectData.field_setField inside,pure,Except.pure]
  have unboxed : b.onHeap (o.getAs b a.type a.feature) after.heap = (.ok x,after.heap) := by
    rw [ObjectProxy.getAs,onHeap_bind,got]
    exact (onHeap_lift ..).trans (congrArg (·,after.heap) (fits.unbox_box proper x))
  refine ⟨?_,?_,?_,?_,?_,?_,?_⟩
  · rw [outcome_eq_onHeap]
    exact unboxed
  · intro resolve
    rw [outcome_eq_onHeap,got]
  · rw [outcome_eq_onHeap,ObjectProxy.getNamedAs,onHeap_bind,onHeap_lift,named]
    exact unboxed
  · rw [outcome_eq_onHeap,ObjectProxy.getNamed,onHeap_bind,onHeap_lift,named]
    exact got false
  · rw [outcome_eq_onHeap,onHeap_isSet live,row]
    simp only [Except.bind,Heap.isSet,now,bind,ObjectData.field_setField inside,if_true,pure,Except.pure]
  · intro g other
    refine ⟨fun resolve => ?_,?_⟩
    · rw [outcome_eq_onHeap,outcome_eq_onHeap,onHeap_get live,onHeap_get live,changed,
        Heap.get_putField found (Ne.symm other)]
    · rw [outcome_eq_onHeap,outcome_eq_onHeap,onHeap_isSet live,onHeap_isSet live,changed,
        Heap.isSet_putField found (Ne.symm other)]
  · intro h other
    rw [changed,Heap.get?_putObject found,if_neg other]

/-- Named and generic access agree on a feature that both of them lead to. -/
theorem accessAgrees_of_leadsTo {native : Native} (leads : o.LeadsTo b.package native.heap a.feature obj feature)
    (fits : a.Fits cls feature) : b.AccessAgrees native o a feature := by
  have writes : ∀ x, ∃ next, b.runInMemory (o.set b a.feature (a.type.box x)).run native = (.ok (),next) ∧
      b.Shows o a feature x native next := by
    intro x
    obtain ⟨kind,isData,-⟩ := fits.data
    have kindFits := fits.fits_box leads.proper x
    have wrote := outcome_eq_onHeap b (o.set b a.feature (a.type.box x)) native
    rw [onHeap_set leads.live leads.row kindFits] at wrote
    simp only [Heap.respond,Heap.answer,Heap.commit,Heap.set_of_data leads.described isData kindFits] at wrote
    obtain ⟨done,changed⟩ := Prod.mk.inj wrote
    exact ⟨_,Prod.ext done rfl,shows_of_putField leads fits changed⟩
  refine ⟨writes,fun v kindFits => ?_⟩
  obtain ⟨x,rfl⟩ := fits.box_of_fits leads.proper kindFits
  obtain ⟨next,done,shows⟩ := writes x
  exact ⟨x,next,rfl,done,shows⟩

end

/-- In every state that a bridge reaches on the in-memory heap, named and generic access to the features of a typed view
agree for every object that is shown through the view, of whatever class that derives from the one of the view. -/
theorem named_access_agrees (built : b.package.Built) (addressable : b.package.Addressable)
    (fits : view.FitsIn b.package above) (viewed : b.Viewed view.toView state o)
    (few : state.1.heap.slots.size < 2 ^ 32) (present : o.Present b.package state.1.heap above) :
    ∀ a ∈ view.accessors, ∃ feature, a.Fits above feature ∧ b.AccessAgrees state.1 o a feature := by
  intro a member
  obtain ⟨feature,named⟩ := fits.accessors a member
  obtain ⟨obj,leads⟩ := viewed.leadsTo built addressable fits few present named.row
  exact ⟨feature,named,accessAgrees_of_leadsTo leads named⟩

/-- Options as in the sample, and two classes below them. -/
def pinnedOptions : Package := ⟨"options","urn:options",[
  ⟨⟨0⟩,"PinnedOption",[⟨1⟩,⟨2⟩],false,[⟨⟨0⟩,"optionName",.data .string,.string ""⟩,
    ⟨⟨1⟩,"value",.data .string,.string ""⟩,⟨⟨2⟩,"rank",.data .int,.int 0⟩,⟨⟨3⟩,"isPinned",.data .bool,.bool false⟩]⟩,
  ⟨⟨1⟩,"RankedOption",[⟨2⟩],false,[⟨⟨0⟩,"optionName",.data .string,.string ""⟩,
    ⟨⟨1⟩,"value",.data .string,.string ""⟩,⟨⟨2⟩,"rank",.data .int,.int 0⟩]⟩,
  ⟨⟨2⟩,"OptionValue",[],false,[⟨⟨0⟩,"optionName",.data .string,.string ""⟩,
    ⟨⟨1⟩,"value",.data .string,.string ""⟩]⟩]⟩

theorem pinnedOptions_built : pinnedOptions.Built := by
  refine ⟨"options","urn:options",[
    { name := "PinnedOption", parent := some "RankedOption", features := [Sample.attr "isPinned" .bool] },
    { name := "RankedOption", parent := some "OptionValue", features := [Sample.attr "rank" .int] },
    { name := "OptionValue", features := [Sample.attr "optionName" .string,Sample.attr "value" .string] }],?_,rfl⟩
  intro d member row within target many isReference
  simp only [List.mem_cons,List.not_mem_nil,or_false] at member
  rcases member with rfl | rfl | rfl <;> simp [Sample.attr] at within
  · subst within
    cases isReference
  · subst within
    cases isReference
  · rcases within with rfl | rfl <;> cases isReference

theorem pinnedOptions_addressable : pinnedOptions.Addressable where
  classes := by decide
  features := by decide

/-- An option that is ranked and pinned can be got and accessed as any option. -/
theorem named_access_agrees_for_pinnedOption : ∃ state o above,
    Viewed ⟨pinnedOptions,{}⟩ Sample.optionValue.toView state o ∧ Sample.optionValue.FitsIn pinnedOptions above ∧
    o.Present pinnedOptions state.1.heap above ∧ o.cls.name = "PinnedOption" ∧
    ∀ a ∈ Sample.optionValue.accessors, ∃ feature, a.Fits above feature ∧
      AccessAgrees ⟨pinnedOptions,{}⟩ state.1 o a feature := by
  have viewed : Viewed ⟨pinnedOptions,{}⟩ Sample.optionValue.toView _ _ :=
    .made (.owning (.ofSlot 0 1)) (.work (call ⟨pinnedOptions,{}⟩ (.create ⟨0⟩)).run .start) rfl
  have fits : Sample.optionValue.FitsIn pinnedOptions _ := ⟨⟨_,rfl,rfl⟩,by
    simp only [Sample.optionValue,List.forall_mem_cons]
    exact ⟨⟨_,rfl,_,rfl,rfl⟩,⟨_,rfl,_,rfl,rfl⟩,nofun⟩⟩
  have present := viewed.present pinnedOptions_built pinnedOptions_addressable fits
    (Heap.bounded_of_short (by decide +kernel) (by decide +kernel)) ⟨rfl,by decide +kernel⟩
  exact ⟨_,_,_,viewed,fits,present,rfl,
    named_access_agrees pinnedOptions_built pinnedOptions_addressable fits viewed (by decide +kernel) present⟩

end Bridge

end HandleBridge
