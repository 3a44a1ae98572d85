import HandleBridge.Proofs.CommonErrors
import HandleBridge.Proofs.ForeignCalls
import HandleBridge.Proofs.KnownClasses

/-!
Failures for a type, when the call went through a foreign library. One status stands for both kinds of them, and the
adapter tells them apart by the call and by the classes that it looks up. It recognises a value of the wrong kind and
an object of the wrong class. Where a list stands for an object there is no class to look up, and the failure comes
back as another one.
-/

namespace HandleBridge

/-- What holds of an error that is one for a type. -/
def Error.IfTyped (X : Error → Prop) : Error → Prop
  | .typeMismatch expected got => X (.typeMismatch expected got)
  | .classMismatch expected got => X (.classMismatch expected got)
  | _ => True

namespace FailsOnly

variable {α : Type} {X Y : Error → Prop} {x : Except Error α}

theorem imp (only : FailsOnly (Error.IfTyped X) x) (implies : ∀ e, X e → Y e) : FailsOnly (Error.IfTyped Y) x := by
  intro e failed
  have holds := only e failed
  cases e with
  | typeMismatch expected got => exact implies _ holds
  | classMismatch expected got => exact implies _ holds
  | _ => trivial

end FailsOnly

theorem ClassType.feature_typed {X : Error → Prop} (cls : ClassType) (f : FeatureId) :
    FailsOnly (Error.IfTyped X) (cls.feature f) := by
  unfold feature
  split
  · exact .ok _
  · exact .error trivial

namespace Package

variable (p : Package) {X : Error → Prop}

theorem require_typed (c : ClassId) : FailsOnly (Error.IfTyped X) (p.require c) := by
  unfold require
  split
  · exact .ok _
  · exact .error trivial

theorem requireNamed_typed (name : String) : FailsOnly (Error.IfTyped X) (p.requireNamed name) := by
  unfold requireNamed
  split
  · exact .ok _
  · exact .error trivial

end Package

namespace Heap

variable {p : Package} {settings : HeapSettings} {heap next : Heap} {h k source element : Handle} {f : FeatureId}
  {v : Value} {X : Error → Prop}

theorem find_typed : FailsOnly (Error.IfTyped X) (heap.find h) := by
  unfold find
  split
  · exact .error trivial
  · split
    · exact .ok _
    · exact .error trivial

theorem object_typed (list : ∀ l, heap.get? h = some (.list l) → X .listForObject) :
    FailsOnly (Error.IfTyped X) (heap.object h) := by
  refine .bind find_typed fun entry found => ?_
  cases entry with
  | object o => exact .ok _
  | list l => exact .error (list l (find_eq_ok_iff.mp found))

theorem list_typed : FailsOnly (Error.IfTyped X) (heap.list h) := by
  refine .bind find_typed fun entry found => ?_
  cases entry with
  | object o => exact .error trivial
  | list l => exact .ok _

theorem objectFeature_typed (list : ∀ l, heap.get? h = some (.list l) → X .listForObject) :
    FailsOnly (Error.IfTyped X) (objectFeature p heap h f) :=
  .bind (object_typed list) fun o _ => .bind (p.require_typed o.cls) fun cls _ =>
    .bind (cls.feature_typed f) fun _ _ => .ok _

/-- A failure that an element causes by what it is: a list, or an object of another class. -/
inductive Unfit (heap : Heap) (element : Handle) : Error → Prop
  | list (l : ListData) (found : heap.get? element = some (.list l)) : Unfit heap element .listForObject
  | object (o : ObjectData) (found : heap.get? element = some (.object o)) (expected got : String) :
      Unfit heap element (.classMismatch expected got)

/-- An element is refused for what it is. -/
theorem checkElement_typed {expected : ClassId} :
    FailsOnly (Error.IfTyped (Unfit heap element)) (checkElement p heap expected element) := by
  unfold checkElement
  split
  · exact .ok _
  · refine .bind (object_typed .list) fun o found => ?_
    exact .check (.object o (object_eq_ok_iff.mp found) _ _) (.ok _)

/-- A push fails for a type only because of its element. -/
theorem pushBack_typed : FailsOnly (Error.IfTyped (Unfit heap element)) (pushBack p h element heap) :=
  .bind list_typed fun _ _ => .bind checkElement_typed fun _ _ => .ok _

theorem insertAt_typed {i : UInt64} : FailsOnly (Error.IfTyped (Unfit heap element)) (insertAt p h i element heap) :=
  .bind list_typed fun _ _ => .refuse trivial (.bind checkElement_typed fun _ _ => .ok _)

/-- Appending a list fails for a type only because of the classes of the two lists. -/
theorem insertAll_typed :
    FailsOnly (Error.IfTyped fun e => ∃ expected got, e = .classMismatch expected got) (insertAll p h source heap) :=
  .bind list_typed fun _ _ => .bind list_typed fun _ _ => .check ⟨_,_,rfl⟩ (.ok _)

/-- A failure that a write causes by the value alone, whose kind is not that of the feature. -/
inductive Misfit (p : Package) (heap : Heap) : Call Value → Error → Prop
  | value {h : Handle} {f : FeatureId} {v : Value} {o : ObjectData} {feature : Feature}
      (described : objectFeature p heap h f = .ok (o,feature)) (misfit : v.fits feature.kind.valueKind = false) :
      Misfit p heap (.set h f v) (.typeMismatch feature.kind.valueKind.name v.typeName)

/-- Where the failure of a write for a type comes from: what is written to, the value, what it refers to, or an item
of the list that it refers to. -/
inductive SetTyped (p : Package) (heap : Heap) (h : Handle) (f : FeatureId) : Value → Error → Prop
  | target (v : Value) (l : ListData) (found : heap.get? h = some (.list l)) : SetTyped p heap h f v .listForObject
  | value (v : Value) (e : Error) (misfit : Misfit p heap (.set h f v) e) : SetTyped p heap h f v e
  | element (element : Handle) (o : ObjectData) (feature : Feature) (target : String) (e : Error)
      (described : objectFeature p heap h f = .ok (o,feature)) (isSingle : feature.kind = .reference target false)
      (unfit : Unfit heap element e) : SetTyped p heap h f (.object element) e
  | item (source item : Handle) (o : ObjectData) (feature : Feature) (target : String) (e : Error)
      (described : objectFeature p heap h f = .ok (o,feature)) (isMany : feature.kind = .reference target true)
      (unfit : Unfit heap item e) : SetTyped p heap h f (.list source) e

theorem assignList_typed {backing : Handle} (unfit : ∀ item e, Unfit heap item e → X e) :
    FailsOnly (Error.IfTyped X) (assignList p backing source heap) := by
  unfold assignList
  split
  · exact .ok _
  · exact .bind list_typed fun _ _ => .bind list_typed fun _ _ =>
      .bind (.forM fun item _ => checkElement_typed.imp (unfit item)) fun _ _ => .ok _

/-- A write fails for a type in the ways that are listed. -/
theorem set_typed : FailsOnly (Error.IfTyped (SetTyped p heap h f v)) (set p h f v heap) := by
  refine .bind (objectFeature_typed (.target v)) fun (o,feature) described => ?_
  dsimp only
  split
  · rename_i fits
    split
    · exact .ok _
    · rename_i target isSingle
      split
      · rename_i element
        exact .bind (p.requireNamed_typed _) fun _ _ => .bind
          (checkElement_typed.imp fun e unfit => .element element o feature target e described isSingle unfit)
          fun _ _ => .ok _
      · exact .ok _
    · rename_i target isMany
      split
      · rw [isMany] at fits
        cases v with
        | list source =>
          exact .bind (assignList_typed fun item e unfit => .item source item o feature target e described isMany unfit)
            fun _ _ => .ok _
        | _ => cases fits
      · exact .error trivial
  · rename_i misfit
    exact .error (.value v _ (.value described (Bool.not_eq_true _ ▸ misfit)))

/-- Whether a computation fails for a type only where a list stands for an object. -/
abbrev MeetsLists {α : Type} (x : Except Error α) : Prop := FailsOnly (Error.IfTyped (· = .listForObject)) x

theorem meets_of_common {α : Type} {x : Except Error α} (only : FailsOnly Error.Common x) : MeetsLists x :=
  only.mono fun e common => by
    cases common with
    | listForObject => rfl
    | _ => trivial

theorem objectFeature_meets : MeetsLists (objectFeature p heap h f) := objectFeature_typed fun _ _ => rfl

theorem isSet_meets : MeetsLists (isSet p h f heap) := by
  refine .bind objectFeature_meets fun (o,feature) _ => ?_
  dsimp only
  split
  · exact .ok _
  · split
    · exact .bind list_typed fun _ _ => .ok _
    · exact .ok _

theorem unset_meets : MeetsLists (unset p h f heap).1 := by
  have only : MeetsLists (objectFeature p heap h f) := objectFeature_meets
  unfold unset
  split
  · rename_i e failed
    exact .error (only e failed)
  · rename_i o feature _
    split
    · rename_i held _
      have untyped : MeetsLists ((heap.putObject h (o.setField f { o.field f with isSet := false })).list held) :=
        list_typed
      dsimp only
      split
      · exact .ok _
      · rename_i e failed
        exact .error (untyped e failed)
    · exact .ok _

theorem listAt_meets {i : UInt64} : MeetsLists (listAt h i heap) := by
  refine .bind list_typed fun l _ => ?_
  dsimp only
  split
  · exact .ok _
  · exact .error trivial

/-! ### What the adapter makes of them -/

end Heap

namespace Foreign

open Heap

variable {p : Package} {settings : HeapSettings} {heap : Heap} {h element : Handle} {f : FeatureId} {v : Value}
  {c : Call Value} {e : Error}

/-- What the adapter makes of a failure for a type: the same failure where the kind of a value is wrong, one for a
class where the class of an object is, and one that is not for a kind where a list stands for an object. -/
inductive Retyped (p : Package) (heap : Heap) (c : Call Value) : Error → Error → Prop
  | same (e : Error) (misfit : Misfit p heap c e) : Retyped p heap c e e
  | cls (expected got expected' got' : String) :
      Retyped p heap c (.classMismatch expected got) (.classMismatch expected' got')
  | lost (e : Error) (fits : ∀ e, ¬Misfit p heap c e) (other : ∀ expected got, e ≠ .typeMismatch expected got) :
      Retyped p heap c .listForObject e

namespace Adapter

theorem Retyped.unexplained (fits : ∀ e, ¬Misfit p heap c e) (status : Status) :
    Retyped p heap c .listForObject (unexplained c status) :=
  .lost _ fits nofun

theorem classAt?_of_list {l : ListData} (found : heap.get? h = some (.list l)) : classAt? p heap h = none := by
  cases seen : classAt? p heap h with
  | none => rfl
  | some cls =>
    obtain ⟨o,there,-⟩ := classAt?_eq_some_iff.mp seen
    cases found.symm.trans (object_eq_ok_iff.mp there)

theorem classAt?_of_object {o : ObjectData} (known : Known p heap) (found : heap.get? h = some (.object o)) :
    ∃ cls, classAt? p heap h = some cls := by
  obtain ⟨cls,ofClass⟩ := known h o found
  exact ⟨cls,classAt?_eq_some_iff.mpr ⟨o,object_eq_ok_iff.mpr found,ofClass⟩⟩

/-- What an unfit element leads to, once the adapter asked for its class. -/
theorem retyped_of_unfit (known : Known p heap) (fits : ∀ e, ¬Misfit p heap c e) (unfit : Unfit heap element e)
    (expected : String) (status : Status) :
    Retyped p heap c e (((classAt? p heap element).map fun cls => .classMismatch expected cls.name).getD
      (Adapter.unexplained c status)) := by
  cases unfit with
  | list l found =>
    rw [classAt?_of_list found]
    exact Retyped.unexplained fits status
  | object o found =>
    obtain ⟨cls,seen⟩ := classAt?_of_object known found
    rw [seen]
    exact .cls _ _ _ _

/-- Whether the adapter, once it found what is wrong with the types of a call or nothing, makes a given failure of the
heap come back as it should. -/
def Retypes (p : Package) (settings : HeapSettings) (heap next : Heap) (c : Call Value) (e : Error) : Prop :=
  Exchange.Leads p settings next next (typeFailure p c) fun found =>
    Retyped p heap c e (found.getD (unexplained c .typeMismatch))

/-- Where nothing is looked into, only a list that stands for an object was wrong. -/
theorem retypes_list {next : Heap} (fits : ∀ e, ¬Misfit p heap c e) (fails : typeFailure p c = pure none) :
    Retypes p settings heap next c .listForObject := by
  unfold Retypes
  rw [fails]
  exact .pure (Retyped.unexplained fits _)

/-- An element that does not fit is explained by its class, if it has one. -/
theorem retypes_element {list : Handle} (known : Known p heap) (fits : ∀ e, ¬Misfit p heap c e)
    (unfit : Unfit heap element e) (fails : typeFailure p c = elementFailure p list element) :
    Retypes p settings heap heap c e := by
  unfold Retypes
  rw [fails]
  refine (leads_classOf element).returns ?_
  rintro _ rfl
  exact retyped_of_unfit known fits unfit _ _

/-- A feature that a write finds is the one that the adapter finds. -/
theorem classAt?_of_described {o : ObjectData} {feature : Feature}
    (described : objectFeature p heap h f = .ok (o,feature)) :
    ∃ cls, classAt? p heap h = some cls ∧ cls.feature f = .ok feature := by
  obtain ⟨found,cls,ofClass,row⟩ := objectFeature_eq_ok_iff.mp described
  exact ⟨cls,classAt?_eq_some_iff.mpr ⟨o,object_eq_ok_iff.mpr found,ofClass⟩,ClassType.feature_eq_ok_iff.mpr row⟩

theorem fits_of_described {o : ObjectData} {feature : Feature}
    (described : objectFeature p heap h f = .ok (o,feature)) (fits : v.fits feature.kind.valueKind = true) (e : Error) :
    ¬Misfit p heap (.set h f v) e := by
  rintro ⟨again,misfit⟩
  cases described.symm.trans again
  exact absurd fits (by simp [misfit])

theorem fits_of_list {l : ListData} (found : heap.get? h = some (.list l)) (e : Error) :
    ¬Misfit p heap (.set h f v) e := by
  rintro ⟨described,-⟩
  cases found.symm.trans (objectFeature_eq_ok_iff.mp described).1

/-- A write that fails for a type is explained by its value, or by the class of what it refers to. -/
theorem retypes_set (known : Known p heap) (typed : SetTyped p heap h f v e) :
    Retypes p settings heap heap (.set h f v) e := by
  unfold Retypes typeFailure valueFailure
  cases typed with
  | target v l found =>
    refine (leads_classOf h).bind ?_
    rintro _ rfl
    rw [classAt?_of_list found]
    exact .pure (Retyped.unexplained (fits_of_list found) _)
  | value v e misfit =>
    cases misfit with
    | @value _ _ _ o feature described misfit =>
      obtain ⟨cls,seen,row⟩ := classAt?_of_described described
      refine (leads_classOf h).bind ?_
      rintro _ rfl
      simp only [seen,row,misfit]
      split
      · cases ‹false = true›
      · cases ‹false = true›
      · exact .pure (.same _ (.value described misfit))
  | element element o feature target e described isSingle unfit =>
    obtain ⟨cls,seen,row⟩ := classAt?_of_described described
    have fits := fits_of_described (v := .object element) described (by rw [isSingle]; rfl)
    refine (leads_classOf h).bind ?_
    rintro _ rfl
    simp only [seen,row,isSingle]
    refine (leads_classOf element).returns ?_
    rintro _ rfl
    exact retyped_of_unfit known fits unfit _ _
  | item source item o feature target e described isMany unfit =>
    obtain ⟨cls,seen,row⟩ := classAt?_of_described described
    have fits := fits_of_described (v := .list source) described (by rw [isMany]; rfl)
    refine (leads_classOf h).bind ?_
    rintro _ rfl
    simp only [seen,row,isMany]
    refine .pure ?_
    cases unfit with
    | list l found => exact .lost _ fits nofun
    | object o found => exact .cls _ _ _ _

theorem diagnoses_of_typed {X : Error → Prop} (only : FailsOnly (Error.IfTyped X) (heap.respond p settings c).1)
    (retypes : ∀ e, (heap.respond p settings c).1 = .error e → X e →
      Retypes p settings heap (heap.respond p settings c).2 c e) :
    Diagnoses p settings heap c fun e e' => e.IfTyped (Retyped p heap c · e') := by
  intro e failed
  have holds := only e failed
  have anyway := leads_diagnose failed
  cases e with
  | typeMismatch expected got => exact (retypes _ failed holds).returns fun found retyped => retyped
  | classMismatch expected got => exact (retypes _ failed holds).returns fun found retyped => retyped
  | _ => exact fun library keeps => ⟨trivial,(anyway library keeps).2⟩

/-- A call that leaves the heap as it is when it fails is looked into on the heap that it was given. -/
theorem diagnoses_of_kept {X : Error → Prop} (only : FailsOnly (Error.IfTyped X) (heap.respond p settings c).1)
    (kept : ∀ e, (heap.respond p settings c).1 = .error e → (heap.respond p settings c).2 = heap)
    (retypes : ∀ e, X e → Retypes p settings heap heap c e) :
    Diagnoses p settings heap c fun e e' => e.IfTyped (Retyped p heap c · e') := by
  refine diagnoses_of_typed only fun e failed typed => ?_
  rw [kept e failed]
  exact retypes e typed

theorem diagnoses_of_meets (fits : ∀ e, ¬Misfit p heap c e) (meets : MeetsLists (heap.respond p settings c).1)
    (fails : typeFailure p c = pure none) :
    Diagnoses p settings heap c fun e e' => e.IfTyped (Retyped p heap c · e') := by
  refine diagnoses_of_typed meets ?_
  rintro _ - rfl
  exact retypes_list fits fails

theorem diagnoses_of_bare (fits : ∀ e, ¬Misfit p heap c e) (bare : c.Bare) (fails : typeFailure p c = pure none) :
    Diagnoses p settings heap c fun e e' => e.IfTyped (Retyped p heap c · e') :=
  diagnoses_of_meets fits (meets_of_common (respond_common p settings heap bare)) fails

/-- Whatever call fails for a type, the adapter makes of the failure what `Retyped` tells. -/
theorem diagnoses_call (known : Known p heap) (c : Call Value) :
    Diagnoses p settings heap c fun e e' => e.IfTyped (Retyped p heap c · e') := by
  cases c with
  | set h f v =>
    refine diagnoses_of_kept (commit_only set_typed) ?_ fun e typed => retypes_set known typed
    exact fun _ failed => (commit_eq_error failed).2
  | pushBack list element =>
    refine diagnoses_of_kept (commit_only pushBack_typed) ?_ fun e unfit => retypes_element known nofun unfit rfl
    exact fun _ failed => (commit_eq_error failed).2
  | insertAt list i element =>
    refine diagnoses_of_kept (commit_only insertAt_typed) ?_ fun e unfit => retypes_element known nofun unfit rfl
    exact fun _ failed => (commit_eq_error failed).2
  | insertAll list source =>
    refine diagnoses_of_typed (commit_only insertAll_typed) ?_
    rintro _ - ⟨expected,got,rfl⟩
    exact .pure (.cls _ _ _ _)
  | create cls => exact diagnoses_of_bare nofun (.create cls) rfl
  | destroy h => exact diagnoses_of_bare nofun (.destroy h) rfl
  | upcast h => exact diagnoses_of_bare nofun (.upcast h) rfl
  | initialise h => exact diagnoses_of_bare nofun (.initialise h) rfl
  | copy h => exact diagnoses_of_bare nofun (.copy h) rfl
  | classOf h => exact diagnoses_of_bare nofun (.classOf h) rfl
  | get h f resolve => exact diagnoses_of_meets nofun (.bind objectFeature_meets fun _ _ => .ok _) rfl
  | isSet h f => exact diagnoses_of_meets nofun isSet_meets rfl
  | unset h f => exact diagnoses_of_meets nofun unset_meets rfl
  | createList cls => exact diagnoses_of_bare nofun (.createList cls) rfl
  | listSize h => exact diagnoses_of_bare nofun (.listSize h) rfl
  | listAt h i => exact diagnoses_of_meets nofun listAt_meets rfl
  | clear h => exact diagnoses_of_bare nofun (.clear h) rfl

end Adapter

/-- After any run, a failure for a class comes back as one for a class, and a failure for a kind comes back just as it
was if the value that is written has another kind than the feature. Any other failure for a kind is that of a list that
stands for an object, and comes back as something else. -/
theorem type_failures_through_library {library : Library} (built : p.Built) (calls : List (Call Value))
    (unscripted : library.faults = []) (reached : library.native.heap = Heap.empty.after p settings calls)
    (c : Call Value) :
    (∀ expected got, (library.native.heap.respond p settings c).1 = .error (.classMismatch expected got) →
      ∃ expected' got', ((Adapter.call p c).run (Library.answer p settings) library).1 =
        .error (.classMismatch expected' got')) ∧
    ∀ expected got, (library.native.heap.respond p settings c).1 = .error (.typeMismatch expected got) →
      (Misfit p library.native.heap c (.typeMismatch expected got) →
        ((Adapter.call p c).run (Library.answer p settings) library).1 = .error (.typeMismatch expected got)) ∧
      (¬Misfit p library.native.heap c (.typeMismatch expected got) →
        expected = "object" ∧ got = "list" ∧ ∀ expected' got',
          ((Adapter.call p c).run (Library.answer p settings) library).1 ≠ .error (.typeMismatch expected' got')) := by
  have known : Known p library.native.heap := reached ▸ known_after built calls
  obtain ⟨related,-⟩ := Adapter.leads_call_of (Adapter.diagnoses_call known c) library ⟨rfl,unscripted⟩
  generalize ((Adapter.call p c).run (Library.answer p settings) library).1 = answer at related ⊢
  constructor
  · intro expected got failed
    rw [failed] at related
    cases related with
    | error retyped =>
      cases retyped with
      | same e misfit => cases misfit
      | cls expected got expected' got' => exact ⟨expected',got',rfl⟩
  · intro expected got failed
    rw [failed] at related
    cases related with
    | error retyped =>
      cases retyped with
      | same e misfit =>
        constructor
        · intro _
          rfl
        · intro fits
          exact absurd misfit fits
      | lost e fits other =>
        constructor
        · intro misfit
          exact absurd misfit (fits _)
        · intro _
          refine ⟨rfl,rfl,fun expected' got' same => ?_⟩
          cases same
          exact other _ _ rfl

/-- A library that holds one node, the first slot, and the list of its children, the second. -/
def withNode : Library := { native := ⟨Heap.empty.after forest {} [.create ⟨1⟩],#[]⟩ }

/-- Text is no tag and a node is none: the node keeps both failures through the library. -/
theorem type_failures_of_node :
    ((Adapter.call forest (.set (.ofSlot 0 1) ⟨0⟩ (.string "red"))).run (Library.answer forest {}) withNode).1 =
        .error (.typeMismatch "object" "string") ∧
      ∃ expected got, ((Adapter.call forest (.set (.ofSlot 0 1) ⟨0⟩ (.object (.ofSlot 0 1)))).run
        (Library.answer forest {}) withNode).1 = .error (.classMismatch expected got) := by
  obtain ⟨-,kinds⟩ := @type_failures_through_library forest {} withNode forest_built [.create ⟨1⟩] rfl rfl
    (.set (.ofSlot 0 1) ⟨0⟩ (.string "red"))
  obtain ⟨classes,-⟩ := @type_failures_through_library forest {} withNode forest_built [.create ⟨1⟩] rfl rfl
    (.set (.ofSlot 0 1) ⟨0⟩ (.object (.ofSlot 0 1)))
  have described : objectFeature forest withNode.native.heap (.ofSlot 0 1) ⟨0⟩ =
      .ok (⟨⟨1⟩,[⟨.null,false⟩,⟨.list (.ofSlot 1 1),false⟩],false⟩,⟨⟨0⟩,"tag",.reference "Tag" false,.null⟩) := rfl
  exact ⟨(kinds "object" "string" rfl).1 (.value described rfl),classes "Tag" "Node" rfl⟩

/-- Putting the list of children into itself is refused by the heap with a failure for a kind, and the library's
status comes back unexplained. -/
theorem list_as_element_unexplained :
    (withNode.native.heap.respond forest {} (.pushBack (.ofSlot 1 1) (.ofSlot 1 1))).1 =
        .error (.typeMismatch "object" "list") ∧
      ((Adapter.call forest (.pushBack (.ofSlot 1 1) (.ofSlot 1 1))).run (Library.answer forest {}) withNode).1 =
        .error (.native 4 "list_push_back on 0x100000002 failed with status 4") :=
  ⟨rfl,rfl⟩

end Foreign

end HandleBridge
