import HandleBridge.Proofs.TypeFailures

/-!
Failures for a range, when the call went through a foreign library. One status stands for an index that is not in the
list and for a feature that the class does not have. The adapter looks the length or the class up, and tells exactly
what the heap would have told: it loses no such failure and invents none, whatever else is wrong with the call.
-/

namespace HandleBridge

/-- Whether an error is one for a range. -/
inductive Error.Ranged : Error → Prop
  | index (index length : UInt64) : Ranged (.indexOutOfRange index length)
  | feature (cls : String) (feature count : UInt32) : Ranged (.featureOutOfRange cls feature count)

theorem Error.Ranged.status {e : Error} (ranged : e.Ranged) : e.status = .outOfRange := by
  cases ranged <;> rfl

theorem Error.Common.not_ranged {e : Error} (common : e.Common) : ¬e.Ranged := by
  intro ranged
  cases ranged <;> cases common

theorem Error.OfHeap.ranged_of_status {dead : Handle → Prop} {e : Error} (own : e.OfHeap dead)
    (status : e.status = .outOfRange) : e.Ranged := by
  cases own with
  | indexOutOfRange index length => exact .index index length
  | featureOutOfRange cls feature count => exact .feature cls feature count
  | _ => cases status

namespace Heap

open Foreign Foreign.Adapter

variable {p : Package} {settings : HeapSettings} {heap : Heap} {h list element source : Handle} {f : FeatureId}
  {i : UInt64} {v : Value} {c : Call Value} {X : Error → Prop}

/-- Whether a computation fails with errors for a range of one sort only. -/
abbrev RangedOnly {α : Type} (X : Error → Prop) (x : Except Error α) : Prop := FailsOnly (fun e => e.Ranged → X e) x

theorem ranged_of_common {α : Type} {x : Except Error α} (only : FailsOnly Error.Common x) : RangedOnly X x :=
  only.mono fun _ common ranged => absurd ranged common.not_ranged

theorem checkElement_ranged {expected : ClassId} : RangedOnly X (checkElement p heap expected element) := by
  unfold checkElement
  split
  · exact .ok _
  · exact .bind (ranged_of_common object_common) fun o _ => .check nofun (.ok _)

/-- What fails for a range when a feature is looked up is the look into the table of the class. -/
theorem objectFeature_ranged :
    RangedOnly (featureOutside? p heap h f = some ·) (objectFeature p heap h f) := by
  refine .bind (ranged_of_common object_common) fun o found => ?_
  refine .bind (ranged_of_common (p.require_common o.cls)) fun cls known => ?_
  refine .bind (fun e missed _ => ?_) fun _ _ => .ok _
  have seen : classAt? p heap h = some cls :=
    classAt?_eq_some_iff.mpr ⟨o,found,Package.require_eq_ok_iff.mp known⟩
  exact featureOutside?_eq_some_iff.mpr ⟨cls,seen,missed⟩

theorem isSet_ranged :
    RangedOnly (featureOutside? p heap h f = some ·) (isSet p h f heap) := by
  refine .bind objectFeature_ranged fun (o,feature) _ => ?_
  dsimp only
  split
  · exact .ok _
  · split
    · exact .bind (ranged_of_common list_common) fun _ _ => .ok _
    · exact .ok _

theorem assignList_ranged {backing : Handle} : RangedOnly X (assignList p backing source heap) := by
  unfold assignList
  split
  · exact .ok _
  · exact .bind (ranged_of_common list_common) fun _ _ => .bind (ranged_of_common list_common) fun _ _ =>
      .bind (.forM fun _ _ => checkElement_ranged) fun _ _ => .ok _

/-- Writing fails for a range only where the object has no such feature. -/
theorem set_ranged :
    RangedOnly (featureOutside? p heap h f = some ·) (set p h f v heap) := by
  refine .bind objectFeature_ranged fun (o,feature) _ => ?_
  dsimp only
  split
  · split
    · exact .ok _
    · split
      · exact .bind (ranged_of_common (p.requireNamed_common _)) fun _ _ => .bind checkElement_ranged fun _ _ => .ok _
      · exact .ok _
    · split
      · exact .bind assignList_ranged fun _ _ => .ok _
      · exact .error nofun
  · exact .error nofun

/-- A failure for a range leaves the object as it is; the one that does not is for a list that is gone. -/
theorem unset_ranged {e : Error} (failed : (unset p h f heap).1 = .error e) (ranged : e.Ranged) :
    featureOutside? p heap h f = some e ∧ (unset p h f heap).2 = heap := by
  have only : RangedOnly (featureOutside? p heap h f = some ·) (objectFeature p heap h f) := objectFeature_ranged
  unfold unset at failed ⊢
  split at failed
  · rename_i e missed
    cases failed
    exact ⟨only e missed ranged,rfl⟩
  · dsimp only at failed
    split at failed
    · split at failed
      · cases failed
      · rename_i e gone
        cases failed
        exact absurd ranged (list_common e gone).not_ranged
    · cases failed

theorem indexOutside?_of_list {l : ListData} (found : heap.list list = .ok l) (i : UInt64) :
    indexOutside? heap list i = some (.indexOutOfRange i (UInt64.ofNat l.items.length)) := by
  rw [indexOutside?,found]
  rfl

theorem listAt_ranged :
    RangedOnly (indexOutside? heap list i = some ·) (listAt list i heap) := by
  refine .bind (ranged_of_common list_common) fun l found => ?_
  dsimp only
  split
  · exact .ok _
  · exact .error fun _ => indexOutside?_of_list found i

theorem pushBack_ranged : RangedOnly X (pushBack p list element heap) :=
  .bind (ranged_of_common list_common) fun _ _ => .bind checkElement_ranged fun _ _ => .ok _

/-- Inserting fails for a range only where the index is beyond the list. -/
theorem insertAt_ranged :
    RangedOnly (indexOutside? heap list i = some ·) (insertAt p list i element heap) := by
  refine .bind (ranged_of_common list_common) fun l found => ?_
  exact .refuse (fun _ => indexOutside?_of_list found i) (.bind checkElement_ranged fun _ _ => .ok _)

theorem insertAll_ranged : RangedOnly X (insertAll p list source heap) :=
  .bind (ranged_of_common list_common) fun _ _ => .bind (ranged_of_common list_common) fun _ _ => .check nofun (.ok _)

/-- A call that fails for a range fails with the error for what it takes, and changes nothing. -/
theorem ranged_of_respond {e : Error} (failed : (heap.respond p settings c).1 = .error e) (ranged : e.Ranged) :
    outside? p heap c = some e ∧ (heap.respond p settings c).2 = heap := by
  have never {q : Prop} (only : RangedOnly (fun _ => False) (heap.respond p settings c).1) : q :=
    (only e failed ranged).elim
  have plain {q : Prop} (bare : c.Bare) : q := never (ranged_of_common (respond_common p settings heap bare))
  cases c with
  | get h f resolve =>
    have only : RangedOnly (featureOutside? p heap h f = some ·) (Heap.get p h f heap) :=
      .bind objectFeature_ranged fun _ _ => .ok _
    exact ⟨only e failed ranged,rfl⟩
  | set h f v =>
    obtain ⟨stopped,same⟩ := commit_eq_error failed
    exact ⟨set_ranged e stopped ranged,same⟩
  | isSet h f => exact ⟨isSet_ranged e failed ranged,rfl⟩
  | unset h f => exact unset_ranged failed ranged
  | listAt list i => exact ⟨listAt_ranged e failed ranged,rfl⟩
  | insertAt list i element =>
    obtain ⟨stopped,same⟩ := commit_eq_error failed
    exact ⟨insertAt_ranged e stopped ranged,same⟩
  | pushBack list element => exact never (commit_only pushBack_ranged)
  | insertAll list source => exact never (commit_only insertAll_ranged)
  | create cls => exact plain (.create cls)
  | destroy h => exact plain (.destroy h)
  | upcast h => exact plain (.upcast h)
  | initialise h => exact plain (.initialise h)
  | copy h => exact plain (.copy h)
  | classOf h => exact plain (.classOf h)
  | createList cls => exact plain (.createList cls)
  | listSize list => exact plain (.listSize list)
  | clear list => exact plain (.clear list)

end Heap

namespace Foreign

open Heap

variable {p : Package} {settings : HeapSettings}

namespace Adapter

variable {heap : Heap} {c : Call Value}

/-- Whether two errors are the same if one of them is one for a range. -/
def AlikeInRange (e e' : Error) : Prop := e.Ranged ∨ e'.Ranged → e = e'

/-- What the adapter makes of a failure for a range is that failure. -/
theorem diagnoses_range (p : Package) (settings : HeapSettings) (heap : Heap) (c : Call Value) :
    Diagnoses p settings heap c AlikeInRange := by
  intro e failed
  by_cases ranged : e.Ranged
  · obtain ⟨outside,same⟩ := ranged_of_respond failed ranged
    rw [same,diagnose,ranged.status,if_neg (by decide),if_neg (by decide),if_pos rfl]
    refine (leads_rangeFailure c).returns ?_
    rintro _ rfl _
    rw [outside,Option.getD_some]
  · have own : e.OfHeap fun _ => True := respond_fails c (fun _ _ _ => trivial) (.inl fun _ => trivial) e failed
    intro library keeps
    obtain ⟨restates,kept⟩ := leads_diagnose failed library keeps
    refine ⟨?_,kept⟩
    rintro (isRanged | isRanged)
    · exact absurd isRanged ranged
    · exact absurd (own.ranged_of_status (restates.1.trans isRanged.status)) ranged

end Adapter

/-- A call through a library that follows no script fails for a range just when the call on the heap does, and then
both errors are the same: the same index and length, or the same class, feature and number of features. -/
theorem range_failures_through_library {library : Library} (unscripted : library.faults = []) (c : Call Value) :
    let direct := (library.native.heap.respond p settings c).1
    let through := ((Adapter.call p c).run (Library.answer p settings) library).1
    (∀ index length, through = .error (.indexOutOfRange index length) ↔
        direct = .error (.indexOutOfRange index length)) ∧
      ∀ cls feature count, through = .error (.featureOutOfRange cls feature count) ↔
        direct = .error (.featureOutOfRange cls feature count) := by
  intro direct through
  have related : Matches Adapter.AlikeInRange Eq direct through :=
    (Adapter.leads_call_of (Adapter.diagnoses_range p settings _ c) library ⟨rfl,unscripted⟩).1
  have same {e : Error} (ranged : e.Ranged) : through = .error e ↔ direct = .error e := by
    generalize direct = result at related ⊢
    generalize through = answer at related ⊢
    cases related with
    | ok _ => exact ⟨nofun,nofun⟩
    | error alike =>
      constructor
      · rintro ⟨⟩
        rw [alike (.inr ranged)]
      · rintro ⟨⟩
        rw [alike (.inl ranged)]
  exact ⟨fun index length => same (.index index length),fun cls feature count => same (.feature cls feature count)⟩

/-- A place after the end of an empty list is told with its length although the element was never issued, and a feature
that nodes do not have is told although no feature of theirs takes a number. -/
theorem range_failures_of_node :
    ((Adapter.call forest (.insertAt (.ofSlot 1 1) 1 (.ofSlot 7 1))).run (Library.answer forest {}) withNode).1 =
        .error (.indexOutOfRange 1 0) ∧
      ((Adapter.call forest (.set (.ofSlot 0 1) ⟨2⟩ (.int 7))).run (Library.answer forest {}) withNode).1 =
        .error (.featureOutOfRange "Node" 2 2) := by
  obtain ⟨places,-⟩ :=
    @range_failures_through_library forest {} withNode rfl (.insertAt (.ofSlot 1 1) 1 (.ofSlot 7 1))
  obtain ⟨-,features⟩ := @range_failures_through_library forest {} withNode rfl (.set (.ofSlot 0 1) ⟨2⟩ (.int 7))
  constructor
  · exact (places 1 0).mpr rfl
  · exact (features "Node" 2 2).mpr rfl

end Foreign

end HandleBridge
