import HandleBridge.Foreign.Request
import HandleBridge.Proofs.Copying

/-!
Errors of the heap: with which errors a call can fail, and which handle an error names that speaks of a destroyed
object. Both come from one pass over the operations, for any property of the handles that are looked up and found
to be dead.
-/

namespace HandleBridge

/-- Whether a computation fails with errors of one sort only. -/
def FailsOnly {α : Type} (P : Error → Prop) (x : Except Error α) : Prop := ∀ e, x = .error e → P e

namespace FailsOnly

variable {α β : Type} {P : Error → Prop} {x : Except Error α} {e : Error}

theorem ok (a : α) : FailsOnly P (.ok a) := fun _ failed => nomatch failed

theorem error (holds : P e) : FailsOnly P (.error e : Except Error α) := by
  rintro _ ⟨⟩
  exact holds

theorem bind {f : α → Except Error β} (first : FailsOnly P x) (rest : ∀ a, x = .ok a → FailsOnly P (f a)) :
    FailsOnly P (x >>= f) := by
  cases x with
  | ok a => exact rest a rfl
  | error e => exact error (first e rfl)

theorem map {f : α → β} (only : FailsOnly P x) : FailsOnly P (x.map f) := by
  cases x with
  | ok a => exact ok (f a)
  | error e => exact error (only e rfl)

/-- A check that throws before the rest of the work. -/
theorem check {p : Prop} [Decidable p] {rest : PUnit → Except Error α} (holds : P e)
    (only : FailsOnly P (rest ⟨⟩)) : FailsOnly P (if p then rest ⟨⟩ else MonadExcept.throw e >>= rest) := by
  split
  · exact only
  · exact error holds

/-- A refusal that throws before the rest of the work. -/
theorem refuse {p : Prop} [Decidable p] {rest : PUnit → Except Error α} (holds : P e)
    (only : FailsOnly P (rest ⟨⟩)) : FailsOnly P (if p then MonadExcept.throw e >>= rest else rest ⟨⟩) := by
  split
  · exact error holds
  · exact only

theorem forM {f : β → Except Error Unit} {bs : List β} (each : ∀ b ∈ bs, FailsOnly P (f b)) :
    FailsOnly P (bs.forM f) := by
  induction bs with
  | nil => exact ok ()
  | cons b bs ih =>
    obtain ⟨first,others⟩ := List.forall_mem_cons.mp each
    exact bind first fun _ _ => ih others

end FailsOnly

/-- Errors of the heap. One that speaks of a destroyed object names a handle of a given sort. -/
inductive Error.OfHeap (dead : Handle → Prop) : Error → Prop where
  | nullHandle : OfHeap dead .nullHandle
  | staleHandle (h : Handle) (gone : dead h) : OfHeap dead (.staleHandle h)
  | indexOutOfRange (index length : UInt64) : OfHeap dead (.indexOutOfRange index length)
  | featureOutOfRange (cls : String) (feature count : UInt32) : OfHeap dead (.featureOutOfRange cls feature count)
  | unknownClass (name : String) : OfHeap dead (.unknownClass name)
  | abstractClass (name : String) : OfHeap dead (.abstractClass name)
  | typeMismatch (expected got : String) : OfHeap dead (.typeMismatch expected got)
  | classMismatch (expected got : String) : OfHeap dead (.classMismatch expected got)
  | notAList (h : Handle) : OfHeap dead (.notAList h)
  | heapExhausted (limit : UInt64) : OfHeap dead (.heapExhausted limit)
  | owned (text : String) : OfHeap dead (.native (-2) text)

theorem Error.OfHeap.status_ne_ok {dead : Handle → Prop} {e : Error} (own : e.OfHeap dead) :
    e.status ≠ Foreign.Status.ok := by
  cases own <;> simp only [Error.status] <;> decide

namespace Package

variable (p : Package) {dead : Handle → Prop}

theorem require_fails (c : ClassId) : FailsOnly (Error.OfHeap dead) (p.require c) := by
  unfold require
  split
  · exact .ok _
  · exact .error (.unknownClass _)

theorem requireNamed_fails (name : String) : FailsOnly (Error.OfHeap dead) (p.requireNamed name) := by
  unfold requireNamed
  split
  · exact .ok _
  · exact .error (.unknownClass _)

end Package

theorem ClassType.feature_fails {dead : Handle → Prop} (cls : ClassType) (f : FeatureId) :
    FailsOnly (Error.OfHeap dead) (cls.feature f) := by
  unfold feature
  split
  · exact .ok _
  · exact .error (.featureOutOfRange _ _ _)

namespace Heap

/-- Whether a handle is not null and refers to nothing. -/
def Dead (heap : Heap) (h : Handle) : Prop := h.isNull = false ∧ heap.get? h = none

variable {p : Package} {settings : HeapSettings} {heap next : Heap} {h element source : Handle} {f : FeatureId}
  {v : Value} {dead : Handle → Prop}

/-- Looking up an entry names no other handle than the one that is looked up. -/
theorem find_fails (named : heap.Dead h → dead h) : FailsOnly (Error.OfHeap dead) (heap.find h) := by
  unfold find
  split
  · exact .error .nullHandle
  · rename_i notNull
    split
    · exact .ok _
    · exact .error (.staleHandle h (named ⟨Bool.not_eq_true _ ▸ notNull,‹_›⟩))

theorem object_fails (named : heap.Dead h → dead h) : FailsOnly (Error.OfHeap dead) (heap.object h) := by
  refine .bind (find_fails named) fun entry _ => ?_
  split
  · exact .ok _
  · exact .error (.typeMismatch _ _)

theorem list_fails (named : heap.Dead h → dead h) : FailsOnly (Error.OfHeap dead) (heap.list h) := by
  refine .bind (find_fails named) fun entry _ => ?_
  split
  · exact .ok _
  · exact .error (.notAList _)

theorem alloc_fails (entry : Entry) : FailsOnly (Error.OfHeap dead) (heap.alloc settings entry) := by
  unfold alloc
  split
  · split
    · exact .error (.heapExhausted _)
    · exact .ok _
  · exact .ok _

/-- Checking an element names no other handle than the element. -/
theorem checkElement_fails {expected : ClassId} (named : heap.Dead element → dead element) :
    FailsOnly (Error.OfHeap dead) (checkElement p heap expected element) := by
  unfold checkElement
  split
  · exact .ok _
  · exact .bind (object_fails named) fun o _ => .check (.classMismatch _ _) (.ok _)

theorem objectFeature_fails (named : heap.Dead h → dead h) :
    FailsOnly (Error.OfHeap dead) (objectFeature p heap h f) :=
  .bind (object_fails named) fun o _ => .bind (p.require_fails o.cls) fun cls _ =>
    .bind (cls.feature_fails f) fun _ _ => .ok _

/-! ### Operations -/

/-- Handles that a call names beside the one it is about: further arguments, and the items of a list that is given
as a value. -/
inductive Names (heap : Heap) : Call Value → Handle → Prop where
  | pushBack (h element : Handle) : Names heap (.pushBack h element) element
  | insertAt (h : Handle) (i : UInt64) (element : Handle) : Names heap (.insertAt h i element) element
  | insertAll (h source : Handle) : Names heap (.insertAll h source) source
  | object (h : Handle) (f : FeatureId) (element : Handle) : Names heap (.set h f (.object element)) element
  | list (h : Handle) (f : FeatureId) (source : Handle) : Names heap (.set h f (.list source)) source
  | item (h : Handle) (f : FeatureId) {source : Handle} {l : ListData} {element : Handle}
    (found : heap.get? source = some (.list l)) (member : element ∈ l.items) :
    Names heap (.set h f (.list source)) element

/-- Handles that a call looks up: the one that it is about, those that it names, and lists that the object holds. -/
inductive Consults (heap : Heap) (c : Call Value) : Handle → Prop where
  | target : Consults heap c c.target
  | names {k : Handle} (named : Names heap c k) : Consults heap c k
  | held {o : ObjectData} {k : Handle} (found : heap.get? c.target = some (.object o)) (holds : o.Holds k) :
    Consults heap c k

variable {c : Call Value}

theorem isSet_fails (dies : ∀ k, Consults heap (.isSet h f) k → heap.Dead k → dead k) :
    FailsOnly (Error.OfHeap dead) (isSet p h f heap) := by
  refine .bind (objectFeature_fails (dies h .target)) fun (o,feature) described => ?_
  dsimp only
  split
  · exact .ok _
  · split
    · rename_i backing backs
      have found := (objectFeature_eq_ok_iff.mp described).1
      exact .bind (list_fails (dies backing (.held found (ObjectData.holds_of_field backs)))) fun _ _ => .ok _
    · exact .ok _

theorem dead_put {entry : Entry} {k : Handle} : (heap.put h entry).Dead k ↔ heap.Dead k := by
  rw [Dead,Dead,← Arena.isLive_false_iff,← Arena.isLive_false_iff,put,Arena.isLive_set]

/-- Reverting a feature names no handle but those that it looks up. -/
theorem unset_fails (dies : ∀ k, Consults heap (.unset h f) k → heap.Dead k → dead k) :
    FailsOnly (Error.OfHeap dead) (unset p h f heap).1 := by
  have only := objectFeature_fails (p := p) (f := f) (dies h .target)
  unfold unset
  split
  · rename_i e failed
    exact .error (only e failed)
  · rename_i o feature described
    split
    · rename_i held holds
      have consulted : Consults heap (.unset h f) held :=
        .held (objectFeature_eq_ok_iff.mp described).1 (ObjectData.holds_of_field holds)
      have only : FailsOnly (Error.OfHeap dead)
          ((heap.putObject h (o.setField f { o.field f with isSet := false })).list held) :=
        list_fails fun gone => dies held consulted (dead_put.mp gone)
      dsimp only
      split
      · exact .ok _
      · rename_i e failed
        exact .error (only e failed)
    · exact .ok _

/-- Assigning a list names only the list that is given, its items, or the list behind the feature. -/
theorem assignList_fails {backing : Handle} (atSource : heap.Dead source → dead source)
    (atItems : ∀ l, heap.get? source = some (.list l) → ∀ k ∈ l.items, heap.Dead k → dead k)
    (atBacking : heap.Dead backing → dead backing) :
    FailsOnly (Error.OfHeap dead) (assignList p backing source heap) := by
  unfold assignList
  split
  · exact .ok _
  · refine .bind (list_fails atSource) fun given found => .bind (list_fails atBacking) fun target _ =>
      .bind (.forM fun k member => ?_) fun _ _ => .ok _
    exact checkElement_fails (atItems given (list_eq_ok_iff.mp found) k member)

/-- Writing a many-valued feature looks up the list that is given, its items and the list behind the feature. -/
theorem set_fails (dies : ∀ k, Consults heap (.set h f v) k → heap.Dead k → dead k) :
    FailsOnly (Error.OfHeap dead) (set p h f v heap) := by
  refine .bind (objectFeature_fails (dies h .target)) fun (o,feature) described => ?_
  have found := (objectFeature_eq_ok_iff.mp described).1
  dsimp only
  split
  · rename_i fits
    split
    · exact .ok _
    · split
      · rename_i element
        exact .bind (p.requireNamed_fails _) fun _ _ =>
          .bind (checkElement_fails (dies element (.names (.object h f element)))) fun _ _ => .ok _
      · exact .ok _
    · rename_i isMany
      split
      · rename_i backing backs
        rw [isMany] at fits
        cases v with
        | list source =>
          have atItems : ∀ l, heap.get? source = some (.list l) → ∀ k ∈ l.items, heap.Dead k → dead k :=
            fun l there k member => dies k (.names (.item h f there member))
          have atBacking := dies backing (.held found (ObjectData.holds_of_field backs))
          exact .bind (assignList_fails (dies source (.names (.list h f source))) atItems atBacking) fun _ _ => .ok _
        | _ => cases fits
      · exact .error (.notAList _)
  · exact .error (.typeMismatch _ _)

theorem pushBack_fails (dies : ∀ k, Consults heap (.pushBack h element) k → heap.Dead k → dead k) :
    FailsOnly (Error.OfHeap dead) (pushBack p h element heap) :=
  .bind (list_fails (dies h .target)) fun _ _ =>
    .bind (checkElement_fails (dies element (.names (.pushBack h element)))) fun _ _ => .ok _

theorem insertAt_fails {i : UInt64} (dies : ∀ k, Consults heap (.insertAt h i element) k → heap.Dead k → dead k) :
    FailsOnly (Error.OfHeap dead) (insertAt p h i element heap) :=
  .bind (list_fails (dies h .target)) fun _ _ => .refuse (.indexOutOfRange _ _)
    (.bind (checkElement_fails (dies element (.names (.insertAt h i element)))) fun _ _ => .ok _)

theorem insertAll_fails (dies : ∀ k, Consults heap (.insertAll h source) k → heap.Dead k → dead k) :
    FailsOnly (Error.OfHeap dead) (insertAll p h source heap) :=
  .bind (list_fails (dies source (.names (.insertAll h source)))) fun _ _ =>
    .bind (list_fails (dies h .target)) fun _ _ => .check (.classMismatch _ _) (.ok _)

theorem listAt_fails {i : UInt64} (named : heap.Dead h → dead h) :
    FailsOnly (Error.OfHeap dead) (listAt h i heap) := by
  refine .bind (list_fails named) fun l _ => ?_
  dsimp only
  split
  · exact .ok _
  · exact .error (.indexOutOfRange _ _)

theorem discard_fails (named : heap.Dead h → dead h) : FailsOnly (Error.OfHeap dead) (heap.discard h) := by
  unfold discard
  split
  · rename_i untaken
    split
    · exact .error .nullHandle
    · rename_i notNull
      exact .error (.staleHandle h (named ⟨Bool.not_eq_true _ ▸ notNull,Arena.erase?_eq_none_iff.mp untaken⟩))
  · exact .ok _
  · exact .ok _

theorem destroy_fails (named : heap.Dead h → dead h) : FailsOnly (Error.OfHeap dead) (destroy h heap) := by
  refine .bind (find_fails named) fun entry _ => ?_
  dsimp only
  split
  · exact .error (.owned _)
  · exact discard_fails named

theorem commit_eq_error {operation : Heap → Except Error Heap} {e : Error}
    (failed : (commit operation heap).1 = .error e) :
    operation heap = .error e ∧ (commit operation heap).2 = heap := by
  unfold commit at failed ⊢
  split at failed
  · cases failed
  · rename_i e stopped
    cases failed
    exact ⟨stopped,rfl⟩

theorem commit_fails {operation : Heap → Except Error Heap} (only : FailsOnly (Error.OfHeap dead) (operation heap)) :
    FailsOnly (Error.OfHeap dead) (commit operation heap).1 :=
  fun e failed => only e (commit_eq_error failed).1

/-! ### Making and copying objects -/

theorem dead_of_there {entry : Entry} (safe : dead h ∨ heap.get? h = some entry) : heap.Dead h → dead h := by
  rintro ⟨-,vacant⟩
  refine safe.resolve_right fun found => ?_
  cases vacant.symm.trans found

/-- Making the lists of an object that is there fails for want of room, or of a class. -/
theorem backFeatures_fails (features : List Feature) {o : ObjectData}
    (safe : dead h ∨ heap.get? h = some (.object o) ∧ heap.Sound ∧
      (backFeatures p settings h features heap).2.slots.size < 2 ^ 32) :
    FailsOnly (Error.OfHeap dead) (backFeatures p settings h features heap).1 := by
  induction features generalizing heap o with
  | nil => exact .ok _
  | cons feature rest ih =>
    by_cases many : ∃ target, feature.kind = .reference target true
    · obtain ⟨target,isMany⟩ := many
      have there := dead_of_there (safe.imp_right And.left)
      have unnamed : FailsOnly (Error.OfHeap dead) (p.requireNamed target) := p.requireNamed_fails target
      simp only [backFeatures,isMany] at safe ⊢
      cases named : p.requireNamed target with
      | error e => exact .error (unnamed e named)
      | ok t =>
        have full : FailsOnly (Error.OfHeap dead) (heap.alloc settings (.list ⟨t.id,[],some h⟩)) := alloc_fails _
        simp only [named] at safe ⊢
        cases made : heap.alloc settings (.list ⟨t.id,[],some h⟩) with
        | error e =>
          have lost := discard_fails there
          simp only
          cases discarded : heap.discard h with
          | ok next => exact .error (full e made)
          | error e' => exact .error (lost e' discarded)
        | ok result =>
          obtain ⟨list,next⟩ := result
          simp only [made] at safe ⊢
          -- A new list takes a slot that was vacant, so the object stays where it was.
          have keeps (found : heap.get? h = some (.object o)) (sound : heap.Sound) (few : next.slots.size < 2 ^ 32) :
              next.get? h = some (.object o) := by
            obtain ⟨vacant,view⟩ := get?_alloc sound made few
            exact kept_of_update view found (by simp [vacant])
          cases seen : next.object h with
          | error e =>
            simp only [seen] at safe ⊢
            have still := safe.imp_right fun held => keeps held.1 held.2.1 held.2.2
            exact .error (object_fails (dead_of_there still) e seen)
          | ok other =>
            simp only [seen] at safe ⊢
            refine ih (o := other.setValue feature.id (.list list)) (safe.imp_right ?_)
            rintro ⟨-,sound,few⟩
            have fewNext : next.slots.size < 2 ^ 32 :=
              Nat.lt_of_le_of_lt (Nat.le_trans (Nat.le_of_eq size_put.symm) (size_backFeatures rest _)) few
            exact ⟨get?_putObject_self (object_eq_ok_iff.mp seen) _,(sound_alloc sound made fewNext).set,few⟩
    · have single : ∀ target, feature.kind ≠ .reference target true :=
        fun target isMany => many ⟨target,isMany⟩
      rw [(backFeatures_of_single p settings h heap rest single).1] at safe ⊢
      exact ih safe

/-- Whether a call comes to a heap in order, which has handles for all that the call may make. -/
structure Regular (p : Package) (settings : HeapSettings) (heap : Heap) (c : Call Value) : Prop where
  built : p.Built
  addressable : p.Addressable
  wellFormed : WellFormed p heap
  sound : heap.Sound
  few : (heap.respond p settings c).2.slots.size < 2 ^ 32

/-- In a heap in order, making an object fails without naming a handle. -/
theorem create_fails (cls : ClassId)
    (safe : (∀ k, dead k) ∨ heap.Sound ∧ (create p settings cls heap).2.slots.size < 2 ^ 32) :
    FailsOnly (Error.OfHeap dead) (create p settings cls heap).1 := by
  have unknown : FailsOnly (Error.OfHeap dead) (p.require cls) := p.require_fails cls
  unfold create at safe ⊢
  cases known : p.require cls with
  | error e => exact .error (unknown e known)
  | ok t =>
    simp only [known] at safe ⊢
    cases isAbstract : t.isAbstract with
    | true => exact .error (.abstractClass _)
    | false =>
      have full : FailsOnly (Error.OfHeap dead) (heap.alloc settings (.object (.fresh t))) := alloc_fails _
      simp only [isAbstract,Bool.false_eq_true,if_false] at safe ⊢
      cases made : heap.alloc settings (.object (.fresh t)) with
      | error e => exact .error (full e made)
      | ok result =>
        obtain ⟨h,next⟩ := result
        simp only [made] at safe ⊢
        have backed : FailsOnly (Error.OfHeap dead) (backFeatures p settings h t.features next).1 := by
          refine backFeatures_fails t.features (o := .fresh t) (safe.imp (fun all => all h) fun ⟨sound,few⟩ => ?_)
          have last : (backFeatures p settings h t.features next).2.slots.size < 2 ^ 32 := by
            revert few
            generalize backFeatures p settings h t.features next = result
            obtain ⟨result,last⟩ := result
            cases result <;> exact id
          have fewNext := Nat.lt_of_le_of_lt (size_backFeatures t.features next) last
          exact ⟨by simp [(get?_alloc sound made fewNext).2 h],sound_alloc sound made fewNext,last⟩
        revert backed
        generalize backFeatures p settings h t.features next = result
        obtain ⟨result,last⟩ := result
        intro backed
        cases result with
        | ok => exact .ok _
        | error e => exact .error (backed e rfl)

theorem copyValue_fails (all : ∀ k, dead k) (place : Value × Nat) :
    FailsOnly (Error.OfHeap dead) (copyValue h place heap) := by
  obtain ⟨v,i⟩ := place
  cases v with
  | list source =>
    refine .bind (list_fails fun _ => all _) fun given _ => .bind (object_fails fun _ => all _) fun o _ => ?_
    dsimp only
    split
    · exact .bind (list_fails fun _ => all _) fun _ _ => .ok _
    · exact .ok _
  | _ => exact .bind (object_fails fun _ => all _) fun _ _ => .ok _

theorem copyValues_fails (all : ∀ k, dead k) (places : List (Value × Nat)) :
    FailsOnly (Error.OfHeap dead) (copyValues h places heap).1 := by
  induction places generalizing heap with
  | nil => exact .ok _
  | cons place rest ih =>
    have first : FailsOnly (Error.OfHeap dead) (copyValue h place heap) := copyValue_fails all place
    unfold copyValues
    split
    · exact ih
    · rename_i e failed
      exact .error (first e failed)

theorem copyInto_fails (all : ∀ k, dead k) (o : ObjectData) :
    FailsOnly (Error.OfHeap dead) (copyInto h o heap).1 := by
  have filled : FailsOnly (Error.OfHeap dead) (copyValues h (o.fields.map Field.value).zipIdx heap).1 :=
    copyValues_fails all _
  unfold copyInto
  split
  · rename_i e next failed
    rw [failed] at filled
    exact filled
  · rename_i next _
    have still : FailsOnly (Error.OfHeap dead) (next.object h) := object_fails fun _ => all h
    split
    · rename_i e failed
      exact .error (still e failed)
    · exact .ok _

/-- A copy fails when the source is not there or when its creation does; in a heap in order, it can be filled. -/
theorem copy_fails (there : heap.Dead h → dead h) (safe : (∀ k, dead k) ∨ Regular p settings heap (.copy h)) :
    FailsOnly (Error.OfHeap dead) (copy p settings h heap).1 := by
  have done := copy_cases p settings h heap
  have small :
      (∀ k, dead k) ∨ Regular p settings heap (.copy h) ∧ (copy p settings h heap).2.slots.size < 2 ^ 32 :=
    safe.imp_right fun regular => ⟨regular,regular.few⟩
  generalize copy p settings h heap = result at done small ⊢
  generalize heap.lives p settings (.copy h) = lives at done
  cases done with
  | refused e absent => exact .error (object_fails there e absent)
  | failed o e next found created =>
    have safe : (∀ k, dead k) ∨ heap.Sound ∧ (create p settings o.cls heap).2.slots.size < 2 ^ 32 := by
      rw [created]
      exact small.imp_right fun ⟨regular,few⟩ => ⟨regular.sound,few⟩
    have creating := create_fails o.cls safe
    rw [created] at creating
    exact creating
  | made o made next found created =>
    refine .map ?_
    rcases small with all | ⟨regular,few⟩
    · exact copyInto_fails all o
    · have fewNext := Nat.lt_of_le_of_lt (copyInto_evolves settings made o next).size_le few
      obtain ⟨-,filling⟩ :=
        filling_of_create regular.built regular.addressable regular.wellFormed regular.sound found created fewNext
      obtain ⟨last,filled,-⟩ := copyInto_spec filling regular.built regular.addressable
      rw [filled]
      exact .ok ()

theorem createList_fails (cls : ClassId) : FailsOnly (Error.OfHeap dead) (createList p settings cls heap) :=
  .bind (p.require_fails cls) fun _ _ => alloc_fails _

theorem commitWith_fails {α : Type} {operation : Heap → Except Error (α × Heap)}
    (only : FailsOnly (Error.OfHeap dead) (operation heap)) :
    FailsOnly (Error.OfHeap dead) (commitWith operation heap).1 := by
  unfold commitWith
  split
  · exact .ok _
  · rename_i e failed
    exact .error (only e failed)

/-- A call fails with an error of the heap, and a handle that the error calls stale is one that the call looked up.
Making objects looks up what was just made, which is there in a heap in order. -/
theorem respond_fails (c : Call Value) (dies : ∀ k, Consults heap c k → heap.Dead k → dead k)
    (safe : (∀ k, dead k) ∨ Regular p settings heap c) :
    FailsOnly (Error.OfHeap dead) (heap.respond p settings c).1 := by
  cases c with
  | create cls => exact create_fails cls (safe.imp_right fun regular => ⟨regular.sound,regular.few⟩)
  | destroy h => exact commit_fails (destroy_fails (dies h .target))
  | upcast h => exact .map (object_fails (dies h .target))
  | initialise h => exact commit_fails (.bind (object_fails (dies h .target)) fun _ _ => .ok _)
  | copy h => exact copy_fails (dies h .target) safe
  | classOf h => exact .map (object_fails (dies h .target))
  | get h f resolve => exact .bind (objectFeature_fails (dies h .target)) fun _ _ => .ok _
  | set h f v => exact commit_fails (set_fails dies)
  | isSet h f => exact isSet_fails dies
  | unset h f => exact unset_fails dies
  | createList cls => exact commitWith_fails (createList_fails cls)
  | listSize h => exact .bind (list_fails (dies h .target)) fun _ _ => .ok _
  | listAt h i => exact listAt_fails (dies h .target)
  | pushBack h e => exact commit_fails (pushBack_fails dies)
  | insertAt h i e => exact commit_fails (insertAt_fails dies)
  | insertAll h source => exact commit_fails (insertAll_fails dies)
  | clear h => exact commit_fails (.bind (list_fails (dies h .target)) fun _ _ => .ok _)

/-- No call fails with the status of success. -/
theorem status_of_respond {c : Call Value} {e : Error} (failed : (heap.respond p settings c).1 = .error e) :
    e.status ≠ Foreign.Status.ok :=
  have only : FailsOnly (Error.OfHeap fun _ => True) (heap.respond p settings c).1 :=
    respond_fails c (fun _ _ _ => trivial) (.inl fun _ => trivial)
  (only e failed).status_ne_ok

/-- In a heap in order, an error that speaks of a destroyed object names the handle that the call is about or one
that it names beside it, and there is nothing behind that handle. -/
theorem stale_of_respond {c : Call Value} {k : Handle} (regular : Regular p settings heap c)
    (failed : (heap.respond p settings c).1 = .error (.staleHandle k)) :
    heap.Dead k ∧ (k = c.target ∨ Names heap c k) := by
  have consulted (k : Handle) (consults : Consults heap c k) (gone : heap.Dead k) :
      heap.Dead k ∧ (k = c.target ∨ Names heap c k) := by
    refine ⟨gone,?_⟩
    cases consults with
    | target => exact .inl rfl
    | names named => exact .inr named
    | held found holds =>
      obtain ⟨cls,object⟩ := regular.wellFormed.objects _ _ found
      obtain ⟨l,there,-⟩ := object.owns holds
      cases gone.2.symm.trans there
  cases respond_fails c consulted (.inr regular) _ failed with
  | staleHandle k found => exact found

/-- Every call after a run comes to a heap in order. -/
theorem regular_after {calls : List (Call Value)} {c : Call Value} (built : p.Built) (addressable : p.Addressable)
    (few : ((Heap.empty.after p settings calls).respond p settings c).2.slots.size < 2 ^ 32) :
    Regular p settings (Heap.empty.after p settings calls) c := by
  have fewBefore := Nat.lt_of_le_of_lt (size_respond built settings _ c) few
  exact ⟨built,addressable,wellFormed_after built addressable .empty sound_empty fewBefore,
    sound_after built calls fewBefore,few⟩

end Heap

end HandleBridge
