import HandleBridge.Proofs.Lives

/-!
Every object in the heap is of a class of the package (`known_after`), however many slots a run uses up. What an
operation writes is an object of a class that it looked up, or an object that was there before, with its class.
-/

namespace HandleBridge

namespace Arena

variable {α : Type} {a : Arena α} {h k : Handle} {x y : α}

theorem get?_set_cases (found : (a.set h x).get? k = some y) : y = x ∨ a.get? k = some y := by
  cases there : a.get? h with
  | none =>
    rw [set_of_get?_none there] at found
    exact .inr found
  | some z =>
    rw [get?_set there] at found
    split at found
    · exact .inl (Option.some.inj found).symm
    · exact .inr found

/-- An insertion brings in nothing but its entry, even into a slot that is not vacant. -/
theorem get?_insert_cases {reuse : Bool} (found : (a.insert reuse x).2.get? k = some y) :
    y = x ∨ a.get? k = some y := by
  obtain ⟨i,names,slot⟩ := get?_eq_some_iff.mp found
  have kept (same : a.slots[i]? = some ⟨k.generation,some y⟩) : a.get? k = some y :=
    get?_eq_some_iff.mpr ⟨i,names,same⟩
  unfold insert at slot
  dsimp only at slot
  split at slot
  · rw [Array.getElem?_setIfInBounds] at slot
    split at slot
    · split at slot
      · simp only [Option.some.injEq,Slot.mk.injEq] at slot
        exact .inl slot.2.symm
      · cases slot
    · exact .inr (kept slot)
  · rw [Array.getElem?_push] at slot
    split at slot
    · simp only [Option.some.injEq,Slot.mk.injEq] at slot
      exact .inl slot.2.symm
    · exact .inr (kept slot)

end Arena

namespace Heap

/-- Whether every object in the heap is of a class of the package. -/
def Known (p : Package) (heap : Heap) : Prop :=
  ∀ h o, heap.get? h = some (.object o) → ∃ cls, p.class? o.cls = some cls

variable {p : Package} {settings : HeapSettings} {heap next : Heap} {h : Handle} {o : ObjectData} {l : ListData}

namespace Known

theorem empty : Known p Heap.empty := by
  intro h o found
  rw [get?_empty] at found
  cases found

theorem putObject (known : Known p heap) (ofClass : ∃ cls, p.class? o.cls = some cls) :
    Known p (heap.putObject h o) := by
  intro k other found
  rcases Arena.get?_set_cases found with new | old
  · cases new
    exact ofClass
  · exact known k other old

/-- An object that changes keeps its class. -/
theorem putFound {changed : ObjectData} (known : Known p heap) (found : heap.get? h = some (.object o))
    (same : changed.cls = o.cls) : Known p (heap.putObject h changed) :=
  known.putObject (same ▸ known h o found)

theorem setItems {items : List Handle} (known : Known p heap) : Known p (heap.setItems h l items) := by
  intro k other found
  rcases Arena.get?_set_cases found with new | old
  · cases new
  · exact known k other old

theorem alloc {entry : Entry} (known : Known p heap) (made : heap.alloc settings entry = .ok (h,next))
    (ofClass : ∀ o, entry = .object o → ∃ cls, p.class? o.cls = some cls) : Known p next := by
  intro k other found
  have inserted : next = (heap.insert settings.reuseSlots entry).2 := by rw [(alloc_eq_ok made).1]
  rw [inserted] at found
  rcases Arena.get?_insert_cases found with new | old
  · exact ofClass other new.symm
  · exact known k other old

theorem allocList (known : Known p heap) (made : heap.alloc settings (.list l) = .ok (h,next)) : Known p next :=
  known.alloc made nofun

theorem take {entry : Entry} (known : Known p heap) (freed : heap.take? h = some (entry,next)) : Known p next := by
  intro k other found
  rw [get?_take? freed] at found
  split at found
  · cases found
  · exact known k other found

theorem eraseBacking (known : Known p heap) (owner : Handle) (value : Value) :
    Known p (heap.eraseBacking owner value) := by
  by_cases owned : ∃ b, value = .list b ∧ heap.Owns owner b
  · obtain ⟨b,rfl,owns⟩ := owned
    obtain ⟨l,-,freed⟩ := eraseBacking_of_owns owns
    exact known.take freed
  · rw [eraseBacking_of_not_owns fun b isList owns => owned ⟨b,isList,owns⟩]
    exact known

theorem eraseBackings (known : Known p heap) (owner : Handle) (values : List Value) :
    Known p (values.foldl (Heap.eraseBacking owner) heap) := by
  induction values generalizing heap with
  | nil => exact known
  | cons value rest ih => exact ih (known.eraseBacking owner value)

theorem discard (known : Known p heap) (done : heap.discard h = .ok next) : Known p next := by
  cases discard_eq_ok done with
  | list l freed => exact known.take freed
  | object o rest freed erased => exact erased ▸ (known.take freed).eraseBackings h _

theorem backFeatures (known : Known p heap) (features : List Feature) :
    Known p (backFeatures p settings h features heap).2 := by
  induction features generalizing heap with
  | nil => exact known
  | cons feature rest ih =>
    have step := backFeatures_cons p settings h heap feature rest
    generalize Heap.backFeatures p settings h (feature :: rest) heap = result at step ⊢
    generalize backFeaturesLives p settings h (feature :: rest) heap = lives at step
    cases step with
    | plain single => exact ih known
    | unknown target e isMany missing => exact known
    | absent e dead => exact known
    | full e next discarded => exact known.discard discarded
    | lost target t list next e made gone => exact known.allocList made
    | backed target t list next o isMany named made kept =>
      have later := known.allocList made
      exact ih (later.putFound kept rfl)

/-- Making an object brings in an object of a class of the package, even where its lists cannot be made. -/
theorem create (settings : HeapSettings) (known : Known p heap) (built : p.Built) (c : ClassId) :
    Known p (create p settings c heap).2 := by
  have done := create_cases p settings c heap
  generalize Heap.create p settings c heap = result at done ⊢
  generalize createLives p settings c heap = lives at done
  cases done with
  | refused e => exact known
  | made cls h next ofClass concrete made =>
    refine (known.alloc made fun o same => ?_).backFeatures cls.features
    cases same
    refine ⟨cls,?_⟩
    show p.class? cls.id = some cls
    rw [built.id_eq ofClass]
    exact ofClass

theorem copyValue {v : Value} {place : Nat} (known : Known p heap) (done : copyValue h (v,place) heap = .ok next) :
    Known p next := by
  cases copyValue_eq_ok done with
  | items source target o given own atSource found holds atTarget written => exact written ▸ known.setItems
  | skipped source o given atSource found plain written => exact written ▸ known
  | value v o plain found written => exact written ▸ known.putFound found rfl

theorem copyValues (known : Known p heap) (places : List (Value × Nat)) :
    Known p (copyValues h places heap).2 := by
  induction places generalizing heap with
  | nil => exact known
  | cons place rest ih =>
    unfold Heap.copyValues
    cases done : heap.copyValue h place with
    | error e => exact known
    | ok next => exact ih (known.copyValue done)

theorem copyInto (known : Known p heap) (source : ObjectData) : Known p (copyInto h source heap).2 := by
  have filled := known.copyValues (h := h) (source.fields.map Field.value).zipIdx
  unfold Heap.copyInto
  generalize Heap.copyValues h (source.fields.map Field.value).zipIdx heap = result at filled ⊢
  obtain ⟨result,next⟩ := result
  cases result with
  | error e => exact filled
  | ok =>
    dsimp only
    cases found : next.object h with
    | error e => exact filled
    | ok copied => exact filled.putFound (object_eq_ok_iff.mp found) rfl

theorem copy (known : Known p heap) (built : p.Built) (h : Handle) : Known p (copy p settings h heap).2 := by
  have done := copy_cases p settings h heap
  generalize Heap.copy p settings h heap = result at done ⊢
  generalize heap.lives p settings (.copy h) = lives at done
  cases done with
  | refused e absent => exact known
  | failed o e next found created =>
    have later := known.create settings built o.cls
    rw [created] at later
    exact later
  | made o made next found created =>
    have later := known.create settings built o.cls
    rw [created] at later
    exact later.copyInto o

theorem set {f : FeatureId} {v : Value} (known : Known p heap) (done : set p h f v heap = .ok next) :
    Known p next := by
  obtain ⟨o,feature,described,-,done⟩ := set_eq_ok done
  have found := (objectFeature_eq_ok_iff.mp described).1
  cases done with
  | data kind isData written => exact written ▸ known.putFound found rfl
  | single target isSingle fits written => exact written ▸ known.putFound found rfl
  | many target backing assigned isMany backs assign written =>
    have ofClass := known h o found
    rcases assignList_eq_ok assign with ⟨-,rfl⟩ | ⟨given,own,-,-,-,rfl⟩
    · exact written ▸ known.putObject ofClass
    · exact written ▸ known.setItems.putObject ofClass

theorem unset {f : FeatureId} (known : Known p heap) : Known p (unset p h f heap).2 := by
  have done := unset_cases p h f heap
  generalize Heap.unset p h f heap = result at done ⊢
  cases done with
  | unknown e => exact known
  | emptied o feature held l described holds found =>
    refine setItems ?_
    exact known.putFound (objectFeature_eq_ok_iff.mp described).1 rfl
  | missing o feature held e described holds lost =>
    exact known.putFound (objectFeature_eq_ok_iff.mp described).1 rfl
  | restored o feature described plain => exact known.putFound (objectFeature_eq_ok_iff.mp described).1 rfl

theorem commit {operation : Heap → Except Error Heap} (known : Known p heap)
    (keeps : ∀ next, operation heap = .ok next → Known p next) : Known p (commit operation heap).2 := by
  unfold Heap.commit
  split
  · rename_i next done
    exact keeps next done
  · exact known

/-- No call brings in an object of a class that the package does not have. -/
theorem respond (known : Known p heap) (built : p.Built) (c : Call Value) :
    Known p (heap.respond p settings c).2 := by
  cases c with
  | create cls => exact known.create settings built cls
  | copy h => exact known.copy built h
  | unset h f => exact known.unset
  | destroy h => exact known.commit fun next done => known.discard (destroy_eq_ok done).2
  | initialise h =>
    refine known.commit fun next done => ?_
    obtain ⟨o,found,rfl⟩ := initialise_eq_ok done
    exact known.putFound found rfl
  | set h f v => exact known.commit fun next done => known.set done
  | createList cls =>
    show Known p (commitWith (Heap.createList p settings cls) heap).2
    unfold commitWith
    split
    · rename_i list next done
      exact known.allocList (createList_eq_ok done).2
    · exact known
  | pushBack h e =>
    refine known.commit fun next done => ?_
    obtain ⟨l,-,-,rfl⟩ := pushBack_eq_ok done
    exact known.setItems
  | insertAt h i e =>
    refine known.commit fun next done => ?_
    obtain ⟨l,-,-,-,rfl⟩ := insertAt_eq_ok done
    exact known.setItems
  | insertAll h source =>
    refine known.commit fun next done => ?_
    obtain ⟨given,target,-,-,-,rfl⟩ := insertAll_eq_ok done
    exact known.setItems
  | clear h =>
    refine known.commit fun next done => ?_
    obtain ⟨l,-,rfl⟩ := clear_eq_ok done
    exact known.setItems
  | _ => exact known

end Known

/-- After every run all objects are of classes of the package. -/
theorem known_after (built : p.Built) (calls : List (Call Value)) : Known p (Heap.empty.after p settings calls) := by
  suffices run : ∀ heap, Known p heap → Known p (after p settings heap calls) from run .empty .empty
  induction calls with
  | nil => exact fun heap known => known
  | cons c rest ih => exact fun heap known => ih _ (known.respond built c)

end Heap

end HandleBridge
