import Mathlib.Logic.Relation
import HandleBridge.Proofs.Construction

/-!
What a call comes to. In a well formed heap a call is refused and all handles refer to what they did before, or it
edits the heap in well formed steps, or it frees an object with its lists or a list of its own (`respond_outcome`).
-/

namespace HandleBridge.Heap

variable {p : Package} {settings : HeapSettings} {heap next last : Heap} {h : Handle} {f : FeatureId} {v : Value}
  {o : ObjectData} {l : ListData} {cls : ClassType} {feature : Feature}

/-- How an element may get into a list of the class: it passes the check, or it comes from a list of a class that
fits. -/
inductive Admitted (p : Package) (heap : Heap) (expected : ClassId) (x : Handle) : Prop
  | checked (passes : checkElement p heap expected x = .ok ())
  | shared {b : Handle} {l : ListData} (found : heap.get? b = some (.list l)) (member : x ∈ l.items)
      (fits : p.isA l.elementClass expected = true)

/-- One well formed step: new items of a list, new values of an object, a new list, or a new object with its lists. -/
inductive Edit (p : Package) (heap : Heap) : Heap → Prop
  | items {b : Handle} {l : ListData} {items : List Handle} (found : heap.get? b = some (.list l))
      (admitted : ∀ x ∈ items, Admitted p heap l.elementClass x) : Edit p heap (heap.setItems b l items)
  | values {h : Handle} {o changed : ObjectData} {cls : ClassType} (found : heap.get? h = some (.object o))
      (known : p.class? o.cls = some cls) (changes : Changes p heap cls o changed) :
      Edit p heap (heap.putObject h changed)
  | list {b : Handle} {c : ClassId} {cls : ClassType} {next : Heap} (known : p.class? c = some cls)
      (fresh : heap.get? b = none)
      (view : ∀ k, next.get? k = if k = b then some (.list ⟨c,[],none⟩) else heap.get? k) : Edit p heap next
  | object {h : Handle} {o : ObjectData} {cls : ClassType} {next : Heap} (created : Created p heap h o cls next) :
      Edit p heap next

/-- A well formed step keeps the invariant of ownership. -/
theorem Edit.wellFormed (edit : Edit p heap next) (wellFormed : WellFormed p heap) : WellFormed p next := by
  cases edit with
  | items found admitted => exact wellFormed.setItems found _
  | values found known changes => exact wellFormed.putObject found known changes
  | list known fresh view => exact wellFormed.newList known fresh view
  | object created => exact wellFormed.newObject created

/-- Steps one after another. -/
abbrev Edits (p : Package) : Heap → Heap → Prop := Relation.ReflTransGen (Edit p)

theorem Edits.wellFormed (edits : Edits p heap last) (wellFormed : WellFormed p heap) : WellFormed p last := by
  induction edits with
  | refl => exact wellFormed
  | tail _ edit ih => exact edit.wellFormed ih

/-- What a call comes to. -/
inductive Outcome (p : Package) (heap : Heap) {α : Type} : Except Error α × Heap → Prop
  | refused (e : Error) (next : Heap) (same : ∀ k, next.get? k = heap.get? k) : Outcome p heap (.error e,next)
  | edited (a : α) (next : Heap) (edits : Edits p heap next) : Outcome p heap (.ok a,next)
  | freed (a : α) (h : Handle) (entry : Entry) (next : Heap) (found : heap.get? h = some entry)
      (unowned : ∀ l, entry = .list l → l.owner = none) (done : heap.discard h = .ok next) : Outcome p heap (.ok a,next)

/-- A call that comes to such steps keeps the invariant, whether or not it succeeds. -/
theorem Outcome.wellFormed {α : Type} {result : Except Error α × Heap} (outcome : Outcome p heap result)
    (wellFormed : WellFormed p heap) : WellFormed p result.2 := by
  cases outcome with
  | refused e next same => exact wellFormed.congr same
  | edited a next edits => exact edits.wellFormed wellFormed
  | freed a h entry next found unowned done =>
    cases entry with
    | object o => exact wellFormed.freeObject found done
    | list l =>
      refine wellFormed.freeList found (unowned l rfl) ?_
      cases discard_eq_ok done with
      | list l freed => exact get?_take? freed
      | object o rest freed erased =>
        rw [found_of_take? freed] at found
        cases found

theorem observe_outcome {α : Type} (read : Heap → Except Error α) : Outcome p heap (observe read heap) := by
  unfold observe
  cases read heap with
  | error e => exact .refused e heap fun _ => rfl
  | ok a => exact .edited a heap .refl

theorem commit_outcome {operation : Heap → Except Error Heap}
    (succeeds : ∀ next, operation heap = .ok next → Edits p heap next) : Outcome p heap (commit operation heap) := by
  unfold commit
  cases done : operation heap with
  | error e => exact .refused e heap fun _ => rfl
  | ok next => exact .edited () next (succeeds next done)

/-- The items of a list fit the list. -/
theorem admitted_own (built : p.Built) (wellFormed : WellFormed p heap) (found : heap.get? h = some (.list l)) {x : Handle}
    (member : x ∈ l.items) : Admitted p heap l.elementClass x := by
  obtain ⟨cls,known⟩ := wellFormed.elements h l found
  exact .shared found member (built.isA_refl known)

theorem pushBack_edits {element : Handle} (built : p.Built) (wellFormed : WellFormed p heap)
    (done : pushBack p h element heap = .ok next) : Edits p heap next := by
  obtain ⟨l,found,checked,rfl⟩ := pushBack_eq_ok done
  refine .single (.items found fun x member => ?_)
  rcases List.mem_append.mp member with old | new
  · exact admitted_own built wellFormed found old
  · cases List.mem_singleton.mp new
    exact .checked checked

theorem insertAt_edits {element : Handle} {i : UInt64} (built : p.Built) (wellFormed : WellFormed p heap)
    (done : insertAt p h i element heap = .ok next) : Edits p heap next := by
  obtain ⟨l,found,-,checked,rfl⟩ := insertAt_eq_ok done
  refine .single (.items found fun x member => ?_)
  rcases List.mem_append.mp member with before | after
  · exact admitted_own built wellFormed found (List.mem_of_mem_take before)
  · rcases List.mem_cons.mp after with rfl | later
    · exact .checked checked
    · exact admitted_own built wellFormed found (List.mem_of_mem_drop later)

theorem insertAll_edits {source : Handle} (built : p.Built) (wellFormed : WellFormed p heap)
    (done : insertAll p h source heap = .ok next) : Edits p heap next := by
  obtain ⟨given,target,atSource,atTarget,fits,rfl⟩ := insertAll_eq_ok done
  refine .single (.items atTarget fun x member => ?_)
  rcases List.mem_append.mp member with old | new
  · exact admitted_own built wellFormed atTarget old
  · exact .shared atSource new fits

theorem clear_edits (done : clear h heap = .ok next) : Edits p heap next := by
  obtain ⟨l,found,rfl⟩ := clear_eq_ok done
  exact .single (.items found fun x member => by cases member)

theorem field_eq {field : Field} (there : o.fields[f.index.toNat]? = some field) : o.field f = field := by
  simp [ObjectData.field,there]

/-- Writing one field changes no other value. -/
theorem changes_setField {field : Field} (row : cls.features[f.index.toNat]? = some feature)
    (change : Change p heap o f.index.toNat feature.kind (o.field f).value field.value) :
    Changes p heap cls o (o.setField f field) := by
  refine ⟨rfl,by simp [ObjectData.setField],?_⟩
  intro i other old new there before now
  rw [ObjectData.getElem?_setField] at now
  split at now
  · rename_i here
    obtain ⟨rfl,-⟩ := here
    cases now
    cases row.symm.trans there
    rwa [field_eq before] at change
  · cases before.symm.trans now
    exact .kept

theorem changes_mark {isSet : Bool} (row : cls.features[f.index.toNat]? = some feature) :
    Changes p heap cls o (o.setField f { o.field f with isSet }) :=
  changes_setField row .kept

/-- The value of a feature is there and fits its kind. -/
theorem fits_of_row {h : Handle} (object : Instance p heap h o cls) (row : cls.features[f.index.toNat]? = some feature) :
    Fits p heap h feature.kind (o.field f).value := by
  have inside : f.index.toNat < o.fields.length := object.length.symm ▸ (List.getElem?_eq_some_iff.mp row).1
  have there : o.fields[f.index.toNat]? = some o.fields[f.index.toNat] := List.getElem?_eq_getElem inside
  rw [field_eq there]
  exact object.fits f.index.toNat feature _ row there

/-- Writing a feature changes its list and then its object, if it has a list. -/
theorem set_edits (built : p.Built) (done : set p h f v heap = .ok next) : Edits p heap next := by
  obtain ⟨o,feature,described,fits,done⟩ := set_eq_ok done
  have proper := objectFeature_proper built described
  unfold Feature.Proper at proper
  obtain ⟨found,cls,known,row⟩ := objectFeature_eq_ok_iff.mp described
  cases done with
  | data plain isData written =>
    simp only [isData] at proper fits
    exact written ▸ .single (.values found known (changes_setField row (.data isData (kind?_of_fits proper.1 fits))))
  | single target isSingle fitsTarget written =>
    rw [isSingle] at fits
    subst written
    refine .single (.values found known (changes_setField row ?_))
    cases v with
    | null => exact .cleared isSingle
    | object r =>
      obtain ⟨t,named,checked⟩ := fitsTarget r rfl
      exact .reference isSingle named checked
    | _ => cases fits
  | many target backing assigned isMany backs assign written =>
    rcases assignList_eq_ok assign with ⟨-,rfl⟩ | ⟨given,own,atSource,atBacking,checked,rfl⟩
    · exact written ▸ .single (.values found known (changes_mark row))
    · have other : h ≠ backing := by
        rintro rfl
        cases found.symm.trans atBacking
      have kept : (heap.setItems backing own given.items).get? h = some (.object o) := by
        rw [get?_setItems atBacking,if_neg other,found]
      subst written
      exact .head (.items atBacking fun x member => .checked (checked x member))
        (.single (.values kept known (changes_mark row)))

/-- The list behind a feature is always there, so that reverting the feature cannot stop half way. -/
theorem unset_outcome (h : Handle) (f : FeatureId) (built : p.Built) (wellFormed : WellFormed p heap) :
    Outcome p heap (unset p h f heap) := by
  have done := unset_cases p h f heap
  generalize unset p h f heap = result at done ⊢
  cases done with
  | unknown e => exact .refused e heap fun _ => rfl
  | emptied o feature held l described holds there =>
    obtain ⟨found,cls,known,row⟩ := objectFeature_eq_ok_iff.mp described
    exact .edited () _ (.head (.values found known (changes_mark row)) (.single (.items there fun x member => by cases member)))
  | missing o feature held e described holds lost =>
    obtain ⟨found,cls,known,row⟩ := objectFeature_eq_ok_iff.mp described
    obtain ⟨other,object⟩ := wellFormed.objects h o found
    obtain ⟨l,there,-⟩ := object.owns (ObjectData.holds_of_field holds)
    have kept : (heap.putObject h (o.setField f { o.field f with isSet := false })).get? held = some (.list l) :=
      kept_of_update (get?_putObject found) there (by simp [found])
    rw [list_eq_ok_iff.mpr kept] at lost
    cases lost
  | restored o feature described plain =>
    obtain ⟨found,cls,known,row⟩ := objectFeature_eq_ok_iff.mp described
    obtain ⟨other,object⟩ := wellFormed.objects h o found
    cases known.symm.trans object.known
    have fits := fits_of_row object row
    have proper := objectFeature_proper built described
    unfold Feature.Proper at proper
    refine .edited () _ (.single (.values found known (changes_setField row ?_)))
    cases isKind : feature.kind with
    | data kind =>
      simp only [isKind] at proper
      exact .data rfl proper.2
    | reference target many =>
      simp only [isKind] at proper
      rw [proper.1]
      cases many with
      | false => exact .cleared rfl
      | true =>
        rw [isKind] at fits
        obtain ⟨b,-,-,isList,-⟩ := fits
        exact absurd isList (plain b)

theorem initialise_edits (wellFormed : WellFormed p heap) (done : initialise h heap = .ok next) : Edits p heap next := by
  obtain ⟨o,found,rfl⟩ := initialise_eq_ok done
  obtain ⟨cls,object⟩ := wellFormed.objects h o found
  refine .single (.values found object.known ⟨rfl,rfl,?_⟩)
  intro i feature old new row before now
  cases before.symm.trans now
  exact .kept

end HandleBridge.Heap
