import HandleBridge.Proofs.Evolution
import HandleBridge.Proofs.Renaming

/-!
Heaps that differ in the choice of their handles. Twins hold renamed entries behind paired handles, so that an operation
on the one and the same operation with paired handles on the other succeed alike, fail alike, and leave twins.
-/

namespace HandleBridge.Heap

/-- Whether two heaps are twins under a pairing: paired handles refer to renamed entries or to nothing, and the counts
are the same. -/
structure Twins (R : Handle → Handle → Prop) (heap heap' : Heap) : Prop where
  entries : ∀ h h', R h h' → Option.Rel (Entry.Renamed R) (heap.get? h) (heap'.get? h')
  live : heap.live = heap'.live
  created : heap.created = heap'.created
  destroyed : heap.destroyed = heap'.destroyed

/-- Whether two operations end alike and leave twins. -/
inductive Alike (R : Handle → Handle → Prop) {α β : Type} (Q : α → β → Prop) :
    Except Error α × Heap → Except Error β × Heap → Prop
  | ok {a : α} {b : β} {next next' : Heap} (related : Q a b) (twins : Twins R next next') :
      Alike R Q (.ok a,next) (.ok b,next')
  | error {e e' : Error} {next next' : Heap} (failed : e.Renamed R e') (twins : Twins R next next') :
      Alike R Q (.error e,next) (.error e',next')

variable {R : Handle → Handle → Prop} {p : Package} {heap heap' next next' : Heap} {h h' k k' x x' : Handle}
  {entry entry' now now' : Entry} {o o' : ObjectData} {l l' : ListData} {f : FeatureId} {v v' : Value}

namespace Alike

variable {α β : Type} {Q : α → β → Prop}

theorem of_matches {x : Except Error α} {y : Except Error β} (ends : Matches (Error.Renamed R) Q x y)
    (twins : Twins R heap heap') : Alike R Q (x,heap) (y,heap') := by
  cases ends with
  | ok related => exact .ok related twins
  | error failed => exact .error failed twins

variable {x : Except Error α × Heap} {y : Except Error β × Heap} (alike : Alike R Q x y)

include alike

theorem result : Matches (Error.Renamed R) Q x.1 y.1 := by
  cases alike with
  | ok related _ => exact .ok related
  | error failed _ => exact .error failed

theorem twins : Twins R x.2 y.2 := by
  cases alike with
  | ok _ twins => exact twins
  | error _ twins => exact twins

end Alike

theorem require_renamed (c : ClassId) : Matches (Error.Renamed R) Eq (p.require c) (p.require c) := by
  unfold Package.require
  split
  · exact .ok rfl
  · exact .error (.plain rfl)

theorem requireNamed_renamed (name : String) :
    Matches (Error.Renamed R) Eq (p.requireNamed name) (p.requireNamed name) := by
  unfold Package.requireNamed
  split
  · exact .ok rfl
  · exact .error (.plain rfl)

theorem default_handleFree {feature : Feature} (proper : feature.Proper p) : feature.default.handle? = none := by
  unfold Feature.Proper at proper
  split at proper
  · rename_i kind isData
    obtain ⟨plain,fits⟩ := proper
    generalize feature.default = v at fits ⊢
    cases v with
    | object r =>
      cases fits
      cases plain
    | list r =>
      cases fits
      cases plain
    | _ => rfl
  · rw [proper.1]
    rfl

/-- Giving a list other elements leaves objects as they are. -/
theorem get?_of_assignList {b source : Handle} (assigned : Heap.assignList p b source heap = .ok next)
    (found : heap.get? h = some (.object o)) : next.get? h = some (.object o) := by
  rcases assignList_eq_ok assigned with ⟨-,rfl⟩ | ⟨given,own,-,atBacking,-,rfl⟩
  · exact found
  · exact kept_of_update (get?_setItems atBacking) found (by simp [atBacking])

theorem feature_renamed {cls : ClassType} (f : FeatureId) :
    Matches (Error.Renamed R) Eq (cls.feature f) (cls.feature f) := by
  unfold ClassType.feature
  split
  · exact .ok rfl
  · exact .error (.plain rfl)

namespace Twins

/-- Behind a paired handle is a renamed entry. -/
theorem get? (twins : Twins R heap heap') (same : R h h') (found : heap.get? h = some entry) :
    ∃ entry', heap'.get? h' = some entry' ∧ entry.Renamed R entry' := by
  have entries := twins.entries h h' same
  rw [found] at entries
  generalize heap'.get? h' = there at entries ⊢
  cases entries with
  | some renamed => exact ⟨_,rfl,renamed⟩

/-- Paired handles are dead together. -/
theorem get?_eq_none_iff (twins : Twins R heap heap') (same : R h h') : heap.get? h = none ↔ heap'.get? h' = none := by
  have entries := twins.entries h h' same
  generalize heap.get? h = here at entries ⊢
  generalize heap'.get? h' = there at entries ⊢
  cases entries <;> simp

variable (pairing : Pairing R) (twins : Twins R heap heap')

include pairing twins

theorem find (same : R h h') : Matches (Error.Renamed R) (Entry.Renamed R) (heap.find h) (heap'.find h') := by
  have entries := twins.entries h h' same
  unfold Heap.find
  rw [pairing.isNull_eq same]
  split
  · exact .error (.plain rfl)
  · generalize heap.get? h = here at entries ⊢
    generalize heap'.get? h' = there at entries ⊢
    cases entries with
    | none => exact .error (.stale same)
    | some renamed => exact .ok renamed

theorem object (same : R h h') : Matches (Error.Renamed R) (ObjectData.Renamed R) (heap.object h) (heap'.object h') := by
  refine (twins.find pairing same).bind fun entry entry' _ _ renamed => ?_
  cases renamed with
  | object renamed => exact .ok renamed
  | list _ => exact .error (.plain rfl)

theorem list (same : R h h') : Matches (Error.Renamed R) (ListData.Renamed R) (heap.list h) (heap'.list h') := by
  refine (twins.find pairing same).bind fun entry entry' _ _ renamed => ?_
  cases renamed with
  | object _ => exact .error (.notAList same)
  | list renamed => exact .ok renamed

/-- Paired elements pass the same checks. -/
theorem checkElement (expected : ClassId) (same : R x x') :
    Matches (Error.Renamed R) Eq (Heap.checkElement p heap expected x) (Heap.checkElement p heap' expected x') := by
  unfold Heap.checkElement
  rw [pairing.isNull_eq same]
  split
  · exact .ok rfl
  · refine (twins.object pairing same).bind fun o o' _ _ renamed => ?_
    rw [renamed.cls]
    split
    · exact .ok rfl
    · exact .error (.plain rfl)

/-- Paired objects have the same features. -/
theorem objectFeature (f : FeatureId) (same : R h h') :
    Matches (Error.Renamed R) (fun a a' => a.1.Renamed R a'.1 ∧ a.2 = a'.2) (Heap.objectFeature p heap h f)
      (Heap.objectFeature p heap' h' f) := by
  refine (twins.object pairing same).bind fun o o' _ _ renamed => ?_
  rw [renamed.cls]
  refine (require_renamed _).bind fun cls cls' _ _ same => ?_
  cases same
  refine (feature_renamed f).bind fun feature feature' _ _ same => ?_
  exact .ok ⟨renamed,same⟩

theorem get (f : FeatureId) (same : R h h') :
    Matches (Error.Renamed R) (Value.Renamed R) (Heap.get p h f heap) (Heap.get p h' f heap') :=
  (twins.objectFeature pairing f same).bind fun _ _ _ _ described => .ok (described.1.field f).value

/-- A feature counts as set in both or in neither, lists included. -/
theorem isSet (f : FeatureId) (same : R h h') :
    Matches (Error.Renamed R) Eq (Heap.isSet p h f heap) (Heap.isSet p h' f heap') := by
  refine (twins.objectFeature pairing f same).bind ?_
  rintro ⟨o,feature⟩ ⟨o',feature'⟩ - - ⟨renamed,same⟩
  obtain ⟨value,isSet⟩ := ObjectData.Renamed.field renamed f
  dsimp only at value isSet ⊢
  rw [isSet]
  split
  · exact .ok rfl
  · generalize (o.field f).value = held at value ⊢
    generalize (o'.field f).value = held' at value ⊢
    cases value with
    | plain handleFree =>
      cases held with
      | list b => cases handleFree
      | _ => exact .ok rfl
    | object _ => exact .ok rfl
    | list same =>
      refine (twins.list pairing same).bind fun l l' _ _ renamed => .ok ?_
      have items := renamed.items
      generalize l.items = xs at items ⊢
      generalize l'.items = ys at items ⊢
      cases items <;> rfl

theorem listSize (same : R h h') : Matches (Error.Renamed R) Eq (Heap.listSize h heap) (Heap.listSize h' heap') := by
  refine (twins.list pairing same).bind fun l l' _ _ renamed => .ok ?_
  rw [renamed.items.length_eq]

theorem listAt (i : UInt64) (same : R h h') :
    Matches (Error.Renamed R) R (Heap.listAt h i heap) (Heap.listAt h' i heap') := by
  refine (twins.list pairing same).bind fun l l' _ _ renamed => ?_
  have alike := rel_getElem? renamed.items i.toNat
  dsimp only
  rw [renamed.items.length_eq]
  generalize l.items[i.toNat]? = item at alike ⊢
  generalize l'.items[i.toNat]? = item' at alike ⊢
  cases alike with
  | none => exact .error (.plain rfl)
  | some same => exact .ok same

/-! ### Replacing -/

/-- Twins stay twins when paired handles get renamed entries. -/
theorem put (same : R h h') (found : heap.get? h = some entry) (found' : heap'.get? h' = some entry')
    (renamed : now.Renamed R now') : Twins R (heap.put h now) (heap'.put h' now') := by
  refine ⟨?_,?_,?_,?_⟩
  · intro k k' paired
    rw [Heap.put,Heap.put,Arena.get?_set found,Arena.get?_set found']
    by_cases here : k = h
    · rw [if_pos here,if_pos ((pairing.unique paired same).mp here)]
      exact .some renamed
    · rw [if_neg here,if_neg (mt (pairing.unique paired same).mpr here)]
      exact twins.entries k k' paired
  · rw [Heap.put,Heap.put,Arena.live_set,Arena.live_set,twins.live]
  · rw [Heap.put,Heap.put,Arena.created_set,Arena.created_set,twins.created]
  · rw [Heap.put,Heap.put,Arena.destroyed_set,Arena.destroyed_set,twins.destroyed]

theorem putObject (same : R h h') (found : heap.get? h = some entry) (found' : heap'.get? h' = some entry')
    (renamed : o.Renamed R o') : Twins R (heap.putObject h o) (heap'.putObject h' o') :=
  twins.put pairing same found found' (.object renamed)

theorem setItems {items items' : List Handle} (same : R h h') (found : heap.get? h = some entry)
    (found' : heap'.get? h' = some entry') (renamed : l.Renamed R l') (alike : List.Forall₂ R items items') :
    Twins R (heap.setItems h l items) (heap'.setItems h' l' items') :=
  twins.put pairing same found found' (.list ⟨renamed.elementClass,alike,renamed.owner⟩)

theorem initialise (same : R h h') :
    Matches (Error.Renamed R) (Twins R) (Heap.initialise h heap) (Heap.initialise h' heap') := by
  refine (twins.object pairing same).bind fun o o' found found' renamed => .ok ?_
  rw [object_eq_ok_iff] at found found'
  exact twins.putObject pairing same found found' ⟨renamed.cls,renamed.fields,rfl⟩

/-- Appending paired elements keeps twins. -/
theorem pushBack (same : R h h') (element : R x x') :
    Matches (Error.Renamed R) (Twins R) (Heap.pushBack p h x heap) (Heap.pushBack p h' x' heap') := by
  refine (twins.list pairing same).bind fun l l' found found' renamed => ?_
  rw [list_eq_ok_iff] at found found'
  rw [renamed.elementClass]
  refine (twins.checkElement pairing _ element).bind fun _ _ _ _ _ => .ok ?_
  exact twins.setItems pairing same found found' renamed (List.rel_append renamed.items (.cons element .nil))

theorem insertAt (i : UInt64) (same : R h h') (element : R x x') :
    Matches (Error.Renamed R) (Twins R) (Heap.insertAt p h i x heap) (Heap.insertAt p h' i x' heap') := by
  refine (twins.list pairing same).bind fun l l' found found' renamed => ?_
  rw [list_eq_ok_iff] at found found'
  rw [renamed.elementClass,renamed.items.length_eq]
  refine .refuse .rfl (.plain rfl) ?_
  refine (twins.checkElement pairing _ element).bind fun _ _ _ _ _ => .ok ?_
  refine twins.setItems pairing same found found' renamed ?_
  exact List.rel_append (List.forall₂_take i.toNat renamed.items) (.cons element (List.forall₂_drop i.toNat renamed.items))

/-- So does appending paired lists. -/
theorem insertAll (same : R h h') (other : R x x') :
    Matches (Error.Renamed R) (Twins R) (Heap.insertAll p h x heap) (Heap.insertAll p h' x' heap') := by
  refine (twins.list pairing other).bind fun given given' _ _ source => ?_
  refine (twins.list pairing same).bind fun l l' found found' renamed => ?_
  rw [list_eq_ok_iff] at found found'
  rw [renamed.elementClass,source.elementClass]
  refine .check .rfl (.plain rfl) (.ok ?_)
  exact twins.setItems pairing same found found' renamed (List.rel_append renamed.items source.items)

theorem clear (same : R h h') : Matches (Error.Renamed R) (Twins R) (Heap.clear h heap) (Heap.clear h' heap') := by
  refine (twins.list pairing same).bind fun l l' found found' renamed => .ok ?_
  rw [list_eq_ok_iff] at found found'
  exact twins.setItems pairing same found found' renamed .nil

theorem assignList (same : R h h') (source : R x x') :
    Matches (Error.Renamed R) (Twins R) (Heap.assignList p h x heap) (Heap.assignList p h' x' heap') := by
  unfold Heap.assignList
  -- A list that is assigned to itself is told by its handle, which the pairing keeps apart from others.
  by_cases own : x = h
  · rw [if_pos own,if_pos ((pairing.unique source same).mp own)]
    exact .ok twins
  · rw [if_neg own,if_neg (mt (pairing.unique source same).mpr own)]
    refine (twins.list pairing source).bind fun given given' _ _ source => ?_
    refine (twins.list pairing same).bind fun l l' found found' renamed => ?_
    rw [list_eq_ok_iff] at found found'
    rw [renamed.elementClass]
    refine (Matches.forM source.items fun _ _ item => twins.checkElement pairing _ item).bind fun _ _ _ _ _ => .ok ?_
    exact twins.setItems pairing same found found' renamed source.items

/-- Writing renamed values keeps twins. -/
theorem set (f : FeatureId) (same : R h h') (value : v.Renamed R v') :
    Matches (Error.Renamed R) (Twins R) (Heap.set p h f v heap) (Heap.set p h' f v' heap') := by
  refine (twins.objectFeature pairing f same).bind ?_
  rintro ⟨o,feature⟩ ⟨o',feature'⟩ described described' ⟨renamed,sameFeature⟩
  dsimp only at renamed sameFeature ⊢
  subst sameFeature
  have found := (objectFeature_eq_ok_iff.mp described).1
  have found' := (objectFeature_eq_ok_iff.mp described').1
  refine .check (by rw [value.fits_eq]) (by rw [value.typeName_eq]; exact .plain rfl) ?_
  have written : Twins R (heap.putObject h (o.setField f ⟨v,true⟩)) (heap'.putObject h' (o'.setField f ⟨v',true⟩)) :=
    twins.putObject pairing same found found' (renamed.setField f ⟨value,rfl⟩)
  cases feature.kind with
  | data kind => exact .ok written
  | reference target many =>
    cases many with
    | false =>
      dsimp only
      cases value with
      | plain handleFree =>
        cases v with
        | object r => cases handleFree
        | _ => exact .ok written
      | object referenced =>
        refine (requireNamed_renamed target).bind fun t t' _ _ sameClass => ?_
        rw [sameClass]
        exact (twins.checkElement pairing _ referenced).bind fun _ _ _ _ _ => .ok written
      | list _ => exact .ok written
    | true =>
      have field := renamed.field f
      generalize o.field f = old at field ⊢
      generalize o'.field f = old' at field ⊢
      obtain ⟨held,isSet⟩ := old
      obtain ⟨held',isSet'⟩ := old'
      obtain ⟨holds,-⟩ := field
      dsimp only at holds ⊢
      cases holds with
      | plain handleFree =>
        cases held with
        | list b => cases handleFree
        | _ => exact .error (.notAList same)
      | object _ => exact .error (.notAList same)
      | list backing =>
        refine (twins.assignList pairing backing (rel_getD value.handle? backing)).bind ?_
        refine fun next next' assigned assigned' twins => .ok ?_
        exact twins.putObject pairing same (get?_of_assignList assigned found) (get?_of_assignList assigned' found')
          (renamed.setField f ⟨.list backing,rfl⟩)

/-- So does reverting a feature, even where it stops half way. -/
theorem unset (built : p.Built) (f : FeatureId) (same : R h h') :
    Alike R Eq (Heap.unset p h f heap) (Heap.unset p h' f heap') := by
  have described := twins.objectFeature pairing (p := p) f same
  unfold Heap.unset
  generalize looked : Heap.objectFeature p heap h f = a at described ⊢
  generalize looked' : Heap.objectFeature p heap' h' f = a' at described ⊢
  cases described with
  | error failed => exact .error failed twins
  | ok related =>
    rename_i a a'
    obtain ⟨o,feature⟩ := a
    obtain ⟨o',feature'⟩ := a'
    obtain ⟨renamed,sameFeature⟩ := related
    dsimp only at renamed sameFeature ⊢
    subst sameFeature
    have found := (objectFeature_eq_ok_iff.mp looked).1
    have found' := (objectFeature_eq_ok_iff.mp looked').1
    have field := renamed.field f
    generalize o.field f = old at field ⊢
    generalize o'.field f = old' at field ⊢
    obtain ⟨held,isSet⟩ := old
    obtain ⟨held',isSet'⟩ := old'
    obtain ⟨holds,-⟩ := field
    have cleared : Twins R (heap.putObject h (o.setField f ⟨feature.default,false⟩))
        (heap'.putObject h' (o'.setField f ⟨feature.default,false⟩)) := by
      refine twins.putObject pairing same found found' (renamed.setField f ⟨.plain ?_,rfl⟩)
      exact default_handleFree (objectFeature_proper built looked)
    dsimp only at holds ⊢
    cases holds with
    | plain handleFree =>
      cases held with
      | list b => cases handleFree
      | _ => exact .ok rfl cleared
    | object _ => exact .ok rfl cleared
    | list backing =>
      have mark : Field.Renamed R ⟨.list _,false⟩ ⟨.list _,false⟩ := ⟨.list backing,rfl⟩
      have marked := twins.putObject pairing same found found' (renamed.setField f mark)
      have lists := marked.list pairing backing
      dsimp only
      generalize listed : Heap.list _ _ = list at lists ⊢
      generalize listed' : Heap.list _ _ = list' at lists ⊢
      cases lists with
      | error failed => exact .error failed marked
      | ok renamed =>
        rw [list_eq_ok_iff] at listed listed'
        exact .ok rfl (marked.setItems pairing backing listed listed' renamed .nil)

end Twins

end HandleBridge.Heap
