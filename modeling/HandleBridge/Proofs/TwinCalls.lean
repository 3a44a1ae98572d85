import HandleBridge.Proofs.Chronicle
import HandleBridge.Proofs.TwinHeaps

/-!
Calls on twin heaps. What is allocated on the way is paired in the order in which it is issued, so a call on the one heap
and the renamed call on the other come to the same, whichever slots their allocations take (`respond_alike`).
-/

namespace HandleBridge.Heap

variable {R : Handle → Handle → Prop} {p : Package} {settings settings' : HeapSettings}
  {heap heap' next next' : Heap} {h h' k k' x x' : Handle} {entry entry' : Entry} {o o' : ObjectData} {v v' : Value}
  {lives lives' : List Life}

theorem live_take? (freed : heap.take? h = some (entry,next)) : next.live = heap.live - 1 := by
  obtain ⟨-,i,-,-,rfl⟩ := Arena.erase?_eq_some freed
  rfl

theorem created_take? (freed : heap.take? h = some (entry,next)) : next.created = heap.created := by
  obtain ⟨-,i,-,-,rfl⟩ := Arena.erase?_eq_some freed
  rfl

theorem destroyed_take? (freed : heap.take? h = some (entry,next)) : next.destroyed = heap.destroyed + 1 := by
  obtain ⟨-,i,-,-,rfl⟩ := Arena.erase?_eq_some freed
  rfl

namespace Twins

variable (pairing : Pairing R) (twins : Twins R heap heap')

include pairing twins

/-- Paired handles are freed together. -/
theorem take? (same : R h h') (freed : heap.take? h = some (entry,next)) :
    ∃ entry' next', heap'.take? h' = some (entry',next') ∧ entry.Renamed R entry' ∧ Twins R next next' := by
  obtain ⟨entry',found',renamed⟩ := twins.get? same (found_of_take? freed)
  cases freed' : heap'.take? h' with
  | none =>
    rw [Arena.erase?_eq_none_iff.mp freed'] at found'
    cases found'
  | some taken =>
    obtain ⟨taken,next'⟩ := taken
    cases found'.symm.trans (found_of_take? freed')
    refine ⟨entry',next',rfl,renamed,?_,?_,?_,?_⟩
    · intro k k' paired
      rw [get?_take? freed,get?_take? freed']
      by_cases here : k = h
      · rw [if_pos here,if_pos ((pairing.unique paired same).mp here)]
        exact .none
      · rw [if_neg here,if_neg (mt (pairing.unique paired same).mpr here)]
        exact twins.entries k k' paired
    · rw [live_take? freed,live_take? freed',twins.live]
    · rw [created_take? freed,created_take? freed',twins.created]
    · rw [destroyed_take? freed,destroyed_take? freed',twins.destroyed]

theorem owns_iff (owner : R h h') (same : R k k') : heap.Owns h k ↔ heap'.Owns h' k' := by
  have entries := twins.entries k k' same
  unfold Owns
  generalize heap.get? k = here at entries ⊢
  generalize heap'.get? k' = there at entries ⊢
  cases entries with
  | none => simp
  | some renamed =>
    cases renamed with
    | object _ => simp
    | list renamed =>
      have owners := renamed.owner
      simp only [Option.some.injEq,Entry.list.injEq,exists_eq_left']
      generalize ListData.owner _ = a at owners ⊢
      generalize ListData.owner _ = a' at owners ⊢
      cases owners with
      | none => simp
      | some sameOwner =>
        rw [Option.some.injEq,Option.some.injEq]
        exact pairing.unique sameOwner owner

theorem eraseBacking (owner : R h h') (value : v.Renamed R v') :
    Twins R (heap.eraseBacking h v) (heap'.eraseBacking h' v') := by
  cases value with
  | plain handleFree =>
    cases v with
    | list b => cases handleFree
    | _ => exact twins
  | object _ => exact twins
  | @list b b' same =>
    by_cases owns : heap.Owns h b
    · obtain ⟨l,-,freed⟩ := eraseBacking_of_owns owns
      obtain ⟨l',-,freed'⟩ := eraseBacking_of_owns ((twins.owns_iff pairing owner same).mp owns)
      obtain ⟨entry',next',taken,-,left⟩ := twins.take? pairing same freed
      rw [freed'] at taken
      cases taken
      exact left
    · have spared := mt (twins.owns_iff pairing owner same).mpr owns
      rw [eraseBacking_of_not_owns,eraseBacking_of_not_owns]
      · exact twins
      · rintro _ ⟨⟩
        exact spared
      · rintro _ ⟨⟩
        exact owns

omit twins in
theorem eraseBackings {values values' : List Value} (twins : Twins R heap heap') (owner : R h h')
    (alike : List.Forall₂ (Value.Renamed R) values values') :
    Twins R (values.foldl (Heap.eraseBacking h) heap) (values'.foldl (Heap.eraseBacking h') heap') := by
  induction alike generalizing heap heap' with
  | nil => exact twins
  | cons value _ ih => exact ih (twins.eraseBacking pairing owner value)

/-- Paired objects are freed together, with their lists. -/
theorem discard (same : R h h') :
    Matches (Error.Renamed R) (Twins R) (heap.discard h) (heap'.discard h') := by
  unfold Heap.discard
  cases freed : heap.take? h with
  | none =>
    have lost := (twins.get?_eq_none_iff same).mp (Arena.erase?_eq_none_iff.mp freed)
    have freed' : heap'.take? h' = none := Arena.erase?_eq_none_iff.mpr lost
    rw [freed',pairing.isNull_eq same]
    refine .error ?_
    split
    · exact .plain rfl
    · exact .stale same
  | some taken =>
    obtain ⟨entry,next⟩ := taken
    obtain ⟨entry',next',freed',renamed,left⟩ := twins.take? pairing same freed
    rw [freed']
    cases renamed with
    | object renamed => exact .ok (left.eraseBackings pairing same renamed.values)
    | list _ => exact .ok left

/-- Paired handles are destroyed alike. -/
theorem destroy (same : R h h') :
    Matches (Error.Renamed R) (Twins R) (Heap.destroy h heap) (Heap.destroy h' heap') := by
  refine (twins.find pairing same).bind fun entry entry' _ _ renamed => ?_
  cases renamed with
  | object _ => exact twins.discard pairing same
  | @list l l' renamed =>
    obtain ⟨c,items,owner⟩ := l
    obtain ⟨c',items',owner'⟩ := l'
    obtain ⟨-,-,owners⟩ := renamed
    dsimp only at owners
    cases owners with
    | none => exact twins.discard pairing same
    | some sameOwner => exact .error (.owned same sameOwner)

end Twins

/-- Whether handles that were issued on two ways are paired in the order in which they were issued. -/
def Paired (R : Handle → Handle → Prop) (lives lives' : List Life) : Prop :=
  ∀ pair ∈ (issuedIn lives).zip (issuedIn lives'), R pair.1 pair.2

theorem paired_cons : Paired R (.issued h :: lives) (.issued h' :: lives') ↔ R h h' ∧ Paired R lives lives' := by
  unfold Paired
  rw [show issuedIn (.issued h :: lives) = h :: issuedIn lives from rfl,
    show issuedIn (.issued h' :: lives') = h' :: issuedIn lives' from rfl,List.zip_cons_cons,List.forall_mem_cons]

/-- Whether two operations end alike, leave twins, and issue as many handles. -/
structure Lockstep (R : Handle → Handle → Prop) {α β : Type} (Q : α → β → Prop) (x : Except Error α × Heap)
    (lives : List Life) (y : Except Error β × Heap) (lives' : List Life) : Prop where
  alike : Alike R Q x y
  issued : (issuedIn lives).length = (issuedIn lives').length

variable (limits : settings.maxObjects = settings'.maxObjects)

include limits in
theorem Twins.alloc (twins : Twins R heap heap') (entry entry' : Entry) :
    Matches (Error.Renamed R) (fun _ _ => True) (heap.alloc settings entry) (heap'.alloc settings' entry') := by
  -- The limit is the same and so is the count, hence both heaps are full or neither is.
  unfold Heap.alloc
  rw [← limits,twins.live]
  split
  · split
    · exact .error (.plain rfl)
    · exact .ok trivial
  · exact .ok trivial

/-- New entries that are renamed keep twins when their handles are paired. -/
theorem Twins.grow (pairing : Pairing R) (twins : Twins R heap heap') (sound : heap.Sound) (sound' : heap'.Sound)
    (made : heap.alloc settings entry = .ok (h,next)) (made' : heap'.alloc settings' entry' = .ok (h',next'))
    (few : next.slots.size < 2 ^ 32) (few' : next'.slots.size < 2 ^ 32) (same : R h h')
    (renamed : entry.Renamed R entry') : Twins R next next' := by
  obtain ⟨-,view⟩ := get?_alloc sound made few
  obtain ⟨-,view'⟩ := get?_alloc sound' made' few'
  have inserted := congrArg Prod.snd (alloc_eq_ok made).1
  have inserted' := congrArg Prod.snd (alloc_eq_ok made').1
  dsimp only at inserted inserted'
  refine ⟨?_,?_,?_,?_⟩
  · intro k k' paired
    rw [view,view']
    by_cases here : k = h
    · rw [if_pos here,if_pos ((pairing.unique paired same).mp here)]
      exact .some renamed
    · rw [if_neg here,if_neg (mt (pairing.unique paired same).mpr here)]
      exact twins.entries k k' paired
  · rw [← inserted,← inserted',Arena.live_insert,Arena.live_insert,twins.live]
  · rw [← inserted,← inserted',Arena.created_insert,Arena.created_insert,twins.created]
  · rw [← inserted,← inserted',Arena.destroyed_insert,Arena.destroyed_insert,twins.destroyed]

theorem issuedIn_valuesLives (owner : Handle) (values : List Value) (heap : Heap) :
    issuedIn (valuesLives owner values heap) = [] := by
  induction values generalizing heap with
  | nil => rfl
  | cons value rest ih =>
    have first : issuedIn (heap.backingLives owner value) = [] := by
      unfold backingLives
      split
      · split
        · split <;> rfl
        · rfl
      · rfl
    rw [valuesLives]
    unfold issuedIn at first ih ⊢
    rw [List.filterMap_append,first,ih]
    rfl

theorem issuedIn_discardLives (h : Handle) (heap : Heap) : issuedIn (discardLives h heap) = [] := by
  unfold discardLives
  split
  · rfl
  · exact issuedIn_valuesLives _ _ _
  · rfl

theorem issuedIn_destroy (p : Package) (settings : HeapSettings) (h : Handle) (heap : Heap) :
    issuedIn (heap.lives p settings (.destroy h)) = [] := by
  rw [lives]
  split
  · exact issuedIn_discardLives h heap
  · rfl

/-! ### Creating -/

/-- A creation that ran out of room fails alike, whatever comes of taking back what was made. -/
theorem Twins.rollBack {α β : Type} {Q : α → β → Prop} {e e' : Error} (pairing : Pairing R) (twins : Twins R heap heap')
    (same : R h h') (failed : e.Renamed R e') :
    Alike R Q
      (match heap.discard h with
        | .ok heap => ((.error e,heap) : Except Error α × Heap)
        | .error e => (.error e,heap))
      (match heap'.discard h' with
        | .ok heap => ((.error e',heap) : Except Error β × Heap)
        | .error e => (.error e,heap')) := by
  have discarded := twins.discard pairing same
  generalize heap.discard h = d at discarded ⊢
  generalize heap'.discard h' = d' at discarded ⊢
  cases discarded with
  | ok left => exact .error failed left
  | error failed => exact .error failed twins

/-- Yielding the handle of what was made takes no slot away. -/
theorem size_made (h : Handle) (y : Except Error Unit × Heap) : y.2.slots.size ≤
    (match y with
      | (.ok (),heap) => ((.ok h,heap) : Except Error Handle × Heap)
      | (.error e,heap) => (.error e,heap)).2.slots.size := by
  obtain ⟨result | result,last⟩ := y <;> exact Nat.le_refl _

/-- Handing a list over to its object and going on takes no slot away. -/
theorem size_handOver (p : Package) (settings : HeapSettings) (h : Handle) (rest : List Feature) (heap : Heap)
    (change : ObjectData → ObjectData) : heap.slots.size ≤
      (match heap.object h with
        | .error e => ((.error e,heap) : Except Error Unit × Heap)
        | .ok o => backFeatures p settings h rest (heap.putObject h (change o))).2.slots.size := by
  split
  · exact Nat.le_refl _
  · exact Nat.le_trans (Nat.le_of_eq size_put.symm) (size_backFeatures rest _)

include limits in
/-- When the handles issued on the way are paired, the lists of paired objects are made alike. -/
theorem Twins.backFeatures (pairing : Pairing R) (twins : Twins R heap heap') (sound : heap.Sound)
    (sound' : heap'.Sound) (same : R h h') (features : List Feature)
    (few : (backFeatures p settings h features heap).2.slots.size < 2 ^ 32)
    (few' : (backFeatures p settings' h' features heap').2.slots.size < 2 ^ 32)
    (paired : Paired R (backFeaturesLives p settings h features heap)
      (backFeaturesLives p settings' h' features heap')) :
    Lockstep R Eq (backFeatures p settings h features heap) (backFeaturesLives p settings h features heap)
      (backFeatures p settings' h' features heap') (backFeaturesLives p settings' h' features heap') := by
  induction features generalizing heap heap' with
  | nil => exact ⟨.ok rfl twins,rfl⟩
  | cons feature rest ih =>
    by_cases many : ∃ target, feature.kind = .reference target true
    · obtain ⟨target,isMany⟩ := many
      simp only [Heap.backFeatures,backFeaturesLives,isMany] at few few' paired ⊢
      cases named : p.requireNamed target with
      | error e => exact ⟨.error ((requireNamed_renamed target).of_error named) twins,rfl⟩
      | ok t =>
        simp only [named] at few few' paired ⊢
        have allocated := twins.alloc limits (.list ⟨t.id,[],some h⟩) (.list ⟨t.id,[],some h'⟩)
        generalize made : heap.alloc settings (.list ⟨t.id,[],some h⟩) = a at allocated few paired ⊢
        generalize made' : heap'.alloc settings' (.list ⟨t.id,[],some h'⟩) = a' at allocated few' paired ⊢
        cases allocated with
        | error failed =>
          refine ⟨twins.rollBack pairing same failed,?_⟩
          rw [issuedIn_discardLives,issuedIn_discardLives]
        | @ok a a' _ =>
          obtain ⟨list,next⟩ := a
          obtain ⟨list',next'⟩ := a'
          dsimp only at few few' paired ⊢
          obtain ⟨sameList,paired⟩ := paired_cons.mp paired
          have fewNext := Nat.lt_of_le_of_lt (size_handOver p settings h rest next _) few
          have fewNext' := Nat.lt_of_le_of_lt (size_handOver p settings' h' rest next' _) few'
          have grown := twins.grow pairing sound sound' made made' fewNext fewNext' sameList
            (.list ⟨rfl,.nil,.some same⟩)
          have objects := grown.object pairing same
          generalize found : next.object h = x at objects few paired ⊢
          generalize found' : next'.object h' = x' at objects few' paired ⊢
          cases objects with
          | error failed => exact ⟨.error failed grown,rfl⟩
          | ok renamed =>
            rw [object_eq_ok_iff] at found found'
            have handed := grown.putObject pairing same found found' (renamed.setValue feature.id (.list sameList))
            have last := ih handed (sound_alloc sound made fewNext).set (sound_alloc sound' made' fewNext').set few few'
              paired
            exact ⟨last.alike,congrArg Nat.succ last.issued⟩
    · have single : ∀ target, feature.kind ≠ .reference target true := fun target isMany => many ⟨target,isMany⟩
      obtain ⟨result,lives⟩ := backFeatures_of_single p settings h heap rest single
      obtain ⟨result',lives'⟩ := backFeatures_of_single p settings' h' heap' rest single
      rw [result] at few ⊢
      rw [result'] at few' ⊢
      rw [lives,lives'] at paired ⊢
      exact ih twins sound sound' few few' paired

theorem fresh_renamed {cls : ClassType} (built : p.Built) (member : cls ∈ p.classes) :
    (ObjectData.fresh cls).Renamed R (ObjectData.fresh cls) := by
  refine ⟨rfl,?_,rfl⟩
  unfold ObjectData.fresh
  rw [List.forall₂_map_left_iff,List.forall₂_map_right_iff,List.forall₂_same]
  intro feature row
  exact ⟨.plain (default_handleFree (built.proper member row)),rfl⟩

include limits in
/-- So is an object of a class, with its lists. -/
theorem Twins.create (built : p.Built) (pairing : Pairing R) (twins : Twins R heap heap') (sound : heap.Sound)
    (sound' : heap'.Sound) (c : ClassId) (few : (create p settings c heap).2.slots.size < 2 ^ 32)
    (few' : (create p settings' c heap').2.slots.size < 2 ^ 32)
    (paired : Paired R (createLives p settings c heap) (createLives p settings' c heap')) :
    Lockstep R R (create p settings c heap) (createLives p settings c heap) (create p settings' c heap')
      (createLives p settings' c heap') := by
  unfold Heap.create createLives at *
  cases known : p.require c with
  | error e => exact ⟨.error ((require_renamed c).of_error known) twins,rfl⟩
  | ok cls =>
    simp only [known] at few few' paired ⊢
    by_cases isAbstract : cls.isAbstract = true
    · simp only [isAbstract,if_true]
      exact ⟨.error (.plain rfl) twins,rfl⟩
    · simp only [isAbstract,Bool.false_eq_true,if_false] at few few' paired ⊢
      have allocated := twins.alloc limits (.object (.fresh cls)) (.object (.fresh cls))
      generalize made : heap.alloc settings (.object (.fresh cls)) = a at allocated few paired ⊢
      generalize made' : heap'.alloc settings' (.object (.fresh cls)) = a' at allocated few' paired ⊢
      cases allocated with
      | error failed => exact ⟨.error failed twins,rfl⟩
      | @ok a a' _ =>
        obtain ⟨h,next⟩ := a
        obtain ⟨h',next'⟩ := a'
        dsimp only at few few' paired ⊢
        obtain ⟨same,paired⟩ := paired_cons.mp paired
        have fewBacked := Nat.lt_of_le_of_lt (size_made h _) few
        have fewBacked' := Nat.lt_of_le_of_lt (size_made h' _) few'
        have fewNext := Nat.lt_of_le_of_lt (size_backFeatures cls.features next) fewBacked
        have fewNext' := Nat.lt_of_le_of_lt (size_backFeatures cls.features next') fewBacked'
        have fresh := fresh_renamed (R := R) built (Package.class?_mem (Package.require_eq_ok_iff.mp known))
        have grown := twins.grow pairing sound sound' made made' fewNext fewNext' same (.object fresh)
        have backed := grown.backFeatures limits pairing (sound_alloc sound made fewNext)
          (sound_alloc sound' made' fewNext') same cls.features fewBacked fewBacked' paired
        generalize Heap.backFeatures p settings h cls.features next = y at backed ⊢
        generalize Heap.backFeatures p settings' h' cls.features next' = y' at backed ⊢
        obtain ⟨alike,issued⟩ := backed
        cases alike with
        | ok _ left => exact ⟨.ok same left,congrArg Nat.succ issued⟩
        | error failed left => exact ⟨.error failed left,congrArg Nat.succ issued⟩

theorem Twins.copyValue (pairing : Pairing R) (twins : Twins R heap heap') (same : R h h') (value : v.Renamed R v')
    (i : Nat) : Matches (Error.Renamed R) (Twins R) (copyValue h (v,i) heap) (copyValue h' (v',i) heap') := by
  cases value with
  | @plain v handleFree =>
    have written : Matches (Error.Renamed R) (Twins R)
        (do return heap.putObject h ((← heap.object h).setValue ⟨UInt32.ofNat i⟩ v))
        (do return heap'.putObject h' ((← heap'.object h').setValue ⟨UInt32.ofNat i⟩ v)) := by
      refine (twins.object pairing same).bind fun o o' found found' renamed => .ok ?_
      rw [object_eq_ok_iff] at found found'
      exact twins.putObject pairing same found found' (renamed.setValue _ (.plain handleFree))
    cases v with
    | list b => cases handleFree
    | _ => exact written
  | object referenced =>
    refine (twins.object pairing same).bind fun o o' found found' renamed => .ok ?_
    rw [object_eq_ok_iff] at found found'
    exact twins.putObject pairing same found found' (renamed.setValue _ (.object referenced))
  | list source =>
    refine (twins.list pairing source).bind fun given given' _ _ sourceRenamed => ?_
    refine (twins.object pairing same).bind fun o o' _ _ renamed => ?_
    have holds := (renamed.field ⟨UInt32.ofNat i⟩).value
    generalize (o.field ⟨UInt32.ofNat i⟩).value = held at holds ⊢
    generalize (o'.field ⟨UInt32.ofNat i⟩).value = held' at holds ⊢
    cases holds with
    | plain handleFree =>
      cases held with
      | list b => cases handleFree
      | _ => exact .ok twins
    | object _ => exact .ok twins
    | list target =>
      refine (twins.list pairing target).bind fun own own' found found' renamed => .ok ?_
      rw [list_eq_ok_iff] at found found'
      exact twins.setItems pairing target found found' renamed sourceRenamed.items

theorem Twins.copyValues {values values' : List Value} (pairing : Pairing R) (twins : Twins R heap heap')
    (same : R h h') (alike : List.Forall₂ (Value.Renamed R) values values') (i : Nat) :
    Alike R Eq (copyValues h (values.zipIdx i) heap) (copyValues h' (values'.zipIdx i) heap') := by
  induction alike generalizing heap heap' i with
  | nil => exact .ok rfl twins
  | @cons v v' rest rest' value _ ih =>
    rw [List.zipIdx_cons,List.zipIdx_cons,Heap.copyValues,Heap.copyValues]
    have copied := twins.copyValue pairing same value i
    generalize Heap.copyValue h (v,i) heap = a at copied ⊢
    generalize Heap.copyValue h' (v',i) heap' = a' at copied ⊢
    cases copied with
    | error failed => exact .error failed twins
    | ok twins => exact ih twins (i + 1)

/-- Copies are filled alike. -/
theorem Twins.copyInto (pairing : Pairing R) (twins : Twins R heap heap') (same : R h h') (source : o.Renamed R o') :
    Alike R Eq (copyInto h o heap) (copyInto h' o' heap') := by
  unfold Heap.copyInto
  have copied := twins.copyValues pairing same source.values 0
  generalize Heap.copyValues h _ heap = y at copied ⊢
  generalize Heap.copyValues h' _ heap' = y' at copied ⊢
  cases copied with
  | error failed left => exact .error failed left
  | @ok _ _ last last' _ left =>
    have objects := left.object pairing same
    dsimp only
    generalize found : last.object h = x at objects ⊢
    generalize found' : last'.object h' = x' at objects ⊢
    cases objects with
    | error failed => exact .error failed left
    | ok renamed =>
      rw [object_eq_ok_iff] at found found'
      refine .ok rfl (left.putObject pairing same found found' ⟨renamed.cls,?_,source.initialised⟩)
      exact forall₂_zipWith renamed.fields source.fields fun _ _ _ _ field given => ⟨field.value,given.isSet⟩

/-- Filling a copy takes no slot away. -/
theorem size_fill (p : Package) (settings : HeapSettings) (c : ClassId) (heap : Heap) (o : ObjectData) :
    (create p settings c heap).2.slots.size ≤
      (match create p settings c heap with
        | (.error e,heap) => ((.error e,heap) : Except Error Handle × Heap)
        | (.ok made,heap) =>
          match heap.copyInto made o with
          | (.ok (),heap) => (.ok made,heap)
          | (.error e,heap) => (.error e,heap)).2.slots.size := by
  generalize create p settings c heap = y
  obtain ⟨e | made,next⟩ := y
  · exact Nat.le_refl _
  · exact Nat.le_trans (copyInto_evolves settings made o next).size_le (size_made made _)

include limits in
/-- When the handles issued on the way are paired, paired objects are copied alike. -/
theorem Twins.copy (built : p.Built) (pairing : Pairing R) (twins : Twins R heap heap') (sound : heap.Sound)
    (sound' : heap'.Sound) (same : R h h') (few : (copy p settings h heap).2.slots.size < 2 ^ 32)
    (few' : (copy p settings' h' heap').2.slots.size < 2 ^ 32)
    (paired : Paired R (heap.lives p settings (.copy h)) (heap'.lives p settings' (.copy h'))) :
    Lockstep R R (copy p settings h heap) (heap.lives p settings (.copy h)) (copy p settings' h' heap')
      (heap'.lives p settings' (.copy h')) := by
  simp only [Heap.copy,lives] at few few' paired ⊢
  have objects := twins.object pairing same
  generalize heap.object h = x at objects few paired ⊢
  generalize heap'.object h' = x' at objects few' paired ⊢
  cases objects with
  | error failed => exact ⟨.error failed twins,rfl⟩
  | @ok o o' renamed =>
    dsimp only at few few' paired ⊢
    rw [← renamed.cls] at few' paired ⊢
    have fewCreated := Nat.lt_of_le_of_lt (size_fill p settings o.cls heap o) few
    have fewCreated' := Nat.lt_of_le_of_lt (size_fill p settings' o.cls heap' o') few'
    have created := twins.create limits built pairing sound sound' o.cls fewCreated fewCreated' paired
    generalize Heap.create p settings o.cls heap = y at created ⊢
    generalize Heap.create p settings' o.cls heap' = y' at created ⊢
    obtain ⟨alike,issued⟩ := created
    cases alike with
    | error failed left => exact ⟨.error failed left,issued⟩
    | @ok made made' last last' sameMade left =>
      have filled := left.copyInto pairing sameMade renamed
      dsimp only
      generalize Heap.copyInto made o last = z at filled ⊢
      generalize Heap.copyInto made' o' last' = z' at filled ⊢
      cases filled with
      | ok _ full => exact ⟨.ok sameMade full,issued⟩
      | error failed full => exact ⟨.error failed full,issued⟩

/-! ### Calls -/

theorem Twins.commit {operation operation' : Heap → Except Error Heap} (twins : Twins R heap heap')
    (alike : Matches (Error.Renamed R) (Twins R) (operation heap) (operation' heap')) :
    Alike R Eq (Heap.commit operation heap) (Heap.commit operation' heap') := by
  unfold Heap.commit
  generalize operation heap = x at alike ⊢
  generalize operation' heap' = x' at alike ⊢
  cases alike with
  | ok left => exact .ok rfl left
  | error failed => exact .error failed twins

include limits in
theorem Twins.createList (pairing : Pairing R) (twins : Twins R heap heap') (sound : heap.Sound)
    (sound' : heap'.Sound) (c : ClassId)
    (few : (Heap.commitWith (createList p settings c) heap).2.slots.size < 2 ^ 32)
    (few' : (Heap.commitWith (createList p settings' c) heap').2.slots.size < 2 ^ 32)
    (paired : Paired R (heap.lives p settings (.createList c)) (heap'.lives p settings' (.createList c))) :
    Lockstep R R (Heap.commitWith (createList p settings c) heap) (heap.lives p settings (.createList c))
      (Heap.commitWith (createList p settings' c) heap') (heap'.lives p settings' (.createList c)) := by
  have made : Matches (Error.Renamed R) (fun _ _ => True) (Heap.createList p settings c heap)
      (Heap.createList p settings' c heap') :=
    (require_renamed c).bind fun _ _ _ _ _ => twins.alloc limits _ _
  simp only [Heap.commitWith,lives] at few few' paired ⊢
  generalize created : Heap.createList p settings c heap = x at made few paired ⊢
  generalize created' : Heap.createList p settings' c heap' = x' at made few' paired ⊢
  cases made with
  | error failed => exact ⟨.error failed twins,rfl⟩
  | @ok a a' _ =>
    obtain ⟨list,next⟩ := a
    obtain ⟨list',next'⟩ := a'
    dsimp only at few few' paired ⊢
    obtain ⟨same,-⟩ := paired_cons.mp paired
    have grown := twins.grow pairing sound sound' (createList_eq_ok created).2 (createList_eq_ok created').2 few few' same
      (.list ⟨rfl,.nil,.none⟩)
    exact ⟨.ok same grown,rfl⟩

include limits in
/-- A call on one heap and the renamed call on its twin come to the same. -/
theorem Twins.respond {c c' : Call Value} (built : p.Built) (pairing : Pairing R) (twins : Twins R heap heap')
    (sound : heap.Sound) (sound' : heap'.Sound) (renamed : c.Renamed R c')
    (few : (heap.respond p settings c).2.slots.size < 2 ^ 32)
    (few' : (heap'.respond p settings' c').2.slots.size < 2 ^ 32)
    (paired : Paired R (heap.lives p settings c) (heap'.lives p settings' c')) :
    Lockstep R (c.SameReply R c') (heap.respond p settings c) (heap.lives p settings c)
      (heap'.respond p settings' c') (heap'.lives p settings' c') := by
  cases renamed with
  | create c => exact twins.create limits built pairing sound sound' c few few' paired
  | copy same => exact twins.copy limits built pairing sound sound' same few few' paired
  | createList c => exact twins.createList limits pairing sound sound' c few few' paired
  | @destroy h h' same =>
    refine ⟨twins.commit (twins.destroy pairing same),?_⟩
    rw [issuedIn_destroy,issuedIn_destroy]
  | upcast same => exact ⟨.of_matches ((twins.object pairing same).map fun _ _ _ => same) twins,rfl⟩
  | initialise same => exact ⟨twins.commit (twins.initialise pairing same),rfl⟩
  | classOf same => exact ⟨.of_matches ((twins.object pairing same).map fun _ _ renamed => renamed.cls) twins,rfl⟩
  | get f resolve same => exact ⟨.of_matches (twins.get pairing f same) twins,rfl⟩
  | set f same value => exact ⟨twins.commit (twins.set pairing f same value),rfl⟩
  | isSet f same => exact ⟨.of_matches (twins.isSet pairing f same) twins,rfl⟩
  | unset f same => exact ⟨twins.unset pairing built f same,rfl⟩
  | listSize same => exact ⟨.of_matches (twins.listSize pairing same) twins,rfl⟩
  | listAt i same => exact ⟨.of_matches (twins.listAt pairing i same) twins,rfl⟩
  | pushBack same element => exact ⟨twins.commit (twins.pushBack pairing same element),rfl⟩
  | insertAt i same element => exact ⟨twins.commit (twins.insertAt pairing i same element),rfl⟩
  | insertAll same other => exact ⟨twins.commit (twins.insertAll pairing same other),rfl⟩
  | clear same => exact ⟨twins.commit (twins.clear pairing same),rfl⟩

end HandleBridge.Heap
