import HandleBridge.Proofs.Failures
import HandleBridge.Proofs.Frames
import HandleBridge.Proofs.HeapErrors
import HandleBridge.Proofs.Invariants

/-!
Room in a heap with a limit. It is asked for with every entry in the middle of making an object and its lists, and yet
it comes out exact: an object is made when all of its entries fit, and otherwise nothing is left of it
(`capacity_exact`).
-/

namespace HandleBridge

/-- Entries that an object of the class takes: its own and one for the list behind each many-valued feature. -/
def ClassType.entryCount (cls : ClassType) : Nat := 1 + cls.features.countP (·.kind.isMany)

namespace Heap

variable {p : Package} {settings : HeapSettings} {heap next : Heap} {h : Handle} {o : ObjectData} {cls : ClassType}
  {n : Nat} {e : Error}

/-- Error of a heap whose limit is less than the number of entries. -/
inductive Overflows (settings : HeapSettings) (entries : Nat) : Error → Prop
  | full (limit : UInt64) (bounded : settings.maxObjects = some limit) (short : limit.toNat < entries) :
      Overflows settings entries (.heapExhausted limit)

theorem Overflows.mono {more : Nat} (overflows : Overflows settings n e) (le : n ≤ more) :
    Overflows settings more e := by
  obtain ⟨limit,bounded,short⟩ := overflows
  exact .full limit bounded (Nat.lt_of_lt_of_le short le)

theorem alloc_overflows (settings : HeapSettings) (heap : Heap) (entry : Entry) :
    FailsOnly (Overflows settings (heap.live + 1)) (heap.alloc settings entry) := by
  unfold alloc
  split
  · rename_i limit bounded
    split
    · rename_i full
      exact .error (.full limit bounded (Nat.lt_succ_of_le full))
    · exact .ok _
  · exact .ok _

section
variable {feature : Feature} {rest : List Feature} {target : String} {t : ClassType} {list : Handle}
  (isMany : feature.kind = .reference target true) (named : p.classNamed? target = some t)
include isMany named

/-- When there is no room for a list, the object is given up. -/
theorem backFeatures_of_full (refused : heap.alloc settings (.list ⟨t.id,[],some h⟩) = .error e)
    (found : heap.get? h = some (.object o)) : (backFeatures p settings h (feature :: rest) heap).1 = .error e := by
  simp only [backFeatures,isMany,Package.requireNamed_eq_ok_iff.mpr named,refused]
  cases discarded : heap.discard h with
  | ok next => rfl
  | error e' => cases found.symm.trans (Arena.erase?_eq_none_iff.mp (take?_of_discard_error discarded))

theorem backFeatures_of_alloc (made : heap.alloc settings (.list ⟨t.id,[],some h⟩) = .ok (list,next))
    (kept : next.get? h = some (.object o)) : backFeatures p settings h (feature :: rest) heap =
      backFeatures p settings h rest (next.putObject h (o.setValue feature.id (.list list))) := by
  simp only [backFeatures,isMany,Package.requireNamed_eq_ok_iff.mpr named,made,object_eq_ok_iff.mpr kept]

/-- The slot of a list stays, whether or not the lists after it can be made. -/
theorem size_backFeatures_of_alloc (made : heap.alloc settings (.list ⟨t.id,[],some h⟩) = .ok (list,next)) :
    next.slots.size ≤ (backFeatures p settings h (feature :: rest) heap).2.slots.size := by
  simp only [backFeatures,isMany,Package.requireNamed_eq_ok_iff.mpr named,made]
  cases next.object h with
  | error e => exact Nat.le_refl _
  | ok o => exact Nat.le_trans (Nat.le_of_eq size_put.symm) (size_backFeatures rest _)

end

/-- Making the lists of an object that is there fails only when they do not all fit. -/
theorem backFeatures_overflows (features : List Feature) (proper : ∀ feature ∈ features, feature.Proper p)
    (found : heap.get? h = some (.object o)) (sound : heap.Sound)
    (few : (backFeatures p settings h features heap).2.slots.size < 2 ^ 32) :
    FailsOnly (Overflows settings (heap.live + features.countP (·.kind.isMany)))
      (backFeatures p settings h features heap).1 := by
  induction features generalizing heap o with
  | nil => exact .ok _
  | cons feature rest ih =>
    obtain ⟨own,others⟩ := List.forall_mem_cons.mp proper
    by_cases many : ∃ target, feature.kind = .reference target true
    · obtain ⟨target,isMany⟩ := many
      simp only [Feature.Proper,isMany] at own
      obtain ⟨-,t,named⟩ := own
      have wanted : (feature :: rest).countP (·.kind.isMany) = rest.countP (·.kind.isMany) + 1 := by
        simp [isMany,FeatureKind.isMany]
      rw [wanted]
      cases made : heap.alloc settings (.list ⟨t.id,[],some h⟩) with
      | error e =>
        have full := alloc_overflows settings heap _ e made
        rw [backFeatures_of_full isMany named made found]
        exact .error (full.mono (by omega))
      | ok result =>
        obtain ⟨list,next⟩ := result
        have fewNext := Nat.lt_of_le_of_lt (size_backFeatures_of_alloc isMany named made) few
        obtain ⟨vacant,view⟩ := get?_alloc sound made fewNext
        have kept : next.get? h = some (.object o) := kept_of_update view found (by simp [vacant])
        rw [backFeatures_of_alloc isMany named made kept] at few ⊢
        intro e failed
        have overflows := ih others (get?_putObject_self kept _) (sound_alloc sound made fewNext).set few e failed
        have live : (next.putObject h (o.setValue feature.id (.list list))).live = heap.live + 1 :=
          Arena.live_set.trans (live_alloc made)
        exact overflows.mono (by omega)
    · have single : ∀ target, feature.kind ≠ .reference target true := fun target isMany => many ⟨target,isMany⟩
      have unwanted : (feature :: rest).countP (·.kind.isMany) = rest.countP (·.kind.isMany) := by
        simp [FeatureKind.isMany_eq_false_iff.mpr single]
      rw [unwanted]
      rw [(backFeatures_of_single p settings h heap rest single).1] at few ⊢
      exact ih others found sound few

/-- An object of a concrete class is made unless its entries do not all fit. -/
theorem create_overflows {c : ClassId} (built : p.Built) (sound : heap.Sound) (known : p.class? c = some cls)
    (concrete : cls.isAbstract = false) (few : (create p settings c heap).2.slots.size < 2 ^ 32) :
    FailsOnly (Overflows settings (heap.live + cls.entryCount)) (create p settings c heap).1 := by
  have required : p.require c = .ok cls := Package.require_eq_ok_iff.mpr known
  have full := alloc_overflows settings heap (.object (.fresh cls))
  simp only [create,required,concrete,Bool.false_eq_true,if_false] at few ⊢
  unfold ClassType.entryCount
  cases allocated : heap.alloc settings (.object (.fresh cls)) with
  | error e => exact .error ((full e allocated).mono (by omega))
  | ok result =>
    obtain ⟨made,next⟩ := result
    simp only [allocated] at few ⊢
    have fewBacked : (backFeatures p settings made cls.features next).2.slots.size < 2 ^ 32 := by
      generalize backFeatures p settings made cls.features next = backed at few ⊢
      obtain ⟨result,last⟩ := backed
      cases result <;> exact few
    have fewNext := Nat.lt_of_le_of_lt (size_backFeatures cls.features next) fewBacked
    have there : next.get? made = some (.object (.fresh cls)) := by simp [(get?_alloc sound allocated fewNext).2]
    have proper : ∀ feature ∈ cls.features, feature.Proper p :=
      fun feature row => built.proper (Package.class?_mem known) row
    have backs := backFeatures_overflows cls.features proper there (sound_alloc sound allocated fewNext) fewBacked
    have live : next.live = heap.live + 1 := live_alloc allocated
    generalize backFeatures p settings made cls.features next = backed at backs ⊢
    obtain ⟨result,last⟩ := backed
    cases result with
    | ok => exact .ok _
    | error e => exact .error ((backs e rfl).mono (by omega))

/-- An object is copied whenever another one of its class can be made, and the copy needs no fewer slots. -/
theorem copy_of_create (built : p.Built) (addressable : p.Addressable) (wellFormed : WellFormed p heap)
    (sound : heap.Sound) (found : heap.get? h = some (.object o))
    (few : (copy p settings h heap).2.slots.size < 2 ^ 32) :
    (copy p settings h heap).1 = (create p settings o.cls heap).1 ∧
      (create p settings o.cls heap).2.slots.size < 2 ^ 32 := by
  have done := copy_cases p settings h heap
  generalize copy p settings h heap = result at done few ⊢
  generalize heap.lives p settings (.copy h) = lives at done
  cases done with
  | refused e absent =>
    rw [object_eq_ok_iff.mpr found] at absent
    cases absent
  | failed other e next there created =>
    cases found.symm.trans there
    rw [created]
    exact ⟨rfl,few⟩
  | made other made next there created =>
    cases found.symm.trans there
    have fewNext := Nat.lt_of_le_of_lt (copyInto_evolves settings made o next).size_le few
    obtain ⟨-,filling⟩ := filling_of_create built addressable wellFormed sound found created fewNext
    obtain ⟨last,filled,-⟩ := copyInto_spec filling built addressable
    rw [filled,created]
    exact ⟨rfl,fewNext⟩

theorem Evolves.counted_issued {made : List Handle} (evolves : Evolves settings (made.map .issued) heap next) :
    next.created = heap.created + made.length ∧ next.destroyed = heap.destroyed := by
  simpa [List.countP_map,Function.comp_def,Life.begins] using evolves.counted

/-- Lists that are all made are made for one feature each, and none is given up. -/
theorem backFeaturesLives_of_ok (features : List Feature) (heap : Heap)
    (done : (backFeatures p settings h features heap).1 = .ok ()) :
    ∃ made : List Handle, backFeaturesLives p settings h features heap = made.map .issued ∧
      made.length = features.countP (·.kind.isMany) := by
  induction features generalizing heap with
  | nil => exact ⟨[],rfl,rfl⟩
  | cons feature rest ih =>
    have step := backFeatures_cons p settings h heap feature rest
    generalize backFeatures p settings h (feature :: rest) heap = result at step done
    generalize backFeaturesLives p settings h (feature :: rest) heap = lives at step ⊢
    cases step with
    | plain single =>
      obtain ⟨made,all,count⟩ := ih heap done
      exact ⟨made,all,by simp [count,FeatureKind.isMany_eq_false_iff.mpr single]⟩
    | unknown target e isMany missing => cases done
    | full e next discarded => cases done
    | absent e dead => cases done
    | lost target t list next e made gone => cases done
    | backed target t list next o isMany named allocated found =>
      obtain ⟨made,all,count⟩ := ih _ done
      exact ⟨list :: made,by rw [all,List.map_cons],by simp [count,isMany,FeatureKind.isMany]⟩

theorem createLives_of_ok {c : ClassId} (known : p.class? c = some cls) (done : (create p settings c heap).1 = .ok h) :
    ∃ made : List Handle, createLives p settings c heap = made.map .issued ∧ made.length = cls.entryCount := by
  have steps := create_cases p settings c heap
  generalize create p settings c heap = result at steps done
  generalize createLives p settings c heap = lives at steps ⊢
  cases steps with
  | refused e => cases done
  | made other object next known' concrete allocated =>
    cases known.symm.trans known'
    obtain ⟨⟨⟩,backed,-⟩ := map_eq_ok_iff.mp done
    obtain ⟨made,all,count⟩ := backFeaturesLives_of_ok cls.features next backed
    refine ⟨object :: made,by rw [all,List.map_cons],?_⟩
    rw [List.length_cons,count,ClassType.entryCount,Nat.add_comm]

/-! ### Exactness -/

/-- What making `n` entries comes to: all of them are made if they fit, and otherwise nothing is left of them. -/
structure Takes (p : Package) (settings : HeapSettings) (heap : Heap) (n : Nat) (result : Except Error Handle × Heap) :
    Prop where
  succeeds : (∃ h, result.1 = .ok h) ↔ ∀ limit, settings.maxObjects = some limit → heap.live + n ≤ limit.toNat
  unlimited : settings.maxObjects = none → ∃ h, result.1 = .ok h
  taken : ∀ h, result.1 = .ok h →
    result.2.live = heap.live + n ∧ result.2.created = heap.created + n ∧ result.2.destroyed = heap.destroyed
  refused : ∀ e, result.1 = .error e → (∃ limit, settings.maxObjects = some limit ∧ e = .heapExhausted limit) ∧
    Unchanged p settings heap result.2

/-- Steps that only make entries, as many as there is room for, or that leave every handle as it is. -/
theorem takes_of_evolves {result : Except Error Handle × Heap} {lives : List Life} (sound : heap.Sound)
    (within : ∀ limit, settings.maxObjects = some limit → heap.live ≤ limit.toNat)
    (few : result.2.slots.size < 2 ^ 32) (evolves : Evolves settings lives heap result.2)
    (makes : ∀ h, result.1 = .ok h → ∃ made : List Handle, lives = made.map .issued ∧ made.length = n)
    (overflows : FailsOnly (Overflows settings (heap.live + n)) result.1)
    (same : ∀ e, result.1 = .error e → ∀ k, result.2.get? k = heap.get? k) : Takes p settings heap n result := by
  have steady := evolves.sound sound few
  have taken : ∀ h, result.1 = .ok h → result.2.live = heap.live + n ∧
      result.2.created = heap.created + n ∧ result.2.destroyed = heap.destroyed := by
    intro h done
    obtain ⟨made,rfl,rfl⟩ := makes h done
    obtain ⟨created,destroyed⟩ := evolves.counted_issued
    have balance := sound.balance
    have balanceNow := steady.balance
    exact ⟨by omega,created,destroyed⟩
  have fits : (∀ limit, settings.maxObjects = some limit → heap.live + n ≤ limit.toNat) → ∃ h, result.1 = .ok h := by
    intro room
    cases failed : result.1 with
    | ok h => exact ⟨h,rfl⟩
    | error e =>
      obtain ⟨limit,bounded,short⟩ := overflows e failed
      exact absurd (room limit bounded) (Nat.not_le_of_lt short)
  refine ⟨⟨?_,fits⟩,?_,taken,?_⟩
  · rintro ⟨h,done⟩ limit bounded
    have bound := evolves.live_le bounded (within limit bounded)
    rwa [(taken h done).1] at bound
  · intro unbounded
    refine fits fun limit bounded => ?_
    cases unbounded.symm.trans bounded
  · intro e failed
    refine ⟨?_,.of_same (same e failed) sound steady evolves.destroyed_le⟩
    obtain ⟨limit,bounded,-⟩ := overflows e failed
    exact ⟨limit,bounded,rfl⟩

section
variable (built : p.Built) (addressable : p.Addressable) (wellFormed : WellFormed p heap) (sound : heap.Sound)
  (within : ∀ limit, settings.maxObjects = some limit → heap.live ≤ limit.toNat)
include built addressable wellFormed sound within

theorem create_takes {c : ClassId} (known : p.class? c = some cls) (concrete : cls.isAbstract = false)
    (few : (heap.respond p settings (.create c)).2.slots.size < 2 ^ 32) :
    Takes p settings heap cls.entryCount (heap.respond p settings (.create c)) :=
  takes_of_evolves sound within few (respond_evolves built sound (.create c) few)
    (fun _ done => createLives_of_ok known done) (create_overflows built sound known concrete few)
    fun _ failed => same_of_error built addressable wellFormed sound few failed

theorem copy_takes (found : heap.get? h = some (.object o)) (known : p.class? o.cls = some cls)
    (few : (heap.respond p settings (.copy h)).2.slots.size < 2 ^ 32) :
    Takes p settings heap cls.entryCount (heap.respond p settings (.copy h)) := by
  obtain ⟨answer,fewCreated⟩ := copy_of_create built addressable wellFormed sound found few
  have lives : heap.lives p settings (.copy h) = createLives p settings o.cls heap := by
    simp only [Heap.lives,object_eq_ok_iff.mpr found]
  obtain ⟨other,object⟩ := wellFormed.objects h o found
  cases known.symm.trans object.known
  refine takes_of_evolves sound within few (respond_evolves built sound (.copy h) few) ?_ ?_
    fun _ failed => same_of_error built addressable wellFormed sound few failed
  · intro made done
    rw [lives]
    exact createLives_of_ok known (answer.symm.trans done)
  · exact answer ▸ create_overflows built sound known object.concrete fewCreated

theorem createList_takes {c : ClassId} (known : p.class? c = some cls)
    (few : (heap.respond p settings (.createList c)).2.slots.size < 2 ^ 32) :
    Takes p settings heap 1 (heap.respond p settings (.createList c)) := by
  have allocates : createList p settings c heap = heap.alloc settings (.list ⟨c,[],none⟩) := by
    rw [createList,Package.require_eq_ok_iff.mpr known]
    rfl
  have answer : (heap.respond p settings (.createList c)).1 = (createList p settings c heap).map Prod.fst := by
    simp only [respond,answer,commitWith]
    cases createList p settings c heap <;> rfl
  refine takes_of_evolves sound within few (respond_evolves built sound (.createList c) few) ?_ ?_
    fun _ failed => same_of_error built addressable wellFormed sound few failed
  · intro h done
    obtain ⟨⟨made,next⟩,created,-⟩ := map_eq_ok_iff.mp (answer.symm.trans done)
    exact ⟨[made],by simp only [Heap.lives,created,List.map_cons,List.map_nil],rfl⟩
  · rw [answer,allocates]
    exact (alloc_overflows settings heap _).map

end

/-- After every run, making and copying objects and making lists succeed exactly when their entries fit, and count as
many. When they do not fit, everything is as before. The slots that are made on the way need their handles too. -/
theorem capacity_exact (built : p.Built) (addressable : p.Addressable) (settings : HeapSettings)
    (calls : List (Call Value)) :
    (∀ c cls, p.class? c = some cls → cls.isAbstract = false →
      ((Heap.empty.after p settings calls).respond p settings (.create c)).2.slots.size < 2 ^ 32 →
      Takes p settings (Heap.empty.after p settings calls) cls.entryCount
        ((Heap.empty.after p settings calls).respond p settings (.create c))) ∧
    (∀ h o cls, (Heap.empty.after p settings calls).get? h = some (.object o) → p.class? o.cls = some cls →
      ((Heap.empty.after p settings calls).respond p settings (.copy h)).2.slots.size < 2 ^ 32 →
      Takes p settings (Heap.empty.after p settings calls) cls.entryCount
        ((Heap.empty.after p settings calls).respond p settings (.copy h))) ∧
    ∀ c cls, p.class? c = some cls →
      ((Heap.empty.after p settings calls).respond p settings (.createList c)).2.slots.size < 2 ^ 32 →
      Takes p settings (Heap.empty.after p settings calls) 1
        ((Heap.empty.after p settings calls).respond p settings (.createList c)) := by
  have ready : ∀ c, ((Heap.empty.after p settings calls).respond p settings c).2.slots.size < 2 ^ 32 →
      WellFormed p (Heap.empty.after p settings calls) ∧ (Heap.empty.after p settings calls).Sound ∧
        Accounted settings (Heap.empty.after p settings calls) := by
    intro c few
    have fewBefore := Nat.lt_of_le_of_lt (size_respond built settings _ c) few
    exact ⟨wellFormed_after built addressable .empty sound_empty fewBefore,sound_after built calls fewBefore,
      accounted_after built fewBefore⟩
  refine ⟨?_,?_,?_⟩
  · intro c cls known concrete few
    obtain ⟨wellFormed,sound,accounted⟩ := ready _ few
    exact create_takes built addressable wellFormed sound accounted.room known concrete few
  · intro h o cls found known few
    obtain ⟨wellFormed,sound,accounted⟩ := ready _ few
    exact copy_takes built addressable wellFormed sound accounted.room found known few
  · intro c cls known few
    obtain ⟨wellFormed,sound,accounted⟩ := ready _ few
    exact createList_takes built addressable wellFormed sound accounted.room known few

/-- Two nodes, each with its list, in a heap with room for one more entry. -/
def crowded : Heap := Heap.empty.after forest { maxObjects := some 5 } [.create ⟨1⟩,.create ⟨1⟩]

/-- There is room for a tag or a list, but not for a node or the copy of one. -/
theorem capacity_exact_crowded :
    Takes forest { maxObjects := some 5 } crowded 2 (crowded.respond forest { maxObjects := some 5 } (.create ⟨1⟩)) ∧
      Takes forest { maxObjects := some 5 } crowded 2
        (crowded.respond forest { maxObjects := some 5 } (.copy (.ofSlot 0 1))) ∧
      Takes forest { maxObjects := some 5 } crowded 1
        (crowded.respond forest { maxObjects := some 5 } (.createList ⟨1⟩)) ∧
      (crowded.respond forest { maxObjects := some 5 } (.create ⟨1⟩)).1 = .error (.heapExhausted 5) ∧
      (crowded.respond forest { maxObjects := some 5 } (.create ⟨0⟩)).1 = .ok (.ofSlot 4 1) := by
  obtain ⟨creates,copies,lists⟩ :=
    capacity_exact forest_built forest_addressable { maxObjects := some 5 } [.create ⟨1⟩,.create ⟨1⟩]
  have node := creates ⟨1⟩ _ rfl rfl (by decide)
  have copied := copies (.ofSlot 0 1) _ _ rfl rfl (by decide)
  exact ⟨node,copied,lists ⟨1⟩ _ rfl (by decide),rfl,rfl⟩

end Heap

end HandleBridge
