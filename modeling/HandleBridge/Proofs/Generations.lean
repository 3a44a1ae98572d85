import HandleBridge.Proofs.Evolution

/-!
How long the generations of a slot last. Creating and destroying an object over and over goes through the
generations of one slot in order, and after 2^32 - 1 of them they begin anew.
-/

namespace HandleBridge

/-- Generation of a slot that was freed that often. -/
def generationAfter : Nat → UInt32
  | 0 => 1
  | n + 1 => nextGeneration (generationAfter n)

/-- Generations count the destructions of a slot, from one on and without zero. -/
theorem toNat_generationAfter (n : Nat) : (generationAfter n).toNat = n % (2 ^ 32 - 1) + 1 := by
  induction n with
  | zero => rfl
  | succ n ih =>
    rw [generationAfter,toNat_nextGeneration,ih]
    split <;> omega

/-- The generations begin anew with the one in which a slot is made. -/
theorem generationAfter_all : generationAfter (2 ^ 32 - 1) = 1 :=
  UInt32.toNat_inj.mp (toNat_generationAfter (2 ^ 32 - 1))

namespace Heap

/-- At most the first slot was made, it is free, and it is in the given generation. -/
def Idle (heap : Heap) (g : UInt32) : Prop :=
  heap.live = 0 ∧ (heap.slots = #[] ∧ heap.free = [] ∧ g = 1 ∨ heap.slots = #[⟨g,none⟩] ∧ heap.free = [0])

/-- Slots are reused, one object may be alive, and objects of the class take one slot each. -/
structure OneSlot (p : Package) (settings : HeapSettings) (c : ClassId) (cls : ClassType) : Prop where
  known : p.class? c = some cls
  concrete : cls.isAbstract = false
  plain : ∀ feature ∈ cls.features, feature.kind.isMany = false
  reuse : settings.reuseSlots = true
  room : settings.maxObjects ≠ some 0

/-- The calls that create an object of a class and destroy it, once for each of the handles. -/
def createDestroy (c : ClassId) (handles : List Handle) : List (Call Value) :=
  handles.flatMap fun h => [.create c,.destroy h]

variable {p : Package} {settings : HeapSettings} {heap next : Heap} {h : Handle} {c : ClassId} {cls : ClassType}
  {g : UInt32}

theorem backFeatures_of_plain (p : Package) (settings : HeapSettings) (h : Handle) (heap : Heap)
    (features : List Feature) (plain : ∀ feature ∈ features, feature.kind.isMany = false) :
    backFeatures p settings h features heap = (.ok (),heap) ∧ backFeaturesLives p settings h features heap = [] := by
  induction features with
  | nil => exact ⟨rfl,rfl⟩
  | cons feature rest ih =>
    obtain ⟨single,others⟩ := List.forall_mem_cons.mp plain
    obtain ⟨result,lives⟩ := backFeatures_of_single p settings h heap rest (FeatureKind.isMany_eq_false_iff.mp single)
    rw [result,lives]
    exact ih others

theorem eraseBackings_of_plain (owner : Handle) (heap : Heap) (values : List Value) (plain : ∀ b, .list b ∉ values) :
    values.foldl (eraseBacking owner) heap = heap ∧ valuesLives owner values heap = [] := by
  induction values with
  | nil => exact ⟨rfl,rfl⟩
  | cons value rest ih =>
    have free : ∀ b, value = .list b → ¬ heap.Owns owner b := by
      rintro b rfl
      exact absurd (List.mem_cons_self ..) (plain b)
    obtain ⟨erased,lives⟩ := ih fun b later => plain b (List.mem_cons_of_mem _ later)
    rw [List.foldl_cons,valuesLives,eraseBacking_of_not_owns free,backingLives_of_not_owns free,erased,lives]
    exact ⟨rfl,rfl⟩

/-- A create in an idle heap takes the first slot in its generation. -/
theorem create_of_idle (idle : heap.Idle g) (one : OneSlot p settings c cls) : ∃ next,
    create p settings c heap = (.ok (.ofSlot 0 g),next) ∧ createLives p settings c heap = [.issued (.ofSlot 0 g)] ∧
      next.slots = #[⟨g,some (.object (.fresh cls))⟩] ∧ next.free = [] ∧ next.live = 1 := by
  obtain ⟨live,place⟩ := idle
  have made : heap.alloc settings (.object (.fresh cls)) = .ok (heap.insert true (.object (.fresh cls))) := by
    unfold alloc
    rw [one.reuse,live]
    split
    · rename_i limit bounded
      have positive : limit.toNat ≠ 0 := by
        intro zero
        have none : limit = 0 := UInt64.toNat_inj.mp zero
        exact one.room (none ▸ bounded)
      rw [if_neg (by omega)]
    · rfl
  have inserted : ∃ next, heap.insert true (.object (.fresh cls)) = (.ofSlot 0 g,next) ∧
      next.slots = #[⟨g,some (.object (.fresh cls))⟩] ∧ next.free = [] ∧ next.live = 1 := by
    rcases place with ⟨slots,free,rfl⟩ | ⟨slots,free⟩
    · simp [Arena.insert,slots,free,live]
    · simp [Arena.insert,slots,free,live]
  obtain ⟨next,placed,state⟩ := inserted
  obtain ⟨backed,lives⟩ := backFeatures_of_plain p settings (.ofSlot 0 g) next cls.features one.plain
  refine ⟨next,?_,?_,state⟩
  · simp [create,Package.require_eq_ok_iff.mpr one.known,one.concrete,made,placed,backed]
  · simp [createLives,Package.require_eq_ok_iff.mpr one.known,one.concrete,made,placed,lives]

theorem destroy_of_single (built : p.Built) (member : cls ∈ p.classes)
    (slots : heap.slots = #[⟨g,some (.object (.fresh cls))⟩]) (free : heap.free = []) (live : heap.live = 1) :
    ∃ next, destroy (.ofSlot 0 g) heap = .ok next ∧ discardLives (.ofSlot 0 g) heap = [.freed (.ofSlot 0 g)] ∧
      next.Idle (nextGeneration g) := by
  have names : (Handle.ofSlot 0 g).slot? = some 0 := Handle.slot?_ofSlot 0 g (by decide)
  have generation : (Handle.ofSlot 0 g).generation = g := Handle.generation_ofSlot 0 g (by decide)
  have found : heap.get? (.ofSlot 0 g) = some (.object (.fresh cls)) :=
    Arena.get?_eq_some_iff.mpr ⟨0,names,by rw [slots,generation]; rfl⟩
  have taken : ∃ next, heap.take? (.ofSlot 0 g) = some (.object (.fresh cls),next) ∧ next.Idle (nextGeneration g) := by
    simp [take?,Arena.erase?,found,names,Idle,slots,free,live,generation]
  obtain ⟨next,freed,idle⟩ := taken
  have plain : ∀ b, .list b ∉ (ObjectData.fresh cls).fields.map Field.value := fun b => ClassType.holds_fresh built member
  obtain ⟨erased,lives⟩ := eraseBackings_of_plain (.ofSlot 0 g) next _ plain
  refine ⟨next,?_,?_,idle⟩
  · have looked : heap.find (.ofSlot 0 g) = .ok (.object (.fresh cls)) := find_eq_ok_iff.mpr found
    simp only [destroy,looked,discard,freed,erased]
    rfl
  · simp only [discardLives,freed,lives]

/-- Creating and destroying an object in an idle heap starts the next generation of the first slot. -/
theorem pair_of_idle (built : p.Built) (idle : heap.Idle g) (one : OneSlot p settings c cls) :
    (heap.after p settings [.create c,.destroy (.ofSlot 0 g)]).Idle (nextGeneration g) ∧
      heap.history p settings [.create c,.destroy (.ofSlot 0 g)] =
        [.issued (.ofSlot 0 g),.freed (.ofSlot 0 g)] := by
  obtain ⟨next,created,createLives,slots,free,live⟩ := create_of_idle idle one
  obtain ⟨last,destroyed,discardLives,idleAgain⟩ := destroy_of_single built (Package.class?_mem one.known) slots free live
  have first : heap.respond p settings (.create c) = (.ok (.ofSlot 0 g),next) := created
  have second : (next.respond p settings (.destroy (.ofSlot 0 g))).2 = last := by
    simp [respond,answer,commit,destroyed]
  refine ⟨?_,?_⟩
  · simp only [after,first,second]
    exact idleAgain
  · simp [history,first,lives,createLives,destroyed,discardLives]

/-- Handles of the first slot in its first `n` generations. -/
def firstSlot (n : Nat) : List Handle := (List.range n).map fun k => .ofSlot 0 (generationAfter k)

/-- However often an object is created and destroyed, it is in the first slot, in one generation after another. -/
theorem idle_after_createDestroy (built : p.Built) (one : OneSlot p settings c cls) (n : Nat) :
    (Heap.empty.after p settings (createDestroy c (firstSlot n))).Idle (generationAfter n) ∧
      Heap.empty.history p settings (createDestroy c (firstSlot n)) =
        (firstSlot n).flatMap fun h => [.issued h,.freed h] := by
  induction n with
  | zero => exact ⟨⟨rfl,.inl ⟨rfl,rfl,rfl⟩⟩,rfl⟩
  | succ n ih =>
    obtain ⟨idle,past⟩ := ih
    obtain ⟨idleAgain,recent⟩ := pair_of_idle built idle one
    have grown : firstSlot (n + 1) = firstSlot n ++ [.ofSlot 0 (generationAfter n)] := by
      simp [firstSlot,List.range_succ]
    have longer : createDestroy c (firstSlot (n + 1)) =
        createDestroy c (firstSlot n) ++ [.create c,.destroy (.ofSlot 0 (generationAfter n))] := by
      rw [grown]
      simp [createDestroy]
    rw [longer,after_append,history_append,past,recent,grown]
    exact ⟨idleAgain,by simp⟩

end Heap

end HandleBridge
