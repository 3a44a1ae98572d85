import HandleBridge.Proofs.Evolution

/-!
Which handles are alive, told from the history of a run alone. Slots are used again, but as long as no slot was freed
so often that its generations came round, every handle is issued once and is live from then until it is freed. The
invariant behind this is `Chronicled`: the generation of a slot counts how often it was freed.
-/

namespace HandleBridge

/-- Handles that the allocations of a history yielded, in order. -/
def issuedIn (log : List Life) : List Handle :=
  log.filterMap fun
    | .issued h => some h
    | .freed _ => none

def timesFreed (i : Nat) (log : List Life) : Nat :=
  log.countP fun
    | .issued _ => false
    | .freed h => h.slot? = some i

/-- Some allocation yielded the handle, and it was not freed since. -/
def Standing (log : List Life) (h : Handle) : Prop :=
  ∃ before after, log = before ++ .issued h :: after ∧ .freed h ∉ after

section
variable {log : List Life} {h k : Handle} {i : Nat}

@[simp] theorem issuedIn_append_issued : issuedIn (log ++ [.issued h]) = issuedIn log ++ [h] := by
  simp [issuedIn]

@[simp] theorem issuedIn_append_freed : issuedIn (log ++ [.freed h]) = issuedIn log := by
  simp [issuedIn]

@[simp] theorem timesFreed_append_issued : timesFreed i (log ++ [.issued h]) = timesFreed i log := by
  simp [timesFreed]

@[simp] theorem timesFreed_append_freed :
    timesFreed i (log ++ [.freed h]) = timesFreed i log + if h.slot? = some i then 1 else 0 := by
  simp [timesFreed,List.countP_cons]

theorem timesFreed_le_append (more : List Life) : timesFreed i log ≤ timesFreed i (log ++ more) := by
  simp [timesFreed]

theorem standing_append_issued : Standing (log ++ [.issued k]) h ↔ h = k ∨ Standing log h := by
  constructor
  · rintro ⟨before,after,split,kept⟩
    rcases List.eq_nil_or_concat after with rfl | ⟨rest,last,rfl⟩
    · have ends := (List.append_inj' split rfl).2
      simp only [List.cons.injEq,Life.issued.injEq,and_true] at ends
      exact .inl ends.symm
    · rw [List.concat_eq_append] at split kept
      rw [← List.cons_append,← List.append_assoc] at split
      obtain ⟨same,-⟩ := List.append_inj' split rfl
      exact .inr ⟨before,rest,same,fun freed => kept (List.mem_append_left _ freed)⟩
  · rintro (rfl | ⟨before,after,rfl,kept⟩)
    · exact ⟨log,[],rfl,by simp⟩
    · exact ⟨before,after ++ [.issued k],by simp,by simpa using kept⟩

theorem standing_append_freed : Standing (log ++ [.freed k]) h ↔ Standing log h ∧ h ≠ k := by
  constructor
  · rintro ⟨before,after,split,kept⟩
    rcases List.eq_nil_or_concat after with rfl | ⟨rest,last,rfl⟩
    · have ends := (List.append_inj' split rfl).2
      simp at ends
    · rw [List.concat_eq_append] at split kept
      rw [← List.cons_append,← List.append_assoc] at split
      obtain ⟨same,ends⟩ := List.append_inj' split rfl
      simp only [List.cons.injEq,and_true] at ends
      subst ends
      refine ⟨⟨before,rest,same,fun freed => kept (List.mem_append_left _ freed)⟩,?_⟩
      rintro rfl
      simp at kept
  · rintro ⟨⟨before,after,rfl,kept⟩,other⟩
    exact ⟨before,after ++ [.freed k],by simp,by simpa [other] using kept⟩

/-- A handle that is no longer standing was freed. -/
theorem Standing.freed_of_not {lives : List Life} (standing : Standing log h) (ended : ¬ Standing (log ++ lives) h) :
    .freed h ∈ lives := by
  obtain ⟨before,after,rfl,kept⟩ := standing
  by_cases freed : .freed h ∈ lives
  · exact freed
  · refine absurd ⟨before,after ++ lives,by simp,?_⟩ ended
    simp [kept,freed]

end

namespace Heap

/-- What a heap has of its history, while no generation came round: the generation of a slot counts how often it was
freed, a handle that was issued is of the current generation while it is live and of an earlier one afterwards. -/
structure Chronicled (heap : Heap) (log : List Life) : Prop where
  current : ∀ i, (heap.current i).toNat = timesFreed i log + 1
  issued : ∀ h ∈ issuedIn log, ∃ i, h.slot? = some i ∧
    (h.generation.toNat < (heap.current i).toNat ∨ h.generation = heap.current i ∧ heap.holds i = true)
  freed : ∀ h, .freed h ∈ log → ∃ i, h.slot? = some i ∧ h.generation.toNat < (heap.current i).toNat
  distinct : (issuedIn log).Nodup
  standing : ∀ h, heap.isLive h = true ↔ Standing log h

theorem chronicled_empty : Chronicled .empty [] where
  current i := by simp [empty,Arena.current,timesFreed]
  issued h member := by simp [issuedIn] at member
  freed h member := by simp at member
  distinct := List.nodup_nil
  standing h := by simp [empty,Arena.isLive,Arena.get?,Standing]

namespace Chronicled

variable {settings : HeapSettings} {heap next : Heap} {h : Handle} {entry : Entry} {log : List Life}

/-- What was freed never comes back. -/
theorem not_live_of_freed (chronicled : heap.Chronicled log) (member : .freed h ∈ log) : heap.isLive h = false := by
  obtain ⟨i,names,earlier⟩ := chronicled.freed h member
  rw [Arena.isLive_false_iff]
  cases found : heap.get? h with
  | none => rfl
  | some entry =>
    rw [Arena.current_of_get? found names] at earlier
    omega

/-- Null names no slot, so it is never issued. -/
theorem null_not_issued (chronicled : heap.Chronicled log) : Handle.null ∉ issuedIn log := by
  intro member
  obtain ⟨i,names,-⟩ := chronicled.issued _ member
  rw [Handle.slot?_null] at names
  cases names

theorem put (chronicled : heap.Chronicled log) : (heap.put h entry).Chronicled log where
  current i := by rw [Heap.put,Arena.current_set,chronicled.current]
  issued k member := by simpa only [Heap.put,Arena.current_set,Arena.holds_set] using chronicled.issued k member
  freed k member := by simpa only [Heap.put,Arena.current_set] using chronicled.freed k member
  distinct := chronicled.distinct
  standing k := by rw [Heap.put,Arena.isLive_set,chronicled.standing]

/-- An allocation issues a new handle: those issued before for its slot are of earlier generations. -/
theorem alloc (chronicled : heap.Chronicled log) (sound : heap.Sound)
    (made : heap.alloc settings entry = .ok (h,next)) (few : next.slots.size < 2 ^ 32) :
    next.Chronicled (log ++ [.issued h]) := by
  obtain ⟨i,names,now,vacant,current,holds⟩ := sound.insert_current (alloc_eq_ok made).1 few
  -- The slot was free, and a handle issued for a free slot is of a generation that is over.
  have fresh : h ∉ issuedIn log := by
    intro member
    obtain ⟨j,named,earlier | ⟨-,occupied⟩⟩ := chronicled.issued h member
    · cases names.symm.trans named
      rw [now] at earlier
      omega
    · cases names.symm.trans named
      simp [vacant] at occupied
  refine ⟨?_,?_,?_,?_,?_⟩
  · intro j
    rw [current,chronicled.current,timesFreed_append_issued]
  · intro k member
    rw [issuedIn_append_issued,List.mem_append,List.mem_singleton] at member
    rcases member with old | rfl
    · obtain ⟨j,named,earlier | ⟨same,occupied⟩⟩ := chronicled.issued k old
      · exact ⟨j,named,.inl (by rwa [current])⟩
      · refine ⟨j,named,.inr ⟨by rwa [current],?_⟩⟩
        rw [holds]
        split
        · rfl
        · exact occupied
    · exact ⟨i,names,.inr ⟨by rw [current,now],by rw [holds,if_pos rfl]⟩⟩
  · intro k member
    have old : .freed k ∈ log := by simpa using member
    obtain ⟨j,named,earlier⟩ := chronicled.freed k old
    exact ⟨j,named,by rwa [current]⟩
  · rw [issuedIn_append_issued]
    refine List.nodup_append.mpr ⟨chronicled.distinct,by simp,?_⟩
    intro k old other new
    rw [List.mem_singleton.mp new]
    rintro rfl
    exact fresh old
  · intro k
    obtain ⟨-,bindings⟩ := get?_alloc sound made few
    rw [standing_append_issued,← chronicled.standing,Arena.isLive,bindings]
    by_cases same : k = h
    · simp [same]
    · simp [same,Arena.isLive]

/-- Freeing starts the next generation, unless the generations of the slot came round. -/
theorem take? (chronicled : heap.Chronicled log) (freed : heap.take? h = some (entry,next))
    (seldom : ∀ i, timesFreed i (log ++ [.freed h]) ≤ 2 ^ 32 - 2) : next.Chronicled (log ++ [.freed h]) := by
  obtain ⟨i,names,current,holds⟩ := Arena.erase?_current freed
  have now := Arena.current_of_get? (found_of_take? freed) names
  have count := chronicled.current i
  have bound := seldom i
  rw [timesFreed_append_freed,if_pos names] at bound
  -- Here the bound is needed: the generation after the last one is the first one again.
  have successor : (nextGeneration h.generation).toNat = (heap.current i).toNat + 1 := by
    rw [toNat_nextGeneration,← now,if_pos (by omega)]
  have grows : ∀ j, (heap.current j).toNat ≤ (next.current j).toNat := by
    intro j
    rw [current]
    split
    · rename_i same
      rw [same,successor]
      omega
    · exact Nat.le_refl _
  refine ⟨?_,?_,?_,?_,?_⟩
  · intro j
    rw [current,timesFreed_append_freed,names]
    by_cases same : j = i
    · rw [same,if_pos rfl,if_pos rfl,successor,count]
    · rw [if_neg same,if_neg (by simpa using Ne.symm same),chronicled.current]
  · intro k member
    rw [issuedIn_append_freed] at member
    obtain ⟨j,named,earlier | ⟨same,occupied⟩⟩ := chronicled.issued k member
    · exact ⟨j,named,.inl (Nat.lt_of_lt_of_le earlier (grows j))⟩
    · by_cases shared : j = i
      · refine ⟨j,named,.inl ?_⟩
        rw [current,if_pos shared,successor,same,shared]
        omega
      · refine ⟨j,named,.inr ⟨?_,?_⟩⟩
        · rw [current,if_neg shared,same]
        · rw [holds,if_neg shared,occupied]
  · intro k member
    rcases List.mem_append.mp member with old | new
    · obtain ⟨j,named,earlier⟩ := chronicled.freed k old
      exact ⟨j,named,Nat.lt_of_lt_of_le earlier (grows j)⟩
    · cases List.mem_singleton.mp new
      refine ⟨i,names,?_⟩
      rw [current,if_pos rfl,successor,now]
      omega
  · rw [issuedIn_append_freed]
    exact chronicled.distinct
  · intro k
    rw [standing_append_freed,← chronicled.standing,Arena.isLive,get?_take? freed]
    by_cases same : k = h
    · simp [same]
    · simp [same,Arena.isLive]

end Chronicled

variable {p : Package} {settings : HeapSettings} {heap last : Heap} {log lives : List Life}

/-- Steps keep the chronicle as long as they free no slot too often. -/
theorem Evolves.chronicled (evolves : Evolves settings lives heap last) (chronicled : heap.Chronicled log)
    (sound : heap.Sound) (few : last.slots.size < 2 ^ 32)
    (seldom : ∀ i, timesFreed i (log ++ lives) ≤ 2 ^ 32 - 2) : last.Chronicled (log ++ lives) := by
  induction evolves generalizing log with
  | refl => simpa using chronicled
  | @make heap next last h entry lives made _ rest ih =>
    have fewNext := Nat.lt_of_le_of_lt rest.size_le few
    rw [List.append_cons] at seldom ⊢
    exact ih (chronicled.alloc sound made fewNext) (sound_alloc sound made fewNext) few seldom
  | @free heap next last h entry lives freed _ rest ih =>
    rw [List.append_cons] at seldom ⊢
    have seldomNow : ∀ i, timesFreed i (log ++ [.freed h]) ≤ 2 ^ 32 - 2 :=
      fun i => Nat.le_trans (timesFreed_le_append lives) (seldom i)
    exact ih (chronicled.take? freed seldomNow) (sound.erase? freed) few seldom
  | items _ _ ih => exact ih chronicled.put sound.set few seldom
  | object _ _ _ ih => exact ih chronicled.put sound.set few seldom

/-- A run that names all its slots and frees no slot so often that its generations come round. -/
structure Bounded (p : Package) (settings : HeapSettings) (calls : List (Call Value)) : Prop where
  few : (Heap.empty.after p settings calls).slots.size < 2 ^ 32
  seldom : ∀ i, timesFreed i (Heap.empty.history p settings calls) ≤ 2 ^ 32 - 2

/-- A short run frees no slot too often. -/
theorem bounded_of_short {calls : List (Call Value)} (few : (Heap.empty.after p settings calls).slots.size < 2 ^ 32)
    (short : (Heap.empty.history p settings calls).length ≤ 2 ^ 32 - 2) : Bounded p settings calls :=
  ⟨few,fun _ => Nat.le_trans List.countP_le_length short⟩

/-- Every bounded run from the empty heap has its chronicle. -/
theorem chronicled_after {calls : List (Call Value)} (built : p.Built) (bounded : Bounded p settings calls) :
    (Heap.empty.after p settings calls).Chronicled (Heap.empty.history p settings calls) := by
  have evolves := after_evolves built sound_empty calls bounded.few
  have chronicled := evolves.chronicled chronicled_empty sound_empty bounded.few
  exact chronicled bounded.seldom

end Heap

end HandleBridge
