import HandleBridge.Proofs.Chronicle
import HandleBridge.Proofs.Copying

/-!
What never changes of an entry: whether it is an object or a list, and of which class. What was once found behind a
handle is therefore right until the entry is freed, and after that nothing is found there any more (`RefersAs`).
-/

namespace HandleBridge

/-- What never changes of an entry. -/
inductive Shape where
  | object (cls : ClassId)
  | list (elementClass : ClassId)
  deriving DecidableEq

/-- What an entry is. -/
def Entry.shape : Entry → Shape
  | .object o => .object o.cls
  | .list l => .list l.elementClass

namespace Entry

variable {entry : Entry} {c : ClassId}

theorem shape_eq_object_iff : entry.shape = .object c ↔ ∃ o, entry = .object o ∧ o.cls = c := by
  cases entry <;> simp [shape]

theorem shape_eq_list_iff : entry.shape = .list c ↔ ∃ l, entry = .list l ∧ l.elementClass = c := by
  cases entry <;> simp [shape]

end Entry

namespace Heap

variable {p : Package} {settings : HeapSettings} {heap next last : Heap} {h : Handle} {entry : Entry} {shape : Shape}
  {calls : List (Call Value)}

/-- No step of an edit ends an entry or makes another thing of it. -/
theorem Edit.keeps_shape (edit : Edit p heap next) (found : heap.get? h = some entry) :
    ∃ now, next.get? h = some now ∧ now.shape = entry.shape := by
  cases edit with
  | @items b l items atList admitted =>
    rw [get?_setItems atList]
    split
    · rename_i same
      subst same
      cases atList.symm.trans found
      exact ⟨_,rfl,rfl⟩
    · exact ⟨entry,found,rfl⟩
  | @values k before changed cls atObject known changes =>
    rw [get?_putObject atObject]
    split
    · rename_i same
      subst same
      cases atObject.symm.trans found
      exact ⟨_,rfl,congrArg Shape.object changes.sameClass⟩
    · exact ⟨entry,found,rfl⟩
  | list known fresh view => exact ⟨entry,kept_of_update view found (by simp [fresh]),rfl⟩
  | object created => exact ⟨entry,created.kept found,rfl⟩

theorem Edits.keeps_shape (edits : Edits p heap last) (found : heap.get? h = some entry) :
    ∃ now, last.get? h = some now ∧ now.shape = entry.shape := by
  induction edits with
  | refl => exact ⟨entry,found,rfl⟩
  | tail _ edit ih =>
    obtain ⟨middle,found,same⟩ := ih
    obtain ⟨now,found,still⟩ := edit.keeps_shape found
    exact ⟨now,found,still.trans same⟩

/-- A call ends an entry or leaves it what it is. -/
theorem Outcome.keeps_shape {α : Type} {result : Except Error α × Heap} (outcome : Outcome p heap result)
    (found : heap.get? h = some entry) :
    result.2.get? h = none ∨ ∃ now, result.2.get? h = some now ∧ now.shape = entry.shape := by
  cases outcome with
  | refused e next same => exact .inr ⟨entry,(same h).trans found,rfl⟩
  | edited a next edits => exact .inr (edits.keeps_shape found)
  | freed a k freed next there unowned done =>
    rcases get?_of_discard done h with lost | same
    · exact .inl lost
    · exact .inr ⟨entry,same.trans found,rfl⟩

/-- What was found behind the handle is right: the run freed it since, or something of the shape is there. -/
def RefersAs (p : Package) (settings : HeapSettings) (calls : List (Call Value)) (h : Handle) (shape : Shape) : Prop :=
  .freed h ∈ Heap.empty.history p settings calls ∨
    ∃ entry, (Heap.empty.after p settings calls).get? h = some entry ∧ entry.shape = shape

theorem Bounded.of_append {more : List (Call Value)} (built : p.Built) (bounded : Bounded p settings (calls ++ more)) :
    Bounded p settings calls := by
  obtain ⟨few,seldom⟩ := bounded
  rw [after_append] at few
  refine ⟨Nat.lt_of_le_of_lt (size_after built settings _ more) few,fun i => ?_⟩
  refine Nat.le_trans ?_ (seldom i)
  rw [history_append]
  exact timesFreed_le_append _

namespace RefersAs

/-- A call keeps right what was found behind a handle. -/
theorem step {c : Call Value} (built : p.Built) (addressable : p.Addressable)
    (bounded : Bounded p settings (calls ++ [c])) (refers : RefersAs p settings calls h shape) :
    RefersAs p settings (calls ++ [c]) h shape := by
  have before := bounded.of_append built
  have chronicled := chronicled_after built before
  have chronicledNext := chronicled_after built bounded
  unfold RefersAs
  rw [history_append,after_append] at chronicledNext ⊢
  rcases refers with freed | ⟨entry,found,rfl⟩
  · exact .inl (List.mem_append_left _ freed)
  · have few := bounded.few
    rw [after_append] at few
    have outcome := respond_outcome settings c built addressable
      (wellFormed_after built addressable .empty sound_empty before.few) (sound_after built calls before.few) few
    rcases outcome.keeps_shape found with lost | still
    · -- The handle was standing before the call and is not any more.
      have standing := (chronicled.standing h).mp (Arena.isLive_iff.mpr ⟨entry,found⟩)
      refine .inl (List.mem_append_right _ (standing.freed_of_not fun still => ?_))
      obtain ⟨now,again⟩ := Arena.isLive_iff.mp ((chronicledNext.standing h).mpr still)
      cases lost.symm.trans again
    · exact .inr still

/-- So does a run. -/
theorem append {more : List (Call Value)} (built : p.Built) (addressable : p.Addressable)
    (bounded : Bounded p settings (calls ++ more)) (refers : RefersAs p settings calls h shape) :
    RefersAs p settings (calls ++ more) h shape := by
  induction more generalizing calls with
  | nil => simpa using refers
  | cons c rest ih =>
    rw [List.append_cons] at bounded ⊢
    exact ih bounded (refers.step built addressable (bounded.of_append built))

/-- What was freed does not come back, so nothing else is ever found behind the handle. -/
theorem get? (built : p.Built) (bounded : Bounded p settings calls) (refers : RefersAs p settings calls h shape) :
    (Heap.empty.after p settings calls).get? h = none ∨
      ∃ entry, (Heap.empty.after p settings calls).get? h = some entry ∧ entry.shape = shape := by
  refine refers.imp_left fun freed => ?_
  exact Arena.isLive_false_iff.mp ((chronicled_after built bounded).not_live_of_freed freed)

end RefersAs

end Heap

end HandleBridge
