import HandleBridge.Proofs.Shapes
import HandleBridge.Proofs.TwinCalls

/-!
Two runs of the same calls on heaps of which one uses freed slots again. The handles that the runs issue are counterparts
in the order in which they are issued; a run in which every handle is replaced by its counterpart comes to the same.
-/

namespace HandleBridge

theorem zip_unique {α β : Type} {xs : List α} {ys : List β} {x a : α} {y b : β} (distinct : xs.Nodup)
    (distinct' : ys.Nodup) (first : (x,y) ∈ xs.zip ys) (second : (a,b) ∈ xs.zip ys) : x = a ↔ y = b := by
  obtain ⟨i,atFirst⟩ := List.getElem?_of_mem first
  obtain ⟨j,atSecond⟩ := List.getElem?_of_mem second
  obtain ⟨left,right⟩ := List.getElem?_zip_eq_some.mp atFirst
  obtain ⟨left',right'⟩ := List.getElem?_zip_eq_some.mp atSecond
  constructor
  · rintro rfl
    cases (List.getElem?_inj (List.getElem?_eq_some_iff.mp left).1 distinct).mp (left.trans left'.symm)
    exact Option.some.inj (right.symm.trans right')
  · rintro rfl
    cases (List.getElem?_inj (List.getElem?_eq_some_iff.mp right).1 distinct').mp (right.trans right'.symm)
    exact Option.some.inj (left.symm.trans left')

theorem Standing.mem_issuedIn {log : List Life} {h : Handle} (standing : Standing log h) : h ∈ issuedIn log := by
  obtain ⟨before,after,rfl,-⟩ := standing
  simp [issuedIn]

theorem issuedIn_append (log more : List Life) : issuedIn (log ++ more) = issuedIn log ++ issuedIn more :=
  List.filterMap_append

namespace Heap

variable {p : Package} {settings settings' : HeapSettings} {heap : Heap} {log : List Life} {h h' : Handle}
  {calls calls' more more' : List (Call Value)} {c c' : Call Value}

theorem Chronicled.get?_of_not_issued (chronicled : heap.Chronicled log) (never : h ∉ issuedIn log) :
    heap.get? h = none := by
  cases found : heap.get? h with
  | none => rfl
  | some entry =>
    have standing := (chronicled.standing h).mp (Arena.isLive_iff.mpr ⟨entry,found⟩)
    exact absurd standing.mem_issuedIn never

/-- Nothing is behind the handles that later calls issue. -/
theorem get?_of_later (built : p.Built) (bounded : Bounded p settings (calls ++ more))
    (later : h ∈ issuedIn ((Heap.empty.after p settings calls).history p settings more)) :
    (Heap.empty.after p settings calls).get? h = none := by
  have distinct := (chronicled_after built bounded).distinct
  rw [history_append,issuedIn_append] at distinct
  refine (chronicled_after built (bounded.of_append built)).get?_of_not_issued fun before => ?_
  exact (List.nodup_append.mp distinct).2.2 h before h later rfl

theorem history_singleton (p : Package) (settings : HeapSettings) (heap : Heap) (c : Call Value) :
    heap.history p settings [c] = heap.lives p settings c := by
  rw [history,history,List.append_nil]

def issued (p : Package) (settings : HeapSettings) (calls : List (Call Value)) : List Handle :=
  issuedIn (Heap.empty.history p settings calls)

/-- Handles that two runs issue, in order and side by side. -/
def counterparts (p : Package) (settings settings' : HeapSettings) (calls calls' : List (Call Value)) :
    List (Handle × Handle) :=
  (issued p settings calls).zip (issued p settings' calls')

/-- Whether one handle of the second run stands for one of the first; null stands for null. -/
def Counterpart (p : Package) (settings settings' : HeapSettings) (calls calls' : List (Call Value))
    (h h' : Handle) : Prop :=
  (h,h') ∈ counterparts p settings settings' calls calls' ∨ h = .null ∧ h' = .null

/-- Whether two runs are of the same calls, with every handle replaced by its counterpart of the calls before. -/
structure Mirrored (p : Package) (settings settings' : HeapSettings) (calls calls' : List (Call Value)) : Prop where
  length : calls.length = calls'.length
  each : ∀ (k : Nat) c c', calls[k]? = some c → calls'[k]? = some c' →
    c.Renamed (Counterpart p settings settings' (calls.take k) (calls'.take k)) c'

/-- Whether two runs come to the same: the handles they issued are one to one, and the counts of their heaps agree. -/
structure Interchangeable (p : Package) (settings settings' : HeapSettings) (calls calls' : List (Call Value)) :
    Prop where
  oneToOne : Pairing (Counterpart p settings settings' calls calls')
  first : (counterparts p settings settings' calls calls').map Prod.fst = issued p settings calls
  second : (counterparts p settings settings' calls calls').map Prod.snd = issued p settings' calls'
  live : (Heap.empty.after p settings calls).live = (Heap.empty.after p settings' calls').live
  created : (Heap.empty.after p settings calls).created = (Heap.empty.after p settings' calls').created
  destroyed : (Heap.empty.after p settings calls).destroyed = (Heap.empty.after p settings' calls').destroyed

theorem issued_append (p : Package) (settings : HeapSettings) (calls more : List (Call Value)) :
    issued p settings (calls ++ more) =
      issued p settings calls ++ issuedIn ((Heap.empty.after p settings calls).history p settings more) := by
  rw [issued,history_append,issuedIn_append,issued]

/-- The handles that two runs issue are paired one to one. -/
theorem pairing_counterpart (built : p.Built) (bounded : Bounded p settings calls)
    (bounded' : Bounded p settings' calls') : Pairing (Counterpart p settings settings' calls calls') := by
  have chronicled := chronicled_after built bounded
  have chronicled' := chronicled_after built bounded'
  have apart : ∀ h h', (h,h') ∈ counterparts p settings settings' calls calls' → h ≠ .null ∧ h' ≠ .null := by
    intro h h' paired
    obtain ⟨left,right⟩ := List.of_mem_zip paired
    exact ⟨ne_of_mem_of_not_mem left chronicled.null_not_issued,ne_of_mem_of_not_mem right chronicled'.null_not_issued⟩
  refine ⟨.inr ⟨rfl,rfl⟩,?_⟩
  rintro h h' k k' (first | ⟨rfl,rfl⟩) (second | ⟨rfl,rfl⟩)
  · exact zip_unique chronicled.distinct chronicled'.distinct first second
  · obtain ⟨left,right⟩ := apart h h' first
    exact iff_of_false left right
  · obtain ⟨left,right⟩ := apart k k' second
    exact iff_of_false left.symm right.symm
  · exact ⟨fun _ => rfl,fun _ => rfl⟩

/-- Whether two runs leave twins, having issued as many handles. -/
structure Mirroring (p : Package) (settings settings' : HeapSettings) (calls calls' : List (Call Value)) : Prop where
  issued : (issued p settings calls).length = (issued p settings' calls').length
  twins : Twins (Counterpart p settings settings' calls calls') (Heap.empty.after p settings calls)
    (Heap.empty.after p settings' calls')

theorem mirroring_empty (p : Package) (settings settings' : HeapSettings) : Mirroring p settings settings' [] [] where
  issued := rfl
  twins := ⟨fun h h' _ => by simp [after,empty,Arena.get?],rfl,rfl,rfl⟩

namespace Mirroring

theorem counterparts_append (mirroring : Mirroring p settings settings' calls calls') (more more' : List (Call Value)) :
    counterparts p settings settings' (calls ++ more) (calls' ++ more') =
      counterparts p settings settings' calls calls' ++
        (issuedIn ((Heap.empty.after p settings calls).history p settings more)).zip
          (issuedIn ((Heap.empty.after p settings' calls').history p settings' more')) := by
  rw [counterparts,issued_append,issued_append,List.zip_append mirroring.issued,counterparts]

theorem counterpart_append (mirroring : Mirroring p settings settings' calls calls')
    (before : Counterpart p settings settings' calls calls' h h') :
    Counterpart p settings settings' (calls ++ more) (calls' ++ more') h h' := by
  refine before.imp_left fun paired => ?_
  rw [mirroring.counterparts_append]
  exact List.mem_append_left _ paired

/-- Nothing is behind handles that are yet to be issued, so the heaps are twins under the pairing of these too. -/
theorem twins_append (mirroring : Mirroring p settings settings' calls calls') (built : p.Built)
    (bounded : Bounded p settings (calls ++ more)) (bounded' : Bounded p settings' (calls' ++ more')) :
    Twins (Counterpart p settings settings' (calls ++ more) (calls' ++ more')) (Heap.empty.after p settings calls)
      (Heap.empty.after p settings' calls') := by
  obtain ⟨entries,live,created,destroyed⟩ := mirroring.twins
  have kept : ∀ h h', Counterpart p settings settings' calls calls' h h' →
      Option.Rel (Entry.Renamed (Counterpart p settings settings' (calls ++ more) (calls' ++ more')))
        ((Heap.empty.after p settings calls).get? h) ((Heap.empty.after p settings' calls').get? h') := by
    intro h h' before
    exact optionRel_imp (entries h h' before) fun _ _ renamed => renamed.mono fun _ _ => mirroring.counterpart_append
  refine ⟨?_,live,created,destroyed⟩
  rintro h h' (paired | nulls)
  · rw [mirroring.counterparts_append,List.mem_append] at paired
    rcases paired with old | new
    · exact kept h h' (.inl old)
    · obtain ⟨left,right⟩ := List.of_mem_zip new
      rw [get?_of_later built bounded left,get?_of_later built bounded' right]
      exact .none
  · exact kept h h' (.inr nulls)

theorem lockstep (mirroring : Mirroring p settings settings' calls calls')
    (limits : settings.maxObjects = settings'.maxObjects) (built : p.Built)
    (bounded : Bounded p settings (calls ++ [c])) (bounded' : Bounded p settings' (calls' ++ [c']))
    (renamed : c.Renamed (Counterpart p settings settings' calls calls') c') :
    Lockstep (Counterpart p settings settings' (calls ++ [c]) (calls' ++ [c']))
      (c.SameReply (Counterpart p settings settings' (calls ++ [c]) (calls' ++ [c'])) c')
      ((Heap.empty.after p settings calls).respond p settings c) ((Heap.empty.after p settings calls).lives p settings c)
      ((Heap.empty.after p settings' calls').respond p settings' c')
      ((Heap.empty.after p settings' calls').lives p settings' c') := by
  have sound := sound_after built calls (bounded.of_append built).few
  have sound' := sound_after built calls' (bounded'.of_append built).few
  have few := bounded.few
  have few' := bounded'.few
  rw [after_append] at few few'
  refine (mirroring.twins_append built bounded bounded').respond limits built
    (pairing_counterpart built bounded bounded') sound sound' (renamed.mono fun _ _ => mirroring.counterpart_append)
    few few' ?_
  intro pair member
  refine .inl ?_
  rw [mirroring.counterparts_append,history_singleton,history_singleton]
  exact List.mem_append_right _ member

/-- Two runs that mirror each other do so with one call more. -/
theorem snoc (mirroring : Mirroring p settings settings' calls calls')
    (limits : settings.maxObjects = settings'.maxObjects) (built : p.Built)
    (bounded : Bounded p settings (calls ++ [c])) (bounded' : Bounded p settings' (calls' ++ [c']))
    (renamed : c.Renamed (Counterpart p settings settings' calls calls') c') :
    Mirroring p settings settings' (calls ++ [c]) (calls' ++ [c']) := by
  have step := mirroring.lockstep limits built bounded bounded' renamed
  refine ⟨?_,?_⟩
  · rw [issued_append,issued_append,history_singleton,history_singleton,List.length_append,List.length_append,
      mirroring.issued,step.issued]
  · rw [after_append,after_append]
    exact step.alike.twins

/-- Runs that mirror each other come to the same. -/
theorem interchangeable (mirroring : Mirroring p settings settings' calls calls') (built : p.Built)
    (bounded : Bounded p settings calls) (bounded' : Bounded p settings' calls') :
    Interchangeable p settings settings' calls calls' where
  oneToOne := pairing_counterpart built bounded bounded'
  first := List.map_fst_zip (Nat.le_of_eq mirroring.issued)
  second := List.map_snd_zip (Nat.le_of_eq mirroring.issued.symm)
  live := mirroring.twins.live
  created := mirroring.twins.created
  destroyed := mirroring.twins.destroyed

end Mirroring

theorem Bounded.take (built : p.Built) (bounded : Bounded p settings calls) (k : Nat) :
    Bounded p settings (calls.take k) := by
  rw [← List.take_append_drop k calls] at bounded
  exact bounded.of_append built

/-- Runs of mirrored calls mirror each other at every point. -/
theorem Mirrored.mirroring (mirrored : Mirrored p settings settings' calls calls')
    (limits : settings.maxObjects = settings'.maxObjects) (built : p.Built) (bounded : Bounded p settings calls)
    (bounded' : Bounded p settings' calls') (k : Nat) :
    Mirroring p settings settings' (calls.take k) (calls'.take k) := by
  induction k with
  | zero => exact mirroring_empty p settings settings'
  | succ k ih =>
    have taken := bounded.take built (k + 1)
    have taken' := bounded'.take built (k + 1)
    rw [List.take_add_one] at taken taken' ⊢
    rw [List.take_add_one]
    cases here : calls[k]? with
    | none =>
      -- The runs are over, and both are.
      have ended : calls'[k]? = none := by
        rw [List.getElem?_eq_none_iff] at here ⊢
        rwa [← mirrored.length]
      rw [ended,Option.toList_none,List.append_nil,List.append_nil]
      exact ih
    | some c =>
      have inside : k < calls'.length := by
        rw [← mirrored.length]
        exact (List.getElem?_eq_some_iff.mp here).1
      have there := List.getElem?_eq_getElem inside
      rw [here] at taken
      rw [there] at taken' ⊢
      exact ih.snoc limits built taken taken' (mirrored.each k _ _ here there)

/-- Slot reuse is unobservable: whichever of two heaps uses its freed slots again, the handles they issue are one to one,
growing along the run, every call comes to the same under that pairing, and the counts agree after every call. -/
theorem slot_reuse_unobservable (built : p.Built) (limits : settings.maxObjects = settings'.maxObjects)
    (bounded : Bounded p settings calls) (bounded' : Bounded p settings' calls')
    (mirrored : Mirrored p settings settings' calls calls') :
    (∀ k, Interchangeable p settings settings' (calls.take k) (calls'.take k)) ∧
      (∀ k, counterparts p settings settings' (calls.take k) (calls'.take k) <+:
        counterparts p settings settings' (calls.take (k + 1)) (calls'.take (k + 1))) ∧
      ∀ k c c', calls[k]? = some c → calls'[k]? = some c' →
        Matches (Error.Renamed (Counterpart p settings settings' (calls.take (k + 1)) (calls'.take (k + 1))))
          (c.SameReply (Counterpart p settings settings' (calls.take (k + 1)) (calls'.take (k + 1))) c')
          ((Heap.empty.after p settings (calls.take k)).respond p settings c).1
          ((Heap.empty.after p settings' (calls'.take k)).respond p settings' c').1 := by
  have mirroring := mirrored.mirroring limits built bounded bounded'
  refine ⟨fun k => (mirroring k).interchangeable built (bounded.take built k) (bounded'.take built k),?_,?_⟩
  · intro k
    rw [List.take_add_one,List.take_add_one,(mirroring k).counterparts_append]
    exact List.prefix_append _ _
  · intro k c c' here there
    have taken := bounded.take built (k + 1)
    have taken' := bounded'.take built (k + 1)
    rw [List.take_add_one,here] at taken ⊢
    rw [List.take_add_one,there] at taken' ⊢
    exact ((mirroring k).lockstep limits built taken taken' (mirrored.each k c c' here there)).alike.result

/-- A node goes with its list and is asked for once more; a tag that is created after it goes by the handle that it got. -/
def nodeThenTag (tag : Handle) : List (Call Value) :=
  [.create ⟨1⟩,.destroy (.ofSlot 0 1),.create ⟨0⟩,.get (.ofSlot 0 1) ⟨0⟩ false,.destroy tag]

/-- The tag takes the slot of the node's list, or a slot of its own. -/
theorem slot_reuse_unobservable_of_tag :
    Interchangeable forest {} ⟨none,false⟩ (nodeThenTag (.ofSlot 1 2)) (nodeThenTag (.ofSlot 2 1)) ∧
      counterparts forest {} ⟨none,false⟩ (nodeThenTag (.ofSlot 1 2)) (nodeThenTag (.ofSlot 2 1)) =
        [(.ofSlot 0 1,.ofSlot 0 1),(.ofSlot 1 1,.ofSlot 1 1),(.ofSlot 1 2,.ofSlot 2 1)] := by
  have bounded : Bounded forest {} (nodeThenTag (.ofSlot 1 2)) := bounded_of_short (by decide) (by decide)
  have bounded' : Bounded forest ⟨none,false⟩ (nodeThenTag (.ofSlot 2 1)) := bounded_of_short (by decide) (by decide)
  have mirrored : Mirrored forest {} ⟨none,false⟩ (nodeThenTag (.ofSlot 1 2)) (nodeThenTag (.ofSlot 2 1)) := by
    refine ⟨rfl,?_⟩
    intro k c c' here there
    match k with
    | 0 | 2 =>
      cases here
      cases there
      exact .create _
    | 1 | 4 =>
      cases here
      cases there
      exact .destroy (.inl (by decide))
    | 3 =>
      cases here
      cases there
      exact .get _ _ (.inl (by decide))
    | k + 5 => cases here
  have limits : HeapSettings.maxObjects {} = HeapSettings.maxObjects ⟨none,false⟩ := rfl
  exact ⟨(slot_reuse_unobservable forest_built limits bounded bounded' mirrored).1 5,by decide⟩

end Heap

end HandleBridge
