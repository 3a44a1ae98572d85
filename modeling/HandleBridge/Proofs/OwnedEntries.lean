import HandleBridge.Proofs.Copying
import HandleBridge.Proofs.Courses

/-!
What outside of the heap has to be destroyed: the objects, and the lists that no object owns. Only what makes such an
entry adds to them and only destroying one takes it away; destroying one never fails. So if each of them has one title
at first, it has one after every call that keeps to the titles.
-/

namespace HandleBridge

namespace Heap

variable {p : Package} {settings : HeapSettings} {heap next : Heap} {h k : Handle}

/-- Whether the handle refers to an object, or to a list that no object owns. -/
def Top (heap : Heap) (h : Handle) : Prop :=
  ∃ entry, heap.get? h = some entry ∧ ∀ l, entry = .list l → l.owner = none

theorem top_congr (same : next.get? k = heap.get? k) : next.Top k ↔ heap.Top k := by
  rw [Top,same,Top]

theorem not_top_of_get?_none (vacant : heap.get? h = none) : ¬heap.Top h := by
  rintro ⟨entry,found,-⟩
  cases vacant.symm.trans found

theorem isNull_of_top (top : heap.Top h) : h.isNull = false := by
  obtain ⟨entry,found,-⟩ := top
  exact Arena.isNull_of_get? found

theorem not_top_of_owns {owner : Handle} (owns : heap.Owns owner h) : ¬heap.Top h := by
  obtain ⟨l,found,owned⟩ := owns
  rintro ⟨entry,there,unowned⟩
  cases found.symm.trans there
  cases owned.symm.trans (unowned l rfl)

theorem top_putObject {o changed : ObjectData} (found : heap.get? h = some (.object o)) (k : Handle) :
    (heap.putObject h changed).Top k ↔ heap.Top k := by
  by_cases same : k = h
  · subst same
    have now : (heap.putObject k changed).get? k = some (.object changed) := get?_putObject_self found changed
    exact iff_of_true ⟨_,now,nofun⟩ ⟨_,found,nofun⟩
  · exact top_congr (by rw [get?_putObject found,if_neg same])

theorem top_setItems {l : ListData} {items : List Handle} (found : heap.get? h = some (.list l)) (k : Handle) :
    (heap.setItems h l items).Top k ↔ heap.Top k := by
  by_cases same : k = h
  · subst same
    have now : (heap.setItems k l items).get? k = some (.list { l with items }) := by
      rw [get?_setItems found,if_pos rfl]
    rw [Top,Top,now,found]
    simp
  · exact top_congr (by rw [get?_setItems found,if_neg same])

/-- Steps that neither make nor free an entry leave each as it is, an object or a list of the same owner. -/
theorem top_of_evolves (evolves : Evolves settings [] heap next) (k : Handle) : next.Top k ↔ heap.Top k := by
  generalize none : ([] : List Life) = lives at evolves
  induction evolves with
  | refl => rfl
  | make => cases none
  | free => cases none
  | items found _ ih => exact (ih none).trans (top_setItems found k)
  | object found _ _ ih => exact (ih none).trans (top_putObject found k)

theorem size_of_evolves (evolves : Evolves settings [] heap next) : next.slots.size = heap.slots.size := by
  generalize none : ([] : List Life) = lives at evolves
  induction evolves with
  | refl => rfl
  | make => cases none
  | free => cases none
  | items _ _ ih => exact (ih none).trans size_put
  | object _ _ _ ih => exact (ih none).trans size_put

theorem top_of_created {o : ObjectData} {cls : ClassType} (created : Created p heap h o cls next) (k : Handle) :
    next.Top k ↔ k = h ∨ heap.Top k := by
  by_cases same : k = h
  · subst same
    exact ⟨fun _ => .inl rfl,fun _ => ⟨.object o,created.found,nofun⟩⟩
  · rw [or_iff_right same]
    rcases created.others k same with kept | ⟨vacant,-,t,-,backing⟩
    · exact top_congr kept
    · refine iff_of_false ?_ (not_top_of_get?_none vacant)
      rintro ⟨entry,found,unowned⟩
      cases backing.symm.trans found
      exact absurd (unowned _ rfl) nofun

theorem top_of_discard (done : heap.discard h = .ok next) (k : Handle) : next.Top k ↔ k ≠ h ∧ heap.Top k := by
  cases discard_eq_ok done with
  | list l freed =>
    have view := get?_take? freed k
    by_cases same : k = h
    · rw [if_pos same] at view
      exact iff_of_false (not_top_of_get?_none view) fun top => top.1 same
    · rw [if_neg same] at view
      rw [and_iff_right same]
      exact top_congr view
  | object o rest freed erased =>
    rcases get?_discard (found_of_take? freed) done k with ⟨gone,vacant⟩ | ⟨spared,kept⟩
    · refine iff_of_false (not_top_of_get?_none vacant) ?_
      rintro ⟨other,top⟩
      rcases gone with same | ⟨-,owns⟩
      · exact other same
      · exact not_top_of_owns owns top
    · rw [and_iff_right fun same => spared (.inl same)]
      exact top_congr kept

/-- What can be destroyed is destroyed, with the lists that it owns. -/
theorem destroy_of_top (top : heap.Top h) :
    ∃ next, destroy h heap = .ok next ∧ ∀ k, next.Top k ↔ k ≠ h ∧ heap.Top k := by
  obtain ⟨entry,found,unowned⟩ := top
  have discards : destroy h heap = heap.discard h := by
    rw [destroy,find_eq_ok_iff.mpr found]
    cases entry with
    | object o => rfl
    | list l =>
      obtain ⟨elementClass,items,owner⟩ := l
      cases unowned _ rfl
      rfl
  rw [discards]
  cases done : heap.discard h with
  | ok next => exact ⟨next,rfl,top_of_discard done⟩
  | error e =>
    have lost := Arena.erase?_eq_none_iff.mp (take?_of_discard_error done)
    cases lost.symm.trans found

/-- Whether what has to be destroyed from outside, and nothing else, has one title each. -/
structure Entitled (heap : Heap) (titles : Multiset Handle) : Prop where
  once : titles.Nodup
  exact : ∀ h, h ∈ titles ↔ heap.Top h

variable {titles : Multiset Handle}

namespace Entitled

theorem empty : Entitled .empty 0 := by
  refine ⟨Multiset.nodup_zero,fun h => iff_of_false (Multiset.notMem_zero h) ?_⟩
  exact not_top_of_get?_none get?_empty

theorem congr (entitled : Entitled heap titles) (same : ∀ k, next.Top k ↔ heap.Top k) : Entitled next titles :=
  ⟨entitled.once,fun h => (entitled.exact h).trans (same h).symm⟩

/-- A new entry at the top comes with a title of its own. -/
theorem make (entitled : Entitled heap titles) (fresh : heap.get? h = none)
    (made : ∀ k, next.Top k ↔ k = h ∨ heap.Top k) : Entitled next (h.title + titles) := by
  have notNull : h.isNull = false := isNull_of_top ((made h).mpr (.inl rfl))
  have new : h ∉ titles := fun old => not_top_of_get?_none fresh ((entitled.exact h).mp old)
  have title : h.title + titles = h ::ₘ titles := by simp [Handle.title,notNull]
  rw [title]
  refine ⟨Multiset.nodup_cons.mpr ⟨new,entitled.once⟩,fun k => ?_⟩
  rw [Multiset.mem_cons,entitled.exact,made]

/-- A freed entry takes its title along. -/
theorem free (entitled : Entitled heap titles) (freed : ∀ k, next.Top k ↔ k ≠ h ∧ heap.Top k) :
    Entitled next (titles.erase h) := by
  refine ⟨entitled.once.erase h,fun k => ?_⟩
  rw [entitled.once.mem_erase_iff,entitled.exact,freed]

/-- What has a title has one, and what has none needs none. -/
theorem count (entitled : Entitled heap titles) (h : Handle) :
    titles.count h = 1 ∧ heap.Top h ∨ titles.count h = 0 ∧ ¬heap.Top h := by
  by_cases top : heap.Top h
  · exact .inl ⟨Multiset.count_eq_one_of_mem entitled.once ((entitled.exact h).mpr top),top⟩
  · exact .inr ⟨Multiset.count_eq_zero_of_notMem fun mem => top ((entitled.exact h).mp mem),top⟩

end Entitled

/-- What making an entry comes to: the entry that it answers is new, or nothing is. -/
inductive Adds (heap : Heap) : Except Error Handle × Heap → Prop
  | made (h : Handle) (next : Heap) (fresh : heap.get? h = none) (view : ∀ k, next.Top k ↔ k = h ∨ heap.Top k) :
    Adds heap (.ok h,next)
  | failed (e : Error) (next : Heap) (same : ∀ k, next.Top k ↔ heap.Top k) : Adds heap (.error e,next)

section Making

variable (settings) (built : p.Built) (addressable : p.Addressable) (wellFormed : WellFormed p heap)
  (sound : heap.Sound)
include built addressable wellFormed sound

/-- An object that is made adds its own entry at the top; one that is given up adds nothing. -/
theorem create_adds (c : ClassId) (few : (create p settings c heap).2.slots.size < 2 ^ 32) :
    Adds heap (create p settings c heap) := by
  have spec := create_spec settings c built addressable wellFormed sound few
  generalize create p settings c heap = result at spec ⊢
  obtain ⟨result,next⟩ := result
  rcases spec with ⟨h,o,cls,rfl,-,created⟩ | ⟨e,rfl,same⟩
  · exact .made h next created.fresh (top_of_created created)
  · exact .failed e next fun k => top_congr (same k)

/-- A copy adds its own entry at the top, as it can always be filled. -/
theorem copy_adds (h : Handle) (few : (copy p settings h heap).2.slots.size < 2 ^ 32) :
    Adds heap (copy p settings h heap) := by
  have done := copy_cases p settings h heap
  generalize copy p settings h heap = result at done few ⊢
  generalize heap.lives p settings (.copy h) = lives at done
  cases done with
  | refused e absent => exact .failed e heap fun _ => Iff.rfl
  | failed o e next found created =>
    have spec := create_spec settings o.cls built addressable wellFormed sound
    rw [created] at spec
    rcases spec few with ⟨made,-,-,succeeds,-⟩ | ⟨-,-,same⟩
    · cases succeeds
    · exact .failed e next fun k => top_congr (same k)
  | made o made next found created =>
    have evolves := copyInto_evolves settings made o next
    have spec := create_spec settings o.cls built addressable wellFormed sound
    rw [created] at spec
    rcases spec (Nat.lt_of_le_of_lt evolves.size_le few) with
      ⟨k,copied,cls,yielded,ofClass,creation⟩ | ⟨e,failed,-⟩
    · cases yielded
      have apart : made ≠ h := by
        rintro rfl
        cases creation.fresh.symm.trans found
      have filling : Filling p h o made next :=
        ⟨wellFormed.newObject creation,apart,creation.kept found,copied,creation.found,ofClass⟩
      obtain ⟨last,filled,-⟩ := copyInto_spec filling built addressable
      rw [filled] at evolves ⊢
      exact .made made last creation.fresh fun k => (top_of_evolves evolves k).trans (top_of_created creation k)
    · cases failed

end Making

theorem createList_adds (settings : HeapSettings) (c : ClassId) (sound : heap.Sound)
    (few : (commitWith (createList p settings c) heap).2.slots.size < 2 ^ 32) :
    Adds heap (commitWith (createList p settings c) heap) := by
  unfold commitWith at few ⊢
  cases done : createList p settings c heap with
  | error e => exact .failed e heap fun _ => Iff.rfl
  | ok made =>
    obtain ⟨h,next⟩ := made
    rw [done] at few
    obtain ⟨-,made⟩ := createList_eq_ok done
    obtain ⟨fresh,view⟩ := get?_alloc sound made few
    refine .made h next fresh fun k => ?_
    by_cases same : k = h
    · rw [Top,view,if_pos same]
      simp [same]
    · rw [or_iff_right same]
      exact top_congr (by rw [view,if_neg same])

/-- What making adds is what its answer gives a title to. -/
theorem Adds.entitled {result : Except Error Handle × Heap} (adds : Adds heap result)
    (entitled : Entitled heap titles) : Entitled result.2 (titlesOf Handle.title result.1 + titles) := by
  cases adds with
  | made h next fresh view => exact entitled.make fresh view
  | failed e next same =>
    rw [titlesOf,zero_add]
    exact entitled.congr same

theorem respond_evolves_of_neutral (built : p.Built) {c : Call Value} (neutral : c.isNeutral = true) :
    Evolves settings [] heap (heap.respond p settings c).2 := by
  have settled : allocates c = false := by
    cases c <;> first | rfl | cases neutral
  have none : heap.lives p settings c = [] := by
    cases c <;> first | rfl | cases neutral
  rw [← none]
  exact respond_evolves_of_not_allocates built c settled

/-- A call that keeps to the titles leaves one title to each entry that needs one, and if it is to destroy one, it
does. -/
theorem Entitled.respond (entitled : Entitled heap titles) (settings : HeapSettings) (c : Call Value)
    (built : p.Built) (addressable : p.Addressable) (wellFormed : WellFormed p heap) (sound : heap.Sound)
    (few : (heap.respond p settings c).2.slots.size < 2 ^ 32) (licit : (Effect.call c).destroys ≤ titles) :
    (Effect.call c).Expects False (heap.respond p settings c).1 ∧
      Entitled (heap.respond p settings c).2
        ((Effect.call c).acquires (heap.respond p settings c).1 + (titles - (Effect.call c).destroys)) := by
  cases neutral : c.isNeutral with
  | true =>
    refine ⟨Effect.expects_of_isNeutral neutral _,?_⟩
    rw [Effect.acquires_of_isNeutral neutral,Effect.destroys_of_isNeutral neutral,Multiset.sub_zero,zero_add]
    exact entitled.congr (top_of_evolves (respond_evolves_of_neutral built neutral))
  | false =>
    have kept := entitled
    rw [← Multiset.sub_zero titles] at kept
    cases c with
    | create c =>
      refine ⟨trivial,?_⟩
      rw [Effect.acquires_create]
      exact (create_adds settings built addressable wellFormed sound c few).entitled kept
    | copy h =>
      refine ⟨trivial,?_⟩
      rw [Effect.acquires_copy]
      exact (copy_adds settings built addressable wellFormed sound h few).entitled kept
    | createList c =>
      refine ⟨trivial,?_⟩
      rw [Effect.acquires_createList]
      exact (createList_adds settings c sound few).entitled kept
    | destroy h =>
      have top : heap.Top h := (entitled.exact h).mp (Multiset.singleton_le.mp licit)
      obtain ⟨next,done,freed⟩ := destroy_of_top top
      have responds : heap.respond p settings (.destroy h) = (.ok (),next) := by
        simp only [Heap.respond,answer,commit,done]
      rw [responds]
      refine ⟨trivial,?_⟩
      simpa [Effect.acquires,Effect.destroys] using entitled.free freed
    | _ => cases neutral

end Heap

end HandleBridge
