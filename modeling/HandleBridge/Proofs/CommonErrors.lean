import HandleBridge.Proofs.HeapErrors

/-!
Errors that have nothing to do with what a call reads or writes: they come of looking up handles and classes, and of
making room. A call that takes no feature, no place in a list, no value and no element has no other errors.
-/

namespace HandleBridge

/-- The error of looking up an object where there is a list. -/
abbrev Error.listForObject : Error := .typeMismatch "object" "list"

/-- Errors of looking up handles and classes, and of making room. -/
inductive Error.Common : Error → Prop
  | nullHandle : Common .nullHandle
  | staleHandle (h : Handle) : Common (.staleHandle h)
  | unknownClass (name : String) : Common (.unknownClass name)
  | abstractClass (name : String) : Common (.abstractClass name)
  | listForObject : Common .listForObject
  | notAList (h : Handle) : Common (.notAList h)
  | heapExhausted (limit : UInt64) : Common (.heapExhausted limit)
  | owned (text : String) : Common (.native (-2) text)

theorem FailsOnly.mono {α : Type} {P Q : Error → Prop} {x : Except Error α} (only : FailsOnly P x)
    (weaker : ∀ e, P e → Q e) : FailsOnly Q x := fun e failed => weaker e (only e failed)

namespace Package

variable (p : Package)

theorem require_common (c : ClassId) : FailsOnly Error.Common (p.require c) := by
  unfold require
  split
  · exact .ok _
  · exact .error (.unknownClass _)

theorem requireNamed_common (name : String) : FailsOnly Error.Common (p.requireNamed name) := by
  unfold requireNamed
  split
  · exact .ok _
  · exact .error (.unknownClass _)

end Package

namespace Heap

variable {p : Package} {settings : HeapSettings} {heap : Heap} {h : Handle}

theorem find_common : FailsOnly Error.Common (heap.find h) := by
  unfold find
  split
  · exact .error .nullHandle
  · split
    · exact .ok _
    · exact .error (.staleHandle h)

theorem object_common : FailsOnly Error.Common (heap.object h) := by
  refine .bind find_common fun entry _ => ?_
  split
  · exact .ok _
  · exact .error .listForObject

theorem list_common : FailsOnly Error.Common (heap.list h) := by
  refine .bind find_common fun entry _ => ?_
  split
  · exact .ok _
  · exact .error (.notAList h)

theorem alloc_common (entry : Entry) : FailsOnly Error.Common (heap.alloc settings entry) := by
  unfold alloc
  split
  · split
    · exact .error (.heapExhausted _)
    · exact .ok _
  · exact .ok _

theorem discard_common : FailsOnly Error.Common (heap.discard h) := by
  unfold discard
  split
  · split
    · exact .error .nullHandle
    · exact .error (.staleHandle h)
  · exact .ok _
  · exact .ok _

theorem destroy_common : FailsOnly Error.Common (destroy h heap) := by
  refine .bind find_common fun entry _ => ?_
  dsimp only
  split
  · exact .error (.owned _)
  · exact discard_common

/-- Making the lists of an object fails of looking up or for want of room. -/
theorem backFeatures_common (features : List Feature) :
    FailsOnly Error.Common (backFeatures p settings h features heap).1 := by
  induction features generalizing heap with
  | nil => exact .ok _
  | cons feature rest ih =>
    unfold backFeatures
    split
    · rename_i target _
      cases named : p.requireNamed target with
      | error e => exact .error (p.requireNamed_common target e named)
      | ok t =>
        dsimp only
        cases made : heap.alloc settings (.list ⟨t.id,[],some h⟩) with
        | error e =>
          dsimp only
          cases discarded : heap.discard h with
          | ok next => exact .error (alloc_common _ e made)
          | error e' => exact .error (discard_common e' discarded)
        | ok result =>
          obtain ⟨list,next⟩ := result
          dsimp only
          cases seen : next.object h with
          | error e => exact .error (object_common e seen)
          | ok o => exact ih
    · exact ih

/-- Making an object of a class fails of looking up or for want of room. -/
theorem create_common (cls : ClassId) : FailsOnly Error.Common (create p settings cls heap).1 := by
  unfold create
  cases known : p.require cls with
  | error e => exact .error (p.require_common cls e known)
  | ok t =>
    dsimp only
    split
    · exact .error (.abstractClass _)
    · cases made : heap.alloc settings (.object (.fresh t)) with
      | error e => exact .error (alloc_common _ e made)
      | ok result =>
        obtain ⟨h,next⟩ := result
        have backed : FailsOnly Error.Common (backFeatures p settings h t.features next).1 :=
          backFeatures_common t.features
        dsimp only
        generalize backFeatures p settings h t.features next = result at backed ⊢
        obtain ⟨result,last⟩ := result
        cases result with
        | ok => exact .ok _
        | error e => exact .error (backed e rfl)

theorem copyValue_common (place : Value × Nat) : FailsOnly Error.Common (copyValue h place heap) := by
  obtain ⟨v,i⟩ := place
  cases v with
  | list source =>
    refine .bind list_common fun given _ => .bind object_common fun o _ => ?_
    dsimp only
    split
    · exact .bind list_common fun _ _ => .ok _
    · exact .ok _
  | _ => exact .bind object_common fun _ _ => .ok _

theorem copyValues_common (places : List (Value × Nat)) : FailsOnly Error.Common (copyValues h places heap).1 := by
  induction places generalizing heap with
  | nil => exact .ok _
  | cons place rest ih =>
    unfold copyValues
    split
    · exact ih
    · rename_i e failed
      exact .error (copyValue_common place e failed)

theorem copyInto_common (o : ObjectData) : FailsOnly Error.Common (copyInto h o heap).1 := by
  have filled : FailsOnly Error.Common (copyValues h (o.fields.map Field.value).zipIdx heap).1 :=
    copyValues_common _
  unfold copyInto
  split
  · rename_i e next failed
    rw [failed] at filled
    exact filled
  · split
    · rename_i e failed
      exact .error (object_common e failed)
    · exact .ok _

/-- So does copying an object. -/
theorem copy_common : FailsOnly Error.Common (copy p settings h heap).1 := by
  have done := copy_cases p settings h heap
  generalize copy p settings h heap = result at done ⊢
  generalize heap.lives p settings (.copy h) = lives at done
  cases done with
  | refused e absent => exact .error (object_common e absent)
  | failed o e next found created =>
    have creating : FailsOnly Error.Common (create p settings o.cls heap).1 := create_common o.cls
    rw [created] at creating
    exact creating
  | made o made next found created => exact .map (copyInto_common o)

theorem commit_only {P : Error → Prop} {operation : Heap → Except Error Heap} (only : FailsOnly P (operation heap)) :
    FailsOnly P (commit operation heap).1 := fun e failed => only e (commit_eq_error failed).1

theorem createList_common (cls : ClassId) : FailsOnly Error.Common (commitWith (createList p settings cls) heap).1 := by
  have only : FailsOnly Error.Common (createList p settings cls heap) :=
    .bind (p.require_common cls) fun _ _ => alloc_common _
  unfold commitWith
  split
  · exact .ok _
  · rename_i e failed
    exact .error (only e failed)

end Heap

/-- Calls that take no feature, no place in a list, no value and no element. -/
inductive Call.Bare : Call Value → Prop
  | create (cls : ClassId) : Bare (.create cls)
  | destroy (h : Handle) : Bare (.destroy h)
  | upcast (h : Handle) : Bare (.upcast h)
  | initialise (h : Handle) : Bare (.initialise h)
  | copy (h : Handle) : Bare (.copy h)
  | classOf (h : Handle) : Bare (.classOf h)
  | createList (cls : ClassId) : Bare (.createList cls)
  | listSize (list : Handle) : Bare (.listSize list)
  | clear (list : Handle) : Bare (.clear list)

/-- Such a call fails of looking up or for want of room. -/
theorem Heap.respond_common {c : Call Value} (p : Package) (settings : HeapSettings) (heap : Heap) (bare : c.Bare) :
    FailsOnly Error.Common (heap.respond p settings c).1 := by
  cases bare with
  | create cls => exact create_common cls
  | destroy h => exact commit_only destroy_common
  | upcast h => exact .map object_common
  | initialise h => exact commit_only (.bind object_common fun _ _ => .ok _)
  | copy h => exact copy_common
  | classOf h => exact .map object_common
  | createList cls => exact createList_common cls
  | listSize list => exact .bind list_common fun _ _ => .ok _
  | clear list => exact commit_only (.bind list_common fun _ _ => .ok _)

end HandleBridge
