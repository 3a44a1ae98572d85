import HandleBridge.Proofs.BuiltPackages

/-!
Runs of boundary calls with the lives that begin and end on the way. `lives` lists what one call issues and frees,
lists behind features and what a failed creation made included, and `history` lists what a run does. The calls that
take several steps are taken apart here, each outcome with the lives it has (`create_cases`, `copy_cases`).
-/

namespace HandleBridge

/-- One change of what is alive. -/
inductive Life where
  /-- An allocation yielded the handle. -/
  | issued (h : Handle)
  /-- The entry behind the handle was freed. -/
  | freed (h : Handle)
  deriving DecidableEq

def Life.begins : Life → Bool
  | .issued _ => true
  | .freed _ => false

namespace Heap

/-- Lives that end when a value goes with its object: that of a list which backs a feature of the object. -/
def backingLives (owner : Handle) (heap : Heap) : Value → List Life
  | .list h =>
    match heap.get? h with
    | some (.list l) => if l.owner = some owner then [.freed h] else []
    | _ => []
  | _ => []

/-- Lives that end when values go with their object, one after another. -/
def valuesLives (owner : Handle) : List Value → Heap → List Life
  | [], _ => []
  | value :: rest, heap => heap.backingLives owner value ++ valuesLives owner rest (heap.eraseBacking owner value)

/-- Lives that `discard` ends. -/
def discardLives (h : Handle) (heap : Heap) : List Life :=
  match heap.take? h with
  | none => []
  | some (.object o,heap) => .freed h :: valuesLives h (o.fields.map Field.value) heap
  | some (.list _,_) => [.freed h]

/-- Lives that `backFeatures` begins, and ends again when it fails. -/
def backFeaturesLives (p : Package) (settings : HeapSettings) (h : Handle) : List Feature → Heap → List Life
  | [], _ => []
  | feature :: rest, heap =>
    match feature.kind with
    | .reference target true =>
      match p.requireNamed target with
      | .error _ => []
      | .ok element =>
        match heap.alloc settings (.list ⟨element.id,[],some h⟩) with
        | .error _ => heap.discardLives h
        | .ok (list,heap) =>
          .issued list ::
            match heap.object h with
            | .error _ => []
            | .ok o => backFeaturesLives p settings h rest (heap.putObject h (o.setValue feature.id (.list list)))
    | _ => backFeaturesLives p settings h rest heap

/-- Lives that `create` begins, and ends again when it fails. -/
def createLives (p : Package) (settings : HeapSettings) (c : ClassId) (heap : Heap) : List Life :=
  match p.require c with
  | .error _ => []
  | .ok cls =>
    if cls.isAbstract then []
    else match heap.alloc settings (.object (.fresh cls)) with
      | .error _ => []
      | .ok (h,heap) => .issued h :: backFeaturesLives p settings h cls.features heap

/-- Lives that a call begins and ends, in order. -/
def lives (p : Package) (settings : HeapSettings) (heap : Heap) : Call Value → List Life
  | .create c => createLives p settings c heap
  | .copy h =>
    match heap.object h with
    | .ok o => createLives p settings o.cls heap
    | .error _ => []
  | .createList c =>
    match createList p settings c heap with
    | .ok (h,_) => [.issued h]
    | .error _ => []
  | .destroy h =>
    match destroy h heap with
    | .ok _ => discardLives h heap
    | .error _ => []
  | _ => []

section
variable {heap : Heap} {owner b : Handle}

theorem backingLives_of_owns (owns : heap.Owns owner b) : heap.backingLives owner (.list b) = [.freed b] := by
  obtain ⟨l,found,owned⟩ := owns
  simp [backingLives,found,owned]

theorem backingLives_of_not_owns {value : Value} (free : ∀ b, value = .list b → ¬ heap.Owns owner b) :
    heap.backingLives owner value = [] := by
  unfold backingLives
  split
  · rename_i b
    split
    · rename_i l found
      split
      · rename_i owned
        exact absurd ⟨l,found,owned⟩ (free b rfl)
      · rfl
    · rfl
  · rfl

end

/-- What `backFeatures` does for the first of its features, with the lives of it: nothing unless the feature is
many-valued, and otherwise a list is made and handed over, or nothing can be done any more. -/
inductive BackStep (p : Package) (settings : HeapSettings) (h : Handle) (feature : Feature) (rest : List Feature)
    (heap : Heap) : Except Error Unit × Heap → List Life → Prop
  | plain (single : ∀ target, feature.kind ≠ .reference target true) :
      BackStep p settings h feature rest heap (backFeatures p settings h rest heap)
        (backFeaturesLives p settings h rest heap)
  | unknown (target : String) (e : Error) (isMany : feature.kind = .reference target true)
      (missing : p.classNamed? target = none) : BackStep p settings h feature rest heap (.error e,heap) []
  | full (e : Error) (next : Heap) (discarded : heap.discard h = .ok next) :
      BackStep p settings h feature rest heap (.error e,next) (heap.discardLives h)
  | absent (e : Error) (dead : heap.get? h = none) : BackStep p settings h feature rest heap (.error e,heap) []
  | lost (target : String) (t : ClassType) (list : Handle) (next : Heap) (e : Error)
      (made : heap.alloc settings (.list ⟨t.id,[],some h⟩) = .ok (list,next)) (gone : ∀ o, next.get? h ≠ some (.object o)) :
      BackStep p settings h feature rest heap (.error e,next) [.issued list]
  | backed (target : String) (t : ClassType) (list : Handle) (next : Heap) (o : ObjectData)
      (isMany : feature.kind = .reference target true) (named : p.classNamed? target = some t)
      (made : heap.alloc settings (.list ⟨t.id,[],some h⟩) = .ok (list,next))
      (found : next.get? h = some (.object o)) :
      BackStep p settings h feature rest heap
        (backFeatures p settings h rest (next.putObject h (o.setValue feature.id (.list list))))
        (.issued list :: backFeaturesLives p settings h rest (next.putObject h (o.setValue feature.id (.list list))))

theorem backFeatures_of_single (p : Package) (settings : HeapSettings) (h : Handle) (heap : Heap) {feature : Feature}
    (rest : List Feature) (single : ∀ target, feature.kind ≠ .reference target true) :
    backFeatures p settings h (feature :: rest) heap = backFeatures p settings h rest heap ∧
      backFeaturesLives p settings h (feature :: rest) heap = backFeaturesLives p settings h rest heap := by
  constructor
  · rw [backFeatures]
    split
    · rename_i target isMany
      exact absurd isMany (single target)
    · rfl
  · rw [backFeaturesLives]
    split
    · rename_i target isMany
      exact absurd isMany (single target)
    · rfl

/-- The lists of an object are made feature by feature, and each feature is one of these steps. -/
theorem backFeatures_cons (p : Package) (settings : HeapSettings) (h : Handle) (heap : Heap) (feature : Feature)
    (rest : List Feature) :
    BackStep p settings h feature rest heap (backFeatures p settings h (feature :: rest) heap)
      (backFeaturesLives p settings h (feature :: rest) heap) := by
  by_cases many : ∃ target, feature.kind = .reference target true
  · obtain ⟨target,isMany⟩ := many
    simp only [backFeatures,backFeaturesLives,isMany]
    cases named : p.requireNamed target with
    | error e =>
      refine .unknown target e isMany ?_
      cases known : p.classNamed? target with
      | none => rfl
      | some t => simp [Package.requireNamed,known] at named
    | ok t =>
      simp only
      cases made : heap.alloc settings (.list ⟨t.id,[],some h⟩) with
      | error e =>
        simp only
        cases discarded : heap.discard h with
        | error e' =>
          have kept := take?_of_discard_error discarded
          rw [discardLives,kept]
          exact .absent e' (Arena.erase?_eq_none_iff.mp kept)
        | ok next => exact .full e next discarded
      | ok result =>
        obtain ⟨list,next⟩ := result
        simp only
        cases found : next.object h with
        | error e =>
          refine .lost target t list next e made fun o known => ?_
          rw [object_eq_ok_iff.mpr known] at found
          cases found
        | ok o =>
          exact .backed target t list next o isMany (Package.requireNamed_eq_ok_iff.mp named) made
            (object_eq_ok_iff.mp found)
  · have single : ∀ target, feature.kind ≠ .reference target true := fun target isMany => many ⟨target,isMany⟩
    obtain ⟨result,lives⟩ := backFeatures_of_single p settings h heap rest single
    rw [result,lives]
    exact .plain single

/-- What `create` does, with the lives of it: it refuses at once, or makes the object and goes on to its lists. -/
inductive CreateDone (p : Package) (settings : HeapSettings) (c : ClassId) (heap : Heap) :
    Except Error Handle × Heap → List Life → Prop
  | refused (e : Error) : CreateDone p settings c heap (.error e,heap) []
  | made (cls : ClassType) (h : Handle) (next : Heap) (known : p.class? c = some cls)
      (concrete : cls.isAbstract = false) (made : heap.alloc settings (.object (.fresh cls)) = .ok (h,next)) :
      CreateDone p settings c heap
        ((backFeatures p settings h cls.features next).1.map fun _ => h,(backFeatures p settings h cls.features next).2)
        (.issued h :: backFeaturesLives p settings h cls.features next)

/-- Making an object is one of these cases, with the lives that go with it. -/
theorem create_cases (p : Package) (settings : HeapSettings) (c : ClassId) (heap : Heap) :
    CreateDone p settings c heap (create p settings c heap) (createLives p settings c heap) := by
  unfold create createLives
  cases known : p.require c with
  | error e => exact .refused e
  | ok cls =>
    cases isAbstract : cls.isAbstract with
    | true =>
      simp only [isAbstract,if_true]
      exact .refused _
    | false =>
      simp only [isAbstract,Bool.false_eq_true,if_false]
      cases made : heap.alloc settings (.object (.fresh cls)) with
      | error e => exact .refused e
      | ok result =>
        obtain ⟨h,next⟩ := result
        have done := CreateDone.made cls h next (Package.require_eq_ok_iff.mp known) isAbstract made
        simp only
        generalize backFeatures p settings h cls.features next = backed at done ⊢
        obtain ⟨result,last⟩ := backed
        cases result <;> exact done

/-- What `copy` does, with the lives of it: an object is created, and then filled from the source. -/
inductive CopyCase (p : Package) (settings : HeapSettings) (h : Handle) (heap : Heap) :
    Except Error Handle × Heap → List Life → Prop
  | refused (e : Error) (absent : heap.object h = .error e) : CopyCase p settings h heap (.error e,heap) []
  | failed (o : ObjectData) (e : Error) (next : Heap) (found : heap.get? h = some (.object o))
      (created : create p settings o.cls heap = (.error e,next)) :
      CopyCase p settings h heap (.error e,next) (createLives p settings o.cls heap)
  | made (o : ObjectData) (made : Handle) (next : Heap) (found : heap.get? h = some (.object o))
      (created : create p settings o.cls heap = (.ok made,next)) :
      CopyCase p settings h heap ((copyInto made o next).1.map fun _ => made,(copyInto made o next).2)
        (createLives p settings o.cls heap)

/-- Copying an object is one of these cases, with the lives that go with it. -/
theorem copy_cases (p : Package) (settings : HeapSettings) (h : Handle) (heap : Heap) :
    CopyCase p settings h heap (copy p settings h heap) (heap.lives p settings (.copy h)) := by
  simp only [copy,lives]
  cases found : heap.object h with
  | error e => exact .refused e found
  | ok o =>
    simp only
    generalize created : heap.create p settings o.cls = result
    obtain ⟨result,next⟩ := result
    cases result with
    | error e => exact .failed o e next (object_eq_ok_iff.mp found) created
    | ok made =>
      have done := CopyCase.made o made next (object_eq_ok_iff.mp found) created
      simp only
      generalize copyInto made o next = filled at done ⊢
      obtain ⟨result,last⟩ := filled
      cases result <;> exact done

def after (p : Package) (settings : HeapSettings) (heap : Heap) : List (Call Value) → Heap
  | [] => heap
  | c :: rest => after p settings (heap.respond p settings c).2 rest

def history (p : Package) (settings : HeapSettings) (heap : Heap) : List (Call Value) → List Life
  | [] => []
  | c :: rest => heap.lives p settings c ++ history p settings (heap.respond p settings c).2 rest

theorem after_append (p : Package) (settings : HeapSettings) (heap : Heap) (first second : List (Call Value)) :
    heap.after p settings (first ++ second) = (heap.after p settings first).after p settings second := by
  induction first generalizing heap with
  | nil => rfl
  | cons c rest ih => exact ih _

/-- The history of a run in two parts is the history of the first and then that of the second. -/
theorem history_append (p : Package) (settings : HeapSettings) (heap : Heap) (first second : List (Call Value)) :
    heap.history p settings (first ++ second) =
      heap.history p settings first ++ (heap.after p settings first).history p settings second := by
  induction first generalizing heap with
  | nil => rfl
  | cons c rest ih =>
    rw [List.cons_append,history,ih,history,List.append_assoc]
    rfl

end Heap

end HandleBridge
