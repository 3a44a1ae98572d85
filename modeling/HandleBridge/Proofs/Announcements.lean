import HandleBridge.Proofs.ComposedCode
import HandleBridge.Proofs.Inquiries

/-!
Announcements of calls and the entries of a foreign library, side by side. With announcements on, a proxy announces
each of its calls right before the library is entered for it. What the adapter looks up afterwards to explain a failure
enters the library as well, and nobody announces that.
-/

namespace HandleBridge

open Foreign

/-- What there is to see of the calls of a bridge to a library. -/
inductive Sign where
  | announced (call : String) (target : Handle)
  | entered (crossing : Crossing)

namespace Sign

/-- Name and handle of an announcement. -/
def announcement? : Sign → Option (String × Handle)
  | announced call target => some (call,target)
  | entered _ => none

/-- Name and handle of an entry. -/
def entry? : Sign → Option (String × Handle)
  | announced _ _ => none
  | entered crossing => some (crossing.call.name,crossing.call.target)

end Sign

def announcements (signs : List Sign) : List (String × Handle) := signs.filterMap Sign.announcement?

def entries (signs : List Sign) : List (String × Handle) := signs.filterMap Sign.entry?

theorem announcements_append (signs more : List Sign) :
    announcements (signs ++ more) = announcements signs ++ announcements more := List.filterMap_append

theorem entries_append (signs more : List Sign) : entries (signs ++ more) = entries signs ++ entries more :=
  List.filterMap_append

theorem announcements_entered (looks : List Crossing) : announcements (looks.map Sign.entered) = [] := by
  induction looks with
  | nil => rfl
  | cons look rest ih => exact ih

/-- One announced call: its own entry, and what the adapter looked up after it. -/
structure Visit where
  call : Call Value
  outcome : Outcome (call.map RawValue.borrow).Reply
  looks : List Crossing
  few : looks.length ≤ 2
  looking : ∀ look ∈ looks, look.Looks
  occasion : looks ≠ [] → outcome.status = .outOfRange ∨ outcome.status = .typeMismatch

namespace Visit

variable (v : Visit)

/-- Name and handle of the call. -/
def own : String × Handle := (v.call.name,v.call.target)

/-- What there is to see of the call. -/
def signs : List Sign :=
  .announced v.call.name v.call.target :: .entered ⟨v.call.map RawValue.borrow,v.outcome⟩ ::
    v.looks.map Sign.entered

theorem announcements_signs : announcements v.signs = [v.own] :=
  congrArg (v.own :: ·) (announcements_entered v.looks)

/-- The entry has the name and the handle of the announcement. -/
theorem entries_signs : entries v.signs = v.own :: entries (v.looks.map Sign.entered) := by
  obtain ⟨c,outcome,looks⟩ := v
  cases c <;> rfl

end Visit

/-- What was announced for some calls is what was called. -/
theorem announcements_visits (visits : List Visit) :
    announcements (visits.flatMap Visit.signs) = visits.map Visit.own := by
  induction visits with
  | nil => rfl
  | cons v rest ih =>
    rw [List.flatMap_cons,announcements_append,v.announcements_signs,ih,List.map_cons,List.singleton_append]

/-- Without looks it is also what was entered. -/
theorem entries_visits (visits : List Visit) (none : ∀ v ∈ visits, v.looks = []) :
    entries (visits.flatMap Visit.signs) = visits.map Visit.own := by
  induction visits with
  | nil => rfl
  | cons v rest ih =>
    obtain ⟨first,others⟩ := List.forall_mem_cons.mp none
    rw [List.flatMap_cons,entries_append,v.entries_signs,first,ih others,List.map_cons]
    rfl

variable {σ α : Type}

/-- Lets a library answer what proxies ask for, and notes down announcements and entries. -/
def showing (p : Package) (answer : (r : Request) → StateM σ (Answer r)) :
    (e : Effect) → StateM (σ × List Sign) e.Answer
  | .call c => fun (library,signs) =>
    let (result,library,traffic) := (Adapter.call p c).run (Script.transcribing answer) (library,[])
    (result,library,signs ++ (crossings traffic).map Sign.entered)
  | .note (.calling call target) => fun (library,signs) => ((),library,signs ++ [.announced call target])
  | .note _ => pure ()

section Runs

variable {b : Bridge} (p : Package) (answer : (r : Request) → StateM σ (Answer r))

theorem showing_note {e : Event} (other : e.isAnnouncement = false) (state : σ × List Sign) :
    showing p answer (.note e) state = ((),state) := by
  cases e with
  | calling => cases other
  | _ => rfl

/-- Making a call shows its own entry and the looks. -/
theorem shows_ask (c : Call Value) (library : σ) (signs : List Sign) :
    ∃ v : Visit, v.call = c ∧ (showing p answer (.call c) (library,signs)).2.2 =
      signs ++ .entered ⟨v.call.map RawValue.borrow,v.outcome⟩ :: v.looks.map Sign.entered := by
  obtain ⟨outcome,looks,entered,handled⟩ := (Adapter.enters_call (p := p) c).run answer library
  have looking : ∀ look ∈ looks, look.Looks := fun look member => (handled.looking look member).1
  refine ⟨⟨c,outcome,looks,handled.few,looking,handled.occasion⟩,rfl,?_⟩
  show signs ++ (crossings _).map Sign.entered = _
  rw [entered,List.map_cons]

/-- What is reported of a call that failed shows nothing. -/
theorem run_reportFailure (c : Call Value) (result : Except Error c.Reply) (state : σ × List Sign) :
    ((Bridge.reportFailure c result).run (showing p answer) state).2 = state := by
  cases result with
  | ok reply => rfl
  | error e => rfl

/-- A call of a bridge that announces its calls shows as one visit. -/
theorem shows_call (tracing : b.config.traceCalls = true) (c : Call Value) (library : σ) (signs : List Sign) :
    ∃ v : Visit, ((b.call c).run.run (showing p answer) (library,signs)).2.2 = signs ++ v.signs := by
  obtain ⟨v,rfl,asked⟩ := shows_ask p answer c library (signs ++ [.announced c.name c.target])
  refine ⟨v,?_⟩
  rw [Bridge.call_run,Bridge.announce,if_pos tracing,Script.run_seq,Script.run_seq,Script.run_seq]
  show ((Bridge.reportFailure v.call _).run _ (showing p answer (.call v.call) (library,signs ++ [_])).2).2.2 = _
  rw [run_reportFailure,asked,Visit.signs,List.append_assoc,List.singleton_append]

theorem shows_composed {r : Routine α} (tracing : b.config.traceCalls = true) (composed : Routine.Composed b r)
    (library : σ) (signs : List Sign) :
    ∃ visits : List Visit, (r.run (showing p answer) (library,signs)).2.2 = signs ++ visits.flatMap Visit.signs := by
  induction composed generalizing library signs with
  | pure a => exact ⟨[],(List.append_nil signs).symm⟩
  | note e other =>
    refine ⟨[],?_⟩
    show (showing p answer (.note e) (library,signs)).2.2 = _
    rw [showing_note p answer other]
    exact (List.append_nil signs).symm
  | call c =>
    obtain ⟨v,shown⟩ := shows_call p answer tracing c library signs
    exact ⟨[v],by simpa using shown⟩
  | @bind _ _ r f first rest firstShows restShows =>
    obtain ⟨visits,shown⟩ := firstShows library signs
    rw [Script.run_seq]
    generalize r.run (showing p answer) (library,signs) = result at shown ⊢
    obtain ⟨a,library,signs⟩ := result
    obtain ⟨more,later⟩ := restShows a library signs
    refine ⟨visits ++ more,?_⟩
    rw [later,List.flatMap_append,← List.append_assoc]
    exact congrArg (· ++ _) shown

end Runs

/-- What a host program does with proxies: an operation, or letting one go. -/
inductive Deed where
  | operation (op : Operation)
  | drop (p : Proxy)

namespace Deed

def work (b : Bridge) : Deed → Routine Unit
  | operation op => do let _ ← (op.action b).run
  | drop p => p.drop b

theorem composed (b : Bridge) (deed : Deed) : Routine.Composed b (deed.work b) := by
  cases deed with
  | operation op => exact Routine.Composed.bind (op.composed b) fun _ => .pure ()
  | drop p => exact p.composed_drop b

end Deed

/-- What there is to see of each of some deeds, done one after another on a library. -/
def signsOf (b : Bridge) (p : Package) (answer : (r : Request) → StateM σ (Answer r)) :
    List Deed → σ → List (List Sign)
  | [],_ => []
  | deed :: rest,library =>
    let (_,library,signs) := (deed.work b).run (showing p answer) (library,[])
    signs :: signsOf b p answer rest library

/-- Whether a crossing is one after which the adapter may look further. -/
def Foreign.Crossing.Unclear (crossing : Crossing) : Prop :=
  crossing.outcome.status = .outOfRange ∨ crossing.outcome.status = .typeMismatch

/-- In every sequence of operations on proxies, whatever the library answers, a bridge that announces its calls does so
for each of them, right before the entry of that name is entered for that handle, and announces nothing else. What is
entered beyond that is at most two looks at a class or a length after a call that found a range or a type wrong. So a
step in which no such call fails announces exactly what it enters. -/
theorem calls_announced {b : Bridge} (tracing : b.config.traceCalls = true) (p : Package)
    (answer : (r : Request) → StateM σ (Answer r)) (deeds : List Deed) (library : σ) :
    ∀ signs ∈ signsOf b p answer deeds library,
      (∃ visits : List Visit, signs = visits.flatMap Visit.signs ∧ announcements signs = visits.map Visit.own) ∧
        ((∀ crossing, .entered crossing ∈ signs → ¬crossing.Unclear) → announcements signs = entries signs) := by
  induction deeds generalizing library with
  | nil => exact nofun
  | cons deed rest ih =>
    refine List.forall_mem_cons.mpr ⟨?_,ih _⟩
    obtain ⟨visits,shown⟩ := shows_composed p answer tracing (deed.composed b) library []
    rw [List.nil_append] at shown
    rw [shown]
    refine ⟨⟨visits,rfl,announcements_visits visits⟩,fun clear => ?_⟩
    rw [announcements_visits,entries_visits visits fun v member => ?_]
    by_contra looked
    refine clear ⟨v.call.map RawValue.borrow,v.outcome⟩ ?_ (v.occasion looked)
    exact List.mem_flatMap.mpr ⟨v,member,by simp [Visit.signs]⟩

/-- A bridge that announces its calls. -/
def announcing : Bridge := ⟨forest,{ traceCalls := true }⟩

/-- The first node that is made. -/
def firstNode : ObjectProxy :=
  ⟨.owning (.ofSlot 0 1),.ofSlot 0 1,⟨⟨1⟩,"Node",[],false,[⟨⟨0⟩,"tag",.reference "Tag" false,.null⟩,
    ⟨⟨1⟩,"children",.reference "Node" true,.null⟩]⟩⟩

/-- A node is made, its tag is set to the node itself, and it is let go. -/
def taggedWithItself : List Deed :=
  [.operation (.createAs .reflective "Node"),
    .operation (.set firstNode ⟨0⟩ (.object (.ofSlot 0 1))),.drop firstNode.proxy]

/-- What each of these steps shows with a library that follows no script. -/
def taggedSigns : List (List Sign) := signsOf announcing forest (Library.answer forest {}) taggedWithItself {}

/-- A node is no tag. The library is entered twice more to say so, and that is not announced. -/
theorem looks_unannounced :
    taggedSigns.map announcements =
        [[("create",.null),("upcast",.ofSlot 0 1),("class_of",.ofSlot 0 1)],[("e_set",.ofSlot 0 1)],
          [("destroy",.ofSlot 0 1)]] ∧
      taggedSigns.map entries =
        [[("create",.null),("upcast",.ofSlot 0 1),("class_of",.ofSlot 0 1)],
          [("e_set",.ofSlot 0 1),("class_of",.ofSlot 0 1),("class_of",.ofSlot 0 1)],
          [("destroy",.ofSlot 0 1)]] ∧
      ¬∀ signs ∈ taggedSigns, announcements signs = entries signs := by
  refine ⟨?_,?_,?_⟩
  · decide +kernel
  · decide +kernel
  · decide +kernel

/-- Leaving out the looks, the three steps announce what they enter. -/
theorem tagged_announced :
    announcing.config.traceCalls = true ∧ ∀ signs ∈ taggedSigns,
      ∃ visits : List Visit, signs = visits.flatMap Visit.signs ∧ announcements signs = visits.map Visit.own := by
  refine ⟨rfl,fun signs member => ?_⟩
  exact (@calls_announced _ announcing rfl forest (Library.answer forest {}) taggedWithItself {} signs member).1

end HandleBridge
