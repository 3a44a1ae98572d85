import HandleBridge.Proofs.ForeignCalls
import HandleBridge.Proofs.PlainCode

/-!
Sessions over either boundary. A relation between work over the heap and work over a library in front of an equal
heap is carried through the operations of proxies, the steps and a whole session: what succeeds over one succeeds
over the other with the same result, and what fails fails with the same status. Errors themselves may differ, and so
may what is reported of them.
-/

namespace HandleBridge

open Session

/-- Whether two libraries keep equal heaps, and the second follows no script. -/
structure Foreign.Library.Twins (one other : Library) : Prop where
  heap : other.native.heap = one.native.heap
  unscripted : other.faults = []

variable (b : Bridge) {α β γ δ : Type}

/-- Whether work on the heap and work through the library come to related results, and to equal heaps. -/
def Alike (R : α → β → Prop) (r : Routine α) (s : Routine β) : Prop :=
  ∀ one other : Foreign.Library, one.Twins other →
    R (Setup.run ⟨b,.inMemory⟩ r one).1 (Setup.run ⟨b,.foreign⟩ s other).1 ∧
      (Setup.run ⟨b,.inMemory⟩ r one).2.Twins (Setup.run ⟨b,.foreign⟩ s other).2

namespace Alike

variable {b} {R : α → β → Prop} {S : γ → δ → Prop}

theorem pure {a : α} {c : β} (related : R a c) : Alike b R (Pure.pure a) (Pure.pure c) :=
  fun _ _ twins => ⟨related,twins⟩

theorem bind {r : Routine α} {s : Routine β} {f : α → Routine γ} {g : β → Routine δ} (first : Alike b R r s)
    (rest : ∀ a c, R a c → Alike b S (f a) (g c)) : Alike b S (r >>= f) (s >>= g) := by
  intro one other twins
  obtain ⟨related,twins⟩ := first one other twins
  unfold Setup.run
  rw [Script.run_seq,Script.run_seq]
  exact rest _ _ related _ _ twins

theorem mono {T : α → β → Prop} {r : Routine α} {s : Routine β} (alike : Alike b R r s)
    (implies : ∀ a c, R a c → T a c) : Alike b T r s :=
  fun one other twins => (alike one other twins).imp_left (implies _ _)

/-- Reports change no heap. -/
theorem note (e e' : Event) : Alike b Eq (Routine.note e) (Routine.note e') :=
  fun _ _ twins => ⟨rfl,twins.heap,twins.unscripted⟩

/-- The library answers a call as the heap does, up to the error. -/
theorem ask (c : Call Value) : Alike b (Agrees Eq) (Routine.ask c) (Routine.ask c) := by
  intro one other twins
  obtain ⟨related,keeps⟩ := Foreign.Adapter.leads_call c other ⟨twins.heap,twins.unscripted⟩
  exact ⟨related.mono fun _ _ => And.left,keeps.heap,keeps.unscripted⟩

end Alike

/-- Whether actions come to related results, or to failures of one status. -/
def Acts (R : α → β → Prop) (x : Action α) (y : Action β) : Prop := Alike b (Agrees R) x.run y.run

/-- Whether an action comes to the same over either boundary. -/
def Steady (x : Action α) : Prop := Acts b Eq x x

namespace Acts

variable {b} {R : α → β → Prop} {S : γ → δ → Prop} {x : Action α} {y : Action β}

theorem pure {a : α} {c : β} (related : R a c) : Acts b R (Pure.pure a) (Pure.pure c) := Alike.pure (.ok related)

theorem bind {f : α → Action γ} {g : β → Action δ} (first : Acts b R x y)
    (rest : ∀ a c, R a c → Acts b S (f a) (g c)) : Acts b S (x >>= f) (y >>= g) := by
  refine Alike.bind first fun result result' agrees => ?_
  cases agrees with
  | ok related => exact rest _ _ related
  | error status => exact Alike.pure (.error status)

theorem map {f : α → γ} {g : β → δ} (acts : Acts b R x y) (implies : ∀ a c, R a c → S (f a) (g c)) :
    Acts b S (f <$> x) (g <$> y) := by
  rw [map_eq_pure_bind,map_eq_pure_bind]
  exact acts.bind fun a c related => pure (implies a c related)

theorem lift {r : Routine α} {s : Routine β} (alike : Alike b R r s) :
    Acts b R (liftM r : Action α) (liftM s : Action β) :=
  Alike.bind alike fun _ _ related => Alike.pure (.ok related)

/-- Work after steady work goes on with one result. -/
theorem after {x : Action α} {f : α → Action γ} {g : α → Action δ} (first : Steady b x)
    (rest : ∀ a, Acts b S (f a) (g a)) : Acts b S (x >>= f) (x >>= g) := by
  refine first.bind ?_
  rintro a _ rfl
  exact rest a

end Acts

namespace Steady

variable {b} {x : Action α}

theorem pure (a : α) : Steady b (Pure.pure a) := Acts.pure rfl

theorem throw (e : Error) : Steady b (throw e : Action α) := Alike.pure (.error rfl)

theorem bind {f : α → Action β} (first : Steady b x) (rest : ∀ a, Steady b (f a)) : Steady b (x >>= f) :=
  Acts.after first rest

theorem map (f : α → β) (steady : Steady b x) : Steady b (f <$> x) := Acts.map steady fun _ _ => congrArg f

theorem note (e : Event) : Steady b (liftM (Routine.note e) : Action Unit) := Acts.lift (Alike.note e e)

/-- A boundary call is steady, as the library answers what the heap answers. -/
theorem call (d : Bridge) (c : Call Value) : Steady b (d.call c) := by
  show Alike b (Agrees Eq) (d.call c).run (d.call c).run
  rw [Bridge.call_run]
  have announced : Alike b Eq (d.announce c) (d.announce c) := by
    unfold Bridge.announce
    split
    · exact .note _ _
    · exact .pure rfl
  refine announced.bind fun _ _ _ => (Alike.ask c).bind fun answer answer' agrees => ?_
  have reported : Alike b Eq (Bridge.reportFailure c answer) (Bridge.reportFailure c answer') := by
    cases agrees with
    | ok => exact .pure rfl
    | error => exact .note _ _
  exact reported.bind fun _ _ _ => .pure agrees

end Steady

variable {b}

/-- Plain work is steady. -/
theorem Plain.steady {x : Action α} (plain : Plain x) : Steady b x := by
  induction plain with
  | pure a => exact .pure a
  | throw e => exact .throw e
  | call d c => exact .call d c
  | bind first rest firstSteady restSteady => exact firstSteady.bind restSteady

/-! ### Proxies -/

variable (b) (p : Proxy) (view : View) (name : String) (required : Option String)

/-- Releasing is steady. -/
theorem Proxy.steady_release : Steady b (p.release b) := by
  cases owns : p.owns with
  | false =>
    rw [Proxy.release_of_not_owns b owns]
    exact .pure false
  | true =>
    rw [Proxy.release_of_owns b owns]
    exact (Steady.note _).bind fun _ => (Steady.call b _).bind fun _ => .pure true

/-- A proxy goes away alike, whatever is reported of it. -/
theorem Proxy.alike_drop : Alike b Eq (p.drop b) (p.drop b) := by
  refine Alike.bind (p.steady_release b) fun result result' agrees => ?_
  cases agrees with
  | ok => exact .pure rfl
  | error => exact .note _ _

theorem Proxy.steady_adopt (h : Handle) : Steady b (liftM (Proxy.adopt h) : Action Proxy) :=
  Acts.lift ((Alike.note _ _).bind fun _ _ _ => .pure rfl)

namespace Bridge

/-- Wrapping is steady, with what it drops when it fails. -/
theorem steady_wrap : Steady b (b.wrap required p) := by
  refine Alike.bind (b.plain_inspect p required).steady fun result result' agrees => ?_
  cases agrees with
  | ok same =>
    cases same
    exact .pure (.ok rfl)
  | error status => exact (p.alike_drop b).bind fun _ _ _ => .pure (.error status)

theorem steady_createAs : Steady b (b.createAs view name) :=
  (Plain.lift _).steady.bind fun _ => (Steady.call b _).bind fun h => (Steady.note _).bind fun _ =>
    b.steady_wrap (.owning h) view.required

theorem steady_create : Steady b (b.create view) :=
  (Plain.lift _).steady.bind fun name => b.steady_createAs view name

theorem steady_adopt (h : Handle) : Steady b (b.adopt view h) := by
  unfold adopt
  split
  · exact (Proxy.steady_adopt b _).bind fun p => (b.steady_wrap p view.required).map some
  · exact .pure none

theorem steady_createListOf : Steady b (b.createListOf view name) :=
  (Plain.lift _).steady.bind fun _ => (Plain.lift _).steady.bind fun _ => (Steady.call b _).bind fun _ =>
    (Steady.note _).bind fun _ => .pure _

theorem steady_createList : Steady b (b.createList view) :=
  (Plain.lift _).steady.bind fun name => b.steady_createListOf view name

end Bridge

theorem ObjectProxy.steady_duplicate (o : ObjectProxy) : Steady b (o.duplicate b view) :=
  (Plain.lift _).steady.bind fun _ => (Steady.call b _).bind fun copy => (Steady.note _).bind fun _ =>
    b.steady_wrap (.owning copy) view.required

namespace ListProxy

variable (l : ListProxy)

/-- Iterations meet the same elements, and errors of one status at the same places. -/
theorem alike_itemsFrom (i : UInt64) (count : Nat) :
    Alike b (List.Forall₂ (Agrees Eq)) (l.itemsFrom b i count) (l.itemsFrom b i count) := by
  induction count generalizing i with
  | zero => exact .pure .nil
  | succ count ih =>
    exact Alike.bind (l.plain_elementAt b i).steady fun _ _ first => (ih (i + 1)).bind fun _ _ others =>
      .pure (.cons first others)

theorem acts_iterate :
    Acts b (fun x y => x.1 = y.1 ∧ List.Forall₂ (Agrees Eq) x.2 y.2) (l.iterate b) (l.iterate b) :=
  Acts.after (l.plain_size b).steady fun n => (Acts.lift (alike_itemsFrom b l 0 n.toNat)).bind fun _ _ items =>
    .pure ⟨rfl,items⟩

theorem acts_iterateClearing :
    Acts b (List.Forall₂ (Agrees Eq)) (l.iterateClearing b) (l.iterateClearing b) := by
  refine Acts.after (l.plain_size b).steady fun n => ?_
  cases n.toNat with
  | zero => exact .pure .nil
  | succ count =>
    exact (Acts.lift (l.plain_elementAt b 0).steady).bind fun _ _ first => Acts.after (l.plain_clear b).steady fun _ =>
      (Acts.lift (alike_itemsFrom b l 1 count)).bind fun _ _ others => .pure (.cons first others)

end ListProxy

namespace Session

/-! ### Work on a session -/

/-- Whether a step ends alike over either boundary: with related answers, or for reasons that agree. -/
inductive Ends {α β : Type} (R : α → β → Prop) : Except Stop α → Except Stop β → Prop where
  | ok {a : α} {c : β} (related : R a c) : Ends R (.ok a) (.ok c)
  | failed {e e' : Error} (status : e.status = e'.status) : Ends R (.error (.failed e)) (.error (.failed e'))
  | misuse : Ends R (.error .misuse) (.error .misuse)

/-- Whether work on a session ends alike and leaves one session. -/
def Stands (R : α → β → Prop) (x : Stage α) (y : Stage β) : Prop :=
  ∀ s : State, Alike b (fun u v => Ends R u.1 v.1 ∧ u.2 = v.2) (x.run.run s) (y.run.run s)

namespace Stands

variable {b} {R : α → β → Prop} {S : γ → δ → Prop} {x : Stage α} {y : Stage β}

theorem pure {a : α} {c : β} (related : R a c) : Stands b R (Pure.pure a) (Pure.pure c) :=
  fun _ => Alike.pure ⟨.ok related,rfl⟩

theorem bind {f : α → Stage γ} {g : β → Stage δ} (first : Stands b R x y)
    (rest : ∀ a c, R a c → Stands b S (f a) (g c)) : Stands b S (x >>= f) (y >>= g) := by
  intro s
  rw [Stage.run_bind,Stage.run_bind]
  refine (first s).bind ?_
  rintro ⟨result,u⟩ ⟨result',v⟩ ⟨ends,rfl⟩
  cases ends with
  | ok related => exact rest _ _ related u
  | failed status => exact Alike.pure ⟨.failed status,rfl⟩
  | misuse => exact Alike.pure ⟨.misuse,rfl⟩

theorem act {x : Action α} {y : Action β} (acts : Acts b R x y) : Stands b R (Stage.act x) (Stage.act y) := by
  intro s
  rw [Stage.run_act,Stage.run_act]
  refine Alike.bind acts fun result result' agrees => ?_
  cases agrees with
  | ok related => exact .pure ⟨.ok related,rfl⟩
  | error status => exact .pure ⟨.failed status,rfl⟩

theorem always {r : Routine α} {s : Routine β} (alike : Alike b R r s) :
    Stands b R (Stage.always r) (Stage.always s) := by
  intro u
  rw [Stage.run_always,Stage.run_always]
  exact alike.bind fun _ _ related => .pure ⟨.ok related,rfl⟩

/-- Work after work that answers the same goes on with one answer. -/
theorem after {x : Stage α} {f : α → Stage γ} {g : α → Stage δ} (first : Stands b Eq x x)
    (rest : ∀ a, Stands b S (f a) (g a)) : Stands b S (x >>= f) (x >>= g) := by
  refine first.bind ?_
  rintro a _ rfl
  exact rest a

theorem modify (change : State → State) : Stands b Eq (modify change : Stage Unit) (modify change) :=
  fun _ => Alike.pure ⟨.ok rfl,rfl⟩

end Stands

variable {b}

/-- Work that looks only ends alike. -/
theorem Looks.stands {x : Stage α} (looks : Looks x) : Stands b Eq x x := by
  induction looks with
  | pure a => exact .pure rfl
  | stop reason =>
    intro s
    cases reason with
    | failed e => exact Alike.pure ⟨.failed rfl,rfl⟩
    | misuse => exact Alike.pure ⟨.misuse,rfl⟩
  | state => exact fun _ => Alike.pure ⟨.ok rfl,rfl⟩
  | act plain => exact .act plain.steady
  | bind first rest firstStands restStands => exact .after firstStands restStands

/-- Whether two answers agree. Items of an iteration may be errors, which agree in their status. -/
inductive Result.Agrees : Result → Result → Prop where
  | same (r : Result) : Agrees r r
  | iteration (length : UInt64) {xs ys : List Item} (items : List.Forall₂ (HandleBridge.Agrees Eq) xs ys) :
    Agrees (.iteration length xs) (.iteration length ys)
  | items {xs ys : List Item} (items : List.Forall₂ (HandleBridge.Agrees Eq) xs ys) : Agrees (.items xs) (.items ys)

theorem Result.Agrees.handle?_eq {r s : Result} (agrees : r.Agrees s) : r.handle? = s.handle? := by
  cases agrees <;> rfl

variable (b) in
/-- Whether work answers results that agree. -/
abbrev Answers (x : Stage Result) : Prop := Stands b Result.Agrees x x

theorem Answers.of_same {x : Stage Result} (stands : Stands b Eq x x) : Answers b x := by
  intro s
  refine (stands s).mono ?_
  rintro ⟨result,u⟩ ⟨result',v⟩ ⟨ends,same⟩
  refine ⟨?_,same⟩
  cases ends with
  | ok related =>
    cases related
    exact .ok (.same _)
  | failed status => exact .failed status
  | misuse => exact .misuse

variable (b)

/-- Every operation on a list answers alike. -/
theorem ListStep.answers_perform (l : ListProxy) (step : ListStep) : Answers b (step.perform b l) := by
  cases iterates : step.iterates with
  | false => exact .of_same (step.looks_perform b l iterates).stands
  | true =>
    cases step with
    | iterate =>
      refine Stands.act ((l.acts_iterate b).bind ?_)
      rintro ⟨length,xs⟩ ⟨_,ys⟩ ⟨rfl,items⟩
      exact .pure (.iteration length items)
    | iterateClearing =>
      exact Stands.act ((l.acts_iterateClearing b).map fun _ _ items => .items items)
    | _ => cases iterates

/-- A step that handles no proxy answers alike. -/
theorem Step.answers_looking (step : Step) (handling : step.isHandling = false) (native : step.isNative = false) :
    Answers b (step.perform b) := by
  cases sequential : step.isSequential with
  | false => exact .of_same (step.looks_perform b handling sequential native).stands
  | true =>
    cases step with
    | onFeature name f element step =>
      refine .after (Looks.object name).stands fun o => ?_
      exact .after (Looks.act (o.plain_list b f element.toView)).stands fun l => step.answers_perform b l
    | onSequence name accessor step =>
      exact .after (Looks.viewed name).stands fun _ => .after (Looks.need _).stands fun s =>
        .after (Looks.act (ObjectProxy.plain_list b _ s.feature s.element)).stands fun l => step.answers_perform b l
    | onList name step => exact .after (Looks.list name).stands fun l => step.answers_perform b l
    | _ => cases sequential

theorem stands_forget (name : String) : Stands b Eq (Stage.forget name) (Stage.forget name) := .modify _

theorem stands_update (name : String) (held : Held) : Stands b Eq (Stage.update name held) (Stage.update name held) :=
  .after (stands_forget b name) fun _ => .modify _

/-- Keeping a proxy leaves one session, with the proxy that it replaces dropped in both. -/
theorem stands_keep (name : String) (held : Held) : Stands b Eq (Stage.keep b name held) (Stage.keep b name held) := by
  refine .after Looks.state.stands fun s => ?_
  have kept := stands_update b name held
  dsimp only
  split
  · exact .after (.always (Proxy.alike_drop b _)) fun _ => kept
  · exact kept

theorem stands_takeBare (name : String) : Stands b Eq (Stage.takeBare name) (Stage.takeBare name) := by
  refine .after (Looks.find name).stands fun held => ?_
  split
  · exact .after (stands_forget b name) fun _ => .pure rfl
  · exact (Looks.stop _).stands

theorem stands_keepObject (view : TypedView) (as : String) {making : Action ObjectProxy} (steady : Steady b making) :
    Stands b Eq (Step.keepObject b view as making) (Step.keepObject b view as making) :=
  .after (.act steady) fun o => .after (stands_keep b as (.object o view)) fun _ => .pure rfl

theorem stands_keepObject? (view : TypedView) (as : String) {making : Action (Option ObjectProxy)}
    (steady : Steady b making) :
    Stands b Eq (Step.keepObject? b view as making) (Step.keepObject? b view as making) := by
  refine .after (.act steady) fun o => ?_
  cases o with
  | some o => exact .after (stands_keep b as (.object o view)) fun _ => .pure rfl
  | none => exact .pure rfl

theorem stands_keepList (as : String) {making : Action ListProxy} (steady : Steady b making) :
    Stands b Eq (Step.keepList b as making) (Step.keepList b as making) :=
  .after (.act steady) fun l => .after (stands_keep b as (.list l)) fun _ => .pure rfl

theorem stands_native (call : Handle → Handle → Value → Call Value) (target second : HandleRef) (v : Operand) :
    Stands b Eq (Step.perform b (.native call target second v)) (Step.perform b (.native call target second v)) :=
  .after (Looks.resolve target).stands fun h => .after (Looks.resolve second).stands fun k =>
    .after (Looks.evaluate v).stands fun v => .act (Steady.bind (Alike.ask (call h k v)) fun _ => .pure _)

/-- A step that handles proxies leaves the same proxies over either boundary. -/
theorem Step.stands_handling (step : Step) (handling : step.isHandling = true) :
    Stands b Eq (step.perform b) (step.perform b) := by
  cases step with
  | create view as => exact stands_keepObject b view as (b.steady_create _)
  | createAs view cls as => exact stands_keepObject b view as (b.steady_createAs _ cls)
  | wrap h view as =>
    exact .after (Looks.resolve h).stands fun k => stands_keepObject? b view as (b.plain_wrapBorrowed _ k).steady
  | adopt h view as =>
    exact .after (Looks.resolve h).stands fun k => stands_keepObject? b view as (b.steady_adopt _ k)
  | borrowBare h as =>
    exact .after (Looks.resolve h).stands fun k => .after (stands_keep b as _) fun _ => .pure rfl
  | adoptBare h as =>
    refine .after (Looks.resolve h).stands fun k => .after (.always ?_) fun p => ?_
    · exact (Alike.note _ _).bind fun _ _ _ => .pure rfl
    · exact .after (stands_keep b as _) fun _ => .pure rfl
  | fromBare name view as =>
    exact .after (stands_takeBare b name) fun p => stands_keepObject b view as (b.steady_wrap p _)
  | fromBareOf name cls as =>
    exact .after (stands_takeBare b name) fun p => stands_keepObject b .reflective as (b.steady_wrap p cls)
  | toBare name as =>
    exact .after (Looks.object name).stands fun o => .after (stands_forget b name) fun _ =>
      .after (stands_keep b as _) fun _ => .pure rfl
  | toHandle name => exact .after (stands_takeBare b name) fun _ => .pure rfl
  | release name =>
    exact .after (Looks.find name).stands fun held => .after (stands_update b name _) fun _ =>
      .act ((held.proxy.steady_release b).map _)
  | drop name =>
    exact .after (Looks.find name).stands fun held => .after (stands_forget b name) fun _ =>
      .after (.always (held.proxy.alike_drop b)) fun _ => .pure rfl
  | duplicate name view as =>
    exact .after (Looks.object name).stands fun o => stands_keepObject b view as (o.steady_duplicate b _)
  | createList element as => exact stands_keepList b as (b.steady_createList _)
  | createListOf element cls as => exact stands_keepList b as (b.steady_createListOf _ cls)
  | borrowList h cls element as =>
    exact .after (Looks.resolve h).stands fun k => stands_keepList b as (Plain.lift _).steady
  | _ => cases handling

/-- Every step answers alike over either boundary. -/
theorem Step.answers_perform (step : Step) : Answers b (step.perform b) := by
  cases handling : step.isHandling with
  | true => exact .of_same (step.stands_handling b handling)
  | false =>
    cases native : step.isNative with
    | false => exact step.answers_looking b handling native
    | true =>
      cases step with
      | native call target second v => exact .of_same (stands_native b call target second v)
      | _ => cases native

/-- So does every step that saves its handle. -/
theorem Step.answers_performSaving (step : Step) (as : Option String) : Answers b (step.performSaving b as) := by
  refine .bind (step.answers_perform b) fun r r' agrees => ?_
  have saving := agrees.handle?_eq
  cases as with
  | none => exact .pure agrees
  | some name =>
    dsimp only
    rw [saving]
    cases r'.handle? with
    | none => exact .pure agrees
    | some h => exact .after (.modify _) fun _ => .pure agrees

theorem alike_dropAll (proxies : List (String × Held)) :
    Alike b Eq (proxies.forM fun (_,held) => held.proxy.drop b) (proxies.forM fun (_,held) => held.proxy.drop b) := by
  induction proxies with
  | nil => exact .pure rfl
  | cons entry rest ih => exact (entry.2.proxy.alike_drop b).bind fun _ _ _ => ih

/-! ### Whole sessions -/

/-- Whether a command tells the library nothing ahead. -/
def Command.isFaultFree : Command → Bool
  | .aside (.script ..) | .aside (.scriptHandle ..) => false
  | _ => true

/-- Whether two sessions hold the same proxies, over equal heaps. -/
structure World.Twins (one other : World) : Prop where
  state : other.state = one.state
  library : one.library.Twins other.library

/-- Whether the heap counts the same at two times. -/
structure Tail.SameCounts (t u : Tail) : Prop where
  live : u.live = t.live
  created : u.created = t.created
  destroyed : u.destroyed = t.destroyed

/-- Whether two commands answer alike and leave the same counts. -/
def SameTurns (t u : Except Stop Result × Tail) : Prop := Ends Result.Agrees t.1 u.1 ∧ t.2.SameCounts u.2

/-- Whether two sessions succeed at the same commands with the same results and counts, and end with the same
counts. -/
def SameRuns (x y : List (Except Stop Result × Tail) × Tail) : Prop :=
  List.Forall₂ SameTurns x.1 y.1 ∧ x.2.SameCounts y.2

namespace World.Twins

variable {b} {one other : World} {R : α → β → Prop}

theorem stage {x : Stage α} {y : Stage β} (twins : one.Twins other) (stands : Stands b R x y) :
    Ends R (Setup.stage ⟨b,.inMemory⟩ x one).1 (Setup.stage ⟨b,.foreign⟩ y other).1 ∧
      (Setup.stage ⟨b,.inMemory⟩ x one).2.Twins (Setup.stage ⟨b,.foreign⟩ y other).2 := by
  obtain ⟨⟨ends,same⟩,library⟩ := stands one.state one.library other.library twins.library
  unfold Setup.stage
  rw [twins.state]
  exact ⟨ends,same.symm,library⟩

/-- A command that tells the library nothing ahead leaves twins that answered alike. -/
theorem perform (twins : one.Twins other) {c : Command} (faultFree : c.isFaultFree = true) :
    Ends Result.Agrees (World.perform ⟨b,.inMemory⟩ c one).1 (World.perform ⟨b,.foreign⟩ c other).1 ∧
      (World.perform ⟨b,.inMemory⟩ c one).2.Twins (World.perform ⟨b,.foreign⟩ c other).2 := by
  cases c with
  | step step as => exact twins.stage (step.answers_performSaving b as)
  | aside a =>
    cases a with
    | isLive h =>
      have resolved := twins.stage (b := b) (Looks.resolve h).stands
      simp only [World.perform,World.performAside,bind,StateT.bind]
      generalize Setup.stage ⟨b,.inMemory⟩ (Stage.resolve h) one = here at resolved ⊢
      generalize Setup.stage ⟨b,.foreign⟩ (Stage.resolve h) other = there at resolved ⊢
      obtain ⟨result,one⟩ := here
      obtain ⟨result',other⟩ := there
      obtain ⟨ends,twins⟩ := resolved
      cases ends with
      | ok same =>
        cases same
        have heap : other.library.native.heap = one.library.native.heap := twins.library.heap
        refine ⟨.ok ?_,twins⟩
        show Result.Agrees (.flag (one.library.native.heap.isLive _)) (.flag (other.library.native.heap.isLive _))
        rw [heap]
        exact .same _
      | failed status => exact ⟨.failed status,twins⟩
      | misuse => exact ⟨.misuse,twins⟩
    | script | scriptHandle => cases faultFree

theorem observe (twins : one.Twins other) :
    (World.observe one).1.SameCounts (World.observe other).1 ∧
      (World.observe one).2.Twins (World.observe other).2 := by
  have heap := twins.library.heap
  exact ⟨⟨congrArg Arena.live heap,congrArg Arena.created heap,congrArg Arena.destroyed heap⟩,
    twins.state,heap,twins.library.unscripted⟩

/-- So does a turn, which also counts alike. -/
theorem turn (twins : one.Twins other) {c : Command} (faultFree : c.isFaultFree = true) :
    SameTurns (World.turn ⟨b,.inMemory⟩ c one).1 (World.turn ⟨b,.foreign⟩ c other).1 ∧
      (World.turn ⟨b,.inMemory⟩ c one).2.Twins (World.turn ⟨b,.foreign⟩ c other).2 := by
  obtain ⟨ends,twins⟩ := twins.perform (b := b) faultFree
  obtain ⟨counts,twins⟩ := twins.observe
  exact ⟨⟨ends,counts⟩,twins⟩

/-- So do any number of turns. -/
theorem turns (twins : one.Twins other) (commands : List Command)
    (faultFree : ∀ c ∈ commands, c.isFaultFree = true) :
    List.Forall₂ SameTurns (commands.mapM (World.turn ⟨b,.inMemory⟩) one).1
        (commands.mapM (World.turn ⟨b,.foreign⟩) other).1 ∧
      (commands.mapM (World.turn ⟨b,.inMemory⟩) one).2.Twins
        (commands.mapM (World.turn ⟨b,.foreign⟩) other).2 := by
  induction commands generalizing one other with
  | nil => exact ⟨.nil,twins⟩
  | cons c rest ih =>
    obtain ⟨first,others⟩ := List.forall_mem_cons.mp faultFree
    obtain ⟨same,twins⟩ := twins.turn (b := b) first
    obtain ⟨all,twins⟩ := ih twins others
    rw [List.mapM_cons,List.mapM_cons]
    exact ⟨.cons same all,twins⟩

/-- At the end both sessions count alike. -/
theorem finish (twins : one.Twins other) :
    (World.finish ⟨b,.inMemory⟩ one).1.SameCounts (World.finish ⟨b,.foreign⟩ other).1 := by
  have dropped : Stands b Eq (Stage.always (one.state.finish b)) (Stage.always (one.state.finish b)) :=
    .always (alike_dropAll b _)
  obtain ⟨-,ended⟩ := twins.stage dropped
  show Tail.SameCounts _ (World.observe (Setup.stage ⟨b,.foreign⟩ (Stage.always (other.state.finish b)) other).2).1
  rw [twins.state]
  exact ended.observe.1

end World.Twins

end Session

/-- Whether a call through the library comes to the same as the call on the heap behind it: it succeeds if and only if
that does, with the same reply, its error has the same status, and the heap is the same afterwards. -/
structure Foreign.Library.Refines (p : Package) (settings : HeapSettings) (library : Library) (c : Call Value) :
    Prop where
  answer : Agrees Eq (library.native.heap.respond p settings c).1
    ((Adapter.call p c).run (Library.answer p settings) library).1
  heap : ((Adapter.call p c).run (Library.answer p settings) library).2.native.heap =
    (library.native.heap.respond p settings c).2

namespace Session

/-- A library that follows no script answers every call as the heap behind it does, whatever the heap, and sessions
run alike over the heap and over such a library. -/
theorem foreign_boundary_refines_heap (b : Bridge) (commands : List Command)
    (faultFree : ∀ c ∈ commands, c.isFaultFree = true) :
    (∀ library : Foreign.Library, library.faults = [] → ∀ settings c, library.Refines b.package settings c) ∧
      SameRuns (run ⟨b,.inMemory⟩ commands) (run ⟨b,.foreign⟩ commands) := by
  constructor
  · intro library unscripted settings c
    obtain ⟨related,keeps⟩ := Foreign.Adapter.leads_call c library ⟨rfl,unscripted⟩
    exact ⟨related.mono fun _ _ => And.left,keeps.heap⟩
  · have start : World.Twins {} {} := ⟨rfl,rfl,rfl⟩
    obtain ⟨turns,twins⟩ := start.turns (b := b) commands faultFree
    exact ⟨turns,twins.finish⟩

/-- A tag gets a text, which is read back; a node refuses the text, and the tag is looked for once it is gone. -/
def taggedTwice : List Command :=
  [.step (.createAs .reflective "Tag" "t") none,.step (.set "t" ⟨0⟩ (.value (.string "né"))) none,
    .step (.get "t" ⟨0⟩ false) none,.step (.createAs .reflective "Node" "n") none,
    .step (.set "n" ⟨0⟩ (.value (.string "né"))) none,.step (.handle (.held "t")) (some "h"),
    .step (.drop "t") none,.step (.wrap (.saved "h") .reflective "u") none,.aside (.isLive (.saved "h"))]

/-- Over both boundaries the node refuses the text and the tag is gone; the library got its text back. -/
theorem foreign_session_tagged_twice :
    SameRuns (run ⟨⟨forest,{}⟩,.inMemory⟩ taggedTwice) (run ⟨⟨forest,{}⟩,.foreign⟩ taggedTwice) ∧
      (run ⟨⟨forest,{}⟩,.foreign⟩ taggedTwice).2.freed = 1 ∧
      Foreign.Library.Refines forest {} {} (.pushBack ⟨7⟩ ⟨8⟩) :=
  have spec := foreign_boundary_refines_heap ⟨forest,{}⟩ taggedTwice (by decide)
  ⟨spec.2,by decide +kernel,spec.1 {} rfl {} (.pushBack ⟨7⟩ ⟨8⟩)⟩

end Session

end HandleBridge
