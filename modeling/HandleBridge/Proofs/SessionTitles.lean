import Mathlib.Algebra.BigOperators.Group.List.Basic
import HandleBridge.Proofs.Titles

/-!
Titles of a session: the titles that its proxies hold, what each step does to them, and what is left of them at the
end. A step that turns a proxy into its handle gives a title away, and a step that adopts a handle takes one over.
-/

namespace HandleBridge.Session

theorem Held.proxy_withProxy (held : Held) (p : Proxy) : (held.withProxy p).proxy = p := by
  cases held <;> rfl

namespace State

variable {s : State} {name : String} {held : Held}

/-- Titles that the proxies of a session hold. -/
def owned (s : State) : Multiset Handle := (s.proxies.map fun entry => entry.2.proxy.title).sum

/-- Whether every name stands for one proxy only. -/
def Tidy (s : State) : Prop := (s.proxies.map Prod.fst).Nodup

def without (s : State) (name : String) : State := { s with proxies := s.proxies.filter (·.1 ≠ name) }

def holding (s : State) (name : String) (held : Held) : State :=
  { s.without name with proxies := (name,held) :: (s.without name).proxies }

def titleUnder (s : State) (name : String) : Multiset Handle :=
  (s.proxies.lookup name).elim 0 fun held => held.proxy.title

theorem tidy_without (tidy : s.Tidy) (name : String) : (s.without name).Tidy :=
  tidy.sublist (List.filter_sublist.map _)

theorem tidy_holding (tidy : s.Tidy) : (s.holding name held).Tidy := by
  refine List.nodup_cons.mpr ⟨?_,tidy_without tidy name⟩
  simp [without]

@[simp] theorem owned_holding : (s.holding name held).owned = held.proxy.title + (s.without name).owned := by
  simp [owned,holding]

theorem lookup_filter_ne (proxies : List (String × Held)) (name : String) :
    (proxies.filter (·.1 ≠ name)).lookup name = none := by
  rw [List.lookup_eq_none_iff]
  intro entry mem
  have other := (List.mem_filter.mp mem).2
  simp only [ne_eq,decide_not,Bool.not_eq_true',decide_eq_false_iff_not] at other
  simpa using Ne.symm other

theorem lookup_without : (s.without name).proxies.lookup name = none := lookup_filter_ne s.proxies name

theorem filter_of_not_mem {proxies : List (String × Held)} (missing : name ∉ proxies.map Prod.fst) :
    proxies.filter (·.1 ≠ name) = proxies := by
  refine List.filter_eq_self.mpr fun entry mem => ?_
  simp only [decide_eq_true_eq]
  rintro rfl
  exact missing (List.mem_map_of_mem mem)

/-- The titles of a session are the one under a name and those of the others. -/
theorem owned_eq (tidy : s.Tidy) (name : String) : s.owned = s.titleUnder name + (s.without name).owned := by
  obtain ⟨proxies,saved⟩ := s
  induction proxies with
  | nil => simp [owned,titleUnder,without]
  | cons entry rest ih =>
    obtain ⟨key,held⟩ := entry
    obtain ⟨fresh,tidy⟩ := List.nodup_cons.mp tidy
    by_cases same : name = key
    · subst same
      have kept := filter_of_not_mem fresh
      simp only [owned,titleUnder,without,List.lookup_cons_self,Option.elim_some,List.map_cons,List.sum_cons,
        List.filter_cons,ne_eq,not_true_eq_false,decide_false,Bool.false_eq_true,if_false]
      simp only [ne_eq] at kept
      rw [kept]
    · have ih := ih tidy
      simp only [owned,titleUnder,without,ne_eq] at ih ⊢
      simp only [List.lookup_cons,beq_false_of_ne same,List.filter_cons,Ne.symm same,not_false_eq_true,decide_true,
        if_true,List.map_cons,List.sum_cons]
      rw [ih,add_left_comm]

/-- The titles of a session are those of one proxy and of all others. -/
theorem owned_of_lookup (tidy : s.Tidy) (found : s.proxies.lookup name = some held) :
    s.owned = held.proxy.title + (s.without name).owned := by
  rw [owned_eq tidy name,titleUnder,found]
  rfl

def handle? (s : State) : HandleRef → Option Handle
  | .literal h => some h
  | .held name => (s.proxies.lookup name).map fun held => held.proxy.handle
  | .saved name => s.saved.lookup name

end State

namespace Step

def isAdopting : Step → Bool
  | adopt .. | adoptBare .. => true
  | _ => false

/-- Title that a step takes over from outside. -/
def adopts (s : State) : Step → Multiset Handle
  | adopt h _ _ | adoptBare h _ => (s.handle? h).elim 0 Handle.title
  | _ => 0

/-- Title that a step gives away with the handle that it answers. -/
def handsOver (s : State) : Step → Multiset Handle
  | toHandle name =>
    match s.proxies.lookup name with
    | some (.bare p) => p.title
    | _ => 0
  | _ => 0

theorem adopts_of_not_adopting {s : State} {step : Step} (foreign : step.isAdopting = false) :
    step.adopts s = 0 := by
  cases step with
  | adopt | adoptBare => cases foreign
  | _ => rfl

theorem handsOver_of_not_bare {s : State} {name : String}
    (missing : ∀ p, s.proxies.lookup name ≠ some (.bare p)) : (toHandle name).handsOver s = 0 := by
  rw [handsOver]
  split
  · rename_i p found
    exact absurd found (missing p)
  · rfl

theorem handsOver_of_not_handling {s : State} {step : Step} (handling : step.isHandling = false) :
    step.handsOver s = 0 := by
  cases step with
  | toHandle => cases handling
  | _ => rfl

end Step

/-! ### Work on a session -/

/-- Whether work on a session settles the titles that it starts with. -/
def Stage.Settles (failing : Prop) {α : Type} (x : Stage α) (s : State) (t : Titles)
    (post : Except Stop α → State → Titles → Prop) : Prop :=
  HandleBridge.Settles failing (x.run.run s) t fun result => post result.1 result.2

namespace Stage.Settles

variable {failing : Prop} {α β : Type} {s : State} {t : Titles} {post : Except Stop α → State → Titles → Prop}

/-- Work on a session in two parts settles its titles if the second part settles what the first leaves. -/
theorem bind {x : Stage β} {f : β → Stage α}
    (settles : Stage.Settles failing x s t fun result u v =>
      match result with
      | .ok b => Stage.Settles failing (f b) u v post
      | .error stop => post (.error stop) u v) :
    Stage.Settles failing (x >>= f) s t post := by
  refine HandleBridge.Settles.bind (settles.mono ?_)
  rintro ⟨result,u⟩ v holds
  cases result with
  | ok b => exact holds
  | error stop => exact holds

theorem act {x : Action α}
    (settles : HandleBridge.Settles failing x.run t fun result u => post (result.mapError .failed) s u) :
    Stage.Settles failing (Stage.act x) s t post := by
  refine HandleBridge.Settles.bind (HandleBridge.Settles.bind ?_)
  exact settles

theorem always {r : Routine α} (settles : HandleBridge.Settles failing r t fun a u => post (.ok a) s u) :
    Stage.Settles failing (Stage.always r) s t post := by
  refine HandleBridge.Settles.bind (HandleBridge.Settles.bind ?_)
  exact settles.mono fun a u holds => holds

theorem getState {f : State → Stage α} (settles : Stage.Settles failing (f s) s t post) :
    Stage.Settles failing (get >>= f) s t post := bind settles

theorem need {x : Option α} (missing : x = none → post (.error .misuse) s t)
    (found : ∀ a, x = some a → post (.ok a) s t) : Stage.Settles failing (Stage.need x) s t post := by
  cases x with
  | none => exact missing rfl
  | some a => exact found a rfl

theorem forget {name : String} {f : Unit → Stage α}
    (settles : Stage.Settles failing (f ()) (s.without name) t post) :
    Stage.Settles failing (Stage.forget name >>= f) s t post := bind settles

theorem update {name : String} {held : Held} {f : Unit → Stage α}
    (settles : Stage.Settles failing (f ()) (s.holding name held) t post) :
    Stage.Settles failing (Stage.update name held >>= f) s t post := bind (forget settles)

theorem find {name : String} {f : Held → Stage α}
    (missing : s.proxies.lookup name = none → post (.error .misuse) s t)
    (found : ∀ held, s.proxies.lookup name = some held → Stage.Settles failing (f held) s t post) :
    Stage.Settles failing (Stage.find name >>= f) s t post := bind (getState (need missing found))

theorem takeBare {name : String} {f : Proxy → Stage α}
    (missing : (∀ p, s.proxies.lookup name ≠ some (.bare p)) → post (.error .misuse) s t)
    (found : ∀ p, s.proxies.lookup name = some (.bare p) → Stage.Settles failing (f p) (s.without name) t post) :
    Stage.Settles failing (Stage.takeBare name >>= f) s t post := by
  refine bind (find (fun absent => missing (by simp [absent])) fun held eq => ?_)
  cases held with
  | bare p => exact forget (found p eq)
  | object | list => exact missing (by simp [eq])

theorem object {name : String} {f : ObjectProxy → Stage α} (missing : post (.error .misuse) s t)
    (found : ∀ o view, s.proxies.lookup name = some (.object o view) → Stage.Settles failing (f o) s t post) :
    Stage.Settles failing (Stage.object name >>= f) s t post := by
  refine bind (find (fun _ => missing) fun held eq => ?_)
  cases held with
  | object o view => exact found o view eq
  | bare | list => exact missing

theorem resolve {h : HandleRef} {f : Handle → Stage α} (missing : s.handle? h = none → post (.error .misuse) s t)
    (found : ∀ k, s.handle? h = some k → Stage.Settles failing (f k) s t post) :
    Stage.Settles failing (Stage.resolve h >>= f) s t post := by
  cases h with
  | literal k => exact found k rfl
  | held name =>
    refine bind (find (fun absent => missing ?_) fun held eq => found _ ?_)
    · rw [State.handle?,absent]
      rfl
    · rw [State.handle?,eq]
      rfl
  | saved name => exact bind (getState (need missing found))

end Stage.Settles

/-- Whether work on a session may be done at any time without a change of the session or the titles. -/
def Stage.Idle (failing : Prop) {α : Type} (x : Stage α) : Prop :=
  ∀ s t (post : Except Stop α → State → Titles → Prop), (∀ result, post result s t) →
    Stage.Settles failing x s t post

namespace Stage.Idle

variable {failing : Prop} {α β : Type}

theorem act {x : Action α} (idle : HandleBridge.Idle failing x.run) : Stage.Idle failing (Stage.act x) :=
  fun _ _ _ holds => .act (idle _ _ fun _ => holds _)

theorem bind {x : Stage α} {f : α → Stage β} (first : Stage.Idle failing x)
    (rest : ∀ a, Stage.Idle failing (f a)) :
    Stage.Idle failing (x >>= f) := by
  intro s t post holds
  refine .bind (first s t _ fun result => ?_)
  cases result with
  | ok a => exact rest a s t post holds
  | error stop => exact holds _

end Stage.Idle

/-- Work that looks only may be done at any time. -/
theorem Looks.idle {failing : Prop} {α : Type} {x : Stage α} (looks : Looks x) : Stage.Idle failing x := by
  induction looks with
  | pure a => exact fun _ _ _ holds => holds _
  | stop reason => exact fun _ _ _ holds => holds _
  | state => exact fun _ _ _ holds => holds _
  | act plain => exact .act plain.idle
  | bind first rest firstIdle restIdle => exact .bind firstIdle restIdle

variable {failing : Prop} (b : Bridge)

theorem idle_itemsFrom (l : ListProxy) (i : UInt64) (count : Nat) : Idle failing (l.itemsFrom b i count) := by
  induction count generalizing i with
  | zero => exact .pure _
  | succ count ih => exact .bind (l.plain_elementAt b i).idle fun _ => .bind (ih (i + 1)) fun _ => .pure _

theorem idle_iterate (l : ListProxy) : Idle failing (l.iterate b).run :=
  (l.plain_size b).idle.action_bind fun n => (idle_itemsFrom b l 0 n.toNat).lift.action_bind fun _ => .pure _

theorem idle_iterateClearing (l : ListProxy) : Idle failing (l.iterateClearing b).run := by
  refine (l.plain_size b).idle.action_bind fun n => ?_
  cases n.toNat with
  | zero => exact .pure _
  | succ count =>
    exact (Idle.lift (l.plain_elementAt b 0).idle).action_bind fun _ => (l.plain_clear b).idle.action_bind fun _ =>
      (idle_itemsFrom b l 1 count).lift.action_bind fun _ => .pure _

theorem ListStep.idle_perform (l : ListProxy) (step : ListStep) : Stage.Idle failing (step.perform b l) := by
  cases iterates : step.iterates with
  | false => exact (step.looks_perform b l iterates).idle
  | true =>
    cases step with
    | iterate => exact .act ((idle_iterate b l).action_bind fun _ => .pure _)
    | iterateClearing => exact .act ((idle_iterateClearing b l).action_map _)
    | _ => cases iterates

/-- A step that handles no proxy leaves the session and the titles as they are. -/
theorem Step.idle_perform (step : Step) (handling : step.isHandling = false) (native : step.isNative = false) :
    Stage.Idle failing (step.perform b) := by
  cases sequential : step.isSequential with
  | false => exact (step.looks_perform b handling sequential native).idle
  | true =>
    cases step with
    | onFeature name f element step =>
      exact (Looks.object name).idle.bind fun o => (Looks.act (o.plain_list b f element.toView)).idle.bind fun l =>
        step.idle_perform b l
    | onSequence name accessor step =>
      exact (Looks.viewed name).idle.bind fun _ => (Looks.need _).idle.bind fun s =>
        (Looks.act (ObjectProxy.plain_list b _ s.feature s.element)).idle.bind fun l => step.idle_perform b l
    | onList name step => exact (Looks.list name).idle.bind fun l => step.idle_perform b l
    | _ => cases sequential

/-! ### Steps that handle proxies -/

/-- Whether a session has the titles that are left, besides those that were given away. -/
def Leaves (given raw : Multiset Handle) (s : State) (t : Titles) : Prop := s.Tidy ∧ t = ⟨given + s.owned,raw⟩

section Handling

variable {s : State} {t : Titles} {takes adopts raw : Multiset Handle} (tidy : s.Tidy)
include tidy

/-- A proxy brings its title along when it is kept, and the one that it replaces is dropped. -/
theorem settles_keep (name : String) (held : Held) :
    Stage.Settles failing (Stage.keep b name held) s ⟨held.proxy.title + s.owned,raw⟩ fun result u t =>
      result = .ok () ∧ Leaves 0 raw u t := by
  have kept : Stage.Settles failing (do
      Stage.forget name
      modify fun state => { state with proxies := (name,held) :: state.proxies } : Stage Unit) s
      ⟨held.proxy.title + (s.without name).owned,raw⟩ fun result u t => result = .ok () ∧ Leaves 0 raw u t := by
    refine .forget ?_
    exact ⟨rfl,State.tidy_holding tidy,by rw [zero_add]; exact congrArg (Titles.mk · raw) State.owned_holding.symm⟩
  refine .getState ?_
  cases found : s.proxies.lookup name with
  | none =>
    rw [State.owned_eq tidy name,State.titleUnder,found,Option.elim_none,zero_add]
    exact kept
  | some old =>
    rw [State.owned_of_lookup tidy found,add_left_comm]
    refine .bind (.always ((old.proxy.settles_drop b _ raw).mono ?_))
    rintro _ t rfl
    exact kept

/-- A proxy that is kept under a name brings its title to the session. -/
theorem settles_keeping (name : String) {held : Held} (result : Result) {given : Multiset Handle}
    (title : held.proxy.title = given) :
    Stage.Settles failing (do
      Stage.keep b name held
      return result) s ⟨given + s.owned,raw⟩ fun _ u t => Leaves 0 raw u t := by
  rw [← title]
  refine .bind ((settles_keep b tidy name held).mono ?_)
  rintro ⟨_,u⟩ t ⟨rfl,left⟩
  exact left

/-- A failure of what makes a proxy leaves the session as it was. -/
theorem settles_making {α : Type} {making : Action α} {title : α → Multiset Handle} {f : α → Stage Result}
    (yields : Yields failing takes adopts making title) (before : t = ⟨takes + s.owned,adopts + raw⟩)
    (rest : ∀ a, Stage.Settles failing (f a) s ⟨title a + s.owned,raw⟩ fun _ u v => Leaves 0 raw u v) :
    Stage.Settles failing (Stage.act making >>= f) s t fun _ u v => Leaves 0 raw u v := by
  subst before
  refine .bind (.act ((yields s.owned raw).mono ?_))
  rintro result v rfl
  cases result with
  | ok a => exact rest a
  | error e => exact ⟨tidy,rfl⟩

/-- An object proxy is kept with the title that making it yields. -/
theorem settles_keepObject (view : TypedView) (as : String) {making : Action ObjectProxy}
    (yields : Yields failing takes adopts making fun o => o.proxy.title)
    (before : t = ⟨takes + s.owned,adopts + raw⟩) :
    Stage.Settles failing (Step.keepObject b view as making) s t fun _ u v => Leaves 0 raw u v :=
  settles_making tidy yields before fun o => settles_keeping b tidy as (.object o) rfl

theorem settles_keepObject? (view : TypedView) (as : String) {making : Action (Option ObjectProxy)}
    (yields : Yields failing takes adopts making Bridge.titleOf?) (before : t = ⟨takes + s.owned,adopts + raw⟩) :
    Stage.Settles failing (Step.keepObject? b view as making) s t fun _ u v => Leaves 0 raw u v := by
  refine settles_making tidy yields before fun o => ?_
  cases o with
  | some o => exact settles_keeping b tidy as (.object o) rfl
  | none => exact ⟨tidy,rfl⟩

theorem settles_keepList (as : String) {making : Action ListProxy}
    (yields : Yields failing takes adopts making fun l => l.proxy.title)
    (before : t = ⟨takes + s.owned,adopts + raw⟩) :
    Stage.Settles failing (Step.keepList b as making) s t fun _ u v => Leaves 0 raw u v :=
  settles_making tidy yields before fun l => settles_keeping b tidy as (.list l) rfl

/-- A released proxy stays under its name without a title. -/
theorem settles_releaseHeld (name : String) :
    Stage.Settles failing (Step.releaseHeld b name) s ⟨s.owned,raw⟩ fun _ u v => Leaves 0 raw u v := by
  refine .find (fun _ => ⟨tidy,by rw [zero_add]⟩) fun held found => .update (.act ?_)
  rw [State.owned_of_lookup tidy found]
  refine .action_map ((held.proxy.settles_release b _ raw).mono ?_)
  rintro result v ⟨rfl,-⟩
  refine ⟨State.tidy_holding tidy,?_⟩
  rw [State.owned_holding,Held.proxy_withProxy,Proxy.title_retired,zero_add,zero_add]

theorem settles_dropHeld (name : String) :
    Stage.Settles failing (Step.perform b (.drop name)) s ⟨s.owned,raw⟩ fun _ u v => Leaves 0 raw u v := by
  refine .find (fun _ => ⟨tidy,by rw [zero_add]⟩) fun held found => .forget (.bind (.always ?_))
  rw [State.owned_of_lookup tidy found]
  refine (held.proxy.settles_drop b _ raw).mono ?_
  rintro _ v rfl
  exact ⟨State.tidy_without tidy name,by rw [zero_add]⟩

/-- What a step does to the titles of a session, if it adopts nothing. -/
theorem settles_perform_own (step : Step) (native : step.isNative = false) (foreign : step.isAdopting = false) :
    Stage.Settles failing (step.perform b) s ⟨s.owned,raw⟩ fun _ u v => Leaves (step.handsOver s) raw u v := by
  have unchanged : Leaves 0 raw s ⟨s.owned,raw⟩ := ⟨tidy,by rw [zero_add]⟩
  have before : (⟨s.owned,raw⟩ : Titles) = ⟨0 + s.owned,0 + raw⟩ := by rw [zero_add,zero_add]
  cases handling : step.isHandling with
  | false =>
    rw [step.handsOver_of_not_handling handling]
    exact step.idle_perform b handling native _ _ _ fun _ => unchanged
  | true =>
    cases step with
    | create view as => exact settles_keepObject b tidy view as (b.yields_create _) before
    | createAs view cls as => exact settles_keepObject b tidy view as (b.yields_createAs _ cls) before
    | wrap h view as =>
      exact .resolve (fun _ => unchanged) fun k _ =>
        settles_keepObject? b tidy view as (b.yields_wrapBorrowed _ k) before
    | borrowBare h as =>
      refine .resolve (fun _ => unchanged) fun k _ => ?_
      rw [← zero_add s.owned]
      exact settles_keeping b tidy as .nothing (Proxy.title_borrowing k)
    | fromBare name view as =>
      refine .takeBare (fun _ => unchanged) fun p found => ?_
      rw [State.owned_of_lookup tidy found]
      exact settles_keepObject b (State.tidy_without tidy name) view as (b.yields_wrap _ p) (by rw [zero_add]; rfl)
    | fromBareOf name cls as =>
      refine .takeBare (fun _ => unchanged) fun p found => ?_
      rw [State.owned_of_lookup tidy found]
      exact settles_keepObject b (State.tidy_without tidy name) .reflective as (b.yields_wrap _ p)
        (by rw [zero_add]; rfl)
    | toBare name as =>
      refine .object unchanged fun o view found => .forget ?_
      rw [State.owned_of_lookup tidy found]
      exact settles_keeping b (State.tidy_without tidy name) as .nothing rfl
    | toHandle name =>
      refine .takeBare (fun missing => ?_) fun p found => ?_
      · rw [Step.handsOver_of_not_bare missing]
        exact unchanged
      · rw [State.owned_of_lookup tidy found,Step.handsOver,found]
        exact ⟨State.tidy_without tidy name,rfl⟩
    | release name => exact settles_releaseHeld b tidy name
    | drop name => exact settles_dropHeld b tidy name
    | duplicate name view as =>
      exact .object unchanged fun o _ _ => settles_keepObject b tidy view as (o.yields_duplicate b _) before
    | createList element as => exact settles_keepList b tidy as (b.yields_createList _) before
    | createListOf element cls as => exact settles_keepList b tidy as (b.yields_createListOf _ cls) before
    | borrowList h cls element as =>
      exact .resolve (fun _ => unchanged) fun k _ => settles_keepList b tidy as (b.yields_borrowList _ k cls) before
    | adopt | adoptBare => cases foreign
    | _ => cases handling

/-- What a step does to the titles of a session. -/
theorem settles_perform (step : Step) (native : step.isNative = false) :
    Stage.Settles failing (step.perform b) s ⟨s.owned,step.adopts s + raw⟩ fun _ u v =>
      Leaves (step.handsOver s) raw u v := by
  have unchanged : Leaves 0 raw s ⟨s.owned,raw⟩ := ⟨tidy,by rw [zero_add]⟩
  cases foreign : step.isAdopting with
  | false =>
    rw [step.adopts_of_not_adopting foreign,zero_add]
    exact settles_perform_own b tidy step native foreign
  | true =>
    cases step with
    | adopt h view as =>
      refine .resolve (fun absent => ?_) fun k found => ?_
      · rw [Step.adopts,absent,Option.elim_none,zero_add]
        exact unchanged
      · rw [Step.adopts,found]
        exact settles_keepObject? b tidy view as (b.yields_adopt _ k) (by rw [zero_add]; rfl)
    | adoptBare h as =>
      refine .resolve (fun absent => ?_) fun k found => ?_
      · rw [Step.adopts,absent,Option.elim_none,zero_add]
        exact unchanged
      · rw [Step.adopts,found]
        refine .bind (.always ((Proxy.settles_adopt k s.owned raw).mono ?_))
        rintro p t rfl
        exact settles_keeping b tidy as .nothing rfl
    | _ => cases foreign

/-- Saving a handle changes nothing of that. -/
theorem settles_performSaving (others : Multiset Handle) (step : Step) (as : Option String)
    (native : step.isNative = false) :
    Stage.Settles failing (step.performSaving b as) s ⟨s.owned,step.adopts s + others⟩ fun _ u v =>
      Leaves (step.handsOver s) others u v := by
  refine .bind ((settles_perform b tidy step native).mono ?_)
  rintro ⟨result,u⟩ v left
  cases result with
  | error stop => exact left
  | ok result =>
    cases as with
    | none => exact left
    | some name =>
      dsimp only
      cases result.handle? with
      | none => exact left
      | some h => exact left

end Handling

/-- Dropping proxies one after another uses up all their titles. -/
theorem settles_dropAll (proxies : List (String × Held)) (raw : Multiset Handle) :
    Settles failing (proxies.forM fun (_,held) => held.proxy.drop b)
      ⟨(proxies.map fun entry => entry.2.proxy.title).sum,raw⟩ fun _ t => t = ⟨0,raw⟩ := by
  induction proxies with
  | nil => exact rfl
  | cons entry rest ih =>
    rw [List.map_cons,List.sum_cons]
    refine .bind ((entry.2.proxy.settles_drop b _ raw).mono ?_)
    rintro _ t rfl
    exact ih

/-- The end of a session uses all its titles up. -/
theorem settles_finish (s : State) (raw : Multiset Handle) :
    Settles failing (s.finish b) ⟨s.owned,raw⟩ fun _ t => t = ⟨0,raw⟩ := by
  have sorted := List.mergeSort_perm s.proxies fun x y => !(y.1 < x.1)
  rw [State.owned,← (sorted.map _).sum_eq]
  exact settles_dropAll b _ raw

end HandleBridge.Session
