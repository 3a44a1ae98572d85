import HandleBridge.Proofs.BuiltPackages
import HandleBridge.Proofs.SessionTitles

/-!
Courses: sessions with a log of everything that was asked for and answered, against any native side whatsoever. In
every course, what was acquired is what was destroyed, what was given away and what the proxies of the session still
hold. So each acquisition is destroyed once, by the time that its proxy is gone, or given away and not destroyed.
-/

namespace HandleBridge

variable {σ : Type}

/-- An effect that was asked for, with its answer. -/
structure Asked where
  effect : Effect
  answer : effect.Answer

/-- Titles that were acquired in a log. -/
def acquired (log : List Asked) : Multiset Handle := (log.map fun a => a.effect.acquires a.answer).sum

/-- Titles that were used up in a log, whether or not the calls succeeded. -/
def destroyed (log : List Asked) : Multiset Handle := (log.map fun a => a.effect.destroys).sum

@[simp] theorem acquired_append (log more : List Asked) : acquired (log ++ more) = acquired log + acquired more := by
  simp [acquired]

@[simp] theorem destroyed_append (log more : List Asked) :
    destroyed (log ++ more) = destroyed log + destroyed more := by
  simp [destroyed]

/-- A responder that enters what it is asked for into a log. -/
def recording (respond : (e : Effect) → StateM σ e.Answer) (e : Effect) : StateM (σ × List Asked) e.Answer :=
  fun (native,log) =>
    let (answer,native) := respond e native
    (answer,native,log ++ [⟨e,answer⟩])

/-- A log that goes with the titles at its end: they are what was acquired, less what was destroyed and given away,
and nothing was destroyed before it was acquired. -/
structure Accounts (given : Multiset Handle) (log : List Asked) (t : Titles) : Prop where
  balance : acquired log = destroyed log + (given + t.owned)
  inOrder : ∀ before, before <+: log → destroyed before ≤ acquired before

namespace Accounts

variable {given : Multiset Handle} {log : List Asked} {t : Titles} {failing : Prop}

/-- A log stays in step with its titles when an effect is entered that keeps to them. -/
theorem after {e : Effect} (accounts : Accounts given log t) (licit : t.Licit failing e) (answer : e.Answer) :
    Accounts given (log ++ [⟨e,answer⟩]) (t.after e answer) := by
  obtain ⟨rest,owned⟩ := Multiset.le_iff_exists_add.mp licit.destroyed
  have balance := accounts.balance
  have now : acquired (log ++ [⟨e,answer⟩]) =
      destroyed (log ++ [⟨e,answer⟩]) + (given + (t.after e answer).owned) := by
    simp only [acquired_append,destroyed_append,balance,Titles.after,owned,add_tsub_cancel_left]
    simp only [acquired,destroyed,List.map_cons,List.map_nil,List.sum_cons,List.sum_nil,add_zero]
    ac_rfl
  refine ⟨now,fun before pre => ?_⟩
  rcases List.prefix_concat_iff.mp pre with rfl | pre
  · rw [now]
    exact Multiset.le_add_right _ _
  · exact accounts.inOrder before pre

end Accounts

/-- The log of a routine that settles its titles goes with the titles at its end. -/
theorem Settles.accounts {α : Type} {r : Routine α} {t : Titles} {post : α → Titles → Prop}
    (respond : (e : Effect) → StateM σ e.Answer) (native : σ) {given : Multiset Handle} {log : List Asked}
    (settles : Settles True r t post) (accounts : Accounts given log t) :
    let (a,_,log) := r.run (recording respond) (native,log)
    ∃ u, post a u ∧ Accounts given log u := by
  refine settles.run (fun (s : σ × List Asked) u => Accounts given s.2 u) (fun _ => True) (fun _ _ => id) ?_
    accounts trivial
  exact fun s u e _ accounts licit => ⟨e.expects_of_failing trivial _,accounts.after licit _⟩

/-- Whether a routine acquires nothing and uses up exactly the given titles, whatever it is answered. -/
def Spends {α : Type} (r : Routine α) (titles : Multiset Handle) : Prop :=
  match r with
  | Script.done _ => titles = 0
  | Script.ask e next =>
    ∃ rest, titles = e.destroys + rest ∧ ∀ answer, e.acquires answer = 0 ∧ Spends (next answer) rest

namespace Spends

variable {α β : Type}

theorem bind {r : Routine α} {f : α → Routine β} {first rest : Multiset Handle} (spends : Spends r first)
    (others : ∀ a, Spends (f a) rest) : Spends (r >>= f) (first + rest) := by
  induction r generalizing first with
  | done a =>
    obtain rfl : first = 0 := spends
    rw [zero_add]
    exact others a
  | ask e next ih =>
    obtain ⟨left,rfl,spends⟩ := spends
    exact ⟨left + rest,add_assoc _ _ _,fun answer => ⟨(spends answer).1,ih answer (spends answer).2⟩⟩

theorem before {r : Routine α} {f : α → Routine β} {titles : Multiset Handle} (quiet : Spends r 0)
    (others : ∀ a, Spends (f a) titles) : Spends (r >>= f) titles := by
  rw [← zero_add titles]
  exact quiet.bind others

theorem after {r : Routine α} {f : α → Routine β} {titles : Multiset Handle} (spends : Spends r titles)
    (quiet : ∀ a, Spends (f a) 0) : Spends (r >>= f) titles := by
  rw [← add_zero titles]
  exact spends.bind quiet

/-- Work that uses up some titles enters exactly these into the log as destroyed, and acquires nothing. -/
theorem log (respond : (e : Effect) → StateM σ e.Answer) (native : σ) (log : List Asked) {r : Routine α}
    {titles : Multiset Handle} (spends : Spends r titles) :
    let after := (r.run (recording respond) (native,log)).2.2
    acquired after = acquired log ∧ destroyed after = destroyed log + titles := by
  induction r generalizing native log titles with
  | done a =>
    obtain rfl : titles = 0 := spends
    exact ⟨rfl,(add_zero _).symm⟩
  | ask e next ih =>
    obtain ⟨rest,rfl,spends⟩ := spends
    obtain ⟨none,spends⟩ := spends (respond e native).1
    obtain ⟨same,more⟩ := ih _ (respond e native).2 (log ++ [⟨e,(respond e native).1⟩]) spends
    refine ⟨same.trans ?_,more.trans ?_⟩
    · simp [acquired,none]
    · simp [destroyed,add_assoc]

theorem note (e : Event) (neutral : e.isNeutral = true) : Spends (Routine.note e) 0 := by
  refine ⟨0,?_,fun _ => ⟨?_,rfl⟩⟩
  · rfl
  · cases e with
    | adopted | dropFailed => cases neutral
    | _ => rfl

theorem destroy (b : Bridge) (h : Handle) : Spends (b.call (.destroy h)).run {h} := by
  have announced : Spends (b.announce (.destroy h)) 0 := by
    unfold Bridge.announce
    split
    · exact note _ rfl
    · exact rfl
  have reported (answer : Except Error Unit) : Spends (Bridge.reportFailure (.destroy h) answer) 0 := by
    cases answer with
    | ok => exact rfl
    | error e => exact note _ rfl
  rw [Bridge.call_run]
  refine announced.before fun _ => ⟨0,rfl,fun answer => ⟨?_,(reported answer).after fun _ => rfl⟩⟩
  cases answer <;> rfl

/-- Releasing a proxy uses up its title. -/
theorem release (b : Bridge) (p : Proxy) : Spends (p.release b).run p.title := by
  cases owns : p.owns with
  | false =>
    rw [p.release_of_not_owns b owns,Proxy.title_of_not_owns owns]
    exact rfl
  | true =>
    rw [p.release_of_owns b owns,Proxy.title,if_pos owns]
    refine (note (.releasing p.handle) rfl).before fun _ => (destroy b p.handle).after fun result => ?_
    cases result <;> exact rfl

/-- So does dropping it. -/
theorem drop (b : Bridge) (p : Proxy) : Spends (p.drop b) p.title := by
  refine (release b p).after fun result => ?_
  cases result with
  | ok => exact rfl
  | error e => exact ⟨0,rfl,fun _ => ⟨rfl,rfl⟩⟩

theorem dropAll (b : Bridge) (proxies : List (String × Session.Held)) :
    Spends (proxies.forM fun (_,held) => held.proxy.drop b)
      (proxies.map fun entry => entry.2.proxy.title).sum := by
  induction proxies with
  | nil => exact rfl
  | cons entry rest ih =>
    rw [List.map_cons,List.sum_cons]
    exact (drop b entry.2.proxy).bind fun _ => ih

theorem finish (b : Bridge) (s : Session.State) : Spends (s.finish b) s.owned := by
  have sorted := List.mergeSort_perm s.proxies fun x y => !(y.1 < x.1)
  rw [Session.State.owned,← (sorted.map _).sum_eq]
  exact dropAll b _

end Spends

namespace Session

section Named

variable (b : Bridge) {s : State} {name : String} {held : Held}

theorem run_find (found : s.proxies.lookup name = some held) :
    (Stage.find name).run.run s = (pure (.ok held,s) : Routine _) := by
  show (Stage.need (s.proxies.lookup name)).run.run s = _
  rw [found]
  rfl

/-- Releasing by name leaves the proxy without its handle, whatever the answer. -/
theorem run_release (found : s.proxies.lookup name = some held) (as : Option String) :
    ((Step.release name).performSaving b as).run.run s = (do
      let result ← (held.proxy.release b).run
      return ((result.map Result.flag).mapError .failed,s.holding name (held.withProxy .retired)) : Routine _) := by
  have released : (Step.releaseHeld b name).run.run s = (do
      let result ← (held.proxy.release b).run
      return ((result.map Result.flag).mapError .failed,s.holding name (held.withProxy .retired)) : Routine _) := by
    rw [Step.releaseHeld,Stage.run_bind,run_find found]
    show (Stage.act _).run.run _ = _
    rw [Stage.run_act,map_eq_pure_bind]
    show Script.bind (Script.bind _ _) _ = Script.bind _ _
    rw [Script.bind_assoc]
    refine congrArg (Script.bind _) (funext fun result => ?_)
    cases result <;> rfl
  rw [Step.performSaving,Stage.run_bind]
  show Script.bind ((Step.releaseHeld b name).run.run s) _ = _
  rw [released]
  show Script.bind (Script.bind _ _) _ = Script.bind _ _
  rw [Script.bind_assoc]
  refine congrArg (Script.bind _) (funext fun result => ?_)
  cases result with
  | ok => cases as <;> rfl
  | error e => rfl

theorem run_drop (found : s.proxies.lookup name = some held) (as : Option String) :
    ((Step.drop name).performSaving b as).run.run s = (do
      held.proxy.drop b
      return (.ok .nothing,s.without name) : Routine _) := by
  have dropped : ((Step.drop name).perform b).run.run s = (do
      held.proxy.drop b
      return (.ok .nothing,s.without name) : Routine _) := by
    rw [Step.perform,Stage.run_bind,run_find found]
    show (do Stage.always (held.proxy.drop b); return Result.nothing : Stage Result).run.run (s.without name) = _
    rw [Stage.run_bind,Stage.run_always]
    show Script.bind (Script.bind _ _) _ = Script.bind _ _
    rw [Script.bind_assoc]
    rfl
  rw [Step.performSaving,Stage.run_bind,dropped]
  show Script.bind (Script.bind _ _) _ = Script.bind _ _
  rw [Script.bind_assoc]
  refine congrArg (Script.bind _) (funext fun _ => ?_)
  cases as <;> rfl

/-- Turning a bare proxy into its handle asks for nothing. -/
theorem run_toHandle {p : Proxy} (found : s.proxies.lookup name = some (.bare p)) (as : Option String) :
    ∃ saved, ((Step.toHandle name).performSaving b as).run.run s =
      (pure (.ok (.handle p.handle),{ s.without name with saved }) : Routine _) := by
  have taken : (Stage.takeBare name).run.run s = (pure (.ok p,s.without name) : Routine _) := by
    rw [Stage.takeBare,Stage.run_bind,run_find found]
    rfl
  have given : ((Step.toHandle name).perform b).run.run s =
      (pure (.ok (.handle p.handle),s.without name) : Routine _) := by
    rw [Step.perform,Stage.run_bind,taken]
    rfl
  rw [Step.performSaving,Stage.run_bind,given]
  cases as <;> exact ⟨_,rfl⟩

end Named

/-! ### Courses -/

/-- A session with its native side and its log. -/
structure Course (σ : Type) where
  native : σ
  log : List Asked := []
  state : State := {}
  /-- Titles that were given away with handles. -/
  handed : Multiset Handle := 0
  /-- Titles that were taken over with handles. -/
  adopted : Multiset Handle := 0

namespace Course

variable (b : Bridge) (respond : (e : Effect) → StateM σ e.Answer)

def start (native : σ) : Course σ := { native }

/-- Does one step and saves the handle that it answers, if that is wanted. -/
def step (c : Course σ) (step : Step) (as : Option String) : Except Stop Result × Course σ :=
  let ((result,state),native,log) :=
    ((step.performSaving b as).run.run c.state).run (recording respond) (c.native,c.log)
  (result,{ native, log, state, handed := step.handsOver c.state + c.handed
            adopted := step.adopts c.state + c.adopted })

def play (c : Course σ) (steps : List (Step × Option String)) : Course σ :=
  steps.foldl (fun c step => (c.step b respond step.1 step.2).2) c

/-- Drops the proxies that the session still holds. -/
def finish (c : Course σ) : Course σ :=
  let (_,native,log) := (c.state.finish b).run (recording respond) (c.native,c.log)
  { c with native, log, state := {} }

/-- Whether every title that was acquired is accounted for. -/
structure Balanced (c : Course σ) : Prop where
  tidy : c.state.Tidy
  accounts : Accounts c.handed c.log ⟨c.state.owned,0⟩

variable {b respond} {c : Course σ}

theorem balanced_start (native : σ) : (start native).Balanced := by
  refine ⟨List.nodup_nil,rfl,fun before pre => ?_⟩
  obtain rfl : before = [] := List.prefix_nil.mp pre
  exact le_rfl

/-- Every step keeps a course in balance. -/
theorem balanced_step (balanced : c.Balanced) {step : Step} (native : step.isNative = false) (as : Option String) :
    (c.step b respond step as).2.Balanced := by
  have accounts : Accounts c.handed c.log ⟨c.state.owned,step.adopts c.state + 0⟩ :=
    ⟨balanced.accounts.balance,balanced.accounts.inOrder⟩
  obtain ⟨_,⟨tidy,rfl⟩,balance,inOrder⟩ :=
    (settles_performSaving b balanced.tidy 0 step as native).accounts respond c.native accounts
  refine ⟨tidy,balance.trans ?_,inOrder⟩
  exact congrArg _ ((add_left_comm _ _ _).trans (add_assoc _ _ _).symm)

/-- So do any number of steps. -/
theorem balanced_play (balanced : c.Balanced) {steps : List (Step × Option String)}
    (native : ∀ step ∈ steps, step.1.isNative = false) : (c.play b respond steps).Balanced := by
  induction steps generalizing c with
  | nil => exact balanced
  | cons step rest ih =>
    obtain ⟨head,rest⟩ := List.forall_mem_cons.mp native
    exact ih (balanced_step balanced head step.2) rest

theorem balanced_finish (balanced : c.Balanced) : (c.finish b respond).Balanced := by
  obtain ⟨_,rfl,balance,inOrder⟩ := (settles_finish b c.state 0).accounts respond c.native balanced.accounts
  exact ⟨List.nodup_nil,balance,inOrder⟩

end Course

section Once

variable (b : Bridge) (respond : (e : Effect) → StateM σ e.Answer)

/-- What releasing a proxy by name does: it uses the title of the proxy up, which then has none, and releasing it again
asks for nothing. -/
structure ReleasesOnce (c : Course σ) (name : String) (held : Held) (as : Option String) : Prop where
  destroyed : destroyed (c.step b respond (.release name) as).2.log = destroyed c.log + held.proxy.title
  acquired : acquired (c.step b respond (.release name) as).2.log = acquired c.log
  stays : (c.step b respond (.release name) as).2.state.proxies.lookup name = some (held.withProxy .retired)
  again : ∀ more, let next := (c.step b respond (.release name) as).2
    (next.step b respond (.release name) more).1 = .ok (.flag false) ∧
      (next.step b respond (.release name) more).2.log = next.log

/-- What dropping a proxy by name does: it uses the title of the proxy up, and the proxy is gone. -/
structure DropsOnce (c : Course σ) (name : String) (held : Held) (as : Option String) : Prop where
  destroyed : destroyed (c.step b respond (.drop name) as).2.log = destroyed c.log + held.proxy.title
  acquired : acquired (c.step b respond (.drop name) as).2.log = acquired c.log
  gone : (c.step b respond (.drop name) as).2.state.proxies.lookup name = none

variable {c : Course σ} {name : String} {held : Held}

theorem step_release (found : c.state.proxies.lookup name = some held) (as : Option String) :
    c.step b respond (.release name) as =
      let (result,native,log) := (held.proxy.release b).run.run (recording respond) (c.native,c.log)
      ((result.map Result.flag).mapError .failed,
        { native, log, state := c.state.holding name (held.withProxy .retired), handed := 0 + c.handed
          adopted := 0 + c.adopted }) := by
  rw [Course.step,run_release b found,Script.run_seq]
  rfl

theorem step_drop (found : c.state.proxies.lookup name = some held) (as : Option String) :
    c.step b respond (.drop name) as =
      let (_,native,log) := (held.proxy.drop b).run (recording respond) (c.native,c.log)
      (.ok .nothing,
        { native, log, state := c.state.without name, handed := 0 + c.handed, adopted := 0 + c.adopted }) := by
  rw [Course.step,run_drop b found,Script.run_seq]
  rfl

theorem step_release_of_not_owns (found : c.state.proxies.lookup name = some held) (idle : held.proxy.owns = false)
    (as : Option String) :
    (c.step b respond (.release name) as).1 = .ok (.flag false) ∧
      (c.step b respond (.release name) as).2.log = c.log := by
  rw [step_release b respond found,held.proxy.release_of_not_owns b idle]
  exact ⟨rfl,rfl⟩

/-- Every proxy under a name is released once. -/
theorem releasesOnce (found : c.state.proxies.lookup name = some held) (as : Option String) :
    ReleasesOnce b respond c name held as := by
  obtain ⟨acquired,destroyed⟩ := (Spends.release b held.proxy).log respond c.native c.log
  have stays : (c.step b respond (.release name) as).2.state.proxies.lookup name = some (held.withProxy .retired) := by
    rw [step_release b respond found]
    exact List.lookup_cons_self
  refine ⟨?_,?_,stays,fun more => step_release_of_not_owns b respond stays ?_ more⟩
  · rw [step_release b respond found]
    exact destroyed
  · rw [step_release b respond found]
    exact acquired
  · rw [Held.proxy_withProxy,Proxy.owns_retired]

/-- Every proxy under a name is dropped once. -/
theorem dropsOnce (found : c.state.proxies.lookup name = some held) (as : Option String) :
    DropsOnce b respond c name held as := by
  obtain ⟨acquired,destroyed⟩ := (Spends.drop b held.proxy).log respond c.native c.log
  refine ⟨?_,?_,?_⟩
  all_goals rw [step_drop b respond found]
  · exact destroyed
  · exact acquired
  · exact State.lookup_without

/-- Turning a bare proxy into its handle gives its title away without a call. -/
theorem handsOver_toHandle {p : Proxy} (found : c.state.proxies.lookup name = some (.bare p)) (as : Option String) :
    let next := (c.step b respond (.toHandle name) as).2
    next.log = c.log ∧ next.handed = p.title + c.handed ∧ next.state.proxies.lookup name = none := by
  obtain ⟨saved,given⟩ := run_toHandle b found as
  simp only [Course.step,given,Step.handsOver,found]
  exact ⟨rfl,rfl,State.lookup_without⟩

/-- In every course of proxies, whatever the native side answers: what was acquired is what was destroyed, what was
given away as a handle and what the proxies hold, with nothing destroyed before it was acquired; and once the proxies
are gone, what was acquired is what was destroyed and what was given away. A proxy that is released or dropped uses its
title up there and then, if it has one, and never again; one that is turned into its handle gives the title away and
destroys nothing; and one that borrows asks for nothing when it goes. -/
theorem acquired_destroyed_once (native : σ) (steps : List (Step × Option String))
    (proxied : ∀ step ∈ steps, step.1.isNative = false) :
    let c := (Course.start native).play b respond steps
    let ended := c.finish b respond
    acquired c.log = destroyed c.log + (c.handed + c.state.owned) ∧
      acquired ended.log = destroyed ended.log + c.handed ∧
      (∀ before, before <+: ended.log → destroyed before ≤ acquired before) ∧
      (∀ name held, c.state.proxies.lookup name = some held → ∀ as,
        ReleasesOnce b respond c name held as ∧ DropsOnce b respond c name held as) ∧
      (∀ name p, c.state.proxies.lookup name = some (.bare p) → ∀ as,
        let next := (c.step b respond (.toHandle name) as).2
        next.log = c.log ∧ next.handed = p.title + c.handed ∧ next.state.proxies.lookup name = none) ∧
      ∀ h, (Proxy.borrowing h).release b = pure false ∧ (Proxy.borrowing h).drop b = pure () := by
  intro c ended
  have balanced : c.Balanced := Course.balanced_play (Course.balanced_start native) proxied
  have settled : ended.Balanced := Course.balanced_finish balanced
  refine ⟨balanced.accounts.balance,?_,settled.accounts.inOrder,?_,?_,?_⟩
  · exact settled.accounts.balance.trans (congrArg _ (add_zero c.handed))
  · exact fun name held found as => ⟨releasesOnce b respond found as,dropsOnce b respond found as⟩
  · exact fun name p found as => handsOver_toHandle b respond found as
  · exact fun h => ⟨Proxy.release_of_not_owns b (Proxy.owns_borrowing h),
      Proxy.drop_of_not_owns b (Proxy.owns_borrowing h)⟩

end Once

/-- A native side that makes an object and refuses everything else. -/
def refusing : (e : Effect) → StateM Unit e.Answer
  | .note _ => pure ()
  | .call (.create _) => pure (.ok ⟨5⟩)
  | .call _ => pure (.error .nullHandle)

/-- An object that cannot be wrapped, and one that is adopted, released in vain and dropped. -/
def inVain : List (Step × Option String) :=
  [(.createAs .reflective "Node" "a",none),(.adoptBare (.literal ⟨7⟩) "b",none),(.release "b",none),(.drop "b",none)]

/-- A native side that refuses everything is asked once for each. -/
theorem acquired_destroyed_in_vain :
    let c := (Course.start ()).play ⟨forest,{}⟩ refusing inVain
    acquired (c.finish ⟨forest,{}⟩ refusing).log =
        destroyed (c.finish ⟨forest,{}⟩ refusing).log + c.handed ∧
      destroyed c.log = {⟨5⟩,⟨7⟩} :=
  ⟨(acquired_destroyed_once ⟨forest,{}⟩ refusing () inVain (by decide)).2.1,by decide⟩

end Session

end HandleBridge
