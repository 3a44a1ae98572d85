import HandleBridge.Proofs.OwnedEntries

/-!
Sessions on the in-memory heap. As long as handles are adopted only after they were given away, and once each time,
every object and every list of its own has one owner: one proxy that owns it, or one handle that was given away. So
every call to destroy succeeds, and what is left in the end is what was given away.
-/

namespace HandleBridge

/-- Whether nothing went wrong that should not: a call to destroy succeeded, and a report is not of a failed drop. -/
def Asked.Smooth (a : Asked) : Prop :=
  a.effect.Expects False a.answer ∧ ∀ error, a.effect ≠ .note (.dropFailed error)

/-- All titles, owned or raw. -/
def Titles.all (t : Titles) : Multiset Handle := t.owned + t.raw

namespace Titles

variable {t : Titles}

theorem all_after_call {c : Call Value} (licit : (Effect.call c).destroys ≤ t.owned) (answer : Except Error c.Reply) :
    (t.after (.call c) answer).all = (Effect.call c).acquires answer + (t.all - (Effect.call c).destroys) := by
  obtain ⟨rest,owned⟩ := Multiset.le_iff_exists_add.mp licit
  simp only [all,after,owned,Effect.adopts,add_assoc,add_tsub_cancel_left,Multiset.sub_zero]

/-- Adopting makes a raw title an owned one, and a report changes nothing. -/
theorem all_after_note {e : Event} (licit : (Effect.note e).adopts ≤ t.raw) : (t.after (.note e) ()).all = t.all := by
  obtain ⟨rest,raw⟩ := Multiset.le_iff_exists_add.mp licit
  have gives : (Effect.note e).acquires () = (Effect.note e).adopts := by cases e <;> rfl
  simp only [all,after,gives,raw,Effect.destroys,add_tsub_cancel_left,Multiset.sub_zero]
  rw [add_comm _ t.owned,add_assoc]

end Titles

/-- A heap with a log, in order with the titles: each entry that has to be destroyed from outside has one title, owned
or raw, and everything went well so far. -/
structure Orderly (p : Package) (native : Native × List Asked) (t : Titles) : Prop where
  sound : native.1.heap.Sound
  wellFormed : Heap.WellFormed p native.1.heap
  entitled : native.1.heap.Entitled t.all
  smooth : ∀ a ∈ native.2, a.Smooth

theorem Orderly.congr {p : Package} {native : Native × List Asked} {t u : Titles} (orderly : Orderly p native t)
    (same : t.all = u.all) : Orderly p native u :=
  ⟨orderly.sound,orderly.wellFormed,same ▸ orderly.entitled,orderly.smooth⟩

/-- Whether every slot has a handle of its own. -/
def Roomy (native : Native × List Asked) : Prop := native.1.heap.slots.size < 2 ^ 32

variable {b : Bridge} {native : Native × List Asked} {t : Titles}

theorem roomy_back (built : b.package.Built) (native : Native × List Asked) (e : Effect)
    (roomy : Roomy (recording b.answerInMemory e native).2) : Roomy native := by
  cases e with
  | note e => exact roomy
  | call c => exact Nat.lt_of_le_of_lt (Heap.size_respond built b.config.heap native.1.heap c) roomy

/-- An effect that keeps to the titles is answered as it should be, and leaves the heap in order. -/
theorem Orderly.after (built : b.package.Built) (addressable : b.package.Addressable) (e : Effect)
    (roomy : Roomy (recording b.answerInMemory e native).2) (orderly : Orderly b.package native t)
    (licit : t.Licit False e) :
    e.Expects False (recording b.answerInMemory e native).1 ∧
      Orderly b.package (recording b.answerInMemory e native).2
        (t.after e (recording b.answerInMemory e native).1) := by
  obtain ⟨sound,wellFormed,entitled,smooth⟩ := orderly
  have logged (answer : e.Answer) (expected : e.Expects False answer) :
      ∀ a ∈ native.2 ++ [⟨e,answer⟩], a.Smooth := by
    intro a mem
    rcases List.mem_append.mp mem with old | new
    · exact smooth a old
    · cases List.mem_singleton.mp new
      exact ⟨expected,licit.reported⟩
  cases e with
  | note e =>
    refine ⟨trivial,sound,wellFormed,?_,logged () trivial⟩
    exact (t.all_after_note licit.adopted).symm ▸ entitled
  | call c =>
    have within : t.all ≥ (Effect.call c).destroys := licit.destroyed.trans (Multiset.le_add_right _ _)
    obtain ⟨expected,kept⟩ :=
      entitled.respond b.config.heap c built addressable wellFormed sound roomy within
    have outcome := Heap.respond_outcome b.config.heap c built addressable wellFormed sound roomy
    refine ⟨expected,(Heap.respond_evolves built sound c roomy).sound sound roomy,outcome.wellFormed wellFormed,?_,
      logged _ expected⟩
    rw [Titles.all_after_call licit.destroyed]
    exact kept

/-- The heap stays in order with the titles of a routine that settles them. -/
theorem Settles.orderly {α : Type} {r : Routine α} {post : α → Titles → Prop} (built : b.package.Built)
    (addressable : b.package.Addressable) (settles : Settles False r t post) (orderly : Orderly b.package native t)
    (roomy : Roomy (r.run (recording b.answerInMemory) native).2) :
    ∃ u, post (r.run (recording b.answerInMemory) native).1 u ∧
      Orderly b.package (r.run (recording b.answerInMemory) native).2 u :=
  settles.run (Orderly b.package) Roomy (roomy_back built)
    (fun _ _ e roomy orderly licit => orderly.after built addressable e roomy licit) orderly roomy

/-- What gives no title whatever it is answered makes no slot. -/
theorem Heap.size_respond_of_acquires_none {p : Package} {settings : HeapSettings} {heap : Heap} {c : Call Value}
    (built : p.Built) (none : ∀ answer, (Effect.call c).acquires answer = 0) :
    (heap.respond p settings c).2.slots.size = heap.slots.size := by
  cases neutral : c.isNeutral with
  | true =>
    have evolves : Evolves settings [] heap (heap.respond p settings c).2 := respond_evolves_of_neutral built neutral
    exact size_of_evolves evolves
  | false =>
    cases c with
    | create | copy | createList =>
      exact absurd (none (.ok ⟨1⟩)) (by simp [Effect.acquires,Handle.title,Handle.isNull])
    | destroy h =>
      simp only [respond,answer,commit]
      cases done : destroy h heap with
      | ok next => exact size_discard (destroy_eq_ok done).2
      | error e => rfl
    | _ => cases neutral

theorem Spends.size {α : Type} {r : Routine α} {titles : Multiset Handle} (built : b.package.Built)
    (spends : Spends r titles) (native : Native × List Asked) :
    (r.run (recording b.answerInMemory) native).2.1.heap.slots.size = native.1.heap.slots.size := by
  induction r generalizing native titles with
  | done => rfl
  | ask e next ih =>
    obtain ⟨rest,-,spends⟩ := spends
    refine (ih _ (spends _).2 _).trans ?_
    cases e with
    | note => rfl
    | call c => exact Heap.size_respond_of_acquires_none built fun answer => (spends answer).1

namespace Session

namespace Course

/-- Titles that were given away and not taken over since. -/
def raw {σ : Type} (c : Course σ) : Multiset Handle := c.handed - c.adopted

/-- Whether each step adopts only what was given away before and not adopted since. -/
def Disciplined {σ : Type} (b : Bridge) (respond : (e : Effect) → StateM σ e.Answer) (c : Course σ) :
    List (Step × Option String) → Prop
  | [] => True
  | (step,as) :: rest => step.adopts c.state ≤ c.raw ∧ Disciplined b respond (c.step b respond step as).2 rest

/-- A course in which the titles of the proxies and those that were given away are in order. -/
structure InOrder (p : Package) (c : Course Native) : Prop where
  tidy : c.state.Tidy
  given : c.adopted ≤ c.handed
  orderly : Orderly p (c.native,c.log) ⟨c.state.owned,c.raw⟩

variable {b : Bridge} {c : Course Native}

theorem inOrder_start : (start {} : Course Native).InOrder b.package := by
  have orderly : Orderly b.package ({},[]) ⟨0,0⟩ :=
    ⟨Heap.sound_empty,Heap.WellFormed.empty,Heap.Entitled.empty,fun _ mem => absurd mem List.not_mem_nil⟩
  exact ⟨List.nodup_nil,Multiset.zero_le _,orderly.congr rfl⟩

/-- A disciplined step keeps a course in order. -/
theorem inOrder_step (built : b.package.Built) (addressable : b.package.Addressable) (inOrder : c.InOrder b.package)
    {step : Step} (as : Option String) (proxied : step.isNative = false) (disciplined : step.adopts c.state ≤ c.raw)
    (few : (c.step b b.answerInMemory step as).2.native.heap.slots.size < 2 ^ 32) :
    (c.step b b.answerInMemory step as).2.InOrder b.package := by
  obtain ⟨rest,raw⟩ := Multiset.le_iff_exists_add.mp disciplined
  obtain ⟨others,given⟩ := Multiset.le_iff_exists_add.mp inOrder.given
  have same : c.raw = others := by rw [Course.raw,given,add_tsub_cancel_left]
  have orderly := inOrder.orderly
  rw [raw] at orderly
  obtain ⟨_,⟨tidy,rfl⟩,orderly⟩ :=
    (settles_performSaving b inOrder.tidy rest step as proxied).orderly built addressable orderly few
  have handed : (c.step b b.answerInMemory step as).2.handed =
      step.adopts c.state + c.adopted + (step.handsOver c.state + rest) := by
    show step.handsOver c.state + c.handed = _
    rw [given,← same,raw]
    ac_rfl
  refine ⟨tidy,?_,orderly.congr ?_⟩
  · rw [handed]
    exact Multiset.le_add_right _ _
  · have next : (c.step b b.answerInMemory step as).2.raw = step.handsOver c.state + rest := by
      rw [Course.raw,handed]
      exact add_tsub_cancel_left _ _
    rw [next]
    show _ + _ + _ = _ + _
    rw [add_comm (step.handsOver c.state),add_assoc]
    rfl

theorem few_of_play (built : b.package.Built) (steps : List (Step × Option String))
    (few : (c.play b b.answerInMemory steps).native.heap.slots.size < 2 ^ 32) :
    c.native.heap.slots.size < 2 ^ 32 := by
  induction steps generalizing c with
  | nil => exact few
  | cons step rest ih =>
    have roomy : Roomy (c.native,c.log) := within_of_run (roomy_back built) _ (ih few)
    exact roomy

/-- So do many of them. -/
theorem inOrder_play (built : b.package.Built) (addressable : b.package.Addressable) (inOrder : c.InOrder b.package)
    {steps : List (Step × Option String)} (proxied : ∀ step ∈ steps, step.1.isNative = false)
    (disciplined : c.Disciplined b b.answerInMemory steps)
    (few : (c.play b b.answerInMemory steps).native.heap.slots.size < 2 ^ 32) :
    (c.play b b.answerInMemory steps).InOrder b.package := by
  induction steps generalizing c with
  | nil => exact inOrder
  | cons step rest ih =>
    obtain ⟨head,others⟩ := List.forall_mem_cons.mp proxied
    have next := inOrder_step built addressable inOrder step.2 head disciplined.1 (few_of_play built rest few)
    exact ih next others disciplined.2 few

theorem few_of_spends {α : Type} {r : Routine α} {titles : Multiset Handle} (built : b.package.Built)
    (spends : Spends r titles) (few : c.native.heap.slots.size < 2 ^ 32) :
    Roomy (r.run (recording b.answerInMemory) (c.native,c.log)).2 := by
  rw [Roomy,spends.size built]
  exact few

/-- Whatever is released goes. -/
theorem release_succeeds (built : b.package.Built) (addressable : b.package.Addressable)
    (inOrder : c.InOrder b.package) (few : c.native.heap.slots.size < 2 ^ 32) {name : String} {held : Held}
    (found : c.state.proxies.lookup name = some held) (as : Option String) :
    (c.step b b.answerInMemory (.release name) as).1 = .ok (.flag held.proxy.owns) := by
  have orderly := inOrder.orderly
  rw [State.owned_of_lookup inOrder.tidy found] at orderly
  have roomy := few_of_spends built (Spends.release b held.proxy) few
  obtain ⟨_,⟨-,released⟩,-⟩ := (held.proxy.settles_release b _ _).orderly built addressable orderly roomy
  rw [step_release b b.answerInMemory found]
  show Except.mapError _ (Except.map _ (Script.run _ _ _).1) = _
  rw [released.resolve_left id]
  rfl

/-- The end of a session keeps a course in order. -/
theorem inOrder_finish (built : b.package.Built) (addressable : b.package.Addressable)
    (inOrder : c.InOrder b.package) (few : c.native.heap.slots.size < 2 ^ 32) :
    (c.finish b b.answerInMemory).InOrder b.package := by
  have roomy := few_of_spends built (Spends.finish b c.state) few
  obtain ⟨_,rfl,orderly⟩ := (settles_finish b c.state c.raw).orderly built addressable inOrder.orderly roomy
  exact ⟨List.nodup_nil,inOrder.given,orderly⟩

end Course

/-- Whether the title of each entry is held once, by a proxy that owns it or as a raw handle, and nothing else is. -/
def OneOwner (c : Course Native) : Prop :=
  ∀ h, (c.state.owned + c.raw).count h = 1 ∧ c.native.heap.Top h ∨
    (c.state.owned + c.raw).count h = 0 ∧ ¬c.native.heap.Top h

variable {b : Bridge}

/-- What lives beside the titles are the lists of objects that have one. -/
theorem isLive_iff_of_orderly {p : Package} {native : Native × List Asked} {t : Titles}
    (orderly : Orderly p native t) (h : Handle) :
    native.1.heap.isLive h = true ↔ h ∈ t.all ∨ ∃ owner ∈ t.all, native.1.heap.Owns owner h := by
  rw [Arena.isLive_iff]
  constructor
  · rintro ⟨entry,found⟩
    cases entry with
    | object o => exact .inl ((orderly.entitled.exact h).mpr ⟨_,found,nofun⟩)
    | list l =>
      cases owned : l.owner with
      | none => exact .inl ((orderly.entitled.exact h).mpr ⟨_,found,fun _ same => by cases same; exact owned⟩)
      | some owner =>
        obtain ⟨o,there,-⟩ := orderly.wellFormed.held h l owner found owned
        exact .inr ⟨owner,(orderly.entitled.exact owner).mpr ⟨_,there,nofun⟩,l,found,owned⟩
  · rintro (top | ⟨owner,-,l,found,-⟩)
    · obtain ⟨entry,found,-⟩ := (orderly.entitled.exact h).mp top
      exact ⟨entry,found⟩
    · exact ⟨_,found⟩

/-- In every session on the in-memory heap that adopts only what was given away and once each time: every object and
every list that no object owns is owned by one proxy that was not released, or is one handle that was given away and
not adopted since; every release and every drop succeeds; and once the proxies are gone, what is alive is what was
given away and not adopted, with the lists of those that are objects, and nothing if there are none. A handle names one
of 2 ^ 32 - 1 slots, so there may not be more. -/
theorem single_owner_no_leak (built : b.package.Built) (addressable : b.package.Addressable)
    (steps : List (Step × Option String)) (proxied : ∀ step ∈ steps, step.1.isNative = false)
    (disciplined : (Course.start {}).Disciplined b b.answerInMemory steps)
    (few : ((Course.start {}).play b b.answerInMemory steps).native.heap.slots.size < 2 ^ 32) :
    let c := (Course.start {}).play b b.answerInMemory steps
    let ended := c.finish b b.answerInMemory
    OneOwner c ∧
      (∀ name held, c.state.proxies.lookup name = some held → ∀ as,
        (c.step b b.answerInMemory (.release name) as).1 = .ok (.flag held.proxy.owns)) ∧
      (∀ a ∈ ended.log, a.Smooth) ∧
      (∀ h, ended.native.heap.isLive h = true ↔ h ∈ c.raw ∨ ∃ owner ∈ c.raw, ended.native.heap.Owns owner h) ∧
      (c.raw = 0 → ended.native.heap.live = 0) := by
  intro c ended
  have inOrder : c.InOrder b.package :=
    Course.inOrder_play built addressable Course.inOrder_start proxied disciplined few
  have left : ended.InOrder b.package := Course.inOrder_finish built addressable inOrder few
  have all : (⟨ended.state.owned,ended.raw⟩ : Titles).all = c.raw := zero_add _
  have alive := isLive_iff_of_orderly left.orderly
  rw [all] at alive
  refine ⟨inOrder.orderly.entitled.count,?_,left.orderly.smooth,alive,fun none => ?_⟩
  · exact fun name held found as => Course.release_succeeds built addressable inOrder few found as
  · refine left.orderly.sound.live_congr Heap.sound_empty fun h => ?_
    rw [none] at alive
    have dead : ¬ended.native.heap.isLive h = true := by simp [alive]
    exact (Bool.eq_false_iff.mpr dead).trans (Arena.isLive_false_iff.mpr Heap.get?_empty).symm

/-- One node is given away, adopted and released; another is given away for good. -/
def twoNodes : List (Step × Option String) :=
  [(.createAs .reflective "Node" "a",none),(.toBare "a" "p",none),(.toHandle "p",some "h"),
    (.adoptBare (.saved "h") "q",none),(.release "q",none),(.createAs .reflective "Node" "b",none),
    (.toBare "b" "p",none),(.toHandle "p",none)]

/-- The node that was given away for good stays, with its list. -/
theorem single_owner_two_nodes :
    let c := (Course.start {}).play ⟨forest,{}⟩ (Bridge.answerInMemory ⟨forest,{}⟩) twoNodes
    OneOwner c ∧ c.raw = {.ofSlot 1 2} ∧ c.native.heap.live = 2 := by
  have disciplined : (Course.start {}).Disciplined ⟨forest,{}⟩ (Bridge.answerInMemory ⟨forest,{}⟩) twoNodes :=
    ⟨by decide,by decide,by decide,by decide +kernel,by decide,by decide,by decide,by decide,trivial⟩
  have few : ((Course.start {}).play ⟨forest,{}⟩ (Bridge.answerInMemory ⟨forest,{}⟩) twoNodes).native.heap.slots.size
      < 2 ^ 32 := by decide +kernel
  have spec := single_owner_no_leak forest_built forest_addressable twoNodes (by decide) disciplined few
  exact ⟨spec.1,by decide +kernel,by decide +kernel⟩

end Session

end HandleBridge
