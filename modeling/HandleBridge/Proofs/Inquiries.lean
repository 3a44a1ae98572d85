import HandleBridge.Proofs.NullCrossings
import HandleBridge.Proofs.ReturnedText

/-!
How the adapter explains a failure, whatever the library answers. A call enters its own entry once. Only where that
reports that a range or a type is wrong, the adapter looks further: it enters at most two more entries, and these only
tell a class or a length. An answer other than success always shows, and where a look tells nothing the error shows the
status that the call itself came back with.
-/

namespace HandleBridge.Foreign

variable {α β σ : Type}

/-- Entry that was entered, if an exchange was one. -/
def Exchanged.crossing? : Exchanged → Option Crossing
  | ⟨.enter c,outcome⟩ => some ⟨c,outcome⟩
  | _ => none

def crossings (traffic : List Exchanged) : List Crossing := traffic.filterMap Exchanged.crossing?

theorem crossings_append (traffic more : List Exchanged) :
    crossings (traffic ++ more) = crossings traffic ++ crossings more := List.filterMap_append

/-- Whether a condition holds of the entries that an exchange enters and of its result, whatever it is answered. -/
def Exchange.Enters (x : Exchange α) (post : List Crossing → α → Prop) : Prop :=
  Script.Ensures x fun traffic a => post (crossings traffic) a

namespace Exchange.Enters

variable {x : Exchange α} {first post : List Crossing → α → Prop}

theorem pure {a : α} (holds : post [] a) : Exchange.Enters (Pure.pure a) post := holds

theorem mono (enters : x.Enters first) (weaker : ∀ entered a, first entered a → post entered a) : x.Enters post :=
  Script.Ensures.mono enters fun traffic => weaker (crossings traffic)

theorem bind {f : α → Exchange β} {post : List Crossing → β → Prop} (enters : x.Enters first)
    (rest : ∀ entered a, first entered a → (f a).Enters fun more b => post (entered ++ more) b) :
    Exchange.Enters (x >>= f) post := by
  refine Script.Ensures.bind enters fun traffic a holds => ?_
  refine Script.Ensures.mono (rest (crossings traffic) a holds) fun more b last => ?_
  rw [crossings_append]
  exact last

theorem enterEntry (c : Call RawValue) :
    Exchange.Enters (enterEntry c) fun entered outcome => entered = [⟨c,outcome⟩] := fun _ => rfl

theorem run (enters : x.Enters post) (answer : (r : Request) → StateM σ (Answer r)) (library : σ) :
    let (a,_,traffic) := x.run (Script.transcribing answer) (library,[])
    post (crossings traffic) a := by
  obtain ⟨added,after,holds⟩ := Script.Ensures.run enters answer library []
  rw [List.nil_append] at after
  rw [← after] at holds
  exact holds

end Exchange.Enters

/-- Whether an entry only tells the class of an object or the length of a list. -/
inductive Crossing.Looks : Crossing → Prop
  | classOf {h : Handle} {outcome : Outcome ClassId} : Looks ⟨.classOf h,outcome⟩
  | listSize {list : Handle} {outcome : Outcome UInt64} : Looks ⟨.listSize list,outcome⟩

/-- Whether a look told something: it did not fail, and a class that it named is one of the package. -/
inductive Crossing.Tells (p : Package) : Crossing → Prop
  | classOf {h : Handle} {id : ClassId} {cls : ClassType} (known : p.class? id = some cls) :
    Tells p ⟨.classOf h,⟨.ok,id⟩⟩
  | listSize {list : Handle} {length : UInt64} : Tells p ⟨.listSize list,⟨.ok,length⟩⟩

/-- Whether something was found out about a call with so many looks at most, by entries other than the call's own,
and with every look telling something. -/
structure Inquiry (p : Package) (c : Call Value) (most : Nat) (looks : List Crossing) (found : Option α) : Prop where
  few : looks.length ≤ most
  looking : ∀ look ∈ looks, look.Looks ∧ look.call.name ≠ c.name
  vain : (∃ look ∈ looks, ¬look.Tells p) → found = none

namespace Inquiry

variable {p : Package} {c : Call Value} {most further : Nat} {looks more : List Crossing} {found : Option α}
  {next : Option β}

theorem nothing : Inquiry p c most [] found := by
  refine ⟨Nat.zero_le most,nofun,?_⟩
  rintro ⟨look,member,-⟩
  cases member

theorem single {look : Crossing} (looking : look.Looks) (other : look.call.name ≠ c.name)
    (tells : found ≠ none → look.Tells p) : Inquiry p c 1 [look] found := by
  refine ⟨Nat.le_refl 1,List.forall_mem_singleton.mpr ⟨looking,other⟩,?_⟩
  rintro ⟨entered,member,silent⟩
  obtain rfl := List.mem_singleton.mp member
  by_contra found
  exact silent (tells found)

/-- More looks after some that found something. -/
theorem append {a : α} (inquiry : Inquiry p c most looks (some a)) (later : Inquiry p c further more next) :
    Inquiry p c (most + further) (looks ++ more) next := by
  refine ⟨?_,List.forall_mem_append.mpr ⟨inquiry.looking,later.looking⟩,?_⟩
  · rw [List.length_append]
    exact Nat.add_le_add inquiry.few later.few
  · rintro ⟨look,member,silent⟩
    rcases List.mem_append.mp member with member | member
    · cases inquiry.vain ⟨look,member,silent⟩
    · exact later.vain ⟨look,member,silent⟩

/-- What is found may be put in other words, and more looks are allowed than were made. -/
theorem mono (inquiry : Inquiry p c most looks found) (less : most ≤ further) (same : found = none → next = none) :
    Inquiry p c further looks next :=
  ⟨inquiry.few.trans less,inquiry.looking,fun silent => same (inquiry.vain silent)⟩

end Inquiry

/-- Whether an exchange finds something out about a call in that way, whatever it is answered. -/
def Exchange.Inquires (p : Package) (c : Call Value) (most : Nat) (x : Exchange (Option α)) : Prop :=
  x.Enters fun looks found => Inquiry p c most looks found

namespace Exchange.Inquires

variable {p : Package} {c : Call Value} {most further : Nat} {x : Exchange (Option α)}

theorem pure (found : Option α) : Exchange.Inquires p c most (Pure.pure found) := Exchange.Enters.pure .nothing

/-- Who found nothing stops there; who found something may go on to look. -/
theorem bind (further : Nat) {f : Option α → Exchange (Option β)} (inquires : x.Inquires p c most)
    (stops : f none = Pure.pure none) (rest : ∀ a, (f (some a)).Inquires p c further) :
    Exchange.Inquires p c (most + further) (x >>= f) := by
  refine Exchange.Enters.bind inquires fun looks found inquiry => ?_
  cases found with
  | none =>
    rw [stops]
    refine Exchange.Enters.pure ?_
    rw [List.append_nil]
    exact inquiry.mono (Nat.le_add_right most further) fun _ => rfl
  | some a => exact Exchange.Enters.mono (rest a) fun more found later => inquiry.append later

theorem map (inquires : x.Inquires p c most) (f : α → β) :
    Exchange.Inquires p c most (do return (← x).map f) := by
  refine Exchange.Inquires.bind 0 inquires (by rfl) fun a => ?_
  exact Exchange.Inquires.pure (some (f a))

theorem mono (inquires : x.Inquires p c most) (less : most ≤ further) : x.Inquires p c further :=
  Exchange.Enters.mono inquires fun _ _ inquiry => inquiry.mono less id

end Exchange.Inquires

namespace Adapter

variable {p : Package} {c : Call Value}

/-! ### Explanations -/

theorem enters_look (c : Call RawValue) :
    Exchange.Enters (look c) fun entered seen =>
      ∃ outcome : Outcome c.Reply, entered = [⟨c,outcome⟩] ∧ ∀ reply, seen = some reply → outcome = ⟨.ok,reply⟩ := by
  refine Exchange.Enters.bind (Exchange.Enters.enterEntry c) ?_
  rintro _ ⟨status,out⟩ rfl
  refine Exchange.Enters.pure ⟨⟨status,out⟩,List.append_nil _,fun reply same => ?_⟩
  by_cases succeeded : status = Status.ok
  · rw [if_pos succeeded] at same
    cases same
    rw [succeeded]
  · rw [if_neg succeeded] at same
    cases same

theorem inquires_classOf (h : Handle) (other : "class_of" ≠ c.name) : (classOf p h).Inquires p c 1 := by
  refine Exchange.Enters.bind (enters_look (.classOf h)) ?_
  rintro _ seen ⟨outcome,rfl,shows⟩
  refine Exchange.Enters.pure (Inquiry.single .classOf other fun found => ?_)
  obtain ⟨cls,found⟩ := Option.ne_none_iff_exists'.mp found
  obtain ⟨id,same,known⟩ := Option.bind_eq_some_iff.mp found
  rw [shows id same]
  exact .classOf known

theorem inquires_listSize (list : Handle) (other : "list_size" ≠ c.name) :
    (look (.listSize list)).Inquires p c 1 := by
  refine Exchange.Enters.mono (enters_look (.listSize list)) ?_
  rintro _ seen ⟨outcome,rfl,shows⟩
  refine Inquiry.single .listSize other fun found => ?_
  obtain ⟨length,found⟩ := Option.ne_none_iff_exists'.mp found
  rw [shows length found]
  exact .listSize

theorem inquires_indexFailure (list : Handle) (i : UInt64) (other : "list_size" ≠ c.name) :
    (indexFailure list i).Inquires p c 1 := (inquires_listSize list other).map _

theorem inquires_featureFailure (h : Handle) (f : FeatureId) (other : "class_of" ≠ c.name) :
    (featureFailure p h f).Inquires p c 1 := by
  refine Exchange.Inquires.bind 0 (inquires_classOf h other) (by rfl) fun cls => ?_
  dsimp only
  split
  · exact Exchange.Inquires.pure _
  · exact Exchange.Inquires.pure _

theorem inquires_elementFailure (list element : Handle) (other : "class_of" ≠ c.name) :
    (elementFailure p list element).Inquires p c 1 := (inquires_classOf element other).map _

/-- Both the class that has the feature and the class of what was written may be looked up. -/
theorem inquires_valueFailure (h : Handle) (f : FeatureId) (v : Value) (other : "class_of" ≠ c.name) :
    (valueFailure p h f v).Inquires p c 2 := by
  refine Exchange.Inquires.bind 1 (inquires_classOf h other) (by rfl) fun cls => ?_
  dsimp only
  split
  · exact Exchange.Inquires.pure _
  · split
    · exact (inquires_classOf _ other).map _
    · exact Exchange.Inquires.pure _
    · exact Exchange.Inquires.pure _

/-- What is out of range is found out by one look. -/
theorem inquires_rangeFailure (c : Call Value) : (rangeFailure p c).Inquires p c 1 := by
  cases c with
  | listAt list i => exact inquires_indexFailure list i (by simp [Call.name])
  | insertAt list i element => exact inquires_indexFailure list i (by simp [Call.name])
  | get h f resolve => exact inquires_featureFailure h f (by simp [Call.name])
  | set h f v => exact inquires_featureFailure h f (by simp [Call.name])
  | isSet h f => exact inquires_featureFailure h f (by simp [Call.name])
  | unset h f => exact inquires_featureFailure h f (by simp [Call.name])
  | _ => exact Exchange.Inquires.pure _

/-- What has the wrong type is found out by two looks at most. -/
theorem inquires_typeFailure (c : Call Value) : (typeFailure p c).Inquires p c 2 := by
  cases c with
  | set h f v => exact inquires_valueFailure h f v (by simp [Call.name])
  | pushBack list element =>
    apply Exchange.Inquires.mono (inquires_elementFailure list element _) (Nat.le_succ 1)
    simp [Call.name]
  | insertAt list i element =>
    apply Exchange.Inquires.mono (inquires_elementFailure list element _) (Nat.le_succ 1)
    simp [Call.name]
  | _ => exact Exchange.Inquires.pure _

end Adapter

/-- How a call goes on after its own entry came back with a status: the further entries that it enters, and its
answer. -/
structure Handled (p : Package) (c : Call Value) (status : Status) (looks : List Crossing) (answer : Except Error α) :
    Prop where
  few : looks.length ≤ 2
  looking : ∀ look ∈ looks, look.Looks ∧ look.call.name ≠ c.name
  occasion : looks ≠ [] → status = .outOfRange ∨ status = .typeMismatch
  succeeds : answer.isOk → status = .ok
  foreign : status < Status.ok ∨ Status.typeMismatch < status → answer = .error (Adapter.unexplained c status)
  vain : status = .outOfRange ∨ status = .typeMismatch → (∃ look ∈ looks, ¬look.Tells p) →
    answer = .error (Adapter.unexplained c status)

namespace Handled

variable {p : Package} {c : Call Value} {status : Status} {looks : List Crossing}

/-- What is made of a result leaves an error as it is. -/
theorem mono {result : Except Error α} {answer : Except Error β} (handled : Handled p c status looks result)
    (errors : ∀ e, result = .error e → answer = .error e) : Handled p c status looks answer where
  few := handled.few
  looking := handled.looking
  occasion := handled.occasion
  succeeds succeeded := by
    apply handled.succeeds
    cases result with
    | ok a => rfl
    | error e =>
      rw [errors e rfl] at succeeded
      cases succeeded
  foreign other := errors _ (handled.foreign other)
  vain wrong silent := errors _ (handled.vain wrong silent)

theorem ok (a : α) : Handled p c Status.ok [] (.ok a) where
  few := Nat.zero_le 2
  looking := nofun
  occasion some := absurd rfl some
  succeeds _ := rfl
  foreign other := absurd other (by decide)
  vain wrong := absurd wrong (by decide)

/-- A failure that calls for no look. -/
theorem plain {e : Error}
    (foreign : status < Status.ok ∨ Status.typeMismatch < status → e = Adapter.unexplained c status) :
    Handled p c status [] (.error e : Except Error α) where
  few := Nat.zero_le 2
  looking := nofun
  occasion some := absurd rfl some
  succeeds := nofun
  foreign other := congrArg Except.error (foreign other)
  vain _ := by
    rintro ⟨look,member,-⟩
    cases member

/-- A failure of which a look may find out more than the status. -/
theorem explained {found : Option Error} (wrong : status = .outOfRange ∨ status = .typeMismatch)
    (inquiry : Inquiry p c 2 looks found) :
    Handled p c status looks (.error (found.getD (Adapter.unexplained c status)) : Except Error α) where
  few := inquiry.few
  looking := inquiry.looking
  occasion _ := wrong
  succeeds := nofun
  foreign other := by
    rcases wrong with rfl | rfl
    · exact absurd other (by decide)
    · exact absurd other (by decide)
  vain _ silent := by rw [inquiry.vain silent,Option.getD_none]

end Handled

/-- Whether a call first entered its own entry, and then was handled as the status of that one asks for. -/
def Proceeds (p : Package) (c : Call Value) (entered : List Crossing) (answer : Except Error α) : Prop :=
  ∃ outcome looks, entered = ⟨c.map RawValue.borrow,outcome⟩ :: looks ∧ Handled p c outcome.status looks answer

/-- What a call does with the result of its entry enters nothing more. -/
theorem Proceeds.bind {p : Package} {c : Call Value} {x : Exchange (Except Error α)}
    {f : Except Error α → Exchange (Except Error β)} (enters : x.Enters (Proceeds p c))
    (rest : ∀ result, (f result).Enters fun more answer => more = [] ∧ ∀ e, result = .error e → answer = .error e) :
    Exchange.Enters (x >>= f) (Proceeds p c) := by
  refine Exchange.Enters.bind enters fun entered result proceeds => ?_
  obtain ⟨outcome,looks,rfl,handled⟩ := proceeds
  refine Exchange.Enters.mono (rest result) ?_
  rintro _ answer ⟨rfl,errors⟩
  exact ⟨outcome,looks,List.append_nil _,handled.mono errors⟩

namespace Adapter

variable {p : Package} {c : Call Value}

theorem enters_diagnose (p : Package) (α : Type) (c : Call Value) (status : Status) :
    Exchange.Enters (diagnose p c status) fun looks e => Handled p c status looks (.error e : Except Error α) := by
  by_cases null : status = Status.nullHandle
  · rw [diagnose,if_pos null,null]
    exact Exchange.Enters.pure (.plain fun other => absurd other (by decide))
  by_cases stale : status = Status.staleHandle
  · rw [diagnose,if_neg null,if_pos stale,stale]
    exact Exchange.Enters.pure (.plain fun other => absurd other (by decide))
  by_cases range : status = Status.outOfRange
  · rw [diagnose,if_neg null,if_neg stale,if_pos range]
    refine Exchange.Enters.bind (inquires_rangeFailure c) fun looks found inquiry => Exchange.Enters.pure ?_
    rw [List.append_nil]
    exact .explained (.inl range) (inquiry.mono (Nat.le_succ 1) id)
  by_cases type : status = Status.typeMismatch
  · rw [diagnose,if_neg null,if_neg stale,if_neg range,if_pos type]
    refine Exchange.Enters.bind (inquires_typeFailure c) fun looks found inquiry => Exchange.Enters.pure ?_
    rw [List.append_nil]
    exact .explained (.inr type) inquiry
  · rw [diagnose,if_neg null,if_neg stale,if_neg range,if_neg type]
    exact Exchange.Enters.pure (.plain fun _ => rfl)

/-- A call enters its own entry first, and then only looks. -/
theorem enters_enter (c : Call Value) : Exchange.Enters (enter p c) (Proceeds p c) := by
  refine Exchange.Enters.bind (Exchange.Enters.enterEntry (c.map RawValue.borrow)) ?_
  rintro _ ⟨status,out⟩ rfl
  by_cases succeeded : status = Status.ok
  · rw [if_pos succeeded]
    refine Exchange.Enters.pure ⟨⟨status,out⟩,[],rfl,?_⟩
    rw [succeeded]
    exact .ok out
  · rw [if_neg succeeded]
    have diagnosed := enters_diagnose p (c.map RawValue.borrow).Reply c status
    refine Exchange.Enters.bind diagnosed fun looks e handled => ?_
    refine Exchange.Enters.pure ⟨⟨status,out⟩,looks,?_,handled⟩
    rw [List.append_nil]
    rfl

theorem enters_nonNull {x : Exchange (Except Error Handle)} (enters : x.Enters (Proceeds p c)) :
    Exchange.Enters (do return (← x) >>= nonNull) (Proceeds p c) := by
  refine Proceeds.bind enters fun result => Exchange.Enters.pure ⟨rfl,?_⟩
  rintro e rfl
  rfl

theorem enters_takeOver (raw : RawValue) : Exchange.Enters (takeOver raw) fun entered _ => entered = [] := by
  unfold takeOver
  split
  · exact fun _ _ => rfl
  · exact Exchange.Enters.pure rfl

/-- Every call through the library does the same, whatever is made of its reply. -/
theorem enters_call (c : Call Value) : Exchange.Enters (call p c) (Proceeds p c) := by
  cases c with
  | create cls => exact enters_nonNull (enters_enter (.create cls))
  | createList cls => exact enters_nonNull (enters_enter (.createList cls))
  | upcast h => exact enters_nonNull (enters_enter (.upcast h))
  | copy h => exact enters_nonNull (enters_enter (.copy h))
  | get h f resolve =>
    refine Proceeds.bind (enters_enter (.get h f resolve)) fun result => ?_
    cases result with
    | ok raw => exact Exchange.Enters.mono (enters_takeOver raw) fun _ _ none => ⟨none,nofun⟩
    | error e =>
      refine Exchange.Enters.pure ⟨rfl,?_⟩
      rintro _ ⟨⟩
      rfl
  | destroy h => exact enters_enter (.destroy h)
  | initialise h => exact enters_enter (.initialise h)
  | classOf h => exact enters_enter (.classOf h)
  | set h f v => exact enters_enter (.set h f v)
  | isSet h f => exact enters_enter (.isSet h f)
  | unset h f => exact enters_enter (.unset h f)
  | listSize list => exact enters_enter (.listSize list)
  | listAt list i => exact enters_enter (.listAt list i)
  | pushBack list element => exact enters_enter (.pushBack list element)
  | insertAt list i element => exact enters_enter (.insertAt list i element)
  | insertAll list other => exact enters_enter (.insertAll list other)
  | clear list => exact enters_enter (.clear list)

/-! ### Looks are calls -/

/-- Why a call for a class or a length failed is not looked up, so no look leads to another. -/
theorem diagnose_of_unexplained (range : rangeFailure p c = pure none) (type : typeFailure p c = pure none)
    (status : Status) : ∃ e, diagnose p c status = pure e := by
  unfold diagnose
  rw [range,type]
  split
  · exact ⟨_,rfl⟩
  split
  · exact ⟨_,rfl⟩
  split
  · exact ⟨_,rfl⟩
  split
  · exact ⟨_,rfl⟩
  · exact ⟨_,rfl⟩

theorem look_of_unexplained (range : rangeFailure p c = pure none) (type : typeFailure p c = pure none) :
    look (c.map RawValue.borrow) = Except.toOption <$> enter p c := by
  unfold look enter
  rw [map_bind]
  refine congrArg _ (funext fun outcome => ?_)
  obtain ⟨e,failed⟩ := diagnose_of_unexplained range type outcome.status
  by_cases succeeded : outcome.status = Status.ok
  · rw [if_pos succeeded,if_pos succeeded]
    rfl
  · rw [if_neg succeeded,if_neg succeeded,failed]
    rfl

/-- A look at a class is the adapter's own call for it, whose error nobody sees. -/
theorem look_classOf (h : Handle) : look (.classOf h) = Except.toOption <$> call p (.classOf h) :=
  look_of_unexplained (c := .classOf h) rfl rfl

/-- A look at a length is the adapter's own call for it, whose error nobody sees. -/
theorem look_listSize (list : Handle) : look (.listSize list) = Except.toOption <$> call p (.listSize list) :=
  look_of_unexplained (c := .listSize list) rfl rfl

end Adapter

/-- Whatever a library answers, and however it changes between calls: every call enters its own entry, once, and then
at most two further entries, which only tell a class or a length, and these only if its own entry reported that a range
or a type is wrong. It succeeds only if its own entry did. A status that is none of the five known ones shows in its
error, and so does the status itself where a look fails or names a class that the package lacks. The looks are the
adapter's own calls, made without their errors. -/
theorem diagnosis_only_looks (p : Package) (c : Call Value) (answer : (r : Request) → StateM σ (Answer r))
    (library : σ) :
    let (result,_,traffic) := (Adapter.call p c).run (Script.transcribing answer) (library,[])
    Proceeds p c (crossings traffic) result ∧
      (∀ h, Adapter.look (.classOf h) = Except.toOption <$> Adapter.call p (.classOf h)) ∧
      ∀ list, Adapter.look (.listSize list) = Except.toOption <$> Adapter.call p (.listSize list) :=
  ⟨(Adapter.enters_call c).run answer library,Adapter.look_classOf,Adapter.look_listSize⟩

/-- A library in which every entry finds a type to be wrong. -/
def mistyping : (r : Request) → StateM Unit (Answer r)
  | .enter c => pure ⟨.typeMismatch,blank c⟩
  | .readText buffer => pure buffer.bytes
  | .freeString _ => pure ()

/-- There the look at a class fails like the write that it was to explain, and that is the end of it. -/
example :
    let (result,_,traffic) := (Adapter.call ⟨"forest","urn:forest",[]⟩ (.set ⟨5⟩ ⟨0⟩ (.int 7))).run
      (Script.transcribing mistyping) ((),[])
    (crossings traffic).map (fun crossing => crossing.call.name) = ["e_set","class_of"] ∧
      result = .error (.native 4 "e_set on 0x5 failed with status 4") := by
  constructor
  · decide
  · decide +kernel

end HandleBridge.Foreign
