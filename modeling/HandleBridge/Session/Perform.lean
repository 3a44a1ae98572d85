import HandleBridge.Session.State

/-!
What steps do.
-/

namespace HandleBridge.Session

open Stage

namespace ListStep

/-- Does an insertion and answers the size after it. -/
def inserting (b : Bridge) (l : ListProxy) (insertion : Action Unit) : Stage Result := act do
  insertion
  return .number (← l.size b).toNat

def perform (b : Bridge) (l : ListProxy) : ListStep → Stage Result
  | size => act do return .number (← l.size b).toNat
  | isEmpty => act (.flag <$> l.isEmpty b)
  | element i => act (.ofObject? <$> l.elementAt b i)
  | handle i => act (.handle <$> l.handleAt b i)
  | pushBack name => do inserting b l (l.pushBack b (← object name))
  | insertAt i name => do inserting b l (l.insertAt b i (← object name))
  | insertAll name => do inserting b l (l.insertAll b (← list name))
  | clear => act do
    l.clear b
    return .nothing
  | handles => act (.handles <$> l.handles b)
  | iterate => act do
    let (length,items) ← l.iterate b
    return .iteration length items
  | iterateClearing => act (.items <$> l.iterateClearing b)
  | info => pure (.listInfo l)

end ListStep

namespace Step

def keepObject (b : Bridge) (view : TypedView) (as : String) (making : Action ObjectProxy) : Stage Result := do
  let o ← act making
  keep b as (.object o view)
  return .object o

/-- Keeps a new object proxy if there is one. -/
def keepObject? (b : Bridge) (view : TypedView) (as : String) (making : Action (Option ObjectProxy)) :
    Stage Result := do
  match ← act making with
  | some o =>
    keep b as (.object o view)
    return .object o
  | none => return .nothing

def keepList (b : Bridge) (as : String) (making : Action ListProxy) : Stage Result := do
  let l ← act making
  keep b as (.list l)
  return .list l

/-- Answers nothing but that the work is done. -/
def doing (work : Action Unit) : Stage Result := act do
  work
  return .nothing

/-- Releases a proxy, which stays under its name. -/
def releaseHeld (b : Bridge) (name : String) : Stage Result := do
  let held ← find name
  update name (held.withProxy .retired)
  act (.flag <$> held.proxy.release b)

/-- Sees an object through another view and uses it. -/
def downcastObject (b : Bridge) (o : ObjectProxy) (view : TypedView) (use : Option Use) : Stage Result := do
  let seen ← act (o.downcast b view.toView)
  match use with
  | none => return .downcast seen none
  | some use => do
    if let some operand := use.write then
      let v ← evaluate operand
      act (seen.set b use.feature v)
    return .downcast seen (some (← act (seen.get b use.feature true)))

def perform (b : Bridge) : Step → Stage Result
  | create view as => keepObject b view as (b.create view.toView)
  | createAs view cls as => keepObject b view as (b.createAs view.toView cls)
  | wrap h view as => do keepObject? b view as (b.wrapBorrowed view.toView (← resolve h))
  | adopt h view as => do keepObject? b view as (b.adopt view.toView (← resolve h))
  | borrowBare h as => do
    keep b as (.bare (.borrowing (← resolve h)))
    return .nothing
  | adoptBare h as => do
    keep b as (.bare (← always (Proxy.adopt (← resolve h))))
    return .nothing
  | fromBare name view as => do keepObject b view as (b.wrap view.required (← takeBare name))
  | fromBareOf name cls as => do keepObject b .reflective as (b.wrap cls (← takeBare name))
  | toBare name as => do
    let o ← object name
    forget name
    keep b as (.bare o.proxy)
    return .nothing
  | toHandle name => do return .handle (← takeBare name).handle
  | info name => do
    let held ← find name
    return .proxyInfo held.proxy held.describe
  | release name => releaseHeld b name
  | drop name => do
    let held ← find name
    forget name
    always (held.proxy.drop b)
    return .nothing
  | handle h => .handle <$> resolve h
  | bridge => pure (.bridge b)
  | get name f resolve => do act (.value <$> (← object name).get b f resolve)
  | set name f v => do doing ((← object name).set b f (← evaluate v))
  | isSet name f => do act (.flag <$> (← object name).isSet b f)
  | unset name f => do doing ((← object name).unset b f)
  | initialise name => do doing ((← object name).initialise b)
  | getAs name f t => do act (.unboxed t <$> (← object name).getAs b t f)
  | getNamed name f => do act (.value <$> (← object name).getNamed b f)
  | setNamed name f v => do doing ((← object name).setNamed b f (← evaluate v))
  | classType name => do return .classType (← object name).cls
  | feature name f => do
    let o ← object name
    act do return .feature (← o.cls.feature f)
  | snapshot name => do act (.snapshot <$> (← object name).snapshot b)
  | reference name f view => do
    match ← act ((← object name).reference b f view.toView) with
    | some o => return .reference o
    | none => return .nothing
  | setReference name f target => do
    let o ← object name
    match target with
    | some target => doing (o.setReference b f (some (← object target)))
    | none => doing (o.setReference b f none)
  | downcast name view use => do downcastObject b (← object name) view use
  | duplicate name view as => do keepObject b view as ((← object name).duplicate b view.toView)
  | onFeature name f element step => do
    let l ← act ((← object name).list b f element.toView)
    step.perform b l
  | read name accessor => do
    let (o,view) ← viewed name
    let a ← need (view.accessor? accessor)
    act (.unboxed a.type <$> o.read b a)
  | write name accessor v => do
    let (o,view) ← viewed name
    let a ← need (view.accessor? accessor)
    doing (o.set b a.feature v)
  | onSequence name accessor step => do
    let (o,view) ← viewed name
    let s ← need (view.sequence? accessor)
    step.perform b (← act (o.sequence b s))
  | createList element as => keepList b as (b.createList element.toView)
  | createListOf element cls as => keepList b as (b.createListOf element.toView cls)
  | borrowList h cls element as => do
    let h ← resolve h
    keepList b as do b.borrowList element.toView h cls
  | onList name step => do step.perform b (← list name)
  | native call target second v => do
    let c := call (← resolve target) (← resolve second) (← evaluate v)
    act do return .ofReply c (← (Routine.ask c : Action c.Reply))

/-- Does a step and saves the handle that it answers, if that is wanted. -/
def performSaving (b : Bridge) (step : Step) (as : Option String) : Stage Result := do
  let result ← step.perform b
  if let some name := as then
    if let some h := result.handle? then save name h
  return result

end Step

/-- Drops the proxies of a session in the order of their names. -/
def State.finish (b : Bridge) (state : State) : Routine Unit :=
  (state.proxies.mergeSort fun x y => !(y.1 < x.1)).forM fun (_,held) => held.proxy.drop b

end HandleBridge.Session
