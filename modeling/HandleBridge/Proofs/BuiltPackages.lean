import Mathlib.Data.List.Forall2
import HandleBridge.Proofs.HeapOperations
import HandleBridge.Schema.Definition

/-!
What building gives. The class of each identifier is the one that was defined at its place, targets of references
are classes, defaults fit, and the classes that a class derives from are those that its parent chain leads to
(`Ascends`), so that deriving is transitive (`isA_trans`).
-/

namespace HandleBridge

/-- Only attributes have a default of their own. The class builder and schema documents define nothing else. -/
def ClassDef.Buildable (d : ClassDef) : Prop :=
  ∀ row ∈ d.features, ∀ target many, row.kind = .reference target many → row.default = none

/-- A package as building makes it. -/
def Package.Built (p : Package) : Prop :=
  ∃ name uri defs, (∀ d ∈ defs, ClassDef.Buildable d) ∧ Package.build name uri defs = .ok p

/-- The classes, and the features of each class, can be counted in the 32 bits of their identifiers. -/
structure Package.Addressable (p : Package) : Prop where
  classes : p.classes.length < 2 ^ 32
  features : ∀ cls ∈ p.classes, cls.features.length < 2 ^ 32

/-- A package of trees whose nodes carry a tag. -/
def forest : Package := ⟨"forest","urn:forest",[
  ⟨⟨0⟩,"Tag",[],false,[⟨⟨0⟩,"text",.data .string,.string ""⟩]⟩,
  ⟨⟨1⟩,"Node",[],false,[⟨⟨0⟩,"tag",.reference "Tag" false,.null⟩,⟨⟨1⟩,"children",.reference "Node" true,.null⟩]⟩,
  ⟨⟨2⟩,"Leaf",[⟨1⟩],false,[⟨⟨0⟩,"tag",.reference "Tag" false,.null⟩,⟨⟨1⟩,"children",.reference "Node" true,.null⟩,
    ⟨⟨2⟩,"size",.data .int,.int 1⟩]⟩]⟩

theorem forest_built : forest.Built := by
  refine ⟨"forest","urn:forest",[
    { name := "Tag", features := [⟨"text",.data .string,none⟩] },
    { name := "Node", features := [⟨"tag",.reference "Tag" false,none⟩,⟨"children",.reference "Node" true,none⟩] },
    { name := "Leaf", parent := some "Node", features := [⟨"size",.data .int,some (.int 1)⟩] }],?_,rfl⟩
  intro d member row within target many isReference
  simp only [List.mem_cons,List.not_mem_nil,or_false] at member
  rcases member with rfl | rfl | rfl <;> simp at within
  · subst within
    cases isReference
  · rcases within with rfl | rfl <;> rfl
  · subst within
    cases isReference

theorem forest_addressable : forest.Addressable where
  classes := by decide
  features := by decide

/-- A map that may fail succeeds when it succeeds for each item, with the results in order. -/
theorem mapM_eq_ok_iff {ε α β : Type} {f : α → Except ε β} {xs : List α} {ys : List β} :
    xs.mapM f = .ok ys ↔ List.Forall₂ (fun x y => f x = .ok y) xs ys := by
  induction xs generalizing ys with
  | nil => simp [pure,Except.pure,eq_comm]
  | cons x rest ih =>
    rw [List.mapM_cons,List.forall₂_cons_left_iff]
    simp only [bind_eq_ok_iff,ih]
    constructor
    · rintro ⟨y,first,others,further,done⟩
      cases done
      exact ⟨y,others,first,further,rfl⟩
    · rintro ⟨y,others,first,further,rfl⟩
      exact ⟨y,first,others,further,rfl⟩

/-- Lists that go together item by item have items that go together at each place. -/
theorem getElem?_of_forall₂ {α β : Type} {R : α → β → Prop} {xs : List α} {ys : List β} {i : Nat} {x : α}
    (each : List.Forall₂ R xs ys) (found : xs[i]? = some x) : ∃ y, ys[i]? = some y ∧ R x y := by
  obtain ⟨inside,rfl⟩ := List.getElem?_eq_some_iff.mp found
  have insideOther : i < ys.length := each.length_eq ▸ inside
  exact ⟨_,List.getElem?_eq_getElem insideOther,each.get inside insideOther⟩

theorem mapM_eq_ok {ε α β : Type} {f : α → Except ε β} {xs : List α} {ys : List β} (done : xs.mapM f = .ok ys) :
    ys.length = xs.length ∧ ∀ (i : Nat) (x : α), xs[i]? = some x → ∃ y, ys[i]? = some y ∧ f x = .ok y := by
  have each := mapM_eq_ok_iff.mp done
  exact ⟨each.length_eq.symm,fun i x found => getElem?_of_forall₂ each found⟩

namespace ClassDef

variable {defs : List ClassDef} {d : ClassDef} {place : Nat} {cls : ClassType}

/-- Feature that one row of the definitions gives at its place in the table. -/
def rowFeature (row : FeatureDef) (place : Nat) : Feature :=
  ⟨⟨UInt32.ofNat place⟩,row.name,row.kind,row.default.getD (Value.default row.kind.valueKind)⟩

theorem foldlM_addRow {name : String} {rows : List FeatureDef} {table made : List Feature}
    (done : rows.foldlM (featureTable.addRow name) table = .ok made) :
    made = table ++ (rows.zipIdx table.length).map fun (row,place) => rowFeature row place := by
  induction rows generalizing table with
  | nil =>
    cases done
    simp
  | cons row rest ih =>
    simp only [List.foldlM_cons,bind_eq_ok_iff] at done
    obtain ⟨longer,added,done⟩ := done
    unfold featureTable.addRow at added
    split at added
    · cases added
    · cases added
      rw [ih done]
      simp [rowFeature]

theorem featureTable_eq_ok {name : String} {rows : List FeatureDef} {made : List Feature}
    (done : featureTable name rows = .ok made) : made = rows.zipIdx.map fun (row,place) => rowFeature row place :=
  foldlM_addRow done

/-- What the checks of one row ensure. -/
structure RowChecked (names : List String) (row : FeatureDef) : Prop where
  target : ∀ target many, row.kind = .reference target many → target ∈ names
  plain : ∀ kind, row.kind = .data kind → kind.holdsHandle = false
  fits : ∀ v, row.default = some v → v.fits row.kind.valueKind = true

/-- What is known of a row that passed its checks. -/
theorem checkFeature_eq_ok {names : List String} {row : FeatureDef} (done : check.checkFeature d names row = .ok ()) :
    RowChecked names row := by
  -- The check of the default comes last, whatever the kind.
  have fits : ∀ v, row.default = some v → v.fits row.kind.valueKind = true := by
    intro v given
    cases fit : v.fits row.kind.valueKind with
    | true => rfl
    | false =>
      unfold check.checkFeature at done
      simp only [given,fit] at done
      split at done
      · split at done <;> cases done
      · split at done <;> cases done
  unfold check.checkFeature at done
  refine ⟨?_,?_,fits⟩
  · intro target many isReference
    simp only [isReference] at done
    split at done
    · rename_i known
      exact List.contains_iff_mem.mp known
    · cases done
  · intro kind isData
    simp only [isData] at done
    split at done
    · cases done
    · rename_i plain
      simpa using plain

/-- What is known of a definition that passed its checks: its parent is defined, and its rows passed theirs. -/
theorem check_eq_ok {names : List String} (done : d.check names = .ok ()) :
    (∀ parent, d.parent = some parent → parent ∈ names) ∧ ∀ row ∈ d.features, RowChecked names row := by
  have rows : ∀ row ∈ d.features, check.checkFeature d names row = .ok () := by
    rw [← forM_eq_ok_iff]
    unfold check at done
    split at done
    · split at done
      · exact done
      · cases done
    · exact done
  refine ⟨?_,fun row member => checkFeature_eq_ok (rows row member)⟩
  intro parent hasParent
  unfold check at done
  simp only [hasParent] at done
  split at done
  · rename_i known
    exact List.contains_iff_mem.mp known
  · cases done

/-! ### Parent chains -/

/-- The places that the parent chain of a class leads to, the nearest first. -/
inductive Ascends (defs : List ClassDef) : ClassDef → List Nat → Prop
  | top {d : ClassDef} (none : d.parent = none) : Ascends defs d []
  | unknown {d : ClassDef} {name : String} (hasParent : d.parent = some name)
      (missing : defs.findIdx? (·.name = name) = none) : Ascends defs d []
  | step {d above : ClassDef} {name : String} {place : Nat} {rest : List Nat} (hasParent : d.parent = some name)
      (found : defs.findIdx? (·.name = name) = some place) (defined : defs[place]? = some above)
      (further : Ascends defs above rest) : Ascends defs d (place :: rest)

/-- A definition has one parent chain. -/
theorem Ascends.unique {first second : List Nat} (one : Ascends defs d first) (other : Ascends defs d second) :
    first = second := by
  induction one generalizing second with
  | top none =>
    cases other with
    | top => rfl
    | unknown => rfl
    | step hasParent => simp [none] at hasParent
  | unknown hasParent missing =>
    cases other with
    | top => rfl
    | unknown => rfl
    | step again found =>
      cases hasParent.symm.trans again
      simp [missing] at found
  | step hasParent found defined further ih =>
    cases other with
    | top none => simp [none] at hasParent
    | unknown again missing =>
      cases hasParent.symm.trans again
      simp [missing] at found
    | step again foundAgain definedAgain furtherAgain =>
      cases hasParent.symm.trans again
      cases found.symm.trans foundAgain
      cases defined.symm.trans definedAgain
      rw [ih furtherAgain]

/-- From a place on the chain the chain goes on as that of the class there. -/
theorem Ascends.suffix {places : List Nat} (chain : Ascends defs d places) (member : place ∈ places) :
    ∃ above rest, defs[place]? = some above ∧ Ascends defs above rest ∧ ∀ i ∈ rest, i ∈ places := by
  induction chain with
  | top => cases member
  | unknown => cases member
  | @step d above name here rest hasParent found defined further ih =>
    rcases List.mem_cons.mp member with rfl | later
    · exact ⟨above,rest,defined,further,fun i later => List.mem_cons_of_mem _ later⟩
    · obtain ⟨higher,rest,atPlace,chain,within⟩ := ih later
      exact ⟨higher,rest,atPlace,chain,fun i later => List.mem_cons_of_mem _ (within i later)⟩

/-- A search that ends without an error lists the parent chain after what it had seen. -/
theorem chain_eq_ok {start fuel : Nat} {seen places : List Nat} (done : chain defs start fuel d seen = .ok places) :
    ∃ above, places = seen ++ above ∧ Ascends defs d above := by
  induction fuel generalizing d seen with
  | zero => cases done
  | succ fuel ih =>
    unfold chain at done
    split at done
    · rename_i none
      cases done
      exact ⟨[],by simp,.top none⟩
    · rename_i name hasParent
      split at done
      · rename_i missing
        cases done
        exact ⟨[],by simp,.unknown hasParent missing⟩
      · rename_i place found
        split at done
        · cases done
        · obtain ⟨inside,-⟩ := List.findIdx?_eq_some_iff_getElem.mp found
          have defined : defs[place]? = some defs[place] := List.getElem?_eq_getElem inside
          obtain ⟨above,same,further⟩ := ih done
          rw [defined,Option.getD_some] at further
          exact ⟨place :: above,by simp [same],.step hasParent found defined further⟩

/-! ### Class types -/

/-- What building makes of the definition at a place. -/
structure Resolved (defs : List ClassDef) (place : Nat) (d : ClassDef) (cls : ClassType) : Prop where
  id : cls.id = ⟨UInt32.ofNat place⟩
  name : cls.name = d.name
  isAbstract : cls.isAbstract = d.isAbstract
  ancestors : ∃ above, Ascends defs d above ∧ cls.ancestors = above.map fun place => ⟨UInt32.ofNat place⟩
  features : ∃ rows : List FeatureDef, (∀ row ∈ rows, ∃ owner ∈ defs, row ∈ owner.features) ∧
    cls.features = rows.zipIdx.map fun (row,place) => rowFeature row place

theorem resolve_eq_ok (defined : defs[place]? = some d) (done : resolve defs place d = .ok cls) :
    Resolved defs place d cls := by
  simp only [resolve,bind_eq_ok_iff] at done
  obtain ⟨above,ascended,features,tabled,done⟩ := done
  cases done
  obtain ⟨chain,same,ascends⟩ := chain_eq_ok ascended
  rw [List.nil_append] at same
  refine ⟨rfl,rfl,rfl,⟨chain,ascends,by rw [same]⟩,_,?_,featureTable_eq_ok tabled⟩
  intro row member
  rcases List.mem_append.mp member with inherited | own
  · obtain ⟨place,-,held⟩ := List.mem_flatMap.mp inherited
    cases found : defs[place]? with
    | none => simp [found] at held
    | some owner => exact ⟨owner,List.mem_of_getElem? found,by simpa [found] using held⟩
  · exact ⟨d,List.mem_of_getElem? defined,own⟩

end ClassDef

namespace Package

variable {p : Package} {name uri : String} {defs : List ClassDef}

/-- Definitions that pass have names of their own, none of which stood before. -/
theorem checkDistinct_eq_ok {before : List String} (done : checkDistinct name before defs = .ok ()) :
    (defs.map ClassDef.name).Nodup ∧ ∀ d ∈ defs, d.name ∉ before := by
  induction defs generalizing before with
  | nil => simp
  | cons d rest ih =>
    unfold checkDistinct at done
    split at done
    · cases done
    · rename_i new
      obtain ⟨distinct,fresh⟩ := ih done
      rw [List.contains_iff_mem] at new
      refine ⟨?_,?_⟩
      · refine List.nodup_cons.mpr ⟨?_,distinct⟩
        intro again
        obtain ⟨other,member,same⟩ := List.mem_map.mp again
        exact fresh other member (by simp [same])
      · intro other member
        rcases List.mem_cons.mp member with rfl | later
        · exact new
        · exact fun known => fresh other later (by simp [known])

/-- A built package has one class type for every definition, at its place. -/
theorem build_eq_ok (done : build name uri defs = .ok p) :
    (defs.map ClassDef.name).Nodup ∧ (∀ d ∈ defs, d.check (defs.map ClassDef.name) = .ok ()) ∧
      p.classes.length = defs.length ∧
      ∀ i d, defs[i]? = some d → ∃ cls, p.classes[i]? = some cls ∧ ClassDef.Resolved defs i d cls := by
  simp only [build,bind_eq_ok_iff] at done
  obtain ⟨⟨⟩,distinct,⟨⟩,checked,classes,resolved,done⟩ := done
  cases done
  obtain ⟨length,each⟩ := mapM_eq_ok resolved
  refine ⟨(checkDistinct_eq_ok distinct).1,(forM_eq_ok_iff _).mp checked,by simpa using length,?_⟩
  intro i d defined
  obtain ⟨cls,found,made⟩ := each i (d,i) (by simp [defined])
  exact ⟨cls,found,ClassDef.resolve_eq_ok defined made⟩

end Package

/-- A feature of a package: attributes hold plain data and start with a value of their kind, references start empty
and have a class of the package as their target. -/
def Feature.Proper (p : Package) (feature : Feature) : Prop :=
  match feature.kind with
  | .data kind => kind.holdsHandle = false ∧ feature.default.kind? = some kind
  | .reference target _ => feature.default = .null ∧ ∃ t, p.classNamed? target = some t

theorem FeatureKind.isMany_eq_false_iff {kind : FeatureKind} :
    kind.isMany = false ↔ ∀ target, kind ≠ .reference target true := by
  cases kind with
  | data plain => simp [isMany]
  | reference target many => cases many <;> simp [isMany]

theorem kind?_of_fits {v : Value} {kind : Kind} (plain : kind.holdsHandle = false) (fits : v.fits kind = true) :
    v.kind? = some kind := by
  unfold Value.fits at fits
  split at fits
  · rename_i own same
    simp only [decide_eq_true_eq] at fits
    rw [same,fits]
  · simp only [decide_eq_true_eq] at fits
    rw [fits] at plain
    cases plain

namespace Feature.Proper

variable {p : Package} {feature : Feature} {v : Value}

/-- Lists come in through many-valued features only. -/
theorem not_list_of_fits (proper : feature.Proper p) (single : ∀ target, feature.kind ≠ .reference target true)
    (fits : v.fits feature.kind.valueKind = true) (b : Handle) : v ≠ .list b := by
  rintro rfl
  unfold Feature.Proper at proper
  cases kind : feature.kind with
  | data plain =>
    simp only [kind] at proper fits
    have same := kind?_of_fits proper.1 fits
    cases same
    exact absurd proper.1 (by decide)
  | reference target many =>
    cases many with
    | true => exact single target kind
    | false =>
      simp only [kind] at fits
      cases fits

theorem default_ne_list (proper : feature.Proper p) (b : Handle) : feature.default ≠ .list b := by
  intro isList
  unfold Feature.Proper at proper
  rw [isList] at proper
  split at proper
  · obtain ⟨plain,kind⟩ := proper
    cases kind
    cases plain
  · cases proper.1

end Feature.Proper

namespace Package

variable {p : Package} {a b c : ClassId} {cls t : ClassType} {feature : Feature} {name : String}

theorem classNamed?_mem (named : p.classNamed? name = some t) : t ∈ p.classes :=
  List.mem_of_find?_eq_some named

theorem class?_mem (known : p.class? c = some cls) : cls ∈ p.classes :=
  List.mem_of_getElem? known

theorem kind?_default {kind : Kind} (plain : kind.holdsHandle = false) : (Value.default kind).kind? = some kind := by
  cases kind with
  | object => cases plain
  | list => cases plain
  | _ => rfl

/-- The classes of a built package come from definitions that passed the checks, each at its place. -/
theorem Built.defined (built : p.Built) : ∃ defs : List ClassDef, (∀ d ∈ defs, d.Buildable) ∧
    (∀ d ∈ defs, d.check (defs.map ClassDef.name) = .ok ()) ∧ p.classes.length = defs.length ∧
    (∀ i d, defs[i]? = some d → ∃ cls, p.classes[i]? = some cls ∧ ClassDef.Resolved defs i d cls) ∧
    ∀ (i : Nat) cls, p.classes[i]? = some cls → ∃ d, defs[i]? = some d ∧ ClassDef.Resolved defs i d cls := by
  obtain ⟨name,uri,defs,buildable,made⟩ := built
  obtain ⟨-,checked,length,each⟩ := build_eq_ok made
  refine ⟨defs,buildable,checked,length,each,?_⟩
  intro i cls found
  have inside : i < defs.length := length ▸ (List.getElem?_eq_some_iff.mp found).1
  have defined : defs[i]? = some defs[i] := List.getElem?_eq_getElem inside
  obtain ⟨other,same,resolved⟩ := each i _ defined
  cases found.symm.trans same
  exact ⟨_,defined,resolved⟩

/-- Every feature of a built package is a proper one. -/
theorem Built.proper (built : p.Built) (member : cls ∈ p.classes) (row : feature ∈ cls.features) :
    feature.Proper p := by
  obtain ⟨defs,buildable,checked,length,each,back⟩ := built.defined
  obtain ⟨i,found⟩ := List.getElem?_of_mem member
  obtain ⟨d,defined,resolved⟩ := back i cls found
  obtain ⟨rows,owned,table⟩ := resolved.features
  rw [table] at row
  obtain ⟨⟨source,place⟩,within,rfl⟩ := List.mem_map.mp row
  obtain ⟨owner,known,own⟩ := owned source (List.fst_mem_of_mem_zipIdx within)
  have checks := (ClassDef.check_eq_ok (checked owner known)).2 source own
  unfold Feature.Proper
  simp only [ClassDef.rowFeature]
  split
  · rename_i kind isData
    have plain := checks.plain kind isData
    refine ⟨plain,?_⟩
    cases given : source.default with
    | none =>
      rw [isData]
      exact kind?_default plain
    | some v =>
      have fits := checks.fits v given
      rw [isData] at fits
      exact kind?_of_fits plain fits
  · rename_i target many isReference
    refine ⟨?_,?_⟩
    · rw [buildable owner known source own target many isReference,isReference]
      cases many <;> rfl
    · obtain ⟨other,otherKnown,same⟩ := List.mem_map.mp (checks.target target many isReference)
      obtain ⟨j,atPlace⟩ := List.getElem?_of_mem otherKnown
      obtain ⟨there,foundThere,resolvedThere⟩ := each j other atPlace
      rw [← Option.isSome_iff_exists,classNamed?,List.find?_isSome]
      exact ⟨there,List.mem_of_getElem? foundThere,by simp [resolvedThere.name,same]⟩

theorem Built.id_eq (built : p.Built) (known : p.class? c = some cls) : cls.id = c := by
  obtain ⟨defs,-,-,-,-,back⟩ := built.defined
  obtain ⟨d,-,resolved⟩ := back _ cls known
  rw [resolved.id]
  obtain ⟨index⟩ := c
  simp

theorem Built.class?_id (built : p.Built) (addressable : p.Addressable) (member : cls ∈ p.classes) :
    p.class? cls.id = some cls := by
  obtain ⟨defs,-,-,-,-,back⟩ := built.defined
  obtain ⟨i,found⟩ := List.getElem?_of_mem member
  obtain ⟨d,-,resolved⟩ := back i cls found
  have inside : i < p.classes.length := (List.getElem?_eq_some_iff.mp found).1
  have index : (UInt32.ofNat i).toNat = i := UInt32.toNat_ofNat_of_lt' (Nat.lt_trans inside addressable.classes)
  rw [class?,resolved.id,index,found]

theorem Built.feature_id (built : p.Built) (member : cls ∈ p.classes) {i : Nat}
    (row : cls.features[i]? = some feature) : feature.id = ⟨UInt32.ofNat i⟩ := by
  obtain ⟨defs,-,-,-,-,back⟩ := built.defined
  obtain ⟨j,found⟩ := List.getElem?_of_mem member
  obtain ⟨d,-,resolved⟩ := back j cls found
  obtain ⟨rows,-,table⟩ := resolved.features
  rw [table,List.getElem?_map] at row
  simp only [List.getElem?_zipIdx,Option.map_map,Option.map_eq_some_iff,Function.comp] at row
  obtain ⟨source,-,rfl⟩ := row
  simp [ClassDef.rowFeature]

theorem isA_iff : p.isA a b = true ↔ ∃ cls, p.class? a = some cls ∧ (cls.id = b ∨ b ∈ cls.ancestors) := by
  simp [isA,ClassType.isSubtypeOf,Option.any_eq_true]

theorem Built.isA_refl (built : p.Built) (known : p.class? c = some cls) : p.isA c c = true :=
  isA_iff.mpr ⟨cls,known,.inl (built.id_eq known)⟩

/-- A class derives from what its ancestors derive from. -/
theorem Built.isA_trans (built : p.Built) (addressable : p.Addressable) (first : p.isA a b = true)
    (second : p.isA b c = true) : p.isA a c = true := by
  obtain ⟨lower,knownLower,toMiddle⟩ := isA_iff.mp first
  obtain ⟨middle,knownMiddle,toUpper⟩ := isA_iff.mp second
  have lowerId := built.id_eq knownLower
  have middleId := built.id_eq knownMiddle
  rcases toMiddle with same | derived
  · rw [← lowerId,same]
    exact second
  rcases toUpper with same | further
  · rw [← same,middleId]
    exact first
  refine isA_iff.mpr ⟨lower,knownLower,.inr ?_⟩
  obtain ⟨defs,-,-,length,-,back⟩ := built.defined
  obtain ⟨d,definedLower,resolvedLower⟩ := back _ lower knownLower
  obtain ⟨e,definedMiddle,resolvedMiddle⟩ := back _ middle knownMiddle
  obtain ⟨chain,ascends,ancestors⟩ := resolvedLower.ancestors
  obtain ⟨rest,ascendsMiddle,ancestorsMiddle⟩ := resolvedMiddle.ancestors
  rw [ancestors] at derived ⊢
  rw [ancestorsMiddle] at further
  obtain ⟨place,onChain,rfl⟩ := List.mem_map.mp derived
  obtain ⟨higher,onRest,rfl⟩ := List.mem_map.mp further
  -- The chain of the class in the middle is the rest of the chain of the lower one.
  obtain ⟨above,tail,defined,ascendsAbove,within⟩ := ascends.suffix onChain
  have inside : place < p.classes.length := length ▸ (List.getElem?_eq_some_iff.mp defined).1
  have index : (UInt32.ofNat place).toNat = place := UInt32.toNat_ofNat_of_lt' (Nat.lt_trans inside addressable.classes)
  simp only [index] at definedMiddle
  cases defined.symm.trans definedMiddle
  cases ascendsAbove.unique ascendsMiddle
  exact List.mem_map_of_mem (within higher onRest)

end Package

end HandleBridge
