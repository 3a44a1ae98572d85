import HandleBridge.Proofs.Subtyping
import HandleBridge.Proofs.WellDefined

/-!
The order in which classes are defined. What a class is made of is found by names, so a package that is built from the
same definitions in another order has the same classes: only their identifiers differ, which count the definitions.
-/

namespace HandleBridge

def Package.nameOf? (p : Package) (c : ClassId) : Option String := (p.class? c).map ClassType.name

/-- The class of one package is as that of the other, up to the identifiers of classes. Ancestors are told by name, for
which identifiers have to count the classes. -/
structure ClassType.Resembles (p q : Package) (cls other : ClassType) : Prop where
  features : cls.features = other.features
  isAbstract : cls.isAbstract = other.isAbstract
  parent : p.classes.length ≤ 2 ^ 32 → cls.parent?.map p.nameOf? = other.parent?.map q.nameOf?
  ancestors : p.classes.length ≤ 2 ^ 32 → cls.ancestors.map p.nameOf? = other.ancestors.map q.nameOf?

namespace Package

/-- Two packages have classes of the same names, and those of one name resemble each other. -/
structure Resembles (p q : Package) : Prop where
  known : ∀ name, (∃ cls, p.classNamed? name = some cls) ↔ ∃ other, q.classNamed? name = some other
  alike : ∀ name cls other, p.classNamed? name = some cls → q.classNamed? name = some other → cls.Resembles p q other

/-- The identifiers of the classes count their definitions. -/
def Numbered (p : Package) (defs : List ClassDef) : Prop :=
  ∀ (i : Nat) d, defs[i]? = some d → ∃ cls, p.classNamed? d.name = some cls ∧ cls.id = ⟨UInt32.ofNat i⟩

end Package

variable {defs others : List ClassDef} {d : ClassDef} {rows : List FeatureDef} {p q : Package} {package uri name : String}
  {cls other : ClassType}

/-- The rows of a class come from the definitions, in whatever order they are. -/
theorem ClassDef.Rows.perm (all : Rows defs d rows) (perm : defs.Perm others) : Rows others d rows := by
  induction all with
  | root top => exact .root top
  | derived parent defined further ih => exact .derived parent (perm.mem_iff.mp defined) ih

/-- Whether definitions make a package does not depend on their order. -/
theorem WellDefined.perm (wellDefined : WellDefined defs) (perm : defs.Perm others) : WellDefined others := by
  have names := perm.map ClassDef.name
  refine ⟨names.nodup_iff.mp wellDefined.distinct,?_,?_,?_,?_,?_,?_⟩
  · intro d member parent hasParent
    exact names.mem_iff.mp (wellDefined.parents d (perm.mem_iff.mpr member) parent hasParent)
  · intro d member row own target many refers
    exact names.mem_iff.mp (wellDefined.targets d (perm.mem_iff.mpr member) row own target many refers)
  · intro d member
    exact wellDefined.attributes d (perm.mem_iff.mpr member)
  · intro d member
    exact wellDefined.defaults d (perm.mem_iff.mpr member)
  · intro path known
    exact wellDefined.acyclic path fun d on => perm.mem_iff.mpr (known on)
  · intro d member rows all
    exact wellDefined.features d (perm.mem_iff.mpr member) rows (all.perm perm.symm)

namespace Package

theorem build_of_perm (perm : defs.Perm others) (done : build package uri defs = .ok p) :
    ∃ q, build package uri others = .ok q := by
  cases result : build package uri others with
  | ok q => exact ⟨q,rfl⟩
  | error fault =>
    -- A fault would be one of the definitions, which have none.
    exact absurd ((wellDefined_of_build done).perm perm) (build_eq_error result).not_wellDefined

theorem numbered_of_build (done : build package uri defs = .ok p) : p.Numbered defs := by
  intro i d defined
  obtain ⟨cls,places,rows,found,flat⟩ := flattened_of_build done i d defined
  have named := classNamed?_of_mem done (List.mem_of_getElem? found)
  rw [flat.name] at named
  exact ⟨cls,named,flat.id⟩

/-- The class of a definition is flattened from it, wherever the definition stands. -/
theorem flattened_of_name (done : build package uri defs = .ok p) (defined : d ∈ defs)
    (named : p.classNamed? d.name = some cls) :
    cls.isAbstract = d.isAbstract ∧ ∃ place places rows, ClassDef.Flattened defs place d cls places rows := by
  obtain ⟨-,-,-,resolved⟩ := build_eq_ok done
  obtain ⟨place,there⟩ := List.getElem?_of_mem defined
  obtain ⟨found,places,rows,atPlace,flat⟩ := flattened_of_build done place d there
  have again := classNamed?_of_mem done (List.mem_of_getElem? atPlace)
  rw [flat.name,named] at again
  cases again
  obtain ⟨same,atPlaceAgain,made⟩ := resolved place d there
  cases atPlace.symm.trans atPlaceAgain
  exact ⟨made.isAbstract,place,places,rows,flat⟩

theorem name_of_classNamed? (named : p.classNamed? name = some cls) : cls.name = name := by
  simpa using List.find?_some named

theorem classNamed?_iff (done : build package uri defs = .ok p) :
    (∃ cls, p.classNamed? name = some cls) ↔ name ∈ defs.map ClassDef.name := by
  rw [← names_of_build done,List.mem_map]
  constructor
  · rintro ⟨cls,named⟩
    exact ⟨cls,classNamed?_mem named,name_of_classNamed? named⟩
  · rintro ⟨cls,member,rfl⟩
    exact ⟨cls,classNamed?_of_mem done member⟩

section Both

variable (perm : defs.Perm others) (done : build package uri defs = .ok p) (doneOther : build package uri others = .ok q)
include perm done doneOther

/-- The names of the ancestors are found along the chain of super types, in both packages alike. -/
theorem ancestors_resemble (few : p.classes.length ≤ 2 ^ 32) (all : ClassDef.Rows defs d rows) (defined : d ∈ defs)
    (named : p.classNamed? d.name = some cls) (namedOther : q.classNamed? d.name = some other) :
    cls.ancestors.map p.nameOf? = other.ancestors.map q.nameOf? := by
  have fewOther : q.classes.length ≤ 2 ^ 32 := by
    rw [(build_eq_ok doneOther).2.2.1,← perm.length_eq,← (build_eq_ok done).2.2.1]
    exact few
  induction all generalizing cls other with
  | @root d top =>
    obtain ⟨-,_,_,_,flat⟩ := flattened_of_name done defined named
    obtain ⟨-,_,_,_,flatOther⟩ := flattened_of_name doneOther (perm.mem_iff.mp defined) namedOther
    have none := succeeds_of_build done flat
    have noneOther := succeeds_of_build doneOther flatOther
    simp only [Succeeds,top] at none noneOther
    rw [none,noneOther]
    rfl
  | @derived d above inherited parent known further ih =>
    obtain ⟨-,_,_,_,flat⟩ := flattened_of_name done defined named
    obtain ⟨-,_,_,_,flatOther⟩ := flattened_of_name doneOther (perm.mem_iff.mp defined) namedOther
    have next := succeeds_of_build done flat
    have nextOther := succeeds_of_build doneOther flatOther
    simp only [Succeeds,show d.parent = some above.name from parent] at next nextOther
    obtain ⟨upper,namedUpper,ancestors⟩ := next
    obtain ⟨upperOther,namedUpperOther,ancestorsOther⟩ := nextOther
    have head : p.nameOf? upper.id = some above.name := by
      rw [nameOf?,class?_id_of_mem done few (classNamed?_mem namedUpper),Option.map_some,name_of_classNamed? namedUpper]
    have headOther : q.nameOf? upperOther.id = some above.name := by
      rw [nameOf?,class?_id_of_mem doneOther fewOther (classNamed?_mem namedUpperOther),Option.map_some,
        name_of_classNamed? namedUpperOther]
    rw [ancestors,ancestorsOther,List.map_cons,List.map_cons,head,headOther,ih known namedUpper namedUpperOther]

/-- The classes of one name resemble each other in both packages. -/
theorem class_resembles (defined : d ∈ defs) (named : p.classNamed? d.name = some cls)
    (namedOther : q.classNamed? d.name = some other) : cls.Resembles p q other := by
  obtain ⟨abstractness,_,_,_,flat⟩ := flattened_of_name done defined named
  obtain ⟨abstractnessOther,_,_,_,flatOther⟩ := flattened_of_name doneOther (perm.mem_iff.mp defined) namedOther
  obtain ⟨distinct,-⟩ := build_eq_ok done
  have ancestors := fun few => ancestors_resemble perm done doneOther few flat.complete defined named namedOther
  refine ⟨?_,abstractness.trans abstractnessOther.symm,?_,ancestors⟩
  · rw [flat.features,flatOther.features,flat.complete.unique distinct (flatOther.complete.perm perm.symm)]
  · intro few
    have heads := congrArg List.head? (ancestors few)
    rwa [List.head?_map,List.head?_map] at heads

end Both

/-- The order of the definitions makes no difference to whether a package is built, nor to its classes, which are the
same up to their identifiers. These count the definitions. -/
theorem order_irrelevant (package uri : String) (perm : defs.Perm others) :
    ((∃ p, build package uri defs = .ok p) ↔ ∃ q, build package uri others = .ok q) ∧
      ∀ p q, build package uri defs = .ok p → build package uri others = .ok q →
        p.Resembles q ∧ p.Numbered defs ∧ q.Numbered others := by
  refine ⟨⟨fun ⟨p,done⟩ => build_of_perm perm done,fun ⟨q,done⟩ => build_of_perm perm.symm done⟩,?_⟩
  intro p q done doneOther
  refine ⟨⟨?_,?_⟩,numbered_of_build done,numbered_of_build doneOther⟩
  · intro name
    rw [classNamed?_iff done,classNamed?_iff doneOther]
    exact (perm.map ClassDef.name).mem_iff
  · intro name cls other named namedOther
    obtain ⟨d,defined,rfl⟩ := List.mem_map.mp ((classNamed?_iff done).mp ⟨cls,named⟩)
    exact class_resembles perm done doneOther defined named namedOther

/-- Defined from the top down, the classes of the lineage are the same as from the bottom up. -/
theorem lineage_reversed : lineage.Perm lineage.reverse ∧ ∃ p q, build "lineage" "urn:lineage" lineage = .ok p ∧
    build "lineage" "urn:lineage" lineage.reverse = .ok q ∧ p.Resembles q ∧
    p.nameOf? ⟨0⟩ = some "Leaf" ∧ q.nameOf? ⟨0⟩ = some "Root" :=
  have perm := lineage.reverse_perm.symm
  ⟨perm,_,_,rfl,rfl,((order_irrelevant "lineage" "urn:lineage" perm).2 _ _ rfl rfl).1,rfl,rfl⟩

end Package

end HandleBridge
