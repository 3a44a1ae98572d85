import Mathlib.Logic.Relation
import HandleBridge.Proofs.FeatureTables

/-!
Deriving is the closure of extending. The ancestors of a class are the class that it extends and the ancestors of that
one, so what lies above a class is the end of what lies above each class below it (`suffix_of_reaches`). From this
deriving is an order in which the classes above any one class are in line.
-/

namespace HandleBridge.Package

def Extends (p : Package) (c e : ClassId) : Prop := ∃ cls, p.class? c = some cls ∧ cls.parent? = some e

/-- Deriving is what following the extended class gives, and an order on the classes of the package. -/
structure Subtyping (p : Package) : Prop where
  closure : ∀ c d, p.isA c d = true ↔ (∃ cls, p.class? c = some cls) ∧ Relation.ReflTransGen p.Extends c d
  refl : ∀ c cls, p.class? c = some cls → p.isA c c = true
  trans : ∀ c d e, p.isA c d = true → p.isA d e = true → p.isA c e = true
  antisymm : ∀ c d, p.isA c d = true → p.isA d c = true → c = d
  comparable : ∀ c d e, p.isA c d = true → p.isA c e = true → p.isA d e = true ∨ p.isA e d = true
  outside : ∀ c d, p.class? c = none ∨ p.class? d = none → p.isA c d = false

/-- The ancestors of the class begin with the class that its definition extends, and go on with those of that one. -/
def Succeeds (p : Package) (d : ClassDef) (cls : ClassType) : Prop :=
  match d.parent with
  | none => cls.ancestors = []
  | some parent => ∃ above, p.classNamed? parent = some above ∧ cls.ancestors = above.id :: above.ancestors

variable {p : Package} {package uri : String} {defs : List ClassDef} {d : ClassDef} {cls : ClassType}
  {places : List Nat} {rows : List FeatureDef} {place : Nat} {c e : ClassId}

theorem succeeds_of_build (done : build package uri defs = .ok p)
    (flat : ClassDef.Flattened defs place d cls places rows) : p.Succeeds d cls := by
  have ancestors := flat.ancestors
  unfold Succeeds
  cases flat.ascends with
  | top top =>
    rw [top]
    exact ancestors
  | @unknown _ name hasParent missing =>
    -- A class with a parent that nobody defines has no rows, and so was not built.
    cases flat.complete with
    | root top => simp [hasParent] at top
    | derived parent known =>
      cases hasParent.symm.trans parent
      obtain ⟨place,found⟩ := ClassDef.findIdx?_of_mem (List.mem_map_of_mem known)
      cases missing.symm.trans found
  | @step _ met name place rest hasParent found defined further =>
    obtain ⟨other,again,rfl⟩ := ClassDef.defined_of_findIdx? found
    cases defined.symm.trans again
    obtain ⟨above,higher,_,atPlace,flatAbove⟩ := flattened_of_build done place met defined
    have named := classNamed?_of_mem done (List.mem_of_getElem? atPlace)
    rw [flatAbove.name] at named
    cases further.unique flatAbove.ascends
    rw [hasParent]
    exact ⟨above,named,by simp [ancestors,flatAbove.id,flatAbove.ancestors]⟩

theorem id_of_class? (done : build package uri defs = .ok p) (known : p.class? c = some cls) : cls.id = c := by
  obtain ⟨d,places,rows,-,flat⟩ := flattened_at done known
  rw [flat.id,UInt32.ofNat_toNat]

/-- Where identifiers can count the classes, every class is found by its own. -/
theorem class?_id_of_mem (done : build package uri defs = .ok p) (few : p.classes.length ≤ 2 ^ 32)
    (member : cls ∈ p.classes) : p.class? cls.id = some cls := by
  obtain ⟨place,found⟩ := List.getElem?_of_mem member
  obtain ⟨d,places,rows,-,flat⟩ := flattened_at done found
  have inside : place < p.classes.length := (List.getElem?_eq_some_iff.mp found).1
  have index : (UInt32.ofNat place).toNat = place := UInt32.toNat_ofNat_of_lt' (Nat.lt_of_lt_of_le inside few)
  rw [class?,flat.id,index,found]

/-- A class that extends another has that one and its ancestors above it. -/
theorem ancestors_of_parent (done : build package uri defs = .ok p) (few : p.classes.length ≤ 2 ^ 32)
    (known : p.class? c = some cls) (parent : cls.parent? = some e) :
    ∃ above, p.class? e = some above ∧ cls.ancestors = e :: above.ancestors := by
  obtain ⟨d,places,rows,-,flat⟩ := flattened_at done known
  have succeeds := succeeds_of_build done flat
  unfold Succeeds at succeeds
  unfold ClassType.parent? at parent
  split at succeeds
  · simp [succeeds] at parent
  · obtain ⟨above,named,ancestors⟩ := succeeds
    rw [ancestors,List.head?_cons,Option.some.injEq] at parent
    subst parent
    exact ⟨above,class?_id_of_mem done few (classNamed?_mem named),ancestors⟩

/-- What lies above a class ends with what lies above each class that it leads to. -/
theorem suffix_of_reaches (done : build package uri defs = .ok p) (few : p.classes.length ≤ 2 ^ 32)
    (known : p.class? c = some cls) (reaches : Relation.ReflTransGen p.Extends c e) :
    ∃ above, p.class? e = some above ∧ e :: above.ancestors <:+ c :: cls.ancestors := by
  induction reaches with
  | refl => exact ⟨cls,known,List.suffix_refl _⟩
  | tail _ step ih =>
    obtain ⟨middle,knownMiddle,ends⟩ := ih
    obtain ⟨_,again,parent⟩ := step
    cases knownMiddle.symm.trans again
    obtain ⟨above,knownAbove,ancestors⟩ := ancestors_of_parent done few knownMiddle parent
    rw [ancestors] at ends
    exact ⟨above,knownAbove,(List.suffix_cons _ _).trans ends⟩

theorem reaches_of_mem (done : build package uri defs = .ok p) (few : p.classes.length ≤ 2 ^ 32)
    (known : p.class? c = some cls) (member : e ∈ c :: cls.ancestors) : Relation.ReflTransGen p.Extends c e := by
  generalize all : cls.ancestors = ancestors at member
  induction ancestors generalizing c cls with
  | nil =>
    cases List.mem_singleton.mp member
    exact .refl
  | cons next rest ih =>
    have parent : cls.parent? = some next := by rw [ClassType.parent?,all,List.head?_cons]
    obtain ⟨above,knownAbove,ancestors⟩ := ancestors_of_parent done few known parent
    cases all.symm.trans ancestors
    rcases List.mem_cons.mp member with rfl | derived
    · exact .refl
    · exact .head ⟨cls,known,parent⟩ (ih knownAbove rfl derived)

/-- A class derives from exactly those that it reaches by super types. -/
theorem isA_iff_reaches (done : build package uri defs = .ok p) (few : p.classes.length ≤ 2 ^ 32) (c e : ClassId) :
    p.isA c e = true ↔ (∃ cls, p.class? c = some cls) ∧ Relation.ReflTransGen p.Extends c e := by
  constructor
  · intro derives
    obtain ⟨cls,known,derived⟩ := isA_iff.mp derives
    refine ⟨⟨cls,known⟩,reaches_of_mem done few known ?_⟩
    rw [← id_of_class? done known]
    exact List.mem_cons.mpr (derived.imp_left Eq.symm)
  · rintro ⟨⟨cls,known⟩,reaches⟩
    obtain ⟨above,-,ends⟩ := suffix_of_reaches done few known reaches
    refine isA_iff.mpr ⟨cls,known,?_⟩
    rw [id_of_class? done known]
    exact (List.mem_cons.mp (ends.subset List.mem_cons_self)).imp_left Eq.symm

/-- In every package that was built, with no more classes than identifiers, a class derives from exactly those that
following the extended class leads to. -/
theorem subtyping_of_build (done : build package uri defs = .ok p) (few : p.classes.length ≤ 2 ^ 32) : p.Subtyping := by
  have closure := isA_iff_reaches done few
  have above : ∀ c d, p.isA c d = true → ∃ cls, p.class? d = some cls := by
    intro c d derives
    obtain ⟨⟨cls,known⟩,reaches⟩ := (closure c d).mp derives
    obtain ⟨above,knownAbove,-⟩ := suffix_of_reaches done few known reaches
    exact ⟨above,knownAbove⟩
  refine ⟨closure,?_,?_,?_,?_,?_⟩
  · intro c cls known
    exact (closure c c).mpr ⟨⟨cls,known⟩,.refl⟩
  · intro c d e first second
    obtain ⟨known,reaches⟩ := (closure c d).mp first
    exact (closure c e).mpr ⟨known,reaches.trans ((closure d e).mp second).2⟩
  · intro c d first second
    obtain ⟨⟨cls,known⟩,reaches⟩ := (closure c d).mp first
    obtain ⟨other,knownOther,ends⟩ := suffix_of_reaches done few known reaches
    obtain ⟨back,knownBack,endsBack⟩ := suffix_of_reaches done few knownOther ((closure d c).mp second).2
    cases known.symm.trans knownBack
    -- Each is the end of the other, so both lists begin with the same class.
    exact (List.cons.inj (ends.eq_of_length_le endsBack.length_le)).1.symm
  · intro c d e first second
    have functional : Relator.RightUnique p.Extends := by
      rintro x y z ⟨one,known,parent⟩ ⟨other,again,parent'⟩
      cases known.symm.trans again
      exact Option.some.inj (parent.symm.trans parent')
    have inLine := Relation.ReflTransGen.total_of_right_unique functional ((closure c d).mp first).2
      ((closure c e).mp second).2
    exact inLine.imp (fun up => (closure d e).mpr ⟨above c d first,up⟩) fun up => (closure e d).mpr ⟨above c e second,up⟩
  · intro c d unknown
    rw [Bool.eq_false_iff]
    intro derives
    obtain ⟨⟨cls,known⟩,-⟩ := (closure c d).mp derives
    obtain ⟨other,knownOther⟩ := above c d derives
    simp [known,knownOther] at unknown

/-- The class that was defined foremost derives from both others, and the one at the top from none. -/
theorem lineage_subtyping : ∃ p, build "lineage" "urn:lineage" lineage = .ok p ∧ p.classes.length ≤ 2 ^ 32 ∧
    p.Subtyping ∧ p.isA ⟨0⟩ ⟨2⟩ = true ∧ p.isA ⟨2⟩ ⟨0⟩ = false ∧ p.isA ⟨0⟩ ⟨3⟩ = false :=
  have done : build "lineage" "urn:lineage" lineage = .ok _ := rfl
  ⟨_,done,by decide,subtyping_of_build done (by decide),by decide,by decide,by decide⟩

end HandleBridge.Package
