import HandleBridge.Error

/-!
Packages: the classes that a native side can instantiate, looked up by identifier or by name. The feature table of a
class lists inherited features first, and the identifier of a feature is its place in the table.
-/

namespace HandleBridge

/-- Place of a class in its package. -/
structure ClassId where
  index : UInt32
  deriving DecidableEq

def ClassId.display (c : ClassId) : String := toString c.index.toNat

/-- Place of a feature in the feature table of a class. -/
structure FeatureId where
  index : UInt32
  deriving DecidableEq

/-- What a feature holds. -/
inductive FeatureKind where
  /-- Plain data. -/
  | data (kind : Kind)
  /-- One reference, or a sequence of them, to objects of the target class. -/
  | reference (target : String) (many : Bool)
  deriving DecidableEq

namespace FeatureKind

/-- Kind of the values of the feature. -/
def valueKind : FeatureKind → Kind
  | data kind => kind
  | reference _ true => .list
  | reference _ false => .object

/-- Whether the feature holds a sequence. -/
def isMany : FeatureKind → Bool
  | reference _ true => true
  | _ => false

end FeatureKind

/-- One feature of a class type. -/
structure Feature where
  id : FeatureId
  name : String
  kind : FeatureKind
  /-- Value of the feature while it is unset. -/
  default : Value
  deriving DecidableEq

/-- Runtime descriptor of a class. -/
structure ClassType where
  id : ClassId
  name : String
  /-- Classes that this one derives from, the nearest first. -/
  ancestors : List ClassId
  /-- Whether the class has no objects of its own. -/
  isAbstract : Bool
  features : List Feature
  deriving DecidableEq

namespace ClassType

/-- The class that this one extends. -/
def parent? (c : ClassType) : Option ClassId := c.ancestors.head?

/-- Number of features, inherited ones included. -/
def featureCount (c : ClassType) : UInt32 := UInt32.ofNat c.features.length

def feature (c : ClassType) (f : FeatureId) : Except Error Feature :=
  match c.features[f.index.toNat]? with
  | some feature => .ok feature
  | none => .error (.featureOutOfRange c.name f.index c.featureCount)

def featureId (c : ClassType) (name : String) : Except Error FeatureId :=
  match c.features.find? (·.name = name) with
  | some feature => .ok feature.id
  | none => .error (.unknownFeature c.name name)

/-- Whether `other` is this class or one that it derives from. -/
def isSubtypeOf (c : ClassType) (other : ClassId) : Bool :=
  c.id = other || c.ancestors.contains other

end ClassType

/-- Class types that share one namespace. -/
structure Package where
  name : String
  uri : String
  classes : List ClassType
  deriving DecidableEq

namespace Package

def class? (p : Package) (c : ClassId) : Option ClassType := p.classes[c.index.toNat]?

def classNamed? (p : Package) (name : String) : Option ClassType := p.classes.find? (·.name = name)

/-- Class with the given identifier, or an error that shows the identifier. -/
def require (p : Package) (c : ClassId) : Except Error ClassType :=
  match p.class? c with
  | some found => .ok found
  | none => .error (.unknownClass ("#" ++ c.display))

/-- Class with the given name, or an error that shows the name. -/
def requireNamed (p : Package) (name : String) : Except Error ClassType :=
  match p.classNamed? name with
  | some found => .ok found
  | none => .error (.unknownClass name)

/-- Whether `c` is a class of the package that is `ancestor` or derives from it. -/
def isA (p : Package) (c ancestor : ClassId) : Bool :=
  (p.class? c).any (·.isSubtypeOf ancestor)

/-- Name of a class in messages; an identifier without a class is shown as such. -/
def className (p : Package) (c : ClassId) : String :=
  match p.class? c with
  | some found => found.name
  | none => "#" ++ c.display

end Package

end HandleBridge
