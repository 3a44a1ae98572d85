import HandleBridge.Schema.Definition
import HandleBridge.Schema.View

/-!
A small package of user management data with its typed views. Demonstrations use it, and sessions know it as the
built-in package. The views rely on the feature identifiers that the package gives.
-/

namespace HandleBridge.Sample

/-- Definition of an attribute with the usual default. -/
def attr (name : String) (kind : Kind) : FeatureDef := ⟨name,.data kind,none⟩

/-- The classes of the sample. -/
def definitions : List ClassDef := [
  { name := "OptionValue"
    features := [attr "optionName" .string,attr "value" .string] },
  { name := "LocalAccount"
    features := [attr "userId" .string,attr "machineId" .string,attr "acLogin" .string,
      attr "sshKeyPath" .string,attr "homeDirectory" .string] },
  { name := "JobOutputOptions"
    features := [attr "machineId" .string,attr "outputDir" .string,attr "days" .int] },
  { name := "ListOptionsValues"
    features := [⟨"optionValues",.reference "OptionValue" true,none⟩] }]

def package : Except SchemaFault Package := Package.build "vishnu" "urn:vishnu:data" definitions

def optionName : Accessor := ⟨"option_name",⟨0⟩,.string⟩

def value : Accessor := ⟨"value",⟨1⟩,.string⟩

/-- One named option and its value. -/
def optionValue : TypedView where
  label := "OptionValue"
  required := some "OptionValue"
  accessors := [optionName,value]
  sequences := []

/-- The account of a user on one machine. -/
def localAccount : TypedView where
  label := "LocalAccount"
  required := some "LocalAccount"
  accessors := [⟨"user_id",⟨0⟩,.string⟩,⟨"machine_id",⟨1⟩,.string⟩,⟨"ac_login",⟨2⟩,.string⟩,
    ⟨"ssh_key_path",⟨3⟩,.string⟩,⟨"home_directory",⟨4⟩,.string⟩]
  sequences := []

/-- Machine whose jobs have their outputs kept. -/
def machineId : Accessor := ⟨"machine_id",⟨0⟩,.string⟩

def outputDir : Accessor := ⟨"output_dir",⟨1⟩,.string⟩

/-- Days for which outputs are kept. -/
def days : Accessor := ⟨"days",⟨2⟩,.int⟩

/-- Where the outputs of jobs go and how long they are kept. -/
def jobOutputOptions : TypedView where
  label := "JobOutputOptions"
  required := some "JobOutputOptions"
  accessors := [machineId,outputDir,days]
  sequences := []

def optionValues : SequenceAccessor := ⟨"option_values",⟨0⟩,optionValue.toView⟩

/-- A list of option values. -/
def listOptionsValues : TypedView where
  label := "ListOptionsValues"
  required := some "ListOptionsValues"
  accessors := []
  sequences := [optionValues]

/-- The views of the sample's classes, in the order of the classes. -/
def views : List TypedView := [optionValue,localAccount,jobOutputOptions,listOptionsValues]

end HandleBridge.Sample
