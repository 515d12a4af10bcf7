import OpcachePreload.Capabilities
import OpcachePreload.ClassMap.Basic
import OpcachePreload.FileTree
import OpcachePreload.Settings.Fault

/-!
# Failures

Everything for which an action can end early, by cause, and the wording of each cause. The causes
that this program itself detects in its manifests, class maps and runtimes are expected: a command
reports them in one line.
-/

namespace OpcachePreload

/-- Why the environment does not allow preloading. -/
inductive EnvironmentFault where
  | lacking (cacheName compilePrimitive : String) (lack : Capabilities.Lack)
  | binaryNotFound (binary : String)
  | binaryFailed (binary : String) (status : Int)
  | binaryTimedOut (binary : String)
  | unexpectedReply (binary reply : String)
  deriving DecidableEq, Repr

/-- The wording of an environment fault. -/
def EnvironmentFault.message : EnvironmentFault → String
  | lacking cacheName compilePrimitive lack => lack.message cacheName compilePrimitive
  | binaryNotFound binary => "PHP binary " ++ binary ++ " was not found."
  | binaryFailed binary status =>
    "PHP binary " ++ binary ++ " exited with status " ++ toString status ++ "."
  | binaryTimedOut binary => "PHP binary " ++ binary ++ " timed out."
  | unexpectedReply binary reply =>
    "Unexpected output from " ++ binary ++ ": " ++
      Text.quoted (String.ofList (Text.trim reply.toList))

/-- Why a module cannot be executed or compiled. -/
inductive ModuleFault where
  /-- No file is there. -/
  | missing (path : Path)
  /-- Files with this suffix cannot be executed. -/
  | unknownSuffix
  /-- Executing the file stops with a diagnostic. -/
  | stopped (kind message : String)
  /-- The file cannot be executed because it is not well formed. -/
  | malformed
  /-- The file cannot be compiled because it is not well formed. -/
  | notCompiled
  deriving DecidableEq, Repr

/-- Why something outside the program ends early. -/
inductive ForeignFault where
  /-- An exception by name, and whether it counts as a fault of a value. -/
  | raised (kind message : String) (ofValue : Bool)
  /-- The process is asked to end with an exit status. -/
  | exit (status : Nat)
  deriving DecidableEq, Repr

/-- Why an action ends early. -/
inductive Failure where
  /-- The path cannot be used as it would have to be. -/
  | unusablePath (fault : PathFault) (text : String)
  /-- The data file is not there; its absolute path is given. -/
  | dataFileMissing (path : Path)
  /-- A directory is given as a data file; its absolute path is given. -/
  | dataFileIsDirectory (path : Path)
  | unknownFormat (name : String)
  | content (fault : ContentFault)
  | pattern (text : String) (rejection : Pattern.Rejection)
  | manifestFormat (path : String)
  | unknownClass (name : String)
  | classMap (path : Path) (problem : ClassMap.Problem)
  /-- A message would have to show a whole number with too many digits. -/
  | notShowable
  | environment (fault : EnvironmentFault)
  /-- The reply of the probe is JSON of the given kind, but not an object. -/
  | replyKind (kind : String)
  /-- The binary may not be started. -/
  | notPermitted (binary : String)
  | interrupted
  | configurationKind (path : Path) (kind : String)
  | rootKind (path : Path) (kind : String)
  | fieldNotText
  | settings (faults : List Settings.Fault)
  | variableText (field : String) (source : Settings.VariableSource)
  | moduleFault (fault : ModuleFault)
  /-- The output does not take the text. -/
  | notPrinted (text : String)
  /-- The device does not take all that is written into the file. -/
  | notStored (path : Path)
  | foreign (fault : ForeignFault)
  deriving Repr

/-- The wording for a path that cannot be used, by the conventions of the system. -/
def PathFault.message (text : String) : PathFault → String
  | notFound => "[Errno 2] No such file or directory: " ++ Text.quoted text
  | alreadyThere => "[Errno 17] File exists: " ++ Text.quoted text
  | notADirectory => "[Errno 20] Not a directory: " ++ Text.quoted text
  | isADirectory => "[Errno 21] Is a directory: " ++ Text.quoted text
  | nameTooLong => "[Errno 36] File name too long: " ++ Text.quoted text
  | nullCharacter => "embedded null byte"

namespace Failure

/-- The wording of a failure. -/
def message : Failure → String
  | unusablePath fault text => fault.message text
  | dataFileMissing path => "File not found: " ++ toString path
  | dataFileIsDirectory path => toString path
  | unknownFormat name => "Invalid file type given: " ++ name
  | content fault => fault.message
  | pattern text rejection => rejection.message text
  | manifestFormat path => "Json " ++ path ++ " is not in expected format."
  | unknownClass name => "Class " ++ name ++ " is not known to the class map."
  | notShowable =>
    "Exceeds the limit (" ++ toString Text.digitLimit ++
      " digits) for integer string conversion; " ++
      "use sys.set_int_max_str_digits() to increase the limit"
  | classMap path problem => "Class map " ++ toString path ++ ": " ++ problem.message
  | environment fault => fault.message
  | replyKind kind => "'" ++ kind ++ "' object has no attribute 'get'"
  | notPermitted binary => "[Errno 13] Permission denied: " ++ Text.quoted binary
  | interrupted => ""
  | configurationKind path kind =>
    "Configuration " ++ toString path ++ " must be a mapping, got " ++ kind
  | rootKind path kind =>
    "Configuration " ++ toString path ++ ": root must be a path, got " ++ kind
  | fieldNotText => "keywords must be strings"
  | settings _ => ""
  | variableText field source =>
    "error parsing value for field \"" ++ field ++ "\" from source \"" ++ source.name ++ "\""
  | moduleFault fault =>
    match fault with
    | .missing path => "Module not found: " ++ toString path
    | .stopped _ message => message
    | .unknownSuffix | .malformed | .notCompiled => ""
  | notPrinted _ | notStored _ => ""
  | foreign (.raised _ message _) => message
  | foreign (.exit status) => toString status

/-- Whether a command reports the failure in one line. -/
def isExpected : Failure → Bool
  | manifestFormat _ | unknownClass _ | classMap _ _ | environment _ => true
  | _ => false

/-- Whether a fault of a YAML text counts as one of its content. -/
def isYamlContent : Yaml.Fault → Bool
  | .malformed _ | .codePoint false | .notAnInteger _ _ | .tooManyDigits _ | .notANumber _
  | .calendar _ => true
  | .codePoint true | .emptyNumber | .overweight | .notABoolean _ | .notATimestamp
  | .mappingTimestamp => false

/-- Whether the fault of a content counts as one of its form or values. -/
def isContent : ContentFault → Bool
  | .undecodable _ | .json _ => true
  | .yaml fault => isYamlContent fault

/-- Whether a failure to load a configuration counts as a fault of the configuration itself. -/
def isConfiguration : Failure → Bool
  | unusablePath .nullCharacter _ | unknownFormat _ | configurationKind _ _ | rootKind _ _
  | settings _ | variableText _ _ | notShowable => true
  | content fault => isContent fault
  | pattern _ rejection => rejection != .countTooLarge
  | foreign (.raised _ _ ofValue) => ofValue
  | failure => failure.isExpected

end Failure

end OpcachePreload
