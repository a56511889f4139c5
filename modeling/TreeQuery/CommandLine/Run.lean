import TreeQuery.CommandLine
import TreeQuery.Document.Json
import TreeQuery.Document.Yaml
import TreeQuery.Flat.Document
import TreeQuery.Flat.Drawing
import TreeQuery.Flat.Visit
import TreeQuery.Graph.Expansion
import TreeQuery.Graph.Interner
import TreeQuery.Matching
import TreeQuery.Pattern.Reader
import TreeQuery.Value.Reader

/-!
# Running command lines

A run is a function of the arguments and of the files: it gives an exit code and
what is written to the two output streams.
-/

namespace TreeQuery

/-- Why a file could not be read. -/
inductive FileProblem where
  | missing
  | isDirectory
  | notText
  | other (message : String)
  deriving DecidableEq, Repr, Inhabited

namespace FileProblem

def message : FileProblem → String
  | missing => "No such file or directory (os error 2)"
  | isDirectory => "Is a directory (os error 21)"
  | notText => "stream did not contain valid UTF-8"
  | other message => message

end FileProblem

/-- The content of the file at a path. -/
abbrev Files : Type := String → Except FileProblem String

/-- Why a command failed. -/
inductive Error where
  | value (failure : SyntaxFailure)
  | pattern (failure : SyntaxFailure)
  | settings (error : SettingsError)
  | file (problem : FileProblem)
  deriving DecidableEq, Repr, Inhabited

namespace Error

def message : Error → String
  | value failure => failure.message
  | pattern failure => "invalid pattern: " ++ failure.message
  | settings error => "configuration error: " ++ error.message
  | file problem => "io error: " ++ problem.message

/-- The place and the reason at which reading a value or a pattern stopped. -/
def syntaxFailure? : Error → Option SyntaxFailure
  | value failure => some failure
  | pattern failure => some failure
  | _ => none

end Error

/-- How a run ended and what it wrote. -/
structure Exit where
  code : Nat
  output : String
  errors : String
  deriving DecidableEq, Repr, Inhabited

namespace CommandLine

/-- A path without the parts that stay in the same directory. -/
def cleanPath (path : String) : String :=
  "/".intercalate ((path.splitOn "/").filter fun part => part != ".")

/-- The layer of a file of settings.  If there is no file of that name, the name
with the usual ending is tried. -/
def configLayer (files : Files) (path : String) : Layer :=
  match files path with
  | .ok content => .file (cleanPath path) (some content) false
  | .error _ =>
      match files (path ++ ".toml") with
      | .ok content => .file (cleanPath (path ++ ".toml")) (some content) false
      | .error _ => .file path none false

def formatWord : OutputFormat → String
  | .text => "text"
  | .json => "json"
  | .yaml => "yaml"

/-- The layers that the options of a command add. -/
def optionLayers : Command → List Layer
  | .print _ => []
  | .tree _ format => formatLayer format
  | .search _ _ format limit =>
      formatLayer format ++
        limit.toList.map fun limit =>
          .override "search.max_results" (Scalar.integer limit)
where
  formatLayer (format : Option OutputFormat) : List Layer :=
    format.toList.map fun format =>
      .override "output.format" (Scalar.string (formatWord format))

/-- The file of settings and the options that a command line names. -/
def layersOf (files : Files) (invocation : Invocation) : List Layer :=
  invocation.configPath.toList.map (configLayer files) ++
    optionLayers invocation.command

def settingsOf (library : Settings.Library) (files : Files)
    (invocation : Invocation) : Except Error Settings :=
  (library.load (layersOf files invocation)).mapError .settings

/-- The canonical form of the value in a file. -/
def readValue (files : Files) (path : String) :
    Except Error (ValueId × Graph) := do
  let source ← (files path).mapError .file
  let value ← (Value.read source).mapError .value
  return value.canonical

/-- A document in one of the machine-readable formats, and a line break. -/
def emit (format : OutputFormat) (document : Document) : String :=
  match format with
  | .text => ""
  | .json => document.json ++ "\n"
  | .yaml => document.yaml ++ "\n"

/-- The written form of what a record stands for. -/
def recordText (graph : Graph) (record : Record) : String :=
  (graph.targetText? record.caption.target).getD record.caption.name

def hitDocument (graph : Graph) (record : Record) : Document :=
  .fields (record.fields ++ [("notation", .text (recordText graph record))])

def hitLine (graph : Graph) (record : Record) : String :=
  "[" ++ toString record.id ++ "] " ++ recordText graph record ++ "\n"

/-- What a command writes when it succeeds. -/
def perform (files : Files) (settings : Settings) :
    Command → Except Error String
  | .print path => do
      let (root, graph) ← readValue files path
      match graph.text? root with
      | some text => return text ++ "\n"
      | none => return ""
  | .tree path _ => do
      let (root, graph) ← readValue files path
      let flat := graph.flatten settings.maxLabelChars [root]
      match settings.format with
      | .text => return flat.drawing settings.showRoles
      | format =>
          return emit format (.list (flat.records.toList.map Record.document))
  | .search path source _ _ => do
      let pattern ← (Pattern.read source).mapError .pattern
      let (root, graph) ← readValue files path
      let flat := graph.flatten settings.maxLabelChars [root]
      let hits :=
        (flat.search graph pattern settings.maxResults).filterMap flat.get?
      match settings.format with
      | .text => return String.join (hits.map (hitLine graph))
      | format =>
          return emit format (.list (hits.map (hitDocument graph)))

def runInvocation (files : Files) (invocation : Invocation) :
    Except Error String := do
  let settings ← settingsOf .standard files invocation
  perform files settings invocation.command

def versionText : String := "valtree 0.1.0\n"

def usageText : String :=
  "Usage: valtree [--config FILE] print PATH\n" ++
  "       valtree [--config FILE] tree PATH [--format FORMAT]\n" ++
  "       valtree [--config FILE] search PATH PATTERN [--format FORMAT] [--limit N]\n"

/-- Run a command line. -/
def run (files : Files) (args : List String) : Exit :=
  match read args with
  | .error .version => ⟨0, versionText, ""⟩
  | .error .help => ⟨0, usageText, ""⟩
  | .error .misuse => ⟨2, "", usageText⟩
  | .ok invocation =>
      match runInvocation files invocation with
      | .ok output => ⟨0, output, ""⟩
      | .error error => ⟨1, "", "Error: " ++ error.message ++ "\n"⟩

/-- The paths of all files that a command line may read. -/
def paths (args : List String) : List String :=
  match read args with
  | .error _ => []
  | .ok invocation =>
      let path :=
        match invocation.command with
        | .print path => path
        | .tree path _ => path
        | .search path _ _ _ => path
      path :: invocation.configPath.toList.flatMap fun config =>
        [config, config ++ ".toml"]

end CommandLine

end TreeQuery
