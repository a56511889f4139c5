import TreeQuery.Settings

/-!
# Command lines

A command line names a command, the files it works on and options.  An option
takes a value, which is its own argument or joined to the option.
-/

namespace TreeQuery

inductive Command where
  | print (path : String)
  | tree (path : String) (format : Option OutputFormat)
  | search (path pattern : String) (format : Option OutputFormat)
      (limit : Option Nat)
  deriving DecidableEq, Repr, Inhabited

/-- A command and the file of settings it is run with. -/
structure Invocation where
  command : Command
  configPath : Option String
  deriving DecidableEq, Repr, Inhabited

/-- Why a command line names no command to run. -/
inductive Refusal where
  | version
  | help
  | misuse
  deriving DecidableEq, Repr, Inhabited

namespace CommandLine

/-- An option that takes a value, by its long and its short name. -/
structure ValueOption where
  long : String
  short : Char
  deriving DecidableEq, Repr

def configOption : ValueOption := ⟨"config", 'c'⟩

def formatOption : ValueOption := ⟨"format", 'f'⟩

def limitOption : ValueOption := ⟨"limit", 'n'⟩

/-- What may stand before or behind the name of a command. -/
structure Grammar where
  options : List ValueOption
  /-- Before the command: the first word ends this part, and the version may be
  asked for. -/
  isLeading : Bool

/-- Options with their values and the words between them. -/
structure Arguments where
  values : List (String × String)
  words : List String
  deriving Repr, Inhabited

namespace Arguments

def empty : Arguments := ⟨[], []⟩

def value? (arguments : Arguments) (option : ValueOption) : Option String :=
  (arguments.values.find? fun found => found.1 == option.long).map Prod.snd

/-- Note the value of an option, which may be given once. -/
def withValue (arguments : Arguments) (option : ValueOption) (value : String) :
    Except Refusal Arguments :=
  if (arguments.value? option).isSome then .error .misuse
  else .ok { arguments with values := arguments.values ++ [(option.long, value)] }

def withWord (arguments : Arguments) (word : String) : Arguments :=
  { arguments with words := arguments.words ++ [word] }

end Arguments

/-- The option that an argument starts with, if any. -/
inductive Start where
  | word
  /-- Two hyphens alone: only words follow. -/
  | terminator
  /-- An option by its long name, with what is joined to it. -/
  | long (name : String) (joined : Option String)
  /-- An option by its short name, with what is joined to it. -/
  | short (name : Char) (joined : Option String)
  deriving DecidableEq, Repr, Inhabited

def startOf (argument : String) : Start :=
  match argument.toList with
  | ['-', '-'] => .terminator
  | '-' :: '-' :: rest =>
      let name := rest.takeWhile (· != '=')
      match rest.drop name.length with
      | _ :: joined => .long (String.ofList name) (some (String.ofList joined))
      | [] => .long (String.ofList name) none
  | ['-', name] => .short name none
  | '-' :: name :: '=' :: joined => .short name (some (String.ofList joined))
  | '-' :: name :: joined => .short name (some (String.ofList joined))
  | _ => .word

/-- The option that an argument gives a value to. -/
def optionOf (grammar : Grammar) (start : Start) :
    Option (ValueOption × Option String) :=
  match start with
  | .long name joined =>
      (grammar.options.find? fun option => option.long == name).map
        fun option => (option, joined)
  | .short name joined =>
      (grammar.options.find? fun option => option.short == name).map
        fun option => (option, joined)
  | _ => none

/-- Why an argument that is no option of the grammar ends the reading. -/
def refusalOf (grammar : Grammar) : Start → Refusal
  | .long "help" none => .help
  | .short 'h' _ => .help
  | .long "version" none => if grammar.isLeading then .version else .misuse
  | .short 'V' _ => if grammar.isLeading then .version else .misuse
  | _ => .misuse

/-- Read arguments, and give back those behind the part that is read. -/
def readArguments (grammar : Grammar) :
    Arguments → List String → Except Refusal (Arguments × List String)
  | arguments, [] => .ok (arguments, [])
  | arguments, [argument] =>
      match startOf argument with
      | .word => .ok (arguments.withWord argument, [])
      | .terminator => if grammar.isLeading then .error .misuse else .ok (arguments, [])
      | start =>
          match optionOf grammar start with
          | some (option, some joined) =>
              (arguments.withValue option joined).map fun arguments => (arguments, [])
          | some (_, none) => .error .misuse
          | none => .error (refusalOf grammar start)
  | arguments, argument :: next :: rest =>
      match startOf argument with
      | .word =>
          if grammar.isLeading then .ok (arguments.withWord argument, next :: rest)
          else readArguments grammar (arguments.withWord argument) (next :: rest)
      | .terminator =>
          if grammar.isLeading then .error .misuse
          else .ok ((next :: rest).foldl Arguments.withWord arguments, [])
      | start =>
          match optionOf grammar start with
          | some (option, some joined) =>
              match arguments.withValue option joined with
              | .ok arguments => readArguments grammar arguments (next :: rest)
              | .error refusal => .error refusal
          | some (option, none) =>
              if startOf next = .word then
                match arguments.withValue option next with
                | .ok arguments => readArguments grammar arguments rest
                | .error refusal => .error refusal
              else .error .misuse
          | none => .error (refusalOf grammar start)

/-- The value of the format option. -/
def formatOf (arguments : Arguments) : Except Refusal (Option OutputFormat) :=
  match arguments.value? formatOption with
  | none => .ok none
  | some "text" => .ok (some .text)
  | some "json" => .ok (some .json)
  | some "yaml" => .ok (some .yaml)
  | some _ => .error .misuse

/-- The value of the limit option. -/
def limitOf (arguments : Arguments) : Except Refusal (Option Nat) :=
  match arguments.value? limitOption with
  | none => .ok none
  | some text =>
      match unsignedText? text with
      | some limit => .ok (some limit)
      | none => .error .misuse

/-- The options of a command, if there is such a command. -/
def optionsOf (name : String) : Option (List ValueOption) :=
  match name with
  | "print" => some [configOption]
  | "tree" => some [configOption, formatOption]
  | "search" => some [configOption, formatOption, limitOption]
  | _ => none

/-- The command with its words and options. -/
def commandOf (name : String) (arguments : Arguments) :
    Except Refusal Command := do
  let format ← formatOf arguments
  let limit ← limitOf arguments
  match name, arguments.words with
  | "print", [path] => return .print path
  | "tree", [path] => return .tree path format
  | "search", [path, pattern] => return .search path pattern format limit
  | _, _ => throw .misuse

/-- What a command line asks for. -/
def read (args : List String) : Except Refusal Invocation := do
  let (before, rest) ← readArguments ⟨[configOption], true⟩ .empty args
  let [name] := before.words | throw .misuse
  let some options := optionsOf name
    | throw (if name = "help" then .help else .misuse)
  let (behind, _) ← readArguments ⟨options, false⟩ .empty rest
  let command ← commandOf name behind
  let configPath :=
    (behind.value? configOption).or (before.value? configOption)
  return { command, configPath }

end CommandLine

end TreeQuery
