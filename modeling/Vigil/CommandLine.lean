/-!
What the command line asks for: help, the version, or a node with its configuration file and perhaps
an address to bind to.
-/

namespace Vigil

/-- The settings that take a value. -/
inductive Setting where
  | config
  | bind
deriving DecidableEq, Repr

namespace Setting

def name : Setting → String
  | config => "config"
  | bind => "bind"

def letter : Setting → Char
  | config => 'c'
  | bind => 'b'

def usage : Setting → String
  | config => "--config <CONFIG>"
  | bind => "--bind <BIND>"

def all : List Setting := [config, bind]

end Setting

inductive Invocation where
  | help
  | version
  | run (config : String) (bind : Option String)
deriving DecidableEq, Repr

inductive UsageError where
  | unexpectedArgument (argument : String)
  | unexpectedValue (value flag : String)
  | missingValue (setting : Setting)
  | repeated (setting : Setting)
deriving DecidableEq, Repr

def UsageError.text (e : UsageError) : String :=
  let problem :=
    match e with
    | unexpectedArgument argument => "unexpected argument '" ++ argument ++ "' found"
    | unexpectedValue value flag =>
      "unexpected value '" ++ value ++ "' for '" ++ flag ++ "' found; no more were expected"
    | missingValue setting =>
      "a value is required for '" ++ setting.usage ++ "' but none was supplied"
    | repeated setting => "the argument '" ++ setting.usage ++ "' cannot be used multiple times"
  let usage :=
    match e with
    | missingValue _ => ""
    | _ => "Usage: leaderwatch [OPTIONS]\n\n"
  "error: " ++ problem ++ "\n\n" ++ usage ++ "For more information, try '--help'.\n"

namespace CommandLine

def versionText : String := "leaderwatch 0.1.0\n"

def defaultConfig : String := "leaderwatch.example.yaml"

def helpText : String :=
  "Leader fault detection for cluster membership\n\n" ++
  "Usage: leaderwatch [OPTIONS]\n\n" ++
  "Options:\n" ++
  "  -c, --config <CONFIG>  Path to the YAML configuration file " ++
    "[default: " ++ defaultConfig ++ "]\n" ++
  "  -b, --bind <BIND>      Override the bind address (host:port)\n" ++
  "  -h, --help             Print help\n" ++
  "  -V, --version          Print version\n"

/-- The values read so far, and a setting whose value is not taken over yet. -/
structure Reading where
  values : List (Setting × String) := []
  open? : Option (Setting × Option String) := none

namespace Reading

def put (r : Reading) (setting : Setting) (value : String) : Except UsageError Reading :=
  if (r.values.lookup setting).isSome then .error (.repeated setting)
  else .ok { r with values := (setting, value) :: r.values }

/-- Takes over the value of the open setting. -/
def close (r : Reading) : Except UsageError Reading :=
  match r.open? with
  | none => .ok r
  | some (setting, none) => .error (.missingValue setting)
  | some (setting, some value) => { r with open? := none }.put setting value

/-- Meets a setting, with the value attached to it if there is one. -/
def meet (r : Reading) (setting : Setting) (value : Option String) : Except UsageError Reading := do
  let r ← r.close
  match value with
  | some value => r.put setting value
  | none => return { r with open? := some (setting, none) }

def invocation (r : Reading) : Except UsageError Invocation := do
  let r ← r.close
  return .run ((r.values.lookup .config).getD defaultConfig) (r.values.lookup .bind)

end Reading

/-- The value behind an equals sign is attached. -/
def splitValue (s : List Char) : String × Option String :=
  let (name, rest) := s.span (· ≠ '=')
  (String.ofList name, if rest.isEmpty then none else some (String.ofList (rest.drop 1)))

/-- What is left to read after an argument, or what the argument settles at once. -/
abbrev Step := Except UsageError (Reading ⊕ Invocation)

/-- An argument that starts with two hyphens. -/
def readLong (r : Reading) (s : List Char) : Step := do
  let (name, value) := splitValue s
  let flag (i : Invocation) : Step :=
    match value with
    | some value => .error (.unexpectedValue value ("--" ++ name))
    | none => do
      let _ ← r.close
      return .inr i
  match Setting.all.find? (·.name == name), name with
  | some setting, _ => return .inl (← r.meet setting value)
  | none, "help" => flag .help
  | none, "version" => flag .version
  | none, _ => .error (.unexpectedArgument ("--" ++ name))

/-- An argument that starts with one hyphen: a letter, and behind one of a setting its value. -/
def readShort (r : Reading) (c : Char) (rest : List Char) : Step := do
  let value :=
    match rest with
    | [] => none
    | '=' :: rest => some (String.ofList rest)
    | rest => some (String.ofList rest)
  match Setting.all.find? (·.letter == c), c with
  | some setting, _ => return .inl (← r.meet setting value)
  | none, 'h' => do
    let _ ← r.close
    return .inr .help
  | none, 'V' => do
    let _ ← r.close
    return .inr .version
  | none, _ => .error (.unexpectedArgument (String.ofList ['-', c]))

/-- An argument that is no setting: the value of an open one. -/
def readValue (r : Reading) (argument : String) : Step :=
  match r.open? with
  | some (setting, none) => .ok (.inl { r with open? := some (setting, some argument) })
  | _ => .error (.unexpectedArgument argument)

def readFrom (r : Reading) : List String → Except UsageError Invocation
  | [] => r.invocation
  | "--" :: [] => r.invocation
  | "--" :: argument :: _ => .error (.unexpectedArgument argument)
  | argument :: rest => do
    let step :=
      match argument.toList with
      | '-' :: '-' :: s => readLong r s
      | '-' :: c :: s => readShort r c s
      | _ => readValue r argument
    match ← step with
    | .inl r => readFrom r rest
    | .inr invocation => return invocation

/-- What the arguments ask for. -/
def read (arguments : List String) : Except UsageError Invocation := readFrom {} arguments

end CommandLine

end Vigil
