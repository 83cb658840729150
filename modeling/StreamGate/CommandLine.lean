import StreamGate.Config.Load
import StreamGate.Config.LogFilter
import StreamGate.Storage.SetUp

/-!
# The command line

Arguments, and what the program does up to the point where it would serve
requests: load the settings, check them and the log filter, set the storage up,
bind the address.

The outside world is a `Host`, a record of operations in some monad.
-/

namespace StreamGate.CommandLine

/-- What the arguments ask for. -/
structure Arguments where
  config : Option String := none
  overrides : Settings.Overrides := {}
deriving DecidableEq, Repr

/-- An argument that takes a value. -/
inductive Setting where
  | config
  | listenAddress
  | blocksDir
deriving DecidableEq, Repr

/-- An argument that takes none. -/
inductive Switch where
  | memoryOnly
  | jsonLogs
deriving DecidableEq, Repr

/-- Why the program ends before it does anything. -/
inductive Stop where
  /-- Help was asked for. -/
  | help
  /-- The arguments make no sense. -/
  | usage
deriving DecidableEq, Repr

/-- A path must not be empty, a text may be. -/
def accepts (o : Setting) (value : String) : Bool := o = .listenAddress || value ≠ ""

/-- Sets an option, once. -/
def Arguments.set (a : Arguments) (o : Setting) (value : String) : Except Stop Arguments :=
  if !accepts o value then .error .usage
  else match o with
    | .config => if a.config.isSome then .error .usage else .ok { a with config := some value }
    | .listenAddress =>
      if a.overrides.listenAddress.isSome then .error .usage
      else .ok { a with overrides := { a.overrides with listenAddress := some value } }
    | .blocksDir =>
      if a.overrides.blocksDir.isSome then .error .usage
      else .ok { a with overrides := { a.overrides with blocksDir := some value } }

/-- Turns a switch on, once. -/
def Arguments.turnOn (a : Arguments) (s : Switch) : Except Stop Arguments :=
  match s with
  | .memoryOnly =>
    if a.overrides.memoryOnly then .error .usage
    else .ok { a with overrides := { a.overrides with memoryOnly := true } }
  | .jsonLogs =>
    if a.overrides.jsonLogs then .error .usage
    else .ok { a with overrides := { a.overrides with jsonLogs := true } }

/-- What one argument is. -/
inductive Word where
  | help
  | switch (s : Switch)
  /-- An option whose value is the next argument. -/
  | option (o : Setting)
  /-- An option with its value. -/
  | valued (o : Setting) (value : String)
  /-- The end of the options. -/
  | separator
  | unknown
deriving DecidableEq, Repr

/-- The text after the first `=`, and the one before it. -/
def splitValue (cs : List Char) : List Char × Option (List Char) :=
  let name := cs.takeWhile (· ≠ '=')
  (name, (cs.drop name.length).tail?)

/-- An option by its long name. -/
def optionOf? (name : String) : Option Setting :=
  match name with
  | "config" => some .config
  | "listen-addr" => some .listenAddress
  | "blocks-dir" => some .blocksDir
  | _ => none

/-- A long argument, without its dashes. -/
def longWord (cs : List Char) : Word :=
  let (name, value) := splitValue cs
  let name := String.ofList name
  match optionOf? name, value with
  | some o, none => .option o
  | some o, some value => .valued o (String.ofList value)
  | none, some _ => .unknown
  | none, none =>
    if name = "memory-only" then .switch .memoryOnly
    else if name = "json-logs" then .switch .jsonLogs
    else if name = "help" then .help
    else .unknown

/-- What an argument is. -/
def Word.ofText (text : String) : Word :=
  match text.toList with
  | ['-', '-'] => .separator
  | '-' :: '-' :: rest => longWord rest
  | ['-', 'c'] => .option .config
  | '-' :: 'c' :: '=' :: value => .valued .config (String.ofList value)
  | '-' :: 'c' :: value => .valued .config (String.ofList value)
  | '-' :: 'h' :: _ => .help
  | _ => .unknown

/-- An argument that can be the value of the option before it. -/
def isValue (text : String) : Bool := text = "-" || text.toList.head? ≠ some '-'

/-- Reads the arguments from the left; the first that ends the program wins. -/
def parse : Arguments → List String → Except Stop Arguments
  | a, [] => .ok a
  | a, text :: rest =>
    match Word.ofText text with
    | .help => .error .help
    | .unknown => .error .usage
    | .separator => if rest.isEmpty then .ok a else .error .usage
    | .switch s => do parse (← a.turnOn s) rest
    | .valued o value => do parse (← a.set o value) rest
    | .option o =>
      match rest with
      | [] => .error .usage
      | value :: rest => if isValue value then do parse (← a.set o value) rest else .error .usage

/-- Takes the settings file from the environment if no argument names one. -/
def withEnvironment (env : String → Option String) (a : Arguments) : Except Stop Arguments :=
  match a.config, env "BLOCKSERVE_CONFIG" with
  | none, some path => a.set .config path
  | _, _ => .ok a

/-- The program's view of the outside. -/
structure Host (m : Type → Type) where
  env : String → Option String
  disk : Disk m
  bind : SocketAddress → m (Except IoError Unit)

/-- How a run ended: the exit code and the text for standard error. -/
structure Outcome where
  code : UInt32
  stderr : String := ""
deriving DecidableEq, Repr

namespace Outcome

/-- A text with a margin before every line but the first. -/
def indented (margin text : String) : String :=
  ("\n" ++ margin).intercalate (Text.cut '\n' text)

/-- The failure of a run: what failed, and the chain of causes below it.  Several
causes are numbered, one is not. -/
def failure (what : String) (causes : List String) : Outcome :=
  let shown := match causes with
    | [] => ""
    | [cause] => "\n\nCaused by:\n    " ++ indented "    " cause
    | causes =>
      "\n\nCaused by:\n" ++
        "\n".intercalate (causes.mapIdx fun i cause => s!"    {i}: " ++ indented "       " cause)
  ⟨1, s!"Error: {what}{shown}\n"⟩

/-- Says something before anything else. -/
def after (said : String) (o : Outcome) : Outcome := { o with stderr := said ++ o.stderr }

/-- The run broke off. -/
def breakdown : Outcome := ⟨101, ""⟩

def ofStop : Stop → Outcome
  | .help => ⟨0, ""⟩
  | .usage => ⟨2, ""⟩

end Outcome

/-- The causes of a failed load, outermost first. -/
def causes (e : ConfigError) : List String :=
  match e with
  | .unreadable io => [e.message, io.message]
  | _ => [e.message]

variable {m : Type → Type} [Monad m]

/-- Loads the settings file, if there is one. -/
def load (host : Host m) (path : Option String) : m (Except ConfigError Settings) := do
  match path with
  | none => return .ok {}
  | some path => return Settings.ofFile (← host.disk.readText path)

/-- Sets the storage up, unless all stays in memory. -/
def setUpStorage (host : Host m) (s : StorageSettings) : m (Except Failure Unit) := do
  if s.memoryOnly then return .ok ()
  return (← (s.setUp host.disk).run).map fun _ => ()

/-- Sets the storage up and binds the address. -/
def serve (host : Host m) (s : Settings) (address : SocketAddress) : m Outcome := do
  match ← setUpStorage host s.storage with
  | .error e => return .failure "Failed to open storage" [e.message]
  | .ok () =>
    match ← host.bind address with
    | .error e => return .failure e.message []
    | .ok () => return ⟨0, ""⟩

/-- A whole run. -/
def run (host : Host m) (args : List String) : m Outcome := do
  match (parse {} args).bind (withEnvironment host.env) with
  | .error stop => return .ofStop stop
  | .ok a =>
    match ← load host a.config with
    | .error e => return .failure "Failed to load configuration" (causes e)
    | .ok s =>
      let s := (s.withEnvironment host.env).withOverrides a.overrides
      match s.validate, LogFilter.notices? (host.env "RUST_LOG") s.logging.level, s.socketAddress with
      | .error e, _, _ => return .failure e.message []
      | .ok (), none, _ => return .breakdown
      | .ok (), some said, .error e => return (Outcome.failure e.message []).after said
      | .ok (), some said, .ok address => return (← serve host s address).after said

end StreamGate.CommandLine
