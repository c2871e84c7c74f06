/-
  Failover.CommandLine.Run
  ────────────────────────
  **What a command line does.** A process that was launched as a transport
  runs it, whatever its arguments are.  Else the arguments count: they may
  ask for help or the version, for a test of the configuration, or for the
  shareable forms of its connections; without any of these the
  configuration is set to work.

  Main statement: `perform_of_isService` — a process that was launched as a
  transport looks at no file.
-/
import Failover.Bundled.Run
import Failover.CommandLine.Flags
import Failover.Config

namespace Failover.CommandLine

/-! ## §1. Results. -/

/-- What a command line has come to: its exit code, and what it wrote. -/
structure Outcome where
  code : UInt32
  output : List UInt8
  errors : String
  deriving DecidableEq, Repr

/-- What is to be done when everything was looked at. -/
inductive Task where
  | finished (outcome : Outcome)
  /-- The configuration is to be set to work. -/
  | supervise (config : Config)

/-- All went well. -/
def success (output : String) : Task := .finished ⟨0, Text.Utf8.bytesOf output, ""⟩

/-- Something went wrong. -/
def failure (code : UInt32) (errors : String) : Task := .finished ⟨code, [], errors⟩

/-- What a command line is given: the files, the variables, a secret for a configuration without
one, and the network. -/
structure Setting where
  file : String → Except IoFault (List UInt8)
  env : Environment.Entries
  fresh : String
  net : Net.Network

/-! ## §2. Texts. -/

/-- The name and the version of this program. -/
def versionText : String := "transport-supervisor 0.3.0\n"

/-- What this program can be asked for. -/
def helpText : String :=
  "Keeps one circumvention transport connected\n\n" ++
  "Usage: transport-supervisor [OPTIONS]\n\n" ++
  "Options:\n" ++
  "  -c, --config <CONFIG>  Path to configuration file [default: config.yaml]\n" ++
  "  -t, --test             Test configuration and exit\n" ++
  "      --encode           Print the shareable encoding of every configured connection and exit\n"
  ++
  "  -h, --help             Print help\n" ++
  "  -V, --version          Print version\n"

/-- The answer to arguments that cannot be read. -/
def usageText : String :=
  "error: unexpected argument\n\nUsage: transport-supervisor [OPTIONS]\n\n" ++
  "For more information, try '--help'.\n"

/-- The answer to a configuration that cannot be loaded. -/
def loadFailure (detail : Option Fault) : String :=
  "Failed to load configuration" ++
    match detail with
    | some cause => ": " ++ cause.message ++ "\n"
    | none => "\n"

/-! ## §3. Log levels. -/

/-- The names of log levels. -/
def logLevelNames : List String := ["off", "error", "warn", "info", "debug", "trace"]

/-- Whether a text is a log level: nothing, a name in any case, or a number up to that of the most
detailed one. -/
def isLogLevel (level : String) : Bool :=
  let small := String.ofList (level.toList.map Char.toLower)
  level.isEmpty || logLevelNames.contains small || ["0", "1", "2", "3", "4", "5"].contains level

/-- The log level when none is configured. -/
def defaultLogLevel : String := "info"

/-! ## §4. Running. -/

/-- Run as a transport, up to the end of the handshake. -/
def serve (s : Setting) (space : String) : Outcome :=
  match Bundled.run s.env space (Bundled.shipped s.net) .open with
  | .ok _ outlet => ⟨0, outlet.written, ""⟩
  | .error (.fault _) outlet => ⟨1, outlet.written, ""⟩
  | .error (.breach _) outlet => ⟨101, outlet.written, ""⟩

/-- Load the configuration of a path. -/
def load (s : Setting) (path : String) : Except (Option Fault) Config :=
  match s.file path with
  | .error cause => .error (some (.io cause))
  | .ok bytes =>
      match Text.Utf8.textOf bytes with
      | .error _ => .error (some (.io .notText))
      | .ok text =>
          match Config.load s.fresh text with
          | .ok c => .ok c
          | .error .unreadable => .error none
          | .error (.invalid cause) => .error (some (.config cause))

/-- The shareable forms of all connections, a line for each. -/
def encodings (c : Config) : String :=
  String.join (c.connections.map fun k => k.displayName ++ "\t" ++ k.encode ++ "\n")

/-- Do what the settings say. -/
def run (s : Setting) (f : Flags) : Task :=
  match load s f.path with
  | .error detail => failure 1 (loadFailure detail)
  | .ok c =>
      if !isLogLevel (c.logLevel.getD defaultLogLevel) then
        failure 1 "Error: invalid filter directive\n"
      else if f.encode then success (encodings c)
      else if f.test then success ""
      else .supervise c

/-- Do what the arguments say. -/
def obey (s : Setting) (arguments : List String) : Task :=
  match parse arguments with
  | .help => success helpText
  | .version => success versionText
  | .misused => failure 2 usageText
  | .run f => run s f

/-- Do what a command line says. -/
def perform (s : Setting) (arguments : List String) : Task :=
  let space := Environment.namespaceIn arguments
  if Bundled.isService s.env space then .finished (serve s space) else obey s arguments

/-- A process that was launched as a transport looks at no file. -/
theorem perform_of_isService (s : Setting) (arguments : List String)
    (h : Bundled.isService s.env (Environment.namespaceIn arguments) = true)
    (file : String → Except IoFault (List UInt8)) :
    perform { s with file } arguments = perform s arguments := by
  simp [perform, h, serve]

end Failover.CommandLine
