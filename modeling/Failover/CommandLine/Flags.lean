/-
  Failover.CommandLine.Flags
  ──────────────────────────
  **The arguments of the command line.** There are flags and one option
  with a value.  Short ones may be written together in one argument, and a
  value may be attached to its option or follow as an argument of its own,
  if that is not itself a flag.  Nothing may be given twice, and there are
  no other arguments.

  Arguments are read in their order, so whatever comes behind a request for
  help or the version makes no difference.

  Main statement: `parse_render` — settings are read from the arguments
  that tell them.
-/

namespace Failover.CommandLine

/-! ## §1. Tokens. -/

/-- What a piece of an argument means. -/
inductive Token where
  | test
  | encode
  | help
  | version
  /-- The path of the configuration with its value attached. -/
  | config (path : String)
  /-- The same with its value to follow. -/
  | configNext
  /-- An argument that is no flag. -/
  | plain (text : String)
  /-- From here on nothing is a flag. -/
  | separator
  | unknown
  deriving DecidableEq, Repr

namespace Token

/-- A value without the equals sign before it. -/
def attached : List Char → String
  | '=' :: value => String.ofList value
  | value => String.ofList value

/-- The short flags in one argument. -/
def ofShort : List Char → List Token
  | [] => []
  | ['c'] => [configNext]
  | 'c' :: value => [config (attached value)]
  | 't' :: rest => test :: ofShort rest
  | 'h' :: rest => help :: ofShort rest
  | 'V' :: rest => version :: ofShort rest
  | _ => [unknown]

/-- The long flag of a name. -/
def ofLong (name : List Char) : Token :=
  if name = "test".toList then test
  else if name = "encode".toList then encode
  else if name = "help".toList then help
  else if name = "version".toList then version
  else if name = "config".toList then configNext
  else if "config=".toList.isPrefixOf name then
    config (String.ofList (name.drop "config=".length))
  else unknown

/-- What an argument means. -/
def ofArgument (argument : String) : List Token :=
  match argument.toList with
  | ['-', '-'] => [separator]
  | '-' :: '-' :: name => [ofLong name]
  | '-' :: c :: rest => ofShort (c :: rest)
  | _ => [plain argument]

end Token

/-! ## §2. Settings. -/

/-- The settings of a command line. -/
structure Flags where
  /-- The path of the configuration, if one was given. -/
  config : Option String
  test : Bool
  encode : Bool
  deriving DecidableEq, Repr

/-- No settings. -/
def Flags.none : Flags := ⟨Option.none, false, false⟩

/-- Where the configuration is if nothing else is said. -/
def defaultPath : String := "config.yaml"

/-- Where the configuration is. -/
def Flags.path (f : Flags) : String := f.config.getD defaultPath

/-- What a command line asks for. -/
inductive Request where
  | help
  | version
  | misused
  | run (flags : Flags)
  deriving DecidableEq, Repr

/-- The settings with a path, which may be given once and may not be empty. -/
def Flags.withConfig? (f : Flags) (path : String) : Option Flags :=
  if f.config.isSome || path.isEmpty then Option.none else some { f with config := some path }

/-- Read tokens behind which the settings were told so far. -/
def read (f : Flags) : List Token → Request
  | [] => .run f
  | .help :: _ => .help
  | .version :: _ => .version
  | .test :: rest => if f.test then .misused else read { f with test := true } rest
  | .encode :: rest => if f.encode then .misused else read { f with encode := true } rest
  | .config path :: rest =>
      match f.withConfig? path with
      | some f => read f rest
      | none => .misused
  | .configNext :: .plain path :: rest =>
      match f.withConfig? path with
      | some f => read f rest
      | none => .misused
  | [.separator] => .run f
  | _ => .misused

/-- Read a command line. -/
def parse (arguments : List String) : Request :=
  read .none (arguments.flatMap Token.ofArgument)

/-! ## §3. Writing settings. -/

/-- Arguments that tell settings. -/
def Flags.render (f : Flags) : List String :=
  (match f.config with
    | some path => ["--config=" ++ path]
    | Option.none => []) ++
  (if f.test then ["--test"] else []) ++ (if f.encode then ["--encode"] else [])

theorem ofArgument_config (path : String) :
    Token.ofArgument ("--config=" ++ path) = [.config path] := by
  have h : ("--config=" ++ path).toList =
      '-' :: '-' :: 'c' :: 'o' :: 'n' :: 'f' :: 'i' :: 'g' :: '=' :: path.toList := by
    simp
  have start : "config=".length = 7 := by decide
  unfold Token.ofArgument
  rw [h]
  simp [Token.ofLong, start]

/-- Settings are read from the arguments that tell them. -/
theorem parse_render (f : Flags) (h : f.config ≠ some "") : parse f.render = .run f := by
  obtain ⟨config, test, encode⟩ := f
  have test_token : Token.ofArgument "--test" = [.test] := by decide
  have encode_token : Token.ofArgument "--encode" = [.encode] := by decide
  cases config with
  | none =>
    cases test <;> cases encode <;>
      simp [parse, Flags.render, Flags.none, read, test_token, encode_token]
  | some path =>
    have nonempty : path ≠ "" := fun e => h (by simp [e])
    cases test <;> cases encode <;>
      simp [parse, Flags.render, Flags.none, read, test_token, encode_token,
        ofArgument_config, Flags.withConfig?, nonempty]

end Failover.CommandLine
