import ReadyPin.Launch.Options
import ReadyPin.Launch.Similarity

/-!
# The command line

`Options.parse` reads the options from the arguments and the environment. An option's value follows it as the next
argument or after an equals sign; an argument that begins with a dash is never a value. An option whose value is to
follow is settled only when the next option comes or the arguments end, so a mistake in between is reported first.

In the program: what `clap` does with the arguments of `main`.
-/

namespace ReadyPin

/-! ## 1. Mistakes -/

/-- Why a text is no size. -/
inductive SizeFault where
  | empty
  | digit
  | tooLarge
  deriving Repr, DecidableEq

/-- The wording of a fault. -/
def SizeFault.message : SizeFault → String
  | .empty => "cannot parse integer from empty string"
  | .digit => "invalid digit found in string"
  | .tooLarge => "number too large to fit in target type"

/-- A mistake in the arguments or in the environment. -/
inductive UsageFault where
  /-- An argument that means nothing, a name that may have been meant, and what the usage shows. -/
  | unexpected (argument : String) (meant : Option String) (used : List String)
  | unexpectedValue (value : String) (shown : String) (used : List String)
  | repeated (key : OptionKey)
  | noValue (key : OptionKey)
  | noSize (text : String) (fault : SizeFault)
  | noSwitch (text : String)
  deriving Repr, DecidableEq

namespace UsageFault

/-- The name under which the program is called. -/
def programName : String := "driver-ready-webhook"

/-- How the program is called with some arguments. -/
def usage (used : List String) : String :=
  "Usage: " ++ programName ++ " " ++ (if used.isEmpty then "[OPTIONS]" else " ".intercalate used)

/-- What the mistake is, and what follows it before the last line. -/
def parts : UsageFault → List String
  | .unexpected argument none used => [s!"error: unexpected argument '{argument}' found", usage used]
  | .unexpected argument (some meant) used =>
    [ s!"error: unexpected argument '{argument}' found",
      s!"  tip: a similar argument exists: '--{meant}'",
      usage used ]
  | .unexpectedValue value shown used =>
    [s!"error: unexpected value '{value}' for '{shown}' found; no more were expected", usage used]
  | .repeated key =>
    [s!"error: the argument '{key.shown}' cannot be used multiple times", usage []]
  | .noValue key => [s!"error: a value is required for '{key.shown}' but none was supplied"]
  | .noSize text fault =>
    [s!"error: invalid value '{text}' for '{OptionKey.maxBodySize.shown}': {fault.message}"]
  | .noSwitch text =>
    let shown := OptionKey.logJson.shown
    let mistake := if text.isEmpty then s!"error: a value is required for '{shown}' but none was supplied"
      else s!"error: invalid value '{text}' for '{shown}'"
    [mistake ++ "\n  [possible values: true, false]"]

/-- The message of a mistake. -/
def message (self : UsageFault) : String :=
  "\n\n".intercalate (self.parts ++ ["For more information, try '--help'.\n"])

end UsageFault

/-- Why the options are not read to their end. -/
inductive Stop where
  /-- The help was asked for. -/
  | help
  /-- The version was asked for. -/
  | version
  | fault (fault : UsageFault)
  deriving Repr, DecidableEq

/-! ## 2. Values -/

namespace Size

/-- Reads digits on from a value; the first that is none ends it, as does a value that is too large. -/
def digits (value : Nat) : List Char → Except SizeFault Nat
  | [] => .ok value
  | c :: cs =>
    if !c.isDigit then .error .digit
    else
      let value := 10 * value + (c.toNat - '0'.toNat)
      if value < 0x10000000000000000 then digits value cs else .error .tooLarge

/-- A size in bytes, with or without a plus sign. -/
def parse (text : String) : Except SizeFault Nat :=
  match text.toList with
  | [] => .error .empty
  | ['+'] => .error .digit
  | '+' :: cs => digits 0 cs
  | cs => digits 0 cs

end Size

/-- Checks the value of an option. -/
def OptionKey.check (key : OptionKey) (value : String) : Except Stop Unit :=
  match key with
  | .maxBodySize =>
    match Size.parse value with
    | .ok _ => .ok ()
    | .error fault => .error (.fault (.noSize value fault))
  | .logJson => if value = "true" ∨ value = "false" then .ok () else .error (.fault (.noSwitch value))
  | _ => .ok ()

/-! ## 3. Arguments -/

/-- What has been read of the arguments. -/
structure Given where
  /-- The options with their values, in the order of their use. -/
  values : List (OptionKey × String) := []
  /-- An option that is not settled yet, with its value if it came. -/
  pending : Option (OptionKey × Option String) := none
  deriving Repr, DecidableEq

namespace Given

/-- The value of an option. -/
def value? (self : Given) (key : OptionKey) : Option String := self.values.lookup key

/-- The options as the usage shows them. -/
def used (self : Given) : List String := self.values.map fun v => v.1.shown

/-- Takes an option with its value. -/
def take (self : Given) (key : OptionKey) (value : String) : Except Stop Given :=
  if (self.value? key).isSome then .error (.fault (.repeated key))
  else do
    key.check value
    pure { self with values := self.values ++ [(key, value)] }

/-- Settles the pending option. -/
def settle (self : Given) : Except Stop Given :=
  match self.pending with
  | none => .ok self
  | some (key, none) => .error (.fault (.noValue key))
  | some (key, some value) => { self with pending := none }.take key value

/-- What a name on the command line means. -/
inductive Meaning where
  | option (key : OptionKey)
  | help
  | version
  deriving Repr, DecidableEq

/-- All names on the command line. -/
def names : List (String × Meaning) :=
  OptionKey.keys.map (fun key => (key.long, .option key)) ++ [("help", .help), ("version", .version)]

/-- A name as the usage shows it. -/
def shownName (name : String) : String :=
  match names.lookup name with
  | some (.option key) => key.shown
  | _ => s!"--{name}"

/-- A list with a text at its end, unless it is there. -/
def withShown (used : List String) (text : String) : List String :=
  if used.contains text then used else used ++ [text]

/-- The mistake of an unknown name. -/
def unknownName (self : Given) (name : String) : Stop :=
  let meant := Similarity.closest? name (names.map (·.1))
  let used := meant.elim self.used fun m => withShown self.used (shownName m)
  .fault (.unexpected s!"--{name}" meant used)

/-- Takes the name of an argument with two dashes, and what follows its equals sign. -/
def name (self : Given) (name : String) (value : Option String) : Except Stop Given :=
  match names.lookup name with
  | none => .error (self.unknownName name)
  | some meaning =>
    let takesValue : Bool := match meaning with
      | .option key => key.valueName?.isSome
      | _ => false
    match takesValue, value with
    | false, some value =>
      let shown := shownName name
      .error (.fault (.unexpectedValue value shown (withShown self.used shown)))
    | _, _ => do
      let self ← self.settle
      match meaning, value with
      | .help, _ => .error .help
      | .version, _ => .error .version
      | .option key, some value => self.take key value
      | .option key, none =>
        if takesValue then pure { self with pending := some (key, none) } else self.take key "true"

/-- Takes a letter after one dash. -/
def letter (self : Given) (c : Char) : Except Stop Given :=
  if c = 'h' then do
    let _ ← self.settle
    .error .help
  else if c = 'V' then do
    let _ ← self.settle
    .error .version
  else .error (.fault (.unexpected (String.ofList ['-', c]) none []))

/-- Takes an argument without a dash, which must be the value of the pending option. -/
def bare (self : Given) (argument : String) : Except Stop Given :=
  match self.pending with
  | some (key, none) => .ok { self with pending := some (key, some argument) }
  | _ => .error (.fault (.unexpected argument none []))

/-- Takes arguments one after the other. After two dashes alone none may follow. -/
def takeAll (self : Given) : List String → Except Stop Given
  | [] => self.settle
  | argument :: rest =>
    match argument.toList with
    | ['-', '-'] =>
      match rest with
      | [] => self.settle
      | next :: _ => .error (.fault (.unexpected next none []))
    | '-' :: '-' :: cs => do
      let name := String.ofList (cs.takeWhile (· != '='))
      let value := (cs.dropWhile (· != '=')).tail?.map String.ofList
      (← self.name name value).takeAll rest
    | '-' :: c :: _ => do (← self.letter c).takeAll rest
    | _ => do (← self.bare argument).takeAll rest

end Given

/-! ## 4. Environment -/

/-- The variables of the environment by their names. -/
abbrev Environment := List (String × String)

namespace Given

/-- Takes the options that were not given from the environment, in their order. -/
def takeFromEnvironment (self : Given) (environment : Environment) : List OptionKey → Except Stop Given
  | [] => .ok self
  | key :: keys =>
    match self.value? key, environment.lookup key.environmentName with
    | none, some value => do (← self.take key value).takeFromEnvironment environment keys
    | _, _ => self.takeFromEnvironment environment keys

/-- The value of an option, or its default. -/
def text (self : Given) (key : OptionKey) : String := (self.value? key).getD (key.default?.getD "")

/-- The values of all options. -/
def options (self : Given) : Options where
  driverName := self.text .driverName
  addr := self.text .addr
  metricsAddr := self.text .metricsAddr
  maxBodySize := ((Size.parse (self.text .maxBodySize)).toOption).getD 0
  logLevel := self.text .logLevel
  logJson := self.text .logJson == "true"

end Given

namespace Options

/-- The options of a command line in an environment. -/
def parse (environment : Environment) (arguments : List String) : Except Stop Options := do
  let given ← Given.takeAll {} arguments
  let given ← given.takeFromEnvironment environment OptionKey.keys
  pure given.options

/-! ## 5. Help -/

/-- A text filled up with blanks. -/
def padded (width : Nat) (text : String) : String :=
  text ++ String.ofList (List.replicate (width - text.length) ' ')

/-- The column of the explanations, counted from that of the names. -/
def helpColumn : Nat := 33

/-- The line about an option. -/
def helpLine (environment : Environment) (key : OptionKey) : String :=
  let value := (environment.lookup key.environmentName).getD ""
  let otherwise := key.default?.elim "" fun d => s!" [default: {d}]"
  "      " ++ padded helpColumn key.shown ++ key.help ++ s!" [env: {key.environmentName}={value}]{otherwise}\n"

/-- The help. -/
def help (environment : Environment) : String :=
  "Mutating admission webhook pinning CSI-backed pods to nodes where the driver is ready\n\n"
    ++ UsageFault.usage [] ++ "\n\nOptions:\n"
    ++ String.join (OptionKey.keys.map (helpLine environment))
    ++ "  -h, " ++ padded helpColumn "--help" ++ "Print help\n"
    ++ "  -V, " ++ padded helpColumn "--version" ++ "Print version\n"

/-- The version of the program. -/
def versionNumber : String := "0.2.0"

/-- The name of the program with its version. -/
def versionText : String := s!"{UsageFault.programName} {versionNumber}\n"

end Options

end ReadyPin
