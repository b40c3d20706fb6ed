import TransitRouting.Config.Server

/-!
# The command line

The server is started as

```
routing-server [OPTIONS] --scenario <SCENARIO> --output <OUTPUT>
```

with the options `--id-store <ID_STORE>`, `--threads <THREADS>` (default 1), `--port <PORT>`
(default 50051), `--sample <SAMPLE>`, and the switches `--local-files` and `--no-profile`. A
value may follow its flag as the next argument or after `=` (`--threads=4`). `-h`/`--help`
and `-V`/`--version` print the help or the version instead.

Arguments are read from the left, and the first problem is reported: an unknown argument, a
flag without its value, a flag given twice, then a value that does not parse, then the
required flags that are missing. The thread count is an unsigned integer (a leading `+` is
allowed); the port is an integer from 0 to 65535.

## What this module delivers

- `CommandLine.Invocation`, `CommandLine.parse`.
- `CommandLine.usage`, `CommandLine.helpText`, `CommandLine.versionText`.
-/

set_option autoImplicit false

namespace TransitRouting.CommandLine

/-- What a command line asks for. -/
inductive Invocation where
  | help
  | version
  | serve (config : ServerConfig)
deriving Repr, DecidableEq

/-- The program's name on the command line. -/
def programName : String := "routing-server"

/-- The one-line synopsis. -/
def usage : String :=
  "Usage: " ++ programName ++ " [OPTIONS] --scenario <SCENARIO> --output <OUTPUT>"

/-- The version line. -/
def versionText : String := programName ++ " 0.1.0"

/-- The help text. -/
def helpText : String :=
  "Transit routing server for remote simulations\n\n" ++ usage ++ "\n\n" ++
  "Options:\n" ++
  "      --scenario <SCENARIO>  Scenario snapshot (JSON)\n" ++
  "      --id-store <ID_STORE>  Identifier store registered before warm-up\n" ++
  "      --output <OUTPUT>      Base output directory\n" ++
  "      --threads <THREADS>    Number of routing workers [default: 1]\n" ++
  "      --port <PORT>          Port to listen on [default: 50051]\n" ++
  "      --sample <SAMPLE>      Sample rate substituted into <n>pct file names\n" ++
  "      --local-files          Use local copies of URL inputs (file name only)\n" ++
  "      --no-profile           Disable per-request profiling\n" ++
  "  -h, --help                 Print help\n" ++
  "  -V, --version              Print version"

/-- The pointer to the help that ends every error. -/
def moreInformation : String := "\n\nFor more information, try '--help'."

/-- The placeholder of a flag's value, for flags that take one. -/
def valueName : String → Option String
  | "--scenario" => some "SCENARIO"
  | "--id-store" => some "ID_STORE"
  | "--output" => some "OUTPUT"
  | "--threads" => some "THREADS"
  | "--port" => some "PORT"
  | "--sample" => some "SAMPLE"
  | _ => none

/-- A flag as shown in errors: with its placeholder when it takes a value. -/
def shown (flag : String) : String :=
  match valueName flag with
  | some v => flag ++ " <" ++ v ++ ">"
  | none => flag

/-- A flag and the text after its first `=`, if any. -/
def splitInline (arg : String) : String × Option String :=
  match arg.toList.span (· ≠ '=') with
  | (name, '=' :: value) => (String.ofList name, some (String.ofList value))
  | _ => (arg, none)

/-- How reading the arguments ends: early with help or version, or with every flag read. -/
inductive Reading where
  | early (i : Invocation)
  | flags (fs : List (String × String))

/-- Put a flag in front of what the remaining arguments gave. -/
def Reading.cons (flag : String × String) : Reading → Reading
  | .early i => .early i
  | .flags fs => .flags (flag :: fs)

/-- Read the arguments into flags with their values (switches get the empty value). -/
def readFlags : List String → Except String Reading
  | [] => .ok (.flags [])
  | arg :: rest =>
    if arg = "-h" || arg = "--help" then .ok (.early .help)
    else if arg = "-V" || arg = "--version" then .ok (.early .version)
    else if arg = "--local-files" || arg = "--no-profile" then
      (readFlags rest).map (Reading.cons (arg, ""))
    else
      let (name, inline) := splitInline arg
      match valueName name, inline with
      | some _, some value => (readFlags rest).map (Reading.cons (name, value))
      | some _, none =>
        match rest with
        | value :: more =>
          if value.startsWith "--" then
            .error ("error: a value is required for '" ++ shown name ++
              "' but none was supplied" ++ moreInformation)
          else (readFlags more).map (Reading.cons (name, value))
        | [] =>
          .error ("error: a value is required for '" ++ shown name ++ "' but none was supplied" ++
            moreInformation)
      | none, _ =>
        .error ("error: unexpected argument '" ++ arg ++ "' found\n\n" ++ usage ++ moreInformation)

/-- The first flag given twice, if any. -/
def firstRepeated : List String → Option String
  | [] => none
  | f :: rest => if rest.contains f then some f else firstRepeated rest

/-- An unsigned integer as written in decimal, with an optional leading `+`; the reason
otherwise. -/
def parseUnsigned (s : String) : Except String Nat :=
  let digits := match s.toList with
    | '+' :: ds => ds
    | ds => ds
  if digits.isEmpty then .error "cannot parse integer from empty string"
  else if digits.all Char.isDigit then
    .ok (digits.foldl (fun n c => 10 * n + (c.toNat - '0'.toNat)) 0)
  else .error "invalid digit found in string"

/-- An error about a flag's value. -/
def invalidValue (flag value reason : String) : String :=
  "error: invalid value '" ++ value ++ "' for '" ++ shown flag ++ "': " ++ reason ++
    moreInformation

/-- The thread count. -/
def parseThreads (value : String) : Except String Nat :=
  match parseUnsigned value with
  | .ok n =>
    if n < Nat.pow 2 64 then .ok n
    else .error (invalidValue "--threads" value "number too large to fit in target type")
  | .error reason => .error (invalidValue "--threads" value reason)

/-- The port. -/
def parsePort (value : String) : Except String Nat :=
  let (negative, magnitude) := match value.toList with
    | '-' :: ds => (true, String.ofList ds)
    | _ => (false, value)
  match parseUnsigned magnitude with
  | .ok n =>
    if !negative && n ≤ 65535 then .ok n
    else .error (invalidValue "--port" value (value ++ " is not in 0..=65535"))
  | .error reason => .error (invalidValue "--port" value reason)

/-- The value given for a flag. -/
def lookup (fs : List (String × String)) (flag : String) : Option String :=
  (fs.find? (·.1 = flag)).map (·.2)

/-- The configuration the flags describe. -/
def configOf (fs : List (String × String)) : Except String ServerConfig := do
  if let some f := firstRepeated (fs.map (·.1)) then
    throw ("error: the argument '" ++ shown f ++ "' cannot be used multiple times\n\n" ++ usage ++
      moreInformation)
  let threads ← match lookup fs "--threads" with
    | some v => parseThreads v
    | none => pure 1
  let port ← match lookup fs "--port" with
    | some v => parsePort v
    | none => pure defaultPort
  let missing := ["--scenario", "--output"].filter fun f => (lookup fs f).isNone
  match lookup fs "--scenario", lookup fs "--output" with
  | some scenario, some outputDir =>
    return { scenario, outputDir, idStore := lookup fs "--id-store", threads, port,
             profiling := (lookup fs "--no-profile").isNone, sample := lookup fs "--sample",
             localFiles := (lookup fs "--local-files").isSome }
  | _, _ =>
    throw ("error: the following required arguments were not provided:\n" ++
      String.join (missing.map fun f => "  " ++ shown f ++ "\n") ++ "\n" ++ usage ++
      moreInformation)

/-- Read a command line (without the program name). -/
def parse (args : List String) : Except String Invocation := do
  match ← readFlags args with
  | .early i => return i
  | .flags fs => return .serve (← configOf fs)

end TransitRouting.CommandLine
