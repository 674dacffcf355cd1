/-
Module: BoxProbe.CommandLine.Option
Purpose: The options of the command line, and what is said about them.
Main exports: CommandOption, CommandOption.matching, usageText, helpText, version
-/
import BoxProbe.Log.Record

/-!
Every option has a long name, and a value unless it is a switch.  The first letters of a long name
are enough where only one option starts with them.
-/

namespace BoxProbe

/-- The version of the program. -/
def version : String := "0.1.0"

/-- The options of the command line. -/
inductive CommandOption where
  | help
  | url
  | lifetime
  | logLevel
  | envFile
  | serveMock
  | host
  | port
  | qrText
deriving DecidableEq, Repr

namespace CommandOption

/-- All options. -/
def all : List CommandOption :=
  [.help, .url, .lifetime, .logLevel, .envFile, .serveMock, .host, .port, .qrText]

/-- The names of an option. -/
def names : CommandOption → List String
  | .help => ["-h", "--help"]
  | .url => ["--url"]
  | .lifetime => ["--lifetime"]
  | .logLevel => ["--log-level"]
  | .envFile => ["--env-file"]
  | .serveMock => ["--serve-mock"]
  | .host => ["--host"]
  | .port => ["--port"]
  | .qrText => ["--qr-text"]

/-- An option as messages name it. -/
def display (o : CommandOption) : String :=
  "/".intercalate o.names

/-- All names with their options. -/
def named : List (String × CommandOption) :=
  all.flatMap fun o => o.names.map fun name => (name, o)

/-- The option of a name. -/
def ofName? (name : String) : Option CommandOption :=
  (named.find? fun n => n.1 = name).map (·.2)

/-- The names that start with a text, with their options. -/
def matching (start : String) : List (String × CommandOption) :=
  named.filter fun n => start.toList.isPrefixOf n.1.toList

end CommandOption

/-- How the program is used. -/
def usageText : String :=
  "usage: cbsim-probe [-h] [--url URL] [--lifetime LIFETIME]\n" ++
  "                   [--log-level \x7bDEBUG,INFO,WARNING,ERROR,CRITICAL\x7d]\n" ++
  "                   [--env-file ENV_FILE] [--serve-mock] [--host HOST]\n" ++
  "                   [--port PORT] [--qr-text QR_TEXT]\n"

/-- What the program does and what its options mean. -/
def helpText : String :=
  usageText ++
  "\nProbe the control box simulator's WebSocket frontend\n" ++
  "\noptions:\n" ++
  "  -h, --help            show this help message and exit\n" ++
  "  --url URL             WebSocket URL to probe (default: CBSIM_PROBE_URL or\n" ++
  "                        ws://localhost:7071/ws)\n" ++
  "  --lifetime LIFETIME   Seconds before the probe shuts down (default:\n" ++
  "                        CBSIM_PROBE_LIFETIME or 5)\n" ++
  "  --log-level \x7bDEBUG,INFO,WARNING,ERROR,CRITICAL\x7d\n" ++
  "                        Logging level (default: LOG_LEVEL or INFO)\n" ++
  "  --env-file ENV_FILE   Load environment variables from this file instead of\n" ++
  "                        .env\n" ++
  "  --serve-mock          Serve the mock control box instead of probing\n" ++
  "  --host HOST           Mock control box bind address\n" ++
  "  --port PORT           Mock control box port\n" ++
  "  --qr-text QR_TEXT     QR code text pushed by the mock control box\n" ++
  "\nExamples:\n" ++
  "  # Probe the simulator on the default address for five seconds\n" ++
  "  cbsim-probe\n" ++
  "\n  # Probe another address for ten seconds with debug output\n" ++
  "  cbsim-probe --url ws://192.168.1.20:7071/ws --lifetime 10 --log-level DEBUG\n" ++
  "\n  # Serve the mock control box on the simulator's port\n" ++
  "  cbsim-probe --serve-mock --port 7071\n" ++
  "        \n"

end BoxProbe
