import LspRelay.CommandLine.Argument
import LspRelay.Text.Terminal

namespace LspRelay.CommandLine

open Text

/-- A request for a text, or a mistake. The switches given so far appear in usage lines. -/
inductive Refusal where
  | help (env : Option String)
  | version
  | missingServer (given : List Switch)
  | missingInterpreter
  | repeatedInterpreter
  | unexpectedValue (value : String) (s : Switch) (given : List Switch)
  deriving Repr, DecidableEq

def programName : String := "lsp_shim"

def variableName : String := "LSP_SHIM_INTERPRETER"

def serverName : String := "SERVER [ARGS]"

def serverUsage : String := "<" ++ serverName ++ ">..."

def interpreterUsage : String := Switch.interpreter.usage

def versionText : String := programName ++ " 0.1.0\n"

def usage (rest : String) : String := "Usage: " ++ programName ++ " " ++ rest ++ "\n"

def anyUsage : String := usage ("[OPTIONS] " ++ serverUsage)

def interpreterLabel : String := "      " ++ interpreterUsage ++ "  "

/-- A text in a column: its further lines are indented as far as the first one. -/
def inColumn (width : Nat) (s : String) : String :=
  String.ofList (s.toList.flatMap fun c =>
    if c = '\n' then c :: List.replicate width ' ' else [c])

/-- The help text shows what the environment variable holds. -/
def helpText (env : Option String) : String :=
  let shown := "[env: " ++ variableName ++ "=" ++ env.getD "" ++ "]"
  String.join (
    [ "Stdio proxy that repairs Windows URIs and logMessage payloads between " ++
        "an LSP client and server",
      "",
      anyUsage,
      "Arguments:",
      "  " ++ serverUsage ++ "  Server entry point followed by arguments forwarded verbatim",
      "",
      "Options:",
      interpreterLabel ++ inColumn interpreterLabel.length
        ("Runtime used to launch SERVER (e.g. `node`) " ++ shown),
      "  " ++ Terminal.bold "-v" ++ ", " ++ Terminal.bold "--verbose..." ++
        "                 Verbose logging to stderr (can be repeated: -v, -vv, -vvv)",
      "  -h, --help                       Print help",
      "  -V, --version                    Print version" ].map (· ++ "\n"))

def usageLine (given : List Switch) : String :=
  usage (String.join (given.map fun s => s.usage ++ " ") ++ serverUsage)

def choiceUsage (given : List Switch) : String :=
  usage (String.join (given.map fun s => s.usage ++ " ") ++
    "<" ++ "|".intercalate [serverName, interpreterUsage, Switch.verbose.usage] ++ ">")

namespace Refusal

def isMistake : Refusal → Bool
  | help _ => false
  | version => false
  | _ => true

/-- A mistake and the usage it goes against, if a usage line helps. -/
def mistake (text usage : String) : String :=
  "error: " ++ text ++ "\n" ++ (if usage = "" then "" else "\n" ++ usage) ++
    "\nFor more information, try '--help'.\n"

def styled : Refusal → String
  | help env => helpText env
  | version => versionText
  | missingServer given =>
    mistake ("the following required arguments were not provided:\n  " ++ serverUsage)
      (usageLine given)
  | missingInterpreter =>
    mistake ("a value is required for '" ++ interpreterUsage ++ "' but none was supplied") ""
  | repeatedInterpreter =>
    mistake ("the argument '" ++ interpreterUsage ++ "' cannot be used multiple times")
      anyUsage
  | unexpectedValue value s given =>
    mistake ("unexpected value '" ++ Terminal.bold value ++ "' for '" ++ s.usage ++
        "' found; no more were expected")
      (if given = [] then usageLine [s]
        else choiceUsage ([s].filter fun s => s = .help ∨ s = .version))

def message (r : Refusal) : String :=
  Terminal.plain r.styled

def printed (r : Refusal) : List UInt8 :=
  Terminal.streamed r.styled

end Refusal

end LspRelay.CommandLine
