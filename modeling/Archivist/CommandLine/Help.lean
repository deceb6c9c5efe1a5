import Archivist.CommandLine.Arguments

set_option autoImplicit false

namespace Archivist.CommandLine

def Command.name : Command → String
  | .run => "run"
  | .once => "once"

def Command.summary : Command → String
  | .run => "🔄 Run archive cycles on a fixed delay until Ctrl-C"
  | .once => "🎯 Run exactly one archive cycle and print the scoreboard"

def versionText : String := "arx-cli 0.1.0\n"

namespace Help

def option (name line : String) : String := "  " ++ name ++ "\n          " ++ line ++ "\n"

def configOption : String :=
  option "-c, --config <CONFIG>"
    "📋 TOML config file. If it isn't there, ARX_* env vars and defaults carry the day [default: arx.toml]"

def formOption : String :=
  option "    --metrics-format <METRICS_FORMAT>"
    "🖨️ How the final scoreboard is printed. `prometheus` emits text exposition [default: table] [possible values: table, prometheus]"

def helpOption : String := option "-h, --help" "Print help"

def versionOption : String := option "-V, --version" "Print version"

def helpSummary : String := "Print this message or the help of the given subcommand(s)"

/-- A subject, how it is used, and whatever else there is to say. -/
def page (summary usage : String) (sections : List String) : String :=
  "\n".intercalate ((summary ++ "\n") :: ("Usage: arx-cli " ++ usage ++ "\n") :: sections)

/-- The options of the program or a command under their title. -/
def options (entries : List String) : String := "Options:\n" ++ String.join entries

def commands : String :=
  "Commands:\n  run   " ++ Command.summary .run ++ "\n  once  " ++ Command.summary .once
    ++ "\n  help  " ++ helpSummary ++ "\n"

end Help

def Subject.helpText : Subject → String
  | .program =>
    Help.page "Moves finished workflow instances from live indices into dated archive indices"
      "[OPTIONS] <COMMAND>"
      [Help.commands,
        Help.options
          [Help.configOption, Help.formOption, Help.helpOption, Help.versionOption]]
  | .command named =>
    Help.page named.summary (named.name ++ " [OPTIONS]")
      [Help.options [Help.formOption, Help.helpOption]]
  | .help =>
    Help.page Help.helpSummary "help [COMMAND]..."
      ["Arguments:\n  [COMMAND]...  Print help for the subcommand(s)\n"]

/-- What is told instead of performing anything: a text and an exit code. -/
def Aside.text : Aside → String
  | .help subject => subject.helpText
  | .version => versionText
  | .misuse => ""

def Aside.exitCode : Aside → Nat
  | .help _ | .version => 0
  | .misuse => 2

end Archivist.CommandLine
