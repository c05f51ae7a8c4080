import OverlayGateway.Environment
import OverlayGateway.Text.Similarity
import OverlayGateway.Text.Terminal
/-!
The command line: one option, which an environment variable can stand in for, and a command that is
`run` unless it is named. Whoever asks for help or for the version gets a text instead; whoever
writes something else is told what is wrong with the first argument that is. The texts have codes
for terminals in them, which are taken out unless the environment insists on them.
-/

set_option autoImplicit false
set_option relaxedAutoImplicit false

namespace OverlayGateway.CommandLine

inductive Command where
  /-- Serves until it is told to stop. -/
  | run
  /-- Waits for the overlay address and prints it. -/
  | locate
  deriving DecidableEq, Repr

structure Options where
  inCluster : Option Bool := none
  command : Command := .run
  deriving DecidableEq, Repr

/-- What there is help about. -/
inductive Topic where
  | program
  | command (command : Command)
  | help
  deriving DecidableEq, Repr

/-- Why there are no options in some arguments. -/
inductive Fault where
  /-- The option stands without a value. -/
  | noValue
  | badValue (value : String)
  /-- The option is given twice. -/
  | repeated
  | unexpected (argument : String) (topic : Topic)
  /-- A flag that there is not, by its name; the option may have been given before it. -/
  | unknownFlag (name : String) (optionGiven : Bool) (topic : Topic)
  /-- A value for a flag that takes none; the option may have been given before it. -/
  | needlessValue (flag value : String) (optionGiven : Bool) (topic : Topic)
  | unknownCommand (name : String)
  /-- Help about something that there is not. -/
  | unknownTopic (name : String) (topic : Topic)
  /-- Two dashes in front of a command. -/
  | needlessDashes (command : String)
  deriving DecidableEq, Repr

/-- What is printed instead of doing something. -/
inductive Stop where
  | help (topic : Topic)
  | version
  | fault (fault : Fault)
  deriving DecidableEq, Repr

def programName : String := "netmaker-k8s-proxy"

def versionText : String := programName ++ " 0.1.0"

def optionVariable : String := "IN_CLUSTER"

def optionName : String := "in-cluster"

/-- The option with a name for its value. -/
def optionText : String := "--" ++ optionName ++ " <" ++ optionVariable ++ ">"

def values : List String := ["true", "false"]

/-- A list of the values that the option takes, each of them shown in some way. -/
def possibleValues (shown : String → String) : String :=
  "[possible values: " ++ ", ".intercalate (values.map shown) ++ "]"

namespace Command

def name : Command → String
  | .run => "run"
  | .locate => "locate"

def about : Command → String
  | .run => "Run the proxy and management API (default)"
  | .locate => "Wait for the overlay interface and print its IPv4 address"

def all : List Command := [.run, .locate]

def ofName? (name : String) : Option Command := all.find? fun command ↦ command.name = name

end Command

def aboutHelp : String := "Print this message or the help of the given subcommand(s)"

namespace Topic

/-- The words that lead to a topic. -/
def path : Topic → String
  | .program => programName
  | .command chosen => programName ++ " " ++ chosen.name
  | .help => programName ++ " help"

/-- What may follow the words that lead to a topic. -/
def tail : Topic → String
  | .program => " [OPTIONS] [COMMAND]"
  | .command _ => ""
  | .help => " [COMMAND]..."

/-- The long names of the flags there. -/
def flags : Topic → List String
  | .program => [optionName, "help", "version"]
  | .command _ | .help => ["help"]

/-- The commands there. -/
def commands : Topic → List String
  | .program => Command.all.map Command.name ++ ["help"]
  | .command _ | .help => []

end Topic

/-- How something is used: the words that lead to it, and what follows them. -/
def usage (topic : Topic) (rest : String) : String :=
  Text.Accent.title.mark "Usage:" ++ " " ++ Text.Accent.literal.mark topic.path ++ rest

def usageLine (topic : Topic) : String := usage topic topic.tail

/-- The flag with a name for its value, if it takes one. -/
def flagUsage (name : String) : String :=
  Text.Accent.literal.mark ("--" ++ name) ++
    (if name = optionName then " <" ++ optionVariable ++ ">" else "")

/-- How some flags are used; without any, how the topic is. -/
def flagsLine (topic : Topic) : List String → String
  | [] => usageLine topic
  | flags => usage topic (String.join (flags.eraseDups.map fun name ↦ " " ++ flagUsage name))

/-- So many blanks. -/
def blanks (n : Nat) : String := String.ofList (List.replicate n ' ')

/-- How far the texts about the options are indented. -/
def aboutColumn : Nat := 33

/-- What is said about the option, with the value of its variable, the lines of which are
indented. -/
def optionAbout (variableValue : String) : String :=
  "Use in-cluster service account credentials (detected from the pod environment when unset) [env: " ++
    optionVariable ++ "=" ++
    ("\n" ++ blanks aboutColumn).intercalate (Text.split '\n' variableValue) ++ "] " ++
    possibleValues id

/-- A line about a command. -/
def commandRow (name about : String) : String :=
  "  " ++ Text.Accent.literal.mark name ++ blanks (8 - name.length) ++ about

/-- A line about a flag with a letter, its text at some column. -/
def flagRow (column : Nat) (letter : Char) (name about : String) : String :=
  "  " ++ Text.Accent.literal.mark (String.ofList ['-', letter]) ++ ", " ++ flagUsage name ++
    blanks (column - name.length - 8) ++ about

/-- The help about a topic; the option is shown with what the environment says. -/
def helpText (variableValue : String) : Topic → String
  | .program =>
    "\n".intercalate
      (["Kubernetes API proxy for Netmaker overlay networks", "", usageLine .program, "",
          Text.Accent.title.mark "Commands:"] ++
        Command.all.map (fun command ↦ commandRow command.name command.about) ++
        [commandRow "help" aboutHelp, "", Text.Accent.title.mark "Options:",
          blanks 6 ++ flagUsage optionName ++ "  " ++ optionAbout variableValue,
          flagRow aboutColumn 'h' "help" "Print help",
          flagRow aboutColumn 'V' "version" "Print version", ""])
  | .command command =>
    "\n".intercalate
      [command.about, "", usageLine (.command command), "", Text.Accent.title.mark "Options:",
        flagRow 14 'h' "help" "Print help", ""]
  | .help =>
    "\n".intercalate
      [aboutHelp, "", usageLine .help, "", Text.Accent.title.mark "Arguments:",
        "  [COMMAND]...  Print help for the subcommand(s)", ""]

/-- A text in quotes that stands out. -/
def quoted (accent : Text.Accent) (s : String) : String := "'" ++ accent.mark s ++ "'"

/-- The text that is most similar to what was written, if one is similar. -/
def mostSimilar? (written : String) (texts : List String) : Option String :=
  (Text.similar written texts).getLast?

/-- A hint on a line of its own. -/
def tip (text : String) : String := "\n\n  " ++ Text.Accent.right.mark "tip:" ++ " " ++ text

/-- A hint at what may have been meant. -/
def hint (what : String) : List String → String
  | [] => ""
  | [text] => tip ("a similar " ++ what ++ " exists: " ++ quoted .right text)
  | texts =>
    tip ("some similar " ++ what ++ "s exist: " ++ ", ".intercalate (texts.map (quoted .right)))

namespace Fault

/-- What is wrong, and how it is done right. -/
def text : Fault → String
  | .noValue =>
    "a value is required for " ++ quoted .wrong optionText ++ " but none was supplied\n  " ++
      possibleValues Text.Accent.right.mark
  | .badValue value =>
    "invalid value " ++ quoted .wrong value ++ " for " ++ quoted .literal optionText ++ "\n  " ++
      possibleValues Text.Accent.right.mark ++ hint "value" (mostSimilar? value values).toList
  | .repeated =>
    "the argument " ++ quoted .wrong optionText ++ " cannot be used multiple times\n\n" ++
      usageLine .program
  | .unexpected argument topic =>
    "unexpected argument " ++ quoted .wrong argument ++ " found\n\n" ++ usageLine topic
  | .unknownFlag name optionGiven topic =>
    let meant := (mostSimilar? name topic.flags).toList
    "unexpected argument " ++ quoted .wrong ("--" ++ name) ++ " found" ++
      hint "argument" (meant.map fun flag ↦ "--" ++ flag) ++ "\n\n" ++
      flagsLine topic ((if optionGiven then [optionName] else []) ++ meant)
  | .needlessValue flag value optionGiven topic =>
    "unexpected value " ++ quoted .wrong value ++ " for " ++ quoted .literal ("--" ++ flag) ++
      " found; no more were expected\n\n" ++
      flagsLine topic ((if optionGiven then [optionName] else []) ++ [flag])
  | .unknownCommand name =>
    "unrecognized subcommand " ++ quoted .wrong name ++
      hint "subcommand" (Text.similar name (Topic.commands .program)) ++ "\n\n" ++ usageLine .program
  | .unknownTopic name topic =>
    "unrecognized subcommand " ++ quoted .wrong name ++ "\n\n" ++ usageLine topic
  | .needlessDashes command =>
    "unexpected argument " ++ quoted .wrong command ++ " found" ++
      tip ("subcommand " ++ quoted .right command ++ " exists; to use it, remove the " ++
        quoted .wrong "--" ++ " before it") ++ "\n\n" ++ usageLine .program

def message (fault : Fault) : String :=
  Text.Accent.alarm.mark "error:" ++ " " ++ fault.text ++ "\n\nFor more information, try " ++
    quoted .literal "--help" ++ ".\n"

end Fault

/-- Whether an environment insists on codes for terminals, and nothing in it speaks against them. -/
def isAccented (env : Environment) : Bool :=
  (env.nonEmpty? "NO_COLOR").isNone && (env.value? "CLICOLOR_FORCE").any (· ≠ "0")

/-- A text as it is shown in an environment. -/
def shownIn (env : Environment) (s : String) : String :=
  if isAccented env then s else Text.shown s

/-- The value of the option. -/
def readValue (value : String) : Except Stop Bool :=
  if value = "true" then .ok true
  else if value = "false" then .ok false
  else if value = "" then .error (.fault .noValue)
  else .error (.fault (.badValue value))

/-- What was read of the option: the value that counts, and one that is still to be looked at. -/
structure Given where
  value : Option Bool := none
  pending : Option String := none
  deriving DecidableEq, Repr

/-- Looks at the pending value. -/
def Given.settle (given : Given) : Except Stop Given :=
  match given.pending, given.value with
  | none, _ => .ok given
  | some _, some _ => .error (.fault .repeated)
  | some written, none => (readValue written).map fun value ↦ { value := some value }

/-- Whether the option counts as given for what is written next: it does unless it is given
twice. -/
def Given.isNoted (given : Given) : Bool := given.value.isSome != given.pending.isSome

/-- How an argument is written. -/
inductive Form where
  /-- Two dashes alone. -/
  | dashes
  | long (name : String) (value : Option String)
  /-- A dash with letters. -/
  | short (letter : Char)
  | plain
  deriving DecidableEq, Repr

def formOf (argument : String) : Form :=
  match argument.toList with
  | ['-', '-'] => .dashes
  | '-' :: '-' :: cs =>
    let name := cs.takeWhile (· ≠ '=')
    .long (String.ofList name)
      (if name.length = cs.length then none else some (String.ofList (cs.drop (name.length + 1))))
  | '-' :: c :: _ => .short c
  | _ => .plain

/-- The arguments behind a command, which takes none. -/
def checkCommand (command : Command) : List String → Except Stop Unit
  | [] => .ok ()
  | argument :: arguments =>
    let topic := Topic.command command
    match formOf argument with
    | .dashes =>
      match arguments with
      | [] => .ok ()
      | argument :: _ => .error (.fault (.unexpected argument topic))
    | .long "help" none => .error (.help topic)
    | .long "help" (some value) => .error (.fault (.needlessValue "help" value false topic))
    | .long name _ => .error (.fault (.unknownFlag name false topic))
    | .short 'h' => .error (.help topic)
    | .short letter => .error (.fault (.unexpected (String.ofList ['-', letter]) topic))
    | .plain => .error (.fault (.unexpected argument topic))

/-- The arguments behind `help`. -/
def readHelp : List String → Stop
  | [] => .help .program
  | name :: rest =>
    let topic? := if name = "help" then some Topic.help else (Command.ofName? name).map .command
    match topic?, rest with
    | none, _ => .fault (.unknownTopic name .program)
    | some topic, [] => .help topic
    | some topic, extra :: _ => .fault (.unknownTopic extra topic)

/-- The fault of a name behind two dashes, where no command may stand. -/
def faultBehindDashes (name : String) : Fault :=
  if (Topic.commands .program).contains name then .needlessDashes name else .unknownCommand name

/-- The fault of a flag in place of the value of the option. -/
def faultOfFlag (given : Given) (name : String) (value : Option String) : Fault :=
  if (Topic.flags .program).contains name then
    match value with
    | some value =>
      if name = optionName then .noValue else .needlessValue name value given.isNoted .program
    | none => .noValue
  else .unknownFlag name given.isNoted .program

/-- The fault of the arguments behind the option if the first of them is no value. -/
def faultWithoutValue (given : Given) : List String → Fault
  | [] => .noValue
  | argument :: arguments =>
    match formOf argument with
    | .long name value => faultOfFlag given name value
    | .short letter =>
      if letter = 'h' ∨ letter = 'V' then .noValue
      else .unexpected (String.ofList ['-', letter]) .program
    | .dashes => (arguments.head?.map faultBehindDashes).getD .noValue
    | .plain => .noValue

/-- The text to show for a flag that asks for it. -/
def stopAt (given : Given) (flag : String) (stop : Stop) : Option String → Except Stop Stop
  | some value => .error (.fault (.needlessValue flag value given.value.isSome .program))
  | none => given.settle.map fun _ ↦ stop

/-- Reads arguments behind those that gave the option so far. -/
def readFrom (given : Given) : List String → Except Stop (Given × Command)
  | [] => do return (← given.settle, .run)
  | argument :: arguments =>
    match formOf argument with
    | .dashes =>
      match arguments with
      | [] => do return (← given.settle, .run)
      | name :: _ => .error (.fault (faultBehindDashes name))
    | .long name value =>
      if name = optionName then
        match value with
        | some value => do
          let given ← given.settle
          let given ← { given with pending := some value }.settle
          readFrom given arguments
        | none =>
          match arguments with
          | [] => do
            let _ ← given.settle
            throw (.fault .noValue)
          | value :: rest => do
            let given ← given.settle
            if formOf value = .plain then readFrom { given with pending := some value } rest
            else throw (.fault (faultWithoutValue given (value :: rest)))
      else if name = "help" then do throw (← stopAt given name (.help .program) value)
      else if name = "version" then do throw (← stopAt given name .version value)
      else .error (.fault (.unknownFlag name given.isNoted .program))
    | .short 'h' => do throw (← stopAt given "help" (.help .program) none)
    | .short 'V' => do throw (← stopAt given "version" .version none)
    | .short letter => .error (.fault (.unexpected (String.ofList ['-', letter]) .program))
    | .plain =>
      if argument = "help" then .error (readHelp arguments)
      else
        match Command.ofName? argument with
        | none => .error (.fault (.unknownCommand argument))
        | some command => do
          checkCommand command arguments
          return (← given.settle, command)

/-- The options in some arguments; the environment counts where the arguments say nothing. -/
def read (env : Environment) (arguments : List String) : Except Stop Options := do
  let (given, command) ← readFrom {} arguments
  match given.value, env.value? optionVariable with
  | some value, _ => return { inCluster := some value, command }
  | none, some written => return { inCluster := some (← readValue written), command }
  | none, none => return { command }

end OverlayGateway.CommandLine
