import QueryGate.Command.Basic
/-!
The command line: options that hold for every command, the command, and its own options. An option is followed by its
value, or by an equals sign and its value. What is not on the command line is taken from the environment.
-/
set_option autoImplicit false

namespace QueryGate.Command

/-- What a command line says. -/
structure Arguments where
  /-- The directory of the configuration. -/
  directory : String
  logFilter : String
  command : Invocation
deriving DecidableEq, Repr

namespace Arguments

/-- The variable with the directory of the configuration. -/
def directoryVariable : String := "STOREFRONT_CONFIGURATION_DIR"

/-- The variable with the log filter. -/
def logVariable : String := "STOREFRONT_LOG"

/-- The value of an option at the start of a command line, and what follows it. -/
def takeOption? (name : String) : List String → Option (String × List String)
  | [] => none
  | word :: rest =>
    if word = name then
      match rest with
      | value :: more => some (value, more)
      | [] => none
    else
      let start := (name ++ "=").toList
      if start.isPrefixOf word.toList then some (String.ofList (word.toList.drop start.length), rest) else none

/-- The source that a command takes its text from. -/
def source? : List String → Option Source
  | [] => some .input
  | words =>
    match takeOption? "--plan" words with
    | some (path, []) => some (.file path)
    | _ => none

/-- A command with its own options. -/
def command? : List String → Option Invocation
  | ["initialize"] => some (.setUp false)
  | ["initialize", "--force"] => some (.setUp true)
  | ["describe"] => some .describe
  | ["print-schema"] => some .schema
  | "compile" :: rest => (source? rest).map .compile
  | "query" :: rest => (source? rest).map .query
  | "explain" :: rest => (source? rest).map .explain
  | _ => none

/-- Reads a command line on which so much has been said already. -/
def readWords (directory logFilter : Option String) (environment : Settings.Environment) :
    Nat → List String → Option Arguments
  | 0, _ => none
  | fuel + 1, words =>
    match takeOption? "--context" words with
    | some (value, rest) =>
      if directory.isSome then none else readWords (some value) logFilter environment fuel rest
    | none =>
      match takeOption? "--log" words with
      | some (value, rest) =>
        if logFilter.isSome then none else readWords directory (some value) environment fuel rest
      | none =>
        let known := fun name => (environment.read name).toOption
        (command? words).map fun command =>
          ⟨(directory.or (known directoryVariable)).getD ".", (logFilter.or (known logVariable)).getD "warn", command⟩

/-- Reads a command line. An option takes at least one of its words, so their number bounds the reading. -/
def ofWords (environment : Settings.Environment) (words : List String) : Option Arguments :=
  readWords none none environment (words.length + 1) words

end Arguments

end QueryGate.Command
