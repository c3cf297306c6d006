import EventLog.Text.Quoted

/-!
Errors as reports: a kind, a message, context in the order it was gathered, and causes. Every report
of the library is built here or from the builders here, and written in one of three ways.
-/
namespace EventLog

inductive ErrorKind where
  | unterminatedPlaceholder
  | missingArgument
  | unsupportedFormatOperation
  | unknownMacro
  | noBackendFound
  | ambiguousBackend
  | duplicateMacro
  | invalidMacroName
  | invalidOutputDirectory
  | invalidLevel
  | alreadyInitialized
  | io
  | pipelineClosed
  deriving DecidableEq, Repr, Inhabited

namespace ErrorKind

/-- Every kind, template defects first. -/
def all : List ErrorKind :=
  [unterminatedPlaceholder, missingArgument, unsupportedFormatOperation, unknownMacro,
    noBackendFound, ambiguousBackend, duplicateMacro, invalidMacroName, invalidOutputDirectory,
    invalidLevel, alreadyInitialized, io, pipelineClosed]

def name : ErrorKind → String
  | unterminatedPlaceholder => "UnterminatedPlaceholder"
  | missingArgument => "MissingArgument"
  | unsupportedFormatOperation => "UnsupportedFormatOperation"
  | unknownMacro => "UnknownMacro"
  | noBackendFound => "NoBackendFound"
  | ambiguousBackend => "AmbiguousBackend"
  | duplicateMacro => "DuplicateMacro"
  | invalidMacroName => "InvalidMacroName"
  | invalidOutputDirectory => "InvalidOutputDirectory"
  | invalidLevel => "InvalidLevel"
  | alreadyInitialized => "AlreadyInitialized"
  | io => "Io"
  | pipelineClosed => "PipelineClosed"

end ErrorKind

/-- Why the system refused something. -/
inductive Fault where
  | missing
  | taken
  | notDirectory
  | isDirectory
  | fileTooLarge
  | nameTooLong
  | linkLoop
  | nulInName
  | emptyPath
  | device (text : String)
  deriving DecidableEq, Repr

def Fault.text : Fault → String
  | missing => "No such file or directory (os error 2)"
  | taken => "File exists (os error 17)"
  | notDirectory => "Not a directory (os error 20)"
  | isDirectory => "Is a directory (os error 21)"
  | fileTooLarge => "File too large (os error 27)"
  | nameTooLong => "File name too long (os error 36)"
  | linkLoop => "Too many levels of symbolic links (os error 40)"
  | nulInName => "file name contained an unexpected NUL byte"
  | emptyPath => "cannot make an empty path absolute"
  | device text => text

/-- What led to an error: its text, then the texts of what led to it in turn. -/
structure Cause where
  text : String
  because : List String := []
  deriving DecidableEq, Repr

structure Error where
  kind : ErrorKind
  message : String
  context : List (String × String) := []
  sources : List Cause := []
  deriving DecidableEq, Repr

namespace Error

def withContext (e : Error) (key value : String) : Error :=
  { e with context := e.context ++ [(key, value)] }

def withSource (e : Error) (cause : Cause) : Error := { e with sources := e.sources ++ [cause] }

/-- The value of the first context entry with a key. -/
def context? (e : Error) (key : String) : Option String := e.context.lookup key

def ofFault (fault : Fault) : Error :=
  { kind := .io, message := "failed to perform io", sources := [⟨fault.text, []⟩] }

private def entryTexts (e : Error) : List String := e.context.map fun (k, v) => k ++ ": " ++ v

/-- A report on one line: kind and message, then the context, then the causes, each if there are
any. -/
def display (e : Error) : String :=
  let context :=
    if e.context.isEmpty then ""
    else ", context: \x7b " ++ ", ".intercalate (entryTexts e) ++ " \x7d"
  let sources :=
    if e.sources.isEmpty then ""
    else ", sources: [" ++ ", ".intercalate (e.sources.map (·.text)) ++ "]"
  e.kind.name ++ " => " ++ e.message ++ context ++ sources

/-- The report as what led to another: its first cause stands for all of them. -/
def asCause (e : Error) : Cause :=
  { text := e.display
    because := match e.sources with
      | first :: _ => first.text :: first.because
      | [] => [] }

/-- A report on several lines, every cause with what led to it. -/
def paragraph (e : Error) : String :=
  let context :=
    if e.context.isEmpty then ""
    else "\nContext:\n" ++ "".intercalate ((entryTexts e).map fun t => "   " ++ t ++ "\n")
  let line (c : Cause) : String := "   " ++ ": ".intercalate (c.text :: c.because) ++ "\n"
  let sources :=
    if e.sources.isEmpty then ""
    else "\nSources:\n" ++ "".intercalate (e.sources.map line)
  e.kind.name ++ " => " ++ e.message ++ "\n" ++ context ++ sources

private def quotedText (s : String) : String := String.ofList (Text.quoted s.toList)

def outline (e : Error) : String :=
  let entry (kv : String × String) : String :=
    "        (\n            " ++ quotedText kv.1 ++ ",\n            " ++ quotedText kv.2
      ++ ",\n        ),\n"
  let context :=
    if e.context.isEmpty then "[]"
    else "[\n" ++ "".intercalate (e.context.map entry) ++ "    ]"
  "Error \x7b\n    kind: " ++ e.kind.name ++ ",\n    message: " ++ quotedText e.message
    ++ ",\n    context: " ++ context ++ ",\n    sources: [],\n\x7d"

end Error

end EventLog
