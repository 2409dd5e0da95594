import GoSpecs.Fault
import GoSpecs.Text.Lossy

namespace GoSpecs

inductive Refusal where
  | notFound
  | notDirectory
  | isDirectory
  | nameTooLong
  | nulByte
  | nulInCommand
  | invalidText
  | listing (dir : Bytes) (refusal : Refusal)
  | other (message : String)
deriving DecidableEq

namespace Refusal

def message : Refusal → String
  | notFound => "No such file or directory (os error 2)"
  | notDirectory => "Not a directory (os error 20)"
  | isDirectory => "Is a directory (os error 21)"
  | nameTooLong => "File name too long (os error 36)"
  | nulByte => "file name contained an unexpected NUL byte"
  | nulInCommand => "nul byte found in provided data"
  | invalidText => "stream did not contain valid UTF-8"
  | listing dir refusal => "IO error for operation on " ++ Text.lossy dir ++ ": " ++ refusal.message
  | other message => message

end Refusal

inductive Ending where
  | exit (status : Nat)
  | signal (number : Nat)
deriving DecidableEq

namespace Ending

def signals : List String :=
  ["HUP", "INT", "QUIT", "ILL", "TRAP", "ABRT", "BUS", "FPE", "KILL", "USR1", "SEGV", "USR2",
    "PIPE", "ALRM", "TERM", "STKFLT", "CHLD", "CONT", "STOP", "TSTP", "TTIN", "TTOU", "URG", "XCPU",
    "XFSZ", "VTALRM", "PROF", "WINCH", "IO", "PWR", "SYS"]

def signalName? (number : Nat) : Option String :=
  if number = 0 then none else signals[number - 1]?

def isSuccess (ending : Ending) : Bool :=
  ending == .exit 0

def describe : Ending → String
  | exit status => "exit status: " ++ toString status
  | signal number =>
    match signalName? number with
    | some name => "signal: " ++ toString number ++ " (SIG" ++ name ++ ")"
    | none => "signal: " ++ toString number

end Ending

inductive SuiteError where
  | spawn (command : String) (dir : Bytes) (refusal : Refusal)
  | failed (command : String) (dir : Bytes) (ending : Ending) (stdout stderr : String)
  | write (path : Bytes) (refusal : Refusal)
deriving DecidableEq

namespace SuiteError

def message : SuiteError → String
  | spawn command dir refusal =>
    "failed to run `" ++ command ++ "` in " ++ Text.lossy dir ++ ": " ++ refusal.message
  | failed command dir ending stdout stderr =>
    "`" ++ command ++ "` failed in " ++ Text.lossy dir ++ " (" ++ ending.describe ++ "):\n" ++
      stdout ++ stderr
  | write path refusal => "failed to write " ++ Text.lossy path ++ ": " ++ refusal.message

end SuiteError

inductive Error where
  | source (fault : Fault)
  | inFile (path : Bytes) (fault : Fault)
  | unresolved (message : String)
  | suite (error : SuiteError)
  | file (path : Bytes) (refusal : Refusal)
deriving DecidableEq

namespace Error

def message : Error → String
  | source fault => fault.message
  | inFile path fault => Text.lossy path ++ ": " ++ fault.message
  | unresolved message => "Resolution error: " ++ message
  | suite error => error.message
  | file path refusal => "IO error on " ++ Text.lossy path ++ ": " ++ refusal.message

def detail : Error → String
  | source fault => fault.detail
  | inFile _ fault => fault.detail
  | unresolved message => message
  | suite error => error.message
  | file path refusal => "IO error on " ++ Text.lossy path ++ ": " ++ refusal.message

def span? : Error → Option Span
  | source fault => fault.span?
  | inFile _ fault => fault.span?
  | _ => none

def within (path : Bytes) : Error → Error
  | source fault => inFile path fault
  | error => error

end Error

end GoSpecs
