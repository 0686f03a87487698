import ScopedViews.Style.Shell
/-!
# Commands

The commands that a style can be handed to.  A command is a program and its arguments; what it
prints is the style, unless it ends badly.  A program that is not known cannot be started.
-/

namespace ScopedViews.Command

open Style

/-- How a command ends. -/
inductive Ending where
  | exited (status : Nat)
  | killed (signal : Nat)
deriving Repr, DecidableEq

namespace Ending

def signalNames : List String :=
  ["SIGHUP", "SIGINT", "SIGQUIT", "SIGILL", "SIGTRAP", "SIGABRT", "SIGBUS", "SIGFPE", "SIGKILL",
    "SIGUSR1", "SIGSEGV", "SIGUSR2", "SIGPIPE", "SIGALRM", "SIGTERM"]

def text : Ending → String
  | exited n => "exit status: " ++ toString n
  | killed n =>
    "signal: " ++ toString n ++ (signalNames[n - 1]?.elim "" fun s => " (" ++ s ++ ")")

end Ending

/-- What a command leaves behind. -/
structure Result where
  ending : Ending
  output : List UInt8
  errors : List UInt8
deriving Repr, DecidableEq

def Result.ofOutcome (o : Outcome) : Result := ⟨.exited o.status, o.output, o.errors⟩

def Result.ofShell (s : Shell) : Result :=
  let ending :=
    match s.flow with
    | .killed n => .killed n
    | _ => .exited s.status
  ⟨ending, s.shown .output, s.shown .errors⟩

/-- The ways in which a program may not start. -/
inductive StartFault where
  | missing
  | forbidden
  | zeroByte
deriving Repr, DecidableEq

def StartFault.message : StartFault → String
  | missing => "No such file or directory (os error 2)"
  | forbidden => "Permission denied (os error 13)"
  | zeroByte => "nul byte found in provided data"

/-- Directories, which are no programs. -/
def directories : List String :=
  ["/", ".", "..", "/tmp", "/etc", "/bin", "/usr", "/usr/bin", "/dev"]

/-- Runs a program on an input. -/
def run (program : String) (arguments : List String) (input : List UInt8) :
    Except StartFault Result :=
  let isScript := ["sh", "/bin/sh", "dash", "/bin/dash", "/usr/bin/sh"].contains program
  if (program :: arguments).any fun a => a.toList.any fun c => c.toNat = 0 then .error .zeroByte
  else if directories.contains program then .error .forbidden
  else
    match isScript, arguments with
    | true, "-c" :: text :: rest =>
      .ok (.ofShell (Shell.ofText (rest.headD program) text (rest.drop 1) input))
    | true, ["-c"] =>
      .ok ⟨.exited 2, [], Program.bytesOf (program ++ ": 0: -c requires an argument\n")⟩
    | true, [] =>
      .ok (.ofShell (Shell.ofText program (Text.decodeLossy input) [] []))
    | true, file :: _ =>
      .ok ⟨.exited 2, [], Program.bytesOf (program ++ ": 0: cannot open " ++ file ++
        ": No such file\n")⟩
    | false, arguments =>
      match Shell.program? false program with
      | some run => .ok (.ofOutcome (run arguments input))
      | none => .error .missing

/-- What a command makes of a text, or what is said of its failure. -/
def apply (command : List String) (input : String) : Except String String :=
  match command with
  | [] => .error "empty compiler command"
  | program :: arguments =>
    let quoted := "\x60" ++ program ++ "\x60"
    match run program arguments (Program.bytesOf input) with
    | .error fault => .error ("failed to start " ++ quoted ++ ": " ++ fault.message)
    | .ok r =>
      if r.ending ≠ .exited 0 then
        .error (quoted ++ " exited with " ++ r.ending.text ++ ": " ++
          Text.trim (Text.decodeLossy r.errors))
      else
        match Text.decode ⟨r.output.toArray⟩ with
        | .ok text => .ok text
        | .error cause => .error (quoted ++ " produced invalid UTF-8: " ++ cause)

end ScopedViews.Command
