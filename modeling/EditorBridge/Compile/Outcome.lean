import EditorBridge.SystemError
import EditorBridge.Text.Utf8

/-!
# Outcomes of programs

What is left of a program that was started: how it ended and what it wrote, or why it could not be
started.
-/

namespace EditorBridge.Compile

open Text (Bytes)

/-- How a program ended. -/
inductive Status where
  /-- It exited with a code. -/
  | exited (code : Nat)
  /-- A signal ended it. -/
  | signaled (number : Nat)
deriving DecidableEq, Repr

/-- The signals by number. -/
def signalNames : List (Nat × String) :=
  [(1, "SIGHUP"), (2, "SIGINT"), (3, "SIGQUIT"), (4, "SIGILL"), (5, "SIGTRAP"), (6, "SIGABRT"),
    (7, "SIGBUS"), (8, "SIGFPE"), (9, "SIGKILL"), (10, "SIGUSR1"), (11, "SIGSEGV"),
    (12, "SIGUSR2"), (13, "SIGPIPE"), (14, "SIGALRM"), (15, "SIGTERM"), (16, "SIGSTKFLT"),
    (17, "SIGCHLD"), (18, "SIGCONT"), (19, "SIGSTOP"), (20, "SIGTSTP"), (21, "SIGTTIN"),
    (22, "SIGTTOU"), (23, "SIGURG"), (24, "SIGXCPU"), (25, "SIGXFSZ"), (26, "SIGVTALRM"),
    (27, "SIGPROF"), (28, "SIGWINCH"), (29, "SIGIO"), (30, "SIGPWR"), (31, "SIGSYS")]

/-- Whether the program ended well. -/
def Status.succeeded : Status → Bool
  | .exited code => code == 0
  | .signaled _ => false

/-- The words for a status. -/
def Status.message : Status → String
  | .exited code => "exit status: " ++ toString code
  | .signaled number =>
    "signal: " ++ toString number ++
      match signalNames.lookup number with
      | some name => " (" ++ name ++ ")"
      | none => ""

/-- What a program that ran has left. -/
structure Finished where
  /-- How it ended. -/
  status : Status
  /-- What it wrote to its output. -/
  stdout : Bytes
  /-- What it wrote to its error output. -/
  stderr : Bytes
deriving DecidableEq, Repr

/-- What came of an attempt to run a program. -/
abbrev Outcome := Except SystemError Finished

end EditorBridge.Compile
