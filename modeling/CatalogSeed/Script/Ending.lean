/-!
How programs end, and what they leave behind besides files.
-/

namespace CatalogSeed

/-- How a program ended. -/
inductive Exit
  | status (code : Nat)
  | signal (number : Nat)
  deriving DecidableEq

namespace Exit

/-- The signals that end a program, by number. -/
def signals : List (Nat × String) := [
  (1, "SIGHUP"), (2, "SIGINT"), (3, "SIGQUIT"), (4, "SIGILL"), (5, "SIGTRAP"), (6, "SIGABRT"),
  (7, "SIGBUS"), (8, "SIGFPE"), (9, "SIGKILL"), (10, "SIGUSR1"), (11, "SIGSEGV"), (12, "SIGUSR2"),
  (13, "SIGPIPE"), (14, "SIGALRM"), (15, "SIGTERM"), (16, "SIGSTKFLT"), (24, "SIGXCPU"),
  (25, "SIGXFSZ"), (26, "SIGVTALRM"), (27, "SIGPROF"), (29, "SIGIO"), (30, "SIGPWR"),
  (31, "SIGSYS")]

def describe : Exit → String
  | status code => "exit status: " ++ String.ofList (Nat.toDigits 10 code)
  | signal number =>
      "signal: " ++ String.ofList (Nat.toDigits 10 number) ++
        match signals.lookup number with
        | some name => " (" ++ name ++ ")"
        | none => ""

end Exit

/-- What a program left behind besides files. -/
structure Ending where
  exit : Exit
  output : List UInt8
  errors : List UInt8

end CatalogSeed
