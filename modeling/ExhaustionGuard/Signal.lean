/-!
# Signals

The signals that a process can send itself, with their names and numbers on Linux.
-/

namespace ExhaustionGuard

/-- A signal with a name and a number of its own. -/
inductive Signal where
  | hup | int | quit | ill | trap | abrt | bus | fpe | kill | usr1 | segv | usr2 | pipe | alrm
  | term | stkflt | chld | cont | stop | tstp | ttin | ttou | urg | xcpu | xfsz | vtalrm | prof
  | winch | io | pwr | sys
  deriving DecidableEq, Repr

namespace Signal

def number : Signal → Nat
  | hup => 1 | int => 2 | quit => 3 | ill => 4 | trap => 5 | abrt => 6 | bus => 7 | fpe => 8
  | kill => 9 | usr1 => 10 | segv => 11 | usr2 => 12 | pipe => 13 | alrm => 14 | term => 15
  | stkflt => 16 | chld => 17 | cont => 18 | stop => 19 | tstp => 20 | ttin => 21 | ttou => 22
  | urg => 23 | xcpu => 24 | xfsz => 25 | vtalrm => 26 | prof => 27 | winch => 28 | io => 29
  | pwr => 30 | sys => 31

def name : Signal → String
  | hup => "SIGHUP" | int => "SIGINT" | quit => "SIGQUIT" | ill => "SIGILL" | trap => "SIGTRAP"
  | abrt => "SIGABRT" | bus => "SIGBUS" | fpe => "SIGFPE" | kill => "SIGKILL"
  | usr1 => "SIGUSR1" | segv => "SIGSEGV" | usr2 => "SIGUSR2" | pipe => "SIGPIPE"
  | alrm => "SIGALRM" | term => "SIGTERM" | stkflt => "SIGSTKFLT" | chld => "SIGCHLD"
  | cont => "SIGCONT" | stop => "SIGSTOP" | tstp => "SIGTSTP" | ttin => "SIGTTIN"
  | ttou => "SIGTTOU" | urg => "SIGURG" | xcpu => "SIGXCPU" | xfsz => "SIGXFSZ"
  | vtalrm => "SIGVTALRM" | prof => "SIGPROF" | winch => "SIGWINCH" | io => "SIGIO"
  | pwr => "SIGPWR" | sys => "SIGSYS"

/-- Every signal, by ascending number. -/
def all : List Signal :=
  [hup, int, quit, ill, trap, abrt, bus, fpe, kill, usr1, segv, usr2, pipe, alrm, term, stkflt,
    chld, cont, stop, tstp, ttin, ttou, urg, xcpu, xfsz, vtalrm, prof, winch, io, pwr, sys]

def ofNumber? (n : Int) : Option Signal :=
  all.find? fun signal => (signal.number : Int) == n

def ofName? (text : String) : Option Signal :=
  all.find? fun signal => signal.name == text

/-- Whether a process that has not asked to handle a signal ends when it arrives. The others are
ignored, or stop or continue the process. -/
def endsProcess : Signal → Bool
  | chld | cont | stop | tstp | ttin | ttou | urg | winch => false
  | _ => true

/-- A signal is found again under its number. -/
theorem ofNumber?_number (signal : Signal) : ofNumber? signal.number = some signal := by
  cases signal <;> decide

/-- A signal is found again under its name. -/
theorem ofName?_name (signal : Signal) : ofName? signal.name = some signal := by
  cases signal <;> decide

end Signal

end ExhaustionGuard
