/-!
Signals, masks and the guards that hold termination signals back.

A guard remembers the mask that it found, blocks the termination signals and, when it is dropped,
puts back what it remembered. Guards may be dropped in any order, and a second drop does nothing.
-/

namespace CompilerLauncher

/-- A signal, by its number. -/
abbrev Signal := Nat

namespace Signal

/-- The terminal is gone. -/
def hangup : Signal := 1

/-- The user asks to stop. -/
def interrupt : Signal := 2

/-- The user asks to stop and to leave an image behind. -/
def quit : Signal := 3

/-- Ends a process in any case. -/
def kill : Signal := 9

/-- Left to the programs' own use. -/
def user1 : Signal := 10

/-- A process has reached for memory that is not its own. -/
def segmentation : Signal := 11

/-- Nobody reads what a process writes. -/
def brokenPipe : Signal := 13

/-- Asks a process to end. -/
def terminate : Signal := 15

/-- A child has changed its state. -/
def child : Signal := 17

/-- Goes on after a stop. -/
def resume : Signal := 18

/-- Stops a process in any case. -/
def stop : Signal := 19

/-- The greatest number of a signal that is not a real-time signal. -/
def lastStandard : Signal := 31

/-- The standard signals in order of their numbers, by the names that commands use and in words. -/
def standard : List (String × String) :=
  [("HUP", "Hangup"), ("INT", "Interrupt"), ("QUIT", "Quit"), ("ILL", "Illegal instruction"),
    ("TRAP", "Trace/breakpoint trap"), ("ABRT", "Aborted"), ("BUS", "Bus error"),
    ("FPE", "Floating point exception"), ("KILL", "Killed"), ("USR1", "User defined signal 1"),
    ("SEGV", "Segmentation fault"), ("USR2", "User defined signal 2"), ("PIPE", "Broken pipe"),
    ("ALRM", "Alarm clock"), ("TERM", "Terminated"), ("16", "Stack fault"),
    ("CHLD", "Child exited"), ("CONT", "Continued"), ("STOP", "Stopped (signal)"),
    ("TSTP", "Stopped"), ("TTIN", "Stopped (tty input)"), ("TTOU", "Stopped (tty output)"),
    ("URG", "Urgent I/O condition"), ("XCPU", "CPU time limit exceeded"),
    ("XFSZ", "File size limit exceeded"), ("VTALRM", "Virtual timer expired"),
    ("PROF", "Profiling timer expired"), ("WINCH", "Window changed"), ("IO", "I/O possible"),
    ("PWR", "Power failure"), ("SYS", "Bad system call")]

/-- The first of the real-time signals that are free for use. -/
def firstRealTime : Signal := 34

/-- The greatest number of a signal. -/
def last : Signal := 64

/-- The name of a signal. The real-time signals are counted from their nearer end. -/
def name (signal : Signal) : String :=
  match standard[signal - 1]? with
  | some (name, _) => name
  | none =>
    if signal < firstRealTime then toString signal
    else if signal = firstRealTime then "RTMIN"
    else if signal = last then "RTMAX"
    else if signal < 50 then s!"RTMIN+{signal - firstRealTime}"
    else s!"RTMAX-{last - signal}"

/-- A signal in words. -/
def text (signal : Signal) : String :=
  match standard[signal - 1]? with
  | some (_, text) => text
  | none => s!"Real-time signal {signal - firstRealTime}"

/-- The signal of a name, which may be written in small letters. -/
def named? (written : String) : Option Signal :=
  ((List.range last).map (· + 1)).find? fun signal => name signal == written.map Char.toUpper

/-- The user asks to pause. -/
def pause : Signal := 20

/-- A process in the background has read from the terminal. -/
def backgroundRead : Signal := 21

/-- A process in the background has written to the terminal. -/
def backgroundWrite : Signal := 22

/-- Urgent data has come. -/
def urgent : Signal := 23

/-- The window has another size. -/
def window : Signal := 28

/-- The signals that are not noticed by a process that has not asked for them. -/
def unnoticed : List Signal := [child, resume, urgent, window]

/-- The signals that stop a process that has not asked for them. -/
def stopping : List Signal := [stop, pause, backgroundRead, backgroundWrite]

/-- The signals whose handlers consult the recorded pid. -/
def termination : List Signal := [interrupt, terminate, hangup, quit]

end Signal

/-- The signals that a thread holds back. -/
abbrev SignalMask := Signal → Bool

namespace SignalMask

/-- Nothing is held back. -/
def empty : SignalMask := fun _ => false

/-- Exactly the listed signals are held back. -/
def ofList (signals : List Signal) : SignalMask := fun signal => signals.contains signal

/-- The mask with the termination signals held back as well. -/
def guarded (mask : SignalMask) : SignalMask :=
  fun signal => mask signal || Signal.termination.contains signal

end SignalMask

/-- A thread's mask and its guards, oldest first. A guard that has been dropped remembers nothing.
-/
structure Guards where
  mask : SignalMask
  remembered : List (Option SignalMask) := []

namespace Guards

/-- Creates a guard. -/
def create (guards : Guards) : Guards :=
  { mask := guards.mask.guarded
    remembered := guards.remembered ++ [some guards.mask] }

/-- Drops the guard of the given number. -/
def drop (guards : Guards) (number : Nat) : Guards :=
  match guards.remembered[number]? with
  | some (some mask) => { mask, remembered := guards.remembered.set number none }
  | _ => guards

@[simp] theorem mask_create (guards : Guards) : guards.create.mask = guards.mask.guarded := rfl

end Guards

/-- Blocking the termination signals twice is blocking them once. -/
@[simp] theorem SignalMask.guarded_guarded (mask : SignalMask) :
    mask.guarded.guarded = mask.guarded := by
  funext signal
  simp [guarded]

end CompilerLauncher
