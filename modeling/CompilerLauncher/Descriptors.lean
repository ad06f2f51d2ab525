/-!
A process's table of descriptors.

`Descriptors.install` puts two open files on the descriptors for output and errors. Each step
changes the table that the next step reads, so a file that already sits where another is to go is
first moved out of the way.
-/

namespace CompilerLauncher

/-- An open file, by its number among the system's open files, and whether the descriptor is closed
when the process replaces its image. -/
structure Descriptor where
  file : Nat
  closesOnReplace : Bool
  deriving DecidableEq, Repr

/-- The open descriptors of a process. An earlier entry of the list hides a later one. -/
abbrev Descriptors := List (Nat × Descriptor)

namespace Descriptors

/-- The descriptor for a program's output. -/
def output : Nat := 1

/-- The descriptor for a program's errors. -/
def errors : Nat := 2

/-- The table with a descriptor closed. -/
def close (table : Descriptors) (number : Nat) : Descriptors :=
  table.filter fun entry => entry.1 != number

/-- The table with a descriptor set. -/
def set (table : Descriptors) (number : Nat) (descriptor : Descriptor) : Descriptors :=
  (number, descriptor) :: table.close number

/-- The lowest number from the given one on that is not in use. Among one more numbers than the
table has entries there is always one. -/
def free (table : Descriptors) (least : Nat) : Nat :=
  (((List.range (table.length + 1)).map (least + ·)).find? fun number =>
    (table.lookup number).isNone).getD least

/-- Makes `target` refer to what `source` refers to, open when the image is replaced. -/
def duplicate (table : Descriptors) (source target : Nat) : Descriptors :=
  match table.lookup source with
  | some descriptor => table.set target { descriptor with closesOnReplace := false }
  | none => table

/-- Moves a descriptor to a number and keeps it open when the image is replaced. -/
def move (table : Descriptors) (source target : Nat) : Descriptors :=
  if source = target then table.duplicate source target
  else (table.duplicate source target).close source

/-- Puts the files on `out` and `err` on the two targets. What sits on the first target and is
wanted on the second is moved above both before. -/
def install (table : Descriptors) (out err outTarget errTarget : Nat) : Descriptors :=
  if err = outTarget then
    let spare := table.free (max outTarget errTarget + 1)
    ((table.duplicate err spare).move out outTarget).move spare errTarget
  else (table.move out outTarget).move err errTarget

/-- The table after the process has replaced its image. -/
def replaced (table : Descriptors) : Descriptors :=
  table.filter fun entry => !entry.2.closesOnReplace

end Descriptors

end CompilerLauncher
