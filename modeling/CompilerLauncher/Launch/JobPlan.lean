/-!
How a child is placed in job objects.

A job that kills its members when its last handle closes keeps a child from outliving its launcher.
The launcher makes such a job for its child whenever it may: outside any job, or inside one that
lets members break away and does not itself kill them. The child then starts suspended, so that it
runs nothing before it is in its job.
-/

namespace CompilerLauncher

/-- Whether the child gets a job of its own, and how its process is created. -/
structure JobPlan where
  createsJob : Bool
  flags : UInt32
  deriving DecidableEq, Repr

namespace JobPlan

/-- A job with this limit kills its members when its last handle closes. -/
def killOnClose : UInt32 := 0x2000

/-- A job with this limit lets members break away if they ask for it. -/
def breakawayAllowed : UInt32 := 0x0800

/-- A job with this limit lets members break away unasked. -/
def silentBreakaway : UInt32 := 0x1000

/-- The limits of the job that the launcher makes. -/
def ownLimits : UInt32 := killOnClose ||| silentBreakaway

/-- The process starts suspended. -/
def suspended : UInt32 := 0x4

/-- The process breaks away from its creator's job. -/
def breaksAway : UInt32 := 0x01000000

/-- The placement of a child, from whether its launcher is in a job and that job's limits. -/
def choose (inJob : Bool) (limits : UInt32) : JobPlan :=
  if !inJob then ⟨true, suspended⟩
  else if limits &&& killOnClose = 0 ∧ limits &&& breakawayAllowed ≠ 0 then
    ⟨true, breaksAway ||| suspended⟩
  else ⟨false, 0⟩

/-- A child is created suspended exactly when it gets a job of its own. -/
theorem choose_suspended_iff (inJob : Bool) (limits : UInt32) :
    (choose inJob limits).flags &&& suspended ≠ 0 ↔
      (choose inJob limits).createsJob = true := by
  unfold choose
  split
  · decide
  · split <;> decide

end JobPlan

end CompilerLauncher
