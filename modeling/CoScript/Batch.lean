import CoScript.Files
import CoScript.Script

/-!
Batches: several script files turned into cooperative ones by workers that share the jobs.

A feeder gives the jobs to idle workers in order. A worker reads and transforms the file of its job and
then writes the result. A batch may be cancelled, after which the feeder gives out no more jobs once it
has noticed. What happens in which order is a schedule; the results come in the order of the jobs
whatever the schedule is.
-/
namespace CoScript.Batch

/-- A script file to transform. An empty output means the usual one for the input. -/
structure Job where
  input : Text
  output : Text := []
  deriving DecidableEq, Repr

/-- Why a job has no result. -/
inductive Failure where
  | read (path : Text) (f : FileFault)
  | script (f : Script.Failure)
  | write (path : Text) (f : FileFault)
  | cancelled

/-- What a message says about a failure. -/
def Failure.message : Failure → Text
  | read path f => txt "failed to read " ++ path ++ txt ": " ++ f.message
  | script f => f.summary
  | write path f => txt "failed to write " ++ path ++ txt ": " ++ f.message
  | cancelled => txt "context canceled"

/-- The outcome of a job: the file that was written, or else the one that was asked for. -/
structure Result where
  input : Text
  output : Text
  failure? : Option Failure := none

/-- What a worker is doing. -/
inductive Task where
  | idle
  | reading (job : Nat)
  | writing (job : Nat) (output code : Text)
  deriving DecidableEq, Repr

/-- How far a batch is. -/
structure Pool where
  workers : List Task
  /-- The first job that was not given to a worker. -/
  next : Nat := 0
  cancelled : Bool := false
  /-- Whether the feeder gives out no more jobs. -/
  stopped : Bool := false
  /-- The results of the jobs that ended, the latest first. -/
  results : List (Nat × Result) := []
  completed : Nat := 0
  failed : Nat := 0

/-- What can happen next. -/
inductive Event where
  /-- The next job is given to a worker. -/
  | give (worker : Nat)
  /-- A worker does the next part of its job. -/
  | advance (worker : Nat)
  | cancel
  /-- The feeder notices that the batch was cancelled. -/
  | stop
  deriving DecidableEq, Repr

/-- How scripts are transformed. -/
structure Settings where
  options : Cooperate.Options := .default
  indent : Text := Print.defaultIndent

namespace Pool

/-- The pool with a worker doing something else. -/
def assign (p : Pool) (worker : Nat) (task : Task) : Pool :=
  { p with workers := p.workers.set worker task }

/-- The pool after a worker ended a job. -/
def finish (p : Pool) (worker job : Nat) (r : Result) : Pool :=
  { p.assign worker .idle with
    results := (job, r) :: p.results
    completed := if r.failure?.isSome then p.completed else p.completed + 1
    failed := if r.failure?.isSome then p.failed + 1 else p.failed }

/-- Whether a batch is over: the feeder gives out no more jobs, and no worker is at one. -/
def isOver (jobs : List Job) (p : Pool) : Bool :=
  (p.stopped || jobs.length ≤ p.next) && p.workers.all (· = .idle)

/-- The results in the order of the jobs. A job that was not given out is cancelled. -/
def outcome (jobs : List Job) (p : Pool) : List Result :=
  jobs.mapIdx fun i job =>
    (p.results.lookup i).getD { input := job.input, output := job.output, failure? := some .cancelled }

/-- The number of jobs that failed or were never given out. -/
def failures (jobs : List Job) (p : Pool) : Nat :=
  p.failed + (jobs.length - p.next)

end Pool

variable {m : Type → Type} [Monad m] [Host m]

/-- The first part of a job: the file to write and what to write. -/
def prepare (s : Settings) (job : Job) : m (Except Failure (Text × Text)) := do
  match ← Host.readFile job.input with
  | .error f => return .error (.read job.input f)
  | .ok content =>
    match Script.transform s.options s.indent (.ofFile job.input content) with
    | .error f => return .error (.script f)
    | .ok code =>
      return .ok (if job.output.isEmpty then Script.outputPath job.input else job.output, code)

/-- A worker does the next part of its job. -/
def advance (s : Settings) (jobs : List Job) (p : Pool) (worker : Nat) : m Pool := do
  match p.workers[worker]? with
  | some (.reading i) =>
    let job := jobs.getD i { input := [] }
    match ← prepare s job with
    | .ok (output, code) => return p.assign worker (.writing i output code)
    | .error f => return p.finish worker i { input := job.input, output := job.output, failure? := some f }
  | some (.writing i output code) =>
    let job := jobs.getD i { input := [] }
    match ← Host.writeFile output code with
    | .ok () => return p.finish worker i { input := job.input, output := output }
    | .error f =>
      return p.finish worker i
        { input := job.input, output := job.output, failure? := some (.write output f) }
  | _ => return p

/-- What happens to a batch in an event. An event that cannot happen changes nothing. -/
def step (s : Settings) (jobs : List Job) (p : Pool) : Event → m Pool
  | .give worker =>
    if !p.stopped && p.next < jobs.length && p.workers[worker]? = some .idle then
      return { p.assign worker (.reading p.next) with next := p.next + 1 }
    else return p
  | .advance worker => advance s jobs p worker
  | .cancel => return { p with cancelled := true }
  | .stop => return { p with stopped := p.stopped || p.cancelled }

/-- The number of workers for a batch: the number asked for or else that of the processors, but not more
than there are jobs, and at least one. -/
def workerCount (asked : Int) (processors jobs : Nat) : Nat :=
  max 1 (min (if asked ≤ 0 then processors else asked.toNat) jobs)

/-- A batch at its start. -/
def start (workers : Nat) : Pool where
  workers := List.replicate workers .idle

/-- Runs a batch by a schedule. -/
def runBy (s : Settings) (jobs : List Job) (workers : Nat) (schedule : List Event) : m Pool :=
  schedule.foldlM (step s jobs) (start workers)

/-- The schedule in which one worker does all jobs in order. -/
def inOrder (jobs : List Job) : List Event :=
  jobs.flatMap fun _ => [.give 0, .advance 0, .advance 0]

/-- Runs a batch. -/
def run (s : Settings) (jobs : List Job) (workers : Nat) : m Pool :=
  runBy s jobs workers (inOrder jobs)

end CoScript.Batch
