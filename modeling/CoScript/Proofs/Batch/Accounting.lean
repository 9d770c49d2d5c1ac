import Mathlib.Data.List.Perm.Basic
import Mathlib.Data.List.Range
import CoScript.Batch

/-!
What a batch does, whatever the schedule is. The file operations of a run are recorded and told apart by
the job they are made for. When the batch is over, each job that was given out was served once, each
other job is cancelled without having touched a file, and the counters agree with the results.

The invariant says of every job where it is: waiting, with one worker, or done.
-/
namespace CoScript

/-! Recording. -/

/-- A file operation and what came of it. -/
inductive Call where
  | read (path : Text) (answer : Except FileFault Text)
  | write (path content : Text) (answer : Except FileFault Unit)

/-- A world with the file operations that were made in it, the latest last. -/
structure Recorded where
  world : World
  calls : List Call := []

namespace Recorded

/-- Makes a file operation and records it. -/
def record {α : Type} (call : α → Call) (operation : StateM World α) : StateM Recorded α := fun r =>
  let (answer, world) := operation r.world
  (answer, ⟨world, r.calls ++ [call answer]⟩)

instance : Host (StateM Recorded) where
  readFile path := record (.read path) (Host.readFile path)
  writeFile path content := record (.write path content) (Host.writeFile path content)
  isThere path := fun r => (r.world.disk.contains path, r)
  standardInput := fun r => (r.world.input, r)

end Recorded

/-- What a file operation does to a disk: reading leaves it alone, and so does writing that fails. -/
inductive Call.Turns : Call → Disk → Disk → Prop
  | read {path : Text} {d : Disk} : Turns (.read path (d.read path)) d d
  | failed {path content : Text} {d : Disk} {f : FileFault} (h : d.write path content = .error f) :
      Turns (.write path content (.error f)) d d
  | written {path content : Text} {d d' : Disk} (h : d.write path content = .ok d') :
      Turns (.write path content (.ok ())) d d'

/-- File operations that lead from one disk to another. -/
inductive Call.Lead : List Call → Disk → Disk → Prop
  | nil {d : Disk} : Lead [] d d
  | snoc {calls : List Call} {call : Call} {d d' d'' : Disk} (before : Lead calls d d')
      (last : call.Turns d' d'') : Lead (calls ++ [call]) d d''

namespace Batch

/-- The file that the result of a job is written to. -/
def Job.target (job : Job) : Text :=
  if job.output.isEmpty then Script.outputPath job.input else job.output

/-- The script of a job, made cooperative. -/
def Job.transform (s : Settings) (job : Job) (content : Text) : Except Script.Failure Text :=
  Script.transform s.options s.indent (.ofFile job.input content)

/-- What it means that a job is served: which file operations are made for it, and what its result is.
Nothing is written unless the script could be read and transformed. -/
inductive Served (s : Settings) (job : Job) : List Call → Result → Prop
  | unread {f : FileFault} :
      Served s job [.read job.input (.error f)] ⟨job.input, job.output, some (.read job.input f)⟩
  | refused {content : Text} {f : Script.Failure} (h : job.transform s content = .error f) :
      Served s job [.read job.input (.ok content)] ⟨job.input, job.output, some (.script f)⟩
  | unwritten {content code : Text} {f : FileFault} (h : job.transform s content = .ok code) :
      Served s job [.read job.input (.ok content), .write job.target code (.error f)]
        ⟨job.input, job.output, some (.write job.target f)⟩
  | written {content code : Text} (h : job.transform s content = .ok code) :
      Served s job [.read job.input (.ok content), .write job.target code (.ok ())]
        ⟨job.input, job.target, none⟩

theorem Served.input {s : Settings} {job : Job} {calls : List Call} {r : Result}
    (h : Served s job calls r) : r.input = job.input := by
  cases h <;> rfl

/-! Calls and the jobs they are made for. -/

/-- The calls that are made for a job. -/
def callsFor (i : Nat) (ledger : List (Nat × Call)) : List Call :=
  (ledger.filter (·.1 == i)).map Prod.snd

@[simp] theorem callsFor_append_self (i : Nat) (ledger : List (Nat × Call)) (call : Call) :
    callsFor i (ledger ++ [(i, call)]) = callsFor i ledger ++ [call] := by
  simp [callsFor]

theorem callsFor_append_of_ne {i j : Nat} (h : j ≠ i) (ledger : List (Nat × Call)) (call : Call) :
    callsFor j (ledger ++ [(i, call)]) = callsFor j ledger := by
  simp [callsFor, h.symm]

/-- The job that a worker is at. -/
def Task.job? : Task → Option Nat
  | .idle => none
  | .reading i | .writing i _ _ => some i

/-- What was done so far for the job that a worker is at. -/
def Underway (s : Settings) (jobs : List Job) (ledger : List (Nat × Call)) : Task → Prop
  | .idle => True
  | .reading i => i < jobs.length ∧ callsFor i ledger = []
  | .writing i output code => ∃ job content, jobs[i]? = some job ∧ output = job.target ∧
      job.transform s content = .ok code ∧ callsFor i ledger = [.read job.input (.ok content)]

theorem Underway.snoc {s : Settings} {jobs : List Job} {ledger : List (Nat × Call)} {task : Task}
    {i : Nat} (h : Underway s jobs ledger task) (other : task.job? ≠ some i) (call : Call) :
    Underway s jobs (ledger ++ [(i, call)]) task := by
  cases task with
  | idle => trivial
  | reading j =>
      have apart : j ≠ i := fun same => other (congrArg some same)
      exact ⟨h.1, by rw [callsFor_append_of_ne apart, h.2]⟩
  | writing j output code =>
      have apart : j ≠ i := fun same => other (congrArg some same)
      obtain ⟨job, content, at_, target, code, calls⟩ := h
      exact ⟨job, content, at_, target, code, by rw [callsFor_append_of_ne apart, calls]⟩

/-- Where every job is, and what was done for it. -/
structure Accounts (s : Settings) (jobs : List Job) (p : Pool) (ledger : List (Nat × Call)) :
    Prop where
  next_le : p.next ≤ jobs.length
  /-- Each job that was given out is with one worker or has one result. -/
  shared : (p.workers.filterMap Task.job? ++ p.results.map Prod.fst).Perm (List.range p.next)
  waiting : ∀ i, p.next ≤ i → callsFor i ledger = []
  underway : ∀ task ∈ p.workers, Underway s jobs ledger task
  served : ∀ i r, (i, r) ∈ p.results → ∃ job, jobs[i]? = some job ∧ Served s job (callsFor i ledger) r
  completed : p.completed = p.results.countP (·.2.failure?.isNone)
  failed : p.failed = p.results.countP (·.2.failure?.isSome)

/-- The tasks of a pool with one of them apart from the others. -/
theorem workers_perm {p : Pool} {worker : Nat} {task : Task} (h : p.workers[worker]? = some task) :
    ∃ others, p.workers.Perm (task :: others) ∧
      ∀ task', (p.workers.set worker task').Perm (task' :: others) := by
  obtain ⟨bound, rfl⟩ := List.getElem?_eq_some_iff.1 h
  refine ⟨p.workers.eraseIdx worker, (List.getElem_cons_eraseIdx_perm bound).symm, fun task' => ?_⟩
  exact List.set_perm_cons_eraseIdx bound task'

theorem Accounts.start (s : Settings) (jobs : List Job) (workers : Nat) :
    Accounts s jobs (start workers) [] where
  next_le := Nat.zero_le _
  shared := by simp [Batch.start, List.filterMap_replicate, Task.job?]
  waiting _ _ := rfl
  underway task h := by
    obtain rfl := List.eq_of_mem_replicate h
    trivial
  served _ _ h := nomatch h
  completed := rfl
  failed := rfl

section
variable {s : Settings} {jobs : List Job} {p : Pool} {ledger : List (Nat × Call)} {worker i : Nat}
  {task : Task}

/-- Nobody else has to do with a job that a worker is at. -/
theorem Accounts.alone (h : Accounts s jobs p ledger) {others : List Task}
    (here : p.workers.Perm (task :: others)) (job : task.job? = some i) :
    i < p.next ∧ (∀ other ∈ others, other.job? ≠ some i) ∧ ∀ r, (i, r) ∉ p.results := by
  have shared : (i :: (others.filterMap Task.job? ++ p.results.map Prod.fst)).Perm
      (List.range p.next) := by
    refine .trans ?_ h.shared
    have := (here.filterMap Task.job?).symm
    rw [List.filterMap_cons_some job] at this
    exact this.append_right _
  have once := (shared.nodup_iff.2 List.nodup_range)
  rw [List.nodup_cons, List.mem_append, not_or] at once
  refine ⟨List.mem_range.1 (shared.mem_iff.1 List.mem_cons_self), fun other mem at_ => ?_,
    fun r mem => ?_⟩
  · exact once.1.1 (List.mem_filterMap.2 ⟨other, mem, at_⟩)
  · exact once.1.2 (List.mem_map_of_mem mem)

/-- The feeder gives out a job. -/
theorem Accounts.give (h : Accounts s jobs p ledger) (more : p.next < jobs.length)
    (idle : p.workers[worker]? = some .idle) :
    Accounts s jobs { p.assign worker (.reading p.next) with next := p.next + 1 } ledger := by
  obtain ⟨others, before, after⟩ := workers_perm idle
  have after := after (.reading p.next)
  refine ⟨more, ?_, fun i le => h.waiting i (Nat.le_of_succ_le le), fun task mem => ?_, h.served,
    h.completed, h.failed⟩
  · have busy := after.filterMap Task.job?
    have idle := before.filterMap Task.job?
    rw [List.filterMap_cons_some (show (Task.reading p.next).job? = some p.next from rfl)] at busy
    rw [List.filterMap_cons_none rfl] at idle
    change List.Perm _ (List.range (p.next + 1))
    rw [List.range_succ]
    calc ((p.workers.set worker (.reading p.next)).filterMap Task.job? ++ p.results.map Prod.fst).Perm
          (p.next :: (others.filterMap Task.job? ++ p.results.map Prod.fst)) := busy.append_right _
      _ |>.Perm (p.next :: List.range p.next) := ((idle.symm.append_right _).trans h.shared).cons _
      _ |>.Perm (List.range p.next ++ [p.next]) := (List.perm_append_singleton _ _).symm
  · obtain rfl | other := List.mem_cons.1 (after.mem_iff.1 mem)
    · exact ⟨more, h.waiting _ (Nat.le_refl _)⟩
    · exact h.underway task (before.mem_iff.2 (List.mem_cons_of_mem _ other))

/-- A worker makes a file operation for its job and goes on with it. -/
theorem Accounts.continue (h : Accounts s jobs p ledger) (here : p.workers[worker]? = some task)
    {task' : Task} {call : Call} (job : task.job? = some i) (job' : task'.job? = some i)
    (underway : Underway s jobs (ledger ++ [(i, call)]) task') :
    Accounts s jobs (p.assign worker task') (ledger ++ [(i, call)]) := by
  obtain ⟨others, before, after⟩ := workers_perm here
  obtain ⟨given, alone, unserved⟩ := h.alone before job
  have after := after task'
  refine ⟨h.next_le, ?_, fun j le => ?_, fun other mem => ?_, fun j r mem => ?_, h.completed,
    h.failed⟩
  · have now := after.filterMap Task.job?
    have then_ := before.filterMap Task.job?
    rw [List.filterMap_cons_some job'] at now
    rw [List.filterMap_cons_some job] at then_
    exact ((now.trans then_.symm).append_right _).trans h.shared
  · have given : i < p.next := given
    have le : p.next ≤ j := le
    rw [callsFor_append_of_ne (by omega), h.waiting j le]
  · obtain rfl | other := List.mem_cons.1 (after.mem_iff.1 mem)
    · exact underway
    · exact (h.underway _ (before.mem_iff.2 (List.mem_cons_of_mem _ other))).snoc (alone _ other) call
  · have apart : j ≠ i := by
      rintro rfl
      exact unserved r mem
    rw [callsFor_append_of_ne apart]
    exact h.served j r mem

/-- A worker makes the last file operation for its job. -/
theorem Accounts.finish (h : Accounts s jobs p ledger) (here : p.workers[worker]? = some task)
    {call : Call} (at_ : task.job? = some i) {job : Job} (known : jobs[i]? = some job) {r : Result}
    (served : Served s job (callsFor i ledger ++ [call]) r) :
    Accounts s jobs (p.finish worker i r) (ledger ++ [(i, call)]) := by
  obtain ⟨others, before, after⟩ := workers_perm here
  obtain ⟨given, alone, unserved⟩ := h.alone before at_
  have after := after .idle
  refine ⟨h.next_le, ?_, fun j le => ?_, fun other mem => ?_, fun j r' mem => ?_, ?_, ?_⟩
  · have now := after.filterMap Task.job?
    have then_ := before.filterMap Task.job?
    rw [List.filterMap_cons_none rfl] at now
    rw [List.filterMap_cons_some at_] at then_
    calc ((p.workers.set worker .idle).filterMap Task.job? ++ i :: p.results.map Prod.fst).Perm
          (others.filterMap Task.job? ++ i :: p.results.map Prod.fst) := now.append_right _
      _ |>.Perm (i :: others.filterMap Task.job? ++ p.results.map Prod.fst) := List.perm_middle
      _ |>.Perm (List.range p.next) := (then_.symm.append_right _).trans h.shared
  · have given : i < p.next := given
    have le : p.next ≤ j := le
    rw [callsFor_append_of_ne (by omega), h.waiting j le]
  · obtain rfl | other := List.mem_cons.1 (after.mem_iff.1 mem)
    · trivial
    · exact (h.underway _ (before.mem_iff.2 (List.mem_cons_of_mem _ other))).snoc (alone _ other) call
  · obtain same | earlier : (j, r') = (i, r) ∨ (j, r') ∈ p.results := List.mem_cons.1 mem
    · cases same
      exact ⟨job, known, by rwa [callsFor_append_self]⟩
    · have apart : j ≠ i := by
        rintro rfl
        exact unserved r' earlier
      rw [callsFor_append_of_ne apart]
      exact h.served j r' earlier
  · change (if r.failure?.isSome then p.completed else p.completed + 1) = _
    rw [Pool.finish, List.countP_cons, h.completed]
    cases r.failure? <;> rfl
  · change (if r.failure?.isSome then p.failed + 1 else p.failed) = _
    rw [Pool.finish, List.countP_cons, h.failed]
    cases r.failure? <;> rfl

end

/-! Runs. -/

/-- What holds of a pool and of its surroundings at any time. -/
structure Sound (s : Settings) (jobs : List Job) (d : Disk) (p : Pool) (r : Recorded) : Prop where
  accounts : ∃ ledger, ledger.map Prod.snd = r.calls ∧ Accounts s jobs p ledger
  disk : Call.Lead r.calls d r.world.disk
  stopped : p.stopped → p.cancelled

section
variable {s : Settings} {jobs : List Job} {d : Disk} {p : Pool} {r : Recorded} {worker i : Nat}

theorem bind_eq {α β : Type} {x : StateM Recorded α} {f : α → StateM Recorded β} {r r' : Recorded}
    {a : α} (h : x r = (a, r')) : (x >>= f) r = f a r' := by
  change (match x r with | (a, r) => f a r) = f a r'
  rw [h]

/-- A file is written, or the attempt leaves all files as they are. -/
theorem writeFile_cases (path content : Text) (r : Recorded) :
    (∃ f, r.world.disk.write path content = .error f ∧
      (Host.writeFile path content : StateM Recorded _) r =
        (.error f, ⟨r.world, r.calls ++ [Call.write path content (.error f)]⟩)) ∨
    (∃ disk, r.world.disk.write path content = .ok disk ∧
      (Host.writeFile path content : StateM Recorded _) r =
        (.ok (), ⟨{ r.world with disk := disk }, r.calls ++ [Call.write path content (.ok ())]⟩)) := by
  have recorded : (Host.writeFile path content : StateM Recorded _) r =
      Recorded.record (.write path content) (Host.writeFile path content) r := rfl
  cases outcome : r.world.disk.write path content with
  | error f =>
      have operation : (Host.writeFile path content : StateM World _) r.world =
          (.error f, r.world) := by
        simp only [Host.writeFile, bind, StateT.bind, get, getThe, MonadStateOf.get, StateT.get, pure,
          outcome]
        rfl
      exact .inl ⟨f, rfl, by rw [recorded, Recorded.record, operation]⟩
  | ok disk =>
      have operation : (Host.writeFile path content : StateM World _) r.world =
          (.ok (), { r.world with disk := disk }) := by
        simp only [Host.writeFile, bind, StateT.bind, get, getThe, MonadStateOf.get, StateT.get, pure,
          outcome]
        rfl
      exact .inr ⟨disk, rfl, by rw [recorded, Recorded.record, operation]⟩

/-- The first part of a job: the file cannot be read, the script is refused, or there is something to
write. -/
theorem prepare_eq (s : Settings) (job : Job) (r : Recorded) :
    (prepare s job : StateM Recorded _) r =
      (match r.world.disk.read job.input with
      | .error f => .error (.read job.input f)
      | .ok content =>
        match job.transform s content with
        | .error f => .error (.script f)
        | .ok code => .ok (job.target, code),
      ⟨r.world, r.calls ++ [Call.read job.input (r.world.disk.read job.input)]⟩) := by
  change (match r.world.disk.read job.input with
    | .error f => pure (.error (.read job.input f))
    | .ok content =>
      match job.transform s content with
      | .error f => pure (.error (.script f))
      | .ok code => pure (.ok (job.target, code)) :
    StateM Recorded (Except Failure (Text × Text)))
      ⟨r.world, r.calls ++ [Call.read job.input (r.world.disk.read job.input)]⟩ = _
  cases r.world.disk.read job.input with
  | error f => rfl
  | ok content =>
      dsimp only
      cases job.transform s content <;> rfl

section
variable {p' : Pool} {r' : Recorded} (h : Sound s jobs d p r)
include h

theorem Sound.advance_reading (here : p.workers[worker]? = some (.reading i))
    (run : advance (m := StateM Recorded) s jobs p worker r = (p', r')) :
    Sound s jobs d p' r' ∧ p'.cancelled = p.cancelled := by
  obtain ⟨ledger, kept, accounts⟩ := h.accounts
  obtain ⟨bound, fresh⟩ := accounts.underway _ (List.mem_of_getElem? here)
  have known : jobs[i]? = some jobs[i] := List.getElem?_eq_getElem bound
  generalize jobs[i] = job at known
  have found : jobs.getD i { input := [] } = job := by simp [List.getD, known]
  have disk := h.disk.snoc (@Call.Turns.read job.input _)
  have ledger_eq (call : Call) : (ledger ++ [(i, call)]).map Prod.snd = r.calls ++ [call] := by
    simp [kept]
  rw [advance, here] at run
  dsimp only at run
  rw [found] at run
  have prepared := prepare_eq s job r
  cases read : r.world.disk.read job.input with
  | error f =>
      rw [read] at prepared disk
      rw [bind_eq prepared] at run
      cases run
      refine ⟨⟨⟨_, ledger_eq _, accounts.finish here rfl known ?_⟩, disk, h.stopped⟩, rfl⟩
      rw [fresh]
      exact .unread
  | ok content =>
      rw [read] at prepared disk
      dsimp only at prepared
      cases made : job.transform s content with
      | error f =>
          rw [made] at prepared
          rw [bind_eq prepared] at run
          cases run
          refine ⟨⟨⟨_, ledger_eq _, accounts.finish here rfl known ?_⟩, disk, h.stopped⟩, rfl⟩
          rw [fresh]
          exact .refused made
      | ok code =>
          rw [made] at prepared
          rw [bind_eq prepared] at run
          cases run
          refine ⟨⟨⟨_, ledger_eq _, accounts.continue here rfl rfl ?_⟩, disk, h.stopped⟩, rfl⟩
          exact ⟨job, content, known, rfl, made, by rw [callsFor_append_self, fresh]; rfl⟩

theorem Sound.advance_writing {output code : Text}
    (here : p.workers[worker]? = some (.writing i output code))
    (run : advance (m := StateM Recorded) s jobs p worker r = (p', r')) :
    Sound s jobs d p' r' ∧ p'.cancelled = p.cancelled := by
  obtain ⟨ledger, kept, accounts⟩ := h.accounts
  obtain ⟨job, content, known, rfl, made, calls⟩ := accounts.underway _ (List.mem_of_getElem? here)
  have found : jobs.getD i { input := [] } = job := by simp [List.getD, known]
  have ledger_eq (call : Call) : (ledger ++ [(i, call)]).map Prod.snd = r.calls ++ [call] := by
    simp [kept]
  rw [advance, here] at run
  dsimp only at run
  rw [found] at run
  obtain ⟨f, failed, wrote⟩ | ⟨disk, put, wrote⟩ := writeFile_cases job.target code r
  · rw [bind_eq wrote] at run
    cases run
    refine ⟨⟨⟨_, ledger_eq _, accounts.finish here rfl known ?_⟩, h.disk.snoc (.failed failed),
      h.stopped⟩, rfl⟩
    rw [calls]
    exact .unwritten made
  · rw [bind_eq wrote] at run
    cases run
    refine ⟨⟨⟨_, ledger_eq _, accounts.finish here rfl known ?_⟩, h.disk.snoc (.written put),
      h.stopped⟩, rfl⟩
    rw [calls]
    exact .written made

/-- Whatever happens next, the accounts stay in order. Only a cancellation cancels a batch. -/
theorem Sound.step {e : Event} (run : Batch.step (m := StateM Recorded) s jobs p e r = (p', r')) :
    Sound s jobs d p' r' ∧ (p'.cancelled → p.cancelled ∨ e = .cancel) := by
  cases e with
  | give worker =>
      rw [Batch.step] at run
      split at run
      · rename_i possible
        simp only [Bool.and_eq_true, decide_eq_true_eq] at possible
        obtain ⟨ledger, kept, accounts⟩ := h.accounts
        cases run
        exact ⟨⟨⟨ledger, kept, accounts.give possible.1.2 possible.2⟩, h.disk, h.stopped⟩, .inl⟩
      · cases run
        exact ⟨h, .inl⟩
  | advance worker =>
      change advance (m := StateM Recorded) s jobs p worker r = (p', r') at run
      have same (kept : Sound s jobs d p' r' ∧ p'.cancelled = p.cancelled) :
          Sound s jobs d p' r' ∧ (p'.cancelled → p.cancelled ∨ Event.advance worker = .cancel) :=
        ⟨kept.1, fun cancelled => .inl (kept.2 ▸ cancelled)⟩
      cases here : p.workers[worker]? with
      | none =>
          rw [advance, here] at run
          cases run
          exact ⟨h, .inl⟩
      | some task =>
          cases task with
          | idle =>
              rw [advance, here] at run
              cases run
              exact ⟨h, .inl⟩
          | reading i => exact same (h.advance_reading here run)
          | writing i output code => exact same (h.advance_writing here run)
  | cancel =>
      cases run
      obtain ⟨ledger, kept, accounts⟩ := h.accounts
      refine ⟨⟨⟨ledger, kept, ?_⟩, h.disk, fun _ => rfl⟩, fun _ => .inr rfl⟩
      exact ⟨accounts.next_le, accounts.shared, accounts.waiting, accounts.underway, accounts.served,
        accounts.completed, accounts.failed⟩
  | stop =>
      cases run
      obtain ⟨ledger, kept, accounts⟩ := h.accounts
      refine ⟨⟨⟨ledger, kept, ?_⟩, h.disk, fun stopped => ?_⟩, .inl⟩
      · exact ⟨accounts.next_le, accounts.shared, accounts.waiting, accounts.underway,
          accounts.served, accounts.completed, accounts.failed⟩
      · obtain earlier | now := Bool.or_eq_true_iff.1 stopped
        · exact h.stopped earlier
        · exact now

end

/-- The accounts are in order after any schedule. -/
theorem Sound.run {schedule : List Event} {p' : Pool} {r' : Recorded} (h : Sound s jobs d p r)
    (run : schedule.foldlM (Batch.step (m := StateM Recorded) s jobs) p r = (p', r')) :
    Sound s jobs d p' r' ∧ (p'.cancelled → p.cancelled ∨ .cancel ∈ schedule) := by
  induction schedule generalizing p r with
  | nil =>
      cases run
      exact ⟨h, .inl⟩
  | cons e schedule ih =>
      rw [List.foldlM_cons] at run
      cases first : Batch.step (m := StateM Recorded) s jobs p e r with
      | mk p₁ r₁ =>
          rw [bind_eq first] at run
          obtain ⟨sound, cause⟩ := h.step first
          obtain ⟨sound', cause'⟩ := ih sound run
          refine ⟨sound', fun cancelled => ?_⟩
          obtain earlier | later := cause' cancelled
          · exact (cause earlier).imp_right fun now => List.mem_cons.2 (.inl now.symm)
          · exact .inr (List.mem_cons_of_mem e later)

end

/-! The end of a batch. -/

section
variable {s : Settings} {jobs : List Job} {p : Pool} {ledger : List (Nat × Call)}

/-- When a batch is over, the jobs that were given out are those with a result. -/
theorem Accounts.all_served (h : Accounts s jobs p ledger) (finished : p.isOver jobs) :
    (p.results.map Prod.fst).Perm (List.range p.next) := by
  simp only [Pool.isOver, Bool.and_eq_true, List.all_eq_true, decide_eq_true_eq] at finished
  have idle : p.workers.filterMap Task.job? = [] :=
    List.filterMap_eq_nil_iff.2 fun task mem => by rw [finished.2 task mem, Task.job?]
  simpa [idle] using h.shared

theorem lookup_eq_some_of_mem {results : List (Nat × Result)} {i : Nat} {r : Result}
    (once : (results.map Prod.fst).Nodup) (mem : (i, r) ∈ results) : results.lookup i = some r := by
  induction results with
  | nil => cases mem
  | cons first results ih =>
      rw [List.map_cons, List.nodup_cons] at once
      obtain rfl | later := List.mem_cons.1 mem
      · simp
      · obtain ⟨j, r'⟩ := first
        have apart : i ≠ j := fun same => once.1 (List.mem_map.2 ⟨(i, r), later, same⟩)
        rw [List.lookup_cons, beq_false_of_ne apart]
        exact ih once.2 later

theorem lookup_eq_none {results : List (Nat × Result)} {i : Nat} (h : i ∉ results.map Prod.fst) :
    results.lookup i = none := by
  refine List.lookup_eq_none_iff.2 fun entry mem => bne_iff_ne.2 ?_
  rintro rfl
  exact h (List.mem_map_of_mem mem)

/-- A result of the outcome is one that a worker left, or the job was cancelled. -/
theorem outcome_getElem {i : Nat} {job : Job} {result : Result} (known : jobs[i]? = some job)
    (found : (p.outcome jobs)[i]? = some result) :
    result = (p.results.lookup i).getD ⟨job.input, job.output, some .cancelled⟩ := by
  simpa [Pool.outcome, known, eq_comm] using found

/-- A job that was given out is served when the batch is over. -/
theorem Accounts.outcome_served (h : Accounts s jobs p ledger) (finished : p.isOver jobs) {i : Nat}
    {job : Job} {result : Result} (known : jobs[i]? = some job)
    (found : (p.outcome jobs)[i]? = some result) (given : i < p.next) :
    Served s job (callsFor i ledger) result := by
  have served := h.all_served finished
  obtain ⟨⟨i, r⟩, mem, rfl⟩ := List.mem_map.1 (served.mem_iff.2 (List.mem_range.2 given))
  have there := lookup_eq_some_of_mem (served.nodup_iff.2 List.nodup_range) mem
  obtain ⟨job', known', done⟩ := h.served i r mem
  obtain rfl : job = job' := Option.some.inj (known.symm.trans known')
  rwa [outcome_getElem known found, there, Option.getD_some]

theorem Accounts.lookup_waiting (h : Accounts s jobs p ledger) (finished : p.isOver jobs) {i : Nat}
    (waits : p.next ≤ i) : p.results.lookup i = none := by
  refine lookup_eq_none ?_
  rw [(h.all_served finished).mem_iff, List.mem_range]
  omega

/-- The failure that a job ends with. -/
def Pool.failureOf (p : Pool) (i : Nat) : Option Failure :=
  match p.results.lookup i with
  | some r => r.failure?
  | none => some .cancelled

/-- What is counted of the outcome is counted of the jobs by number. -/
theorem countP_outcome (jobs : List Job) (p : Pool) (q : Option Failure → Bool) :
    (p.outcome jobs).countP (q ·.failure?) =
      (List.range jobs.length).countP (q <| p.failureOf ·) := by
  have same (i : Nat) (job : Job) : ((p.results.lookup i).getD
      { input := job.input, output := job.output, failure? := some .cancelled }).failure? =
      p.failureOf i := by
    rw [Pool.failureOf]
    cases p.results.lookup i <;> rfl
  rw [Pool.outcome, List.mapIdx_eq_zipIdx_map, List.countP_map, List.range_eq_range',
    ← List.zipIdx_map_snd 0 jobs, List.countP_map]
  exact List.countP_congr fun entry _ => by simp [same]

/-- Counting the jobs that were given out is counting the results. -/
theorem Accounts.countP_range (h : Accounts s jobs p ledger) (finished : p.isOver jobs)
    (q : Option Failure → Bool) :
    (List.range p.next).countP (q <| p.failureOf ·) = p.results.countP (q ·.2.failure?) := by
  have served := h.all_served finished
  rw [← served.countP_eq, List.countP_map]
  refine List.countP_congr fun entry mem => ?_
  have found := lookup_eq_some_of_mem (served.nodup_iff.2 List.nodup_range) mem
  simp [Pool.failureOf, found]

/-- The counters agree with the outcome. -/
theorem Accounts.counts (h : Accounts s jobs p ledger) (finished : p.isOver jobs) :
    p.completed = (p.outcome jobs).countP (·.failure?.isNone) ∧
      p.failures jobs = (p.outcome jobs).countP (·.failure?.isSome) := by
  have length : jobs.length = p.next + (jobs.length - p.next) := by
    have := h.next_le
    omega
  have waiting (i : Nat) : p.failureOf (p.next + i) = some .cancelled := by
    rw [Pool.failureOf, h.lookup_waiting finished (Nat.le_add_right _ _)]
  have split (q : Option Failure → Bool) : (p.outcome jobs).countP (q ·.failure?) =
      p.results.countP (q ·.2.failure?) + if q (some .cancelled) then jobs.length - p.next else 0 := by
    rw [countP_outcome, length, List.range_add, List.countP_append, h.countP_range finished,
      List.countP_map, ← length]
    congr 1
    cases hq : q (some .cancelled) <;> simp [Function.comp_def, waiting, hq]
  exact ⟨by rw [split Option.isNone, h.completed]; rfl, by rw [split Option.isSome, Pool.failures, h.failed]; rfl⟩

end

/-- What a batch does by any schedule, with any number of workers. When it is over, there is a result
for each job, in the order of the jobs. A job that was given out is served once; one that was not is
cancelled, and no file is touched for it. All calls are made for jobs that were given out, the files are
what the calls make of them, and the counters agree with the results. Jobs are left out only if the
batch was cancelled. -/
theorem runBy_accounts (s : Settings) (jobs : List Job) (workers : Nat) (schedule : List Event)
    (w : World) {p : Pool} {r : Recorded}
    (run : runBy (m := StateM Recorded) s jobs workers schedule ⟨w, []⟩ = (p, r))
    (finished : p.isOver jobs) :
    (p.outcome jobs).map Result.input = jobs.map Job.input ∧
    (∃ ledger : List (Nat × Call), ledger.map Prod.snd = r.calls ∧ (∀ call ∈ ledger, call.1 < p.next) ∧
      ∀ i job result, jobs[i]? = some job → (p.outcome jobs)[i]? = some result →
        (i < p.next → Served s job (callsFor i ledger) result) ∧
        (p.next ≤ i → callsFor i ledger = [] ∧ result.failure? = some .cancelled)) ∧
    Call.Lead r.calls w.disk r.world.disk ∧
    p.completed = (p.outcome jobs).countP (·.failure?.isNone) ∧
    p.failures jobs = (p.outcome jobs).countP (·.failure?.isSome) ∧
    p.completed + p.failures jobs = jobs.length ∧
    (p.next < jobs.length → .cancel ∈ schedule) := by
  have started : Sound s jobs w.disk (start workers) ⟨w, []⟩ :=
    ⟨⟨[], rfl, .start s jobs workers⟩, .nil, nofun⟩
  obtain ⟨⟨⟨ledger, kept, accounts⟩, disk, stopped⟩, cause⟩ := started.run run
  obtain ⟨completed, failed⟩ := accounts.counts finished
  have each {i : Nat} {job : Job} {result : Result} (known : jobs[i]? = some job)
      (found : (p.outcome jobs)[i]? = some result) :
      (i < p.next → Served s job (callsFor i ledger) result) ∧
      (p.next ≤ i → result = ⟨job.input, job.output, some .cancelled⟩) := by
    refine ⟨accounts.outcome_served finished known found, fun waits => ?_⟩
    rw [outcome_getElem known found, accounts.lookup_waiting finished waits, Option.getD_none]
  refine ⟨?_, ⟨ledger, kept, fun call mem => ?_, fun i job result known found => ?_⟩, disk, completed,
    failed, ?_, fun left => ?_⟩
  · refine List.ext_getElem? fun i => ?_
    rw [List.getElem?_map, List.getElem?_map]
    cases known : jobs[i]? with
    | none => simp [Pool.outcome, known]
    | some job =>
        obtain ⟨result, found⟩ : ∃ result, (p.outcome jobs)[i]? = some result := by
          simp [Pool.outcome, known]
        obtain given | waits := Nat.lt_or_ge i p.next
        · rw [found, Option.map_some, Option.map_some, ((each known found).1 given).input]
        · rw [found, Option.map_some, Option.map_some, (each known found).2 waits]
  · by_contra late
    have none := accounts.waiting call.1 (Nat.not_lt.1 late)
    simp only [callsFor, List.map_eq_nil_iff, List.filter_eq_nil_iff] at none
    exact none call mem (beq_self_eq_true _)
  · exact ⟨(each known found).1, fun waits =>
      ⟨accounts.waiting i waits, by rw [(each known found).2 waits]⟩⟩
  · have all := (p.outcome jobs).length_eq_countP_add_countP (·.failure?.isNone)
    have length : (p.outcome jobs).length = jobs.length := by simp [Pool.outcome]
    have failures : (p.outcome jobs).countP (¬·.failure?.isNone) =
        (p.outcome jobs).countP (·.failure?.isSome) :=
      List.countP_congr fun r _ => by simp [Option.isSome_iff_ne_none]
    omega
  · simp only [Pool.isOver, Bool.and_eq_true, Bool.or_eq_true, decide_eq_true_eq] at finished
    obtain early | all := finished.1
    · exact (cause (stopped early)).resolve_left nofun
    · omega

/-- Two workers get a script that is there and one that is missing; the third job is not given out. -/
theorem runBy_accounts_cancelled :
    let jobs : List Job := [{ input := txt "a.ts" }, { input := txt "b.ts" }, { input := txt "c.ts" }]
    let schedule : List Event :=
      [.give 1, .give 0, .advance 0, .cancel, .advance 1, .stop, .advance 1]
    let w : World := { disk := .ofFiles [(txt "a.ts", txt "f()")] }
    let final := runBy (m := StateM Recorded) {} jobs 2 schedule ⟨w, []⟩
    final.1.isOver jobs ∧ final.1.next = 2 ∧ final.1.completed = 1 ∧
      final.1.completed = (final.1.outcome jobs).countP (·.failure?.isNone) ∧
      final.1.completed + final.1.failures jobs = 3 := by
  intro jobs schedule w final
  have finished : final.1.isOver jobs := by decide
  obtain ⟨-, -, -, completed, -, all, -⟩ :=
    runBy_accounts {} jobs 2 schedule w (p := final.1) (r := final.2) (Prod.eta final).symm finished
  exact ⟨finished, by decide, by decide, completed, all⟩

end Batch

end CoScript
