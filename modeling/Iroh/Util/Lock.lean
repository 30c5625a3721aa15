import Mathlib.Logic.Function.Basic
import Mathlib.Data.List.Basic

/-!
# The program lock file

`iroh-util/src/lock.rs` keeps one lock file per program name. `ProgramLock::acquire` creates it
with `create_new`, writes the process id into it, then takes an exclusive lock on the open file;
`ProgramLock::is_locked` checks that the path exists, opens it and tries the lock;
`try_cleanup_dead_lock` calls `is_locked` and, on `false`, unlinks the path.

## The model

The file system is the file the lock path names (`LockFs.path`), files numbered as they are made,
and for each file the process that holds its `fcntl` write lock (`LockFs.holder`). A lock belongs
to the file and not to the path: unlinking the path leaves the file, its handles and its lock in
place. Every system call is one atomic step, and processes interleave freely: a process is at a
program counter `Pc` inside one call, and `LockFs.step` runs one action of one process. A blocking
`lock` on a locked file has no step. `LockFs.held` lists the `ProgramLock`s each process holds
whose `acquire` returned `Ok`; dropping one releases its lock. `create_dir_all` and the I/O errors
of `write_all` are left out: they only make `acquire` return `Err` sooner.

`file_guard` locks with `fcntl`. `acquire` locks the handle it opened for writing. `is_locked`
tries the lock on the handle `File::open` gave, which is read-only, and a write lock on a
read-only descriptor fails with `EBADF`: `try_lock` always fails there, so `is_locked` returns
`true` for every file that exists and opens, locked or not. Dropping that handle closes it, and
closing any descriptor of a file releases every `fcntl` lock the process holds on it: a process
that holds the lock and calls `is_locked` loses its lock while its `ProgramLock` lives.

## What holds and what does not

Without `try_cleanup_dead_lock` the lock is exclusive (`held_unique_without_cleanup`): the path,
once made, is never unlinked, so every `acquire` after the first fails at `create_new`. With it,
the check inside `is_locked` and the unlink are two steps. A cleanup whose `exists()` finds no file
goes on to `remove_file`; if another process makes and locks the file meanwhile, the cleanup
unlinks it, and a third process makes a new file at the path and locks that one too
(`cleanup_race_two_holders`).
-/

namespace Iroh.Util

/-- The calls a process makes for one program name. -/
inductive Call
  | acquire
  | isLocked
  | tryCleanupDeadLock
  deriving DecidableEq, Repr

/-- The next system call of a process inside a call; `cleanup` marks the `is_locked` that
`try_cleanup_dead_lock` makes. -/
inductive Pc
  /-- `OpenOptions::new().write(true).create_new(true).open(&self.path)`. -/
  | createNew
  /-- `file.write_all(process::id().to_string().as_bytes())`. -/
  | writePid (file : Nat)
  /-- `file_guard::lock(file, Lock::Exclusive, 0, 1)`, which blocks while the file is locked. -/
  | lock (file : Nat)
  /-- `self.path.exists()`. -/
  | pathExists (cleanup : Bool)
  /-- `File::open(&self.path)`. -/
  | openFile (cleanup : Bool)
  /-- `file_guard::try_lock(&file, Lock::Exclusive, 0, 1)` on the read-only handle, then the
  handle's drop at the end of `is_locked`. -/
  | tryLock (cleanup : Bool) (file : Nat)
  /-- `std::fs::remove_file(lock.path)`. -/
  | removeFile
  deriving DecidableEq, Repr

/-- What a call returned. -/
inductive CallResult
  /-- `acquire` returned `Ok(())`. -/
  | acquired
  /-- `acquire` returned `Err`: `create_new` found the path taken. -/
  | acquireErr
  /-- `is_locked` returned `b`. -/
  | locked (b : Bool)
  /-- `try_cleanup_dead_lock` returned `Ok(removed)`. -/
  | cleaned (removed : Bool)
  /-- `try_cleanup_dead_lock` returned `Err(anyhow!("removing dead lockfile: {}", e))`. -/
  | cleanupErr
  deriving DecidableEq, Repr

/-- Where a process is: in no call, inside one, or returned from one. -/
inductive Proc
  | idle
  | busy (pc : Pc)
  | returned (r : CallResult)
  deriving DecidableEq, Repr

/-- The first system call of a call. -/
def Call.entry : Call → Pc
  | .acquire => .createNew
  | .isLocked => .pathExists false
  | .tryCleanupDeadLock => .pathExists true

/-- Where `is_locked` returning `b` leaves its process: `try_cleanup_dead_lock` returns `Ok(false)`
on `true`, and goes on to `remove_file` on `false`. -/
def isLockedReturns (cleanup b : Bool) : Proc :=
  if cleanup then (if b then .returned (.cleaned false) else .busy .removeFile)
  else .returned (.locked b)

/-- The file system and the processes. -/
structure LockFs where
  /-- The file the lock path names, if any. -/
  path : Option Nat
  /-- The number of the next file made. -/
  nextFile : Nat
  /-- The process whose handle holds each file's exclusive lock. -/
  holder : Nat → Option Nat
  /-- Each process's call. -/
  procs : Nat → Proc
  /-- The files of the `ProgramLock`s each process holds. -/
  held : Nat → List Nat

/-- What one process does. -/
inductive Action
  /-- Process `p` makes a call. -/
  | start (p : Nat) (c : Call)
  /-- Process `p` makes its next system call. -/
  | next (p : Nat)
  /-- Process `p` drops its `ProgramLock` on `file`, or exits. -/
  | drop (p : Nat) (file : Nat)
  /-- Process `p` is done with a returned call. -/
  | retire (p : Nat)
  deriving DecidableEq, Repr

namespace LockFs

/-- No lock file, and no process in a call. -/
def init : LockFs := ⟨none, 0, fun _ ↦ none, fun _ ↦ .idle, fun _ ↦ []⟩

/-- Process `p` moves to `q`. -/
def setProc (s : LockFs) (p : Nat) (q : Proc) : LockFs :=
  { s with procs := Function.update s.procs p q }

/-- The system call of process `p` at `pc`; `none` while it blocks. -/
def syscall (s : LockFs) (p : Nat) : Pc → Option LockFs
  | .createNew =>
    match s.path with
    | some _ => some (s.setProc p (.returned .acquireErr))
    | none => some { s with
        path := some s.nextFile, nextFile := s.nextFile + 1,
        procs := Function.update s.procs p (.busy (.writePid s.nextFile)) }
  | .writePid f => some (s.setProc p (.busy (.lock f)))
  | .lock f =>
    if s.holder f = none then some { s with
      holder := Function.update s.holder f (some p),
      procs := Function.update s.procs p (.returned .acquired),
      held := Function.update s.held p (f :: s.held p) }
    else none
  | .pathExists c =>
    match s.path with
    | none => some (s.setProc p (isLockedReturns c false))
    | some _ => some (s.setProc p (.busy (.openFile c)))
  | .openFile c =>
    match s.path with
    | none => some (s.setProc p (isLockedReturns c false))
    | some f => some (s.setProc p (.busy (.tryLock c f)))
  | .tryLock c f => some { s with
      holder := Function.update s.holder f (if s.holder f = some p then none else s.holder f),
      procs := Function.update s.procs p (isLockedReturns c true) }
  | .removeFile =>
    match s.path with
    | none => some (s.setProc p (.returned .cleanupErr))
    | some _ => some { s with
        path := none, procs := Function.update s.procs p (.returned (.cleaned true)) }

/-- One action; `none` when it is not enabled. -/
def step (s : LockFs) : Action → Option LockFs
  | .start p c => if s.procs p = .idle then some (s.setProc p (.busy c.entry)) else none
  | .next p =>
    match s.procs p with
    | .busy pc => s.syscall p pc
    | _ => none
  | .drop p f =>
    if f ∈ s.held p then some { s with
      holder := Function.update s.holder f none,
      held := Function.update s.held p ((s.held p).erase f) }
    else none
  | .retire p =>
    match s.procs p with
    | .returned _ => some (s.setProc p .idle)
    | _ => none

/-- A schedule run in order; `none` if an action is not enabled. -/
def run (s : LockFs) : List Action → Option LockFs
  | [] => some s
  | a :: as => (s.step a).bind fun s' ↦ s'.run as

end LockFs

/-- Process `1` starts `try_cleanup_dead_lock` while there is no lock file: `exists()` is false,
so `is_locked` returns `false`. Process `0` then acquires, and process `1` unlinks its file;
process `2` acquires after the cleanup. -/
def cleanupRace : List Action :=
  [.start 1 .tryCleanupDeadLock, .next 1,
    .start 0 .acquire, .next 0, .next 0, .next 0,
    .next 1,
    .start 2 .acquire, .next 2, .next 2, .next 2]

/-- **Two processes hold the lock.** On `cleanupRace`, process `1` is at `remove_file` while
process `0`'s `acquire` has returned `Ok` on file `0`; it unlinks the path and returns `Ok(true)`;
process `2`'s `acquire` then returns `Ok` on a new file, and both hold a `ProgramLock`. -/
theorem cleanup_race_two_holders :
    ((LockFs.init.run (cleanupRace.take 6)).map fun s ↦ (s.held 0, s.procs 0, s.procs 1)) =
      some ([0], .returned .acquired, .busy .removeFile) ∧
    ((LockFs.init.run cleanupRace).map fun s ↦ (s.held 0, s.held 2, s.procs 1, s.procs 2)) =
      some ([0], [1], .returned (.cleaned true), .returned .acquired) := by
  decide

/-! ### Exclusion without the cleanup -/

namespace Pc

/-- The system calls of `try_cleanup_dead_lock`. -/
def InCleanup : Pc → Prop
  | .pathExists c | .openFile c | .tryLock c _ => c = true
  | .removeFile => True
  | _ => False

/-- The file a system call works on. -/
def file? : Pc → Option Nat
  | .writePid f | .lock f | .tryLock _ f => some f
  | _ => none

end Pc

/-- The states of runs in which no process calls `try_cleanup_dead_lock`. -/
inductive ReachableWithoutCleanup : LockFs → Prop
  | init : ReachableWithoutCleanup LockFs.init
  | step {s s' : LockFs} {a : Action} : ReachableWithoutCleanup s →
      (∀ p, a ≠ .start p .tryCleanupDeadLock) → s.step a = some s' → ReachableWithoutCleanup s'

/-- Process `p` is the maker of file `0`: it is at the `write_all` or the `lock` of the `acquire`
that made it, or it holds a `ProgramLock` on it. -/
def LockFs.Makes (s : LockFs) (p : Nat) : Prop :=
  s.procs p = .busy (.writePid 0) ∨ s.procs p = .busy (.lock 0) ∨ 0 ∈ s.held p

/-- What holds along a run without the cleanup: the only file ever made is file `0`, made once,
so it has at most one maker, and every `ProgramLock` is on it. -/
structure Exclusive (s : LockFs) : Prop where
  no_cleanup : ∀ p pc, s.procs p = .busy pc → ¬ pc.InCleanup
  path_eq : s.path = none ∧ s.nextFile = 0 ∨ s.path = some 0 ∧ s.nextFile = 1
  pc_file : ∀ p pc f, s.procs p = .busy pc → pc.file? = some f → f = 0
  held_file : ∀ p f, f ∈ s.held p → f = 0
  held_nodup : ∀ p, (s.held p).Nodup
  making_not_held : ∀ p, s.procs p = .busy (.writePid 0) ∨ s.procs p = .busy (.lock 0) →
    0 ∉ s.held p
  maker_path : ∀ p, s.Makes p → s.path = some 0
  maker_unique : ∀ p q, s.Makes p → s.Makes q → p = q

namespace Exclusive

variable {s : LockFs}

theorem init : Exclusive LockFs.init where
  no_cleanup _ _ h := by simp [LockFs.init] at h
  path_eq := .inl ⟨rfl, rfl⟩
  pc_file _ _ _ h := by simp [LockFs.init] at h
  held_file _ _ h := by simp [LockFs.init] at h
  held_nodup _ := List.nodup_nil
  making_not_held _ h := by simp [LockFs.init] at h
  maker_path _ h := by simp [LockFs.Makes, LockFs.init] at h
  maker_unique _ _ h := by simp [LockFs.Makes, LockFs.init] at h

/-- **A move of one process** keeps the invariant when the path stays, the process gets a state
and `ProgramLock`s the invariant allows, and it makes file `0` only if it made it before. -/
theorem update (hi : Exclusive s) {s' : LockFs} {p : Nat} (hpath : s'.path = s.path)
    (hnext : s'.nextFile = s.nextFile) (hprocs : ∀ r, r ≠ p → s'.procs r = s.procs r)
    (hheld : ∀ r, r ≠ p → s'.held r = s.held r)
    (hpc : ∀ pc, s'.procs p = .busy pc → ¬ pc.InCleanup ∧ ∀ f, pc.file? = some f → f = 0)
    (hfile : ∀ f ∈ s'.held p, f = 0) (hnodup : (s'.held p).Nodup)
    (hmaking : s'.procs p = .busy (.writePid 0) ∨ s'.procs p = .busy (.lock 0) → 0 ∉ s'.held p)
    (hmk : s'.Makes p → s.Makes p) : Exclusive s' := by
  have hmk' : ∀ r, s'.Makes r → s.Makes r := fun r hr ↦ by
    rcases eq_or_ne r p with rfl | hne
    · exact hmk hr
    · simpa [LockFs.Makes, hprocs r hne, hheld r hne] using hr
  refine ⟨fun r pc hr ↦ ?_, by rw [hpath, hnext]; exact hi.path_eq, fun r pc f hr ↦ ?_,
    fun r f hf ↦ ?_, fun r ↦ ?_, fun r hr ↦ ?_, fun r hr ↦ hpath ▸ hi.maker_path r (hmk' r hr),
    fun r r' hr hr' ↦ hi.maker_unique r r' (hmk' r hr) (hmk' r' hr')⟩ <;>
    rcases eq_or_ne r p with rfl | hne
  · exact (hpc pc hr).1
  · exact hi.no_cleanup r pc ((hprocs r hne).symm.trans hr)
  · exact (hpc pc hr).2 f
  · exact hi.pc_file r pc f ((hprocs r hne).symm.trans hr)
  · exact hfile f hf
  · exact hi.held_file r f (hheld r hne ▸ hf)
  · exact hnodup
  · exact hheld r hne ▸ hi.held_nodup r
  · exact hmaking hr
  · rw [hheld r hne]
    exact hi.making_not_held r (by rwa [hprocs r hne] at hr)

/-- **A process moves** to a state that is no cleanup step, names only file `0`, and is not at
the `write_all` or `lock` of file `0`. -/
theorem setProc (hi : Exclusive s) {p : Nat} {q : Proc}
    (hq : ∀ pc, q = .busy pc → ¬ pc.InCleanup ∧ (∀ f, pc.file? = some f → f = 0) ∧
      pc ≠ .writePid 0 ∧ pc ≠ .lock 0) : Exclusive (s.setProc p q) := by
  have hq' : q ≠ .busy (.writePid 0) ∧ q ≠ .busy (.lock 0) :=
    ⟨fun h ↦ (hq _ h).2.2.1 rfl, fun h ↦ (hq _ h).2.2.2 rfl⟩
  refine hi.update rfl rfl (fun r hr ↦ by simp [LockFs.setProc, hr]) (fun _ _ ↦ rfl)
    (fun pc h ↦ (hq pc (by simpa [LockFs.setProc] using h)).imp_right And.left) (hi.held_file p)
    (hi.held_nodup p) (fun h ↦ by simp [LockFs.setProc, hq'] at h) fun h ↦ .inr (.inr ?_)
  simpa [LockFs.Makes, LockFs.setProc, hq'] using h

/-- `create_new` on the free path makes file `0`, and its process is its only maker. -/
theorem createFile (hi : Exclusive s) {p : Nat} (hpc : s.procs p = .busy .createNew)
    (hpath : s.path = none) :
    Exclusive { s with
      path := some s.nextFile, nextFile := s.nextFile + 1,
      procs := Function.update s.procs p (.busy (.writePid s.nextFile)) } := by
  obtain ⟨-, h0⟩ := hi.path_eq.resolve_right (by simp [hpath])
  have hnone : ∀ r, ¬ s.Makes r := fun r hr ↦ by simp [hi.maker_path r hr] at hpath
  have hmk : ∀ r, ({ s with
      path := some 0, nextFile := 1,
      procs := Function.update s.procs p (.busy (.writePid 0)) } : LockFs).Makes r → r = p := by
    intro r hr
    by_contra hne
    exact hnone r (by simpa [LockFs.Makes, hne] using hr)
  rw [h0]
  exact {
    no_cleanup := fun r pc hr ↦ by
      rcases eq_or_ne r p with rfl | hne
      · obtain rfl : Pc.writePid 0 = pc := by simpa using hr
        simp [Pc.InCleanup]
      · exact hi.no_cleanup r pc (by simpa [hne] using hr)
    path_eq := .inr ⟨rfl, rfl⟩
    pc_file := fun r pc f hr hf ↦ by
      rcases eq_or_ne r p with rfl | hne
      · obtain rfl : Pc.writePid 0 = pc := by simpa using hr
        simpa [Pc.file?, eq_comm] using hf
      · exact hi.pc_file r pc f (by simpa [hne] using hr) hf
    held_file := hi.held_file
    held_nodup := hi.held_nodup
    making_not_held := fun r hr hm ↦ by
      rcases eq_or_ne r p with rfl | hne
      · exact hnone r (.inr (.inr hm))
      · exact hi.making_not_held r (by simpa [hne] using hr) hm
    maker_path := fun _ _ ↦ rfl
    maker_unique := fun r r' hr hr' ↦ (hmk r hr).trans (hmk r' hr').symm }

/-- `write_all` moves the maker of file `0` to its `lock`. -/
theorem writeFile (hi : Exclusive s) {p : Nat} (hpc : s.procs p = .busy (.writePid 0)) :
    Exclusive (s.setProc p (.busy (.lock 0))) := by
  refine hi.update rfl rfl (fun r hr ↦ by simp [LockFs.setProc, hr]) (fun _ _ ↦ rfl)
    (fun pc h ↦ ?_) (hi.held_file p) (hi.held_nodup p) (fun _ ↦ hi.making_not_held p (.inl hpc))
    fun _ ↦ .inl hpc
  obtain rfl : Pc.lock 0 = pc := by simpa [LockFs.setProc] using h
  simp [Pc.InCleanup, Pc.file?, eq_comm]

/-- The `lock` of `acquire` on file `0` gives its maker a `ProgramLock` on it. -/
theorem lockFile (hi : Exclusive s) {p : Nat} (hpc : s.procs p = .busy (.lock 0))
    (H : Nat → Option Nat) :
    Exclusive { s with
      holder := H, procs := Function.update s.procs p (.returned .acquired),
      held := Function.update s.held p (0 :: s.held p) } := by
  refine hi.update rfl rfl (fun r hr ↦ by simp [hr]) (fun r hr ↦ by simp [hr])
    (fun pc h ↦ by simp at h) (fun f hf ↦ ?_) ?_ (fun h ↦ by simp at h) fun _ ↦ .inr (.inl hpc)
  · rcases List.mem_cons.1 (by simpa using hf) with rfl | hf
    exacts [rfl, hi.held_file p f hf]
  · simpa using ⟨hi.making_not_held p (.inr hpc), hi.held_nodup p⟩

/-- The invariant does not read the `fcntl` locks. -/
theorem withHolder (hi : Exclusive s) (H : Nat → Option Nat) : Exclusive { s with holder := H } :=
  ⟨hi.no_cleanup, hi.path_eq, hi.pc_file, hi.held_file, hi.held_nodup, hi.making_not_held,
    hi.maker_path, hi.maker_unique⟩

/-- Dropping a `ProgramLock` leaves every other one, and no new maker. -/
theorem dropLock (hi : Exclusive s) (p f : Nat) (H : Nat → Option Nat) :
    Exclusive { s with holder := H, held := Function.update s.held p ((s.held p).erase f) } := by
  have hsub : ∀ {g}, g ∈ Function.update s.held p ((s.held p).erase f) p → g ∈ s.held p :=
    fun hg ↦ List.mem_of_mem_erase (by simpa using hg)
  exact hi.update rfl rfl (fun _ _ ↦ rfl) (fun r hr ↦ by simp [hr])
    (fun pc h ↦ ⟨hi.no_cleanup p pc h, fun g ↦ hi.pc_file p pc g h⟩)
    (fun g hg ↦ hi.held_file p g (hsub hg)) (by simpa using (hi.held_nodup p).erase f)
    (fun h hm ↦ hi.making_not_held p h (hsub hm)) fun h ↦ h.imp_right (Or.imp_right hsub)

/-- Every system call keeps the invariant. -/
theorem syscall (hi : Exclusive s) {p : Nat} {pc : Pc} {s' : LockFs} (hpc : s.procs p = .busy pc)
    (h : s.syscall p pc = some s') : Exclusive s' := by
  cases pc with
  | createNew =>
    simp only [LockFs.syscall] at h
    split at h <;> cases h
    · exact hi.setProc (by simp)
    · exact hi.createFile hpc ‹_›
  | writePid f =>
    obtain rfl := hi.pc_file p _ f hpc rfl
    cases h
    exact hi.writeFile hpc
  | lock f =>
    obtain rfl := hi.pc_file p _ f hpc rfl
    simp only [LockFs.syscall] at h
    split at h <;> cases h
    exact hi.lockFile hpc _
  | pathExists c =>
    obtain rfl : c = false := by simpa [Pc.InCleanup] using hi.no_cleanup p _ hpc
    simp only [LockFs.syscall] at h
    split at h <;> cases h <;> exact hi.setProc (by simp [isLockedReturns, Pc.InCleanup, Pc.file?])
  | openFile c =>
    obtain rfl : c = false := by simpa [Pc.InCleanup] using hi.no_cleanup p _ hpc
    simp only [LockFs.syscall] at h
    split at h <;> cases h
    · exact hi.setProc (by simp [isLockedReturns])
    · have hf : ‹Nat› = 0 := by
        rcases hi.path_eq with ⟨h', -⟩ | ⟨h', -⟩ <;> simp_all
      exact hi.setProc (by simp [Pc.InCleanup, Pc.file?, hf])
  | tryLock c f =>
    obtain rfl : c = false := by simpa [Pc.InCleanup] using hi.no_cleanup p _ hpc
    cases h
    exact (hi.withHolder (Function.update s.holder f
      (if s.holder f = some p then none else s.holder f))).setProc (by simp [isLockedReturns])
  | removeFile => exact absurd trivial (hi.no_cleanup p _ hpc)

/-- **Every action but a call of `try_cleanup_dead_lock` keeps the invariant.** -/
theorem step (hi : Exclusive s) {a : Action} {s' : LockFs}
    (ha : ∀ p, a ≠ .start p .tryCleanupDeadLock) (h : s.step a = some s') : Exclusive s' := by
  cases a with
  | start p c =>
    simp only [LockFs.step] at h
    split at h <;> cases h
    have hc : c ≠ .tryCleanupDeadLock := fun hc ↦ ha p (hc ▸ rfl)
    exact hi.setProc (by cases c <;> simp_all [Call.entry, Pc.InCleanup, Pc.file?])
  | next p =>
    simp only [LockFs.step] at h
    split at h
    · exact hi.syscall ‹_› h
    · cases h
  | drop p f =>
    simp only [LockFs.step] at h
    split at h <;> cases h
    exact hi.dropLock p f _
  | retire p =>
    simp only [LockFs.step] at h
    split at h <;> cases h
    exact hi.setProc (by simp)

end Exclusive

theorem ReachableWithoutCleanup.exclusive {s : LockFs} (h : ReachableWithoutCleanup s) :
    Exclusive s := by
  induction h with
  | init => exact Exclusive.init
  | step _ ha hs ih => exact ih.step ha hs

/-- **Without `try_cleanup_dead_lock`, at most one process holds a `ProgramLock`**, and it is on
the first file made at the path: every other process holds none. -/
theorem held_unique_without_cleanup {s : LockFs} (h : ReachableWithoutCleanup s) {p f : Nat}
    (hp : f ∈ s.held p) : f = 0 ∧ ∀ q, q ≠ p → s.held q = [] := by
  have hi := h.exclusive
  obtain rfl := hi.held_file p f hp
  refine ⟨rfl, fun q hq ↦ List.eq_nil_iff_forall_not_mem.2 fun g hg ↦ hq ?_⟩
  obtain rfl := hi.held_file q g hg
  exact hi.maker_unique q p (.inr (.inr hg)) (.inr (.inr hp))

/-- A schedule with no call of the cleanup stays in the runs without it. -/
theorem ReachableWithoutCleanup.run {s s' : LockFs} (h : ReachableWithoutCleanup s) (as : List Action)
    (has : ∀ p, Action.start p .tryCleanupDeadLock ∉ as) (hs : s.run as = some s') :
    ReachableWithoutCleanup s' := by
  induction as generalizing s with
  | nil => exact Option.some.inj hs ▸ h
  | cons a as ih =>
    simp only [LockFs.run, Option.bind_eq_some] at hs
    obtain ⟨t, ht, hs⟩ := hs
    have ha : ∀ p, a ≠ .start p .tryCleanupDeadLock := fun p e ↦ has p (e ▸ List.mem_cons_self _ _)
    exact ih (h.step ha ht) (fun p hp ↦ has p (List.mem_cons_of_mem _ hp)) hs

/-- Process `0` acquires; process `1` then tries, and fails at `create_new`; process `0` checks
`is_locked`, which returns `true`. -/
def soloSchedule : List Action :=
  [.start 0 .acquire, .next 0, .next 0, .next 0, .start 1 .acquire, .next 1,
    .retire 0, .start 0 .isLocked, .next 0, .next 0, .next 0]

/-- The state `soloSchedule` ends in. -/
def soloWorld : LockFs := (LockFs.init.run soloSchedule).getD LockFs.init

theorem soloWorld_reachable : ReachableWithoutCleanup soloWorld :=
  ReachableWithoutCleanup.init.run soloSchedule (by simp [soloSchedule]) rfl

/-- Process `0` holds its `ProgramLock` on file `0` and process `1` failed; no other process
holds one. -/
theorem soloWorld_one_holder :
    ReachableWithoutCleanup soloWorld ∧ 0 ∈ soloWorld.held 0 ∧
      soloWorld.procs 1 = .returned .acquireErr ∧ (0 = 0 ∧ ∀ q, q ≠ 0 → soloWorld.held q = []) :=
  ⟨soloWorld_reachable, by decide, by decide,
    held_unique_without_cleanup soloWorld_reachable (by decide)⟩

end Iroh.Util
