import Mathlib.Data.Nat.Digits
import Iroh.Util.Lock

/-!
# What the lock file holds, and what `read_lock` reports

`ProgramLock::acquire` writes `process::id().to_string()` into the file it made with `create_new`,
and `read_lock` reads it back: `File::open`, `read_to_string`, then `str::parse::<u32>`, mapping
each failure to a `LockError`. This module models those functions and the file contents, and
states what `read_lock` returns at every point of every interleaving of the calls of `Lock`.

## The text of a process id

`parseU32` is `u32::from_str_radix(src, 10)` byte by byte: the empty string and a lone sign fail, a
leading `+` is skipped, and every further byte must be a decimal digit, with checked arithmetic.
It accepts exactly an optional `+` and a nonempty run of digits whose value fits in 32 bits
(`parseU32_eq_some`), so the decimal text of every `u32` reads back as itself
(`parseU32_toString`), and the empty file of an `acquire` that has not written yet does not.

## The file contents as a refinement

`LockData` adds to a state of `LockFs` the text of each file and, as ghost data, the process whose
`create_new` made it. `LockData.step` runs `LockFs.step` and writes what the system call writes, so
its runs are exactly the runs of `LockFs` (`LockData.run_fs`): every fact proved here of the data
model is a fact of the lock model of `Lock`. One invariant, `ContentsInv`, ties each file's text to
where its maker is: empty while it is at `write_all`, its process id afterwards.
-/

namespace Iroh.Util

/-! ### `str::parse::<u32>` -/

/-- `char::to_digit(10)` of a decimal digit. -/
def digitValue (c : Char) : Nat := c.toNat - '0'.toNat

/-- One byte of `u32::from_str_radix(src, 10)`: `to_digit(10)`, then `checked_mul(10)` and
`checked_add`; `none` is its `ParseIntError` (`InvalidDigit` or `PosOverflow`). -/
def parseDigit (acc : Nat) (c : Char) : Option Nat :=
  if c.isDigit then
    if acc * 10 + digitValue c < 4294967296 then some (acc * 10 + digitValue c) else none
  else none

/-- The bytes `from_str_radix` reads as digits: the empty string is `Empty`, a sign alone is
`InvalidDigit`, and a leading `+` is skipped; a leading `-` stays, an invalid digit of a `u32`. -/
def signDigits : List Char → Option (List Char)
  | [] | ['+'] | ['-'] => none
  | '+' :: rest => some rest
  | cs => some cs

/-- `str::parse::<u32>`; `none` is its `ParseIntError`. -/
def parseU32 (s : String) : Option UInt32 :=
  (signDigits s.toList).bind fun ds ↦ (ds.foldlM parseDigit 0).map UInt32.ofNat

/-- The number a run of decimal digits spells, most significant first, after `acc`. -/
def decimalValue (acc : Nat) (cs : List Char) : Nat :=
  cs.foldl (fun a c ↦ a * 10 + digitValue c) acc

theorem le_decimalValue (acc : Nat) (cs : List Char) : acc ≤ decimalValue acc cs := by
  induction cs generalizing acc with
  | nil => exact le_rfl
  | cons c cs ih => exact (by omega : acc ≤ acc * 10 + digitValue c).trans (ih _)

/-- The checked fold succeeds exactly on digits whose value fits, and computes that value. -/
theorem foldlM_parseDigit_eq_some {acc v : Nat} (cs : List Char) (hacc : acc < 4294967296) :
    cs.foldlM parseDigit acc = some v ↔
      (∀ c ∈ cs, c.isDigit) ∧ decimalValue acc cs < 4294967296 ∧ v = decimalValue acc cs := by
  induction cs generalizing acc with
  | nil =>
    simp only [List.foldlM, decimalValue, List.foldl_nil, List.not_mem_nil, false_implies,
      implies_true, true_and]
    exact ⟨fun h ↦ ⟨hacc, (Option.some.inj h).symm⟩, fun h ↦ h.2 ▸ rfl⟩
  | cons c cs ih =>
    simp only [List.foldlM_cons, parseDigit, List.mem_cons, forall_eq_or_imp]
    by_cases hc : c.isDigit
    · by_cases hv : acc * 10 + digitValue c < 4294967296
      · simp only [hc, hv, if_true, Option.bind_eq_bind, Option.some_bind, ih hv, true_and]
        rfl
      · simp only [hc, hv, if_true, if_false, Option.bind_eq_bind, Option.none_bind, true_and,
          reduceCtorEq, false_iff]
        rintro ⟨-, hlt, -⟩
        exact hv (lt_of_le_of_lt (le_decimalValue _ cs) hlt)
    · simp [hc]

theorem signDigits_of_digits {ds : List Char} (hne : ds ≠ []) (hd : ∀ c ∈ ds, c.isDigit) :
    signDigits ds = some ds ∧ signDigits ('+' :: ds) = some ds := by
  refine ⟨?_, ?_⟩
  · unfold signDigits
    split <;> simp_all
  · rcases ds with _ | ⟨c, ds⟩
    · exact absurd rfl hne
    · rfl

theorem signDigits_eq_some {cs ds : List Char} (h : signDigits cs = some ds) :
    ds ≠ [] ∧ (cs = ds ∨ cs = '+' :: ds) := by
  unfold signDigits at h
  split at h <;> simp_all

/-- **What `str::parse::<u32>` accepts**: an optional `+`, then a nonempty run of decimal digits
whose value fits in 32 bits; it returns that value. -/
theorem parseU32_eq_some (s : String) (n : UInt32) :
    parseU32 s = some n ↔ ∃ ds, (s.toList = ds ∨ s.toList = '+' :: ds) ∧ ds ≠ [] ∧
      (∀ c ∈ ds, c.isDigit) ∧ decimalValue 0 ds = n.toNat := by
  constructor
  · intro h
    simp only [parseU32, Option.bind_eq_some, Option.map_eq_some'] at h
    obtain ⟨ds, hs, v, hv, rfl⟩ := h
    obtain ⟨hd, hlt, rfl⟩ := (foldlM_parseDigit_eq_some ds (by decide)).1 hv
    exact ⟨ds, (signDigits_eq_some hs).2, (signDigits_eq_some hs).1, hd,
      (UInt32.toNat_ofNat_of_lt hlt).symm⟩
  · rintro ⟨ds, hcs, hne, hd, hv⟩
    have hsign : signDigits s.toList = some ds := by
      rcases hcs with h | h <;> rw [h]
      exacts [(signDigits_of_digits hne hd).1, (signDigits_of_digits hne hd).2]
    have hlt : decimalValue 0 ds < 4294967296 := hv ▸ n.toNat_lt_size
    rw [parseU32, hsign, Option.some_bind,
      (foldlM_parseDigit_eq_some ds (by decide)).2 ⟨hd, hlt, rfl⟩, Option.map_some', hv]
    exact congrArg some (UInt32.toNat.inj (UInt32.toNat_ofNat_of_lt n.toNat_lt_size))

theorem digitChar_spec : ∀ k, k < 10 →
    (Nat.digitChar k).isDigit ∧ digitValue (Nat.digitChar k) = k := by
  decide

/-- `Nat.toDigitsCore 10`, given enough fuel, puts the digits of `n` in front of `ds`. -/
theorem toDigitsCore_ten {fuel n : Nat} (ds : List Char) (hn : n < fuel) :
    ∃ L, Nat.toDigitsCore 10 fuel n ds = L ++ ds ∧ L ≠ [] ∧ (∀ c ∈ L, c.isDigit) ∧
      decimalValue 0 L = n := by
  induction fuel generalizing n ds with
  | zero => omega
  | succ fuel ih =>
    obtain ⟨hd, hv⟩ := digitChar_spec (n % 10) (Nat.mod_lt _ (by decide))
    rw [Nat.toDigitsCore]
    split_ifs with h0
    · exact ⟨[Nat.digitChar (n % 10)], rfl, by simp, by simpa using hd,
        by simp [decimalValue, hv]; omega⟩
    · obtain ⟨L, hL, -, hdig, hval⟩ := ih (Nat.digitChar (n % 10) :: ds) (n := n / 10) (by omega)
      refine ⟨L ++ [Nat.digitChar (n % 10)], by simp [hL], by simp, ?_, ?_⟩
      · simpa [or_imp, forall_and] using ⟨hdig, hd⟩
      · simp only [decimalValue, List.foldl_append, List.foldl_cons, List.foldl_nil] at hval ⊢
        rw [hval, hv]
        omega

/-- **The decimal text of a `u32` parses back to it.** -/
theorem parseU32_toString (n : UInt32) : parseU32 (toString n) = some n := by
  obtain ⟨L, hL, hne, hd, hv⟩ := toDigitsCore_ten [] (Nat.lt_succ_self n.toNat)
  exact (parseU32_eq_some _ n).2 ⟨L, .inl (by simpa using hL), hne, hd, hv⟩

/-! ### `read_lock` -/

/-- `LockError`; its `Display` texts are `"No lock file at {0}"`, `"Corrupt lock file contents at
{0}"` and `"{0}"`. -/
inductive LockError
  /-- `NoLock(path)`. -/
  | noLock (path : String)
  /-- `CorruptLock(path)`: the contents are not a process id. -/
  | corruptLock (path : String)
  /-- `Uncategorized(text)`. -/
  | uncategorized (text : String)
  deriving DecidableEq, Repr

/-- What `File::open(&path)` and `read_to_string` find. -/
inductive FileRead
  /-- `File::open` fails with `ErrorKind::NotFound`. -/
  | notFound
  /-- `File::open` fails with another `ErrorKind`, whose text is given. -/
  | openFailed (kind : String)
  /-- `read_to_string` fails: the bytes are not UTF-8, or the read fails. -/
  | unreadable
  /-- The file's contents. -/
  | contents (text : String)
  deriving DecidableEq, Repr

/-- `read_lock(path)`. -/
def readLock (path : String) : FileRead → Except LockError UInt32
  | .notFound => .error (.noLock path)
  | .openFailed kind => .error (.uncategorized kind)
  | .unreadable => .error (.corruptLock path)
  | .contents text =>
    match parseU32 text with
    | some pid => .ok pid
    | none => .error (.corruptLock path)

/-- `read_lock_pid(prog_name)`: `iroh_data_path` gives the lock path, or an error whose text goes
into `Uncategorized`; then `read_lock` on what is found there. -/
def readLockPid (dataPath : Except String String) (find : String → FileRead) :
    Except LockError UInt32 :=
  match dataPath with
  | .error e => .error (.uncategorized e)
  | .ok path => readLock path (find path)

theorem readLock_contents (path text : String) :
    readLock path (.contents text) = ((parseU32 text).map Except.ok).getD
      (.error (.corruptLock path)) := by
  simp only [readLock]
  split <;> simp_all

/-- **`read_lock` on file contents**: the decimal text `acquire` writes reads back as the id it
wrote; a text reads as `pid` exactly when it is an optional `+` and a nonempty run of digits
spelling `pid`; and every other text is `CorruptLock`. -/
theorem readLock_reads_pid_text (path text : String) :
    (∀ pid : UInt32, readLock path (.contents (toString pid)) = .ok pid) ∧
    (∀ pid : UInt32, readLock path (.contents text) = .ok pid ↔
      ∃ ds, (text.toList = ds ∨ text.toList = '+' :: ds) ∧ ds ≠ [] ∧ (∀ c ∈ ds, c.isDigit) ∧
        decimalValue 0 ds = pid.toNat) ∧
    ((∀ pid, readLock path (.contents text) ≠ .ok pid) →
      readLock path (.contents text) = .error (.corruptLock path)) := by
  refine ⟨fun pid ↦ by simp [readLock_contents, parseU32_toString], fun pid ↦ ?_, fun h ↦ ?_⟩
  · rw [← parseU32_eq_some, readLock_contents]
    cases parseU32 text <;> simp
  · rw [readLock_contents] at h ⊢
    cases hp : parseU32 text with
    | none => rfl
    | some pid => simp [hp] at h

/-! ### The lock model with file contents -/

/-- A state of `LockFs` with the text of each file and, as ghost data, the process whose
`create_new` made it. -/
structure LockData where
  fs : LockFs
  /-- The text in each file. -/
  contents : Nat → String
  /-- The process whose `create_new` made each file. -/
  creator : Nat → Nat

namespace LockData

variable (pid : Nat → UInt32)

/-- No file yet. -/
def init : LockData := ⟨LockFs.init, fun _ ↦ "", fun _ ↦ 0⟩

/-- What an action writes: `create_new` on a free path makes file `nextFile`, empty, for its
process; `write_all` writes the process id `pid p` as decimal text. -/
def written (d : LockData) : Action → (Nat → String) × (Nat → Nat)
  | .next p =>
    match d.fs.procs p, d.fs.path with
    | .busy .createNew, none =>
      (Function.update d.contents d.fs.nextFile "", Function.update d.creator d.fs.nextFile p)
    | .busy (.writePid f), _ => (Function.update d.contents f (toString (pid p)), d.creator)
    | _, _ => (d.contents, d.creator)
  | _ => (d.contents, d.creator)

/-- One action of `LockFs.step`, with what it writes. -/
def step (d : LockData) (a : Action) : Option LockData :=
  (d.fs.step a).map fun fs' ↦ ⟨fs', (d.written pid a).1, (d.written pid a).2⟩

/-- A schedule run in order. -/
def run (d : LockData) : List Action → Option LockData
  | [] => some d
  | a :: as => (d.step pid a).bind fun d' ↦ d'.run as

/-- What `File::open` and `read_to_string` find at the lock path. -/
def fileRead (d : LockData) : FileRead :=
  match d.fs.path with
  | none => .notFound
  | some f => .contents (d.contents f)

/-- The states of every run, `try_cleanup_dead_lock` included. -/
inductive Reachable : LockData → Prop
  | init : Reachable init
  | step {d d' : LockData} {a : Action} : Reachable d → d.step pid a = some d' → Reachable d'

variable {pid}

/-- **The contents model steps as the lock model does.** -/
theorem step_fs (d : LockData) (a : Action) : (d.step pid a).map fs = d.fs.step a := by
  simp only [step, Option.map_map]
  cases d.fs.step a <;> rfl

/-- **Its runs are the runs of the lock model.** -/
theorem run_fs (d : LockData) (as : List Action) : (d.run pid as).map fs = d.fs.run as := by
  induction as generalizing d with
  | nil => rfl
  | cons a as ih =>
    rw [run, LockFs.run, ← step_fs d a]
    cases d.step pid a with
    | none => rfl
    | some d' => exact ih d'

theorem Reachable.run {d d' : LockData} (hd : d.Reachable pid) (as : List Action)
    (h : d.run pid as = some d') : d'.Reachable pid := by
  induction as generalizing d with
  | nil => exact Option.some.inj h ▸ hd
  | cons a as ih =>
    simp only [LockData.run, Option.bind_eq_some] at h
    obtain ⟨d₁, h₁, h⟩ := h
    exact ih (hd.step h₁) h

end LockData

/-! ### What each file holds -/

@[simp] theorem isLockedReturns_ne_writePid (c b : Bool) (f : Nat) :
    isLockedReturns c b ≠ .busy (.writePid f) := by
  unfold isLockedReturns; split_ifs <;> simp

@[simp] theorem isLockedReturns_ne_lock (c b : Bool) (f : Nat) :
    isLockedReturns c b ≠ .busy (.lock f) := by
  unfold isLockedReturns; split_ifs <;> simp

/-- The system calls of `is_locked` and of the cleanup, and a `create_new` that finds the path
taken, make no file and take no `ProgramLock`; they unlink at most the path, and move their process
neither to `write_all` nor to `lock`. -/
theorem LockFs.syscall_frame {s s' : LockFs} {p : Nat} {pc : Pc}
    (hpc : ∀ f, pc ≠ .writePid f ∧ pc ≠ .lock f) (hc : pc = .createNew → s.path ≠ none)
    (h : s.syscall p pc = some s') :
    s'.nextFile = s.nextFile ∧ (∀ f, s'.path = some f → s.path = some f) ∧ s'.held = s.held ∧
      ∃ x, s'.procs = Function.update s.procs p x ∧
        ∀ f, x ≠ .busy (.writePid f) ∧ x ≠ .busy (.lock f) := by
  cases pc
  case createNew =>
    obtain ⟨f, hf⟩ := Option.ne_none_iff_exists'.1 (hc rfl)
    simp only [syscall, hf] at h
    cases h
    exact ⟨rfl, fun _ ↦ id, rfl, _, rfl, by simp⟩
  case writePid f => exact absurd rfl (hpc f).1
  case lock f => exact absurd rfl (hpc f).2
  all_goals
    simp only [syscall] at h
    (try split at h) <;> cases h <;> refine ⟨rfl, fun f hf ↦ ?_, rfl, _, rfl, by simp⟩ <;>
      simp_all [setProc]

/-- Where a file's maker is decides its text: empty while the maker is at `write_all`, its id
afterwards. A file at the path, awaited by `write_all` or `lock`, or held, has its maker. -/
structure ContentsInv (pid : Nat → UInt32) (d : LockData) : Prop where
  path_lt : ∀ f, d.fs.path = some f → f < d.fs.nextFile
  writer : ∀ p f, d.fs.procs p = .busy (.writePid f) →
    f < d.fs.nextFile ∧ d.creator f = p ∧ ∀ q, f ∉ d.fs.held q
  locker : ∀ p f, d.fs.procs p = .busy (.lock f) → f < d.fs.nextFile ∧ d.creator f = p
  held_creator : ∀ p f, f ∈ d.fs.held p → f < d.fs.nextFile ∧ d.creator f = p
  contents_eq : ∀ f, f < d.fs.nextFile → d.contents f =
    if d.fs.procs (d.creator f) = .busy (.writePid f) then "" else toString (pid (d.creator f))

namespace ContentsInv

variable {pid : Nat → UInt32} {d : LockData}

theorem init : ContentsInv pid LockData.init where
  path_lt _ h := by simp [LockData.init, LockFs.init] at h
  writer _ _ h := by simp [LockData.init, LockFs.init] at h
  locker _ _ h := by simp [LockData.init, LockFs.init] at h
  held_creator _ _ h := by simp [LockData.init, LockFs.init] at h
  contents_eq _ h := by simp [LockData.init, LockFs.init] at h

/-- **A step that makes no file and writes none**, moves no process to `write_all` or `lock`, takes
no process from `write_all`, and only drops locks. -/
theorem frame (hi : ContentsInv pid d) {fs' : LockFs} (hn : fs'.nextFile = d.fs.nextFile)
    (hpath : ∀ f, fs'.path = some f → d.fs.path = some f)
    (hheld : ∀ p f, f ∈ fs'.held p → f ∈ d.fs.held p)
    (hw : ∀ q f, fs'.procs q = .busy (.writePid f) ↔ d.fs.procs q = .busy (.writePid f))
    (hl : ∀ q f, fs'.procs q = .busy (.lock f) → d.fs.procs q = .busy (.lock f)) :
    ContentsInv pid ⟨fs', d.contents, d.creator⟩ where
  path_lt f h := hn ▸ hi.path_lt f (hpath f h)
  writer p f h := by
    obtain ⟨h₁, h₂, h₃⟩ := hi.writer p f ((hw p f).1 h)
    exact ⟨hn ▸ h₁, h₂, fun q hq ↦ h₃ q (hheld q f hq)⟩
  locker p f h := hn ▸ hi.locker p f (hl p f h)
  held_creator p f h := hn ▸ hi.held_creator p f (hheld p f h)
  contents_eq f h := by
    rw [hi.contents_eq f (hn ▸ h)]
    exact if_congr (hw _ f).symm rfl rfl

/-- Moving a process that is not at the `write_all` of `f` to another place than that `write_all`
leaves who is at it. -/
theorem update_writePid_iff {procs : Nat → Proc} {p f : Nat} {x : Proc}
    (hx : x ≠ .busy (.writePid f)) (hp : procs p ≠ .busy (.writePid f)) (q : Nat) :
    Function.update procs p x q = .busy (.writePid f) ↔ procs q = .busy (.writePid f) := by
  rcases eq_or_ne q p with rfl | hne
  · rw [Function.update_same]
    exact iff_of_false hx hp
  · rw [Function.update_noteq hne]

/-- Moving process `p`, not at `write_all`, to a state other than `write_all` and `lock`. -/
theorem update_procs {p : Nat} {x : Proc}
    (hx : ∀ f, x ≠ .busy (.writePid f) ∧ x ≠ .busy (.lock f))
    (hp : ∀ f, d.fs.procs p ≠ .busy (.writePid f)) (q f : Nat) :
    (Function.update d.fs.procs p x q = .busy (.writePid f) ↔
      d.fs.procs q = .busy (.writePid f)) ∧
    (Function.update d.fs.procs p x q = .busy (.lock f) → d.fs.procs q = .busy (.lock f)) := by
  rcases eq_or_ne q p with rfl | hne
  · simp only [Function.update_same]
    exact ⟨iff_of_false (hx f).1 (hp f), fun h ↦ absurd h (hx f).2⟩
  · rw [Function.update_noteq hne]
    exact ⟨Iff.rfl, id⟩

/-- `create_new` on a free path: file `nextFile` is made, empty, and its maker goes to
`write_all`. -/
theorem createFile (hi : ContentsInv pid d) {p : Nat} (hp : d.fs.procs p = .busy .createNew) :
    ContentsInv pid ⟨{ d.fs with
        path := some d.fs.nextFile, nextFile := d.fs.nextFile + 1,
        procs := Function.update d.fs.procs p (.busy (.writePid d.fs.nextFile)) },
      Function.update d.contents d.fs.nextFile "", Function.update d.creator d.fs.nextFile p⟩ where
  path_lt f h := by simp_all
  writer q f h := by
    rcases eq_or_ne q p with rfl | hne
    · obtain rfl : d.fs.nextFile = f := by simpa using h
      exact ⟨Nat.lt_succ_self _, by simp, fun r hr ↦
        Nat.lt_irrefl _ (hi.held_creator r _ hr).1⟩
    · obtain ⟨h₁, h₂, h₃⟩ := hi.writer q f (by simpa [hne] using h)
      exact ⟨Nat.lt_succ_of_lt h₁, by simp [h₁.ne, h₂], h₃⟩
  locker q f h := by
    rcases eq_or_ne q p with rfl | hne
    · simp at h
    · obtain ⟨h₁, h₂⟩ := hi.locker q f (by simpa [hne] using h)
      exact ⟨Nat.lt_succ_of_lt h₁, by simp [h₁.ne, h₂]⟩
  held_creator q f h := by
    obtain ⟨h₁, h₂⟩ := hi.held_creator q f h
    exact ⟨Nat.lt_succ_of_lt h₁, by simp [h₁.ne, h₂]⟩
  contents_eq f h := by
    rcases eq_or_ne f d.fs.nextFile with rfl | hne
    · dsimp only
      rw [Function.update_same, Function.update_same, Function.update_same, if_pos rfl]
    · have hlt : f < d.fs.nextFile := by simp at h; omega
      dsimp only
      rw [Function.update_noteq hne, Function.update_noteq hne, hi.contents_eq f hlt]
      exact if_congr (update_writePid_iff (by simp [Ne.symm hne]) (by simp [hp]) _).symm rfl rfl

/-- `write_all` of the process id: the maker writes its id and goes to `lock`. -/
theorem writeFile (hi : ContentsInv pid d) {p f : Nat} (hp : d.fs.procs p = .busy (.writePid f)) :
    ContentsInv pid ⟨d.fs.setProc p (.busy (.lock f)),
      Function.update d.contents f (toString (pid p)), d.creator⟩ where
  path_lt := hi.path_lt
  writer q g h := by
    rcases eq_or_ne q p with rfl | hne
    · simp [LockFs.setProc] at h
    · exact hi.writer q g (by simpa [LockFs.setProc, hne] using h)
  locker q g h := by
    rcases eq_or_ne q p with rfl | hne
    · obtain rfl : f = g := by simpa [LockFs.setProc] using h
      exact ⟨(hi.writer q f hp).1, (hi.writer q f hp).2.1⟩
    · exact hi.locker q g (by simpa [LockFs.setProc, hne] using h)
  held_creator := hi.held_creator
  contents_eq g h := by
    obtain ⟨-, hcf, -⟩ := hi.writer p f hp
    rcases eq_or_ne g f with rfl | hne
    · simp [LockFs.setProc, hcf]
    · simp only [Function.update_noteq hne, LockFs.setProc]
      rw [hi.contents_eq g h]
      exact if_congr (update_writePid_iff (by simp) (by simp [hp, Ne.symm hne]) _).symm rfl rfl

/-- `lock` on a free file: its maker returns `Ok` holding a `ProgramLock` on it. -/
theorem lockFile (hi : ContentsInv pid d) {p f : Nat} (hp : d.fs.procs p = .busy (.lock f)) :
    ContentsInv pid ⟨{ d.fs with
        holder := Function.update d.fs.holder f (some p),
        procs := Function.update d.fs.procs p (.returned .acquired),
        held := Function.update d.fs.held p (f :: d.fs.held p) }, d.contents, d.creator⟩ := by
  have hupd := update_procs (d := d) (p := p) (x := .returned .acquired) (by simp)
    (fun g h ↦ by simp [hp] at h)
  obtain ⟨hlt, hcf⟩ := hi.locker p f hp
  refine ⟨hi.path_lt, fun q g h ↦ ?_, fun q g h ↦ hi.locker q g ((hupd q g).2 h), fun q g h ↦ ?_,
    fun g h ↦ (hi.contents_eq g h).trans (if_congr ((hupd _ g).1).symm rfl rfl)⟩
  · obtain ⟨h₁, h₂, h₃⟩ := hi.writer q g ((hupd q g).1.1 h)
    refine ⟨h₁, h₂, fun r hr ↦ ?_⟩
    rcases eq_or_ne r p with rfl | hne
    · rcases List.mem_cons.1 (by simpa using hr) with rfl | hr
      · obtain rfl : q = r := h₂.symm.trans hcf
        simp [hp] at h
      · exact h₃ r hr
    · exact h₃ r (by simpa [hne] using hr)
  · rcases eq_or_ne q p with rfl | hne
    · rcases List.mem_cons.1 (by simpa using h) with rfl | h
      exacts [⟨hlt, hcf⟩, hi.held_creator q g h]
    · exact hi.held_creator q g (by simpa [hne] using h)

/-- **Every action keeps the invariant.** -/
theorem step (hi : ContentsInv pid d) {a : Action} {d' : LockData} (h : d.step pid a = some d') :
    ContentsInv pid d' := by
  simp only [LockData.step, Option.map_eq_some'] at h
  obtain ⟨fs', hs, rfl⟩ := h
  cases a with
  | start p c =>
    simp only [LockFs.step] at hs
    split at hs <;> cases hs
    have hx : ∀ f, Proc.busy c.entry ≠ .busy (.writePid f) ∧ Proc.busy c.entry ≠ .busy (.lock f) :=
      fun f ↦ by cases c <;> simp [Call.entry]
    have hupd := update_procs (d := d) (p := p) hx (by simp [*])
    exact hi.frame rfl (fun _ ↦ id) (fun _ _ ↦ id) (fun q f ↦ (hupd q f).1) fun q f ↦ (hupd q f).2
  | next p =>
    simp only [LockFs.step] at hs
    split at hs
    · rename_i pc hpc
      have hframe (hpc' : ∀ f, pc ≠ .writePid f ∧ pc ≠ .lock f)
          (hc : pc = .createNew → d.fs.path ≠ none)
          (hw : d.written pid (.next p) = (d.contents, d.creator)) :
          ContentsInv pid ⟨fs', (d.written pid (.next p)).1, (d.written pid (.next p)).2⟩ := by
        obtain ⟨hn, hpath, hheld, x, hprocs, hx⟩ := LockFs.syscall_frame hpc' hc hs
        have hupd := update_procs (d := d) (p := p) hx (by simp [hpc, hpc'])
        rw [hw]
        exact hi.frame hn hpath (by simp [hheld]) (fun q f ↦ hprocs ▸ (hupd q f).1)
          fun q f ↦ hprocs ▸ (hupd q f).2
      cases pc
      case createNew =>
        cases hpath : d.fs.path with
        | none =>
          simp only [LockFs.syscall, hpath] at hs
          cases hs
          convert hi.createFile hpc using 2 <;> simp [LockData.written, hpc, hpath]
        | some f => exact hframe (by simp) (by simp [hpath]) (by simp [LockData.written, hpc, hpath])
      case writePid f =>
        cases hs
        convert hi.writeFile hpc using 2 <;> simp [LockData.written, hpc]
      case lock f =>
        simp only [LockFs.syscall] at hs
        split at hs <;> cases hs
        convert hi.lockFile hpc using 2 <;> simp [LockData.written, hpc]
      all_goals exact hframe (by simp) (by simp) (by simp [LockData.written, hpc])
    · cases hs
  | drop p f =>
    simp only [LockFs.step] at hs
    split at hs <;> cases hs
    refine hi.frame rfl (fun _ ↦ id) (fun q g hg ↦ ?_) (fun _ _ ↦ Iff.rfl) fun _ _ ↦ id
    rcases eq_or_ne q p with rfl | hne
    · exact List.mem_of_mem_erase (by simpa using hg)
    · simpa [hne] using hg
  | retire p =>
    simp only [LockFs.step] at hs
    split at hs <;> cases hs
    have hupd := update_procs (d := d) (p := p) (x := .idle) (by simp) (by simp [*])
    exact hi.frame rfl (fun _ ↦ id) (fun _ _ ↦ id) (fun q f ↦ (hupd q f).1) fun q f ↦ (hupd q f).2

end ContentsInv

theorem LockData.Reachable.contentsInv {pid : Nat → UInt32} {d : LockData}
    (h : d.Reachable pid) : ContentsInv pid d := by
  induction h with
  | init => exact ContentsInv.init
  | step _ hs ih => exact ih.step hs

/-- Process ids `4000`, `4001`, … for processes `0`, `1`, …. -/
def samplePid (p : Nat) : UInt32 := UInt32.ofNat (p + 4000)

/-- **`read_lock` reports the process that made the lock file.** In every state of every
interleaving of `acquire`, `is_locked` and `try_cleanup_dead_lock`, drops and exits included,
`read_lock` on the lock path returns `NoLock` when the path names no file; `CorruptLock` while the
process whose `create_new` made the file is still before its `write_all`; and otherwise `Ok` with
that process's id, whether or not it still holds its lock. So while a process holds a
`ProgramLock` on the file the path names, `read_lock` returns its id. -/
theorem readLock_reports_maker {pid : Nat → UInt32} {d : LockData} (hd : d.Reachable pid)
    (path : String) :
    readLock path d.fileRead =
      (match d.fs.path with
        | none => .error (.noLock path)
        | some f =>
          if d.fs.procs (d.creator f) = .busy (.writePid f) then .error (.corruptLock path)
          else .ok (pid (d.creator f))) ∧
    ∀ p f, f ∈ d.fs.held p → d.fs.path = some f → readLock path d.fileRead = .ok (pid p) := by
  have hi := hd.contentsInv
  have hread : ∀ f, d.fs.path = some f → readLock path d.fileRead =
      if d.fs.procs (d.creator f) = .busy (.writePid f) then .error (.corruptLock path)
      else .ok (pid (d.creator f)) := fun f hf ↦ by
    rw [LockData.fileRead, hf, readLock_contents, hi.contents_eq f (hi.path_lt f hf)]
    split_ifs
    · rfl
    · simp [parseU32_toString]
  refine ⟨?_, fun p f hp hf ↦ ?_⟩
  · cases hpath : d.fs.path with
    | none => simp [LockData.fileRead, hpath, readLock]
    | some f => exact hread f hpath
  · obtain ⟨-, hc⟩ := hi.held_creator p f hp
    rw [hread f hf, hc, if_neg fun h ↦ (hi.writer p f h).2.2 p hp]

/-- `soloSchedule` with file contents: process `0` holds the lock, process `1` failed, and the
`is_locked` of process `0` returned `true`. -/
def soloData : LockData := (LockData.init.run samplePid soloSchedule).getD LockData.init

theorem soloData_reachable : soloData.Reachable samplePid :=
  LockData.Reachable.init.run soloSchedule rfl

theorem soloData_reports_maker :
    soloData.Reachable samplePid ∧
    (readLock "iroh.lock" soloData.fileRead =
      (match soloData.fs.path with
        | none => .error (.noLock "iroh.lock")
        | some f =>
          if soloData.fs.procs (soloData.creator f) = .busy (.writePid f) then
            .error (.corruptLock "iroh.lock")
          else .ok (samplePid (soloData.creator f))) ∧
    ∀ p f, f ∈ soloData.fs.held p → soloData.fs.path = some f →
      readLock "iroh.lock" soloData.fileRead = .ok (samplePid p)) :=
  ⟨soloData_reachable, readLock_reports_maker soloData_reachable "iroh.lock"⟩

/-- **Each `ProgramLock` is on the file its own `create_new` made**, in every run of the lock model,
`try_cleanup_dead_lock` included. So two processes that both hold one hold two different files,
and the lock path names at most one of them. -/
theorem programLocks_on_distinct_files {pid : Nat → UInt32} {d : LockData} (hd : d.Reachable pid)
    {p q f g : Nat} (hp : f ∈ d.fs.held p) (hq : g ∈ d.fs.held q) :
    d.creator f = p ∧ d.creator g = q ∧
      (p ≠ q → f ≠ g ∧ (d.fs.path ≠ some f ∨ d.fs.path ≠ some g)) := by
  have hi := hd.contentsInv
  have hf := (hi.held_creator p f hp).2
  have hg := (hi.held_creator q g hq).2
  have hfg : p ≠ q → f ≠ g := fun hpq hfg ↦ hpq (by subst hfg; exact hf.symm.trans hg)
  exact ⟨hf, hg, fun hpq ↦ ⟨hfg hpq, not_and_or.1 fun h ↦
    hfg hpq (Option.some.inj (h.1.symm.trans h.2))⟩⟩

/-- `cleanupRace` with file contents. -/
def raceData : LockData := (LockData.init.run samplePid cleanupRace).getD LockData.init

theorem raceData_reachable : raceData.Reachable samplePid :=
  LockData.Reachable.init.run cleanupRace rfl

/-- The two holders of `cleanupRace`: process `0` on file `0`, which it made and which the cleanup
unlinked, and process `2` on file `1`, which it made and which the path names. -/
theorem raceData_locks_distinct :
    raceData.Reachable samplePid ∧ 0 ∈ raceData.fs.held 0 ∧ 1 ∈ raceData.fs.held 2 ∧
      raceData.fs.path = some 1 ∧
      (raceData.creator 0 = 0 ∧ raceData.creator 1 = 2 ∧
        ((0 : Nat) ≠ 2 → (0 : Nat) ≠ 1 ∧
          (raceData.fs.path ≠ some 0 ∨ raceData.fs.path ≠ some 1))) :=
  ⟨raceData_reachable, by decide, by decide, by decide,
    programLocks_on_distinct_files raceData_reachable (by decide) (by decide)⟩

end Iroh.Util
