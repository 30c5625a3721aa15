import Mathlib.Data.List.ReduceOption

/-!
# The gateway's file bodies

`Client::get_file` resolves one path, records how long the first block took, and hands the file's
pretty reader to the response. `Client::get_file_recursive` returns a body channel at once. It
spawns a task that walks the resolver's stream of files. The task reads each file to its end and
sends it as one frame. On the first file that fails to resolve or to pretty-print, it aborts the
body and stops.

The resolver, the readers and the HTTP client are outside the repository. As the retry loop takes
its script, the model takes what they do as input: a `Resolved` file says where it came from, when
it arrived and what reading it gives, and `live n` says whether the body's receiver is still there
when the task sends its frame `n`. The metadata is kept only as the file's `Source`, the one part
of it the client reads.

The results:
* the task sends what `get_file` would serve for each file, in the stream's order, up to the first
  file that `get_file` would not serve, and it records the same metrics (`recursive_streams_get_file_bodies`);
* the two unwraps are not aborts. A file whose read fails stops the task, but the body then ends as
  if the stream had ended there, while a failure to resolve or to pretty-print makes the body fail
  (`read_failure_ends_body_cleanly`). The body is a hyper channel: dropping its sender, as the
  unwinding task does, ends it, and only `Sender::abort` makes it fail.
-/

namespace Iroh.Gateway

/-- Where the resolver found a file. The client only tests for `Source::Bitswap`. -/
inductive Source
  | bitswap
  | http
  deriving DecidableEq, Repr

/-- A metric update, in milliseconds since the request started: the gauge `ttf_block`, or an
observation of the time-to-first-byte histogram of network or of cached files. -/
inductive Observation
  | ttfBlock (ms : Nat)
  | histTtfb (ms : Nat)
  | histTtfbCached (ms : Nat)
  deriving DecidableEq, Repr

/-- One file the resolver found: its source, the milliseconds since `start_time` when it arrived,
and the outcome of `pretty`. That outcome is the error's text, or what reading the reader to its
end gives: the bytes, or the text of the I/O error. -/
structure Resolved where
  source : Source
  elapsed : Nat
  pretty : Except String (Except String (List UInt8))

/-- The metric updates for a resolved file (lines 53-65 and 132-144): the gauge, then the
histogram of the file's source. -/
def observe (r : Resolved) : List Observation :=
  [.ttfBlock r.elapsed,
    if r.source = .bitswap then .histTtfb r.elapsed else .histTtfbCached r.elapsed]

/-- `Client::get_file`: the error text of the resolver or of `pretty`, or the response's reader
and the file's source, with the metric updates it made on the way. A resolver error returns
before any update. -/
def getFile (res : Except String Resolved) :
    Except String (Except String (List UInt8) × Source) × List Observation :=
  match res with
  | .error e => (.error e, [])
  | .ok r =>
    match r.pretty with
    | .error e => (.error e, observe r)
    | .ok reader => (.ok (reader, r.source), observe r)

/-- The bytes `get_file` serves for a file that resolves, pretty-prints and reads to its end. -/
def fileBytes (res : Except String Resolved) : Option (List UInt8) :=
  match (getFile res).1 with
  | .ok (.ok bytes, _) => some bytes
  | _ => none

/-- How the task of `get_file_recursive` ends: the stream ran out and the sender is dropped, it
called `sender.abort()` and broke out of the loop, or an `unwrap` panicked (reading a file, or
sending to a body whose receiver is gone). -/
inductive Ending
  | finished
  | aborted
  | panicked
  deriving DecidableEq, Repr

/-- What the spawned task has done so far: the frames sent on the body and the metric updates. -/
structure Sent where
  frames : List (List UInt8)
  metrics : List Observation
  deriving DecidableEq, Repr

/-- The `while let` loop of the spawned task (lines 129-171), from what it has done so far: what it
has done when it ends, and how it ends. -/
def sendFiles (live : Nat → Bool) : List (Except String Resolved) → Sent → Sent × Ending
  | [], t => (t, .finished)
  | .error _ :: _, t => (t, .aborted)
  | .ok r :: rest, t =>
    let t := { t with metrics := t.metrics ++ observe r }
    match r.pretty with
    | .error _ => (t, .aborted)
    | .ok (.error _) => (t, .panicked)
    | .ok (.ok bytes) =>
      if live t.frames.length then sendFiles live rest { t with frames := t.frames ++ [bytes] }
      else (t, .panicked)

/-- `Client::get_file_recursive`. It returns `Ok(body)` at once and never its `Err`; the body is
filled by the task it spawns, whose whole run this is. -/
def getFileRecursive (live : Nat → Bool) (rs : List (Except String Resolved)) : Sent × Ending :=
  sendFiles live rs ⟨[], []⟩

/-- What the HTTP client reads from a body the task filled: the frames, and whether the body ends
without an error, which it does unless the task aborted it. -/
def body (run : Sent × Ending) : List (List UInt8) × Bool :=
  (run.1.frames, run.2 != .aborted)

/-! ### The loop, one file at a time -/

@[simp]
theorem sendFiles_nil (live : Nat → Bool) (t : Sent) : sendFiles live [] t = (t, .finished) := rfl

@[simp]
theorem sendFiles_error (live : Nat → Bool) (e : String) (rest : List (Except String Resolved))
    (t : Sent) : sendFiles live (.error e :: rest) t = (t, .aborted) := rfl

/-- The loop over two streams in turn runs the second from where the first finished, and stops
where the first stopped otherwise. -/
theorem sendFiles_append (live : Nat → Bool) (pre post : List (Except String Resolved)) (t : Sent) :
    sendFiles live (pre ++ post) t =
      if (sendFiles live pre t).2 = .finished then sendFiles live post (sendFiles live pre t).1
      else sendFiles live pre t := by
  induction pre generalizing t with
  | nil => rfl
  | cons res pre ih =>
    rcases res with e | ⟨s, ms, e | e | bytes⟩
    · rfl
    · rfl
    · rfl
    · simp only [List.cons_append, sendFiles]
      split
      · exact ih _
      · rfl

/-- With its receiver always there, the loop adds to what it has done the frames `get_file` would
serve for the stream's files up to the first it would not, and the metrics `get_file` records for
those and for the file it stops at; it finishes exactly when `get_file` serves every file. -/
theorem sendFiles_true (rs : List (Except String Resolved)) (t : Sent) :
    (sendFiles (fun _ ↦ true) rs t).1.frames =
      t.frames ++ ((rs.map fileBytes).takeWhile Option.isSome).reduceOption ∧
    (sendFiles (fun _ ↦ true) rs t).1.metrics = t.metrics ++
      ((rs.take (((rs.map fileBytes).takeWhile Option.isSome).length + 1)).map
        fun r ↦ (getFile r).2).flatten ∧
    ((sendFiles (fun _ ↦ true) rs t).2 = .finished ↔ ∀ r ∈ rs, (fileBytes r).isSome) := by
  induction rs generalizing t with
  | nil => simp
  | cons res rs ih =>
    rcases res with e | ⟨s, ms, e | e | bytes⟩
    · simp [fileBytes, getFile]
    · simp [sendFiles, fileBytes, getFile]
    · simp [sendFiles, fileBytes, getFile]
    · have hb : fileBytes (.ok ⟨s, ms, .ok (.ok bytes)⟩) = some bytes := rfl
      obtain ⟨hf, hm, he⟩ := ih { t with frames := t.frames ++ [bytes], metrics := t.metrics ++ _ }
      simp only [sendFiles, if_true, List.map_cons, hb, List.takeWhile_cons, Option.isSome_some,
        List.reduceOption_cons_of_some, List.length_cons, List.take_succ_cons, List.flatten_cons,
        List.forall_mem_cons, List.append_assoc, true_and] at hf hm he ⊢
      exact ⟨hf, hm, he⟩

/-- Whatever its receiver does, the loop sends no frame it would not send to a receiver that
stays. -/
theorem sendFiles_frames_cut_short (live : Nat → Bool) (rs : List (Except String Resolved))
    (t : Sent) : (sendFiles live rs t).1.frames <+: (sendFiles (fun _ ↦ true) rs t).1.frames := by
  induction rs generalizing t with
  | nil => exact List.prefix_refl _
  | cons res rs ih =>
    rcases res with e | ⟨s, ms, e | e | bytes⟩
    · exact List.prefix_refl _
    · exact List.prefix_refl _
    · exact List.prefix_refl _
    · simp only [sendFiles, if_true]
      split
      · exact ih _
      · rw [(sendFiles_true rs _).1, List.append_assoc]
        exact List.prefix_append _ _

/-! ### The recursive body against `get_file` -/

/-- **The recursive body is `get_file` file by file.** `get_file_recursive` sends, in the stream's
order, what `get_file` would serve for each file, up to the first file it would not serve. It
records the metrics `get_file` records for each of those files and for that first one. It ends
without a failure exactly when every file was served. A receiver that goes away only cuts the
frames short. -/
theorem recursive_streams_get_file_bodies (live : Nat → Bool) (rs : List (Except String Resolved)) :
    (getFileRecursive live rs).1.frames <+: (getFileRecursive (fun _ ↦ true) rs).1.frames ∧
    (getFileRecursive (fun _ ↦ true) rs).1.frames =
      ((rs.map fileBytes).takeWhile Option.isSome).reduceOption ∧
    (getFileRecursive (fun _ ↦ true) rs).1.metrics =
      ((rs.take (((rs.map fileBytes).takeWhile Option.isSome).length + 1)).map
        fun r ↦ (getFile r).2).flatten ∧
    ((getFileRecursive (fun _ ↦ true) rs).2 = .finished ↔ ∀ r ∈ rs, (fileBytes r).isSome) :=
  ⟨sendFiles_frames_cut_short live rs _, sendFiles_true rs _⟩

/-- **A failed read looks like the end of the files.** When a file resolves but reading it fails,
the body the HTTP client gets is the body of the stream cut before that file: if all the files
before it were sent, the body ends without an error. When a file fails to resolve or to
pretty-print instead, the task aborts the body: the files before it, then an error. -/
theorem read_failure_ends_body_cleanly (live : Nat → Bool)
    (pre post : List (Except String Resolved)) (s : Source) (ms : Nat)
    (readErr resolveErr prettyErr : String) :
    body (getFileRecursive live (pre ++ .ok ⟨s, ms, .ok (.error readErr)⟩ :: post)) =
      body (getFileRecursive live pre) ∧
    body (getFileRecursive live (pre ++ .error resolveErr :: post)) =
      ((getFileRecursive live pre).1.frames, (getFileRecursive live pre).2 == .panicked) ∧
    body (getFileRecursive live (pre ++ .ok ⟨s, ms, .error prettyErr⟩ :: post)) =
      ((getFileRecursive live pre).1.frames, (getFileRecursive live pre).2 == .panicked) := by
  simp only [getFileRecursive, sendFiles_append]
  obtain ⟨t, _ | _ | _⟩ := sendFiles live pre ⟨[], []⟩
  all_goals exact ⟨rfl, rfl, rfl⟩

/-- One file served, then a read failure: the client gets that file and a clean end. -/
example : body (getFileRecursive (fun _ ↦ true)
    [.ok ⟨.bitswap, 3, .ok (.ok [104, 105])⟩, .ok ⟨.http, 5, .ok (.error "early eof")⟩]) =
    ([[104, 105]], true) := rfl

end Iroh.Gateway
