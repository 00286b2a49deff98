import MiniOSImage.Common.Bytes
/-!
# The world the two tools run in

`create_image.py` and `create_iso.py` are Python programs over the file system
and the process table. `World` holds what they read and change: regular files
and directories, the one file object open for writing, the temporary staging
directory, what was printed, and the trace of side effects (processes started,
files opened for writing, directories made). `Host` is the part no program
controls: what each file-system call meets, what a started process does, and
the name `mkdtemp` picks. A statement "for every environment" quantifies over
the host, which the world carries and no step changes.

A program is a `PyM` value, `EStateM PyError World`: the monad of Lean's own
`IO`, in which the world a step leaves survives the exception it raises, as in
Python. `Wp` reads a run through a postcondition for each outcome; its rules
(`wp_bind`, `wp_tryCatch`, `wp_tryFinally`, …) are what later proofs execute
programs with.
-/

namespace MiniOSImage

/-- The exceptions the tools raise, by the classes their handlers tell apart;
each carries what `str(e)` prints. -/
inductive PyError
  /-- `FileNotFoundError`. -/
  | fileNotFound (msg : String)
  /-- `IsADirectoryError`. -/
  | isADirectory (msg : String)
  /-- Any other `OSError` (`IOError` is another name for it). -/
  | osError (msg : String)
  /-- An `Exception` that is not an `OSError`. -/
  | exception (msg : String)
  /-- `SystemExit`, raised by `sys.exit(code)`; not an `Exception`. -/
  | systemExit (code : ℕ)
  deriving DecidableEq, Repr

namespace PyError

/-- `isinstance(e, OSError)`, which is what `except IOError` tests. -/
def isOSError : PyError → Bool
  | fileNotFound _ | isADirectory _ | osError _ => true
  | _ => false

/-- `isinstance(e, Exception)`. -/
def isException : PyError → Bool
  | systemExit _ => false
  | _ => true

theorem isException_of_isOSError {e : PyError} (h : e.isOSError) : e.isException := by
  cases e <;> simp_all [isOSError, isException]

/-- `str(e)`. -/
def str : PyError → String
  | fileNotFound m | isADirectory m | osError m | exception m => m
  | systemExit c => toString c

instance : ToString PyError := ⟨str⟩

end PyError

/-- The text CPython gives an `OSError` raised for a path. -/
def errnoMessage (errno : ℕ) (text path : String) : String :=
  s!"[Errno {errno}] {text}: \x27{path}\x27"

/-- What the disk does with one file-system call: it succeeds, or fails with an
`OSError`. On a call to an open write handle, `flush` is how far the handle's
buffer has passed the bytes written so far to the disk when the call returns. -/
inductive Fate
  | ok (flush : ℕ)
  | fault (flush : ℕ) (msg : String)
  deriving DecidableEq, Repr

/-- A `subprocess.CompletedProcess`, as far as the tools read it. -/
structure Completed where
  returncode : ℤ
  stderr : String
  deriving DecidableEq, Repr

/-- What a started process does: how `subprocess.run` comes back, or the
`Exception` it raises, and what the process leaves at the path its argv names
after `-o`, given what was there. -/
structure Spawn where
  result : Except PyError Completed
  leaves : Option Bytes → Option Bytes
  raises_exception : ∀ e, result = .error e → e.isException = true

/-- **The environment.** Every call to the host is numbered by the world's
`clock`. -/
structure Host where
  /-- The fate of a file-system call. -/
  disk : ℕ → Fate
  /-- What starting a process with a given argv does. -/
  spawn : ℕ → List String → Spawn
  /-- The name `tempfile.mkdtemp` returns. -/
  tempName : ℕ → String

/-- A host whose disk never fails a call. How far buffers are flushed is still
its choice. -/
def Host.Reliable (h : Host) : Prop := ∀ t, ∃ k, h.disk t = .ok k

/-- A machine whose disk never fails and whose buffers reach the disk only on
close, and on which `which` finds no tool: every process exits 1 and leaves
the output path as it was. -/
def Host.bare : Host where
  disk _ := .ok 0
  spawn _ _ := ⟨.ok ⟨1, ""⟩, id, fun _ h => nomatch h⟩
  tempName _ := "/tmp/tmpiso"

theorem Host.bare_reliable : Host.bare.Reliable := fun _ => ⟨0, rfl⟩

/-- An open `'wb'` file object: `data` is every byte handed to `write`, and the
first `flushed` of them are on the disk. -/
structure Writer where
  path : String
  data : Bytes
  flushed : ℕ
  flushed_le : flushed ≤ data.length

namespace Writer

/-- The handle `open(p, 'wb')` returns, on a file it has just truncated. -/
def fresh (p : String) : Writer := ⟨p, [], 0, Nat.le_refl 0⟩

/-- What of the handle's bytes is on the disk. -/
def onDisk (f : Writer) : Bytes := f.data.take f.flushed

/-- `write(c)`: the bytes join the buffer. -/
def append (f : Writer) (c : Bytes) : Writer :=
  ⟨f.path, f.data ++ c, f.flushed, by simp only [List.length_append]; have := f.flushed_le; omega⟩

/-- The buffer passes bytes to the disk up to `k`; what reached it stays. -/
def flushTo (f : Writer) (k : ℕ) : Writer :=
  ⟨f.path, f.data, max f.flushed (min k f.data.length),
    Nat.max_le.mpr ⟨f.flushed_le, Nat.min_le_right _ _⟩⟩

@[simp] theorem fresh_path (p : String) : (fresh p).path = p := rfl
@[simp] theorem fresh_data (p : String) : (fresh p).data = [] := rfl
@[simp] theorem append_path (f : Writer) (c : Bytes) : (f.append c).path = f.path := rfl
@[simp] theorem append_data (f : Writer) (c : Bytes) : (f.append c).data = f.data ++ c := rfl
@[simp] theorem flushTo_path (f : Writer) (k : ℕ) : (f.flushTo k).path = f.path := rfl
@[simp] theorem flushTo_data (f : Writer) (k : ℕ) : (f.flushTo k).data = f.data := rfl

/-- Flushing everything puts the whole stream on the disk. -/
@[simp] theorem onDisk_flushTo_length (f : Writer) : (f.flushTo f.data.length).onDisk = f.data := by
  simp [onDisk, flushTo, Nat.max_eq_right f.flushed_le]

/-- Whatever is flushed, the disk holds a prefix of the stream. -/
theorem onDisk_prefix_data (f : Writer) : f.onDisk <+: f.data := List.take_prefix _ _

end Writer

/-- The `tempfile.TemporaryDirectory`: its name, and what was made under it,
by path relative to it. The name is fresh, so nothing else the tools touch
lies under it, and its contents are kept apart from `World.files`. -/
structure Staging where
  name : String
  dirs : List String
  files : List (String × Bytes)

/-- The side effects of a run the outside world can see. -/
inductive Call
  /-- A process was started with this argv, and `subprocess.run` came back so. -/
  | spawn (argv : List String) (result : Except PyError Completed)
  /-- A file was opened for writing (the call may have failed). -/
  | openWrite (path : String)
  /-- `os.makedirs` was called. -/
  | makedirs (path : String)

/-- Everything the tools read or change. -/
structure World where
  files : String → Option Bytes
  dirs : String → Bool
  writer : Option Writer
  staging : Option Staging
  stdout : List String
  trace : List Call
  clock : ℕ
  host : Host

/-- A world on the host `h` before any tool ran: the regular files are `fs`,
and `build` is the one directory. -/
def World.init (h : Host) (fs : List (String × Bytes)) : World where
  files p := fs.lookup p
  dirs p := p == "build"
  writer := none
  staging := none
  stdout := []
  trace := []
  clock := 0
  host := h

/-- A step of a tool: it reads and changes the world, and returns or raises. -/
abbrev PyM := EStateM PyError World

/-- The part of a world that printing and the clock leave alone. -/
structure Base where
  files : String → Option Bytes
  dirs : String → Bool
  staging : Option Staging
  trace : List Call
  host : Host

/-- The part of `w` that printing and the clock leave alone. -/
def World.base (w : World) : Base := ⟨w.files, w.dirs, w.staging, w.trace, w.host⟩

namespace World

/-- One call to the host has been made. -/
def tick (w : World) : World := { w with clock := w.clock + 1 }

/-- The host's answer to the next file-system call. -/
def fate (w : World) : Fate := w.host.disk w.clock

def setFile (w : World) (p : String) (c : Option Bytes) : World :=
  { w with files := Function.update w.files p c }

def record (w : World) (c : Call) : World := { w with trace := w.trace ++ [c] }

/-- The open handle `f` flushes up to `k`, and the disk copy follows. -/
def flushWriter (w : World) (f : Writer) (k : ℕ) : World :=
  { w.setFile f.path (some (f.flushTo k).onDisk) with writer := some (f.flushTo k) }

@[simp] theorem tick_files (w : World) : w.tick.files = w.files := rfl
@[simp] theorem tick_dirs (w : World) : w.tick.dirs = w.dirs := rfl
@[simp] theorem tick_writer (w : World) : w.tick.writer = w.writer := rfl
@[simp] theorem tick_staging (w : World) : w.tick.staging = w.staging := rfl
@[simp] theorem tick_host (w : World) : w.tick.host = w.host := rfl
@[simp] theorem tick_trace (w : World) : w.tick.trace = w.trace := rfl
@[simp] theorem tick_clock (w : World) : w.tick.clock = w.clock + 1 := rfl
@[simp] theorem setFile_files (w : World) (p : String) (c : Option Bytes) :
    (w.setFile p c).files = Function.update w.files p c := rfl
@[simp] theorem setFile_dirs (w : World) (p : String) (c : Option Bytes) :
    (w.setFile p c).dirs = w.dirs := rfl
@[simp] theorem setFile_writer (w : World) (p : String) (c : Option Bytes) :
    (w.setFile p c).writer = w.writer := rfl
@[simp] theorem setFile_staging (w : World) (p : String) (c : Option Bytes) :
    (w.setFile p c).staging = w.staging := rfl
@[simp] theorem setFile_host (w : World) (p : String) (c : Option Bytes) :
    (w.setFile p c).host = w.host := rfl
@[simp] theorem setFile_trace (w : World) (p : String) (c : Option Bytes) :
    (w.setFile p c).trace = w.trace := rfl
@[simp] theorem setFile_clock (w : World) (p : String) (c : Option Bytes) :
    (w.setFile p c).clock = w.clock := rfl
@[simp] theorem record_files (w : World) (c : Call) : (w.record c).files = w.files := rfl
@[simp] theorem record_dirs (w : World) (c : Call) : (w.record c).dirs = w.dirs := rfl
@[simp] theorem record_writer (w : World) (c : Call) : (w.record c).writer = w.writer := rfl
@[simp] theorem record_staging (w : World) (c : Call) : (w.record c).staging = w.staging := rfl
@[simp] theorem record_host (w : World) (c : Call) : (w.record c).host = w.host := rfl
@[simp] theorem record_trace (w : World) (c : Call) : (w.record c).trace = w.trace ++ [c] := rfl
@[simp] theorem record_clock (w : World) (c : Call) : (w.record c).clock = w.clock := rfl
@[simp] theorem flushWriter_files (w : World) (f : Writer) (k : ℕ) :
    (w.flushWriter f k).files = Function.update w.files f.path (some (f.flushTo k).onDisk) := rfl
@[simp] theorem flushWriter_dirs (w : World) (f : Writer) (k : ℕ) :
    (w.flushWriter f k).dirs = w.dirs := rfl
@[simp] theorem flushWriter_writer (w : World) (f : Writer) (k : ℕ) :
    (w.flushWriter f k).writer = some (f.flushTo k) := rfl
@[simp] theorem flushWriter_staging (w : World) (f : Writer) (k : ℕ) :
    (w.flushWriter f k).staging = w.staging := rfl
@[simp] theorem flushWriter_host (w : World) (f : Writer) (k : ℕ) :
    (w.flushWriter f k).host = w.host := rfl
@[simp] theorem flushWriter_trace (w : World) (f : Writer) (k : ℕ) :
    (w.flushWriter f k).trace = w.trace := rfl
@[simp] theorem flushWriter_clock (w : World) (f : Writer) (k : ℕ) :
    (w.flushWriter f k).clock = w.clock := rfl

end World

/-! ## Reading a run -/

/-- A run's outcome meets `Q` if it returns, `E` if it raises. -/
def Post {α : Type} (Q : α → World → Prop) (E : PyError → World → Prop) :
    EStateM.Result PyError World α → Prop
  | .ok a w => Q a w
  | .error e w => E e w

/-- **The weakest precondition**: the run of `x` from `w` meets `Q` and `E`. -/
def Wp {α : Type} (x : PyM α) (Q : α → World → Prop) (E : PyError → World → Prop)
    (w : World) : Prop :=
  Post Q E (x w)

section Rules

variable {α β : Type} {Q : β → World → Prop} {E : PyError → World → Prop} {w : World}

@[simp] theorem wp_pure (b : β) : Wp (pure b) Q E w ↔ Q b w := Iff.rfl

@[simp] theorem wp_throw (e : PyError) : Wp (throw e : PyM β) Q E w ↔ E e w := Iff.rfl

@[simp] theorem wp_bind (x : PyM α) (f : α → PyM β) :
    Wp (x >>= f) Q E w ↔ Wp x (fun a w' => Wp (f a) Q E w') E w := by
  show Post Q E (EStateM.bind x f w) ↔ _
  unfold EStateM.bind Wp; cases x w <;> rfl

@[simp] theorem wp_map (x : PyM α) (f : α → β) :
    Wp (f <$> x) Q E w ↔ Wp x (fun a => Q (f a)) E w := by
  show Post Q E (EStateM.map f x w) ↔ _
  unfold EStateM.map Wp; cases x w <;> rfl

@[simp] theorem wp_tryCatch (x : PyM β) (h : PyError → PyM β) :
    Wp (tryCatch x h) Q E w ↔ Wp x Q (fun e w' => Wp (h e) Q E w') w := by
  show Post Q E (EStateM.tryCatch x h w) ↔ _
  unfold EStateM.tryCatch Wp; cases x w <;> rfl

/-- Python's `finally`, and the exit of a `with` block: the clean-up runs on
both outcomes, and an exception it raises replaces the body's. -/
@[simp] theorem wp_tryFinally (x : PyM β) (c : PyM Unit) :
    Wp (tryFinally x c) Q E w ↔
      Wp x (fun b w' => Wp c (fun _ => Q b) E w') (fun e w' => Wp c (fun _ => E e) E w') w := by
  show Post Q E (EStateM.map Prod.fst (tryFinally' x fun _ => c) w) ↔ _
  unfold EStateM.map Wp tryFinally' EStateM.instMonadFinally
  dsimp only
  cases x w with
  | ok b w' => simp only [Post]; cases c w' <;> rfl
  | error e w' => simp only [Post]; cases c w' <;> rfl

@[simp] theorem wp_ite (c : Prop) [Decidable c] (x y : PyM β) :
    Wp (if c then x else y) Q E w ↔ if c then Wp x Q E w else Wp y Q E w := by
  split <;> rfl

theorem Wp.mono {x : PyM β} {Q' : β → World → Prop} {E' : PyError → World → Prop}
    (h : Wp x Q E w) (hQ : ∀ b w', Q b w' → Q' b w') (hE : ∀ e w', E e w' → E' e w') :
    Wp x Q' E' w := by
  unfold Wp at *
  cases hx : x w <;> simp only [hx, Post] at h ⊢
  exacts [hQ _ _ h, hE _ _ h]

/-- What a run that returned satisfies. -/
theorem Wp.of_ok {x : PyM β} {b : β} {w' : World} (h : Wp x Q E w) (hx : x w = .ok b w') :
    Q b w' := by
  unfold Wp at h; rwa [hx] at h

/-- What a run that raised satisfies. -/
theorem Wp.of_error {x : PyM β} {e : PyError} {w' : World} (h : Wp x Q E w)
    (hx : x w = .error e w') : E e w' := by
  unfold Wp at h; rwa [hx] at h

/-- A run that meets `E` and never returns raises, with `E`. -/
theorem Wp.error_of {x : PyM β} (h : Wp x (fun _ _ => False) E w) :
    ∃ e w', x w = .error e w' ∧ E e w' := by
  unfold Wp at h
  cases hx : x w <;> simp only [hx, Post] at h
  exact ⟨_, _, rfl, h⟩

/-- A run that meets `Q` and never raises returns, with `Q`. -/
theorem Wp.ok_of {x : PyM β} (h : Wp x Q (fun _ _ => False) w) :
    ∃ b w', x w = .ok b w' ∧ Q b w' := by
  unfold Wp at h
  cases hx : x w <;> simp only [hx, Post] at h
  exact ⟨_, _, rfl, h⟩

/-- What holds of every outcome holds of the run. -/
theorem Wp.of_forall {x : PyM β} (hQ : ∀ b w', Q b w') (hE : ∀ e w', E e w') : Wp x Q E w := by
  unfold Wp
  cases x w
  exacts [hQ _ _, hE _ _]

/-- Two facts about one run hold together. -/
theorem Wp.and {x : PyM β} {Q' : β → World → Prop} {E' : PyError → World → Prop}
    (h : Wp x Q E w) (h' : Wp x Q' E' w) :
    Wp x (fun b w' => Q b w' ∧ Q' b w') (fun e w' => E e w' ∧ E' e w') w := by
  unfold Wp at *
  cases hx : x w <;> simp only [hx, Post] at h h' ⊢ <;> exact ⟨h, h'⟩

end Rules

/-! ## Invariants of whole programs -/

/-- **A program that keeps the invariant `I`**: from every world that
satisfies it, its run ends, returning or raising, in one that does too. -/
def Preserves {α : Type} (I : World → Prop) (x : PyM α) : Prop :=
  ∀ w, I w → Wp x (fun _ => I) (fun _ => I) w

namespace Preserves

variable {α β : Type} {I : World → Prop}

theorem pure (a : α) : Preserves I (Pure.pure a) := fun _ h => h

theorem throw (e : PyError) : Preserves I (MonadExcept.throw e : PyM α) := fun _ h => h

theorem bind {x : PyM α} {f : α → PyM β} (hx : Preserves I x) (hf : ∀ a, Preserves I (f a)) :
    Preserves I (x >>= f) := fun w h =>
  (wp_bind x f).mpr ((hx w h).mono (fun a w' h' => hf a w' h') fun _ _ h' => h')

theorem tryCatch {x : PyM α} {k : PyError → PyM α} (hx : Preserves I x)
    (hk : ∀ e, Preserves I (k e)) : Preserves I (MonadExcept.tryCatch x k) := fun w h =>
  (wp_tryCatch x k).mpr ((hx w h).mono (fun _ _ h' => h') fun e w' h' => hk e w' h')

theorem tryFinally {x : PyM α} {c : PyM Unit} (hx : Preserves I x) (hc : Preserves I c) :
    Preserves I (tryFinally x c) := fun w h =>
  (wp_tryFinally x c).mpr ((hx w h).mono (fun _ w' h' => (hc w' h').mono (fun _ _ h => h)
    fun _ _ h => h) fun _ w' h' => (hc w' h').mono (fun _ _ h => h) fun _ _ h => h)

theorem ite {c : Prop} [Decidable c] {x y : PyM α} (hx : Preserves I x) (hy : Preserves I y) :
    Preserves I (if c then x else y) := by
  split
  · exact hx
  · exact hy

/-- What a program that keeps `I` leaves, on both outcomes. -/
theorem wp {x : PyM α} {w : World} {Q : α → World → Prop} {E : PyError → World → Prop}
    (hx : Preserves I x) (h : I w) (hQ : ∀ a w', I w' → Q a w') (hE : ∀ e w', I w' → E e w') :
    Wp x Q E w :=
  (hx w h).mono hQ hE

end Preserves


end MiniOSImage
