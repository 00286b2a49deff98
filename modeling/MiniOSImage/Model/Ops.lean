import MiniOSImage.Model.World
/-!
# The library calls the tools make

Each call of `os`, `shutil`, `tempfile`, `subprocess` and of a file object that
the two tools use, as a `PyM` step, with its `Wp` lemma beside it. A call that
asks the disk reads the host's `Fate` for it and ticks the clock; a call that
fails for a structural reason (a missing file, a directory where a file is
wanted) raises what CPython raises there and asks nothing.

A file object opened `'wb'` is buffered: `write` hands bytes to the buffer and
the host decides how far the buffer has reached the disk, so a reader of the
same path sees a prefix of what was written, and a failed run leaves one.
-/

namespace MiniOSImage

variable {α : Type} {Q : α → World → Prop} {E : PyError → World → Prop} {w : World}

/-- `print(line)`. -/
def print (line : String) : PyM Unit := fun w => .ok () { w with stdout := w.stdout ++ [line] }

@[simp] theorem wp_print (line : String) {Q : Unit → World → Prop} :
    Wp (print line) Q E w ↔ Q () { w with stdout := w.stdout ++ [line] } := Iff.rfl

/-- **The `--verbose` banner**: whatever lines it prints, it changes nothing a
tool reads. -/
theorem wp_banner {c : Prop} [Decidable c] {x : PyM Unit} {K : World → Prop}
    (hx : ∀ Q : Unit → World → Prop, (∀ w', w'.base = w.base → Q () w') → Wp x Q E w)
    (hK : ∀ w', w'.base = w.base → K w') : Wp (if c then x else pure ()) (fun _ => K) E w := by
  split
  · exact hx _ fun w' h => hK w' h
  · exact hK _ rfl

/-- `sys.exit(code)`. -/
def sysExit (code : ℕ) : PyM α := throw (.systemExit code)

/-- The status the Python process ends with: the code of `sys.exit`, `1` after
an uncaught exception (a traceback), `0` after a normal end. -/
def exitStatus : EStateM.Result PyError World α → ℕ
  | .ok _ _ => 0
  | .error (.systemExit c) _ => c
  | .error _ _ => 1

/-- The status of a process that ends raising `e`. -/
def PyError.exitCode : PyError → ℕ
  | .systemExit c => c
  | _ => 1

@[simp] theorem exitStatus_error {α : Type} (e : PyError) (w : World) :
    exitStatus (.error e w : EStateM.Result PyError World α) = e.exitCode := by
  cases e <;> rfl

/-! ## Paths -/

/-- `os.path.exists(p)`. -/
def pathExists (p : String) : PyM Bool := fun w => .ok ((w.files p).isSome || w.dirs p) w

@[simp] theorem wp_pathExists (p : String) {Q : Bool → World → Prop} :
    Wp (pathExists p) Q E w ↔ Q ((w.files p).isSome || w.dirs p) w := Iff.rfl

/-- `os.path.dirname(p)`: what comes before the last `/`, with trailing slashes
removed unless nothing else is left. -/
def dirname (p : String) : String :=
  let head := (p.data.reverse.dropWhile (· ≠ '/')).reverse
  if head.all (· = '/') then String.mk head else String.mk (head.reverse.dropWhile (· = '/')).reverse

/-- `os.makedirs(d)`. -/
def makedirs (d : String) : PyM Unit := fun w =>
  if (w.files d).isSome || w.dirs d then
    .error (.osError (errnoMessage 17 "File exists" d)) (w.record (.makedirs d))
  else match w.fate with
    | .ok _ => .ok () { (w.record (.makedirs d)).tick with dirs := Function.update w.dirs d true }
    | .fault _ msg => .error (.osError msg) (w.record (.makedirs d)).tick

theorem wp_makedirs {d : String} {Q : Unit → World → Prop} (h : (w.files d).isSome = false)
    (hd : w.dirs d = false) :
    Wp (makedirs d) Q E w ↔ match w.fate with
      | .ok _ => Q () { (w.record (.makedirs d)).tick with dirs := Function.update w.dirs d true }
      | .fault _ msg => E (.osError msg) (w.record (.makedirs d)).tick := by
  simp only [Wp, makedirs, h, hd, Bool.or_false, if_neg Bool.false_ne_true]
  cases w.fate <;> rfl

/-! ## Reading -/

/-- `with open(p, 'rb') as f: f.read()`. -/
def readFile (p : String) : PyM Bytes := fun w =>
  match w.files p with
  | none =>
    if w.dirs p then .error (.isADirectory (errnoMessage 21 "Is a directory" p)) w
    else .error (.fileNotFound (errnoMessage 2 "No such file or directory" p)) w
  | some d => match w.fate with
    | .ok _ => .ok d w.tick
    | .fault _ msg => .error (.osError msg) w.tick

theorem wp_readFile {p : String} {d : Bytes} {Q : Bytes → World → Prop} (h : w.files p = some d) :
    Wp (readFile p) Q E w ↔ match w.fate with
      | .ok _ => Q d w.tick
      | .fault _ msg => E (.osError msg) w.tick := by
  simp only [Wp, readFile, h]
  cases w.fate <;> rfl

/-- Reading a path that holds no regular file raises at once and asks the disk nothing. -/
theorem wp_readFile_of_none {p : String} {Q : Bytes → World → Prop} (h : w.files p = none) :
    Wp (readFile p) Q E w ↔ E (if w.dirs p then .isADirectory (errnoMessage 21 "Is a directory" p)
      else .fileNotFound (errnoMessage 2 "No such file or directory" p)) w := by
  simp only [Wp, readFile, h]
  cases w.dirs p <;> rfl

/-! ## Writing -/

/-- `open(p, 'wb')`: `p` is created or truncated, and its handle is the open
writer. -/
def openWb (p : String) : PyM Unit := fun w =>
  if w.dirs p then .error (.isADirectory (errnoMessage 21 "Is a directory" p)) (w.record (.openWrite p))
  else match w.fate with
    | .ok _ => .ok () { ((w.record (.openWrite p)).tick.setFile p (some [])) with
        writer := some (Writer.fresh p) }
    | .fault _ msg => .error (.osError msg) (w.record (.openWrite p)).tick

theorem wp_openWb {p : String} {Q : Unit → World → Prop} (hd : w.dirs p = false) :
    Wp (openWb p) Q E w ↔ match w.fate with
      | .ok _ => Q () { ((w.record (.openWrite p)).tick.setFile p (some [])) with
          writer := some (Writer.fresh p) }
      | .fault _ msg => E (.osError msg) (w.record (.openWrite p)).tick := by
  simp only [Wp, openWb, hd, if_neg Bool.false_ne_true]
  cases w.fate <;> rfl

/-- `f.write(c)` on the open writer. -/
def write (c : Bytes) : PyM Unit := fun w =>
  match w.writer with
  | none => .error (.exception "write to closed file") w
  | some f => match w.fate with
    | .ok k => .ok () (w.tick.flushWriter (f.append c) k)
    | .fault k msg => .error (.osError msg) (w.tick.flushWriter (f.append c) k)

theorem wp_write {c : Bytes} {f : Writer} {Q : Unit → World → Prop} (h : w.writer = some f) :
    Wp (write c) Q E w ↔ match w.fate with
      | .ok k => Q () (w.tick.flushWriter (f.append c) k)
      | .fault k msg => E (.osError msg) (w.tick.flushWriter (f.append c) k) := by
  simp only [Wp, write, h]
  cases w.fate <;> rfl

/-- `f.tell()`: every byte written so far, on the disk or not. -/
def tell : PyM ℕ := fun w =>
  match w.writer with
  | none => .error (.exception "I/O operation on closed file.") w
  | some f => .ok f.data.length w

theorem wp_tell {f : Writer} {Q : ℕ → World → Prop} (h : w.writer = some f) :
    Wp tell Q E w ↔ Q f.data.length w := by
  simp only [Wp, tell, h]; rfl

/-- Leaving the `with` block of a writer: the buffer is flushed and the file
closed, also when the flush fails. -/
def close : PyM Unit := fun w =>
  match w.writer with
  | none => .ok () w
  | some f => match w.fate with
    | .ok _ => .ok () { w.tick.flushWriter f f.data.length with writer := none }
    | .fault k msg => .error (.osError msg) { w.tick.flushWriter f k with writer := none }

theorem wp_close {f : Writer} {Q : Unit → World → Prop} (h : w.writer = some f) :
    Wp close Q E w ↔ match w.fate with
      | .ok _ => Q () { w.tick.flushWriter f f.data.length with writer := none }
      | .fault k msg => E (.osError msg) { w.tick.flushWriter f k with writer := none } := by
  simp only [Wp, close, h]
  cases w.fate <;> rfl

/-- `with open(p, 'wb') as f: body`. -/
def withWriter (p : String) (body : PyM α) : PyM α := do
  openWb p
  tryFinally body close

/-! ## The temporary directory -/

/-- Entering `tempfile.TemporaryDirectory()`: `mkdtemp` makes the directory. -/
def mkdtemp : PyM String := fun w =>
  match w.fate with
  | .ok _ => .ok (w.host.tempName w.clock) { w.tick with staging := some ⟨w.host.tempName w.clock, [], []⟩ }
  | .fault _ msg => .error (.osError msg) w.tick

/-- Leaving it: `shutil.rmtree` of the directory. -/
def rmtree : PyM Unit := fun w =>
  match w.fate with
  | .ok _ => .ok () { w.tick with staging := none }
  | .fault _ msg => .error (.osError msg) w.tick

/-- `with tempfile.TemporaryDirectory() as d: body d`. -/
def withTempDirectory (body : String → PyM α) : PyM α := do
  let d ← mkdtemp
  tryFinally (body d) rmtree

theorem wp_mkdtemp {Q : String → World → Prop} :
    Wp mkdtemp Q E w ↔ match w.fate with
      | .ok _ => Q (w.host.tempName w.clock)
          { w.tick with staging := some ⟨w.host.tempName w.clock, [], []⟩ }
      | .fault _ msg => E (.osError msg) w.tick := by
  simp only [Wp, mkdtemp]
  cases w.fate <;> rfl

theorem wp_rmtree {Q : Unit → World → Prop} :
    Wp rmtree Q E w ↔ match w.fate with
      | .ok _ => Q () { w.tick with staging := none }
      | .fault _ msg => E (.osError msg) w.tick := by
  simp only [Wp, rmtree]
  cases w.fate <;> rfl

/-- **Leaving the temporary directory**: it is gone, or `rmtree` raises an
`OSError` with it still in place; nothing else a tool reads changes. -/
theorem wp_rmtree_spec {Q : Unit → World → Prop}
    (hQ : ∀ w', w'.base = { w.base with staging := none } → Q () w')
    (hE : ∀ m w', w'.base = w.base → E (.osError m) w') : Wp rmtree Q E w := by
  rw [wp_rmtree]
  cases w.fate with
  | ok _ => exact hQ _ rfl
  | fault _ m => exact hE m _ rfl

/-- `os.makedirs` of a directory under the temporary one, by relative path. -/
def makedirsStaged (rel : String) : PyM Unit := fun w =>
  match w.staging with
  | none => .error (.fileNotFound (errnoMessage 2 "No such file or directory" rel)) w
  | some s => match w.fate with
    | .ok _ => .ok () { w.tick with staging := some { s with dirs := s.dirs ++ [rel] } }
    | .fault _ msg => .error (.osError msg) w.tick

/-- A whole file written under the temporary directory, by relative path. -/
def writeStaged (rel : String) (data : Bytes) : PyM Unit := fun w =>
  match w.staging with
  | none => .error (.fileNotFound (errnoMessage 2 "No such file or directory" rel)) w
  | some s => match w.fate with
    | .ok _ => .ok () { w.tick with staging := some { s with files := s.files ++ [(rel, data)] } }
    | .fault _ msg => .error (.osError msg) w.tick

/-- `shutil.copy2(src, dst)` into the temporary directory. -/
def copy2 (src rel : String) : PyM Unit := do
  writeStaged rel (← readFile src)

theorem wp_makedirsStaged {rel : String} {s : Staging} {Q : Unit → World → Prop}
    (h : w.staging = some s) :
    Wp (makedirsStaged rel) Q E w ↔ match w.fate with
      | .ok _ => Q () { w.tick with staging := some { s with dirs := s.dirs ++ [rel] } }
      | .fault _ msg => E (.osError msg) w.tick := by
  simp only [Wp, makedirsStaged, h]
  cases w.fate <;> rfl

theorem wp_writeStaged {rel : String} {data : Bytes} {s : Staging} {Q : Unit → World → Prop}
    (h : w.staging = some s) :
    Wp (writeStaged rel data) Q E w ↔ match w.fate with
      | .ok _ => Q () { w.tick with staging := some { s with files := s.files ++ [(rel, data)] } }
      | .fault _ msg => E (.osError msg) w.tick := by
  simp only [Wp, writeStaged, h]
  cases w.fate <;> rfl

/-! ## Processes -/

/-- The path an argv names after `-o`. -/
def outputArg : List String → Option String
  | "-o" :: o :: _ => some o
  | _ :: rest => outputArg rest
  | [] => none

theorem outputArg_cons_of_ne {a : String} (rest : List String) (h : a ≠ "-o") :
    outputArg (a :: rest) = outputArg rest := by
  cases rest <;> simp [outputArg, h]

@[simp] theorem outputArg_singleton (a : String) : outputArg [a] = none := by
  by_cases h : a = "-o" <;> simp [outputArg, h]

/-- The world after a process started with `argv` has run to its end as `s`
says: its outcome joins the trace, and its `-o` path holds what it left. -/
def World.spawned (w : World) (argv : List String) (s : Spawn) : World :=
  let w' := (w.record (.spawn argv s.result)).tick
  match outputArg argv with
  | some o => w'.setFile o (s.leaves (w.files o))
  | none => w'

/-- `subprocess.run(argv, capture_output=True, text=True)`. -/
def run (argv : List String) : PyM Completed := fun w =>
  let s := w.host.spawn w.clock argv
  match s.result with
  | .ok c => .ok c (w.spawned argv s)
  | .error e => .error e (w.spawned argv s)

theorem wp_run {argv : List String} {Q : Completed → World → Prop} :
    Wp (run argv) Q E w ↔ match (w.host.spawn w.clock argv).result with
      | .ok c => Q c (w.spawned argv (w.host.spawn w.clock argv))
      | .error e => E e (w.spawned argv (w.host.spawn w.clock argv)) := by
  simp only [Wp, run]
  split <;> rfl

@[simp] theorem World.spawned_trace (w : World) (argv : List String) (s : Spawn) :
    (w.spawned argv s).trace = w.trace ++ [.spawn argv s.result] := by
  unfold World.spawned; split <;> rfl

@[simp] theorem World.spawned_dirs (w : World) (argv : List String) (s : Spawn) :
    (w.spawned argv s).dirs = w.dirs := by
  unfold World.spawned; split <;> rfl

@[simp] theorem World.spawned_host (w : World) (argv : List String) (s : Spawn) :
    (w.spawned argv s).host = w.host := by
  unfold World.spawned; split <;> rfl

@[simp] theorem World.spawned_staging (w : World) (argv : List String) (s : Spawn) :
    (w.spawned argv s).staging = w.staging := by
  unfold World.spawned; split <;> rfl

/-- `os.path.getsize(p)`. -/
def getsize (p : String) : PyM ℕ := fun w =>
  match w.files p with
  | none =>
    if w.dirs p then .ok 0 w
    else .error (.fileNotFound (errnoMessage 2 "No such file or directory" p)) w
  | some d => match w.fate with
    | .ok _ => .ok d.length w.tick
    | .fault _ msg => .error (.osError msg) w.tick

/-- `os.path.getsize` of a path that exists, on a host that has not failed
the call: the size, with nothing a tool reads changed. -/
theorem wp_getsize_of_exists {p : String} {Q : ℕ → World → Prop}
    (he : ((w.files p).isSome || w.dirs p) = true) (hr : ∀ k m, w.fate ≠ .fault k m)
    (hQ : ∀ n w', w'.base = w.base → Q n w') : Wp (getsize p) Q E w := by
  unfold Wp getsize
  cases hp : w.files p with
  | none =>
    simp only [hp, Option.isSome_none, Bool.false_or] at he
    simp only [he, if_true]
    exact hQ 0 w rfl
  | some d =>
    cases hf : w.fate with
    | ok _ => exact hQ _ _ rfl
    | fault k m => exact absurd hf (hr k m)

/-- Whatever the host does, `os.path.getsize` changes nothing a tool reads. -/
theorem wp_getsize_base {p : String} {Q : ℕ → World → Prop}
    (hQ : ∀ n w', w'.base = w.base → Q n w') (hE : ∀ e w', w'.base = w.base → E e w') :
    Wp (getsize p) Q E w := by
  unfold Wp getsize
  split <;> split <;> first | exact hQ _ _ rfl | exact hE _ _ rfl

/-! ## The front ends' shared checks -/

/-- The input check both `main`s open with: `for file_path in [...]: if not
os.path.exists(file_path): print(...); sys.exit(1)`. -/
def validateInputs : List String → PyM Unit
  | [] => pure ()
  | filePath :: rest => do
    (if !(← pathExists filePath) then do
        print s!"Error: File not found: {filePath}"
        sysExit 1
      else pure ())
    validateInputs rest

/-- With every path present, the check passes and changes nothing. -/
theorem wp_validateInputs_present {ps : List String} {Q : Unit → World → Prop}
    (h : ∀ p ∈ ps, (w.files p).isSome) (hQ : Q () w) : Wp (validateInputs ps) Q E w := by
  induction ps with
  | nil => exact hQ
  | cons p ps ih =>
    simp only [validateInputs, wp_bind, wp_pathExists, h p (List.mem_cons_self _ _), Bool.true_or,
      Bool.not_true, Bool.false_eq_true, if_false, wp_pure]
    exact ih fun q hq => h q (List.mem_cons_of_mem _ hq)

/-- The first of `ps` that names neither a regular file nor a directory. -/
def World.firstMissing (w : World) (ps : List String) : Option String :=
  ps.find? fun p => !((w.files p).isSome || w.dirs p)

/-- **The input check**: it passes with the world unchanged when every path
exists, and otherwise exits 1 naming the first missing path, having changed
nothing but the printed lines. -/
theorem validateInputs_spec (ps : List String) :
    Wp (validateInputs ps) (fun _ w' => w' = w ∧ w.firstMissing ps = none)
      (fun e w' => ∃ p, w.firstMissing ps = some p ∧ e = .systemExit 1 ∧
        w' = { w with stdout := w.stdout ++ [s!"Error: File not found: {p}"] }) w := by
  induction ps with
  | nil => exact ⟨rfl, rfl⟩
  | cons p ps ih =>
    simp only [validateInputs, wp_bind, wp_pathExists, World.firstMissing, List.find?_cons]
    cases (w.files p).isSome || w.dirs p with
    | false => exact ⟨p, rfl, rfl, rfl⟩
    | true => exact ih

/-- `output_dir = os.path.dirname(output); if output_dir and not
os.path.exists(output_dir): os.makedirs(output_dir)`. -/
def createOutputDir (output : String) : PyM Unit := do
  let outputDir := dirname output
  if outputDir ≠ "" && !(← pathExists outputDir) then makedirs outputDir

/-- **Making the output's directory**: no regular file changes, nor the host;
only the output's directory may become one, and the trace gains at most the
call that made it. It raises only an `OSError`, on a host that is not
reliable, with no directory made. -/
theorem wp_createOutputDir {out : String} {Q : Unit → World → Prop}
    (hQ : ∀ w' cs, w'.files = w.files → w'.host = w.host →
      (∀ p, p ≠ dirname out → w'.dirs p = w.dirs p) → w'.trace = w.trace ++ cs →
      (∀ c ∈ cs, c = .makedirs (dirname out)) → w'.staging = w.staging → Q () w')
    (hE : ∀ m w', ¬ w.host.Reliable → w'.files = w.files → w'.host = w.host →
      w'.dirs = w.dirs → w'.trace = w.trace ++ [.makedirs (dirname out)] →
      w'.staging = w.staging → E (.osError m) w') :
    Wp (createOutputDir out) Q E w := by
  simp only [createOutputDir, wp_bind, wp_pathExists]
  split
  · next hc =>
    simp only [Bool.and_eq_true, decide_eq_true_eq, Bool.not_eq_true', Bool.or_eq_false_iff] at hc
    rw [wp_makedirs hc.2.1 hc.2.2]
    cases hf : w.fate with
    | ok _ => exact hQ _ _ rfl rfl (fun p hp => Function.update_noteq hp _ _) rfl (by simp) rfl
    | fault _ m =>
      refine hE m _ (fun hr => ?_) rfl rfl rfl rfl rfl
      obtain ⟨_, hk⟩ := hr w.clock
      simp [World.fate, hk] at hf
  · exact hQ _ [] rfl rfl (fun _ _ => rfl) (List.append_nil _).symm (by simp) rfl

end MiniOSImage
