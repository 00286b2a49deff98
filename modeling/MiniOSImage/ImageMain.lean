import MiniOSImage.RawImage
/-!
# `create_image.py`'s `main` — what the tool is for, and what it does

`imageTool` says what the raw-image tool is for, as a function from the
files before a run to its exit status and the files after: with both inputs
regular files, exit 0 with the output holding the 1 MiB / 16 MiB image of
them and every other file as it was; otherwise exit 1 with nothing changed.
Four results about whole runs of `main`:

* `main_image_refines`: on a host whose disk never fails, with an output path
  that is no directory and not its own directory name, every run ends with
  exactly the status and the files `imageTool` prescribes, also when the
  output names an input.
* `main_image_exit_zero`: on every host, a run that exits 0 leaves exactly the
  files `imageTool` prescribes.
* `main_image_output_left`: on every host, a run changes no file but the
  output, and leaves there what was there or a prefix of the image.
* `main_image_rerun`: on a host whose disk never fails, running the tool a
  second time on what the first run left ends with the same status and
  changes no file.

`create_arm64_image` reads both inputs before it opens the output, which is
why no hypothesis keeps the output apart from the inputs here, unlike for
`create_iso.py`.

Paths are strings, and the model's file system is a map from them: two
different strings name two different files. The hypotheses on the output,
and `Host.Reliable`, are therefore about canonical paths: no `.` or `..`
component, no trailing `/`, and no regular file where a parent directory
should be. The model's `open` does not look at the parent directory; the real
one raises there, so on such a path a run the model sees succeed exits 1.
-/

namespace MiniOSImage

open CreateImage

/-- **What `create_image.py` is for**: with both inputs regular files `K` and
`B`, exit 0 with the output holding the raw image of `B` and `K` and every
other file as it was; otherwise exit 1 with nothing changed. -/
def imageTool (args : Args) (files : String → Option Bytes) : ℕ × (String → Option Bytes) :=
  match files args.kernel, files args.bootloader with
  | some K, some B => (0, Function.update files args.output (some (Policy.rawImage.image B K)))
  | _, _ => (1, files)

section Spec

variable {args : Args} {files : String → Option Bytes} {K B : Bytes}

theorem imageTool_of_some (hk : files args.kernel = some K) (hb : files args.bootloader = some B) :
    imageTool args files = (0, Function.update files args.output (some (Policy.rawImage.image B K))) := by
  simp [imageTool, hk, hb]

theorem imageTool_of_none (h : (files args.kernel).isNone ∨ (files args.bootloader).isNone) :
    imageTool args files = (1, files) := by
  unfold imageTool
  split
  · next hk hb => simp [hk, hb] at h
  · rfl

/-- **Running the tool on what it left changes nothing more**, when the output
names neither input. -/
theorem imageTool_idem (hko : args.kernel ≠ args.output) (hbo : args.bootloader ≠ args.output) :
    imageTool args (imageTool args files).2 = imageTool args files := by
  cases hk : files args.kernel <;> cases hb : files args.bootloader <;>
    simp [imageTool, hk, hb, Function.update_noteq hko, Function.update_noteq hbo,
      Function.update_idem]

end Spec

/-! ## `create_arm64_image` with any inputs -/

section Any

variable {w₀ w : World} {k b out : String}

/-- `except FileNotFoundError` around a read of a path that holds no regular
file: a missing path gives `None`, a directory raises `IsADirectoryError`, and
nothing else happens. -/
theorem wp_exceptFileNotFound_none {p : String} {m : Bytes → String}
    {Q : Option Bytes → World → Prop} {E : PyError → World → Prop} (h : w.files p = none)
    (hQ : w.dirs p = false → Q none w)
    (hE : w.dirs p = true → E (.isADirectory (errnoMessage 21 "Is a directory" p)) w) :
    Wp (exceptFileNotFound (do let d ← readFile p; print (m d); pure d)) Q E w := by
  simp only [exceptFileNotFound, wp_tryCatch, wp_map, wp_bind]
  rw [wp_readFile_of_none h]
  cases hd : w.dirs p
  · exact hQ hd
  · exact hE hd

/-- `except FileNotFoundError` around a read of a regular file: its contents,
or an `OSError` from a host that is not reliable. -/
theorem wp_exceptFileNotFound_some {p : String} {D : Bytes} {m : Bytes → String}
    {Q : Option Bytes → World → Prop} {E : PyError → World → Prop} (h : w.files p = some D)
    (hQ : Q (some D) { w.tick with stdout := w.stdout ++ [m D] })
    (hE : ∀ msg, ¬ w.host.Reliable → E (.osError msg) w.tick) :
    Wp (exceptFileNotFound (do let d ← readFile p; print (m d); pure d)) Q E w := by
  simp only [exceptFileNotFound, wp_tryCatch, wp_map, wp_bind]
  exact wp_readFile_cont h hQ hE

/-- **`create_arm64_image` with any inputs**, on every host. With both inputs
regular files it ends as `WriterOutcome` says for their image; otherwise it
answers `False` having changed nothing a tool reads. It raises only an
`OSError` (a read that failed, or an input that is a directory), having
changed nothing either, and on a reliable host only for a missing input. -/
theorem createArm64Image_any :
    Wp (createArm64Image k b out)
      (fun r w => (∀ K B, w₀.files k = some K → w₀.files b = some B →
          WriterOutcome w₀.base out (Policy.rawImage.image B K) r w) ∧
        ((w₀.files k).isNone ∨ (w₀.files b).isNone → r = false ∧ w.base = w₀.base))
      (fun e w => e.isOSError ∧ w.base = w₀.base ∧
        (w₀.host.Reliable → (w₀.files k).isNone ∨ (w₀.files b).isNone)) w₀ := by
  cases hk : w₀.files k with
  | some K =>
    cases hb : w₀.files b with
    | some B =>
      exact (createArm64Image_spec hk hb).mono
        (fun r w h => ⟨fun K' B' hk' hb' => by cases hk'; cases hb'; exact h, by simp⟩)
        fun _ _ ⟨he, hr, h⟩ => ⟨he, h, fun h' => absurd h' hr⟩
    | none =>
      simp only [createArm64Image, wp_bind, wp_print]
      refine wp_exceptFileNotFound_some (by exact hk) ?_ fun _ _ => ⟨rfl, rfl, fun _ => .inr rfl⟩
      simp only [wp_bind, wp_print]
      exact wp_exceptFileNotFound_none (by exact hb) (fun _ => by simp [World.base])
        fun _ => ⟨rfl, rfl, fun _ => .inr rfl⟩
  | none =>
    simp only [createArm64Image, wp_bind, wp_print]
    exact wp_exceptFileNotFound_none (by exact hk) (fun _ => by simp [World.base])
      fun _ => ⟨rfl, rfl, fun _ => .inl rfl⟩

/-- `create_x86_64_image` prints a note and does the same. -/
theorem createX86_64Image_any :
    Wp (createX86_64Image k b out)
      (fun r w => (∀ K B, w₀.files k = some K → w₀.files b = some B →
          WriterOutcome w₀.base out (Policy.rawImage.image B K) r w) ∧
        ((w₀.files k).isNone ∨ (w₀.files b).isNone → r = false ∧ w.base = w₀.base))
      (fun e w => e.isOSError ∧ w.base = w₀.base ∧
        (w₀.host.Reliable → (w₀.files k).isNone ∨ (w₀.files b).isNone)) w₀ := by
  simp only [createX86_64Image, wp_bind, wp_print]
  exact createArm64Image_any

end Any

/-! ## `main` -/

section Main

variable {args : Args} {w₀ w : World} {e : PyError} {σ : Base} {L : Bytes} {r : Bool}

theorem PyError.exitCode_of_isOSError (he : e.isOSError) : e.exitCode = 1 := by
  cases e <;> first | rfl | cases he

/-- The first missing of two paths holds no regular file. -/
theorem World.isNone_of_firstMissing {k b p : String} (h : w.firstMissing [k, b] = some p) :
    (w.files k).isNone ∨ (w.files b).isNone := by
  simp only [World.firstMissing, List.find?_cons, List.find?_nil] at h
  split at h
  · next hk => simp_all
  · split at h
    · next hb => simp_all
    · cases h

/-- **What a run of `create_image.py` leaves**, from `w₀`, when it ends
raising `e` in `w`. -/
structure ImageRun (args : Args) (w₀ : World) (e : PyError) (w : World) : Prop where
  /-- No file but the output changed. -/
  others : ∀ p, p ≠ args.output → w.files p = w₀.files p
  /-- The output holds what it held, or a prefix of the image of the inputs. -/
  output : w.files args.output = w₀.files args.output ∨ ∃ K B d,
    w₀.files args.kernel = some K ∧ w₀.files args.bootloader = some B ∧
      d <+: Policy.rawImage.image B K ∧ w.files args.output = some d
  /-- Exit status 0 leaves what the tool is for. -/
  exit_zero : e = .systemExit 0 → imageTool args w₀.files = (0, w.files)
  /-- On a reliable host, with the output no directory and not its own
  directory name, the run is what the tool is for. -/
  reliable : w₀.host.Reliable → w₀.dirs args.output = false → dirname args.output ≠ args.output →
    imageTool args w₀.files = (e.exitCode, w.files)
  host : w.host = w₀.host
  /-- Only the output's directory may have been made. -/
  dirs : ∀ p, p ≠ dirname args.output → w.dirs p = w₀.dirs p

/-- A run that changed no file and exits 1, on a reliable host only for a
missing input. -/
theorem ImageRun.of_unchanged (hf : w.files = w₀.files) (he : e.exitCode = 1)
    (hi : w₀.host.Reliable → (w₀.files args.kernel).isNone ∨ (w₀.files args.bootloader).isNone)
    (hh : w.host = w₀.host) (hd : ∀ p, p ≠ dirname args.output → w.dirs p = w₀.dirs p) :
    ImageRun args w₀ e w where
  others _ _ := by rw [hf]
  output := .inl (by rw [hf])
  exit_zero h := absurd (h ▸ he) (by decide)
  reliable hr _ _ := by rw [imageTool_of_none (hi hr), he, hf]
  host := hh
  dirs := hd

/-- A run that changed nothing a tool reads since `w₂`, which has the files
and host of `w₀` and differs from it at most in the output's directory, and
that exits 1, on a reliable host only for a missing input. -/
theorem ImageRun.of_base {w₂ : World} (hf : w₂.files = w₀.files) (hh : w₂.host = w₀.host)
    (hd : ∀ q, q ≠ dirname args.output → w₂.dirs q = w₀.dirs q) (hb : w.base = w₂.base)
    (he : e.exitCode = 1)
    (hi : w₀.host.Reliable → (w₀.files args.kernel).isNone ∨ (w₀.files args.bootloader).isNone) :
    ImageRun args w₀ e w :=
  .of_unchanged ((congrArg Base.files hb).trans hf) he hi ((congrArg Base.host hb).trans hh)
    fun q hq => (congrFun (congrArg Base.dirs hb) q).trans (hd q hq)

/-- A writer's run changed nothing but its output, the clock and the printed lines. -/
theorem WriterOutcome.frame {out : String} (h : WriterOutcome σ out L r w) : Frame σ out w := by
  cases r
  · exact h.2.elim (·.toFrame) fun ⟨_, _, hc⟩ => hc.toFrame
  · exact Closed.toFrame h

/-- A run whose writer ended as `WriterOutcome` says, in a base `σ` with the
files and host of `w₀`, and that exits 0 on `True`, 1 on `False`. -/
theorem ImageRun.of_writer {K B : Bytes} (hk : w₀.files args.kernel = some K)
    (hb : w₀.files args.bootloader = some B) (hσ : σ.files = w₀.files) (hh : σ.host = w₀.host)
    (hd : ∀ p, p ≠ dirname args.output → σ.dirs p = w₀.dirs p)
    (h : WriterOutcome σ args.output (Policy.rawImage.image B K) r w)
    (he : e = .systemExit (if r then 0 else 1)) : ImageRun args w₀ e w := by
  have hz : r = true → imageTool args w₀.files = (0, w.files) := by
    rintro rfl
    rw [imageTool_of_some hk hb, Closed.files_eq h, hσ]
  refine ⟨fun p hp => (h.frame.files p hp).trans (congrFun hσ p), ?_, fun h₀ => hz ?_,
    fun hr hd₀ hdn => ?_, h.frame.host.trans hh, fun p hp => by rw [h.frame.dirs]; exact hd p hp⟩
  · cases r
    · rcases h.2 with hf | ⟨d, hd', hc⟩
      · exact .inl (hf.file.trans (congrFun hσ _))
      · exact .inr ⟨K, B, d, hk, hb, hd', hc.file⟩
    · exact .inr ⟨K, B, _, hk, hb, List.prefix_refl _, Closed.file h⟩
  · cases r
    · cases he.symm.trans h₀
    · rfl
  · obtain rfl := h.eq_true (hh ▸ hr) ((hd _ (Ne.symm hdn)).trans hd₀)
    rw [he]
    exact hz rfl

/-- **`main` with any inputs, on every host**, read through `Wp`. -/
theorem wp_main_image : Wp (main args) (fun _ _ => False) (ImageRun args w₀) w₀ := by
  obtain ⟨arch, k, b, out, v⟩ := args
  simp only [main, wp_bind]
  refine wp_banner (fun _ hQ => hQ _ rfl) fun w₁ hw₁ => ?_
  have hf₁ : w₁.files = w₀.files := congrArg Base.files hw₁
  have hh₁ : w₁.host = w₀.host := congrArg Base.host hw₁
  have hd₁ : w₁.dirs = w₀.dirs := congrArg Base.dirs hw₁
  refine (validateInputs_spec _).mono (fun _ w' ⟨hw', _⟩ => ?_)
    fun e w' ⟨p, hp, he, hw'⟩ => .of_base hf₁ hh₁ (fun q _ => congrFun hd₁ q) (by rw [hw']; rfl)
      (by rw [he]; rfl) fun _ => hf₁ ▸ World.isNone_of_firstMissing hp
  subst w'
  refine wp_createOutputDir (fun w₂ _ hf₂ hh₂ hd₂ _ _ _ => ?_)
    fun _ _ hr hf₂ hh₂ hd₂ _ _ => .of_unchanged (hf₂.trans hf₁) rfl (fun h => absurd (hh₁ ▸ h) hr)
      (hh₂.trans hh₁) fun q _ => by rw [hd₂]; exact congrFun hd₁ q
  have hf : w₂.files = w₀.files := hf₂.trans hf₁
  have hh : w₂.host = w₀.host := hh₂.trans hh₁
  have hd : ∀ q, q ≠ dirname out → w₂.dirs q = w₀.dirs q := fun q hq =>
    (hd₂ q hq).trans (congrFun hd₁ q)
  have herr : ∀ e w₃, e.isOSError ∧ w₃.base = w₂.base ∧
      (w₂.host.Reliable → (w₂.files k).isNone ∨ (w₂.files b).isNone) →
      ImageRun ⟨arch, k, b, out, v⟩ w₀ e w₃ := fun e w₃ ⟨he, hb₃, hi⟩ =>
    .of_base hf hh hd hb₃ (PyError.exitCode_of_isOSError he) fun hr => hf ▸ hi (hh ▸ hr)
  have hok : ∀ r w₃, ((∀ K B, w₂.files k = some K → w₂.files b = some B →
      WriterOutcome w₂.base out (Policy.rawImage.image B K) r w₃) ∧
      ((w₂.files k).isNone ∨ (w₂.files b).isNone → r = false ∧ w₃.base = w₂.base)) →
      ∀ line, ImageRun ⟨arch, k, b, out, v⟩ w₀ (.systemExit (if r then 0 else 1))
        { w₃ with stdout := w₃.stdout ++ [line] } := by
    rintro r w₃ ⟨hw, hn⟩ line
    have hunchanged : (w₂.files k).isNone ∨ (w₂.files b).isNone →
        ImageRun ⟨arch, k, b, out, v⟩ w₀ (.systemExit (if r then 0 else 1))
          { w₃ with stdout := w₃.stdout ++ [line] } := fun hi => by
      obtain ⟨rfl, hb₃⟩ := hn hi
      exact .of_base hf hh hd hb₃ rfl fun _ => hf ▸ hi
    cases hk : w₂.files k with
    | none => exact hunchanged (.inl (by rw [hk]; rfl))
    | some K =>
      cases hb : w₂.files b with
      | none => exact hunchanged (.inr (by rw [hb]; rfl))
      | some B =>
        exact .of_writer (hf ▸ hk) (hf ▸ hb) hf hh hd (hw K B hk hb).print rfl
  cases arch <;> simp only [wp_bind] <;>
    [refine createArm64Image_any.mono ?_ herr; refine createX86_64Image_any.mono ?_ herr] <;>
    exact fun r w₃ h₃ => by cases r <;> exact hok _ _ h₃ _

/-- **`main` is what the tool is for, on a reliable host.** With an output
path that is no directory and not its own directory name, every run of
`main` ends with exactly the exit status and the files `imageTool`
prescribes, whatever the inputs are, also when the output names one of them.
The output is a canonical path, as the module's introduction says. -/
theorem main_image_refines (hr : w₀.host.Reliable) (hd : w₀.dirs args.output = false)
    (hdn : dirname args.output ≠ args.output) :
    ∃ e w, main args w₀ = .error e w ∧ (e.exitCode, w.files) = imageTool args w₀.files := by
  obtain ⟨e, w, hx, h⟩ := (wp_main_image : Wp (main args) _ _ w₀).error_of
  exact ⟨e, w, hx, (h.reliable hr hd hdn).symm⟩

theorem main_image_refines_build :
    ∃ e w, main ⟨.arm64, "build/kernel.elf", "build/boot.bin", "build/minios.img", false⟩
        (World.init Host.bare [("build/kernel.elf", [0x7f]), ("build/boot.bin", [0xeb])]) =
        .error e w ∧ (e.exitCode, w.files) =
          imageTool ⟨.arm64, "build/kernel.elf", "build/boot.bin", "build/minios.img", false⟩
            (World.init Host.bare [("build/kernel.elf", [0x7f]), ("build/boot.bin", [0xeb])]).files :=
  main_image_refines Host.bare_reliable rfl (by decide)

/-- **Exit status 0 is what the tool is for**, on every host and for any
inputs: a run of `main` that exits 0 leaves exactly the files `imageTool`
prescribes. -/
theorem main_image_exit_zero :
    ∃ e w, main args w₀ = .error e w ∧
      (e = .systemExit 0 → imageTool args w₀.files = (0, w.files)) := by
  obtain ⟨e, w, hx, h⟩ := (wp_main_image : Wp (main args) _ _ w₀).error_of
  exact ⟨e, w, hx, h.exit_zero⟩

/-- **`main` writes nothing but the output, and there only the image**, on
every host and for any inputs: when a run ends, with any exit status, every
other file is as it was, and the output holds what it held or a prefix,
possibly empty or whole, of the image of the inputs. -/
theorem main_image_output_left :
    ∃ e w, main args w₀ = .error e w ∧ (∀ p, p ≠ args.output → w.files p = w₀.files p) ∧
      (w.files args.output = w₀.files args.output ∨ ∃ K B d, w₀.files args.kernel = some K ∧
        w₀.files args.bootloader = some B ∧ d <+: Policy.rawImage.image B K ∧
          w.files args.output = some d) := by
  obtain ⟨e, w, hx, h⟩ := (wp_main_image : Wp (main args) _ _ w₀).error_of
  exact ⟨e, w, hx, h.others, h.output⟩

/-- **Running `main` again changes nothing**, on a reliable host, when the
output names neither input, is no directory and is not its own directory
name: the second run, from the world the first left, exits as the first did
and leaves the same files. The paths are canonical (see the introduction). -/
theorem main_image_rerun (hr : w₀.host.Reliable) (hd : w₀.dirs args.output = false)
    (hdn : dirname args.output ≠ args.output) (hko : args.kernel ≠ args.output)
    (hbo : args.bootloader ≠ args.output) :
    ∃ e w e' w', main args w₀ = .error e w ∧ main args w = .error e' w' ∧
      e'.exitCode = e.exitCode ∧ w'.files = w.files := by
  obtain ⟨e, w, hx, h⟩ := (wp_main_image : Wp (main args) _ _ w₀).error_of
  obtain ⟨e', w', hx', h'⟩ := (wp_main_image : Wp (main args) _ _ w).error_of
  have h₁ := h.reliable hr hd hdn
  have h₂ := h'.reliable (h.host ▸ hr) ((h.dirs _ (Ne.symm hdn)).trans hd) hdn
  have h₃ : (e'.exitCode, w'.files) = (e.exitCode, w.files) := calc
    (e'.exitCode, w'.files) = imageTool args w.files := h₂.symm
    _ = imageTool args (imageTool args w₀.files).2 := by rw [h₁]
    _ = imageTool args w₀.files := imageTool_idem hko hbo
    _ = (e.exitCode, w.files) := h₁
  exact ⟨e, w, e', w', hx, hx', congrArg Prod.fst h₃, congrArg Prod.snd h₃⟩

theorem main_image_rerun_build :
    ∃ e w e' w', main ⟨.arm64, "build/kernel.elf", "build/boot.bin", "build/minios.img", false⟩
        (World.init Host.bare [("build/kernel.elf", [0x7f]), ("build/boot.bin", [0xeb])]) =
        .error e w ∧
      main ⟨.arm64, "build/kernel.elf", "build/boot.bin", "build/minios.img", false⟩ w =
        .error e' w' ∧ e'.exitCode = e.exitCode ∧ w'.files = w.files :=
  main_image_rerun Host.bare_reliable rfl (by decide) (by decide) (by decide)

end Main

end MiniOSImage
