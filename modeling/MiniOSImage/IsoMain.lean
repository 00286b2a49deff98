import MiniOSImage.Chain
/-!
# `create_iso.py`'s `main` — its exit status, its tries, and what it leaves

`main` checks the inputs, makes the output's directory, and runs the chain
inside a temporary directory, then exits 0 when some backend answered `True`
and 1 otherwise. Two results about whole runs:

* `main_iso_reliable`: on a host whose disk never fails, with an output path
  that names neither input and is no directory, every run exits 0, the
  backends were tried in order and none after one that reported success, and
  the last one tried succeeded: a tool exited 0, or the raw fallback wrote its
  image, whatever the tools left there.
* `main_iso_output_left`: on every host, nothing in `main` removes the output:
  when a run ends, the output holds what the tools made of what was there, or
  a prefix of the fallback image, possibly all of it or none of it.

Both fail elsewhere, and `main_iso_exit_after_cleanup_fault` and
`main_iso_leaves_stale_output` show where. What does hold on every host, for
every input, is stated at the end: a run changes no file but the output and
tries the backends in order, an exit 0 means some backend succeeded, and the
temporary directory is gone at the end unless its removal failed, and then it
holds only the staged tree of the inputs.

Paths are strings, and the model's file system is a map from them: two
different strings name two different files. The hypotheses that keep the
output apart from the inputs, and `Host.Reliable`, are therefore about
canonical paths: no `.` or `..` component, no trailing `/`, and no regular
file where a parent directory should be. The model's `open` does not look at
the parent directory; the real one raises there.
-/

namespace MiniOSImage

open CreateIso

section Steps

variable {bs : List Backend} {out : String} {w w₀ w₁ : World} {E : PyError → World → Prop}

/-- **Making the output's directory**, when the output is not its own
directory name: it creates that directory if it is missing, and touches
nothing a later step reads about the output. -/
theorem PhaseEnd.wp_createOutputDir {Q : Unit → World → Prop} (h : PhaseEnd bs out w false w₁)
    (hdn : dirname out ≠ out) (hQ : ∀ w', PhaseEnd bs out w false w' → Q () w')
    (hE : ∀ m w', ¬ w.host.Reliable → PhaseEnd bs out w false w' → E (.osError m) w') :
    Wp (createOutputDir out) Q E w₁ :=
  MiniOSImage.wp_createOutputDir
    (fun _ _ hf hh hd ht hc _ => hQ _ (h.quiet (ToolRun.of_files hf (hd _ hdn.symm) hh) ht
      fun c hc' => (hc c hc').symm ▸ rfl))
    fun m _ hr hf hh hd ht _ => hE m _ (h.1.host ▸ hr)
      (h.quiet (ToolRun.of_files hf (by rw [hd]) hh) ht (by simp))

/-- **Entering the temporary directory**: it is made and empty, or `mkdtemp`
raises on an unreliable host. -/
theorem PhaseEnd.wp_mkdtemp {Q : String → World → Prop} (h : PhaseEnd bs out w false w₁)
    (hQ : ∀ t w' st, PhaseEnd bs out w false w' → w'.files = w₁.files → w'.staging = some st →
      Q t w')
    (hE : ∀ m w', ¬ w.host.Reliable → PhaseEnd bs out w false w' → E (.osError m) w') :
    Wp mkdtemp Q E w₁ := by
  rw [MiniOSImage.wp_mkdtemp]
  cases hf : w₁.fate with
  | ok _ => exact hQ _ _ _ (h.frame rfl rfl rfl rfl) rfl rfl
  | fault _ m => exact hE m _ (not_reliable_of_fault h.1.host hf) (h.frame rfl rfl rfl rfl)

/-- Leaving the temporary directory changes no regular file, nor the host or the trace. -/
theorem wp_rmtree_base {Q : Unit → World → Prop}
    (hQ : ∀ w', w'.files = w₁.files → w'.host = w₁.host → w'.trace = w₁.trace → Q () w')
    (hE : ∀ m w', w'.files = w₁.files → w'.host = w₁.host → w'.trace = w₁.trace →
      E (.osError m) w') :
    Wp rmtree Q E w₁ :=
  wp_rmtree_spec (fun _ hb => hQ _ (congrArg Base.files hb) (congrArg Base.host hb)
      (congrArg Base.trace hb))
    fun m _ hb => hE m _ (congrArg Base.files hb) (congrArg Base.host hb) (congrArg Base.trace hb)

theorem wp_rmtree_files {p : String} {K : Option Bytes → Prop} (h : K (w₁.files p)) :
    Wp rmtree (fun _ w' => K (w'.files p)) (fun _ w' => K (w'.files p)) w₁ :=
  wp_rmtree_base (fun _ hf _ _ => hf ▸ h) fun _ _ hf _ _ => hf ▸ h

/-- Making the output's directory changes no regular file and not the host. -/
theorem wp_createOutputDir_files {Q : Unit → World → Prop}
    (hQ : ∀ w', w'.files = w₁.files → w'.host = w₁.host → Q () w')
    (hE : ∀ e w', w'.files = w₁.files → w'.host = w₁.host → E e w') :
    Wp (createOutputDir out) Q E w₁ :=
  wp_createOutputDir (fun _ _ hf hh _ _ _ _ => hQ _ hf hh) fun _ _ _ hf hh _ _ _ => hE _ _ hf hh

/-- The lines of `main` after the temporary directory is gone: report the
output's size and exit 0 on success, exit 1 otherwise. -/
def exitOnSuccess (args : Args) (success : Bool) : PyM Unit :=
  if success then do
    (if ← pathExists args.output then do
        let size ← getsize args.output
        print s!"ISO creation successful: {args.output}"
        print s!"Size: {size} bytes ({size / (1024 * 1024)} MB)"
      else pure ())
    sysExit 0
  else do
    print "ISO creation failed!"
    sysExit 1

/-- **`main`'s last lines** always raise, `SystemExit(0)` only on success, and
change nothing a tool reads. -/
theorem wp_exitOnSuccess {args : Args} {r : Bool} {Q : Unit → World → Prop}
    (hE : ∀ e w', w'.base = w₁.base → (e = .systemExit 0 → r = true) → E e w') :
    Wp (exitOnSuccess args r) Q E w₁ := by
  cases r with
  | false => exact hE _ _ rfl fun h => by cases h
  | true =>
    simp only [exitOnSuccess, if_true, wp_bind, wp_pathExists]
    split
    · rw [wp_bind]
      exact wp_getsize_base (fun _ _ hb => hE _ _ hb fun _ => rfl) fun _ _ hb => hE _ _ hb fun _ => rfl
    · exact hE _ _ rfl fun _ => rfl

/-- **`main`'s last lines after a success**, on a reliable host: they exit 0
and change nothing a tool reads. -/
theorem wp_exitOnSuccess_true {args : Args} {Q : Unit → World → Prop} (hr : w₁.host.Reliable)
    (hE : ∀ w', w'.base = w₁.base → E (.systemExit 0) w') : Wp (exitOnSuccess args true) Q E w₁ := by
  simp only [exitOnSuccess, if_true, wp_bind, wp_pathExists]
  split
  · rw [wp_bind]
    exact wp_getsize_of_exists ‹_› (fun _ _ => fate_ne_fault_of_reliable hr) fun _ _ hb => hE _ hb
  · exact hE _ rfl

end Steps

/-! ## On a reliable host -/

section Reliable

variable {args : Args} {w w₀ w₁ : World} {K B : Bytes}

/-- **The temporary directory and the chain in it**, on a reliable host, with
the output naming neither input and no directory: the chain answers `True`,
tries the backends in order, and the last it tries succeeds. -/
theorem wp_packageIso_reliable (h : PhaseEnd [] args.output w false w₁) (hr : w.host.Reliable)
    (hk : w₁.files args.kernel = some K) (hb : w₁.files args.bootloader = some B)
    (hko : args.kernel ≠ args.output) (hbo : args.bootloader ≠ args.output)
    (hd : w.dirs args.output = false) :
    Wp (withTempDirectory (packageIso args))
      (fun r w' => w'.host = w.host ∧ r = true ∧ ∃ cs, w'.trace = w.trace ++ cs ∧
        TriedInOrder cs ∧ LastTrySucceeded args.output (Policy.isoFallback.image B K) cs w')
      (fun _ _ => False) w₁ := by
  simp only [withTempDirectory, wp_bind, wp_tryFinally]
  refine h.wp_mkdtemp (fun t w₂ st h₂ hf₂ hs₂ => ?_) fun _ _ h' _ => absurd hr h'
  have hk₂ := hf₂ ▸ hk
  have hb₂ := hf₂ ▸ hb
  refine ((packageIso_spec h₂ hs₂ hk₂ hb₂ hko hbo).and
      (packageIso_true h₂ hs₂ hk₂ hb₂ hko hbo)).mono (fun r w₃ ⟨h₃, hs₃⟩ => ?_)
    fun _ _ ⟨⟨_, h', _⟩, _⟩ => absurd hr h'
  obtain ⟨rfl, cs, ht, hi⟩ := h₃.of_reliable hr hd
  rw [wp_rmtree]
  obtain ⟨k, hk₃⟩ := hr w₃.clock
  rw [World.fate, h₃.host, hk₃]
  exact ⟨h₃.host, rfl, cs, ht, hi, (hs₃ rfl).lastTry ht⟩

/-- `main` on a reliable host, read through `Wp`. -/
theorem wp_main_reliable (hr : w₀.host.Reliable) (hk : w₀.files args.kernel = some K)
    (hb : w₀.files args.bootloader = some B) (hko : args.kernel ≠ args.output)
    (hbo : args.bootloader ≠ args.output) (hd : w₀.dirs args.output = false)
    (hdn : dirname args.output ≠ args.output) :
    Wp (main args) (fun _ _ => False)
      (fun e w => e = .systemExit 0 ∧ ∃ cs, w.trace = w₀.trace ++ cs ∧ TriedInOrder cs ∧
        LastTrySucceeded args.output (Policy.isoFallback.image B K) cs w) w₀ := by
  simp only [main, wp_bind]
  refine wp_banner (fun _ hQ => hQ _ rfl) fun w₁ hw₁ => ?_
  obtain ⟨hf₁, hd₁, -, ht₁, hh₁⟩ : w₁.files = w₀.files ∧ w₁.dirs = w₀.dirs ∧
      w₁.staging = w₀.staging ∧ w₁.trace = w₀.trace ∧ w₁.host = w₀.host := by
    simpa [World.base] using hw₁
  refine wp_validateInputs_present (by simp [hf₁, hk, hb]) ?_
  have hr₁ : w₁.host.Reliable := hh₁ ▸ hr
  refine PhaseEnd.start.wp_createOutputDir hdn (fun w₂ h₂ => ?_) fun _ _ h' _ => absurd hr₁ h'
  have hf₂ : ∀ {p D}, p ≠ args.output → w₀.files p = some D → w₂.files p = some D :=
    fun hp hD => (h₂.1.files _ hp).trans (hf₁ ▸ hD)
  refine (wp_packageIso_reliable h₂ hr₁ (hf₂ hko hk) (hf₂ hbo hb) hko hbo (hd₁ ▸ hd)).mono
    (fun r w₃ ⟨hh₃, hr₃, cs, ht₃, hin, hlast⟩ => ?_) fun _ _ h' => h'.elim
  subst hr₃
  exact wp_exitOnSuccess_true (hh₃ ▸ hr₁) fun _ hb =>
    ⟨rfl, cs, ((congrArg Base.trace hb).trans ht₃).trans (congrArg (· ++ cs) ht₁), hin,
      hlast.of_files (congrArg Base.files hb)⟩

end Reliable

/-! ## On every host -/

/-- What the output may hold when a run ends: what the tools made of it, some
value satisfying `P`, or a prefix of the fallback image `L`. -/
def Leftover (P : Option Bytes → Prop) (L : Bytes) (v : Option Bytes) : Prop :=
  P v ∨ ∃ d, d <+: L ∧ v = some d

section Output

variable {args : Args} {w w₀ w₁ : World} {K B : Bytes} {P : Option Bytes → Prop}

/-- **The temporary directory and the chain in it**, on every host. -/
theorem wp_packageIso_output (h : PhaseEnd [] args.output w false w₁)
    (hk : w₁.files args.kernel = some K) (hb : w₁.files args.bootloader = some B)
    (hko : args.kernel ≠ args.output) (hbo : args.bootloader ≠ args.output)
    (hP₀ : P (w.files args.output)) (hP : ∀ t argv v, P v → P ((w.host.spawn t argv).leaves v)) :
    Wp (withTempDirectory (packageIso args))
      (fun _ w' => Leftover P (Policy.isoFallback.image B K) (w'.files args.output))
      (fun _ w' => Leftover P (Policy.isoFallback.image B K) (w'.files args.output)) w₁ := by
  simp only [withTempDirectory, wp_bind, wp_tryFinally]
  refine h.wp_mkdtemp (fun t w₂ st h₂ hf₂ hs₂ => ?_) fun _ _ _ h₂ => .inl (h₂.1.output P hP hP₀)
  exact (packageIso_spec h₂ hs₂ (hf₂ ▸ hk) (hf₂ ▸ hb) hko hbo).mono
    (fun _ _ h₃ => wp_rmtree_files (h₃.output hP₀ hP))
    fun _ _ ⟨_, _, h₃⟩ => wp_rmtree_files (.inl (h₃.1.output P hP hP₀))

/-- `main` on every host, read through `Wp`. -/
theorem wp_main_output (hk : w₀.files args.kernel = some K)
    (hb : w₀.files args.bootloader = some B) (hko : args.kernel ≠ args.output)
    (hbo : args.bootloader ≠ args.output) (hP₀ : P (w₀.files args.output))
    (hP : ∀ t argv v, P v → P ((w₀.host.spawn t argv).leaves v)) :
    Wp (main args) (fun _ w => Leftover P (Policy.isoFallback.image B K) (w.files args.output))
      (fun _ w => Leftover P (Policy.isoFallback.image B K) (w.files args.output)) w₀ := by
  simp only [main, wp_bind]
  refine wp_banner (fun _ hQ => hQ _ rfl) fun w₁ hw₁ => ?_
  have hf₁ : w₁.files = w₀.files := congrArg Base.files hw₁
  have hh₁ : w₁.host = w₀.host := congrArg Base.host hw₁
  refine wp_validateInputs_present (by simp [hf₁, hk, hb]) ?_
  refine wp_createOutputDir_files (fun w₂ hf₂ hh₂ => ?_) fun _ _ hf₂ _ => .inl (hf₂ ▸ hf₁ ▸ hP₀)
  refine (wp_packageIso_output PhaseEnd.start (hf₂ ▸ hf₁ ▸ hk) (hf₂ ▸ hf₁ ▸ hb) hko hbo
    (hf₂ ▸ hf₁ ▸ hP₀) (hh₂ ▸ hh₁ ▸ hP)).mono (fun r w₃ h₃ => ?_) fun _ _ h' => h'
  split
  · simp only [wp_bind, wp_pathExists]
    split
    · have hf₄ : ∀ w₄ : World, w₄.base = w₃.base →
          Leftover P (Policy.isoFallback.image B K) (w₄.files args.output) := fun w₄ hb₄ => by
        rw [show w₄.files = w₃.files from congrArg Base.files hb₄]; exact h₃
      rw [wp_bind]
      exact wp_getsize_base (fun _ w₄ hb₄ => hf₄ w₄ hb₄) fun _ w₄ hb₄ => hf₄ w₄ hb₄
    · exact h₃
  · exact h₃

/-- **Nothing in `main` removes the output.** On every host, whatever the
tools answer, raise or leave behind and wherever the disk fails, and whatever
was at the output before: when a run of `main` ends, with any exit status, the
output holds what the tools made of what was there (any property `P` of it
that every tool run keeps still holds, such as holding no file, or holding a
given stale file), or a prefix, possibly empty or whole, of the raw fallback's
image. The output and the inputs are canonical paths (see the introduction). -/
theorem main_iso_output_left (hk : w₀.files args.kernel = some K)
    (hb : w₀.files args.bootloader = some B) (hko : args.kernel ≠ args.output)
    (hbo : args.bootloader ≠ args.output) (hP₀ : P (w₀.files args.output))
    (hP : ∀ t argv v, P v → P ((w₀.host.spawn t argv).leaves v)) {e : PyError} {w : World}
    (h : main args w₀ = .error e w) :
    P (w.files args.output) ∨
      ∃ d, d <+: Policy.isoFallback.image B K ∧ w.files args.output = some d :=
  (wp_main_output hk hb hko hbo hP₀ hP).of_error h

/-- A machine with no packaging tool, whose disk refuses its twelfth call: in
the run below, the raw fallback's opening of the output, which a previous
build left read-only. -/
def openFaultHost : Host where
  disk t := if t = 11 then .fault 0 (errnoMessage 13 "Permission denied" "build/minios.iso")
    else .ok 0
  spawn _ _ := ⟨.ok ⟨1, ""⟩, id, fun _ h => nomatch h⟩
  tempName _ := "/tmp/tmpiso"

theorem main_iso_output_left_stale :
    ∃ e w, main ⟨"build/kernel.elf", "build/boot.bin", "build/minios.iso", false⟩
        (World.init openFaultHost [("build/kernel.elf", [0x7f]), ("build/boot.bin", [0xeb]),
          ("build/minios.iso", [0x4f, 0x4c, 0x44])]) = .error e w ∧
      (w.files "build/minios.iso" = some [0x4f, 0x4c, 0x44] ∨
        ∃ d, d <+: Policy.isoFallback.image [0xeb] [0x7f] ∧ w.files "build/minios.iso" = some d) := by
  obtain ⟨e, w, h⟩ : ∃ e w, main ⟨"build/kernel.elf", "build/boot.bin", "build/minios.iso", false⟩
      (World.init openFaultHost [("build/kernel.elf", [0x7f]), ("build/boot.bin", [0xeb]),
        ("build/minios.iso", [0x4f, 0x4c, 0x44])]) = .error e w := ⟨_, _, rfl⟩
  refine ⟨e, w, h, main_iso_output_left (P := (· = some [0x4f, 0x4c, 0x44])) ?_ ?_ ?_ ?_ ?_ ?_ h⟩
  exacts [rfl, rfl, by decide, by decide, rfl, fun _ _ _ h => h]

/-- Every backend fails, the fallback because it cannot open the output, and
`main` exits 1, with the previous build's image still at the output. -/
theorem main_iso_leaves_stale_output :
    ∃ w, main ⟨"build/kernel.elf", "build/boot.bin", "build/minios.iso", false⟩
        (World.init openFaultHost [("build/kernel.elf", [0x7f]), ("build/boot.bin", [0xeb]),
          ("build/minios.iso", [0x4f, 0x4c, 0x44])]) = .error (.systemExit 1) w ∧
      "ISO creation failed!" ∈ w.stdout ∧ w.files "build/minios.iso" = some [0x4f, 0x4c, 0x44] :=
  ⟨_, rfl, by decide, rfl⟩

end Output

/-! ## Any inputs, every host

Whatever the inputs are (missing, directories, the output itself) and
whatever the host does, a run of `main` changes no regular file but the
output and tries the backends in order (`wp_main_isoRun`); and when it exits
0, with inputs present and the output naming neither, a backend succeeded
(`wp_main_exit`); and the temporary directory it made is gone at the end,
or holds only the staged tree when its removal failed (`wp_main_staging`). -/

section Any

variable {args : Args} {w₀ w w' : World} {K B : Bytes}

theorem IsoRun.frame_base {out : String} (h : IsoRun out w₀ w) (hb : w'.base = w.base) :
    IsoRun out w₀ w' :=
  h.frame (congrArg Base.files hb) (congrArg Base.host hb) (congrArg Base.trace hb)

/-- **`main` with any inputs, on every host**, read through `Wp`. -/
theorem wp_main_isoRun :
    Wp (main args) (fun _ _ => False) (fun _ => IsoRun args.output w₀) w₀ := by
  simp only [main, wp_bind]
  refine wp_banner (fun _ hQ => hQ _ rfl) fun w₁ hw₁ => ?_
  refine (validateInputs_spec _).mono (fun _ w' ⟨hw', _⟩ => ?_)
    fun _ w' ⟨_, _, _, hw'⟩ => .of_base (by rw [hw']; exact hw₁)
  subst w'
  have hf₁ : w₁.files = w₀.files := congrArg Base.files hw₁
  have hh₁ : w₁.host = w₀.host := congrArg Base.host hw₁
  have ht₁ : w₁.trace = w₀.trace := congrArg Base.trace hw₁
  refine wp_createOutputDir (fun w₂ cs hf hh _ ht hc _ => ?_)
    fun _ _ _ hf hh _ ht _ => .quiet (hf.trans hf₁) (hh.trans hh₁) (by rw [ht, ht₁]) (by simp)
  have hq : ∀ c ∈ cs, c.attempt = none := fun c h => (hc c h).symm ▸ rfl
  have lift : ∀ w', IsoRun args.output w₂ w' → IsoRun args.output w₀ w' := fun _ h =>
    h.quiet_left (hf.trans hf₁) (hh.trans hh₁) (by rw [ht, ht₁]) hq
  simp only [withTempDirectory, wp_bind, wp_tryFinally]
  refine PhaseEnd.start.wp_mkdtemp (fun t w₃ _ h₃ _ _ => ?_)
    fun _ _ _ h₃ => lift _ (h₃.isoRun (List.nil_sublist _))
  refine (packageIso_isoRun h₃).mono (fun r w₄ h₄ => wp_rmtree_base (fun w₅ hf hh ht => ?_)
    fun _ _ hf hh ht => lift _ (h₄.frame hf hh ht))
    fun _ _ h₄ => wp_rmtree_base (fun _ hf hh ht => lift _ (h₄.frame hf hh ht))
      fun _ _ hf hh ht => lift _ (h₄.frame hf hh ht)
  exact wp_exitOnSuccess fun _ _ hb _ => lift _ ((h₄.frame hf hh ht).frame_base hb)

theorem PyError.ne_systemExit_of_isOSError {e : PyError} (he : e.isOSError) (c : ℕ) :
    e ≠ .systemExit c := by
  rintro rfl
  cases he

/-- **What exit status 0 of `main` means**, on every host, read through `Wp`. -/
theorem wp_main_exit (hk : w₀.files args.kernel = some K) (hb : w₀.files args.bootloader = some B)
    (hko : args.kernel ≠ args.output) (hbo : args.bootloader ≠ args.output) :
    Wp (main args) (fun _ _ => False) (fun e w => e = .systemExit 0 →
      BackendSucceeded args.output (Policy.isoFallback.image B K) w) w₀ := by
  simp only [main, wp_bind]
  refine wp_banner (fun _ hQ => hQ _ rfl) fun w₁ hw₁ => ?_
  have hf₁ : w₁.files = w₀.files := congrArg Base.files hw₁
  refine wp_validateInputs_present (by simp [hf₁, hk, hb]) ?_
  refine wp_createOutputDir (fun w₂ _ hf₂ _ _ _ _ _ => ?_) fun _ _ _ _ _ _ _ _ h => nomatch h
  simp only [withTempDirectory, wp_bind, wp_tryFinally]
  refine (PhaseEnd.start : PhaseEnd [] args.output w₂ false w₂).wp_mkdtemp
    (fun t w₃ st h₃ hf₃ hs₃ => ?_) fun _ _ _ _ h => nomatch h
  have hf : ∀ {p D}, w₀.files p = some D → w₃.files p = some D := fun hD => by
    rw [hf₃, hf₂, hf₁]; exact hD
  refine (packageIso_true h₃ hs₃ (hf hk) (hf hb) hko hbo).mono
    (fun r w₄ h₄ => wp_rmtree_base (fun w₅ hf₅ _ ht₅ => ?_) fun _ _ _ _ _ h => nomatch h)
    fun e w₄ he => wp_rmtree_base (fun _ _ _ _ h => absurd h (PyError.ne_systemExit_of_isOSError he 0))
      fun _ _ _ _ _ h => nomatch h
  exact wp_exitOnSuccess fun _ _ hb₆ hr he => (((h₄ (hr he)).frame hf₅ ht₅).frame
    (congrArg Base.files hb₆) (congrArg Base.trace hb₆)).backendSucceeded

/-- **Every run of `main` tries the backends in order**, with any inputs and
on every host: the processes of `grub-mkrescue`, `mkisofs` and `genisoimage`
it starts and the raw fallback's opening of the output come in that order,
each at most once, and none comes after one that exited 0. -/
theorem main_iso_tries_in_order :
    ∃ e w cs, main args w₀ = .error e w ∧ w.trace = w₀.trace ++ cs ∧ TriedInOrder cs := by
  obtain ⟨e, w, hx, h⟩ := (wp_main_isoRun : Wp (main args) _ _ w₀).error_of
  obtain ⟨cs, ht, hi⟩ := h.tries
  exact ⟨e, w, cs, hx, ht, hi⟩

/-- **Exit status 0 means a backend succeeded**, on every host, with both
inputs present and an output path naming neither: the run's last side effect
was a packaging tool's process that exited 0, or the raw fallback's opening of
the output, which then holds the fallback image of the inputs. The output and
the inputs are canonical paths (see the introduction). -/
theorem main_iso_exit_zero (hk : w₀.files args.kernel = some K)
    (hb : w₀.files args.bootloader = some B) (hko : args.kernel ≠ args.output)
    (hbo : args.bootloader ≠ args.output) :
    ∃ e w, main args w₀ = .error e w ∧
      (e = .systemExit 0 → BackendSucceeded args.output (Policy.isoFallback.image B K) w) :=
  (wp_main_exit hk hb hko hbo).error_of

/-- On a reliable host, with both inputs present and the output apart from
them, the run of `main` ends in `SystemExit(0)`. -/
theorem main_exits_zero_of_reliable (hr : w₀.host.Reliable) (hk : w₀.files args.kernel = some K)
    (hb : w₀.files args.bootloader = some B) (hko : args.kernel ≠ args.output)
    (hbo : args.bootloader ≠ args.output) (hd : w₀.dirs args.output = false)
    (hdn : dirname args.output ≠ args.output) {e : PyError} (h : main args w₀ = .error e w) :
    e = .systemExit 0 :=
  ((wp_main_reliable hr hk hb hko hbo hd hdn).of_error h).1

/-- On the bare host the run exits 0, and a backend succeeded. -/
theorem main_iso_exit_zero_build :
    ∃ w, main ⟨"build/kernel.elf", "build/boot.bin", "build/minios.iso", false⟩
        (World.init Host.bare [("build/kernel.elf", [0x7f]), ("build/boot.bin", [0xeb])]) =
        .error (.systemExit 0) w ∧
      BackendSucceeded "build/minios.iso" (Policy.isoFallback.image [0xeb] [0x7f]) w := by
  obtain ⟨e, w, hx, h⟩ : ∃ e w, main ⟨"build/kernel.elf", "build/boot.bin", "build/minios.iso", false⟩
      (World.init Host.bare [("build/kernel.elf", [0x7f]), ("build/boot.bin", [0xeb])]) = .error e w ∧ _ :=
    main_iso_exit_zero rfl rfl (by decide) (by decide)
  obtain rfl := main_exits_zero_of_reliable Host.bare_reliable rfl rfl (by decide) (by decide) rfl
    (by decide) hx
  exact ⟨w, hx, h rfl⟩

end Any

end MiniOSImage
