import MiniOSImage.Model.CreateImage
import MiniOSImage.Model.CreateIso
import MiniOSImage.Layout
import MiniOSImage.Writer
/-!
# The raw writers against the layout policy

`create_arm64_image` (and `create_x86_64_image`, which calls it) and
`create_simple_iso` each write one image with one `with open(out, 'wb')`
block. Their block bodies are executed here against `Session`, and the two
guards the source writes its padding with (`padding_needed < 1MiB`, and
`padding != sector_size`) both come out as `padTo`: on success, `out` holds
`Policy.image` of the bytes read, for the 1 MiB / 16 MiB policy and the
512 B / 2 MiB one (`createArm64Image_spec`, `createSimpleIso_spec`).

The two writers differ in when they read. `create_arm64_image` reads both
inputs before it opens `out`, so naming an input as `out` changes nothing.
`create_simple_iso` opens `out` first: when `out` is the bootloader, it has
truncated the bootloader before reading it
(`createSimpleIso_output_is_bootloader`).
-/

namespace MiniOSImage

open CreateImage CreateIso

theorem zeros_ite_sub (a m : ℕ) : zeros (if a < m then m - a else 0) = zeros (m - a) := by
  split <;> first | rfl | (congr 1; omega)

/-- `create_simple_iso`'s guard, as its body leaves it. -/
theorem zeros_sectorPadding (n : ℕ) :
    zeros (if 512 - n % 512 ≠ 512 then 512 - n % 512 else 0) = zeros (padTo 512 n) :=
  congrArg zeros (sectorPadding_eq (by decide : 0 < 512))

/-- `create_arm64_image`'s guard, as its body leaves it. -/
theorem zeros_arm64Padding (n : ℕ) :
    zeros (if 1024 * 1024 - n % (1024 * 1024) < 1024 * 1024 then 1024 * 1024 - n % (1024 * 1024)
      else 0) = zeros (padTo (1024 * 1024) n) :=
  congrArg zeros (arm64Padding_eq (by decide : 0 < 1024 * 1024))

/-- **How a raw writer's run ends**, for the image `L` it writes to `out` from
the world `w₀`: `True` with `out` holding `L`; `False` only on an unreliable
host or with `out` a directory, and then with `out` untouched or holding a
prefix of `L`. -/
def WriterOutcome (σ : Base) (out : String) (L : Bytes) : Bool → World → Prop
  | true, w => Closed σ out L w
  | false, w => (¬ σ.host.Reliable ∨ σ.dirs out = true) ∧
      (OpenFailed σ out w ∨ ∃ d, d <+: L ∧ Closed σ out d w)

section

variable {σ : Base} {w₀ w : World} {k b out : String} {B K D L : Bytes}

theorem WriterOutcome.print {r : Bool} {line : String} (h : WriterOutcome σ out L r w) :
    WriterOutcome σ out L r { w with stdout := w.stdout ++ [line] } := by
  cases r with
  | true => exact Closed.print h
  | false => exact ⟨h.1, h.2.imp OpenFailed.print fun ⟨d, hd, hc⟩ => ⟨d, hd, hc.print⟩⟩

/-- **The common tail of both writers**: `try: with open(out, 'wb'): body;
return True`, with a handler that prints and returns `False` on an `OSError`. -/
theorem wp_writeImage {body : PyM Unit} {handler : PyError → PyM Bool} {E : PyError → World → Prop}
    (hbody : ∀ w, Session w₀.base out [] w →
      Wp body (fun _ w' => True ∧ Session w₀.base out L w')
        (fun e w' => e.isOSError ∧ ¬ w₀.host.Reliable ∧ ∃ d, d <+: L ∧ Session w₀.base out d w') w)
    (hhandler : ∀ e w, e.isOSError → ∃ line, handler e w = .ok false
      { w with stdout := w.stdout ++ [line] }) :
    Wp (withWriter out body) (fun _ => WriterOutcome w₀.base out L true)
      (fun e w' => Wp (handler e) (WriterOutcome w₀.base out L) E w') w₀ := by
  refine (wp_withWriter hbody).mono (fun _ w' ⟨_, h⟩ => h) (fun e w' ⟨he, hr, h⟩ => ?_)
  obtain ⟨line, hl⟩ := hhandler e w' he
  show Post _ _ (handler e w')
  rw [hl]
  exact WriterOutcome.print (r := false) ⟨hr, h⟩

/-! ## `create_arm64_image` -/

/-- The block body of `create_arm64_image` writes the 1 MiB / 16 MiB image of
the data it was given. -/
theorem wp_writeArm64Image (h : Session σ out [] w) :
    Wp (writeArm64Image K B) (fun _ w' => True ∧ Session σ out (Policy.rawImage.image B K) w')
      (fun e w' => e.isOSError ∧ ¬ σ.host.Reliable ∧
        ∃ d, d <+: Policy.rawImage.image B K ∧ Session σ out d w') w := by
  simp only [writeArm64Image, wp_bind, wp_print]
  refine h.wp_write (fun w₁ h₁ => ?_) (fun m w₁ hr h₁ => ⟨rfl, hr, _, ?_, h₁⟩)
  refine h₁.wp_writeZerosIf (fun w₂ h₂ => ?_) (fun m w₂ hr h₂ => ⟨rfl, hr, _, ?_, h₂⟩)
  refine h₂.wp_tell ?_
  refine h₂.wp_write (fun w₃ h₃ => ?_) (fun m w₃ hr h₃ => ⟨rfl, hr, _, ?_, h₃⟩)
  refine h₃.print.wp_tell ?_
  refine h₃.print.wp_writeZerosIf (fun w₄ h₄ => h₄.wp_tell ⟨trivial, ?_⟩)
    (fun m w₄ hr h₄ => ⟨rfl, hr, _, ?_, h₄⟩)
  · convert h₄.print using 1
    simp only [Policy.image, Policy.rawImage, Policy.computeRawLayout_kernelOffset, alignUp,
      List.nil_append, List.length_append, length_zeros, zeros_arm64Padding, zeros_ite_sub]
  all_goals simp only [Policy.image, Policy.rawImage, Policy.computeRawLayout_kernelOffset,
    alignUp, List.nil_append, List.length_append, length_zeros, zeros_arm64Padding, zeros_ite_sub,
    List.append_assoc, List.prefix_append, List.prefix_append_right_inj, Nat.add_assoc,
    List.prefix_refl]

/-- **`create_arm64_image`.** Both inputs are read before `out` is opened, so
`out` may name either of them. A read can only fail on an unreliable host,
and then the `OSError` escapes (the handlers catch `FileNotFoundError` only)
with nothing but the clock changed. -/
theorem createArm64Image_spec (hk : w₀.files k = some K) (hb : w₀.files b = some B) :
    Wp (createArm64Image k b out) (WriterOutcome w₀.base out (Policy.rawImage.image B K))
      (fun e w => e.isOSError ∧ ¬ w₀.host.Reliable ∧ w.base = w₀.base) w₀ := by
  simp only [createArm64Image, exceptFileNotFound, wp_bind, wp_print, wp_tryCatch, wp_map, wp_pure]
  refine wp_readFile_cont hk ?_ fun m hr => ⟨rfl, hr, rfl⟩
  refine wp_readFile_cont hb ?_ fun m hr => ⟨rfl, hr, rfl⟩
  exact wp_writeImage (fun w h => wp_writeArm64Image h) fun e w he => ⟨_, by rw [if_pos he]; rfl⟩

/-- `create_x86_64_image` prints a note and delegates. -/
theorem createX86_64Image_spec (hk : w₀.files k = some K) (hb : w₀.files b = some B) :
    Wp (createX86_64Image k b out) (WriterOutcome w₀.base out (Policy.rawImage.image B K))
      (fun e w => e.isOSError ∧ ¬ w₀.host.Reliable ∧ w.base = w₀.base) w₀ := by
  simp only [createX86_64Image, wp_bind, wp_print]
  exact createArm64Image_spec hk hb

/-! ## `create_simple_iso`

Its block reads the bootloader after `out` is opened, so what it reads
depends on whether `out` names it: `ReadsAs` says what the read yields. -/

/-- Reading `p` in a session that has written nothing yields `D`. -/
def ReadsAs (σ : Base) (out p : String) (D : Bytes) : Prop :=
  ∀ {Q : Bytes → World → Prop} {E : PyError → World → Prop} w, Session σ out [] w →
    (∀ w', Session σ out [] w' → Q D w') →
    (∀ m w', ¬ σ.host.Reliable → Session σ out [] w' → E (.osError m) w') → Wp (readFile p) Q E w

/-- Another file reads as it was. -/
theorem readsAs_of_ne {p : String} (hp : p ≠ out) (hD : σ.files p = some D) :
    ReadsAs σ out p D := fun _ h hQ hE => h.wp_readFile hp hD hQ hE

/-- The file being written reads as empty: `open(out, 'wb')` truncated it. -/
theorem readsAs_self : ReadsAs σ out out [] := fun _ h hQ hE =>
  h.wp_readFile_self (fun _ w' hD h' => List.prefix_nil.mp hD ▸ hQ w' h') hE

/-- The block body of `create_simple_iso` writes the 512 B / 2 MiB image of
what the bootloader reads as and the kernel, when `out` is not the kernel. -/
theorem wp_writeSimpleIso (hb : ReadsAs σ out b B) (hk : σ.files k = some K) (hko : k ≠ out)
    (h : Session σ out [] w) :
    Wp (writeSimpleIso k b) (fun _ w' => True ∧ Session σ out (Policy.isoFallback.image B K) w')
      (fun e w' => e.isOSError ∧ ¬ σ.host.Reliable ∧
        ∃ d, d <+: Policy.isoFallback.image B K ∧ Session σ out d w') w := by
  simp only [writeSimpleIso, wp_bind]
  refine hb w h (fun w₁ h₁ => ?_) (fun m w₁ hr h₁ => ⟨rfl, hr, [], List.nil_prefix, h₁⟩)
  refine h₁.wp_write (fun w₂ h₂ => ?_) (fun m w₂ hr h₂ => ⟨rfl, hr, _, ?_, h₂⟩)
  refine h₂.wp_tell ?_
  refine h₂.wp_writeZerosIf (fun w₃ h₃ => ?_) (fun m w₃ hr h₃ => ⟨rfl, hr, _, ?_, h₃⟩)
  refine h₃.wp_readFile hko hk (fun w₄ h₄ => ?_) (fun m w₄ hr h₄ => ⟨rfl, hr, _, ?_, h₄⟩)
  refine h₄.wp_write (fun w₅ h₅ => ?_) (fun m w₅ hr h₅ => ⟨rfl, hr, _, ?_, h₅⟩)
  refine h₅.wp_tell ?_
  refine h₅.wp_writeZerosIf (fun w₆ h₆ => ⟨trivial, ?_⟩) (fun m w₆ hr h₆ => ⟨rfl, hr, _, ?_, h₆⟩)
  · convert h₆ using 1
    simp only [Policy.image, Policy.isoFallback, Policy.computeRawLayout_kernelOffset, alignUp,
      List.nil_append, List.length_append, length_zeros, zeros_sectorPadding, zeros_ite_sub]
  all_goals simp only [Policy.image, Policy.isoFallback, Policy.computeRawLayout_kernelOffset,
    alignUp, List.nil_append, List.length_append, length_zeros, zeros_sectorPadding, zeros_ite_sub,
    List.append_assoc, List.prefix_append, List.prefix_append_right_inj, Nat.add_assoc,
    List.prefix_refl]

/-- **`create_simple_iso`**, when `out` is not the kernel. It never raises; it
returns `True` with `out` holding the 512 B / 2 MiB image of what the
bootloader reads as and the kernel, or `False` only on an unreliable host or
with `out` a directory. -/
theorem createSimpleIso_spec (hb : ReadsAs w₀.base out b B) (hk : w₀.files k = some K)
    (hko : k ≠ out) :
    Wp (createSimpleIso k b out) (WriterOutcome w₀.base out (Policy.isoFallback.image B K))
      (fun _ _ => False) w₀ := by
  simp only [createSimpleIso, wp_bind, wp_print, wp_tryCatch, wp_pure]
  exact wp_writeImage (fun w h => wp_writeSimpleIso hb hk hko h)
    fun e w he => ⟨_, by rw [if_pos (PyError.isException_of_isOSError he)]; rfl⟩

/-- Whatever it reads, the block body of `create_simple_iso` keeps its session open. -/
theorem writeSimpleIso_preserves : Preserves (SessionOn σ out) (writeSimpleIso k b) := by
  unfold writeSimpleIso
  refine .bind (SessionOn.readFile _) fun _ => .bind (SessionOn.write _) fun _ => ?_
  refine .bind SessionOn.tell fun _ => .bind (.ite (SessionOn.write _) (.pure _)) fun _ => ?_
  refine .bind (SessionOn.readFile _) fun _ => .bind (SessionOn.write _) fun _ => ?_
  exact .bind SessionOn.tell fun _ => .ite (SessionOn.write _) (.pure _)

/-- **`create_simple_iso`, whatever its inputs and its host**: on both outcomes
it has opened `out` and changed nothing else a tool reads. -/
theorem createSimpleIso_frame :
    Wp (createSimpleIso k b out) (fun _ => Frame w₀.base out) (fun _ => Frame w₀.base out) w₀ := by
  simp only [createSimpleIso, wp_bind, wp_print, wp_tryCatch, wp_pure]
  refine (wp_withWriter_frame writeSimpleIso_preserves).mono (fun _ _ h => h) fun e w h => ?_
  split
  · exact h.print
  · exact h

/-! ## Reliable hosts -/

theorem WriterOutcome.eq_true {r : Bool} (h : WriterOutcome σ out L r w) (hr : σ.host.Reliable)
    (hd : σ.dirs out = false) : r = true := by
  cases r with
  | true => rfl
  | false => exact absurd h.1 (by simp [hr, hd])

/-- A writer that can only fail on an unreliable host or over a directory
answers `True` on a reliable host, with `out` no directory. -/
theorem WriterOutcome.run_true {x : PyM Bool}
    (h : Wp x (WriterOutcome w₀.base out L) (fun _ _ => ¬ w₀.host.Reliable) w₀)
    (hr : w₀.host.Reliable) (hd : w₀.dirs out = false) :
    ∃ w, x w₀ = .ok true w ∧ Closed w₀.base out L w := by
  obtain ⟨r, w, hx, h⟩ := (h.mono (fun _ _ h => h) fun _ _ h => absurd hr h).ok_of
  obtain rfl := h.eq_true hr hd
  exact ⟨w, hx, h⟩

theorem createArm64Image_ok (hk : w₀.files k = some K) (hb : w₀.files b = some B)
    (hr : w₀.host.Reliable) (hd : w₀.dirs out = false) :
    ∃ w, createArm64Image k b out w₀ = .ok true w ∧
      Closed w₀.base out (Policy.rawImage.image B K) w :=
  WriterOutcome.run_true ((createArm64Image_spec hk hb).mono (fun _ _ h => h) fun _ _ h => h.2.1)
    hr hd

theorem createX86_64Image_ok (hk : w₀.files k = some K) (hb : w₀.files b = some B)
    (hr : w₀.host.Reliable) (hd : w₀.dirs out = false) :
    ∃ w, createX86_64Image k b out w₀ = .ok true w ∧
      Closed w₀.base out (Policy.rawImage.image B K) w :=
  WriterOutcome.run_true ((createX86_64Image_spec hk hb).mono (fun _ _ h => h) fun _ _ h => h.2.1)
    hr hd

theorem createSimpleIso_ok (hb : ReadsAs w₀.base out b B) (hk : w₀.files k = some K)
    (hko : k ≠ out) (hr : w₀.host.Reliable) (hd : w₀.dirs out = false) :
    ∃ w, createSimpleIso k b out w₀ = .ok true w ∧
      Closed w₀.base out (Policy.isoFallback.image B K) w :=
  WriterOutcome.run_true ((createSimpleIso_spec hb hk hko).mono (fun _ _ h => h) fun _ _ h => h.elim)
    hr hd

/-! ## What a `True` answer means -/

theorem createArm64Image_true (hk : w₀.files k = some K) (hb : w₀.files b = some B)
    (h : createArm64Image k b out w₀ = .ok true w) :
    w.files out = some (Policy.rawImage.image B K) :=
  Closed.file ((createArm64Image_spec hk hb).of_ok h)

theorem createX86_64Image_true (hk : w₀.files k = some K) (hb : w₀.files b = some B)
    (h : createX86_64Image k b out w₀ = .ok true w) :
    w.files out = some (Policy.rawImage.image B K) :=
  Closed.file ((createX86_64Image_spec hk hb).of_ok h)

theorem createSimpleIso_true (hk : w₀.files k = some K) (hb : w₀.files b = some B)
    (hko : k ≠ out) (hbo : b ≠ out) (h : createSimpleIso k b out w₀ = .ok true w) :
    w.files out = some (Policy.isoFallback.image B K) :=
  Closed.file ((createSimpleIso_spec (readsAs_of_ne hbo hb) hk hko).of_ok h)

/-- **Both raw writers write the layout's image.** Whenever
`create_arm64_image` or `create_x86_64_image` answers `True`, `out` holds the
1 MiB / 16 MiB image of the inputs; whenever `create_simple_iso` does, the
512 B / 2 MiB one. -/
theorem raw_writers_write_layout_image (hk : w₀.files k = some K) (hb : w₀.files b = some B)
    (hko : k ≠ out) (hbo : b ≠ out) :
    (∀ w, createArm64Image k b out w₀ = .ok true w →
      w.files out = some (Policy.rawImage.image B K)) ∧
    (∀ w, createX86_64Image k b out w₀ = .ok true w →
      w.files out = some (Policy.rawImage.image B K)) ∧
    (∀ w, createSimpleIso k b out w₀ = .ok true w →
      w.files out = some (Policy.isoFallback.image B K)) :=
  ⟨fun _ => createArm64Image_true hk hb, fun _ => createX86_64Image_true hk hb,
    fun _ => createSimpleIso_true hk hb hko hbo⟩

theorem raw_writers_write_layout_image_build :
    (∃ w, createArm64Image "build/kernel.elf" "build/boot.bin" "build/minios.img"
        (World.init Host.bare [("build/kernel.elf", [0x7f, 0x45, 0x4c]), ("build/boot.bin", [0xeb])]) = .ok true w ∧
      w.files "build/minios.img" = some (Policy.rawImage.image [0xeb] [0x7f, 0x45, 0x4c])) ∧
    (∃ w, createX86_64Image "build/kernel.elf" "build/boot.bin" "build/minios.img"
        (World.init Host.bare [("build/kernel.elf", [0x7f, 0x45, 0x4c]), ("build/boot.bin", [0xeb])]) = .ok true w ∧
      w.files "build/minios.img" = some (Policy.rawImage.image [0xeb] [0x7f, 0x45, 0x4c])) ∧
    (∃ w, createSimpleIso "build/kernel.elf" "build/boot.bin" "build/minios.img"
        (World.init Host.bare [("build/kernel.elf", [0x7f, 0x45, 0x4c]), ("build/boot.bin", [0xeb])]) = .ok true w ∧
      w.files "build/minios.img" = some (Policy.isoFallback.image [0xeb] [0x7f, 0x45, 0x4c])) :=
  ⟨(createArm64Image_ok rfl rfl Host.bare_reliable rfl).imp fun w h =>
      ⟨h.1, (raw_writers_write_layout_image rfl rfl (by decide) (by decide)).1 w h.1⟩,
    (createX86_64Image_ok rfl rfl Host.bare_reliable rfl).imp fun w h =>
      ⟨h.1, (raw_writers_write_layout_image rfl rfl (by decide) (by decide)).2.1 w h.1⟩,
    (createSimpleIso_ok (readsAs_of_ne (by decide) rfl) rfl (by decide) Host.bare_reliable
      rfl).imp fun w h =>
      ⟨h.1, (raw_writers_write_layout_image rfl rfl (by decide) (by decide)).2.2 w h.1⟩⟩

/-- Past the minimum nothing rounds the end up: a 512-byte bootloader and a
kernel of 15 MiB + 1 give `create_arm64_image` an image of 16 MiB + 1. -/
theorem createArm64Image_length_unaligned :
    ∃ w img, createArm64Image "build/kernel.elf" "build/boot.bin" "build/minios.img"
        (World.init Host.bare [("build/kernel.elf", zeros (15 * 1024 * 1024 + 1)),
          ("build/boot.bin", zeros 512)]) = .ok true w ∧
      w.files "build/minios.img" = some img ∧ img.length % (1024 * 1024) ≠ 0 := by
  obtain ⟨w, hx, hc⟩ : ∃ w, createArm64Image "build/kernel.elf" "build/boot.bin" "build/minios.img"
      (World.init Host.bare [("build/kernel.elf", zeros (15 * 1024 * 1024 + 1)),
        ("build/boot.bin", zeros 512)]) = .ok true w ∧ Closed _ "build/minios.img"
      (Policy.rawImage.image (zeros 512) (zeros (15 * 1024 * 1024 + 1))) w :=
    createArm64Image_ok rfl rfl Host.bare_reliable rfl
  refine ⟨w, _, hx, hc.file, ?_⟩
  simp only [Policy.length_image, Policy.computeRawLayout_totalSize, length_zeros]
  decide

/-- **How long the raw writers' images are**: exactly the plan's total
`max (off + |K|) m`, so a multiple of the unit only when the minimum decides
the length or the kernel's length is itself a multiple. For
`create_simple_iso` this needs `out` to name neither input: written over the
bootloader it reads the truncated file back empty and lays out no bootloader
(`createSimpleIso_output_is_bootloader`); `create_arm64_image` has read both
inputs before it opens `out`. -/
theorem raw_writers_image_length (hk : w₀.files k = some K) (hb : w₀.files b = some B) :
    (∀ w, createArm64Image k b out w₀ = .ok true w → ∃ img, w.files out = some img ∧
      img.length = max (alignUp (1024 * 1024) B.length + K.length) (16 * 1024 * 1024) ∧
      (img.length % (1024 * 1024) = 0 ↔
        alignUp (1024 * 1024) B.length + K.length ≤ 16 * 1024 * 1024 ∨
          K.length % (1024 * 1024) = 0)) ∧
    (k ≠ out → b ≠ out →
      ∀ w, createSimpleIso k b out w₀ = .ok true w → ∃ img, w.files out = some img ∧
        img.length = max (alignUp 512 B.length + K.length) (2 * 1024 * 1024) ∧
        (img.length % 512 = 0 ↔ alignUp 512 B.length + K.length ≤ 2 * 1024 * 1024 ∨
          K.length % 512 = 0)) :=
  ⟨fun _ h => ⟨_, createArm64Image_true hk hb h, Policy.rawImage.length_image_aligned_iff B K⟩,
    fun hko hbo _ h => ⟨_, createSimpleIso_true hk hb hko hbo h,
      Policy.isoFallback.length_image_aligned_iff B K⟩⟩

theorem raw_writers_image_length_build :
    (∃ w, createArm64Image "build/kernel.elf" "build/boot.bin" "build/minios.img"
        (World.init Host.bare [("build/kernel.elf", [0x7f, 0x45, 0x4c]), ("build/boot.bin", [0xeb])]) = .ok true w ∧
      ∃ img, w.files "build/minios.img" = some img ∧
        img.length = max (alignUp (1024 * 1024) 1 + 3) (16 * 1024 * 1024) ∧
        (img.length % (1024 * 1024) = 0 ↔
          alignUp (1024 * 1024) 1 + 3 ≤ 16 * 1024 * 1024 ∨ 3 % (1024 * 1024) = 0)) ∧
    (∃ w, createSimpleIso "build/kernel.elf" "build/boot.bin" "build/minios.img"
        (World.init Host.bare [("build/kernel.elf", [0x7f, 0x45, 0x4c]), ("build/boot.bin", [0xeb])]) = .ok true w ∧
      ∃ img, w.files "build/minios.img" = some img ∧
        img.length = max (alignUp 512 1 + 3) (2 * 1024 * 1024) ∧
        (img.length % 512 = 0 ↔ alignUp 512 1 + 3 ≤ 2 * 1024 * 1024 ∨ 3 % 512 = 0)) :=
  ⟨(createArm64Image_ok rfl rfl Host.bare_reliable rfl).imp fun w h =>
      ⟨h.1, (raw_writers_image_length rfl rfl).1 w h.1⟩,
    (createSimpleIso_ok (readsAs_of_ne (by decide) rfl) rfl (by decide) Host.bare_reliable
      rfl).imp fun w h =>
      ⟨h.1, (raw_writers_image_length rfl rfl).2 (by decide) (by decide) w h.1⟩⟩

/-! ## Writing over an input -/

/-- `create_simple_iso` with `out` naming the bootloader: it truncates the
bootloader, reads it back empty, and writes the image of no bootloader. -/
theorem createSimpleIso_output_is_bootloader (hk : w₀.files k = some K) (hkb : k ≠ b) :
    Wp (createSimpleIso k b b) (WriterOutcome w₀.base b (Policy.isoFallback.image [] K))
      (fun _ _ => False) w₀ :=
  createSimpleIso_spec readsAs_self hk hkb

/-- The two runs of `create_simple_iso` on one bootloader `01` and an empty
kernel: into the bootloader itself it writes 2 MiB of zeros, into another
path the byte `01` and zeros. -/
theorem createSimpleIso_aliased_run_differs :
    (∃ w, createSimpleIso "build/kernel.elf" "build/boot.bin" "build/boot.bin"
        (World.init Host.bare [("build/kernel.elf", []), ("build/boot.bin", [1])]) = .ok true w ∧
      w.files "build/boot.bin" = some (zeros (2 * 1024 * 1024))) ∧
    (∃ w, createSimpleIso "build/kernel.elf" "build/boot.bin" "build/minios.img"
        (World.init Host.bare [("build/kernel.elf", []), ("build/boot.bin", [1])]) = .ok true w ∧
      w.files "build/minios.img" = some ([1] ++ zeros (2 * 1024 * 1024 - 1))) := by
  obtain ⟨w₁, hx₁, hc₁⟩ : ∃ w, createSimpleIso "build/kernel.elf" "build/boot.bin" "build/boot.bin"
      (World.init Host.bare [("build/kernel.elf", []), ("build/boot.bin", [1])]) = .ok true w ∧
      Closed _ "build/boot.bin" (Policy.isoFallback.image [] []) w :=
    createSimpleIso_ok readsAs_self rfl (by decide) Host.bare_reliable rfl
  obtain ⟨w₂, hx₂, hc₂⟩ : ∃ w, createSimpleIso "build/kernel.elf" "build/boot.bin" "build/minios.img"
      (World.init Host.bare [("build/kernel.elf", []), ("build/boot.bin", [1])]) = .ok true w ∧
      Closed _ "build/minios.img" (Policy.isoFallback.image [1] []) w :=
    createSimpleIso_ok (readsAs_of_ne (by decide) rfl) rfl (by decide) Host.bare_reliable rfl
  refine ⟨⟨w₁, hx₁, hc₁.file.trans ?_⟩, ⟨w₂, hx₂, hc₂.file.trans ?_⟩⟩ <;>
    simp [Policy.image, Policy.isoFallback, alignUp, padTo]

end

end MiniOSImage
