import MiniOSImage.Common.Bytes
import Mathlib.Data.List.Lemmas
/-!
# The layout policy

What a raw image is meant to be, independent of how either writer produces
it. A `Policy` is an alignment unit and a minimum size; `computeRawLayout`
puts the kernel at the least multiple of the unit at or after the
bootloader and makes the image as long as the kernel's end or the minimum,
whichever is larger. `LayoutPlan` carries those facts as fields, so a plan
that breaks one cannot be built; `image` is the byte string the plan
describes, and `getElem?_image` is its structural check: the bootloader at 0,
the kernel at its offset, zero everywhere else.

The image is a multiple of the unit only where the minimum decides its
length, or where the kernel's length is itself a multiple
(`length_image_mod_eq_zero_iff`): past the minimum nothing rounds the end up.
-/

namespace MiniOSImage

/-- An alignment unit and a minimum image size that is a multiple of it. -/
structure Policy where
  unit : ℕ
  minSize : ℕ
  unit_pos : 0 < unit
  unit_dvd : unit ∣ minSize

namespace Policy

/-- `create_image.py`: 1 MiB alignment, 16 MiB floor. -/
def rawImage : Policy :=
  ⟨1024 * 1024, 16 * 1024 * 1024, by decide, Nat.dvd_of_mod_eq_zero (by decide)⟩

/-- `create_simple_iso`: 512-byte sectors, 2 MiB floor. -/
def isoFallback : Policy :=
  ⟨512, 2 * 1024 * 1024, by decide, Nat.dvd_of_mod_eq_zero (by decide)⟩

/-- **A layout plan** for a bootloader of `bootloaderSize` bytes and a kernel of
`kernelSize` bytes; the bootloader is at offset 0. -/
structure LayoutPlan (p : Policy) (bootloaderSize kernelSize : ℕ) where
  kernelOffset : ℕ
  totalSize : ℕ
  offset_aligned : kernelOffset % p.unit = 0
  bootloader_fits : bootloaderSize ≤ kernelOffset
  offset_least : kernelOffset < bootloaderSize + p.unit
  total_eq : totalSize = max (kernelOffset + kernelSize) p.minSize

variable (p : Policy)

/-- The layout both writers of the code produce: the kernel at the bootloader's
end rounded up to the unit, and the image as long as `max (off + |K|) m`, with
no rounding up of the end. It is the code's layout, not the design's
`LayoutPolicy`, which rounds the total size up to a multiple of the minimum. -/
def computeRawLayout (bootloaderSize kernelSize : ℕ) : LayoutPlan p bootloaderSize kernelSize where
  kernelOffset := alignUp p.unit bootloaderSize
  totalSize := max (alignUp p.unit bootloaderSize + kernelSize) p.minSize
  offset_aligned := alignUp_mod p.unit_pos
  bootloader_fits := le_alignUp
  offset_least := alignUp_lt p.unit_pos
  total_eq := rfl

/-- The kernel offset of a plan is the one `computeRawLayout` picks: the least
multiple at or after the bootloader. -/
theorem LayoutPlan.kernelOffset_eq {b k : ℕ} (plan : LayoutPlan p b k) :
    plan.kernelOffset = alignUp p.unit b := by
  have hu := p.unit_pos
  have hle := alignUp_le_of_dvd hu (Nat.dvd_of_mod_eq_zero plan.offset_aligned) plan.bootloader_fits
  have := plan.offset_least
  have : b ≤ alignUp p.unit b := le_alignUp
  -- two multiples of the unit less than a unit apart are equal
  obtain ⟨q₁, hq₁⟩ := Nat.dvd_of_mod_eq_zero plan.offset_aligned
  obtain ⟨q₂, hq₂⟩ := Nat.dvd_of_mod_eq_zero (alignUp_mod (n := b) hu)
  have h₁ : q₂ ≤ q₁ := Nat.le_of_mul_le_mul_left (by omega) hu
  have h₂ : q₁ < q₂ + 1 :=
    Nat.lt_of_mul_lt_mul_left (a := p.unit) (by rw [Nat.mul_add, Nat.mul_one]; omega)
  rw [hq₁, hq₂, show q₁ = q₂ by omega]

/-- So a plan is determined by the sizes. -/
theorem LayoutPlan.eq_computeRawLayout {b k : ℕ} (plan : LayoutPlan p b k) :
    plan = computeRawLayout p b k := by
  have h := plan.kernelOffset_eq
  cases plan with
  | mk off total _ _ _ htot =>
    simp only at h
    subst h htot
    rfl

/-- **The image a plan describes**: `B ++ 0^pad ++ K ++ 0^rest`. -/
def image (B K : Bytes) : Bytes :=
  B ++ zeros (padTo p.unit B.length) ++ K ++
    zeros (p.minSize - ((computeRawLayout p B.length K.length).kernelOffset + K.length))

@[simp] theorem computeRawLayout_kernelOffset (b k : ℕ) :
    (computeRawLayout p b k).kernelOffset = alignUp p.unit b := rfl

@[simp] theorem computeRawLayout_totalSize (b k : ℕ) :
    (computeRawLayout p b k).totalSize = max (alignUp p.unit b + k) p.minSize := rfl

/-- The rounded offset is `⌈n / unit⌉ · unit`, the ceiling formula. -/
theorem alignUp_eq_ceil (n : ℕ) : alignUp p.unit n = (n + p.unit - 1) / p.unit * p.unit := by
  have hu := p.unit_pos
  obtain ⟨q, hq⟩ := Nat.dvd_of_mod_eq_zero (alignUp_mod (n := n) hu)
  have hlo : n ≤ alignUp p.unit n := le_alignUp
  have hhi : alignUp p.unit n < n + p.unit := alignUp_lt hu
  have : (n + p.unit - 1) / p.unit = q :=
    Nat.div_eq_of_lt_le (by rw [Nat.mul_comm]; omega) (by rw [Nat.succ_mul, Nat.mul_comm]; omega)
  rw [this, hq, Nat.mul_comm]

/-- The image is exactly as long as the plan says. -/
theorem length_image (B K : Bytes) :
    (image p B K).length = (computeRawLayout p B.length K.length).totalSize := by
  simp only [image, List.length_append, length_zeros, computeRawLayout_kernelOffset,
    computeRawLayout_totalSize, alignUp]
  omega

/-- **The structural check**: bytes `[0, |B|)` are the bootloader, bytes
`[off, off + |K|)` the kernel, every other byte below the total size is zero,
and there is none past it. -/
theorem getElem?_image (B K : Bytes) (i : ℕ) :
    (image p B K)[i]? =
      if i < B.length then B[i]?
      else if alignUp p.unit B.length ≤ i ∧ i - alignUp p.unit B.length < K.length then
        K[i - alignUp p.unit B.length]?
      else if i < (computeRawLayout p B.length K.length).totalSize then some 0 else none := by
  simp only [image, zeros, computeRawLayout_kernelOffset, computeRawLayout_totalSize, alignUp,
    List.getElem?_append, List.length_append, List.length_replicate, List.getElem?_replicate]
  split_ifs <;> first | rfl | omega

/-- **The length is not rounded up past the minimum.** The image is a multiple
of the unit exactly when the minimum decides its length or the kernel's
length is a multiple of the unit. -/
theorem length_image_mod_eq_zero_iff (B K : Bytes) :
    (image p B K).length % p.unit = 0 ↔
      alignUp p.unit B.length + K.length ≤ p.minSize ∨ K.length % p.unit = 0 := by
  rw [length_image, computeRawLayout_totalSize]
  by_cases h : alignUp p.unit B.length + K.length ≤ p.minSize
  · rw [Nat.max_eq_right h, Nat.mod_eq_zero_of_dvd p.unit_dvd]; exact iff_of_true rfl (.inl h)
  · obtain ⟨q, hq⟩ := Nat.dvd_of_mod_eq_zero (alignUp_mod (n := B.length) p.unit_pos)
    have hK : (alignUp p.unit B.length + K.length) % p.unit = K.length % p.unit := by
      rw [hq, Nat.mul_add_mod]
    rw [Nat.max_eq_left (by omega), hK]; simp [h]

/-- The length and when it is aligned, together. -/
theorem length_image_aligned_iff (B K : Bytes) :
    (image p B K).length = max (alignUp p.unit B.length + K.length) p.minSize ∧
      ((image p B K).length % p.unit = 0 ↔
        alignUp p.unit B.length + K.length ≤ p.minSize ∨ K.length % p.unit = 0) :=
  ⟨length_image p B K, length_image_mod_eq_zero_iff p B K⟩

end Policy

end MiniOSImage
