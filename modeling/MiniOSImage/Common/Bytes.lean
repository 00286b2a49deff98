import Mathlib.Logic.Function.Basic
import Mathlib.Data.Nat.Defs
/-!
# Bytes, zero fill, and rounding up to a unit

A Python `bytes` value is a list of `UInt8`, and `b'\x00' * n` is `zeros n`.
Both raw writers pad the bootloader up to an alignment unit, and each
writes the amount of padding its own way: `create_arm64_image` computes
`unit - n % unit` and skips it when it is not below the unit,
`create_simple_iso` computes the same number and skips it when it equals the
unit. Both are `padTo unit n` (`arm64Padding_eq`, `sectorPadding_eq`), the
distance from `n` up to the least multiple of the unit, `alignUp unit n`.
-/

namespace MiniOSImage

/-- A Python `bytes` value. -/
abbrev Bytes := List UInt8

/-- `b'\x00' * n`. -/
def zeros (n : ℕ) : Bytes := List.replicate n 0

@[simp] theorem length_zeros (n : ℕ) : (zeros n).length = n := List.length_replicate n 0

@[simp] theorem zeros_zero : zeros 0 = [] := rfl

@[simp] theorem zeros_append_zeros (m n : ℕ) : zeros m ++ zeros n = zeros (m + n) :=
  List.append_replicate_replicate

/-- `0x{n:08x}`: lower-case hexadecimal, zero-padded to eight digits. -/
def hex08 (n : ℕ) : String :=
  let digits := Nat.toDigits 16 n
  String.mk (List.replicate (8 - digits.length) '0' ++ digits)

/-! ## Rounding up -/

/-- The padding from `n` up to the next multiple of `unit` (none at a multiple). -/
def padTo (unit n : ℕ) : ℕ := (unit - n % unit) % unit

/-- **The least multiple of `unit` at or above `n`.** -/
def alignUp (unit n : ℕ) : ℕ := n + padTo unit n

section Align

variable {unit n : ℕ}

theorem padTo_of_mod_eq_zero (h : n % unit = 0) : padTo unit n = 0 := by
  simp [padTo, h]

theorem padTo_of_mod_ne_zero (hu : 0 < unit) (h : n % unit ≠ 0) :
    padTo unit n = unit - n % unit :=
  Nat.mod_eq_of_lt (by have := Nat.mod_lt n hu; omega)

theorem padTo_lt (hu : 0 < unit) : padTo unit n < unit := Nat.mod_lt _ hu

theorem le_alignUp : n ≤ alignUp unit n := Nat.le_add_right _ _

theorem alignUp_lt (hu : 0 < unit) : alignUp unit n < n + unit :=
  Nat.add_lt_add_left (padTo_lt hu) n

/-- The rounded-up offset is a multiple of the unit. -/
theorem alignUp_mod (hu : 0 < unit) : alignUp unit n % unit = 0 := by
  rcases Nat.eq_zero_or_pos (n % unit) with h | h
  · rw [alignUp, padTo_of_mod_eq_zero h, Nat.add_zero, h]
  · have hmod := Nat.mod_add_div n unit
    have hlt := Nat.mod_lt n hu
    rw [alignUp, padTo_of_mod_ne_zero hu (Nat.pos_iff_ne_zero.mp h), ← Nat.dvd_iff_mod_eq_zero]
    exact ⟨n / unit + 1, by rw [Nat.mul_add, Nat.mul_one]; omega⟩

/-- An offset that is already a multiple is not moved. -/
theorem alignUp_of_mod_eq_zero (h : n % unit = 0) : alignUp unit n = n := by
  rw [alignUp, padTo_of_mod_eq_zero h, Nat.add_zero]

/-- **`alignUp` is the least multiple at or above `n`.** -/
theorem alignUp_le_of_dvd {m : ℕ} (hu : 0 < unit) (hm : unit ∣ m) (hn : n ≤ m) :
    alignUp unit n ≤ m := by
  obtain ⟨q, rfl⟩ := hm
  have hmod := Nat.mod_add_div n unit
  have hlt := Nat.mod_lt n hu
  rcases Nat.eq_zero_or_pos (n % unit) with h | h
  · rw [alignUp_of_mod_eq_zero h]; exact hn
  · rw [alignUp, padTo_of_mod_ne_zero hu (Nat.pos_iff_ne_zero.mp h)]
    have hq : n / unit < q := by
      by_contra hq
      have : unit * q ≤ unit * (n / unit) := Nat.mul_le_mul_left unit (by omega)
      omega
    have : unit * (n / unit + 1) ≤ unit * q := Nat.mul_le_mul_left unit hq
    rw [Nat.mul_add, Nat.mul_one] at this
    omega

/-! ## The two guards of the source -/

/-- `create_arm64_image`'s padding: `unit - n % unit`, written when it is below
the unit. -/
def arm64Padding (unit n : ℕ) : ℕ :=
  if unit - n % unit < unit then unit - n % unit else 0

/-- `create_simple_iso`'s padding: `unit - n % unit`, written unless it is the
whole unit. -/
def sectorPadding (unit n : ℕ) : ℕ :=
  if unit - n % unit ≠ unit then unit - n % unit else 0

theorem arm64Padding_eq (hu : 0 < unit) : arm64Padding unit n = padTo unit n := by
  rcases Nat.eq_zero_or_pos (n % unit) with h | h
  · simp [arm64Padding, padTo_of_mod_eq_zero h, h]
  · rw [arm64Padding, if_pos (by omega), padTo_of_mod_ne_zero hu (Nat.pos_iff_ne_zero.mp h)]

theorem sectorPadding_eq (hu : 0 < unit) : sectorPadding unit n = padTo unit n := by
  rcases Nat.eq_zero_or_pos (n % unit) with h | h
  · simp [sectorPadding, padTo_of_mod_eq_zero h, h]
  · have := Nat.mod_lt n hu
    rw [sectorPadding, if_pos (by omega), padTo_of_mod_ne_zero hu (Nat.pos_iff_ne_zero.mp h)]

end Align

end MiniOSImage
