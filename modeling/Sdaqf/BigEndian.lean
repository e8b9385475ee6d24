import Mathlib.Algebra.Order.Ring.Nat
import Mathlib.Data.List.Basic
import Mathlib.Tactic.Common

/-!
# Numbers of four bytes

A number below `2 ^ 32` is written as four bytes, the most significant first, and read back. A list
that begins with four bytes begins with the number they stand for.
-/

namespace BigEndian

/-- The number of four bytes. -/
def read (a b c d : UInt8) : Nat := ((a.toNat * 256 + b.toNat) * 256 + c.toNat) * 256 + d.toNat

/-- The four bytes of a number. -/
def written (n : Nat) : List UInt8 :=
  [UInt8.ofNat (n / 2 ^ 24), UInt8.ofNat (n / 2 ^ 16), UInt8.ofNat (n / 2 ^ 8), UInt8.ofNat n]

variable {a b c d : UInt8} {n : Nat}

theorem read_lt : read a b c d < 2 ^ 32 := by
  have ha := a.toNat_lt
  have hb := b.toNat_lt
  have hc := c.toNat_lt
  have hd := d.toNat_lt
  unfold read
  omega

@[simp] theorem length_written : (written n).length = 4 := rfl

theorem written_read : written (read a b c d) = [a, b, c, d] := by
  have ha := a.toNat_lt
  have hb := b.toNat_lt
  have hc := c.toNat_lt
  have hd := d.toNat_lt
  simp only [written, List.cons.injEq, and_true]
  refine ⟨?_, ?_, ?_, ?_⟩
  all_goals
    apply UInt8.toNat_inj.mp
    rw [UInt8.toNat_ofNat']
    unfold read
    omega

theorem written_eq_iff (hn : n < 2 ^ 32) : written n = [a, b, c, d] ↔ n = read a b c d := by
  constructor
  · intro h
    simp only [written, List.cons.injEq, and_true] at h
    obtain ⟨rfl, rfl, rfl, rfl⟩ := h
    simp only [read, UInt8.toNat_ofNat']
    omega
  · rintro rfl
    exact written_read

theorem read_written (hn : n < 2 ^ 32) : read (UInt8.ofNat (n / 2 ^ 24)) (UInt8.ofNat (n / 2 ^ 16))
    (UInt8.ofNat (n / 2 ^ 8)) (UInt8.ofNat n) = n :=
  ((written_eq_iff hn).mp rfl).symm

/-- A list of four bytes or more begins with a number. -/
theorem exists_written {l : List UInt8} (h : 4 ≤ l.length) :
    ∃ n < 2 ^ 32, ∃ rest, l = written n ++ rest := by
  match l, h with
  | a :: b :: c :: d :: rest, _ => exact ⟨read a b c d, read_lt, rest, by rw [written_read]; rfl⟩

end BigEndian
