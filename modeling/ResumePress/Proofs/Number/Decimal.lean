import ResumePress.Proofs.Text.Entities
import ResumePress.Value.Printing
import Std.Data.String.ToInt

/-!
# Whole numbers in decimal

A whole number that is not negative is printed in digits alone, which mean nothing to markup, and
its text tells the number. How many digits there are decides whether it is spelled out at all.
-/
namespace ResumePress

/-- Only a negative number has a sign. -/
theorem isDigit_of_mem_toString {n : Int} (h : 0 ≤ n) {c : Char} (hc : c ∈ (toString n).toList) :
    c.isDigit = true := by
  obtain ⟨m, rfl⟩ := Int.eq_ofNat_of_zero_le h
  have hm : (toString (m : Int)).toList = Nat.toDigits 10 m := Nat.toList_repr
  rw [hm] at hc
  exact Nat.isDigit_of_mem_toDigits (by decide) (by decide) hc

namespace Whole

theorem isDigit_of_mem_printed {w : Whole} (h : 0 ≤ w.amount) {c : Char}
    (hc : c ∈ w.printed.toList) : c.isDigit = true :=
  isDigit_of_mem_toString h hc

theorem isUnmarked_printed {w : Whole} (h : 0 ≤ w.amount) : Text.IsUnmarked w.printed.toList :=
  fun _ hc => Text.isMark_of_isDigit (isDigit_of_mem_printed h hc)

theorem printed_inj {v w : Whole} : v.printed = w.printed ↔ v.amount = w.amount :=
  Int.repr_inj

end Whole

/-! ## Numbers of too many digits -/

theorem lt_power_iff {b c n : Nat} (h : 0 < b * c) :
    n < Nat.pow (Nat.pow 10 b) c ↔ (toString n).length ≤ b * c := by
  have hpow : Nat.pow (Nat.pow 10 b) c = 10 ^ (b * c) := (Nat.pow_mul 10 b c).symm
  rw [hpow]
  exact (Nat.length_repr_le_iff h).symm

theorem lt_unspelled_iff {n : Nat} : n < unspelled ↔ (toString n).length ≤ 4300 := by
  unfold unspelled
  exact lt_power_iff (b := 100) (c := 43) (by decide)

/-- A whole number is spelled out if it has at most 4300 digits. -/
theorem Value.isSpellable_int_iff {n : Int} :
    (Value.int n).isSpellable = true ↔ (toString n.natAbs).length ≤ 4300 := by
  rw [Value.isSpellable, decide_eq_true_iff, lt_unspelled_iff]

end ResumePress
