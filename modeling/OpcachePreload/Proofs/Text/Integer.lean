import Mathlib.Algebra.Group.Nat.Defs
import OpcachePreload.Text.Integer

/-!
# The size of written integers

A number that is written with some digits is less than the power of the base that has as many zeros.
-/

namespace OpcachePreload.Text

variable {base : Nat}

theorem digitIn_lt {d : Nat} {c : Char} (digit : digitIn base c = some d) : d < base := by
  unfold digitIn at digit
  simpa using (Option.filter_eq_some_iff.mp digit).2

/-- One more digit takes the place of one of the zeros. -/
theorem next_lt {soFar d size n : Nat} (digit : d < base)
    (fewer : n < (soFar * base + d + 1) * base ^ size) : n < (soFar + 1) * base ^ (size + 1) := by
  calc
    n < (soFar * base + d + 1) * base ^ size := fewer
    _ ≤ ((soFar + 1) * base) * base ^ size :=
      Nat.mul_le_mul_right _ (by rw [Nat.add_mul, Nat.one_mul]; omega)
    _ = (soFar + 1) * base ^ (size + 1) := by rw [Nat.mul_assoc, Nat.pow_succ']

theorem digitsFrom_lt {soFar n : Nat} {text : List Char}
    (read : digitsFrom base soFar text = some n) : n < (soFar + 1) * base ^ text.length := by
  fun_induction digitsFrom base soFar text with
  | case1 soFar => simp_all
  | case2 soFar c rest ih =>
      obtain ⟨d, digit, read⟩ := Option.bind_eq_some_iff.mp read
      have small := digitIn_lt digit
      have more : base ^ (rest.length + 1) ≤ base ^ (rest.length + 2) :=
        Nat.pow_le_pow_right (by omega) (Nat.le_succ _)
      exact Nat.lt_of_lt_of_le (next_lt small (ih d read)) (Nat.mul_le_mul_left _ more)
  | case3 soFar c rest _ ih =>
      obtain ⟨d, digit, read⟩ := Option.bind_eq_some_iff.mp read
      exact next_lt (digitIn_lt digit) (ih d read)

theorem natural?_lt {n : Nat} {text : List Char} (read : natural? base text = some n) :
    n < base ^ text.length := by
  unfold natural? at read
  split at read
  · cases read
  · obtain ⟨d, digit, read⟩ := Option.bind_eq_some_iff.mp read
    have less := digitsFrom_lt read
    have small : d + 1 ≤ base := digitIn_lt digit
    rw [List.length_cons, Nat.pow_succ']
    exact Nat.lt_of_lt_of_le less (Nat.mul_le_mul_right _ small)

end OpcachePreload.Text
