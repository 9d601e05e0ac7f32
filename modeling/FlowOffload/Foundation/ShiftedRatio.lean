import Mathlib.Data.Nat.Size
import Mathlib.Tactic.Ring

/-!
# Ratios of shifted numbers

Two numbers are shifted to the right together until both fit into `width` bits,
and their scaled quotient is formed from what is left.  The quotient keeps the
order of the exact one in both arguments.  It is off by at most one as long as
the ratio is at most one and the scale is below the top bit.
-/

namespace FlowOffload.Foundation.ShiftedRatio

variable {width scale a a' b b' : Nat}

/-- The least shift after which both numbers fit into `width` bits. -/
def shift (width a b : Nat) : Nat := Nat.size (max a b) - width

def ratio (width scale a b : Nat) : Nat :=
  a / 2 ^ shift width a b * scale / (b / 2 ^ shift width a b)

/-! ## The shift -/

theorem size_half (n : Nat) : Nat.size (n / 2) = Nat.size n - 1 := by
  refine eq_of_forall_ge_iff fun m => ?_
  rw [Nat.size_le, Nat.sub_le_iff_le_add, Nat.size_le, pow_succ,
    Nat.div_lt_iff_lt_mul (by decide)]

theorem shift_half (width a b : Nat) :
    shift width (a / 2) (b / 2) = shift width a b - 1 := by
  have hmax : max (a / 2) (b / 2) = max a b / 2 := by omega
  rw [shift, shift, hmax, size_half]
  omega

theorem shift_pos_iff : 0 < shift width a b ↔ 2 ^ width ≤ a ∨ 2 ^ width ≤ b := by
  rw [shift, Nat.sub_pos_iff_lt, Nat.lt_size, le_max_iff]

theorem shift_mono (ha : a ≤ a') (hb : b ≤ b') :
    shift width a b ≤ shift width a' b' :=
  Nat.sub_le_sub_right (Nat.size_le_size (max_le_max ha hb)) width

theorem max_lt (width a b : Nat) :
    max a b < 2 ^ width * 2 ^ shift width a b := by
  rw [← pow_add, ← Nat.size_le, shift]
  omega

theorem left_lt (width a b : Nat) : a / 2 ^ shift width a b < 2 ^ width := by
  rw [Nat.div_lt_iff_lt_mul (Nat.two_pow_pos _)]
  exact (le_max_left a b).trans_lt (max_lt width a b)

theorem right_lt (width a b : Nat) : b / 2 ^ shift width a b < 2 ^ width := by
  rw [Nat.div_lt_iff_lt_mul (Nat.two_pow_pos _)]
  exact (le_max_right a b).trans_lt (max_lt width a b)

/-- A shift that is needed leaves the top bit of the larger number set. -/
theorem le_max (hwidth : 0 < width) (h : 0 < shift width a b) :
    2 ^ width ≤ max a b / 2 ^ shift width a b * 2 := by
  have htop : 2 ^ (width - 1 + shift width a b) ≤ max a b := by
    rw [← Nat.lt_size]
    unfold shift at h ⊢
    omega
  rw [pow_add, ← Nat.le_div_iff_mul_le (Nat.two_pow_pos _)] at htop
  have hdouble : 2 ^ width = 2 ^ (width - 1) * 2 := by
    rw [← pow_succ, Nat.sub_add_cancel hwidth]
  omega

/-- A longer shift first makes the shorter one. -/
theorem div_shift_mul_le {n k k' : Nat} (h : k ≤ k') :
    n / 2 ^ k' * 2 ^ (k' - k) ≤ n / 2 ^ k := by
  have hsplit : 2 ^ k' = 2 ^ k * 2 ^ (k' - k) := by
    rw [← pow_add, Nat.add_sub_cancel' h]
  rw [hsplit, ← Nat.div_div_eq_div_mul]
  exact Nat.div_mul_le_self _ _

/-- A smaller first number leaves no less of the second. -/
theorem right_pos_of_left_le (h : a ≤ a')
    (hpos : 0 < b / 2 ^ shift width a' b) :
    0 < b / 2 ^ shift width a b :=
  Nat.lt_of_lt_of_le (Nat.mul_pos hpos (Nat.two_pow_pos _))
    (div_shift_mul_le (shift_mono h (Nat.le_refl b)))

/-- A shift that grows with the second number has that number's top bit left. -/
theorem le_right_of_shift_lt (hwidth : 0 < width)
    (h : shift width a b < shift width a b') :
    2 ^ width ≤ b' / 2 ^ shift width a b' * 2 := by
  have hmax : max a b' = b' := by
    by_contra hne
    have hsame : shift width a b' ≤ shift width a b :=
      Nat.sub_le_sub_right (Nat.size_le_size (by omega)) width
    omega
  have htop := @le_max width a b' hwidth (by omega)
  rwa [hmax] at htop

theorem le_left_of_shift_lt (hwidth : 0 < width)
    (h : shift width a b < shift width a' b) :
    2 ^ width ≤ a' / 2 ^ shift width a' b * 2 := by
  have hmax : max a' b = a' := by
    by_contra hne
    have hsame : shift width a' b ≤ shift width a b :=
      Nat.sub_le_sub_right (Nat.size_le_size (by omega)) width
    omega
  have htop := @le_max width a' b hwidth (by omega)
  rwa [hmax] at htop

theorem right_pos_of_right_le (hwidth : 0 < width) (h : b ≤ b')
    (hpos : 0 < b / 2 ^ shift width a b) :
    0 < b' / 2 ^ shift width a b' := by
  rcases (@shift_mono width a a b b' (Nat.le_refl a) h).eq_or_lt with
    heq | hlt
  · rw [← heq]
    exact hpos.trans_le (Nat.div_le_div_right h)
  · have htop := le_right_of_shift_lt hwidth hlt
    have hwide := Nat.two_pow_pos width
    omega

/-! ## Order -/

theorem div_le_div_of_cross {x x' y y' : Nat} (hy : 0 < y) (hy' : 0 < y')
    (h : x * y' ≤ x' * y) : x * scale / y ≤ x' * scale / y' := by
  rw [Nat.le_div_iff_mul_le hy']
  refine Nat.le_of_mul_le_mul_right ?_ hy
  calc x * scale / y * y' * y
      = x * scale / y * y * y' := by ring
    _ ≤ x * scale * y' := Nat.mul_le_mul_right _ (Nat.div_mul_le_self _ _)
    _ = x * y' * scale := by ring
    _ ≤ x' * y * scale := Nat.mul_le_mul_right _ h
    _ = x' * scale * y := by ring

theorem ratio_mono (hwidth : 0 < width) (h : a ≤ a')
    (hpos : 0 < b / 2 ^ shift width a' b) :
    ratio width scale a b ≤ ratio width scale a' b := by
  have hshift := @shift_mono width a a' b b h (Nat.le_refl b)
  have hle := @div_shift_mul_le b _ _ hshift
  refine div_le_div_of_cross (right_pos_of_left_le h hpos) hpos ?_
  rcases hshift.eq_or_lt with heq | hlt
  · rw [heq]
    exact Nat.mul_le_mul_right _ (Nat.div_le_div_right h)
  · have htop := le_left_of_shift_lt hwidth hlt
    have hsmall := left_lt width a b
    have htwo : 2 ≤ 2 ^ (shift width a' b - shift width a b) :=
      Nat.le_self_pow (by omega) 2
    calc a / 2 ^ shift width a b * (b / 2 ^ shift width a' b)
        ≤ a' / 2 ^ shift width a' b * 2 * (b / 2 ^ shift width a' b) :=
          Nat.mul_le_mul_right _ (by omega)
      _ ≤ a' / 2 ^ shift width a' b *
            2 ^ (shift width a' b - shift width a b) *
            (b / 2 ^ shift width a' b) :=
          Nat.mul_le_mul_right _ (Nat.mul_le_mul_left _ htwo)
      _ = a' / 2 ^ shift width a' b * (b / 2 ^ shift width a' b *
            2 ^ (shift width a' b - shift width a b)) := by ring
      _ ≤ a' / 2 ^ shift width a' b * (b / 2 ^ shift width a b) :=
          Nat.mul_le_mul_left _ hle

theorem ratio_anti (hwidth : 0 < width) (h : b ≤ b')
    (hpos : 0 < b / 2 ^ shift width a b) :
    ratio width scale a b' ≤ ratio width scale a b := by
  have hshift := @shift_mono width a a b b' (Nat.le_refl a) h
  have hle := @div_shift_mul_le a _ _ hshift
  rcases hshift.eq_or_lt with heq | hlt
  · rw [ratio, ratio, ← heq]
    exact Nat.div_le_div_left (Nat.div_le_div_right h) hpos
  · have htop := le_right_of_shift_lt hwidth hlt
    have hsmall := right_lt width a b
    have htwo : 2 ≤ 2 ^ (shift width a b' - shift width a b) :=
      Nat.le_self_pow (by omega) 2
    refine div_le_div_of_cross (right_pos_of_right_le hwidth h hpos) hpos ?_
    calc a / 2 ^ shift width a b' * (b / 2 ^ shift width a b)
        ≤ a / 2 ^ shift width a b' * (b' / 2 ^ shift width a b' * 2) :=
          Nat.mul_le_mul_left _ (by omega)
      _ ≤ a / 2 ^ shift width a b' * (b' / 2 ^ shift width a b' *
            2 ^ (shift width a b' - shift width a b)) :=
          Nat.mul_le_mul_left _ (Nat.mul_le_mul_left _ htwo)
      _ = a / 2 ^ shift width a b' *
            2 ^ (shift width a b' - shift width a b) *
            (b' / 2 ^ shift width a b') := by ring
      _ ≤ a / 2 ^ shift width a b * (b' / 2 ^ shift width a b') :=
          Nat.mul_le_mul_right _ hle

/-! ## Bounds -/

theorem ratio_le (h : a ≤ b) : ratio width scale a b ≤ scale :=
  Nat.div_le_of_le_mul (Nat.mul_le_mul_right _ (Nat.div_le_div_right h))

theorem le_ratio (h : b ≤ a) (hpos : 0 < b / 2 ^ shift width a b) :
    scale ≤ ratio width scale a b := by
  rw [ratio, Nat.le_div_iff_mul_le hpos, Nat.mul_comm]
  exact Nat.mul_le_mul_right _ (Nat.div_le_div_right h)

/-- What the dropped bits can change, when the scale is no more than what is
left of the second number. -/
theorem quotient_near {m x y r t : Nat} (hr : r < m) (ht : t < m) (hy : 0 < y)
    (hscale : scale ≤ y) (hquotient : x * scale / y ≤ scale) :
    x * scale / y ≤ (m * x + r) * scale / (m * y + t) + 1 ∧
      (m * x + r) * scale / (m * y + t) ≤ x * scale / y + 1 := by
  have hm : 0 < m := by omega
  have hpos : 0 < m * y + t := Nat.add_pos_left (Nat.mul_pos hm hy) t
  constructor
  · rw [← Nat.add_div_right _ hpos, Nat.le_div_iff_mul_le hpos]
    have hrest : x * scale / y * t ≤ m * y :=
      calc x * scale / y * t ≤ y * m :=
            Nat.mul_le_mul (hquotient.trans hscale) ht.le
        _ = m * y := Nat.mul_comm y m
    calc x * scale / y * (m * y + t)
        = m * (x * scale / y * y) + x * scale / y * t := by ring
      _ ≤ m * (x * scale) + m * y :=
          Nat.add_le_add (Nat.mul_le_mul_left _ (Nat.div_mul_le_self _ _)) hrest
      _ ≤ (m * x + r) * scale + (m * y + t) := by
          have hleft : m * (x * scale) ≤ (m * x + r) * scale := by
            rw [Nat.add_mul, Nat.mul_assoc]
            exact Nat.le_add_right _ _
          omega
  · rw [← Nat.add_div_right _ hy, Nat.le_div_iff_mul_le hy]
    refine Nat.le_of_mul_le_mul_left ?_ hm
    calc m * ((m * x + r) * scale / (m * y + t) * y)
        = (m * x + r) * scale / (m * y + t) * (m * y) := by ring
      _ ≤ (m * x + r) * scale / (m * y + t) * (m * y + t) :=
          Nat.mul_le_mul_left _ (Nat.le_add_right _ _)
      _ ≤ (m * x + r) * scale := Nat.div_mul_le_self _ _
      _ = m * (x * scale) + r * scale := by ring
      _ ≤ m * (x * scale) + m * y :=
          Nat.add_le_add_left (Nat.mul_le_mul hr.le hscale) _
      _ = m * (x * scale + y) := by ring

theorem ratio_near (hwidth : 0 < width) (hscale : scale * 2 ≤ 2 ^ width)
    (h : a ≤ b) :
    ratio width scale a b ≤ a * scale / b + 1 ∧
      a * scale / b ≤ ratio width scale a b + 1 := by
  rcases (shift width a b).eq_zero_or_pos with hzero | hpos
  · rw [ratio, hzero]
    simp
  have htop := le_max hwidth hpos
  rw [max_eq_right h] at htop
  have hwide := Nat.two_pow_pos width
  have hm : 0 < 2 ^ shift width a b := Nat.two_pow_pos _
  have hnear := @quotient_near scale (2 ^ shift width a b) _ _ _ _
    (Nat.mod_lt a hm) (Nat.mod_lt b hm) (by omega) (by omega)
    (@ratio_le width scale a b h)
  rwa [Nat.div_add_mod, Nat.div_add_mod] at hnear

end FlowOffload.Foundation.ShiftedRatio
