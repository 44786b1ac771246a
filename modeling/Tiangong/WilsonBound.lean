import Mathlib.Tactic.Linarith
import Mathlib.Tactic.Ring
import Mathlib.Tactic.FieldSimp
import Mathlib.Tactic.NormNum.NatSqrt
import Mathlib.Data.Rat.Cast.Order
import Tiangong.ExperiencePolicy

/-!
# The rounded Wilson bound

The exact bound of `s` successes among `n` at `z` is the smaller root of `G x (1 - x) = (s/n - x)²`
with `G = z²/n`. Every division of the code rounds down and so does its square root, which leaves
its bound within thirty millionths of the exact one: never above the share of successes in
thousandths, and monotone up to one thousandth.
-/
open Nat

namespace Tiangong.Experience

/-- The bound in units of the scale, before it is rounded to thousandths. -/
def scaledLower (scale s n z : ℕ) : ℕ :=
  let p := s * scale / n
  (p + z * z / scale / (2 * n) -
      z * sqrt (p * (scale - p) / n + z * z / (4 * n * n)) / scale) * scale /
    (scale + z * z / scale / n)

lemma wilson_eq {s f z : ℕ} (h : s + f ≠ 0) : wilsonLowerConfidenceMilli s f z =
    min 1000 (scaledLower 1000000 s (s + f) z * 1000 / 1000000) := by
  simp only [wilsonLowerConfidenceMilli, scaledLower, if_neg h]

/-- What the roundings leave of the bound `l` of `s` successes among `n`: `p` is the share of
successes, `G` is `z²/n`, `q` its whole part, `k` the square root and `m` the margin. -/
structure Rounded (s n z p l : ℕ) (G : ℚ) : Prop where
  count : (1 : ℚ) ≤ n ∧ (s : ℚ) ≤ n
  quantile : (z : ℚ) ≤ 10000000
  ratio : G * (n * 1000000) = z * z
  share : (n : ℚ) * p ≤ s * 1000000 ∧ (s : ℚ) * 1000000 < n * (p + 1)
  bound : ∃ q k m : ℕ, (q : ℚ) ≤ G ∧ G < q + 1 ∧
    (z * k) ^ 2 ≤ G * 1000000 * (p * (1000000 - p)) + G ^ 2 * 1000000 ^ 2 / 4 ∧
    G * 1000000 * (p * (1000000 - p)) + G ^ 2 * 1000000 ^ 2 / 4 < z ^ 2 * ((k + 1) ^ 2 + 1) ∧
    (m : ℚ) * 1000000 ≤ z * k ∧ (z : ℚ) * k < (m + 1) * 1000000 ∧
    (0 < l → (l : ℚ) * (1000000 + q) ≤ (p + q / 2 - m) * 1000000) ∧
    (p + (q - 1) / 2 - m : ℚ) * 1000000 < (l + 1) * (1000000 + q)

lemma div_bounds (a : ℕ) {b : ℕ} (hb : 0 < b) :
    ((a / b : ℕ) : ℚ) * b ≤ a ∧ (a : ℚ) < ((a / b : ℕ) + 1) * b := by
  have hle : a / b * b ≤ a := div_mul_le_self a b
  have hlt : a < (a / b + 1) * b := by
    rw [mul_comm]
    exact lt_mul_div_succ a hb
  exact ⟨by exact_mod_cast hle, by exact_mod_cast hlt⟩

/-- The root of the rounded radicand against the exact one. -/
lemma radicand_bounds {scale n z p : ℕ} (hscale : scale = 1000000) (hn : 0 < n) (hz : 0 < z)
    (hp : p ≤ scale) {G : ℚ} (hG : G * (n * 1000000) = z * z) :
    let k := sqrt (p * (scale - p) / n + z * z / (4 * n * n))
    (z * k : ℚ) ^ 2 ≤ G * 1000000 * (p * (1000000 - p)) + G ^ 2 * 1000000 ^ 2 / 4 ∧
      G * 1000000 * (p * (1000000 - p)) + G ^ 2 * 1000000 ^ 2 / 4 <
        (z : ℚ) ^ 2 * ((k + 1) ^ 2 + 1) := by
  intro k
  have hn' : (0 : ℚ) < n := by exact_mod_cast hn
  have hz' : (0 : ℚ) < (z : ℚ) ^ 2 := by positivity
  have hfirst := div_bounds (p * (scale - p)) hn
  have hsecond := div_bounds (z * z) (b := 4 * n * n) (by positivity)
  have hle : (k : ℚ) ^ 2 ≤ (p * (scale - p) / n : ℕ) + (z * z / (4 * n * n) : ℕ) := by
    exact_mod_cast sqrt_le' _
  have hlt : ((p * (scale - p) / n : ℕ) : ℚ) + (z * z / (4 * n * n) : ℕ) + 1 ≤ (k + 1) ^ 2 := by
    exact_mod_cast sqrt_lt'.mp (lt_succ_self _)
  generalize p * (scale - p) / n = first at hfirst hle hlt
  generalize z * z / (4 * n * n) = second at hsecond hle hlt
  have hreal : (scale : ℚ) = 1000000 := by exact_mod_cast hscale
  push_cast [hp, hreal] at hfirst hsecond
  have hexact : G * 1000000 * (p * (1000000 - p)) + G ^ 2 * 1000000 ^ 2 / 4 =
      (z : ℚ) ^ 2 * (p * (1000000 - p) / n + z * z / (4 * n * n)) := by
    have hG' : G * 1000000 = z * z / n := by
      field_simp
      linarith
    calc G * 1000000 * (p * (1000000 - p)) + G ^ 2 * 1000000 ^ 2 / 4
        = G * 1000000 * (p * (1000000 - p)) + (G * 1000000) ^ 2 / 4 := by ring
      _ = _ := by rw [hG']; field_simp
  have hone : (first : ℚ) ≤ p * (1000000 - p) / n ∧ p * (1000000 - p) / n < (first + 1 : ℚ) :=
    ⟨(le_div_iff₀ hn').mpr hfirst.1, (div_lt_iff₀ hn').mpr hfirst.2⟩
  have hfour : (0 : ℚ) < 4 * n * n := by positivity
  have htwo : (second : ℚ) ≤ z * z / (4 * n * n) ∧ z * z / (4 * n * n) < (second + 1 : ℚ) :=
    ⟨(le_div_iff₀ hfour).mpr hsecond.1, (div_lt_iff₀ hfour).mpr hsecond.2⟩
  rw [hexact, mul_pow]
  constructor
  · exact mul_le_mul_of_nonneg_left (by linarith) hz'.le
  · exact mul_lt_mul_of_pos_left (by linarith) hz'

lemma scaledLower_rounded {scale s n z : ℕ} (hscale : scale = 1000000) (hn : 0 < n)
    (hs : s ≤ n) (hpos : 0 < z) (hz : z ≤ 10000000) :
    Rounded s n z (s * scale / n) (scaledLower scale s n z) (z * z / (n * 1000000)) := by
  have hn' : (1 : ℚ) ≤ n := by exact_mod_cast hn
  have hratio : (z * z / (n * 1000000) : ℚ) * (n * 1000000) = z * z := by field_simp
  have hp := div_bounds (s * scale) hn
  have hmax : s * scale / n ≤ scale := Nat.div_le_of_le_mul (Nat.mul_le_mul_right scale hs)
  have hroot := radicand_bounds hscale hn hpos hmax hratio
  unfold scaledLower
  dsimp only at hroot ⊢
  generalize s * scale / n = p at hp hroot ⊢
  generalize Nat.sqrt (p * (scale - p) / n + z * z / (4 * n * n)) = k at hroot ⊢
  have hhalf : z * z / scale / (2 * n) = z * z / scale / n / 2 := by
    rw [Nat.mul_comm 2 n, Nat.div_div_eq_div_mul _ n 2]
  have hscale' : 0 < scale := by omega
  have hq := div_bounds (z * z) (b := scale * n) (Nat.mul_pos hscale' hn)
  rw [← Nat.div_div_eq_div_mul] at hq
  rw [hhalf]
  generalize z * z / scale / n = q at hq ⊢
  have hm := div_bounds (z * k) hscale'
  generalize z * k / scale = m at hm ⊢
  have hl := div_bounds ((p + q / 2 - m) * scale) (b := scale + q) (by omega)
  have hreal : (scale : ℚ) = 1000000 := by exact_mod_cast hscale
  push_cast [hreal] at hp hq hm hl
  have hcut : p + q / 2 ≤ p + q / 2 - m + m := by omega
  have hhalved : (q : ℚ) ≤ 2 * (q / 2 : ℕ) + 1 ∧ 2 * ((q / 2 : ℕ) : ℚ) ≤ q := by
    constructor
    · exact_mod_cast (by omega : q ≤ 2 * (q / 2) + 1)
    · exact_mod_cast (by omega : 2 * (q / 2) ≤ q)
  have hcut' : (p : ℚ) + (q / 2 : ℕ) ≤ (p + q / 2 - m : ℕ) + m := by exact_mod_cast hcut
  refine ⟨⟨hn', by exact_mod_cast hs⟩, by exact_mod_cast hz, hratio,
    ⟨by linarith [hp.1], by linarith [hp.2]⟩, q, k, m, ?_, ?_, hroot.1, hroot.2, hm.1, hm.2,
    fun hlpos => ?_, ?_⟩
  · rw [le_div_iff₀ (by positivity)]
    linarith [hq.1]
  · rw [div_lt_iff₀ (by positivity)]
    linarith [hq.2]
  · have hnumerator : p + q / 2 - m + m = p + q / 2 := by
      by_contra hne
      have hzero : p + q / 2 - m = 0 := by omega
      simp [hzero] at hlpos
    have hcast : ((p + q / 2 - m : ℕ) : ℚ) + m = p + (q / 2 : ℕ) := by exact_mod_cast hnumerator
    nlinarith [hl.1]
  · nlinarith [hl.2]

/-- `y` is at most the exact bound of `s` successes among `n`. -/
structure BelowExact (s n z y : ℚ) : Prop where
  positive : 0 ≤ y ∧ y < 1000000
  share : n * y ≤ s * 1000000
  root : n * z ^ 2 * (y * (1000000 - y)) ≤ 1000000 ^ 2 * (s * 1000000 - n * y) ^ 2

section Exact

variable {s n z y : ℚ}

theorem BelowExact.failure (h : BelowExact s (n + 1) z y) : BelowExact s n z y := by
  obtain ⟨⟨hy, hless⟩, hshare, hroot⟩ := h
  have hgap : 0 ≤ s * 1000000 - (n + 1) * y := by linarith
  have hwider : (s * 1000000 - (n + 1) * y) ^ 2 ≤ (s * 1000000 - n * y) ^ 2 :=
    pow_le_pow_left₀ hgap (by linarith) 2
  have hvariance : 0 ≤ z ^ 2 * (y * (1000000 - y)) := by
    have := mul_nonneg hy (sub_nonneg.mpr hless.le)
    positivity
  refine ⟨⟨hy, hless⟩, by linarith, ?_⟩
  linarith

/-- The gap to the share dominates the quantile. -/
lemma BelowExact.quantile (hs : s ≤ n) (hn : 0 < n) (h : BelowExact s n z y) :
    z ^ 2 * y ≤ 1000000 ^ 2 * (s * 1000000 - n * y) := by
  obtain ⟨⟨hy, hless⟩, hshare, hroot⟩ := h
  have hfree : 0 < n * (1000000 - y) := mul_pos hn (by linarith)
  have hgap : 0 ≤ s * 1000000 - n * y := by linarith
  refine le_of_mul_le_mul_right ?_ hfree
  calc z ^ 2 * y * (n * (1000000 - y)) = n * z ^ 2 * (y * (1000000 - y)) := by ring
    _ ≤ 1000000 ^ 2 * (s * 1000000 - n * y) ^ 2 := hroot
    _ = 1000000 ^ 2 * (s * 1000000 - n * y) * (s * 1000000 - n * y) := by ring
    _ ≤ 1000000 ^ 2 * (s * 1000000 - n * y) * (n * (1000000 - y)) :=
      mul_le_mul_of_nonneg_left (by nlinarith) (by positivity)

theorem BelowExact.success (hs : s ≤ n) (hn : 0 < n) (h : BelowExact s n z y) :
    BelowExact (s + 1) (n + 1) z y := by
  have hquantile := h.quantile hs hn
  obtain ⟨⟨hy, hless⟩, hshare, hroot⟩ := h
  have hfree : 0 ≤ 1000000 - y := by linarith
  have hvariance := mul_le_mul_of_nonneg_right hquantile hfree
  have hgap : 0 ≤ (s * 1000000 - n * y) * (1000000 - y) := mul_nonneg (by linarith) hfree
  refine ⟨⟨hy, hless⟩, by linarith, ?_⟩
  calc (n + 1) * z ^ 2 * (y * (1000000 - y))
      = n * z ^ 2 * (y * (1000000 - y)) + z ^ 2 * y * (1000000 - y) := by ring
    _ ≤ 1000000 ^ 2 * (s * 1000000 - n * y) ^ 2 +
          1000000 ^ 2 * (s * 1000000 - n * y) * (1000000 - y) := add_le_add hroot hvariance
    _ ≤ 1000000 ^ 2 * ((s + 1) * 1000000 - (n + 1) * y) ^ 2 := by
      nlinarith [sq_nonneg (1000000 - y)]

end Exact

namespace Rounded

variable {s n z p l : ℕ} {G : ℚ}

/-- The distance of the exact root from `x`, in the form in which the code compares it. -/
lemma root_identity (p G x : ℚ) : ((p - x) * 1000000 + G * (500000 - x)) ^ 2 =
      G * 1000000 * (p * (1000000 - p)) + G ^ 2 * 1000000 ^ 2 / 4 +
        (1000000 + G) * (1000000 * (p - x) ^ 2 - G * (x * (1000000 - x))) := by ring

lemma basic (h : Rounded s n z p l G) : 0 ≤ G ∧ (p : ℚ) ≤ 1000000 ∧ (0 : ℚ) ≤ p := by
  obtain ⟨hn, hs⟩ := h.count
  have hpos : (0 : ℚ) < n := by linarith
  refine ⟨?_, ?_, cast_nonneg p⟩
  · by_contra hneg
    have hz : (0 : ℚ) ≤ z * z := mul_self_nonneg _
    have := h.ratio
    nlinarith [mul_pos (neg_pos.mpr (not_le.mp hneg)) hpos]
  · refine le_of_mul_le_mul_left ?_ hpos
    linarith [h.share.1]

/-- The roundings lift the bound over the share by little. -/
lemma near (h : Rounded s n z p l G) : (l : ℚ) ≤ p + 21 := by
  obtain ⟨hG, hp, hp'⟩ := h.basic
  obtain ⟨q, k, m, hq, hq', -, hroot, -, hm, hl, -⟩ := h.bound
  rcases Nat.eq_zero_or_pos l with rfl | hpos
  · push_cast
    linarith
  · have hz := h.quantile
    have hz' : (0 : ℚ) ≤ z := cast_nonneg z
    have hk : (0 : ℚ) ≤ k := cast_nonneg k
    have hq0 : (0 : ℚ) ≤ q := cast_nonneg q
    have hvariance : 0 ≤ G * 1000000 * (p * (1000000 - p)) := by
      have := mul_nonneg hp' (sub_nonneg.mpr hp)
      positivity
    have hsq : (G * 500000) ^ 2 < (z * (k + 2)) ^ 2 := by nlinarith [sq_nonneg (z : ℚ)]
    have hlt : G * 500000 < z * (k + 2) := lt_of_pow_lt_pow_left₀ 2 (by positivity) hsq
    have hmargin : (q : ℚ) / 2 - m < 21 := by linarith
    have hbound := hl hpos
    have hsum : (l : ℚ) * (1000000 + q) ≤ (p + 21) * (1000000 + q) := by nlinarith
    exact le_of_mul_le_mul_right hsum (by linarith)

/-- A little less than the rounded bound is at most the root of the rounded share. -/
theorem below (h : Rounded s n z p l G) (hpos : 27 ≤ l) :
    G * ((l - 27 : ℚ) * (1000000 - (l - 27))) ≤ 1000000 * (p - (l - 27)) ^ 2 := by
  obtain ⟨hG, hp, hp'⟩ := h.basic
  obtain ⟨q, k, m, hq, hq', -, hroot, -, hm, hl, -⟩ := h.bound
  have hz := h.quantile
  have hz' : (0 : ℚ) ≤ z := cast_nonneg z
  have hk : (0 : ℚ) ≤ k := cast_nonneg k
  have hbound := hl (by omega)
  have hnear := h.near
  have hl' : (27 : ℚ) ≤ l := by exact_mod_cast hpos
  have hpart : (q : ℚ) * (500000 - l) ≤ G * (500000 - l) + 500021 := by
    rcases le_total (l : ℚ) 500000 with hle | hle <;> nlinarith
  have hroots : z * (k + 2 : ℚ) ≤ (p - (l - 27)) * 1000000 + G * (500000 - (l - 27)) := by
    nlinarith
  have hsq := pow_le_pow_left₀ (by positivity) hroots 2
  rw [root_identity] at hsq
  have hless : G * 1000000 * (p * (1000000 - p)) + G ^ 2 * 1000000 ^ 2 / 4 <
      (z * (k + 2 : ℚ)) ^ 2 := by nlinarith [sq_nonneg (z : ℚ)]
  have hsign : 0 < (1000000 + G) * (1000000 * (p - (l - 27 : ℚ)) ^ 2 -
      G * ((l - 27) * (1000000 - (l - 27)))) := by linarith
  have := (pos_iff_pos_of_mul_pos hsign).mp (by linarith)
  linarith

/-- The rounded bound reaches what is below the root of the rounded share. -/
lemma reaches (h : Rounded s n z p l G) {y : ℚ} (hy : 0 ≤ y ∧ y < 1000000) (hle : y ≤ p)
    (hT : G * (y * (1000000 - y)) ≤ 1000000 * (p - y) ^ 2) : y - 1 < l + 1 := by
  obtain ⟨hG, hp, hp'⟩ := h.basic
  obtain ⟨q, k, m, hq, hq', hroot, -, hm, -, -, hl⟩ := h.bound
  have hpositive : 0 ≤ (p - y) * 1000000 + G * (500000 - y) := by
    rcases le_total y 500000 with hhalf | hhalf
    · exact add_nonneg (by nlinarith) (mul_nonneg hG (by linarith))
    · have hfree : 0 < 1000000 - y := by linarith
      have hmul : G * y * (1000000 - y) ≤ 1000000 * (p - y) * (1000000 - y) := by nlinarith
      have := le_of_mul_le_mul_right hmul hfree
      nlinarith
  have hzk : (z : ℚ) * k ≤ (p - y) * 1000000 + G * (500000 - y) := by
    refine (pow_le_pow_iff_left₀ (by positivity) hpositive two_ne_zero).mp ?_
    rw [root_identity]
    have := mul_nonneg (by linarith : (0 : ℚ) ≤ 1000000 + G) (sub_nonneg.mpr hT)
    linarith
  have hpart : G * (500000 - y) - 500000 ≤ (q : ℚ) * (500000 - y) := by
    rcases le_total y 500000 with hhalf | hhalf <;> nlinarith
  have hq0 : (0 : ℚ) ≤ q := cast_nonneg q
  have hsum : (y - 1) * (1000000 + q) < (l + 1 : ℚ) * (1000000 + q) := by nlinarith
  exact lt_of_mul_lt_mul_right hsum (by linarith)

lemma below_exact (h : Rounded s n z p l G) (hpos : 27 ≤ l) : BelowExact s n z (l - 27) := by
  obtain ⟨hG, hp, hp'⟩ := h.basic
  have hnear := h.near
  have hn : (0 : ℚ) < n := by linarith [h.count.1]
  have hl : (27 : ℚ) ≤ l := by exact_mod_cast hpos
  have hgap : (n : ℚ) * (p - (l - 27)) ≤ s * 1000000 - n * (l - 27) := by
    linarith [h.share.1]
  have hsign : 0 ≤ (n : ℚ) * (p - (l - 27)) := mul_nonneg hn.le (by linarith)
  refine ⟨⟨by linarith, by linarith⟩, by linarith, ?_⟩
  calc (n : ℚ) * z ^ 2 * ((l - 27) * (1000000 - (l - 27)))
      = (n : ℚ) ^ 2 * 1000000 * (G * ((l - 27) * (1000000 - (l - 27)))) := by
        rw [pow_two (z : ℚ), ← h.ratio]
        ring
    _ ≤ (n : ℚ) ^ 2 * 1000000 * (1000000 * (p - (l - 27)) ^ 2) :=
        mul_le_mul_of_nonneg_left (h.below hpos) (by positivity)
    _ = 1000000 ^ 2 * ((n : ℚ) * (p - (l - 27))) ^ 2 := by ring
    _ ≤ 1000000 ^ 2 * ((s : ℚ) * 1000000 - n * (l - 27)) ^ 2 :=
        mul_le_mul_of_nonneg_left (pow_le_pow_left₀ hsign hgap 2) (by norm_num)

lemma exact_reached (h : Rounded s n z p l G) {y : ℚ} (hy : BelowExact s n z y) :
    y - 3 < l + 1 := by
  obtain ⟨hn, hs⟩ := h.count
  have hn' : (0 : ℚ) < n := by linarith
  have hquantile := hy.quantile hs hn'
  obtain ⟨⟨hy0, hless⟩, hshare, hroot⟩ := hy
  by_cases htwo : y < 2
  · have hl : (0 : ℚ) ≤ l := cast_nonneg l
    linarith
  · have htwo := not_lt.mp htwo
    have hgap : s * 1000000 - n * y + n ≤ n * (p - (y - 2)) := by linarith [h.share.2]
    have hshift : y - 2 ≤ p := by
      have : 0 ≤ (n : ℚ) * (p - (y - 2)) := by linarith
      linarith [(mul_nonneg_iff_of_pos_left hn').mp this]
    have hT : G * ((y - 2) * (1000000 - (y - 2))) ≤ 1000000 * (p - (y - 2)) ^ 2 := by
      refine le_of_mul_le_mul_left ?_ (by positivity : (0 : ℚ) < n ^ 2 * 1000000)
      calc n ^ 2 * 1000000 * (G * ((y - 2) * (1000000 - (y - 2))))
          = n * z ^ 2 * ((y - 2) * (1000000 - (y - 2))) := by
            rw [pow_two (z : ℚ), ← h.ratio]
            ring
        _ ≤ n * z ^ 2 * (y * (1000000 - y)) + 2 * n * (z ^ 2 * y) := by
            have := mul_nonneg hn'.le (sq_nonneg (z : ℚ))
            nlinarith
        _ ≤ 1000000 ^ 2 * (s * 1000000 - n * y) ^ 2 +
              2 * n * (1000000 ^ 2 * (s * 1000000 - n * y)) :=
            add_le_add hroot (mul_le_mul_of_nonneg_left hquantile (by positivity))
        _ ≤ 1000000 ^ 2 * (s * 1000000 - n * y + n) ^ 2 := by nlinarith [sq_nonneg (n : ℚ)]
        _ ≤ 1000000 ^ 2 * (n * (p - (y - 2))) ^ 2 :=
            mul_le_mul_of_nonneg_left (pow_le_pow_left₀ (by linarith) hgap 2) (by norm_num)
        _ = n ^ 2 * 1000000 * (1000000 * (p - (y - 2)) ^ 2) := by ring
    linarith [h.reaches ⟨by linarith, by linarith⟩ hshift hT]

/-- Rounded to thousandths the bound does not exceed the share. -/
lemma thousandths_le (h : Rounded s n z p l G) : l / 1000 ≤ p / 1000 := by
  by_contra hlt
  obtain ⟨x, hx⟩ : ∃ x, x = l / 1000 * 1000 := ⟨_, rfl⟩
  have hxl : (x : ℚ) ≤ l := by exact_mod_cast (by omega : x ≤ l)
  have hxp : (p : ℚ) + 1 ≤ x := by exact_mod_cast (by omega : p + 1 ≤ x)
  have hx' : (1000 : ℚ) ≤ x := by exact_mod_cast (by omega : 1000 ≤ x)
  obtain ⟨hG, hp, hp'⟩ := h.basic
  have hnear := h.near
  have hn := h.count.1
  have hratio := h.ratio
  obtain ⟨q, k, m, hq, hq', -, hroot, -, hm, hl, -⟩ := h.bound
  have hz := h.quantile
  have hz' : (0 : ℚ) ≤ z := cast_nonneg z
  have hk : (0 : ℚ) ≤ z * k := mul_nonneg hz' (cast_nonneg k)
  have hq0 : (0 : ℚ) ≤ q := cast_nonneg q
  have hbound := hl (by omega)
  have hroots : (z : ℚ) * k < q * (500000 - x) := by nlinarith
  have hhalf : (x : ℚ) < 500000 := by
    by_contra hlarge
    linarith [mul_nonneg hq0 (sub_nonneg.mpr (not_lt.mp hlarge))]
  have hone : (1 : ℚ) ≤ q := by
    rcases Nat.eq_zero_or_pos q with hzero | hpos
    · simp only [hzero, Nat.cast_zero, zero_mul] at hroots
      linarith
    · exact_mod_cast hpos
  have hB : q * (500000 - x) ≤ G * (500000 - x : ℚ) :=
    mul_le_mul_of_nonneg_right hq (by linarith)
  have hsq : (z : ℚ) ^ 2 * ((k + 1) ^ 2 + 1) ≤ (G * (500000 - x) + z) ^ 2 + z ^ 2 := by
    have := pow_le_pow_left₀ (by linarith) (by linarith : z * k + z ≤ G * (500000 - x) + z) 2
    linarith
  have hcentre : (G * (500000 - x)) ^ 2 ≤ G ^ 2 * 1000000 ^ 2 / 4 := by
    have := pow_le_pow_left₀ (mul_nonneg hG (by linarith))
      (mul_le_mul_of_nonneg_left (by linarith : 500000 - (x : ℚ) ≤ 500000) hG) 2
    linarith
  have hmixed : G * (500000 - x) * z ≤ G * 500000 * z :=
    mul_le_mul_of_nonneg_right (mul_le_mul_of_nonneg_left (by linarith) hG) hz'
  have hvariance : G * 1000000 * (p * (1000000 - p)) < G * 1000000 * (z + 2 * n : ℚ) := by
    nlinarith
  have hsmall := lt_of_mul_lt_mul_left hvariance (by positivity)
  -- the whole part of `z²/n` is positive, so there are few observations
  have hfew : (n : ℚ) ≤ 100000000 := by nlinarith
  nlinarith

/-- What the exact bound of the first observations exceeds, that of the second does nearly. -/
theorem close {s' n' p' l' : ℕ} {G' : ℚ} (h : Rounded s n z p l G) (h' : Rounded s' n' z p' l' G')
    (hexact : ∀ y : ℚ, BelowExact s n z y → BelowExact s' n' z y) : l ≤ l' + 30 := by
  by_cases hpos : 27 ≤ l
  · have hlt := h'.exact_reached (hexact _ (h.below_exact hpos))
    have hcast : (l : ℚ) < (l' + 31 : ℕ) := by
      push_cast
      linarith
    have := cast_lt.mp hcast
    omega
  · omega

end Rounded

lemma wilson_eq_thousandths {s f z : ℕ} (h : s + f ≠ 0) : wilsonLowerConfidenceMilli s f z =
    min 1000 (scaledLower 1000000 s (s + f) z / 1000) := by
  rw [wilson_eq h]
  omega

lemma wilson_le_share {s f z : ℕ} (hpos : 0 < z) (hz : z ≤ 10000000) :
    wilsonLowerConfidenceMilli s f z ≤ 1000 * s / (s + f) := by
  by_cases h : s + f = 0
  · simp [wilsonLowerConfidenceMilli, h]
  · rw [wilson_eq_thousandths h]
    have hrounded := scaledLower_rounded (s := s) rfl (pos_of_ne_zero h)
      (Nat.le_add_right s f) hpos hz
    have hle := hrounded.thousandths_le
    have hshare : s * 1000000 / (s + f) / 1000 = 1000 * s / (s + f) := by
      rw [Nat.div_div_eq_div_mul, show s * 1000000 = 1000 * s * 1000 by ring,
        Nat.mul_div_mul_right _ _ (by decide)]
    rw [hshare] at hle
    exact le_trans (min_le_right _ _) hle

/-- A step of the counts that lowers no exact bound lowers the rounded one by at most one. -/
lemma wilson_close {s f s' f' z : ℕ} (hpos : 0 < z) (hz : z ≤ 10000000) (h' : s' + f' ≠ 0)
    (hexact : s + f ≠ 0 → ∀ y : ℚ, BelowExact s ((s + f : ℕ) : ℚ) z y →
      BelowExact s' ((s' + f' : ℕ) : ℚ) z y) :
    wilsonLowerConfidenceMilli s f z ≤ wilsonLowerConfidenceMilli s' f' z + 1 := by
  by_cases h : s + f = 0
  · simp [wilsonLowerConfidenceMilli, h]
  · have hrounded := scaledLower_rounded (s := s) rfl (pos_of_ne_zero h)
      (le_add_right s f) hpos hz
    have hrounded' := scaledLower_rounded (s := s') rfl (pos_of_ne_zero h')
      (le_add_right s' f') hpos hz
    have hclose := hrounded.close hrounded' (hexact h)
    rw [wilson_eq_thousandths h, wilson_eq_thousandths h']
    omega

lemma posterior_mono (s f : ℕ) : posteriorSuccessMilli s f < 1000 ∧
      posteriorSuccessMilli s f ≤ posteriorSuccessMilli (s + 1) f ∧
      posteriorSuccessMilli s (f + 1) ≤ posteriorSuccessMilli s f := by
  unfold posteriorSuccessMilli
  have hless : (s + 1) * 1000 / (s + f + 2) < 1000 :=
    (div_lt_iff_lt_mul (by omega)).mpr (by omega)
  refine ⟨hless, ?_, div_le_div_left (by omega) (by omega)⟩
  rw [le_div_iff_mul_le (by omega)]
  have hmul := div_mul_le_self ((s + 1) * 1000) (s + f + 2)
  generalize (s + 1) * 1000 / (s + f + 2) = q at hless hmul ⊢
  nlinarith

/-- The confidence never exceeds the share of successes, and one more observation moves it the
wrong way by at most one thousandth; the posterior mean is monotone. -/
theorem confidence_conservative (s f z : ℕ) (hpos : 1 ≤ z) (hz : z ≤ 10000000) :
    wilsonLowerConfidenceMilli s f z ≤ 1000 * s / (s + f) ∧ wilsonLowerConfidenceMilli 0 0 z = 0 ∧
      wilsonLowerConfidenceMilli s f z ≤ wilsonLowerConfidenceMilli (s + 1) f z + 1 ∧
      wilsonLowerConfidenceMilli s (f + 1) z ≤ wilsonLowerConfidenceMilli s f z + 1 ∧
      posteriorSuccessMilli s f < 1000 ∧
      posteriorSuccessMilli s f ≤ posteriorSuccessMilli (s + 1) f ∧
      posteriorSuccessMilli s (f + 1) ≤ posteriorSuccessMilli s f := by
  refine ⟨wilson_le_share hpos hz, rfl, ?_, ?_, posterior_mono s f⟩
  · refine wilson_close hpos hz (by omega) fun h y hy => ?_
    have hn : (0 : ℚ) < ((s + f : ℕ) : ℚ) := by exact_mod_cast pos_of_ne_zero h
    have hs : (s : ℚ) ≤ ((s + f : ℕ) : ℚ) := by exact_mod_cast le_add_right s f
    have hnext := hy.success hs hn
    push_cast at hnext ⊢
    rwa [add_right_comm]
  · by_cases h : s + f = 0
    · obtain ⟨rfl, rfl⟩ : s = 0 ∧ f = 0 := by omega
      have hzero := @wilson_le_share 0 (0 + 1) z hpos hz
      rw [Nat.mul_zero, Nat.zero_div] at hzero
      omega
    · refine wilson_close hpos hz h fun _ y hy => ?_
      rw [← add_assoc, cast_succ] at hy
      exact hy.failure

/-- Of 14817 observations with two failures the bound is below that of one success fewer, and
one more failure after 4067 observations raises it. -/
theorem wilson_not_monotone :
    wilsonLowerConfidenceMilli 14816 2 7454211 < wilsonLowerConfidenceMilli 14815 2 7454211 ∧
      wilsonLowerConfidenceMilli 50 4017 8386483 < wilsonLowerConfidenceMilli 50 4018 8386483 := by
  norm_num [wilsonLowerConfidenceMilli]

/-- Five successes among six observations, at the quantile of the default policy. -/
theorem confidence_conservative_sample : wilsonLowerConfidenceMilli 5 1 1282000 ≤ 833 :=
  (confidence_conservative 5 1 1282000 (by decide) (by decide)).1

end Tiangong.Experience
