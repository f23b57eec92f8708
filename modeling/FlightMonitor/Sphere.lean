import Mathlib.Analysis.InnerProductSpace.PiL2
import Mathlib.Geometry.Euclidean.Angle.Unoriented.Basic

/-! Points of the unit sphere by latitude and longitude, in radians and of any size, and the arc
between two of them. The haversine of an arc is the square of the sine of its half, whatever the
signs of the two cosines are. -/
namespace Sphere
open Real InnerProductGeometry

noncomputable def point (lat lon : ℝ) : EuclideanSpace ℝ (Fin 3) :=
  !₂[cos lat * cos lon,cos lat * sin lon,sin lat]

noncomputable def arc (lat1 lon1 lat2 lon2 : ℝ) : ℝ := angle (point lat1 lon1) (point lat2 lon2)

noncomputable def haversine (lat1 lon1 lat2 lon2 : ℝ) : ℝ :=
  sin ((lat2 - lat1) / 2) ^ 2 + cos lat1 * cos lat2 * sin ((lon2 - lon1) / 2) ^ 2

theorem innerPoint (lat1 lon1 lat2 lon2 : ℝ) : inner ℝ (point lat1 lon1) (point lat2 lon2) =
    sin lat1 * sin lat2 + cos lat1 * cos lat2 * cos (lon2 - lon1) := by
  simp [point,PiLp.inner_apply,Fin.sum_univ_three,cos_sub]
  ring

theorem normPoint (lat lon : ℝ) : ‖point lat lon‖ = 1 := by
  have square := real_inner_self_eq_norm_sq (point lat lon)
  rw [innerPoint,sub_self,cos_zero,mul_one,← sq,← sq,sin_sq_add_cos_sq] at square
  exact (pow_eq_one_iff_of_nonneg (norm_nonneg _) two_ne_zero).mp square.symm

theorem pointNonzero (lat lon : ℝ) : point lat lon ≠ 0 := by
  rw [← norm_ne_zero_iff,normPoint]
  exact one_ne_zero

theorem cosArc (lat1 lon1 lat2 lon2 : ℝ) : cos (arc lat1 lon1 lat2 lon2) =
    sin lat1 * sin lat2 + cos lat1 * cos lat2 * cos (lon2 - lon1) := by
  rw [arc,cos_angle,normPoint,normPoint,mul_one,div_one,innerPoint]

theorem haversineArc (lat1 lon1 lat2 lon2 : ℝ) :
    haversine lat1 lon1 lat2 lon2 = sin (arc lat1 lon1 lat2 lon2 / 2) ^ 2 := by
  have half : ∀ x : ℝ, sin (x / 2) ^ 2 = 1 / 2 - cos x / 2 := by
    intro x
    rw [sin_sq_eq_half_sub,mul_div_cancel₀ x two_ne_zero]
  rw [haversine,half,half,half,cosArc,cos_sub lat2 lat1]
  ring

theorem haversineInside (lat1 lon1 lat2 lon2 : ℝ) :
    0 ≤ haversine lat1 lon1 lat2 lon2 ∧ haversine lat1 lon1 lat2 lon2 ≤ 1 := by
  rw [haversineArc]
  exact ⟨sq_nonneg _,sin_sq_le_one _⟩

theorem arcsinSqrtHaversine (lat1 lon1 lat2 lon2 : ℝ) :
    arcsin (√(haversine lat1 lon1 lat2 lon2)) = arc lat1 lon1 lat2 lon2 / 2 := by
  have low : 0 ≤ arc lat1 lon1 lat2 lon2 := angle_nonneg ..
  have high : arc lat1 lon1 lat2 lon2 ≤ π := angle_le_pi ..
  rw [haversineArc,sqrt_sq (sin_nonneg_of_nonneg_of_le_pi (by linarith) (by linarith))]
  exact arcsin_sin (by linarith) (by linarith)

theorem arcSelf (lat lon : ℝ) : arc lat lon lat lon = 0 := angle_self (pointNonzero lat lon)

theorem arcOpposite (lat lon : ℝ) : arc lat lon (lat + π) lon = π := by
  have opposite : point (lat + π) lon = -point lat lon := by
    ext i
    fin_cases i <;> simp [point,cos_add_pi,sin_add_pi]
  rw [arc,opposite]
  exact angle_self_neg_of_nonzero (pointNonzero lat lon)

end Sphere
