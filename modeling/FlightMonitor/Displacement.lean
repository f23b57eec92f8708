import Mathlib.Geometry.Euclidean.Angle.Unoriented.TriangleInequality
import FlightMonitor.ExactDistance

/-! The distance flown against the way from one fix to another, over exact real arithmetic. As
long as every message carries a fix the distance grows by at least the great circle between the
fixes at the two ends, by however many legs; and no message adds more than half a turn. -/
namespace FlightMonitor.Displacement
open PyValue Updates ExactDistance

abbrev Fix := ℝ × ℝ

noncomputable def apart (x y : Fix) : ℝ := greatCircle x.1 x.2 y.1 y.2

theorem apartSelf (x : Fix) : apart x x = 0 := greatCircleSelf ..

theorem apartTriangle (x y z : Fix) : apart x z ≤ apart x y + apart y z := by
  rw [apart,apart,apart,greatCircle,greatCircle,greatCircle,← mul_add]
  refine mul_le_mul_of_nonneg_left ?_ radiusPositive.le
  exact InnerProductGeometry.angle_le_angle_add_angle ..

section
variable (read : Json → Except PyError (Option ℝ))

def At (position : Option Position) (x : Fix) : Prop :=
  ∃ p, position = some p ∧ read p.latitude = .ok (some x.1) ∧ read p.longitude = .ok (some x.2)

structure Covers (f : String) (live : Option (Flight ℝ)) (updates : List Update) : Prop where
  displacement : ∀ before stretch start, before ++ stretch <+: updates →
    (∀ u ∈ stretch, ∃ x, At read u.1.position x) →
    At read (shown (reals.updated read f live before)) start →
    ∃ finish, At read (shown (reals.updated read f live (before ++ stretch))) finish ∧
      distance (reals.updated read f live before) + apart start finish ≤
        distance (reals.updated read f live updates)
  halfTurns : distance (reals.updated read f live updates) ≤
    distance live + updates.length * (Real.pi * radius)

variable {read}

theorem legAt {previous current : Option Position} {x y : Fix} (before : At read previous x)
    (now : At read current y) : reals.leg read previous current = .ok (some (apart x y)) := by
  obtain ⟨p,rfl,lat1,lon1⟩ := before
  obtain ⟨q,rfl,lat2,lon2⟩ := now
  simp only [Arithmetic.leg,lat1,lon1,lat2,lon2,metresReals]
  rfl

theorem legAtMost {previous current : Option Position} {d : ℝ}
    (flown : reals.leg read previous current = .ok (some d)) : d ≤ Real.pi * radius := by
  rcases previous with _ | p
  · cases flown
  rcases current with _ | q
  · cases flown
  obtain ⟨lat1,-,flown⟩ := bindOk flown
  obtain ⟨lon1,-,flown⟩ := bindOk flown
  obtain ⟨lat2,-,flown⟩ := bindOk flown
  obtain ⟨lon2,-,flown⟩ := bindOk flown
  split at flown
  · rw [metresReals] at flown
    cases flown
    exact greatCircleAtMost ..
  · cases flown

section
variable {live next : Option (Flight ℝ)} {u : Update} {outcome : Except PyError (Flight ℝ)}
  (step : Step reals read live u next outcome)
include step

theorem stepCovers {x y : Fix} (here : At read (shown live) x) (there : At read u.1.position y) :
    ∃ z, At read (shown next) z ∧ distance live + apart x z ≤ distance next := by
  cases step with
  | refused => exact ⟨x,here,by rw [apartSelf,add_zero]⟩
  | created flight fresh =>
    subst fresh
    obtain ⟨p,none,-⟩ := here
    cases none
  | broken existing found received _ e failed =>
    subst found
    cases failed.symm.trans (legAt here there)
  | recorded existing found flight same metres flown added =>
    subst found
    cases flown.symm.trans (legAt here there)
    refine ⟨y,?_,added.ge⟩
    change At read flight.state.position y
    rwa [same]

theorem stepAtMost : distance next ≤ distance live + Real.pi * radius := by
  have positive : 0 ≤ Real.pi * radius := mul_nonneg Real.pi_pos.le radiusPositive.le
  cases step with
  | refused => exact le_add_of_nonneg_right positive
  | created flight fresh _ began =>
    subst fresh
    exact began.le.trans (le_add_of_nonneg_right positive)
  | broken existing found =>
    subst found
    exact le_add_of_nonneg_right positive
  | recorded existing found flight _ metres flown added =>
    subst found
    refine added.le.trans ?_
    cases metres with
    | none => exact le_add_of_nonneg_right positive
    | some d => exact add_le_add_right (legAtMost flown) _

end

theorem updatedCovers (f : String) {live : Option (Flight ℝ)} {start : Fix}
    (here : At read (shown live) start) {updates : List Update}
    (located : ∀ u ∈ updates, ∃ x, At read u.1.position x) :
    ∃ finish, At read (shown (reals.updated read f live updates)) finish ∧
      distance live + apart start finish ≤ distance (reals.updated read f live updates) := by
  induction updates using List.reverseRecOn with
  | nil => exact ⟨start,here,by rw [apartSelf,add_zero]; rfl⟩
  | append_singleton updates u ih =>
    obtain ⟨mid,there,covered⟩ := ih (fun x mem => located x (List.mem_append_left _ mem))
    obtain ⟨y,next⟩ := located u (by simp)
    rw [Arithmetic.updated,Trace.finalConcat]
    obtain ⟨finish,shows,more⟩ := stepCovers (updateStep reals read f _ u) there next
    refine ⟨finish,shows,le_trans ?_ more⟩
    have shorter := apartTriangle start mid finish
    change _ ≤ distance (reals.updated read f live updates) + apart mid finish
    linarith

theorem updatedAtMost (f : String) (live : Option (Flight ℝ)) (updates : List Update) :
    distance (reals.updated read f live updates) ≤
      distance live + updates.length * (Real.pi * radius) := by
  induction updates using List.reverseRecOn with
  | nil => simp [Arithmetic.updated]
  | append_singleton updates u ih =>
    rw [Arithmetic.updated,Trace.finalConcat]
    refine (stepAtMost (updateStep reals read f _ u)).trans ?_
    rw [List.length_append,List.length_singleton,Nat.cast_add,Nat.cast_one,add_mul,one_mul]
    change distance (reals.updated read f live updates) + _ ≤ _
    linarith

end

theorem flownCovers (read : Json → Except PyError (Option ℝ)) (f : String)
    (live : Option (Flight ℝ)) (updates : List Update) : Covers read f live updates := by
  refine ⟨?_,updatedAtMost f live updates⟩
  intro before stretch start within located here
  obtain ⟨rest,rfl⟩ := within
  obtain ⟨finish,there,covered⟩ := updatedCovers f here located
  have whole : reals.updated read f live (before ++ stretch) =
      reals.updated read f (reals.updated read f live before) stretch := Trace.finalAppend ..
  refine ⟨finish,by rwa [whole],covered.trans ?_⟩
  rw [← whole]
  exact updatedGrows f live (before ++ stretch) rest

end FlightMonitor.Displacement
