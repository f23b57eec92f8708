import Mathlib.Algebra.Order.Floor.Ring
import Mathlib.Data.Rat.Floor
import Mathlib.Tactic.Linarith
import FlightMonitor.Trace

/-! The watchdog over inbound messages (`idle_message_watchdog` in `app/main.py`). It remembers
one number, the multiple of the threshold it warned at last, and forgets it only at a check
that finds less than a threshold; yet a silence gets one warning at each multiple. -/
namespace FlightMonitor

structure IdleWatchdog where
  startedAt : Rat
  lastMessageMonotonic : Option Rat := none
  lastAlertBucket : Int := -1
  warnings : List Rat := []
  deriving DecidableEq, Repr

inductive Tick where
  | message
  | check
  deriving DecidableEq, Repr

structure Moment where
  monotonic : Rat
  tick : Tick
  deriving DecidableEq, Repr

namespace IdleWatchdog

def secondsSinceLastMessage (w : IdleWatchdog) (now : Rat) : Option Rat :=
  w.lastMessageMonotonic.map (fun last => max 0 (now - last))

def idleDuration (w : IdleWatchdog) (now : Rat) : Rat :=
  (w.secondsSinceLastMessage now).getD (now - w.startedAt)

def check (idleWarningSeconds : Rat) (w : IdleWatchdog) (now : Rat) : IdleWatchdog :=
  let idle := w.idleDuration now
  if idle < idleWarningSeconds then { w with lastAlertBucket := -1 }
  else
    let currentBucket := ⌊idle / idleWarningSeconds⌋
    if currentBucket = w.lastAlertBucket then w
    else { w with lastAlertBucket := currentBucket, warnings := w.warnings ++ [idle / 60] }

def step (idleWarningSeconds : Rat) (w : IdleWatchdog) (m : Moment) : IdleWatchdog :=
  match m.tick with
  | .message => { w with lastMessageMonotonic := some m.monotonic }
  | .check => w.check idleWarningSeconds m.monotonic

end IdleWatchdog

namespace Watchdog
open IdleWatchdog

-- What `run_pipeline` passes on for its own setting, and the sleep between two checks.
def threshold (idleWarningSeconds : Rat) : Rat := max 1 idleWarningSeconds
def checkInterval (idleWarningSeconds : Rat) : Rat :=
  max 1 (min 30 (max 1 (idleWarningSeconds / 5)))

def watched (W start : Rat) (moments : List Moment) : IdleWatchdog :=
  Trace.final (step W) { startedAt := start } moments

structure Silence where
  idle : Rat := 0
  warned : List Rat := []

def noteSilence (W : Rat) (s : Silence) (w : IdleWatchdog) (m : Moment) : Silence :=
  match m.tick with
  | .message => {}
  | .check => ⟨w.idleDuration m.monotonic,
      s.warned ++ (step W w m).warnings.drop w.warnings.length⟩

def silence (W start : Rat) (moments : List Moment) : Silence :=
  Trace.history (step W) { startedAt := start } (noteSilence W) {} moments

def lastMoment (start : Rat) (moments : List Moment) : Rat :=
  (moments.getLast?.map Moment.monotonic).getD start

/-- The clock does not run back, and a check comes less than a threshold after what was before. -/
def OnTime (W start : Rat) (before : List Moment) (m : Moment) : Prop :=
  lastMoment start before ≤ m.monotonic ∧
    (m.tick = .check → m.monotonic < lastMoment start before + W)

def bucket (W minutes : Rat) : Int := ⌊minutes * 60 / W⌋

def EachOnce (W : Rat) (s : Silence) : Prop :=
  s.warned.map (bucket W) = (List.range' 1 ⌊s.idle / W⌋.toNat).map Int.ofNat

def Reference (w : IdleWatchdog) : Rat := w.lastMessageMonotonic.getD w.startedAt

inductive Following (W : Rat) (w : IdleWatchdog) (s : Silence) (last : Rat) : Prop where
  | begins (blank : s = {}) (now : last = Reference w)
  | goes (since : s.idle = last - Reference w) (forward : 0 ≤ s.idle)
      (alert : w.lastAlertBucket = if s.idle < W then -1 else ⌊s.idle / W⌋) (once : EachOnce W s)

theorem idleSince {w : IdleWatchdog} {now : Rat} (forward : Reference w ≤ now) :
    w.idleDuration now = now - Reference w := by
  unfold idleDuration secondsSinceLastMessage
  unfold Reference at *
  cases last : w.lastMessageMonotonic with
  | none => simp
  | some at_ =>
    rw [last,Option.getD_some] at forward
    simp only [Option.map_some,Option.getD_some]
    exact max_eq_right (by linarith)

theorem checkKeeps (W : Rat) (w : IdleWatchdog) (now : Rat) :
    Reference (w.check W now) = Reference w := by
  unfold check Reference
  dsimp only
  split
  · rfl
  · split <;> rfl

theorem checkCases (W : Rat) (w : IdleWatchdog) (now : Rat) :
    (w.idleDuration now < W ∧ w.check W now = { w with lastAlertBucket := -1 }) ∨
    W ≤ w.idleDuration now ∧ (⌊w.idleDuration now / W⌋ = w.lastAlertBucket ∧ w.check W now = w ∨
      ⌊w.idleDuration now / W⌋ ≠ w.lastAlertBucket ∧ w.check W now = { w with
        lastAlertBucket := ⌊w.idleDuration now / W⌋
        warnings := w.warnings ++ [w.idleDuration now / 60] }) := by
  unfold check
  dsimp only
  split
  · exact .inl ⟨by assumption,rfl⟩
  · refine .inr ⟨not_lt.mp (by assumption),?_⟩
    split
    · exact .inl ⟨by assumption,rfl⟩
    · exact .inr ⟨by assumption,rfl⟩

section
variable {W idle later : Rat}

theorem firstMultiple (positive : 0 < W) (forward : 0 ≤ idle) : idle < W ↔ ⌊idle / W⌋ = 0 := by
  rw [← div_lt_one positive,Int.floor_eq_zero_iff,Set.mem_Ico]
  exact (and_iff_right (div_nonneg forward positive.le)).symm

theorem nextMultiple (positive : 0 < W) (onward : idle ≤ later) (soon : later < idle + W) :
    ⌊later / W⌋ = ⌊idle / W⌋ ∨ ⌊later / W⌋ = ⌊idle / W⌋ + 1 := by
  have low : ⌊idle / W⌋ ≤ ⌊later / W⌋ := Int.floor_le_floor (by gcongr)
  have high : ⌊later / W⌋ ≤ ⌊idle / W⌋ + 1 := by
    rw [← Int.floor_add_one]
    refine Int.floor_le_floor ?_
    rw [← div_self positive.ne',← add_div]
    gcongr
  omega

theorem bucketMinutes (W idle : Rat) : bucket W (idle / 60) = ⌊idle / W⌋ := by
  rw [bucket,div_mul_cancel₀ idle (by norm_num)]

theorem onceStays {warned : List Rat} (once : EachOnce W ⟨idle,warned⟩)
    (same : ⌊later / W⌋ = ⌊idle / W⌋) : EachOnce W ⟨later,warned⟩ := by
  rw [EachOnce,same]
  exact once

theorem onceRises {warned : List Rat} (once : EachOnce W ⟨idle,warned⟩) (forward : 0 ≤ ⌊idle / W⌋)
    (next : ⌊later / W⌋ = ⌊idle / W⌋ + 1) : EachOnce W ⟨later,warned ++ [later / 60]⟩ := by
  obtain ⟨n,whole⟩ := Int.eq_ofNat_of_zero_le forward
  unfold EachOnce at once ⊢
  dsimp only at once ⊢
  rw [List.map_append,once,next,whole]
  simp only [List.map_cons,List.map_nil,bucketMinutes,next,whole]
  rw [Int.toNat_natCast,show ((n : Int) + 1).toNat = n + 1 by omega,List.range'_concat]
  simp [add_comm]

end

theorem firstCheckFollows {W now : Rat} {w : IdleWatchdog} (positive : 0 < W)
    (forward : Reference w ≤ now) (soon : now < Reference w + W) :
    Following W (w.check W now) (noteSilence W {} w ⟨now,.check⟩) now := by
  have idle := idleSince forward
  have early : now - Reference w < W := by linarith
  rcases checkCases W w now with ⟨-,done⟩ | ⟨late,-⟩
  · have none := (firstMultiple positive (sub_nonneg.mpr forward)).mp early
    refine .goes ?_ ?_ ?_ ?_ <;> simp only [noteSilence,checkKeeps,idle]
    · exact sub_nonneg.mpr forward
    · rw [done,if_pos early]
    · simp [EachOnce,none,step,done]
  · rw [idle] at late
    exact absurd early (not_lt_of_ge late)

theorem nextCheckFollows {W now last : Rat} {w : IdleWatchdog} {s : Silence} (positive : 0 < W)
    (since : s.idle = last - Reference w) (forward : 0 ≤ s.idle)
    (alert : w.lastAlertBucket = if s.idle < W then -1 else ⌊s.idle / W⌋) (once : EachOnce W s)
    (onward : last ≤ now) (soon : now < last + W) :
    Following W (w.check W now) (noteSilence W s w ⟨now,.check⟩) now := by
  have idle : w.idleDuration now = now - Reference w := idleSince (by linarith)
  have later : s.idle ≤ now - Reference w := by linarith
  have before := firstMultiple positive forward
  have after := firstMultiple positive (forward.trans later)
  have next := nextMultiple positive later (by linarith : now - Reference w < s.idle + W)
  have low : 0 ≤ ⌊s.idle / W⌋ := Int.floor_nonneg.mpr (div_nonneg forward positive.le)
  rcases checkCases W w now with ⟨early,done⟩ | ⟨late,⟨same,done⟩ | ⟨other,done⟩⟩
  · rw [idle] at early
    refine .goes ?_ ?_ ?_ ?_ <;> simp only [noteSilence,checkKeeps,idle]
    · exact forward.trans later
    · rw [done,if_pos early]
    · have none := before.mp (by linarith)
      simpa [step,done] using onceStays once ((after.mp early).trans none.symm)
  · -- The multiple warned at before this check is the one the silence had reached.
    rw [idle] at late same
    have known : ⌊(now - Reference w) / W⌋ = ⌊s.idle / W⌋ := by
      rw [same,alert]
      split
      · rename_i short
        rw [alert,if_pos short] at same
        omega
      · rfl
    refine .goes ?_ ?_ ?_ ?_ <;> simp only [noteSilence,checkKeeps,idle]
    · exact forward.trans later
    · rw [done,if_neg (not_lt_of_ge late),same]
    · simpa [step,done] using onceStays once known
  · rw [idle] at late other
    have risen : ⌊(now - Reference w) / W⌋ = ⌊s.idle / W⌋ + 1 := by
      refine next.resolve_left (fun same => ?_)
      rw [alert,same] at other
      split at other
      · rename_i short
        have none := after.mpr (same.trans (before.mp short))
        exact absurd none (not_lt_of_ge late)
      · exact other rfl
    refine .goes ?_ ?_ ?_ ?_ <;> simp only [noteSilence,checkKeeps,idle]
    · exact forward.trans later
    · rw [done,if_neg (not_lt_of_ge late)]
      simp only [idle]
    · have rises := onceRises once low risen
      simpa [step,done,idle] using rises

theorem stepFollows {W : Rat} {w : IdleWatchdog} {s : Silence} {last : Rat} {m : Moment}
    (positive : 0 < W) (follows : Following W w s last) (forward : last ≤ m.monotonic)
    (soon : m.tick = .check → m.monotonic < last + W) :
    Following W (step W w m) (noteSilence W s w m) m.monotonic := by
  obtain ⟨now,tick⟩ := m
  cases tick with
  | message => exact .begins rfl rfl
  | check =>
    have soon := soon rfl
    cases follows with
    | begins blank here =>
      subst here blank
      exact firstCheckFollows positive forward soon
    | goes since past alert once => exact nextCheckFollows positive since past alert once forward soon

theorem runFollows {W start : Rat} {moments : List Moment} (positive : 0 < W)
    (onTime : Trace.Meets (OnTime W start) moments) :
    Following W (watched W start moments) (silence W start moments) (lastMoment start moments) := by
  induction moments using List.reverseRecOn with
  | nil => exact .begins rfl rfl
  | append_singleton moments m ih =>
    obtain ⟨early,forward,soon⟩ := Trace.meetsConcat.mp onTime
    have follows := stepFollows positive (ih early) forward soon
    rw [watched,Trace.finalConcat,silence,Trace.historyConcat]
    rwa [show lastMoment start (moments ++ [m]) = m.monotonic by simp [lastMoment]]

theorem everyMultipleWarned (idleWarningSeconds start : Rat) (moments : List Moment)
    (onTime : Trace.Meets (OnTime (threshold idleWarningSeconds) start) moments) :
    EachOnce (threshold idleWarningSeconds) (silence (threshold idleWarningSeconds) start moments) := by
  have positive : 0 < threshold idleWarningSeconds := one_pos.trans_le (le_max_left ..)
  cases runFollows positive onTime with
  | begins blank here =>
    rw [blank]
    simp [EachOnce]
  | goes since forward alert once => exact once

theorem sleepsOnTime {idleWarningSeconds : Rat} (above : 1 < idleWarningSeconds) :
    checkInterval idleWarningSeconds < threshold idleWarningSeconds := by
  have fifth : idleWarningSeconds / 5 < idleWarningSeconds := by linarith
  rw [threshold,max_eq_right above.le]
  exact max_lt above ((min_le_right ..).trans_lt (max_lt above fifth))

instance (W start : Rat) (before : List Moment) (m : Moment) : Decidable (OnTime W start before m) :=
  inferInstanceAs (Decidable (_ ∧ _))

def quietAfternoon : List Moment :=
  [⟨30,.check⟩,⟨40,.message⟩,⟨280,.check⟩,⟨520,.check⟩,⟨630,.check⟩,⟨700,.message⟩,⟨900,.check⟩,
    ⟨1150,.check⟩,⟨1310,.check⟩]

theorem quietAfternoonWarned : EachOnce 300 (silence 300 0 quietAfternoon) :=
  everyMultipleWarned 300 0 quietAfternoon (by decide +kernel)

end Watchdog
end FlightMonitor
