import FlightMonitor.Service

/-! Sending a report to SADE (`post_tracker_session_finalized`): the attempts, what is logged
of an answer and the pauses between attempts. What comes back from each attempt is given. -/
namespace FlightMonitor
open PyValue IsoTime

def maxRetries : Nat := 2
def retryBackoffSeconds : List Rat := [1,2]

structure ErrorResponse where
  code : Nat
  body : Except PyError String
  isError : 400 ≤ code ∧ code < 600

/-- The end of one `_attempt_post`. An answer is an HTTP 200 with what `json.loads` makes of
its body; the body of an error response is read by the handler, and that may fail. -/
inductive Attempt where
  | answered (loaded : Except PyError Json)
  | refused (response : ErrorResponse)
  | transportError (e : PyError)

inductive ResponseLog where
  | finalized (flightSessionId reputationRecordId : Json)
  | businessFailure (flightSessionId reason : Json)
  | unexpectedStatus (status flightSessionId reason : Json)

def logFinalizationResponse : Json → Except PyError ResponseLog
  | .obj result =>
    let flightSessionId := Json.member result "flight_session_id" .null
    let reason := Json.member result "reason" (.str "")
    match Json.member result "status" .null with
    | .str "EXITED" =>
      .ok (.finalized flightSessionId (Json.member result "reputation_record_id" .null))
    | .str "FAILED" => .ok (.businessFailure flightSessionId reason)
    | status => .ok (.unexpectedStatus status flightSessionId reason)
  | _ => .error .attributeError

/-- One turn of the retry loop. Loading and logging the answer happen inside the `try`. -/
inductive Turn where
  | returns (result : Option Json)
  | raises (e : PyError)
  | retries

def Attempt.turn : Attempt → Turn
  | .answered loaded =>
    match (do let result ← loaded; let _ ← logFinalizationResponse result; .ok result) with
    | .ok result => .returns (some result)
    | .error _ => .retries
  | .refused response =>
    match response.body with
    | .error e => .raises e
    | .ok _ => if 400 ≤ response.code ∧ response.code < 500 then .returns none else .retries
  | .transportError _ => .retries

structure Request where
  url : String
  payload : FinalizationPayload

structure Posted where
  requests : List Request := []
  slept : List Rat := []
  result : Except PyError (Option Json)

def backoff (attempt : Nat) : List Rat :=
  if attempt < maxRetries then
    [retryBackoffSeconds.getD (min attempt (retryBackoffSeconds.length - 1)) 0]
  else []

def attemptsFrom (request : Request) (outcomes : Nat → Attempt) : List Nat → Posted
  | [] => { result := .ok none }
  | attempt :: attempts =>
    match (outcomes attempt).turn with
    | .returns result => { requests := [request], result := .ok result }
    | .raises e => { requests := [request], result := .error e }
    | .retries =>
      let later := attemptsFrom request outcomes attempts
      { later with
        requests := request :: later.requests, slept := backoff attempt ++ later.slept }

def postTrackerSessionFinalized (url : Option String) (payload : FinalizationPayload)
    (outcomes : Nat → Attempt) : Posted :=
  match getTrackerFinalizedUrl url with
  | .error e => { result := .error e }
  | .ok url => attemptsFrom ⟨url,payload⟩ outcomes (List.range' 0 (1 + maxRetries))

/-! What the loop has done when it ends: a number of turns that asked for another one, and
then either a turn that did not or no attempt left. -/

def Turn.result : Turn → Except PyError (Option Json)
  | .returns result => .ok result
  | .raises e => .error e
  | .retries => .ok none

inductive Ended (outcomes : Nat → Attempt) (first attempts : Nat) (posted : Posted) : Prop where
  | settled (m : Nat) (within : m < attempts)
      (earlier : ∀ i < m, (outcomes (first + i)).turn = .retries)
      (last : (outcomes (first + m)).turn ≠ .retries)
      (sent : posted.requests.length = m + 1)
      (result : posted.result = (outcomes (first + m)).turn.result)
  | exhausted (all : ∀ i < attempts, (outcomes (first + i)).turn = .retries)
      (sent : posted.requests.length = attempts) (result : posted.result = .ok none)

theorem attemptsEnded (request : Request) (outcomes : Nat → Attempt) (first attempts : Nat) :
    Ended outcomes first attempts
      (attemptsFrom request outcomes (List.range' first attempts)) := by
  induction attempts generalizing first with
  | zero => exact .exhausted (by simp) rfl rfl
  | succ attempts ih =>
    rw [List.range'_succ]
    cases turned : (outcomes first).turn with
    | returns result =>
      exact .settled 0 (by simp) (by simp) (by simp [turned]) (by simp [attemptsFrom,turned])
        (by simp [attemptsFrom,turned,Turn.result])
    | raises e =>
      exact .settled 0 (by simp) (by simp) (by simp [turned]) (by simp [attemptsFrom,turned])
        (by simp [attemptsFrom,turned,Turn.result])
    | retries =>
      have shift : ∀ i, first + 1 + i = first + (i + 1) := by omega
      have onward : ∀ m, (∀ i < m, (outcomes (first + 1 + i)).turn = .retries) →
          ∀ i < m + 1, (outcomes (first + i)).turn = .retries := by
        intro m later i below
        cases i with
        | zero => exact turned
        | succ i => rw [← shift]; exact later i (by omega)
      rcases ih (first + 1) with ⟨m,within,earlier,last,sent,result⟩ | ⟨all,sent,result⟩
      · rw [shift] at last result
        exact .settled (m + 1) (by omega) (onward m earlier) last (by simp [attemptsFrom,turned,sent])
          (by simp [attemptsFrom,turned,result])
      · exact .exhausted (onward attempts all) (by simp [attemptsFrom,turned,sent])
          (by simp [attemptsFrom,turned,result])

theorem attemptsSame (request : Request) (outcomes : Nat → Attempt) (attempts : List Nat) :
    ∀ sent ∈ (attemptsFrom request outcomes attempts).requests, sent = request := by
  induction attempts with
  | nil => simp [attemptsFrom]
  | cons attempt attempts ih =>
    simp only [attemptsFrom]
    cases (outcomes attempt).turn with
    | returns result => simp
    | raises e => simp
    | retries => simpa using ih

def Attempt.isTransient : Attempt → Bool
  | .answered _ => false
  | .refused response => decide (500 ≤ response.code)
  | .transportError _ => true

def Attempt.accepted : Attempt → Option Json
  | .answered (.ok (.obj result)) => some (.obj result)
  | _ => none

structure KeepsRetrySemantics (outcomes : Nat → Attempt) (posted : Posted) : Prop where
  bounded : posted.requests.length ≤ 1 + maxRetries
  transient : ∀ k, k + 1 < posted.requests.length → (outcomes k).isTransient = true
  returned : ∃ k, posted.requests.length = k + 1 ∧ posted.result = .ok (outcomes k).accepted

def Attempt.Readable (attempt : Nat) (a : Attempt) : Prop :=
  match a with
  | .answered _ => a.accepted ≠ none ∨ maxRetries ≤ attempt
  | .refused response => ∃ text, response.body = .ok text
  | .transportError _ => True

theorem answeredTurn (loaded : Except PyError Json) :
    ((Attempt.answered loaded).accepted = none ∧ (Attempt.answered loaded).turn = .retries) ∨
    ∃ result, (Attempt.answered loaded).accepted = some result ∧
      (Attempt.answered loaded).turn = .returns (some result) := by
  cases loaded with
  | error e => exact .inl ⟨rfl,rfl⟩
  | ok result =>
    cases result with
    | obj members =>
      refine .inr ⟨.obj members,rfl,?_⟩
      have logged : ∃ log, logFinalizationResponse (.obj members) = .ok log := by
        simp only [logFinalizationResponse]
        split <;> exact ⟨_,rfl⟩
      obtain ⟨log,logged⟩ := logged
      simp [Attempt.turn,logged,bind,Except.bind]
    | _ => exact .inl ⟨rfl,rfl⟩

theorem transientTurn {attempt : Nat} {a : Attempt} (transient : a.isTransient = true)
    (readable : a.Readable attempt) : a.turn = .retries := by
  cases a with
  | answered loaded => cases transient
  | transportError e => rfl
  | refused response =>
    obtain ⟨text,body⟩ := readable
    have server : 500 ≤ response.code := of_decide_eq_true transient
    simp only [Attempt.turn,body]
    exact if_neg (by omega)

theorem lastTurn {attempt : Nat} {a : Attempt} (readable : a.Readable attempt)
    (last : a.turn ≠ .retries ∨ maxRetries ≤ attempt) : a.turn.result = .ok a.accepted := by
  cases a with
  | answered loaded =>
    rcases answeredTurn loaded with ⟨none,turned⟩ | ⟨result,some,turned⟩
    · rw [turned,none]; rfl
    · rw [turned,some]; rfl
  | transportError e => rfl
  | refused response =>
    obtain ⟨text,body⟩ := readable
    simp only [Attempt.turn,body]
    split <;> rfl

theorem retriedTurn {attempt : Nat} {a : Attempt} (readable : a.Readable attempt)
    (turned : a.turn = .retries) (before : attempt < maxRetries) : a.isTransient = true := by
  cases a with
  | answered loaded =>
    rcases answeredTurn loaded with ⟨none,-⟩ | ⟨result,-,returned⟩
    · rcases readable with object | late
      · exact absurd none object
      · omega
    · rw [turned] at returned; cases returned
  | transportError e => rfl
  | refused response =>
    obtain ⟨text,body⟩ := readable
    simp only [Attempt.turn,body] at turned
    split at turned
    · cases turned
    · have code := response.isError
      exact decide_eq_true (by omega)

theorem endedAt {outcomes : Nat → Attempt} {attempts k : Nat} {posted : Posted}
    (ended : Ended outcomes 0 attempts posted) (within : k < attempts)
    (earlier : ∀ i < k, (outcomes i).turn = .retries) (last : (outcomes k).turn ≠ .retries) :
    posted.result = (outcomes k).turn.result := by
  rcases ended with ⟨m,_,before,stopped,_,result⟩ | ⟨all,_,_⟩
  · simp only [Nat.zero_add] at before stopped result
    rcases Nat.lt_trichotomy k m with early | rfl | late
    · exact absurd (before k early) last
    · exact result
    · exact absurd (earlier m late) stopped
  · have more := all k within
    rw [Nat.zero_add] at more
    exact absurd more last

theorem endedPast {outcomes : Nat → Attempt} {attempts k : Nat} {posted : Posted}
    (ended : Ended outcomes 0 attempts posted) (within : k + 1 < attempts)
    (earlier : ∀ i ≤ k, (outcomes i).turn = .retries) : k + 1 < posted.requests.length := by
  rcases ended with ⟨m,_,_,stopped,sent,_⟩ | ⟨_,sent,_⟩
  · rw [Nat.zero_add] at stopped
    by_contra few
    exact stopped (earlier m (by omega))
  · omega

def ReadableAnswers (outcomes : Nat → Attempt) : Prop :=
  ∀ k ≤ maxRetries, (∀ i < k, (outcomes i).isTransient = true) → (outcomes k).Readable k

theorem readableReached {outcomes : Nat → Attempt} (readable : ReadableAnswers outcomes) {m : Nat}
    (within : m ≤ maxRetries) (turned : ∀ i < m, (outcomes i).turn = .retries) :
    (∀ i < m, (outcomes i).isTransient = true) ∧ (outcomes m).Readable m := by
  induction m with
  | zero => exact ⟨by simp,readable 0 within (by simp)⟩
  | succ m ih =>
    obtain ⟨before,here⟩ := ih (by omega) (fun i below => turned i (by omega))
    have transient : ∀ i < m + 1, (outcomes i).isTransient = true := by
      intro i below
      rcases Nat.lt_succ_iff_lt_or_eq.mp below with early | rfl
      · exact before i early
      · exact retriedTurn here (turned i below) (by omega)
    exact ⟨transient,readable (m + 1) within transient⟩

theorem readableKeeps {outcomes : Nat → Attempt} {posted : Posted}
    (ended : Ended outcomes 0 (1 + maxRetries) posted) (readable : ReadableAnswers outcomes) :
    KeepsRetrySemantics outcomes posted := by
  rcases ended with ⟨m,within,earlier,last,sent,result⟩ | ⟨all,sent,result⟩
  · simp only [Nat.zero_add] at earlier last result
    obtain ⟨transient,here⟩ := readableReached readable (by omega) earlier
    exact {
      bounded := by omega
      transient := fun k more => transient k (by omega)
      returned := ⟨m,sent,by rw [result,lastTurn here (.inl last)]⟩ }
  · simp only [Nat.zero_add] at all
    obtain ⟨transient,here⟩ := readableReached readable le_rfl (fun i below => all i (by omega))
    have final := lastTurn here (.inr le_rfl)
    rw [all maxRetries (by omega)] at final
    exact {
      bounded := by omega
      transient := fun k more => transient k (by omega)
      returned := ⟨maxRetries,by omega,result.trans final⟩ }

theorem keepsReadable {outcomes : Nat → Attempt} {posted : Posted}
    (ended : Ended outcomes 0 (1 + maxRetries) posted)
    (keeps : KeepsRetrySemantics outcomes posted) : ReadableAnswers outcomes := by
  intro k
  induction k using Nat.strong_induction_on with
  | _ k ih =>
    intro within transient
    have earlier : ∀ i < k, (outcomes i).turn = .retries := fun i below =>
      transientTurn (transient i below)
        (ih i below (by omega) (fun j under => transient j (by omega)))
    cases here : outcomes k with
    | transportError e => trivial
    | refused response =>
      cases body : response.body with
      | ok text => exact ⟨text,body⟩
      | error e =>
        have raised : (outcomes k).turn = .raises e := by simp only [here,Attempt.turn,body]
        have result := endedAt ended (by omega) earlier (by simp [raised])
        obtain ⟨last,_,returned⟩ := keeps.returned
        rw [result,raised] at returned
        cases returned
    | answered loaded =>
      by_contra unreadable
      rw [Attempt.Readable,not_or,not_not,Nat.not_le] at unreadable
      obtain ⟨none,early⟩ := unreadable
      have turned : (outcomes k).turn = .retries := by
        rcases answeredTurn loaded with ⟨_,turned⟩ | ⟨result,some,_⟩
        · rw [here]; exact turned
        · rw [none] at some; cases some
      have more := endedPast ended (k := k) (by omega) (by
        intro i below
        rcases Nat.lt_or_eq_of_le below with under | rfl
        · exact earlier i under
        · exact turned)
      have again := keeps.transient k more
      rw [here] at again
      cases again

theorem retrySemanticsIffReadable {url : Option String} {target : String}
    (configured : getTrackerFinalizedUrl url = .ok target) (payload : FinalizationPayload)
    (outcomes : Nat → Attempt) :
    KeepsRetrySemantics outcomes (postTrackerSessionFinalized url payload outcomes) ↔
      ReadableAnswers outcomes := by
  have ended := attemptsEnded ⟨target,payload⟩ outcomes 0 (1 + maxRetries)
  simp only [postTrackerSessionFinalized,configured]
  exact ⟨keepsReadable ended,readableKeeps ended⟩

def emptyReport : FinalizationPayload :=
  ⟨"session-1","2026-03-01T10:00:00Z",⟨.zero,.zero,.zero⟩,[]⟩

def busyThenAccepted : Nat → Attempt
  | 0 => .refused ⟨503,.ok "busy",by decide⟩
  | _ => .answered (.ok (.obj []))

theorem busyRetried : KeepsRetrySemantics busyThenAccepted
    (postTrackerSessionFinalized (some "https://sade.example") emptyReport busyThenAccepted) := by
  have configured : getTrackerFinalizedUrl (some "https://sade.example") =
      .ok "https://sade.example" := rfl
  refine (retrySemanticsIffReadable configured emptyReport busyThenAccepted).mpr ?_
  intro k within transient
  cases k with
  | zero => exact ⟨"busy",rfl⟩
  | succ k => exact .inl (by simp [busyThenAccepted,Attempt.accepted])

theorem answeredReportRepeated :
    (postTrackerSessionFinalized (some "https://sade.example") emptyReport
      (fun _ => .answered (.ok (.arr [])))).requests.length = 3 ∧
    ¬ KeepsRetrySemantics (fun _ => .answered (.ok (.arr [])))
      (postTrackerSessionFinalized (some "https://sade.example") emptyReport
        (fun _ => .answered (.ok (.arr [])))) := by
  have thrice : (postTrackerSessionFinalized (some "https://sade.example") emptyReport
      (fun _ => .answered (.ok (.arr [])))).requests.length = 3 := rfl
  refine ⟨thrice,fun keeps => ?_⟩
  have again := keeps.transient 0 (by rw [thrice]; decide)
  cases again

/-! When the call raises: the service sees only whether it does. -/

def Posted.outcome (posted : Posted) : PostOutcome :=
  match posted.result with
  | .ok _ => .returned
  | .error _ => .raised

def Attempt.Repeated : Attempt → Prop
  | .answered loaded => (Attempt.answered loaded).accepted = none
  | .refused response => 500 ≤ response.code ∧ ∃ text, response.body = .ok text
  | .transportError _ => True

def ReadableErrors (outcomes : Nat → Attempt) : Prop :=
  ∀ k ≤ maxRetries, (∀ i < k, (outcomes i).Repeated) →
    ∀ response, outcomes k = .refused response → ∃ text, response.body = .ok text

theorem repeatedTurn (a : Attempt) : a.turn = .retries ↔ a.Repeated := by
  cases a with
  | transportError e => simp [Attempt.turn,Attempt.Repeated]
  | answered loaded =>
    rcases answeredTurn loaded with ⟨none,turned⟩ | ⟨result,some,turned⟩
    · simp [turned,Attempt.Repeated,none]
    · simp [turned,Attempt.Repeated,some]
  | refused response =>
    have code := response.isError
    cases body : response.body with
    | error e => simp [Attempt.turn,Attempt.Repeated,body]
    | ok text =>
      simp only [Attempt.turn,Attempt.Repeated,body]
      by_cases server : 500 ≤ response.code
      · rw [if_neg (by omega)]
        simp [server]
      · rw [if_pos (by omega)]
        simp [server]

theorem turnRaises {a : Attempt} {e : PyError} (raised : a.turn = .raises e) :
    ∃ response, a = .refused response ∧ response.body = .error e := by
  cases a with
  | transportError e => cases raised
  | answered loaded =>
    rcases answeredTurn loaded with ⟨-,turned⟩ | ⟨_,-,turned⟩
    · rw [turned] at raised; cases raised
    · rw [turned] at raised; cases raised
  | refused response =>
    cases body : response.body with
    | error e' =>
      simp only [Attempt.turn,body,Turn.raises.injEq] at raised
      subst e'
      exact ⟨response,rfl,body⟩
    | ok text =>
      simp only [Attempt.turn,body] at raised
      split at raised <;> cases raised

theorem postReturnsIff {url : Option String} {target : String}
    (configured : getTrackerFinalizedUrl url = .ok target) (payload : FinalizationPayload)
    (outcomes : Nat → Attempt) :
    (postTrackerSessionFinalized url payload outcomes).outcome = .returned ↔
      ReadableErrors outcomes := by
  have ended := attemptsEnded ⟨target,payload⟩ outcomes 0 (1 + maxRetries)
  simp only [postTrackerSessionFinalized,configured,ReadableErrors,← repeatedTurn]
  generalize attemptsFrom ⟨target,payload⟩ outcomes (List.range' 0 (1 + maxRetries)) = posted
    at ended ⊢
  constructor
  · intro returned k within earlier response here
    cases body : response.body with
    | ok text => exact ⟨text,rfl⟩
    | error e =>
      have raised : (outcomes k).turn = .raises e := by simp only [here,Attempt.turn,body]
      have result := endedAt ended (by omega) earlier (by simp [raised])
      rw [raised] at result
      simp only [Posted.outcome,result,Turn.result] at returned
      cases returned
  · intro readable
    rcases ended with ⟨m,within,earlier,last,-,result⟩ | ⟨-,-,result⟩
    · simp only [Nat.zero_add] at earlier result
      cases turned : (outcomes m).turn with
      | returns answer => simp only [Posted.outcome,result,turned,Turn.result]
      | retries => simp only [Posted.outcome,result,turned,Turn.result]
      | raises e =>
        obtain ⟨response,here,unread⟩ := turnRaises turned
        obtain ⟨text,read⟩ := readable m (by omega) earlier response here
        rw [unread] at read
        cases read
    · simp only [Posted.outcome,result]

theorem requestsSame (url : Option String) (payload : FinalizationPayload)
    (outcomes : Nat → Attempt) : ∀ sent ∈ (postTrackerSessionFinalized url payload outcomes).requests,
      getTrackerFinalizedUrl url = .ok sent.url ∧ sent.payload = payload := by
  unfold postTrackerSessionFinalized
  cases configured : getTrackerFinalizedUrl url with
  | error e => simp
  | ok target =>
    intro sent mem
    cases attemptsSame _ outcomes _ sent mem
    exact ⟨rfl,rfl⟩

theorem sleptBetweenRequests (url : Option String) (payload : FinalizationPayload)
    (outcomes : Nat → Attempt) :
    (postTrackerSessionFinalized url payload outcomes).slept = retryBackoffSeconds.take
      ((postTrackerSessionFinalized url payload outcomes).requests.length - 1) := by
  unfold postTrackerSessionFinalized
  cases getTrackerFinalizedUrl url with
  | error e => rfl
  | ok url =>
    simp only [maxRetries,List.range',attemptsFrom]
    cases (outcomes 0).turn with
    | returns result => rfl
    | raises e => rfl
    | retries =>
      cases (outcomes 1).turn with
      | returns result => rfl
      | raises e => rfl
      | retries => cases (outcomes 2).turn <;> rfl

end FlightMonitor
