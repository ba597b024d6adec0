import ChatFlow.Ai.Completion
import ChatFlow.Ai.Retry
import ChatFlow.Proofs.Decimal
import Mathlib.Data.ENat.Lattice
import Mathlib.Data.List.Infix
import Mathlib.Order.CompletePartialOrder

/-!
# How often the text generator is asked, and after what time

A request is made once, and again for every passing error at the front of the outcomes, as often as
the settings allow; a while passes before each further request and after none of them.  Whether an
error is passing is read off its text.  The text of a refusal holds the whole body of the answer, so
a refusal for good is asked for again when its body happens to mention a passing failure.

The while before a further request doubles from attempt to attempt, up to a limit.  It is computed
in words, and both the power of two and the product stop at the largest word where they do not fit.
Nothing is lost by that: the limit is a word itself, so what stops too early is above the limit
anyway, and the while is the one that unbounded numbers give.
-/

namespace ChatFlow

/-- Digits have no case. -/
theorem Text.lowerAsciiChar_of_isDigit {c : Char} (digit : isDigit c = true) :
    lowerAsciiChar c = c := by
  rw [isDigit, Bool.and_eq_true, decide_eq_true_eq, decide_eq_true_eq] at digit
  rw [lowerAsciiChar, if_neg]
  intro upper
  have late : 'A' ≤ '9' := Char.le_trans upper.1 digit.2
  revert late
  decide

namespace Ai

/-- What happens while something is asked for. -/
inductive Happening (ρ : Type) where
  /-- It is asked for. -/
  | asked (request : ρ)
  /-- A while passes, given as it is before it is varied at random. -/
  | waited (millis : Nat)
deriving DecidableEq, Repr

/-- Whether something is asked for. -/
def Happening.isAsked : Happening ρ → Bool
  | .asked _ => true
  | .waited _ => false

/-- How often something was asked for. -/
def timesAsked (happened : List (Happening ρ)) : Nat :=
  happened.countP Happening.isAsked

/-- Asks for something, and gets one outcome after the other. -/
def asking (outcomes : Nat → β) (request : ρ) : StateM (List (Happening ρ)) β := do
  let happened ← get
  set (happened ++ [.asked request])
  return outcomes (timesAsked happened)

/-- Lets a while pass. -/
def pass (millis : Nat) : StateM (List (Happening ρ)) Unit :=
  modify fun happened => happened ++ [.waited millis]

/-- Whether an outcome is an error that may be gone when the request is made again. -/
def isPassingOutcome : Except Error α → Bool
  | .ok _ => false
  | .error error => isPassing error

/-- The length of the run of passing errors at the front of outcomes. -/
noncomputable def leadingRun (outcomes : Nat → Except Error α) : ℕ∞ :=
  ⨆ (count : Nat) (_ : ∀ index < count, isPassingOutcome (outcomes index) = true), (count : ℕ∞)

/-- How often is asked again, out of `left` times, when outcome number `first` is the next one. -/
def retries (outcomes : Nat → Except Error α) : (left first : Nat) → Nat
  | 0, _ => 0
  | left + 1, first =>
    if isPassingOutcome (outcomes first) then retries outcomes left (first + 1) + 1 else 0

/-- What happens when a request is made again a number of times, the first of them behind attempt
number `attempt`. -/
def rounds (settings : RetrySettings) (request : ρ) (attempt again : Nat) : List (Happening ρ) :=
  (List.range' attempt again).flatMap fun attempt =>
    [.waited (backoff settings attempt), .asked request]

variable {settings : RetrySettings} {outcomes : Nat → Except Error α} {request : ρ}
  {happened : List (Happening ρ)} {left first : Nat}

/-! ## The length of the run -/

/-- It is not asked again more often than it may be. -/
theorem retries_le (outcomes : Nat → Except Error α) (left first : Nat) :
    retries outcomes left first ≤ left := by
  induction left generalizing first with
  | zero => exact Nat.le_refl 0
  | succ left inductionHypothesis =>
      rw [retries]
      split
      · exact Nat.succ_le_succ (inductionHypothesis (first + 1))
      · exact Nat.zero_le _

/-- It is asked again behind passing errors only. -/
theorem isPassingOutcome_of_lt_retries
    {index : Nat}
    (within : index < retries outcomes left first) :
    isPassingOutcome (outcomes (first + index)) = true := by
  induction left generalizing first index with
  | zero => exact absurd within (Nat.not_lt_zero index)
  | succ left inductionHypothesis =>
      rw [retries] at within
      split at within
      · rename_i passing
        cases index with
        | zero => exact passing
        | succ index =>
            rw [Nat.add_comm index, ← Nat.add_assoc]
            exact inductionHypothesis (Nat.lt_of_succ_lt_succ within)
      · exact absurd within (Nat.not_lt_zero index)

/-- It is asked again until that is used up or an outcome is final. -/
theorem retries_eq_or_final (outcomes : Nat → Except Error α) (left first : Nat) :
    retries outcomes left first = left ∨
      isPassingOutcome (outcomes (first + retries outcomes left first)) = false := by
  induction left generalizing first with
  | zero => exact .inl rfl
  | succ left inductionHypothesis =>
      rw [retries]
      split
      · rw [Nat.add_comm (retries _ _ _), ← Nat.add_assoc]
        apply Or.imp_left _ (inductionHypothesis (first + 1))
        intro used
        rw [used, Nat.add_comm]
      · rename_i final
        rw [Bool.not_eq_true] at final
        exact .inr final

/-- It is asked again as often as there are passing errors at the front, and as it may be. -/
theorem retries_eq_min (outcomes : Nat → Except Error α) (left : Nat) :
    (retries outcomes left 0 : ℕ∞) = min (left : ℕ∞) (leadingRun outcomes) := by
  apply le_antisymm
  · apply le_min
    · exact_mod_cast retries_le outcomes left 0
    · refine le_iSup₂_of_le (retries outcomes left 0) (fun index within => ?_) le_rfl
      have passing := isPassingOutcome_of_lt_retries within
      rwa [Nat.zero_add] at passing
  · rcases retries_eq_or_final outcomes left 0 with used | final
    · rw [used]
      exact min_le_left _ _
    · apply min_le_of_right_le
      apply iSup₂_le
      intro count passing
      by_contra longer
      rw [not_le, Nat.cast_lt] at longer
      rw [Nat.zero_add, passing _ longer] at final
      cases final

/-! ## One attempt after the other -/

/-- What was asked for at first and then is counted together. -/
theorem timesAsked_append (happened further : List (Happening ρ)) :
    timesAsked (happened ++ further) = timesAsked happened + timesAsked further :=
  List.countP_append

/-- Each further round is one request. -/
theorem timesAsked_rounds (settings : RetrySettings) (request : ρ) (attempt again : Nat) :
    timesAsked (rounds settings request attempt again) = again := by
  induction again generalizing attempt with
  | zero => rfl
  | succ again inductionHypothesis =>
      rw [rounds, List.range'_succ, List.flatMap_cons, timesAsked_append]
      change 1 + timesAsked (rounds settings request (attempt + 1) again) = again + 1
      rw [inductionHypothesis, Nat.add_comm]

/-- After a final outcome it is not asked again. -/
theorem run_askFurther_of_final
    (final : isPassingOutcome (outcomes (timesAsked happened)) = false)
    (left attempt : Nat) :
    (askFurther settings pass (asking outcomes request) left attempt).run happened =
      (outcomes (timesAsked happened), happened ++ [.asked request]) := by
  cases left with
  | zero => rfl
  | succ left =>
      have ran : (asking outcomes request).run happened =
        (outcomes (timesAsked happened), happened ++ [.asked request]) := rfl
      rw [askFurther, StateT.run_bind, ran]
      cases outcome : outcomes (timesAsked happened) with
      | ok value => rfl
      | error error =>
          have lasting : ¬ isPassing error = true := by
            rw [outcome] at final
            exact Bool.eq_false_iff.mp final
          change StateT.run (if isPassing error = true then _ else _) _ = _
          rw [if_neg lasting]
          rfl

/-- After a passing error a while passes, and it is asked again. -/
theorem run_askFurther_of_passing
    (passing : isPassingOutcome (outcomes (timesAsked happened)) = true)
    (left attempt : Nat) :
    (askFurther settings pass (asking outcomes request) (left + 1) attempt).run happened =
      (askFurther settings pass (asking outcomes request) left (attempt + 1)).run
        (happened ++ [.asked request, .waited (backoff settings attempt)]) := by
  have ran : (asking outcomes request).run happened =
    (outcomes (timesAsked happened), happened ++ [.asked request]) := rfl
  rw [askFurther, StateT.run_bind, ran]
  cases outcome : outcomes (timesAsked happened) with
  | ok value =>
      rw [outcome] at passing
      cases passing
  | error error =>
      have again : isPassing error = true := by
        rw [outcome] at passing
        exact passing
      have waited : happened ++ [Happening.asked request, .waited (backoff settings attempt)] =
          (happened ++ [.asked request]) ++ [.waited (backoff settings attempt)] := by
        rw [List.append_assoc]
        rfl
      change StateT.run (if isPassing error = true then _ else _) _ = _
      rw [if_pos again, waited]
      rfl

/-- It is not asked again exactly when it may not be or the outcome is final. -/
theorem retries_eq_zero_iff :
    retries outcomes left first = 0 ↔ left = 0 ∨ isPassingOutcome (outcomes first) = false := by
  cases left with
  | zero => exact iff_of_true rfl (.inl rfl)
  | succ left =>
      rw [retries]
      split
      · rename_i passing
        simp [passing]
      · rename_i final
        simp [final]

/-- It is asked again round by round, and the last outcome is returned. -/
theorem run_askFurther (settings : RetrySettings) (outcomes : Nat → Except Error α) (request : ρ)
    (left : Nat) (happened : List (Happening ρ)) :
    (askFurther settings pass (asking outcomes request) left (timesAsked happened)).run happened =
      (outcomes (timesAsked happened + retries outcomes left (timesAsked happened)),
        happened ++ .asked request :: rounds settings request (timesAsked happened)
          (retries outcomes left (timesAsked happened))) := by
  induction left generalizing happened with
  | zero => rfl
  | succ left inductionHypothesis =>
      cases passing : isPassingOutcome (outcomes (timesAsked happened)) with
      | false =>
          rw [run_askFurther_of_final passing, retries, passing]
          rfl
      | true =>
          have counted : timesAsked (happened ++
              [.asked request, .waited (backoff settings (timesAsked happened))]) =
            timesAsked happened + 1 := timesAsked_append _ _
          rw [run_askFurther_of_passing passing, ← counted, inductionHypothesis, counted, retries,
            if_pos passing, Nat.add_right_comm, Nat.add_assoc, List.append_assoc, rounds, rounds,
            List.range'_succ]
          rfl

/-- A request is made once, and then again round by round. -/
theorem run_askPatiently (settings : RetrySettings) (outcomes : Nat → Except Error α)
    (request : ρ) :
    (askPatiently settings pass (asking outcomes request)).run [] =
      (outcomes (retries outcomes settings.maxRetries 0),
        [.asked request] ++ rounds settings request 0 (retries outcomes settings.maxRetries 0)) := by
  have ran := run_askFurther settings outcomes request settings.maxRetries []
  rwa [show timesAsked ([] : List (Happening ρ)) = 0 from rfl, Nat.zero_add] at ran

/-- A request is made once, and again once for each passing error at the front of the outcomes, up
to the limit of the settings.  It is the same request each time, what came of the last one is
returned as it is, and a while passes before each but the first and after none. -/
theorem asked_within_budget (settings : RetrySettings) (outcomes : Nat → Except Error α)
    (request : ρ) :
    let ran := (askPatiently settings pass (asking outcomes request)).run []
    (timesAsked ran.2 : ℕ∞) = 1 + min (settings.maxRetries : ℕ∞) (leadingRun outcomes) ∧
      ran.1 = outcomes (timesAsked ran.2 - 1) ∧
      ran.2 = .asked request :: rounds settings request 0 (timesAsked ran.2 - 1) := by
  intro ran
  have same : ran = _ := run_askPatiently settings outcomes request
  have counted : timesAsked ran.2 = 1 + retries outcomes settings.maxRetries 0 := by
    rw [same, timesAsked_append, timesAsked_rounds]
    rfl
  refine ⟨?_, ?_, ?_⟩
  · rw [counted, ← retries_eq_min, Nat.cast_add, Nat.cast_one]
  · rw [counted, Nat.add_sub_cancel_left, same]
  · rw [counted, Nat.add_sub_cancel_left, same]
    rfl

/-! ## What the text of a refusal mentions -/

/-- A text mentions a passing failure, in letters of either case. -/
def MentionsPassing (text : String) : Prop :=
  ∃ mark ∈ passingMarks, mark.toList <:+: text.toList.map Text.lowerAsciiChar

/-- A failed request is a passing failure when its text mentions one. -/
theorem isPassing_aiRequest_iff {text : String} :
    isPassing (.aiRequest text) = true ↔ MentionsPassing text := by
  simp only [isPassing, MentionsPassing, List.any_eq_true, Text.contains, Text.occursIn_iff,
    Text.lowerAscii, String.toList_ofList]

/-- Whether one of two lists of characters goes on from the other; compared by their codes. -/
def meets : List Char → List Char → Bool
  | c :: rest, d :: further => Nat.beq c.toNat d.toNat && meets rest further
  | _, _ => true

/-- Whether a mark begins nowhere in a front, not even to go on behind it. -/
def misses (mark : List Char) : List Char → Bool
  | [] => true
  | c :: rest => !meets mark (c :: rest) && misses mark rest

/-- Two beginnings of one list meet. -/
theorem meets_of_isPrefix
    {front mark whole : List Char}
    (begins : mark <+: whole)
    (ahead : front <+: whole) :
    meets mark front = true := by
  induction mark generalizing front whole with
  | nil => rfl
  | cons c rest inductionHypothesis =>
      cases front with
      | nil => rfl
      | cons d further =>
          obtain ⟨back, rfl⟩ := begins
          rw [List.cons_append, List.cons_prefix_cons] at ahead
          obtain ⟨rfl, ahead⟩ := ahead
          rw [meets, Nat.beq_refl, Bool.true_and]
          exact inductionHypothesis (List.prefix_append rest back) ahead

/-- A mark that begins nowhere in a front occurs only behind it. -/
theorem infix_append_iff_of_misses
    {mark front : List Char}
    (clear : misses mark front = true)
    (back : List Char) :
    mark <:+: front ++ back ↔ mark <:+: back := by
  induction front with
  | nil => exact Iff.rfl
  | cons c rest inductionHypothesis =>
      rw [misses, Bool.and_eq_true, Bool.not_eq_true'] at clear
      rw [List.cons_append, List.infix_cons_iff, inductionHypothesis clear.2, or_iff_right]
      intro begins
      rw [meets_of_isPrefix begins (List.prefix_append (c :: rest) back)] at clear
      cases clear.1

/-- No mark begins in front of a status code. -/
theorem misses_http : ∀ mark ∈ passingMarks, misses mark.toList "http ".toList = true := by
  decide +kernel

/-- No mark begins in the code of a client's error, but for 429. -/
theorem misses_code :
    ∀ status < 500, 400 ≤ status → status ≠ 429 → ∀ mark ∈ passingMarks,
      misses mark.toList (Nat.toDigits 10 status ++ [' ']) = true := by
  decide +kernel

/-- No mark begins in the meaning of the code of a client's error, but for 408. -/
theorem misses_reason :
    ∀ status < 500, 400 ≤ status → status ≠ 408 →
      ∀ reason ∈ Http.reason? status, ∀ mark ∈ passingMarks,
        misses mark.toList (reason.toList.map Text.lowerAsciiChar ++ [':', ' ']) = true := by
  decide +kernel

/-- No mark begins in what stands for the meaning of a code that has none. -/
theorem misses_unknown :
    ∀ mark ∈ passingMarks,
      misses mark.toList ("<unknown status code>".toList.map Text.lowerAsciiChar ++ [':', ' ']) =
        true := by
  decide +kernel

/-- The text of a refusal. -/
def refusalText (response : Http.Response) : String :=
  "HTTP " ++ Http.statusText response.status ++ ": " ++ response.body

/-- An answer that refuses a request for good, by an error of the client's that does not pass. -/
structure IsPermanent (response : Http.Response) : Prop where
  /-- The code is at least that of the first error of clients. -/
  le_status : 400 ≤ response.status
  /-- The code is below that of the first error of servers. -/
  status_lt : response.status < 500
  /-- The client was not too slow. -/
  ne_timeout : response.status ≠ 408
  /-- The client did not ask too often. -/
  ne_tooMany : response.status ≠ 429

/-- The text of a refusal, with its letters in lower case. -/
theorem toList_refusalText (response : Http.Response) :
    (refusalText response).toList.map Text.lowerAsciiChar =
      "http ".toList ++ ((Nat.toDigits 10 response.status ++ [' ']) ++
        ((((Http.reason? response.status).getD "<unknown status code>").toList.map
          Text.lowerAsciiChar ++ [':', ' ']) ++ response.body.toList.map Text.lowerAsciiChar)) := by
  have digits : (toString response.status).toList = Nat.toDigits 10 response.status :=
    Nat.toList_repr
  have lower : (Nat.toDigits 10 response.status).map Text.lowerAsciiChar =
      Nat.toDigits 10 response.status := by
    refine (List.map_congr_left fun c member => ?_).trans (List.map_id' _)
    exact Text.lowerAsciiChar_of_isDigit (Decimal.isDigit_of_mem_toDigits member)
  rw [refusalText, Http.statusText]
  simp only [String.toList_append, List.map_append, digits, lower, List.append_assoc]
  rfl

/-- The text of a refusal for good mentions what its body mentions. -/
theorem IsPermanent.mentionsPassing_iff
    {response : Http.Response}
    (permanent : IsPermanent response) :
    MentionsPassing (refusalText response) ↔ MentionsPassing response.body := by
  apply exists_congr
  intro mark
  apply and_congr_right
  intro member
  have reason : misses mark.toList
      (((Http.reason? response.status).getD "<unknown status code>").toList.map
        Text.lowerAsciiChar ++ [':', ' ']) = true := by
    cases known : Http.reason? response.status with
    | none => exact misses_unknown mark member
    | some reason =>
        exact misses_reason _ permanent.status_lt permanent.le_status permanent.ne_timeout reason
          known mark member
  rw [toList_refusalText, infix_append_iff_of_misses (misses_http mark member),
    infix_append_iff_of_misses (misses_code _ permanent.status_lt permanent.le_status
      permanent.ne_tooMany mark member),
    infix_append_iff_of_misses reason]

/-! ## Refusals for good -/

/-- The network of a text generator that gives one answer after the other, or none. -/
def answering (answers : Nat → Option Http.Response) :
    Http.Network (StateM (List (Happening Http.Request))) :=
  fun request _ => asking answers request

/-- What is made of an answer, or of none. -/
def heard (url : Http.Url) : Option Http.Response → Except Error String
  | none => .error (.aiRequest (Http.Failure.unanswered url).message)
  | some response => read response

/-- To ask a text generator once is to make one request, if that can be written down. -/
theorem complete_answering
    {settings : AiSettings}
    {request : AiRequest}
    {url : Http.Url}
    (written : (requestOf settings request).check = .ok url)
    (answers : Nat → Option Http.Response) :
    complete (answering answers) settings request =
      asking (fun index => heard url (answers index)) (requestOf settings request) := by
  funext happened
  rw [complete, Http.exchange, written]
  change StateT.run _ happened = StateT.run _ happened
  simp only [answering, asking, StateT.run_bind, StateT.run_get, StateT.run_set, pure_bind,
    StateT.run_pure]
  cases answers (timesAsked happened) with
  | none => rfl
  | some response => rfl

/-- A refusal for good is a failed request. -/
theorem IsPermanent.read_eq
    {response : Http.Response}
    (permanent : IsPermanent response) :
    read response = .error (.aiRequest (refusalText response)) := by
  have refused : Http.isSuccess response.status = false := by
    have late := permanent.le_status
    simp only [Http.isSuccess, Bool.and_eq_false_iff, decide_eq_false_iff_not]
    omega
  rw [read, refused]
  rfl

/-- What becomes of a request to a text generator that is made again where that may help, and what
happens meanwhile. -/
def consult (settings : AiSettings) (request : AiRequest) (answers : Nat → Option Http.Response) :
    Except Error String × List (Happening Http.Request) :=
  (askPatiently settings.retry pass (complete (answering answers) settings request)).run []

/-- A refusal for good is asked for only once, and is what is returned, exactly when no further
request is allowed or the body of the answer mentions no passing failure.  Otherwise a while passes
and the same request is made again. -/
theorem refused_once_iff
    {settings : AiSettings}
    {request : AiRequest}
    {url : Http.Url}
    {answers : Nat → Option Http.Response}
    {response : Http.Response}
    (written : (requestOf settings request).check = .ok url)
    (answered : answers 0 = some response)
    (permanent : IsPermanent response) :
    (consult settings request answers =
        (.error (.aiRequest (refusalText response)), [.asked (requestOf settings request)]) ↔
      settings.retry.maxRetries = 0 ∨ ¬ MentionsPassing response.body) ∧
    (settings.retry.maxRetries ≠ 0 → MentionsPassing response.body →
      [.asked (requestOf settings request), .waited (backoff settings.retry 0),
        .asked (requestOf settings request)] <+: (consult settings request answers).2) := by
  let outcomes := fun index => heard url (answers index)
  have ran : consult settings request answers =
      (outcomes (retries outcomes settings.retry.maxRetries 0),
        [.asked (requestOf settings request)] ++ rounds settings.retry (requestOf settings request)
          0 (retries outcomes settings.retry.maxRetries 0)) := by
    rw [consult, complete_answering written]
    exact run_askPatiently settings.retry outcomes (requestOf settings request)
  have first : outcomes 0 = .error (.aiRequest (refusalText response)) := by
    change heard url (answers 0) = _
    rw [answered]
    exact permanent.read_eq
  have once : retries outcomes settings.retry.maxRetries 0 = 0 ↔
      settings.retry.maxRetries = 0 ∨ ¬ MentionsPassing response.body := by
    rw [retries_eq_zero_iff, first, ← permanent.mentionsPassing_iff, ← isPassing_aiRequest_iff,
      Bool.not_eq_true]
    rfl
  rw [ran]
  constructor
  · rw [← once]
    constructor
    · intro alone
      have counted := congrArg (fun ran => timesAsked ran.2) alone
      dsimp only at counted
      rw [timesAsked_append, timesAsked_rounds] at counted
      exact Nat.add_left_cancel counted
    · intro none
      rw [none, first]
      rfl
  · intro allowed mentioned
    obtain ⟨again, more⟩ := Nat.exists_eq_succ_of_ne_zero fun none =>
      (once.mp none).elim allowed fun silent => silent mentioned
    rw [more, rounds, List.range'_succ]
    exact List.prefix_append _ _

/-- A text generator in the neighbourhood, which is asked again twice at most. -/
def neighbour : AiSettings :=
  { modelId := "m", baseUrl := some "http://llm.test" }

/-- A greeting to a text generator. -/
def greeting : AiRequest :=
  { prompt := "", input := "hi", apiKey := none, device := "dev-1", history := [] }

/-- The refusal of a wrong key. -/
def wrongKey : Http.Response :=
  { status := 401, body := "bad key" }

/-- The refusal of a request for too many tokens. -/
def manyTokens : Http.Response :=
  { status := 400, body := "at most 500 tokens" }

/-- A greeting can be written down. -/
theorem check_greeting :
    (requestOf neighbour greeting).check = .ok ⟨"http", some "llm.test", "/chat/completions"⟩ := by
  decide +kernel

/-- A wrong key is refused for good, and the request is made only once. -/
theorem refused_once_wrong_key :
    IsPermanent wrongKey ∧ ¬ MentionsPassing wrongKey.body ∧
      consult neighbour greeting (fun _ => some wrongKey) =
        (.error (.aiRequest (refusalText wrongKey)), [.asked (requestOf neighbour greeting)]) := by
  have permanent : IsPermanent wrongKey := ⟨by decide, by decide, by decide, by decide⟩
  have silent : ¬ MentionsPassing wrongKey.body := by
    rw [← isPassing_aiRequest_iff]
    decide +kernel
  exact ⟨permanent, silent,
    (refused_once_iff check_greeting rfl permanent).1.mpr (.inr silent)⟩

/-- A request for too many tokens is refused for good, and is made three times because the refusal
names their number. -/
theorem asked_again_many_tokens :
    timesAsked (consult neighbour greeting fun _ => some manyTokens).2 = 3 ∧
      ¬ ∀ settings request answers response,
        (∃ url, (requestOf settings request).check = .ok url) → answers 0 = some response →
          IsPermanent response → timesAsked (consult settings request answers).2 = 1 := by
  have thrice : timesAsked (consult neighbour greeting fun _ => some manyTokens).2 = 3 := by
    decide +kernel
  refine ⟨thrice, fun once => ?_⟩
  have asked := once neighbour greeting (fun _ => some manyTokens) manyTokens ⟨_, check_greeting⟩
    rfl ⟨by decide, by decide, by decide, by decide⟩
  rw [thrice] at asked
  cases asked

end Ai

/-! ## How long is waited -/

namespace Word

/-- What stops at the largest word is a word. -/
theorem saturate_lt (n : Nat) : saturate n < count :=
  Nat.lt_of_le_of_lt (Nat.min_le_right n (count - 1)) (by decide)

/-- A word is kept. -/
theorem saturate_of_lt {n : Nat} (fits : n < count) : saturate n = n :=
  Nat.min_eq_left (Nat.le_sub_one_of_lt fits)

/-- What is no word stops at the largest one. -/
theorem saturate_of_le {n : Nat} (exceeds : count ≤ n) : saturate n = count - 1 :=
  Nat.min_eq_right (Nat.le_trans (Nat.sub_le count 1) exceeds)

/-- Below a limit that is a word it does not matter whether a number stops at the largest word. -/
theorem min_saturate
    {most : Nat}
    (fits : most < count)
    (n : Nat) :
    min (saturate n) most = min n most := by
  rw [saturate, Nat.min_assoc, Nat.min_eq_right (Nat.le_sub_one_of_lt fits)]

/-- Nor does it matter for a product that stops there whether one of its factors did. -/
theorem saturate_mul_saturate (factor n : Nat) :
    saturate (factor * saturate n) = saturate (factor * n) := by
  rcases Nat.lt_or_ge n count with fits | exceeds
  · rw [saturate_of_lt fits]
  · rcases Nat.eq_zero_or_pos factor with rfl | positive
    · rw [Nat.zero_mul, Nat.zero_mul]
    · have product : count ≤ factor * n := Nat.le_trans exceeds (Nat.le_mul_of_pos_left n positive)
      have stopped : count - 1 ≤ factor * (count - 1) := Nat.le_mul_of_pos_left _ positive
      rw [saturate_of_le exceeds, saturate_of_le product]
      exact Nat.min_eq_right stopped

end Word

namespace Ai

variable {settings : RetrySettings}

/-- A power of two stops at the largest word, where its exponent is cut off. -/
theorem powerOfTwo_eq (exponent : Nat) : powerOfTwo exponent = Word.saturate (2 ^ exponent) := by
  rw [powerOfTwo, Nat.one_shiftLeft]
  rcases Nat.le_total exponent 64 with small | large
  · rw [Nat.min_eq_left small]
  · have cut : Word.count ≤ 2 ^ 64 := by decide
    rw [Nat.min_eq_right large, Word.saturate_of_le cut,
      Word.saturate_of_le (Nat.le_trans cut (Nat.pow_le_pow_right (by decide) large))]

/-- The while is the one that unbounded numbers give. -/
theorem backoff_eq
    (fits : settings.maxBackoffMs < Word.count)
    (attempt : Nat) :
    backoff settings attempt =
      min (settings.initialBackoffMs * 2 ^ attempt) settings.maxBackoffMs := by
  rw [backoff, powerOfTwo_eq, Word.saturate_mul_saturate, Word.min_saturate fits]

/-- The while does not become shorter from attempt to attempt. -/
theorem monotone_backoff (fits : settings.maxBackoffMs < Word.count) :
    Monotone (backoff settings) := by
  intro attempt later behind
  rw [backoff_eq fits, backoff_eq fits]
  exact min_le_min_right _ (Nat.mul_le_mul_left _ (Nat.pow_le_pow_right (by decide) behind))

/-- The while that passes, if that is what happens. -/
def Happening.millis? : Happening ρ → Option Nat
  | .asked _ => none
  | .waited millis => some millis

/-- The whiles that pass, in order. -/
def whiles (happened : List (Happening ρ)) : List Nat :=
  happened.filterMap Happening.millis?

/-- In each round passes the while of its attempt. -/
theorem whiles_rounds (request : ρ) (attempt again : Nat) :
    whiles (rounds settings request attempt again) =
      (List.range' attempt again).map (backoff settings) := by
  induction again generalizing attempt with
  | zero => rfl
  | succ again inductionHypothesis =>
      have further := inductionHypothesis (attempt + 1)
      rw [whiles, rounds] at further ⊢
      rw [List.range'_succ, List.flatMap_cons, List.filterMap_append, further, List.map_cons]
      rfl

/-- The while before a further request is the initial one, doubled with every attempt, or the limit
if that is less: the power, the product and the while all fit into words wherever they are computed,
and what they stop at does not show.  The whiles that pass on a run are those of the attempts from
the first one on, and none is shorter than the one before. -/
theorem backoff_saturates_exactly (fits : settings.maxBackoffMs < Word.count) :
    (∀ attempt,
      powerOfTwo attempt < Word.count ∧
      Word.saturate (settings.initialBackoffMs * powerOfTwo attempt) < Word.count ∧
      backoff settings attempt < Word.count ∧
      backoff settings attempt =
        min (settings.initialBackoffMs * 2 ^ attempt) settings.maxBackoffMs) ∧
    Monotone (backoff settings) ∧
    ∀ (α ρ : Type) (outcomes : Nat → Except Error α) (request : ρ),
      let ran := (askPatiently settings pass (asking outcomes request)).run []
      whiles ran.2 = (List.range (timesAsked ran.2 - 1)).map (fun attempt =>
        min (settings.initialBackoffMs * 2 ^ attempt) settings.maxBackoffMs) ∧
      (whiles ran.2).Pairwise (· ≤ ·) := by
  refine ⟨?_, monotone_backoff fits, ?_⟩
  · intro attempt
    exact ⟨Word.saturate_lt _, Word.saturate_lt _,
      Nat.lt_of_le_of_lt (Nat.min_le_right _ _) fits, backoff_eq fits attempt⟩
  · intro α ρ outcomes request ran
    have same : ran = _ := run_askPatiently settings outcomes request
    have counted : timesAsked ran.2 - 1 = retries outcomes settings.maxRetries 0 := by
      rw [same, timesAsked_append, timesAsked_rounds]
      exact Nat.add_sub_cancel_left 1 _
    have waited : whiles ran.2 =
        (List.range (timesAsked ran.2 - 1)).map (backoff settings) := by
      rw [counted, same, List.range_eq_range']
      exact whiles_rounds request 0 _
    have formula : backoff settings = fun attempt =>
        min (settings.initialBackoffMs * 2 ^ attempt) settings.maxBackoffMs :=
      funext (backoff_eq fits)
    refine ⟨?_, ?_⟩
    · rw [waited, formula]
    · rw [waited]
      refine List.pairwise_map.mpr (List.pairwise_lt_range.imp fun {attempt later} before => ?_)
      exact monotone_backoff fits (Nat.le_of_lt before)

/-- A wait without a limit but the largest word. -/
def unlimited : RetrySettings where
  maxRetries := 2
  initialBackoffMs := 3
  maxBackoffMs := Word.count - 1

/-- Three times a power of two fits into a word up to the sixty-second one.  Then the product stops
at the largest word, and from the sixty-fourth one on the power does. -/
theorem backoff_saturates_exactly_unlimited :
    unlimited.maxBackoffMs < Word.count ∧
      backoff unlimited 62 = 13835058055282163712 ∧
      backoff unlimited 63 = 18446744073709551615 ∧
      backoff unlimited 4294967295 = 18446744073709551615 ∧
      whiles ((askPatiently unlimited pass (asking
        (fun _ => (.error (.aiRequest "timeout") : Except Error String)) "hi")).run []).2 =
          [3, 6] := by
  have fits : unlimited.maxBackoffMs < Word.count := by decide
  obtain ⟨exact_at, monotone, passed⟩ := backoff_saturates_exactly fits
  have sixtyTwo : backoff unlimited 62 = 13835058055282163712 :=
    (exact_at 62).2.2.2.trans (by decide +kernel)
  have sixtyThree : backoff unlimited 63 = 18446744073709551615 :=
    (exact_at 63).2.2.2.trans (by decide +kernel)
  have largest : backoff unlimited 4294967295 = 18446744073709551615 := by
    refine Nat.le_antisymm (Nat.le_of_lt_succ (exact_at 4294967295).2.2.1) ?_
    rw [← sixtyThree]
    exact monotone (by decide : 63 ≤ 4294967295)
  refine ⟨fits, sixtyTwo, sixtyThree, largest, ?_⟩
  rw [(passed String String _ "hi").1]
  decide +kernel

end Ai
end ChatFlow
