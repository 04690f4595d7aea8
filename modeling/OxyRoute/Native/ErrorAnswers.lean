import OxyRoute.Lib.Tries
import OxyRoute.Native.ErrorPaths

/-!
# Exception handlers in turn

An error is offered to the exception handlers registered for its class, newest first, up to the
first that takes it. In the short circuit it has to be synchronous, and its value to have a mapping,
which is sent. In `run_rsgi` a handler takes an error by returning: its value is awaited and sent,
but a value that has no mapping or cannot be sent leaves the error to be answered itself, as it is
where no handler takes it.

## Main definitions

- `offered` — the handlers for the class of an error
- `returned`, `mappedValue` — what handlers make of an error on both paths
- `AnsweredInTurn` — an error is offered in turn, and answered
- `ReturnedAnswer` — what becomes of a value that a handler returned

## Main results

- `error_answers_law` — both error paths offer an error in turn
- `AnsweredInTurn.calls_prefix`, `newest_handler_first` — the handlers that are called
-/

namespace OxyRoute

open Routine

variable {m : Matchit} {Ref W : Type}

section

variable (rt : Runtime m Ref W) (req : HttpRequest Ref) (err : PyErr Ref)

-- ════════════════════════════════════════════════════════════════════════
-- Handlers
-- ════════════════════════════════════════════════════════════════════════

/-- The handler is registered for a class of the error. -/
def concerns (h : ExceptionHandler Ref) : Bool := rt.isInstance err h.excType

/-- The handlers for the class of an error, newest first. -/
def offered (hs : List (ExceptionHandler Ref)) : List (ExceptionHandler Ref) :=
  hs.reverse.filter (concerns rt err)

/-- The handler is one for the short circuit. -/
def isSync (h : ExceptionHandler Ref) : Bool := !h.isAsync

/-- What a handler makes of an error in `run_rsgi`: its value, if it returns. -/
def returned (h : ExceptionHandler Ref) (w : World m Ref W) :
    Option (PyVal Ref × Bool) × World m Ref W :=
  match rt.call h.handler [.object req.scope, rt.exceptionObject err] .empty w with
  | (.ok res, w') => (some (res, h.isAsync), w')
  | (.error _, w') => (none, w')

/-- What a handler makes of an error in the short circuit: the mapping of its value. -/
def mappedValue (h : ExceptionHandler Ref) (w : World m Ref W) :
    Option HandlerMap × World m Ref W :=
  match rt.call h.handler [.object req.scope, rt.exceptionObject err] .empty w with
  | (.ok res, w') => ((mapHandlerReturn rt.toInspection res).toOption, w')
  | (.error _, w') => (none, w')

/-- The answer of `run_rsgi` to an error. -/
def answerReturned (r : Option (PyVal Ref × Bool)) : Dispatch m Ref W Unit := do
  if ← answerFrom rt req r then return
  sendErrorFallback rt req err

/-- What becomes of a value that a handler returned in `run_rsgi`. It is awaited if the handler is
asynchronous; a failed await is answered with status 500, for its own error; a value that has no
mapping or cannot be sent is passed over, and the error is answered itself. -/
structure ReturnedAnswer (res : PyVal Ref) (isAsync : Bool) (w : World m Ref W) : Prop where
  awaited : ∃ r w', (awaitHandlerValue rt res isAsync).run w = ⟨.ok r, w', []⟩
  failed : ∀ e w', (awaitHandlerValue rt res isAsync).run w = ⟨.ok (.error e), w', []⟩ →
    (answerReturned rt req err (some (res, isAsync))).run w = (sendInternalError rt req e).run w'
  unmapped : ∀ v w' e, (awaitHandlerValue rt res isAsync).run w = ⟨.ok (.ok v), w', []⟩ →
    mapHandlerReturn rt.toInspection v = .error e →
    (answerReturned rt req err (some (res, isAsync))).run w = (sendErrorFallback rt req err).run w'
  unsent : ∀ v w' mapped e w'' l,
    (awaitHandlerValue rt res isAsync).run w = ⟨.ok (.ok v), w', []⟩ →
    mapHandlerReturn rt.toInspection v = .ok mapped →
    (sendHandlerMapInline rt req (req.method = "HEAD") mapped).run w' = ⟨.error e, w'', l⟩ →
    (answerReturned rt req err (some (res, isAsync))).run w =
      ((sendErrorFallback rt req err).run w'').after l
  sent : ∀ v w' mapped w'' l,
    (awaitHandlerValue rt res isAsync).run w = ⟨.ok (.ok v), w', []⟩ →
    mapHandlerReturn rt.toInspection v = .ok mapped →
    (sendHandlerMapInline rt req (req.method = "HEAD") mapped).run w' = ⟨.ok (), w'', l⟩ →
    (answerReturned rt req err (some (res, isAsync))).run w = ⟨.ok (), w'', l⟩

/-- The answer of the short circuit to an error. -/
def answerMapped : Option HandlerMap → Dispatch m Ref W Unit
  | some mapped => orRaise (sendHandlerMapInline rt req (req.method = "HEAD") mapped)
  | none => sendErrorFallback rt req err

/-- The exception handlers that a log calls. -/
def handlerCalls (l : List (RequestEvent Ref)) : List Ref :=
  l.filterMap fun
    | .exceptionHandler f => some f
    | _ => none

/-- An error is offered to handlers in turn, and `answer` goes on with the result and calls no
handler. -/
def AnsweredInTurn {β : Type}
    (trial : ExceptionHandler Ref → World m Ref W → Option β × World m Ref W)
    (answer : Option β → Dispatch m Ref W Unit) (hs : List (ExceptionHandler Ref))
    (c : Dispatch m Ref W Unit) : Prop :=
  ∀ w, ∃ called r w', Tried trial hs w called r w' ∧
    c.run w = ((answer r).run w').after (called.map fun h => .exceptionHandler h.handler) ∧
    handlerCalls (c.run w).log = called.map (·.handler)

end

section

variable {rt : Runtime m Ref W} {req : HttpRequest Ref} {err : PyErr Ref}

/-- The handler registered last is offered an error first. -/
theorem offered_configure (st : AppState m Ref) (h : ExceptionHandler Ref) :
    offered rt err (st.configure (.exceptionHandler h)).hotSnapshot.exceptionHandlers =
      (if concerns rt err h then [h] else []) ++ offered rt err st.exceptionHandlers := by
  have hregistered : (st.configure (.exceptionHandler h)).hotSnapshot.exceptionHandlers =
      st.exceptionHandlers ++ [h] := rfl
  rw [hregistered, offered, List.reverse_append, List.reverse_singleton, List.singleton_append,
    List.filter_cons]
  split
  · rfl
  · rfl

-- ════════════════════════════════════════════════════════════════════════
-- The loops
-- ════════════════════════════════════════════════════════════════════════

theorem firstHandlerValue_eq (hs : List (ExceptionHandler Ref)) :
    firstHandlerValue rt req err hs = tryEach (fun h => .exceptionHandler h.handler)
      (returned rt req err) (hs.filter (concerns rt err)) := by
  induction hs with
  | nil => rfl
  | cons h hs ih =>
    by_cases hinst : concerns rt err h = true
    · rw [List.filter_cons_of_pos hinst]
      refine Routine.ext (funext fun w => ?_)
      rcases hcall : rt.call h.handler [.object req.scope, rt.exceptionObject err] .empty w
        with ⟨r, w'⟩
      rw [← bind_pure (firstHandlerValue rt req err (h :: hs)),
        firstHandlerValue_run hinst pure hcall, bind_pure]
      cases r with
      | ok res =>
        have htrial : returned rt req err h w = (some (res, h.isAsync), w') := by
          rw [returned, hcall]
        rw [tryEach_cons_run htrial]
        rfl
      | error e =>
        have htrial : returned rt req err h w = (none, w') := by
          rw [returned, hcall]
        rw [tryEach_cons_run htrial, ih]
        rfl
    · have hother : ¬ rt.isInstance err h.excType = true := hinst
      rw [List.filter_cons_of_neg hinst, firstHandlerValue, if_neg hother]
      exact ih

theorem mappedValue_of_ok {h : ExceptionHandler Ref} {w w' : World m Ref W} {res : PyVal Ref}
    (hcall : rt.call h.handler [.object req.scope, rt.exceptionObject err] .empty w =
      (.ok res, w')) :
    mappedValue rt req err h w = ((mapHandlerReturn rt.toInspection res).toOption, w') := by
  rw [mappedValue, hcall]

/-- The loop of the short circuit, with its answer. -/
theorem answerByHandlerSync_eq (hs : List (ExceptionHandler Ref)) :
    (answerByHandlerSync rt req err hs >>= fun answered =>
      if answered then pure () else sendErrorFallback rt req err) =
      tryEach (fun h => .exceptionHandler h.handler) (mappedValue rt req err)
        ((hs.filter (concerns rt err)).filter isSync) >>=
        answerMapped rt req err := by
  induction hs with
  | nil => rfl
  | cons h hs ih =>
    by_cases hinst : concerns rt err h = true
    · rw [List.filter_cons_of_pos hinst]
      cases hsync : h.isAsync with
      | true =>
        rw [List.filter_cons_of_neg (by simp [isSync, hsync]), answerByHandlerSync,
          if_neg (by simp [hsync])]
        exact ih
      | false =>
        rw [List.filter_cons_of_pos (by simp [isSync, hsync])]
        refine Routine.ext (funext fun w => ?_)
        rcases hcall : rt.call h.handler [.object req.scope, rt.exceptionObject err] .empty w
          with ⟨r, w'⟩
        rw [answerByHandlerSync_run hinst hsync _ hcall]
        -- a handler that raises, or whose value has no mapping, is passed over
        have hpassed (htrial : mappedValue rt req err h w = (none, w')) :
            ((answerByHandlerSync rt req err hs >>= fun answered =>
              if answered then pure () else sendErrorFallback rt req err).run w').after
                [.exceptionHandler h.handler] =
              (tryEach (fun h => .exceptionHandler h.handler) (mappedValue rt req err)
                (h :: (hs.filter (concerns rt err)).filter isSync)
                >>= answerMapped rt req err).run w := by
          rw [ih]
          exact (tryEach_cons_bind_run htrial _ _).symm
        cases r with
        | error e => exact hpassed (by rw [mappedValue, hcall])
        | ok res =>
          cases hmap : mapHandlerReturn rt.toInspection res with
          | error e =>
            dsimp only
            rw [hmap]
            exact hpassed (by rw [mappedValue_of_ok hcall, hmap]; rfl)
          | ok mapped =>
            have htrial : mappedValue rt req err h w = (some mapped, w') := by
              rw [mappedValue_of_ok hcall, hmap]
              rfl
            dsimp only
            rw [hmap, tryEach_cons_bind_run htrial]
            dsimp only
            rw [bind_assoc]
            refine congrArg (fun c => (Routine.run c w').after _) ?_
            exact bind_pure _
    · rw [List.filter_cons_of_neg hinst, answerByHandlerSync, if_neg (fun h' => hinst h'.1)]
      exact ih

-- ════════════════════════════════════════════════════════════════════════
-- The answers
-- ════════════════════════════════════════════════════════════════════════

/-- An event that is no call of an exception handler. -/
def NoHandlerCall : RequestEvent Ref → Prop
  | .exceptionHandler _ => False
  | _ => True

theorem handlerCalls_of_noHandlerCall {l : List (RequestEvent Ref)}
    (hl : ∀ i ∈ l, NoHandlerCall i) : handlerCalls l = [] := by
  refine List.filterMap_eq_nil_iff.mpr fun i hi => ?_
  cases i with
  | exceptionHandler f => exact (hl _ hi).elim
  | _ => rfl

theorem handlerCalls_map (hs : List (ExceptionHandler Ref)) :
    handlerCalls (hs.map fun h => .exceptionHandler h.handler) = hs.map (·.handler) := by
  induction hs with
  | nil => rfl
  | cons h hs ih => exact congrArg (h.handler :: ·) ih

theorem answeredInTurn_tryEach {β : Type}
    (trial : ExceptionHandler Ref → World m Ref W → Option β × World m Ref W)
    {answer : Option β → Dispatch m Ref W Unit} (hanswer : ∀ r, Logs NoHandlerCall (answer r))
    (hs : List (ExceptionHandler Ref)) :
    AnsweredInTurn trial answer hs
      (tryEach (fun h => .exceptionHandler h.handler) trial hs >>= answer) := by
  intro w
  obtain ⟨called, r, w', htried, hrun⟩ := tryEach_run trial
    (fun h : ExceptionHandler Ref => RequestEvent.exceptionHandler h.handler) hs w
  refine ⟨called, r, w', htried, bind_run_ok hrun answer, ?_⟩
  rw [bind_run_ok hrun, Ending.log_after, handlerCalls, List.filterMap_append]
  change handlerCalls _ ++ handlerCalls _ = _
  rw [handlerCalls_map, handlerCalls_of_noHandlerCall (hanswer r w'), List.append_nil]

theorem noHandlerCall_sent (call : ProtocolCall) :
    NoHandlerCall (.sent call : RequestEvent Ref) := trivial

theorem answerReturned_logs (r : Option (PyVal Ref × Bool)) :
    Logs NoHandlerCall (answerReturned rt req err r) := by
  have hawait (res : PyVal Ref) (isAsync : Bool) :
      Logs NoHandlerCall (awaitHandlerValue rt res isAsync) := by
    unfold awaitHandlerValue
    split
    · split
      · exact (logs_effect _).attempt
      · exact logs_pure _
    · exact logs_pure _
  have hfrom : Logs NoHandlerCall (answerFrom rt req r) := by
    unfold answerFrom
    split
    · exact logs_pure _
    · refine (hawait _ _).bind fun final => ?_
      split
      · exact (logs_sendInternalError rt req noHandlerCall_sent _).bind fun _ => logs_pure _
      · split
        · exact logs_pure _
        · refine Logs.bind (logs_sendHandlerMapInline rt req noHandlerCall_sent _ _).attempt
            fun sent => ?_
          split
          · exact logs_pure _
          · exact logs_pure _
  refine hfrom.bind fun answered => ?_
  split
  · exact logs_pure _
  · exact logs_sendErrorFallback rt req noHandlerCall_sent err

/-- A value that a handler returned is answered, or leaves the error to be answered. -/
theorem returnedAnswer (res : PyVal Ref) (isAsync : Bool) (w : World m Ref W) :
    ReturnedAnswer rt req err res isAsync w where
  awaited := awaitHandlerValue_run rt res isAsync w
  failed e w' hawait := by
    unfold answerReturned answerFrom
    dsimp only
    rw [bind_assoc, bind_run_ok hawait, Ending.after_nil, bind_assoc]
    exact congrArg (fun c => Routine.run c w') (bind_pure (sendInternalError rt req e))
  unmapped v w' e hawait hmap := by
    unfold answerReturned answerFrom
    dsimp only
    rw [bind_assoc, bind_run_ok hawait, Ending.after_nil]
    dsimp only
    rw [hmap]
    rfl
  unsent v w' mapped e w'' l hawait hmap hsend := by
    have hattempt : (attempt (sendHandlerMapInline rt req (req.method = "HEAD") mapped) :
        Dispatch m Ref W _).run w' = ⟨.ok (.error e), w'', l⟩ := by
      rw [attempt_run, hsend]
    unfold answerReturned answerFrom
    dsimp only
    rw [bind_assoc, bind_run_ok hawait, Ending.after_nil]
    dsimp only
    rw [hmap]
    dsimp only
    rw [bind_assoc, bind_run_ok hattempt]
    rfl
  sent v w' mapped w'' l hawait hmap hsend := by
    have hattempt : (attempt (sendHandlerMapInline rt req (req.method = "HEAD") mapped) :
        Dispatch m Ref W _).run w' = ⟨.ok (.ok ()), w'', l⟩ := by
      rw [attempt_run, hsend]
    unfold answerReturned answerFrom
    dsimp only
    rw [bind_assoc, bind_run_ok hawait, Ending.after_nil]
    dsimp only
    rw [hmap]
    dsimp only
    rw [bind_assoc, bind_run_ok hattempt]
    exact congrArg (Ending.mk _ _) (List.append_nil l)

theorem answerMapped_logs (r : Option HandlerMap) :
    Logs NoHandlerCall (answerMapped rt req err r) := by
  cases r with
  | some mapped =>
    exact (logs_sendHandlerMapInline rt req noHandlerCall_sent _ mapped).handle fun _ => logs_exit _
  | none => exact logs_sendErrorFallback rt req noHandlerCall_sent err

theorem sendPythonError_eq (snap : FrozenState m Ref) :
    sendPythonError rt req snap err = tryEach (fun h => .exceptionHandler h.handler)
      (returned rt req err) (offered rt err snap.exceptionHandlers) >>=
        answerReturned rt req err := by
  rw [sendPythonError, answerByHandler, firstHandlerValue_eq, bind_assoc]
  rfl

theorem sendPythonErrorSync_eq (snap : FrozenState m Ref) :
    sendPythonErrorSync rt req snap err = tryEach (fun h => .exceptionHandler h.handler)
      (mappedValue rt req err) ((offered rt err snap.exceptionHandlers).filter isSync) >>=
        answerMapped rt req err :=
  answerByHandlerSync_eq _

/-- In `run_rsgi` the handlers are offered an error in turn. -/
theorem sendPythonError_inTurn (snap : FrozenState m Ref) :
    AnsweredInTurn (returned rt req err) (answerReturned rt req err)
      (offered rt err snap.exceptionHandlers) (sendPythonError rt req snap err) := by
  rw [sendPythonError_eq]
  exact answeredInTurn_tryEach _ answerReturned_logs _

/-- In the short circuit the synchronous ones are. -/
theorem sendPythonErrorSync_inTurn (snap : FrozenState m Ref) :
    AnsweredInTurn (mappedValue rt req err) (answerMapped rt req err)
      ((offered rt err snap.exceptionHandlers).filter isSync)
      (sendPythonErrorSync rt req snap err) := by
  rw [sendPythonErrorSync_eq]
  exact answeredInTurn_tryEach _ answerMapped_logs _

end

/-- **Errors.** For every runtime, request, snapshot, error and state: the error is offered to the
handlers registered for its class, newest first, each at most once and up to the first that takes
it, and where none takes it, after all have been called, the error is answered itself. In the short
circuit only synchronous handlers are called, one takes the error whose value has a mapping, and
that is sent. In `run_rsgi` a handler takes an error by returning: its value is awaited and sent,
but a failed await is answered with status 500, and a value that has no mapping or cannot be sent
leaves the error to be answered itself. -/
theorem error_answers_law (rt : Runtime m Ref W) (req : HttpRequest Ref) (snap : FrozenState m Ref)
    (err : PyErr Ref) :
    AnsweredInTurn (returned rt req err) (answerReturned rt req err)
        (offered rt err snap.exceptionHandlers) (sendPythonError rt req snap err) ∧
      (∀ res isAsync w, ReturnedAnswer rt req err res isAsync w) ∧
      AnsweredInTurn (mappedValue rt req err) (answerMapped rt req err)
        ((offered rt err snap.exceptionHandlers).filter isSync)
        (sendPythonErrorSync rt req snap err) :=
  ⟨sendPythonError_inTurn snap, returnedAnswer, sendPythonErrorSync_inTurn snap⟩

/-- Whatever handlers have been registered, only those for the class of the error are called, in
order from the newest on. -/
theorem AnsweredInTurn.calls_prefix {β : Type}
    {trial : ExceptionHandler Ref → World m Ref W → Option β × World m Ref W}
    {answer : Option β → Dispatch m Ref W Unit} {hs : List (ExceptionHandler Ref)}
    {c : Dispatch m Ref W Unit} (h : AnsweredInTurn trial answer hs c) (w : World m Ref W) :
    handlerCalls (c.run w).log <+: hs.map (·.handler) := by
  obtain ⟨called, r, w', htried, -, hcalls⟩ := h w
  rw [hcalls]
  exact htried.isPrefix.map _

/-- The handler registered last for the class of an error is called first, whatever else has been
registered. -/
theorem newest_handler_first (rt : Runtime m Ref W) (req : HttpRequest Ref) (st : AppState m Ref)
    {h : ExceptionHandler Ref} {err : PyErr Ref} (hclass : concerns rt err h = true)
    (w : World m Ref W) :
    ∃ rest, handlerCalls ((sendPythonError rt req
      (st.configure (.exceptionHandler h)).hotSnapshot err).run w).log = h.handler :: rest := by
  obtain ⟨called, r, w', htried, -, hcalls⟩ :=
    sendPythonError_inTurn (st.configure (.exceptionHandler h)).hotSnapshot w
  rw [offered_configure, if_pos hclass, List.singleton_append] at htried
  obtain ⟨rest, rfl⟩ := htried.exists_cons
  exact ⟨rest.map (·.handler), hcalls⟩

end OxyRoute
