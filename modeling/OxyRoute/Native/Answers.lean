import OxyRoute.Native.Dispatch

/-!
# What an answer logs

Once the dispatcher answers a request, with a value, an error or a refusal, it only makes
response calls and calls exception handlers.

## Main definitions

- `IsAnswer` — the events of an answer

## Main results

- `respondOrFail_logs`, `failWith_logs`, `finish_logs` — answers log nothing else
-/

namespace OxyRoute

open Routine

variable {m : Matchit} {Ref W : Type}

/-- The events of an answer. -/
def IsAnswer : RequestEvent Ref → Prop
  | .exceptionHandler _ | .sent _ => True
  | _ => False

variable (rt : Runtime m Ref W) (req : HttpRequest Ref) (snap : FrozenState m Ref)

theorem finish_bind {α β : Type} (c : PyResult m Ref W Unit) (k : α → Dispatch m Ref W β) :
    finish c >>= k = finish c := by
  simp [finish]

theorem failWith_bind {α β : Type} (err : PyErr Ref) (k : α → Dispatch m Ref W β) :
    failWith rt req snap err >>= k = failWith rt req snap err := by
  simp [failWith]

theorem respondOrFail_bind {α β : Type} (v : PyVal Ref) (k : α → Dispatch m Ref W β) :
    respondOrFail rt req snap v >>= k = respondOrFail rt req snap v := by
  rw [respondOrFail, bind_assoc]
  refine congrArg _ (funext fun r => ?_)
  cases r with
  | ok _ => rfl
  | error e => exact failWith_bind rt req snap e k

theorem finish_exitsAs {α : Type} (c : PyResult m Ref W Unit) :
    ExitsAs (finish c : Dispatch m Ref W α) (finish c : Dispatch m Ref W Unit) :=
  exitsAs_bind_exit _ _

theorem failWith_exitsAs {α : Type} (err : PyErr Ref) :
    ExitsAs (failWith rt req snap err : Dispatch m Ref W α)
      (failWith rt req snap err : Dispatch m Ref W Unit) :=
  exitsAs_bind_exit _ _

theorem respondOrFail_exitsAs {α : Type} (v : PyVal Ref) :
    ExitsAs (respondOrFail rt req snap v : Dispatch m Ref W α)
      (respondOrFail rt req snap v : Dispatch m Ref W Unit) := by
  intro w
  have hattempt : (attempt (respondWith rt req snap v) : Dispatch m Ref W _).run w = _ :=
    attempt_run _ w
  rcases hr : (respondWith rt req snap v).run w with ⟨r, w', l⟩
  rw [hr] at hattempt
  cases r with
  | ok u => exact ⟨.done, w', l ++ [], bind_run_ok hattempt _, bind_run_ok hattempt _⟩
  | error err =>
    obtain ⟨e, w'', l', hc, hd⟩ : ∃ e w'' l',
        (failWith rt req snap err : Dispatch m Ref W α).run w' = ⟨.error e, w'', l'⟩ ∧ _ :=
      failWith_exitsAs rt req snap err w'
    exact ⟨e, w'', l ++ l', (bind_run_ok hattempt _).trans (congrArg (Ending.after l) hc),
      (bind_run_ok hattempt _).trans (congrArg (Ending.after l) hd)⟩

/-- A last response call: it is made, and its error goes to the caller. -/
theorem finish_respond_run {α : Type} (call : ProtocolCall) (w : World m Ref W) :
    (finish (respond rt req call) : Dispatch m Ref W α).run w =
      match rt.respond req.protocol call w with
      | (.ok (), w') => ⟨.error .done, w', [.sent call]⟩
      | (.error e, w') => ⟨.error (.raised e), w', [.sent call]⟩ := by
  have hcall : (respond rt req call).run w =
      ⟨(rt.respond req.protocol call w).1, (rt.respond req.protocol call w).2, [.sent call]⟩ := by
    rw [respond, bind_run_ok (log_run _ w), effect_run]
    rfl
  rcases hr : rt.respond req.protocol call w with ⟨r, w'⟩
  rw [hr] at hcall
  cases r with
  | ok u =>
    rw [finish, orRaise, bind_run_ok (handle_run_ok hcall _)]
    rfl
  | error e =>
    rw [finish, orRaise, bind_run_error (handle_run_error hcall _)]
    rfl

theorem orRaise_logs {α : Type} {c : PyResult m Ref W α} (hc : Logs IsAnswer c) :
    Logs IsAnswer (orRaise c) :=
  hc.handle fun _ => logs_exit _

theorem finish_logs {α : Type} {c : PyResult m Ref W Unit} (hc : Logs IsAnswer c) :
    Logs IsAnswer (finish c : Dispatch m Ref W α) :=
  (orRaise_logs hc).bind fun _ => logs_exit _

section

variable {P : RequestEvent Ref → Prop}

theorem logs_respond (hP : ∀ call, P (.sent call)) (call : ProtocolCall) :
    Logs P (respond rt req call) :=
  (logs_log (hP call)).bind fun _ => logs_effect _

theorem logs_sendText (hP : ∀ call, P (.sent call)) (status : ℕ) (text contentType : String) :
    Logs P (sendText rt req status text contentType) :=
  (logs_respond rt req hP _).ite (logs_respond rt req hP _)

theorem logs_sendBytes (hP : ∀ call, P (.sent call)) (status : ℕ) (body : List UInt8)
    (contentType : String) : Logs P (sendBytes rt req status body contentType) :=
  (logs_respond rt req hP _).ite (logs_respond rt req hP _)

theorem logs_sendWithHeaders (hP : ∀ call, P (.sent call)) (status : ℕ) (body : List UInt8)
    (headers : HeaderPairs) : Logs P (sendWithHeaders rt req status body headers) :=
  (logs_respond rt req hP _).ite (logs_respond rt req hP _)

theorem logs_sendHandlerMapInline (hP : ∀ call, P (.sent call)) (isHead : Bool)
    (mapped : HandlerMap) : Logs P (sendHandlerMapInline rt req isHead mapped) := by
  unfold sendHandlerMapInline
  split
  · exact logs_pure _
  · exact (logs_ofExcept _).bind fun _ => logs_sendWithHeaders rt req hP _ _ _
  · exact (logs_ofExcept _).bind fun _ => logs_respond rt req hP _
  · exact logs_respond rt req hP _
  · exact logs_respond rt req hP _
  · exact logs_sendWithHeaders rt req hP _ _ _
  · unfold sendSimpleBody
    split
    · exact logs_sendBytes rt req hP _ _ _
    · exact logs_sendBytes rt req hP _ _ _
    · exact (logs_ofExcept _).bind fun _ => logs_sendText rt req hP _ _ _

theorem logs_sendInternalError (hP : ∀ call, P (.sent call)) (err : PyErr Ref) :
    Logs P (sendInternalError rt req err) := by
  have htext (text : String) : Logs P
      (orRaise (sendText rt req 500 text "application/json; charset=utf-8")) :=
    (logs_sendText rt req hP _ _ _).handle fun _ => logs_exit _
  unfold sendInternalError
  split
  · split
    · exact logs_exit _
    · exact htext _
  · exact htext _

/-- An answer without exception handlers only makes response calls. -/
theorem logs_sendErrorFallback (hP : ∀ call, P (.sent call)) (err : PyErr Ref) :
    Logs P (sendErrorFallback rt req err) := by
  have hexception : Logs P (tryHttpException rt req err) := by
    refine (logs_ofExcept _).bind fun payload => ?_
    split
    · exact logs_pure _
    · exact (logs_sendWithHeaders rt req hP _ _ _).bind fun _ => logs_pure _
  refine (hexception.handle fun _ => logs_exit _).bind fun sent => ?_
  split
  · exact logs_pure _
  · exact logs_sendInternalError rt req hP err

end

theorem respond_logs (call : ProtocolCall) : Logs IsAnswer (respond rt req call) :=
  logs_respond rt req (fun _ => trivial) call

theorem sendText_logs (status : ℕ) (text contentType : String) :
    Logs IsAnswer (sendText rt req status text contentType) :=
  logs_sendText rt req (fun _ => trivial) status text contentType

theorem sendWithHeaders_logs (status : ℕ) (body : List UInt8) (headers : HeaderPairs) :
    Logs IsAnswer (sendWithHeaders rt req status body headers) :=
  logs_sendWithHeaders rt req (fun _ => trivial) status body headers

theorem rejectJson_logs {α : Type} (status : ℕ) (text : String) :
    Logs IsAnswer (rejectJson rt req status text : Dispatch m Ref W α) :=
  finish_logs (sendText_logs rt req _ _ _)

theorem rejectPlain_logs {α : Type} (status : ℕ) (text : String) :
    Logs IsAnswer (rejectPlain rt req status text : Dispatch m Ref W α) :=
  finish_logs (sendText_logs rt req _ _ _)

theorem sendHandlerMapInline_logs (isHead : Bool) (mapped : HandlerMap) :
    Logs IsAnswer (sendHandlerMapInline rt req isHead mapped) :=
  logs_sendHandlerMapInline rt req (fun _ => trivial) isHead mapped

section

variable {P : RequestEvent Ref → Prop}

theorem configHeaderPairs_logs (config : Ref) : Logs P (configHeaderPairs rt req config) :=
  (logs_effect _).bind fun _ => logs_ofExcept _

theorem mergeConfigResponseHeaders_logs (mapped : HandlerMap) :
    Logs P (mergeConfigResponseHeaders rt req snap mapped) := by
  have hsecurity (mapped : HandlerMap) : Logs P (mergeSecurityHeaders rt req snap mapped) := by
    unfold mergeSecurityHeaders
    split
    · exact logs_pure _
    · exact (configHeaderPairs_logs rt req _).bind fun _ => logs_pure _
    · exact logs_pure _
  have hcors (mapped : HandlerMap) : Logs P (mergeCorsHeaders rt req snap mapped) := by
    unfold mergeCorsHeaders
    split
    · refine (logs_ofExcept _).bind fun _ => ?_
      split
      · exact logs_pure _
      · exact logs_pure _
    · refine (logs_ofExcept _).bind fun _ => ?_
      split
      · exact (configHeaderPairs_logs rt req _).bind fun _ => logs_pure _
      · exact logs_pure _
    · exact logs_pure _
  exact (logs_pure _).ite ((hsecurity mapped).bind fun mapped => hcors mapped)

theorem validateBody_logs (model : Ref) (input : HandlerInput Ref) :
    Logs P (validateBody rt model input) := by
  unfold validateBody
  split
  · exact (logs_effect _).map
  · split
    · exact logs_pure _
    · split
      · exact (logs_effect _).map
      · exact (logs_effect _).map

theorem validationDetail_logs (err : PyErr Ref) : Logs P (validationDetail rt err) := by
  unfold validationDetail
  split
  · refine (logs_effect _).attempt.bind fun r => ?_
    split
    · split
      · exact logs_pure _
      · exact logs_pure _
    · exact logs_pure _
  · exact logs_pure _

/-- Decoding a JSON body logs how its validation went. -/
theorem decodeJsonBody_logs (hP : ∀ r, P (.validated r)) (entry : RouteEntry Ref)
    (input : HandlerInput Ref) : Logs P (decodeJsonBody rt entry input) := by
  unfold decodeJsonBody
  split
  · split
    · exact logs_pure _
    · exact logs_pure _
  · next model _ =>
    refine (validateBody_logs rt model input).attempt.bind fun r => ?_
    split
    · exact logs_pure _
    · exact (logs_log (hP _)).bind fun _ => logs_pure _
    · exact (logs_log (hP _)).bind fun _ =>
        (validationDetail_logs rt _).bind fun _ => logs_pure _

theorem runResponseMiddleware_logs (fs : List Ref) (mapped : HandlerMap) :
    Logs P (runResponseMiddleware rt req fs mapped) := by
  induction fs generalizing mapped with
  | nil => exact logs_pure _
  | cons f fs ih =>
    cases mapped with
    | alreadySent => exact logs_pure _
    | withHeaders status body headers =>
      exact (logs_effect _).bind fun _ => (logs_ofExcept _).bind fun mapped => ih mapped
    | simple status body contentType =>
      exact (logs_effect _).bind fun _ => (logs_ofExcept _).bind fun mapped => ih mapped

end

theorem respondWith_logs (v : PyVal Ref) : Logs IsAnswer (respondWith rt req snap v) := by
  refine (logs_ofExcept _).bind fun mapped => ?_
  refine (runResponseMiddleware_logs rt req _ mapped).bind fun mapped => ?_
  split
  · exact (mergeConfigResponseHeaders_logs rt req snap mapped).bind fun mapped =>
      sendHandlerMapInline_logs rt req _ mapped
  · exact sendHandlerMapInline_logs rt req _ mapped

theorem callExceptionHandler_logs (err : PyErr Ref) (h : ExceptionHandler Ref) :
    Logs IsAnswer (callExceptionHandler rt req err h) :=
  (logs_log trivial).bind fun _ => logs_effect _

theorem firstHandlerValue_logs (err : PyErr Ref) (hs : List (ExceptionHandler Ref)) :
    Logs IsAnswer (firstHandlerValue rt req err hs) := by
  induction hs with
  | nil => exact logs_pure _
  | cons h hs ih =>
    unfold firstHandlerValue
    split
    · refine (callExceptionHandler_logs rt req err h).attempt.bind fun res => ?_
      split
      · exact ih
      · exact logs_pure _
    · exact ih

theorem answerByHandler_logs (err : PyErr Ref) :
    Logs IsAnswer (answerByHandler rt req snap err) := by
  have hawait (res : PyVal Ref) (isAsync : Bool) :
      Logs IsAnswer (awaitHandlerValue rt res isAsync) := by
    unfold awaitHandlerValue
    split
    · split
      · exact (logs_effect _).attempt
      · exact logs_pure _
    · exact logs_pure _
  refine (firstHandlerValue_logs rt req err _).bind fun first => ?_
  unfold answerFrom
  split
  · exact logs_pure _
  · refine (hawait _ _).bind fun final => ?_
    split
    · exact (logs_sendInternalError rt req (fun _ => trivial) _).bind fun _ => logs_pure _
    · split
      · exact logs_pure _
      · refine (sendHandlerMapInline_logs rt req _ _).attempt.bind fun res => ?_
        split
        · exact logs_pure _
        · exact logs_pure _

theorem sendPythonError_logs (err : PyErr Ref) :
    Logs IsAnswer (sendPythonError rt req snap err) := by
  refine (answerByHandler_logs rt req snap err).bind fun answered => ?_
  split
  · exact logs_pure _
  · exact logs_sendErrorFallback rt req (fun _ => trivial) err

theorem answerByHandlerSync_logs (err : PyErr Ref) (hs : List (ExceptionHandler Ref)) :
    Logs IsAnswer (answerByHandlerSync rt req err hs) := by
  induction hs with
  | nil => exact logs_pure _
  | cons h hs ih =>
    unfold answerByHandlerSync
    split
    · refine (callExceptionHandler_logs rt req err h).attempt.bind fun res => ?_
      split
      · exact ih
      · split
        · exact ih
        · exact (orRaise_logs (sendHandlerMapInline_logs rt req _ _)).bind fun _ => logs_pure _
    · exact ih

theorem sendPythonErrorSync_logs (err : PyErr Ref) :
    Logs IsAnswer (sendPythonErrorSync rt req snap err) := by
  refine (answerByHandlerSync_logs rt req err _).bind fun answered => ?_
  split
  · exact logs_pure _
  · exact logs_sendErrorFallback rt req (fun _ => trivial) err

theorem failWith_logs {α : Type} (err : PyErr Ref) :
    Logs IsAnswer (failWith rt req snap err : Dispatch m Ref W α) :=
  (sendPythonError_logs rt req snap err).bind fun _ => logs_exit _

theorem respondOrFail_logs {α : Type} (v : PyVal Ref) :
    Logs IsAnswer (respondOrFail rt req snap v : Dispatch m Ref W α) := by
  refine (respondWith_logs rt req snap v).attempt.bind fun res => ?_
  split
  · exact logs_exit _
  · exact failWith_logs rt req snap _

end OxyRoute
