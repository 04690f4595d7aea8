import OxyRoute.Native.JsonFallback
import OxyRoute.Streaming.SseEvents

/-!
# Streams of text and of JSON lines

What `stream_text` sends on either path when its iterator may raise, and how the lines of
`stream_jsonl` are found again.

## Main definitions

- `leading`, `firstError` — the items before the first error, and that error
- `SendsAs` — a helper ends with this result and the transport has been given this text
- `jsonLines` — the lines of `stream_jsonl`

## Main results

- `streamText_paths` — the two paths of `stream_text`
- `streamJsonl_lines` — one line for each item
-/

namespace OxyRoute

open JsonText Routine

variable {m : Matchit} {Ref W : Type}

/-- The values before the first error. -/
def leading {ε α : Type} : List (Except ε α) → List α
  | .ok a :: l => a :: leading l
  | _ => []

/-- The first error. -/
def firstError {ε α : Type} : List (Except ε α) → Option ε
  | [] => none
  | .ok _ :: l => firstError l
  | .error e :: _ => some e

/-- The texts one after the other. -/
def concat (texts : List String) : String := String.ofList (texts.flatMap String.toList)

theorem concat_cons (s : String) (texts : List String) :
    concat (s :: texts) = s ++ concat texts := by
  rw [concat, List.flatMap_cons, String.ofList_append, String.ofList_toList]
  rfl

/-- An iterator that yields these texts, up to the first error. -/
def textSteps (steps : List (Except (PyErr Ref) String)) : Items m Ref W :=
  steps.map fun r w => (r.map PyVal.text, w)

/-- The value, if there is no error. -/
def valueOr {ε α : Type} (a : α) : Option ε → Except ε α
  | none => .ok a
  | some e => .error e

/-- From every world the computation ends with the result, and the transport has been given the
text. -/
def SendsAs (emitted : W → String) (c : PyResult m Ref W (PyVal Ref)) (text : String)
    (result : Except (PyErr Ref) (PyVal Ref)) : Prop :=
  ∀ w, ∃ w' l, c.run w = ⟨result, w', l⟩ ∧ restPart emitted w' = restPart emitted w ++ text

section

variable {rt : Runtime m Ref W} {tr : Transport m Ref W} {protocol : Ref} {status : ℕ}
  {headers : HeaderPairs} {contentType : String} {emitted : W → String}

/-- The stream is given the texts before the first error. -/
theorem forEach_textSteps (hcarries : Carries rt tr protocol status headers emitted) (stream : Ref)
    (steps : List (Except (PyErr Ref) String)) (w : World m Ref W) :
    ∃ w' l, (forEach (fun chunk => Routine.effect (tr.sendStr stream chunk))
        (textSteps steps)).run w = ⟨valueOr () (firstError steps), w', l⟩ ∧
      restPart emitted w' = restPart emitted w ++ concat (leading steps) := by
  induction steps generalizing w with
  | nil => exact ⟨w, [], rfl, String.append_empty.symm⟩
  | cons step steps ih =>
    cases step with
    | error e => exact ⟨w, [], rfl, String.append_empty.symm⟩
    | ok s =>
      have hutf8 : PyStr.surrogates ⟨s, false⟩ = false := rfl
      obtain ⟨w₁, hsend, hemit⟩ := hcarries.sendStr stream hutf8 w
      obtain ⟨w₂, l, hrest, hemitted⟩ := ih w₁
      have hbody : (Routine.effect (tr.sendStr stream (.text s)) : PyResult m Ref W Unit).run w =
          ⟨.ok (), w₁, []⟩ := by
        rw [effect_run, PyVal.text, hsend]
      refine ⟨w₂, l, ?_, ?_⟩
      · exact (bind_run_ok hbody _).trans (congrArg (Ending.after []) hrest)
      · rw [hemitted, hemit, leading, concat_cons, String.append_assoc]

variable (rt) in
/-- The texts are gathered, or the first error is raised. -/
theorem gather_textSteps (steps : List (Except (PyErr Ref) String)) (w : World m Ref W) :
    (gather .ok (textSteps steps) : PyResult m Ref W (List (PyVal Ref))).run w =
      ⟨valueOr ((leading steps).map PyVal.text) (firstError steps), w, []⟩ := by
  induction steps with
  | nil => rfl
  | cons step steps ih =>
    cases step with
    | error e => rfl
    | ok s =>
      have hrun : (gather .ok (textSteps (.ok s :: steps)) :
          PyResult m Ref W (List (PyVal Ref))).run w =
          ((gather .ok (textSteps steps) >>= fun rest =>
            (pure (PyVal.text s :: rest) : PyResult m Ref W (List (PyVal Ref)))).run w).after [] :=
        rfl
      rw [hrun, Ending.after_nil]
      cases hfirst : firstError steps with
      | none =>
        rw [hfirst] at ih
        rw [bind_run_ok ih, firstError, hfirst]
        rfl
      | some e =>
        rw [hfirst] at ih
        rw [bind_run_error ih, firstError, hfirst]
        rfl

theorem joinStrs_text (py : Inspection Ref) (i : ℕ) (texts : List String) :
    joinStrs py i (texts.map PyVal.text) = .ok ⟨concat texts, false⟩ := by
  induction texts generalizing i with
  | nil => rfl
  | cons s texts ih =>
    rw [List.map_cons, PyVal.text, joinStrs, ih, concat_cons]
    rfl

/-- **Both paths of `stream_text`.** An iterator that yields texts, and may then raise: the result
is the same on both paths, and if nothing is raised both have sent the same text. If it raises, the
path with `response_stream` has sent the texts before, and the other one nothing. -/
theorem streamText_paths
    (hcarries : Carries rt tr protocol status (("content-type", contentType) :: headers) emitted)
    (hstream : tr.responseStream.isSome = true) (steps : List (Except (PyErr Ref) String)) :
    SendsAs emitted (streamText rt tr protocol (textSteps steps) status headers contentType)
      (concat (leading steps)) (valueOr (.object (tr.streamDone status)) (firstError steps)) ∧
    SendsAs emitted (streamText rt { tr with responseStream := none } protocol (textSteps steps)
        status headers contentType)
      (if firstError steps = none then concat (leading steps) else "")
      (valueOr (.object (tr.streamDone status)) (firstError steps)) := by
  constructor
  · intro w
    obtain ⟨f, hf⟩ := Option.isSome_iff_exists.mp hstream
    obtain ⟨stream, w₁, hstart, hemit₁⟩ := hcarries.responseStream f hf w
    obtain ⟨w₂, l, hfeed, hemit₂⟩ := forEach_textSteps hcarries stream steps w₁
    have hopen : (Routine.effect (f status (("content-type", contentType) :: headers)) :
        PyResult m Ref W Ref).run w = ⟨.ok stream, w₁, []⟩ := by
      rw [effect_run, hstart]
    rw [(streamText_streams rt tr protocol (textSteps steps) status headers contentType).streamed
      f hf]
    refine ⟨w₂, l, ?_, by rw [hemit₂, hemit₁]⟩
    refine (bind_run_ok hopen _).trans ?_
    rw [Ending.after_nil]
    cases hfirst : firstError steps with
    | none =>
      rw [hfirst] at hfeed
      refine (bind_run_ok hfeed _).trans ?_
      rw [pure_run, Ending.after, List.append_nil]
      rfl
    | some e =>
      rw [hfirst] at hfeed
      exact bind_run_error hfeed _
  · intro w
    have hgather := gather_textSteps steps w
    rw [(streamText_streams rt { tr with responseStream := none } protocol (textSteps steps) status
      headers contentType).gathered rfl]
    cases hfirst : firstError steps with
    | some e =>
      rw [hfirst] at hgather
      exact ⟨w, [], bind_run_error hgather _, String.append_empty.symm⟩
    | none =>
      rw [hfirst] at hgather
      have hutf8 : PyStr.surrogates ⟨concat (leading steps), false⟩ = false := rfl
      obtain ⟨w₁, hsend, hemit⟩ := hcarries.respond hutf8 w
      have hrespond : (Routine.effect (rt.respond protocol (.responseStr status
          (("content-type", contentType) :: headers) ⟨concat (leading steps), false⟩)) :
            PyResult m Ref W Unit).run w = ⟨.ok (), w₁, []⟩ := by
        rw [effect_run, hsend]
      refine ⟨w₁, [], ?_, by rw [if_pos rfl, hemit]⟩
      refine (bind_run_ok hgather _).trans ?_
      rw [joinStrs_text, Ending.after_nil]
      exact bind_run_ok hrespond _

end

/-- An iterator that raises after a text. -/
theorem broken_text_sent :
    SendsAs id (streamText keepingRuntime keepingTransport "protocol"
        (textSteps [.ok "a", .error (.runtimeError "gone")]) 200 [] "text/plain")
      "a" (.error (.runtimeError "gone")) ∧
    SendsAs id (streamText keepingRuntime { keepingTransport with responseStream := none }
        "protocol" (textSteps [.ok "a", .error (.runtimeError "gone")]) 200 [] "text/plain")
      "" (.error (.runtimeError "gone")) :=
  streamText_paths (keepingTransport_carries 200 _) rfl [.ok "a", .error (.runtimeError "gone")]

-- ════════════════════════════════════════════════════════════════════════
-- Lines
-- ════════════════════════════════════════════════════════════════════════

/-- A string in quotes has no line feed. -/
theorem stringToken_oneLine {t : List Char} {s : String} (h : StringToken t s) : '\n' ∉ t := by
  have hpieces {s : List Char} {p : List JsonText.Piece × List Char} (h : readPieces s = some p)
      (hp : '\n' ∉ p.2) : '\n' ∉ s := by
    have hcons {piece : JsonText.Piece} {s : List Char} {p : List JsonText.Piece × List Char}
        (ih : ∀ {p}, readPieces s = some p → '\n' ∉ p.2 → '\n' ∉ s)
        (h : consPiece piece (readPieces s) = some p) (hp : '\n' ∉ p.2) : '\n' ∉ s := by
      obtain ⟨q, hq, rfl⟩ := Option.map_eq_some_iff.mp h
      exact ih hq hp
    have hhex {c : Char} {n : ℕ} (h : hexValue c = some n) : '\n' ≠ c := by
      rintro rfl
      cases h
    fun_induction readPieces s generalizing p with
    | case1 => cases h
    | case2 s =>
      cases h
      exact List.not_mem_cons_of_ne_of_not_mem (by decide) hp
    | case3 a b c d s ih =>
      obtain ⟨n, hn, h⟩ := Option.bind_eq_some_iff.mp h
      obtain ⟨va, ha, hn⟩ := Option.bind_eq_some_iff.mp hn
      obtain ⟨vb, hb, hn⟩ := Option.bind_eq_some_iff.mp hn
      obtain ⟨vc, hc, hn⟩ := Option.bind_eq_some_iff.mp hn
      obtain ⟨vd, hd, -⟩ := Option.bind_eq_some_iff.mp hn
      have hrest := hcons ih h hp
      simp only [List.mem_cons, not_or]
      exact ⟨by decide, by decide, hhex ha, hhex hb, hhex hc, hhex hd, hrest⟩
    | case4 c s hu ih =>
      obtain ⟨c', hc', h⟩ := Option.bind_eq_some_iff.mp h
      have hne : '\n' ≠ c := by
        rintro rfl
        cases hc'
      exact List.not_mem_cons_of_ne_of_not_mem (by decide)
        (List.not_mem_cons_of_ne_of_not_mem hne (hcons ih h hp))
    | case5 c s hquote hu hescape hbad => cases h
    | case6 c s hquote hu hescape hgood ih =>
      have hne : '\n' ≠ c := by
        rintro rfl
        exact hgood (.inl (by decide))
      exact List.not_mem_cons_of_ne_of_not_mem hne (hcons ih h hp)
  obtain ⟨t', rfl, ht⟩ := h
  obtain ⟨p, hp, heq⟩ := Option.map_eq_some_iff.mp ht
  refine List.not_mem_cons_of_ne_of_not_mem (by decide) (hpieces hp ?_)
  rw [(Prod.mk.inj heq).2]
  exact List.not_mem_nil

/-- A number has no line feed. -/
theorem number_oneLine {t : List Char} {j : Json} (h : number t = some j) : '\n' ∉ t :=
  fun hmem => absurd ((isNumber_of_number h).chars.1 _ hmem) (by decide)

theorem separated_oneLine {ts : List (List Char)} (h : ∀ t ∈ ts, '\n' ∉ t) :
    '\n' ∉ separated ts := by
  have hfollowing {ts : List (List Char)} (h : ∀ t ∈ ts, '\n' ∉ t) : '\n' ∉ following ts := by
    intro hmem
    obtain ⟨t, ht, hmem⟩ := List.mem_flatMap.mp hmem
    simp only [List.mem_cons, Char.reduceEq, false_or] at hmem
    exact h t ht hmem
  cases ts with
  | nil => exact List.not_mem_nil
  | cons t ts =>
    rw [separated, List.mem_append, not_or]
    exact ⟨h t List.mem_cons_self, hfollowing fun t' ht' => h t' (List.mem_cons_of_mem t ht')⟩

/-- What holds of whatever is related holds of every related item. -/
theorem forall_of_forall₂ {α β : Type} {R : α → β → Prop} {P : β → Prop} {as : List α}
    {bs : List β} (h : List.Forall₂ R as bs) (hP : ∀ a b, R a b → P b) : ∀ b ∈ bs, P b := by
  induction h with
  | nil => exact fun b hb => absurd hb List.not_mem_nil
  | cons hab _ ih => exact List.forall_mem_cons.mpr ⟨hP _ _ hab, ih⟩

variable {e : PyEncoder}

theorem dumpsKey_oneLine {k : PyVal Ref} {t : List Char} (h : dumpsKey e k = some t) :
    '\n' ∉ t := by
  obtain ⟨key, hkey⟩ := dumpsKey_token h
  exact stringToken_oneLine hkey

/-- A text of `json.dumps` has no line feed. -/
theorem dumps_oneLine {v : PyVal Ref} (hdoubles : Doubles v) {t : List Char}
    (h : dumps e v = some t) : '\n' ∉ t := by
  have hbracketed {c d : Char} {ts : List (List Char)} (hc : '\n' ≠ c) (hd : '\n' ≠ d)
      (hts : ∀ t ∈ ts, '\n' ∉ t) : '\n' ∉ c :: (separated ts ++ [d]) := by
    simp only [List.mem_cons, List.mem_append, List.not_mem_nil, or_false, not_or]
    exact ⟨hc, separated_oneLine hts, hd⟩
  induction v using PyVal.inductionOn generalizing t with
  | none =>
    cases h
    decide
  | bool b =>
    cases h
    cases b <;> decide
  | int n =>
    cases h
    exact number_oneLine (number_intChars n)
  | float x =>
    cases h
    cases x with
    | finite q =>
      obtain ⟨j, hj⟩ := e.float_token q (hdoubles 0 q (.root _))
      exact number_oneLine hj
    | nan => exact (by decide : '\n' ∉ "NaN".toList)
    | inf neg =>
      cases neg with
      | false => exact (by decide : '\n' ∉ "Infinity".toList)
      | true => exact (by decide : '\n' ∉ "-Infinity".toList)
  | str s =>
    cases h
    obtain ⟨k, hk⟩ := e.str_token s
    exact stringToken_oneLine hk
  | list items ih =>
    obtain ⟨ts, hts, rfl⟩ := Option.map_eq_some_iff.mp h
    refine hbracketed (by decide) (by decide) (forall_of_forall₂ (dumpsItems_eq hts) ?_)
    exact fun v t h => ih v h.1 (fun d q hq => hdoubles (d + 1) q (.list h.1 hq)) h.2
  | tuple items ih =>
    obtain ⟨ts, hts, rfl⟩ := Option.map_eq_some_iff.mp h
    refine hbracketed (by decide) (by decide) (forall_of_forall₂ (dumpsItems_eq hts) ?_)
    exact fun v t h => ih v h.1 (fun d q hq => hdoubles (d + 1) q (.tuple h.1 hq)) h.2
  | dict entries ih =>
    obtain ⟨ts, hts, rfl⟩ := Option.map_eq_some_iff.mp h
    refine hbracketed (by decide) (by decide) (forall_of_forall₂ (dumpsEntries_eq hts) ?_)
    rintro entry t ⟨he, key, t', hkey, ht', rfl⟩
    have hvalue := ih entry he (fun d q hq => hdoubles (d + 1) q (.dict he hq)) ht'
    simp only [List.mem_append, List.mem_cons, Char.reduceEq, false_or, not_or]
    exact ⟨dumpsKey_oneLine hkey, hvalue⟩
  | bytes | response | object => cases h

-- ════════════════════════════════════════════════════════════════════════
-- JSON lines
-- ════════════════════════════════════════════════════════════════════════

theorem leading_map {ε α β : Type} (f : α → β) (l : List (Except ε α)) :
    leading (l.map (Except.map f)) = (leading l).map f := by
  induction l with
  | nil => rfl
  | cons r l ih =>
    cases r with
    | ok a => exact congrArg (f a :: ·) ih
    | error e => rfl

theorem firstError_map {ε α β : Type} (f : α → β) (l : List (Except ε α)) :
    firstError (l.map (Except.map f)) = firstError l := by
  induction l with
  | nil => rfl
  | cons r l ih =>
    cases r with
    | ok a => exact ih
    | error e => rfl

/-- The lines of `stream_jsonl`: the texts of the items before one that has none. -/
def jsonLines (rt : Runtime m Ref W) (items : List (PyVal Ref)) : List String :=
  leading (items.map rt.jsonDumps)

/-- The lines, each with a line feed after it. -/
def jsonlText (lines : List String) : String := concat (lines.map (· ++ "\n"))

theorem splitOn_jsonlText {lines : List String} (h : ∀ line ∈ lines, '\n' ∉ line.toList) :
    (jsonlText lines).toList.splitOn '\n' = lines.map String.toList ++ [[]] := by
  induction lines with
  | nil => rfl
  | cons line lines ih =>
    obtain ⟨hline, hlines⟩ := List.forall_mem_cons.mp h
    have htext : (jsonlText (line :: lines)).toList =
        line.toList ++ '\n' :: (jsonlText lines).toList := by
      rw [jsonlText, List.map_cons, concat_cons, String.toList_append, String.toList_append,
        List.append_assoc]
      rfl
    rw [htext, List.splitOn_append_cons_self_of_not_mem hline, ih hlines, List.map_cons,
      List.cons_append]

section

variable {rt : Runtime m Ref W} {tr : Transport m Ref W} {protocol : Ref} {status : ℕ}
  {headers : HeaderPairs} {emitted : W → String}

theorem jsonlItems_given (items : List (PyVal Ref)) :
    jsonlItems rt (given items) =
      textSteps ((items.map rt.jsonDumps).map (Except.map (· ++ "\n"))) := by
  rw [jsonlItems, given, textSteps, List.map_map, List.map_map, List.map_map]
  refine List.map_congr_left fun v _ => funext fun w => ?_
  show ((rt.jsonDumps v).map fun line => PyVal.text (line ++ "\n"), w) = _
  rw [Function.comp_apply, Function.comp_apply]
  cases rt.jsonDumps v with
  | ok line => rfl
  | error e => rfl

/-- The lines are the texts of the first items, in order. -/
theorem jsonLines_items (hdumps : DumpsWith e rt.toInspection) (items : List (PyVal Ref)) :
    List.Forall₂ (fun v line => v ∈ items ∧ dumps e v = some line.toList)
      (items.take (jsonLines rt items).length) (jsonLines rt items) := by
  induction items with
  | nil => exact .nil
  | cons v items ih =>
    unfold jsonLines at ih ⊢
    rw [List.map_cons]
    cases hv : rt.jsonDumps v with
    | error err => exact .nil
    | ok line =>
      rw [leading, List.length_cons, List.take_succ_cons]
      refine .cons ⟨List.mem_cons_self, hdumps v line hv⟩ (ih.imp ?_)
      exact fun v' line' h => ⟨List.mem_cons_of_mem v h.1, h.2⟩

/-- **JSON lines.** `stream_jsonl` sends a text that, split at line feeds, is one line for each item
up to the first that `json.dumps` refuses, in order, and then nothing: no line is cut or joined
with another. Each line is what `json.dumps` makes of its item, and is JSON exactly if the floats in
it are finite. With `response_stream` these lines have been sent also where an item is refused;
without it nothing has then. -/
theorem streamJsonl_lines
    (hcarries : Carries rt tr protocol status
      (("content-type", "application/x-ndjson; charset=utf-8") :: headers) emitted)
    (hstream : tr.responseStream.isSome = true) (hdumps : DumpsWith e rt.toInspection)
    (items : List (PyVal Ref)) (hdoubles : ∀ v ∈ items, Doubles v) :
    SendsAs emitted (streamJsonl rt tr protocol (given items) status headers)
      (jsonlText (jsonLines rt items))
      (valueOr (.object (tr.streamDone status)) (firstError (items.map rt.jsonDumps))) ∧
    SendsAs emitted
      (streamJsonl rt { tr with responseStream := none } protocol (given items) status headers)
      (if firstError (items.map rt.jsonDumps) = none then jsonlText (jsonLines rt items) else "")
      (valueOr (.object (tr.streamDone status)) (firstError (items.map rt.jsonDumps))) ∧
    (jsonlText (jsonLines rt items)).toList.splitOn '\n' =
      (jsonLines rt items).map String.toList ++ [[]] ∧
    List.Forall₂ (fun v line => dumps e v = some line.toList ∧
        (WellFormed line.toList ↔ AllFinite v))
      (items.take (jsonLines rt items).length) (jsonLines rt items) := by
  have hlines := jsonLines_items hdumps items
  have hpaths := streamText_paths hcarries hstream
    ((items.map rt.jsonDumps).map (Except.map (· ++ "\n")))
  rw [leading_map, firstError_map, ← jsonlItems_given] at hpaths
  refine ⟨hpaths.1, hpaths.2, ?_, ?_⟩
  · exact splitOn_jsonlText
      (forall_of_forall₂ hlines fun v line h => dumps_oneLine (hdoubles v h.1) h.2)
  · exact hlines.imp fun v line h => ⟨h.2, (dumps_reading (hdoubles v h.1) h.2).wellFormed_iff⟩

end

/-- A runtime with `json.dumps` that keeps what is sent. -/
def dumpingRuntime : Runtime segmentMatcher String String :=
  { keepingRuntime with toInspection := dumpsInspection }

/-- A list, and an object that has no JSON text. -/
theorem refused_item_sent : jsonLines dumpingRuntime [.list [.int 1], .object "x"] = ["[1]"] ∧
    SendsAs id (streamJsonl dumpingRuntime keepingTransport "protocol"
        (given [.list [.int 1], .object "x"]) 200 [])
      (jsonlText (jsonLines dumpingRuntime [.list [.int 1], .object "x"]))
      (.error (.typeError "not JSON serializable")) := by
  have hcarries : Carries dumpingRuntime keepingTransport "protocol" 200
      [("content-type", "application/x-ndjson; charset=utf-8")] id :=
    let h := keepingTransport_carries 200 [("content-type", "application/x-ndjson; charset=utf-8")]
    ⟨h.respond, h.responseStream, h.sendStr⟩
  have hdoubles : ∀ v ∈ [.list [.int 1], .object "x"], Doubles v := by
    refine List.forall_mem_cons.mpr ⟨one_doubles, List.forall_mem_singleton.mpr ?_⟩
    rintro d q ⟨⟩
  exact ⟨rfl, (streamJsonl_lines hcarries rfl dumpsInspection_dumps _ hdoubles).1⟩

end OxyRoute
