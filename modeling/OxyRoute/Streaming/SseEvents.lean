import OxyRoute.Lib.Decimal
import OxyRoute.Lib.EventStream
import OxyRoute.Native.Dispatch
import OxyRoute.Streaming.Helpers

/-!
# Events as a client reads them

The text of an event is a block of fields, and a client reads a stream of such blocks back as one
event each. Its data are the lines of `str.splitlines()`, which are not the lines of an event
stream: the data arrive as they were if they have none of the other line boundaries and do not
end a line.

## Main definitions

- `sseFields` — the fields of an event
- `Carries` — a transport that takes texts and keeps them
- `dispatchedFrom` — the events that a client should see
- `DeliversData` — an event arrives with its data

## Main results

- `send_sse_dispatches` — one event for each item, on both paths
- `formatSseEvent_delivers_iff` — which data arrive as they were
-/

namespace OxyRoute

open Routine EventStream

variable {m : Matchit} {Ref W : Type}

-- ════════════════════════════════════════════════════════════════════════
-- The fields of an event
-- ════════════════════════════════════════════════════════════════════════

/-- A field that may be missing; an empty one is. -/
def optionalField (name : String) (v : Option PyStr) : List (List Char × List Char) :=
  match v with
  | none => []
  | some s => if s.text = "" then [] else [(name.toList, s.text.toList)]

theorem isName_event : IsName "event".toList := .of_all (by decide) rfl

theorem isName_id : IsName "id".toList := .of_all (by decide) rfl

theorem isName_retry : IsName "retry".toList := .of_all (by decide) rfl

theorem isName_data : IsName "data".toList := .of_all (by decide) rfl

/-- The lines of the data; empty data have one. -/
def dataLines (data : String) : List String :=
  if splitLines data = [] then [""] else splitLines data

/-- The fields before the data. -/
def headFields (ev : SseEvent) : List (List Char × List Char) :=
  optionalField "event" ev.event ++ optionalField "id" ev.id ++
    ev.retry.toList.map fun n => ("retry".toList, (toString n).toList)

/-- The fields of an event, in order. -/
def sseFields (ev : SseEvent) : List (List Char × List Char) :=
  headFields ev ++ (dataLines ev.data.text).map fun l => ("data".toList, l.toList)

/-- A text without an end of line. -/
def OneLine (s : List Char) : Prop := ∀ c ∈ s, isEol c = false

theorem fieldLine_eq_ok {name : String} {v : Option PyStr} {ls : List String}
    (h : (fieldLine name v : Except (PyErr Ref) _) = .ok ls) :
    ls.map String.toList = (optionalField name v).map writeField ∧
      ∀ f ∈ optionalField name v, f.1 = name.toList ∧ OneLine f.2 := by
  cases v with
  | none =>
    cases h
    exact ⟨rfl, by simp [optionalField]⟩
  | some s =>
    rw [fieldLine] at h
    by_cases hs : s.text = ""
    · rw [if_pos hs] at h
      cases h
      rw [optionalField, if_pos hs]
      exact ⟨rfl, by simp⟩
    · rw [if_neg hs] at h
      rw [optionalField, if_neg hs]
      by_cases hc : containsCrlf s.text = true
      · rw [if_pos hc] at h
        cases h
      · rw [if_neg hc] at h
        cases h
        refine ⟨by simp [writeField], fun f hf => ?_⟩
        rw [List.mem_singleton.mp hf]
        refine ⟨rfl, fun c hin => ?_⟩
        rw [Bool.not_eq_true, containsCrlf, List.any_eq_false] at hc
        exact Bool.eq_false_iff.mpr (hc c hin)

theorem isEol_of_mem_toString {n : ℤ} : OneLine (toString n).toList := by
  have hdigits : ∀ {k : ℕ} {c : Char}, c ∈ Nat.toDigits 10 k → isEol c = false := by
    intro k c hc
    have hdigit := Nat.isDigit_of_mem_toDigits (by decide) (by decide) hc
    by_contra he
    rw [Bool.not_eq_false, isEol, Bool.or_eq_true, beq_iff_eq, beq_iff_eq] at he
    rcases he with rfl | rfl
    · cases hdigit
    · cases hdigit
  intro c hc
  rw [Decimal.toList_toString, Decimal.intChars] at hc
  split at hc
  · exact hdigits hc
  · rcases List.mem_cons.mp hc with rfl | hc
    · rfl
    · exact hdigits hc

theorem not_isLineBoundary_of_mem {line s : List Char}
    (hline : ∀ c ∈ line, isLineBoundary c = false) {l : List Char} (hl : l ∈ splitLinesFrom line s) :
    ∀ c ∈ l, isLineBoundary c = false := by
  induction line, s using splitLinesFrom.induct with
  | case1 => cases hl
  | case2 line hne =>
    rw [splitLinesFrom.eq_2 _ hne] at hl
    rw [List.mem_singleton.mp hl]
    simpa using hline
  | case3 line rest ih =>
    rw [splitLinesFrom] at hl
    rcases List.mem_cons.mp hl with rfl | hl
    · simpa using hline
    · exact ih (by simp) hl
  | case4 line c rest hcrlf hc ih =>
    rw [splitLinesFrom.eq_4 _ _ _ hcrlf, if_pos hc] at hl
    rcases List.mem_cons.mp hl with rfl | hl
    · simpa using hline
    · exact ih (by simp) hl
  | case5 line c rest hcrlf hc ih =>
    rw [splitLinesFrom.eq_4 _ _ _ hcrlf, if_neg hc] at hl
    refine ih ?_ hl
    intro d hd
    rcases List.mem_cons.mp hd with rfl | hd
    · exact Bool.eq_false_iff.mpr hc
    · exact hline d hd

theorem isLineBoundary_of_isEol {c : Char} (h : isEol c = true) : isLineBoundary c = true := by
  rw [isEol, Bool.or_eq_true, beq_iff_eq, beq_iff_eq] at h
  rcases h with rfl | rfl
  · rfl
  · rfl

/-- The lines of the data have no line boundary of any kind. -/
theorem dataLines_boundary {data l : String} (h : l ∈ dataLines data) :
    ∀ c ∈ l.toList, isLineBoundary c = false := by
  rw [dataLines] at h
  split at h
  · rw [List.mem_singleton.mp h]
    simp
  · obtain ⟨l', hl', rfl⟩ := List.mem_map.mp h
    rw [String.toList_ofList]
    exact not_isLineBoundary_of_mem (by simp) hl'

theorem dataLines_oneLine {data l : String} (h : l ∈ dataLines data) : OneLine l.toList := by
  intro c hc
  by_contra he
  rw [Bool.not_eq_false] at he
  have hb := dataLines_boundary h c hc
  rw [isLineBoundary_of_isEol he] at hb
  cases hb

theorem dataLines_ne_nil (data : String) : dataLines data ≠ [] := by
  rw [dataLines]
  split
  · simp
  · assumption

-- ════════════════════════════════════════════════════════════════════════
-- The text of an event
-- ════════════════════════════════════════════════════════════════════════

theorem toList_joinWith {ls : List String} (h : ls ≠ []) :
    (Text.joinWith "\n" ls ++ "\n\n").toList =
      (ls.map String.toList).flatMap (· ++ ['\n']) ++ ['\n'] := by
  induction ls with
  | nil => exact absurd rfl h
  | cons l ls ih =>
    cases ls with
    | nil => simp [Text.joinWith]
    | cons l' ls =>
      rw [List.map_cons, List.flatMap_cons, List.append_assoc, ← ih (by simp)]
      simp [Text.joinWith]

/-- The `retry` and `data` lines of an event that is accepted. -/
theorem formatSseEvent_lines {ev : SseEvent} {chunk : PyStr}
    (h : (formatSseEvent ev : Except (PyErr Ref) PyStr) = .ok chunk) :
    ∃ event id retry data, (fieldLine "event" ev.event : Except (PyErr Ref) _) = .ok event ∧
      (fieldLine "id" ev.id : Except (PyErr Ref) _) = .ok id ∧
      retry = ev.retry.toList.map (fun n => "retry: " ++ toString n) ∧
      data = (dataLines ev.data.text).map ("data: " ++ ·) ∧
      chunk.text = Text.joinWith "\n" (event ++ id ++ retry ++ data) ++ "\n\n" := by
  obtain ⟨event, hevent, h⟩ := Except.of_bind_eq_ok h
  obtain ⟨id, hid, h⟩ := Except.of_bind_eq_ok h
  refine ⟨event, id, _, _, hevent, hid, rfl, rfl, ?_⟩
  rw [dataLines]
  cases hlines : splitLines ev.data.text with
  | nil =>
    cases hretry : ev.retry with
    | none =>
      simp only [hlines, hretry] at h
      cases h
      rfl
    | some n =>
      simp only [hlines, hretry] at h
      cases h
      rfl
  | cons l ls =>
    rw [if_neg (by simp)]
    cases hretry : ev.retry with
    | none =>
      simp only [hlines, hretry] at h
      cases h
      rfl
    | some n =>
      simp only [hlines, hretry] at h
      cases h
      rfl

/-- The text of an event is the block of its fields. -/
theorem formatSseEvent_eq_ok {ev : SseEvent} {chunk : PyStr}
    (h : (formatSseEvent ev : Except (PyErr Ref) PyStr) = .ok chunk) :
    chunk.text.toList = writeBlock (sseFields ev) ∧
      ∀ f ∈ sseFields ev, IsName f.1 ∧ OneLine f.2 := by
  obtain ⟨event, id, retry, data, hevent, hid, hretry, hdata, htext⟩ := formatSseEvent_lines h
  obtain ⟨hevent, heventLine⟩ := fieldLine_eq_ok hevent
  obtain ⟨hid, hidLine⟩ := fieldLine_eq_ok hid
  have hlines : (event ++ id ++ retry ++ data).map String.toList =
      (sseFields ev).map writeField := by
    rw [hretry, hdata, List.map_append, List.map_append, List.map_append, hevent, hid, sseFields,
      headFields]
    simp [writeField, Function.comp_def]
  have hne : event ++ id ++ retry ++ data ≠ [] := by
    rw [hdata]
    simp [dataLines_ne_nil]
  refine ⟨?_, fun f hf => ?_⟩
  · rw [htext, toList_joinWith hne, hlines, writeBlock, List.flatMap_map]
  · rw [sseFields, headFields] at hf
    rcases List.mem_append.mp hf with hf | hf
    · rcases List.mem_append.mp hf with hf | hf
      · rcases List.mem_append.mp hf with hf | hf
        · rw [(heventLine f hf).1]
          exact ⟨isName_event, (heventLine f hf).2⟩
        · rw [(hidLine f hf).1]
          exact ⟨isName_id, (hidLine f hf).2⟩
      · obtain ⟨n, -, rfl⟩ := List.mem_map.mp hf
        exact ⟨isName_retry, isEol_of_mem_toString⟩
    · obtain ⟨l, hl, rfl⟩ := List.mem_map.mp hf
      exact ⟨isName_data, dataLines_oneLine hl⟩

-- ════════════════════════════════════════════════════════════════════════
-- The events of a client
-- ════════════════════════════════════════════════════════════════════════

/-- The text of a field that may be missing. -/
def fieldText (v : Option PyStr) : List Char :=
  match v with
  | none => []
  | some s => s.text.toList

/-- The type of an event. -/
def sseType (ev : SseEvent) : List Char :=
  if fieldText ev.event = [] then defaultType else fieldText ev.event

/-- The last event id after an event: only one that is not empty is set. -/
def idAfter (ev : SseEvent) (lastId : List Char) : List Char :=
  if fieldText ev.id = [] then lastId else fieldText ev.id

/-- The data that arrive: the lines of `str.splitlines()`. -/
def delivered (data : String) : List Char :=
  List.intercalate ['\n'] ((dataLines data).map String.toList)

/-- The events a client should see, one for each. -/
def dispatchedFrom : List Char → List SseEvent → List EventStream.Event
  | _, [] => []
  | lastId, ev :: evs =>
    ⟨sseType ev, delivered ev.data.text, idAfter ev lastId⟩ :: dispatchedFrom (idAfter ev lastId) evs

/-- A client ignores an id with a NUL. -/
def PlainId (ev : SseEvent) : Prop := (fieldText ev.id).any (·.toNat = 0) = false

theorem optionalField_eq (name : String) (v : Option PyStr) :
    optionalField name v = if fieldText v = [] then [] else [(name.toList, fieldText v)] := by
  cases v with
  | none => rfl
  | some s => simp only [optionalField, fieldText, String.toList_eq_nil_iff]

/-- The fields before the data set the type and the id. -/
theorem after_headFields {st : EventStream.State} (htype : st.eventType = []) (ev : SseEvent) :
    ∃ lastId retry, (PlainId ev → lastId = idAfter ev st.lastEventId) ∧
      after st ((headFields ev).map fun f => .field f.1 f.2) =
        { st with eventType := fieldText ev.event, lastEventId := lastId, retry := retry } := by
  have hevent : after st ((optionalField "event" ev.event).map fun f => .field f.1 f.2) =
      { st with eventType := fieldText ev.event } := by
    rw [optionalField_eq]
    split
    · next h =>
      rw [h, ← htype]
      rfl
    · rfl
  have hafterId (st : EventStream.State) : ∃ lastId,
      (PlainId ev → lastId = idAfter ev st.lastEventId) ∧
      after st ((optionalField "id" ev.id).map fun f => .field f.1 f.2) =
        { st with lastEventId := lastId } := by
    rw [optionalField_eq, idAfter]
    split
    · exact ⟨st.lastEventId, fun _ => rfl, rfl⟩
    · show ∃ lastId, _ ∧ st.setField "id".toList (fieldText ev.id) = _
      rw [State.setField, if_neg (by decide), if_neg (by decide), if_pos rfl]
      by_cases hid : PlainId ev
      · rw [PlainId] at hid
        rw [hid]
        exact ⟨_, fun _ => rfl, rfl⟩
      · rw [if_pos (by simpa [PlainId] using hid)]
        exact ⟨st.lastEventId, fun h => absurd h hid, rfl⟩
  have hretry (st : EventStream.State) : ∃ retry,
      after st ((ev.retry.toList.map fun n => ("retry".toList, (toString n).toList)).map
        fun f => .field f.1 f.2) = { st with retry := retry } := by
    cases ev.retry with
    | none => exact ⟨st.retry, rfl⟩
    | some n =>
      show ∃ retry, st.setField "retry".toList (toString n).toList = _
      rw [State.setField, if_neg (by decide), if_neg (by decide), if_neg (by decide), if_pos rfl]
      split
      · exact ⟨_, rfl⟩
      · exact ⟨st.retry, rfl⟩
  obtain ⟨lastId, hid, hidEq⟩ := hafterId { st with eventType := fieldText ev.event }
  obtain ⟨retry, hretryEq⟩ :=
    hretry { st with eventType := fieldText ev.event, lastEventId := lastId }
  refine ⟨lastId, retry, hid, ?_⟩
  rw [headFields, List.map_append, List.map_append, after_append, after_append, hevent, hidEq]
  exact hretryEq

/-- A block of an event, read with empty buffers, dispatches the event and leaves the buffers
empty. -/
theorem read_sseFields (st : EventStream.State) (htype : st.eventType = []) (hdata : st.data = [])
    (ev : SseEvent) :
    ∃ lastId retry, (PlainId ev → lastId = idAfter ev st.lastEventId) ∧
      events st (blockLines (sseFields ev)) = [⟨sseType ev, delivered ev.data.text, lastId⟩] ∧
      after st (blockLines (sseFields ev)) = { lastEventId := lastId, retry := retry } := by
  obtain ⟨lastId, retry, hid, hhead⟩ := after_headFields htype ev
  have hvalues : (dataLines ev.data.text).map String.toList ≠ [] := by
    simp [dataLines_ne_nil]
  have hafter : after st ((sseFields ev).map fun f => .field f.1 f.2) =
      { eventType := fieldText ev.event
        data := ((dataLines ev.data.text).map String.toList).flatMap (· ++ ['\n'])
        lastEventId := lastId
        retry := retry } := by
    have hfields : (dataLines ev.data.text).map (fun l => ("data".toList, l.toList)) =
        ((dataLines ev.data.text).map String.toList).map fun v => ("data".toList, v) := by
      rw [List.map_map]
      rfl
    rw [sseFields, List.map_append, after_append, hhead, hfields, after_data, hdata]
    rfl
  refine ⟨lastId, retry, hid, ?_, ?_⟩
  · rw [events_blockLines, hafter]
    exact pending_of_data { eventType := fieldText ev.event, lastEventId := lastId, retry := retry }
      hvalues
  · rw [after_blockLines, hafter]
    rfl

/-- The lines of a stream of events are the blocks of the events. -/
theorem readLines_chunks {evs : List SseEvent}
    (hlines : ∀ ev ∈ evs, ∀ f ∈ sseFields ev, IsName f.1 ∧ OneLine f.2) :
    readLines (evs.flatMap fun ev => writeBlock (sseFields ev)) =
      evs.flatMap fun ev => blockLines (sseFields ev) := by
  induction evs with
  | nil => rfl
  | cons ev evs ih =>
    rw [List.flatMap_cons, List.flatMap_cons, readLines_writeBlock (hlines ev List.mem_cons_self),
      ih fun ev' hev' => hlines ev' (List.mem_cons_of_mem _ hev')]

/-- One event is dispatched for each block, whatever the last event id was before. -/
theorem events_blocks {evs : List SseEvent} (hids : ∀ ev ∈ evs, PlainId ev)
    (lastId : List Char) (retry : Option ℕ) :
    events { lastEventId := lastId, retry := retry }
      (evs.flatMap fun ev => blockLines (sseFields ev)) = dispatchedFrom lastId evs := by
  induction evs generalizing lastId retry with
  | nil => rfl
  | cons ev evs ih =>
    obtain ⟨lastId', retry', hid, hevents, hafter⟩ :=
      read_sseFields { lastEventId := lastId, retry := retry } rfl rfl ev
    rw [List.flatMap_cons, events_append, hevents, hafter,
      ih fun ev' hev' => hids ev' (List.mem_cons_of_mem _ hev'), hid (hids ev List.mem_cons_self)]
    rfl

/-- A stream of accepted events is read as one event for each. -/
theorem interpret_chunks {evs : List SseEvent}
    (hlines : ∀ ev ∈ evs, ∀ f ∈ sseFields ev, IsName f.1 ∧ OneLine f.2)
    (hids : ∀ ev ∈ evs, PlainId ev) :
    interpret (evs.flatMap fun ev => writeBlock (sseFields ev)) = dispatchedFrom [] evs := by
  have hmark : withoutMark (evs.flatMap fun ev => writeBlock (sseFields ev)) =
      evs.flatMap fun ev => writeBlock (sseFields ev) := by
    cases evs with
    | nil => rfl
    | cons ev evs =>
      exact withoutMark_writeBlock (fun f hf => (hlines ev List.mem_cons_self f hf).1) _
  rw [interpret, hmark, readLines_chunks hlines]
  exact events_blocks hids [] none

-- ════════════════════════════════════════════════════════════════════════
-- The two paths
-- ════════════════════════════════════════════════════════════════════════

/-- The event of an item: a `str` is one with these data and no other field. -/
def sseItem (sseEvent : Ref → Option SseEvent) (item : PyVal Ref) : Option SseEvent :=
  match item with
  | .str s => some ⟨s, none, none, none⟩
  | .object r => sseEvent r
  | _ => none

/-- An item that is not rejected: it has a chunk, which can be sent. -/
def Taken (sseEvent : Ref → Option SseEvent) (item : PyVal Ref) : Prop :=
  ∃ chunk, toSseChunk sseEvent item = .ok chunk ∧ chunk.surrogates = false

/-- An iterator over given items. -/
def given (items : List (PyVal Ref)) : Items m Ref W := items.map fun v w => (.ok v, w)

/-- The headers of `send_sse`. -/
def sseHeaders (headers : HeaderPairs) : HeaderPairs :=
  [("content-type", "text/event-stream; charset=utf-8"), ("cache-control", "no-cache"),
    ("connection", "keep-alive")] ++ headers

/-- A transport that takes a response with this status and these headers, and every text that has
a UTF-8 form. What it has been given is kept. -/
structure Carries (rt : Runtime m Ref W) (tr : Transport m Ref W) (protocol : Ref) (status : ℕ)
    (headers : HeaderPairs) (emitted : W → String) : Prop where
  respond : ∀ {body : PyStr}, body.surrogates = false → ∀ w, ∃ w',
    rt.respond protocol (.responseStr status headers body) w = (.ok (), w') ∧
      restPart emitted w' = restPart emitted w ++ body.text
  responseStream : ∀ f, tr.responseStream = some f → ∀ w, ∃ stream w',
    f status headers w = (.ok stream, w') ∧ restPart emitted w' = restPart emitted w
  sendStr : ∀ stream {s : PyStr}, s.surrogates = false → ∀ w, ∃ w',
    tr.sendStr stream (.str s) w = (.ok (), w') ∧
      restPart emitted w' = restPart emitted w ++ s.text

/-- `send_sse` returns, and the transport has been given the text. -/
def Emits (rt : Runtime m Ref W) (tr : Transport m Ref W) (protocol : Ref) (status : ℕ)
    (headers : HeaderPairs) (emitted : W → String) (items : List (PyVal Ref)) (text : String) :
    Prop :=
  ∀ w, ∃ w' l, (sendSse rt tr protocol (given items) status headers).run w =
      ⟨.ok (.object tr.sseDone), w', l⟩ ∧ restPart emitted w' = restPart emitted w ++ text

/-- The text of events. -/
def sseText (evs : List SseEvent) : String :=
  String.ofList (evs.flatMap fun ev => writeBlock (sseFields ev))

theorem sseText_cons (ev : SseEvent) (evs : List SseEvent) :
    sseText (ev :: evs) = String.ofList (writeBlock (sseFields ev)) ++ sseText evs :=
  String.ofList_append

theorem Taken.event {sseEvent : Ref → Option SseEvent} {item : PyVal Ref}
    (h : Taken sseEvent item) :
    ∃ ev chunk, sseItem sseEvent item = some ev ∧ toSseChunk sseEvent item = .ok chunk ∧
      chunk.surrogates = false ∧ chunk.text = String.ofList (writeBlock (sseFields ev)) ∧
      ∀ f ∈ sseFields ev, IsName f.1 ∧ OneLine f.2 := by
  obtain ⟨chunk, hchunk, hutf8⟩ := h
  have hformat : ∃ ev, sseItem sseEvent item = some ev ∧
      (formatSseEvent ev : Except (PyErr Ref) PyStr) = .ok chunk := by
    cases item with
    | str s => exact ⟨_, rfl, hchunk⟩
    | object r =>
      rw [toSseChunk] at hchunk
      cases hr : sseEvent r with
      | none =>
        rw [hr] at hchunk
        cases hchunk
      | some ev =>
        rw [hr] at hchunk
        exact ⟨ev, hr, hchunk⟩
    | _ => cases hchunk
  obtain ⟨ev, hitem, hev⟩ := hformat
  obtain ⟨htext, hlines⟩ := formatSseEvent_eq_ok hev
  refine ⟨ev, chunk, hitem, hchunk, hutf8, ?_, hlines⟩
  rw [← htext, String.ofList_toList]

section

variable {rt : Runtime m Ref W} {tr : Transport m Ref W} {protocol : Ref} {status : ℕ}
  {headers : HeaderPairs} {emitted : W → String} {items : List (PyVal Ref)}

theorem feedSse_given (hcarries : Carries rt tr protocol status headers emitted) (stream : Ref)
    (hitems : ∀ v ∈ items, Taken tr.sseEvent v) (w : World m Ref W) :
    ∃ w' l, (feedSse tr (given items) stream).run w = ⟨.ok (), w', l⟩ ∧
      restPart emitted w' =
        restPart emitted w ++ sseText (items.filterMap (sseItem tr.sseEvent)) := by
  induction items generalizing w with
  | nil => exact ⟨w, [], rfl, String.append_empty.symm⟩
  | cons v items ih =>
    obtain ⟨ev, chunk, hitem, hchunk, hutf8, htext, -⟩ := (hitems v List.mem_cons_self).event
    obtain ⟨w₁, hsend, hemit⟩ := hcarries.sendStr stream hutf8 w
    obtain ⟨w₂, l, hrest, hemitted⟩ := ih (fun u hu => hitems u (List.mem_cons_of_mem v hu)) w₁
    have hbody : (Routine.ofExcept (toSseChunk tr.sseEvent v) >>= fun chunk =>
        (Routine.effect (tr.sendStr stream (.str chunk)) : PyResult m Ref W Unit)).run w =
          ⟨.ok (), w₁, []⟩ := by
      rw [hchunk]
      show (Routine.effect (tr.sendStr stream (.str chunk))).run w = _
      rw [effect_run, hsend]
    have hrun : (feedSse tr (given (v :: items)) stream).run w =
        ((feedSse tr (given items) stream).run w₁).after [] :=
      bind_run_ok hbody _
    refine ⟨w₂, l, ?_, ?_⟩
    · rw [hrun, hrest, Ending.after_nil]
    · rw [hemitted, hemit, List.filterMap_cons_some hitem, sseText_cons, htext, String.append_assoc]

variable (rt) in
/-- The gathered chunks are joined to the text of the events. -/
theorem gather_given (hitems : ∀ v ∈ items, Taken tr.sseEvent v) (w : World m Ref W) :
    ∃ chunks : List PyStr,
      (gather (fun item => (toSseChunk tr.sseEvent item).map PyVal.str) (given items) :
        PyResult m Ref W (List (PyVal Ref))).run w = ⟨.ok (chunks.map PyVal.str), w, []⟩ ∧
      ∀ i, joinStrs rt.toInspection i (chunks.map PyVal.str) =
        .ok ⟨sseText (items.filterMap (sseItem tr.sseEvent)), false⟩ := by
  induction items with
  | nil => exact ⟨[], rfl, fun _ => rfl⟩
  | cons v items ih =>
    obtain ⟨ev, chunk, hitem, hchunk, hutf8, htext, -⟩ := (hitems v List.mem_cons_self).event
    obtain ⟨chunks, hrest, hjoin⟩ := ih fun u hu => hitems u (List.mem_cons_of_mem v hu)
    refine ⟨chunk :: chunks, ?_, fun i => ?_⟩
    · have hrun : (gather (fun item => (toSseChunk tr.sseEvent item).map PyVal.str)
          (given (v :: items)) : PyResult m Ref W (List (PyVal Ref))).run w =
          ((Routine.ofExcept ((toSseChunk tr.sseEvent v).map PyVal.str) >>= fun chunk =>
            gather (fun item => (toSseChunk tr.sseEvent item).map PyVal.str) (given items) >>=
              fun rest => (pure (chunk :: rest) : PyResult m Ref W (List (PyVal Ref)))).run w).after
            [] := rfl
      rw [hrun, hchunk, Ending.after_nil]
      exact bind_run_ok hrest _
    · rw [List.map_cons, joinStrs, hjoin, List.filterMap_cons_some hitem, sseText_cons, ← htext,
        hutf8]
      rfl

/-- Either path emits the text of the events. -/
theorem sendSse_emits (hcarries : Carries rt tr protocol status (sseHeaders headers) emitted)
    (hitems : ∀ v ∈ items, Taken tr.sseEvent v) :
    Emits rt tr protocol status headers emitted items
      (sseText (items.filterMap (sseItem tr.sseEvent))) := by
  intro w
  have hstreams := sendSse_streams rt tr protocol (given items) status headers
  cases hstream : tr.responseStream with
  | some f =>
    obtain ⟨stream, w₁, hf, hemit₁⟩ := hcarries.responseStream f hstream w
    obtain ⟨w₂, l, hfeed, hemit₂⟩ := feedSse_given hcarries stream hitems w₁
    have hstart : (Routine.effect (f status (sseHeaders headers)) : PyResult m Ref W Ref).run w =
        ⟨.ok stream, w₁, []⟩ := by
      rw [effect_run, hf]
    refine ⟨w₂, l, ?_, by rw [hemit₂, hemit₁]⟩
    rw [hstreams.streamed f hstream]
    refine (bind_run_ok hstart _).trans ?_
    rw [Ending.after_nil]
    refine (bind_run_ok hfeed _).trans ?_
    rw [pure_run, Ending.after, List.append_nil]
  | none =>
    obtain ⟨chunks, hgather, hjoin⟩ := gather_given rt hitems w
    have hutf8 : PyStr.surrogates ⟨sseText (items.filterMap (sseItem tr.sseEvent)), false⟩ = false :=
      rfl
    obtain ⟨w₁, hsend, hemit⟩ := hcarries.respond hutf8 w
    refine ⟨w₁, [], ?_, hemit⟩
    have hrespond : (Routine.effect (rt.respond protocol (.responseStr status (sseHeaders headers)
        ⟨sseText (items.filterMap (sseItem tr.sseEvent)), false⟩)) : PyResult m Ref W Unit).run w =
          ⟨.ok (), w₁, []⟩ := by
      rw [effect_run, hsend]
    rw [hstreams.gathered hstream]
    refine (bind_run_ok hgather _).trans ?_
    rw [hjoin, Ending.after_nil]
    exact bind_run_ok hrespond _

theorem length_filterMap_sseItem (hitems : ∀ v ∈ items, Taken tr.sseEvent v) :
    (items.filterMap (sseItem tr.sseEvent)).length = items.length := by
  induction items with
  | nil => rfl
  | cons v items ih =>
    obtain ⟨ev, -, hitem, -⟩ := (hitems v List.mem_cons_self).event
    rw [List.filterMap_cons_some hitem, List.length_cons, List.length_cons,
      ih fun u hu => hitems u (List.mem_cons_of_mem v hu)]

theorem sseFields_of_taken (hitems : ∀ v ∈ items, Taken tr.sseEvent v) :
    ∀ ev ∈ items.filterMap (sseItem tr.sseEvent), ∀ f ∈ sseFields ev,
      IsName f.1 ∧ OneLine f.2 := by
  intro ev hev
  obtain ⟨v, hv, hitem⟩ := List.mem_filterMap.mp hev
  obtain ⟨ev', -, hitem', -, -, -, hlines⟩ := (hitems v hv).event
  rw [hitem] at hitem'
  rw [Option.some.inj hitem']
  exact hlines

/-- **Events of a stream.** For all items that are not rejected, whose ids have no NUL, `send_sse`
emits the same text on the path with `response_stream` and on the other. Its lines are those of
one block of fields for each item and say nothing else, and a client dispatches one event for each
item, in order, with its type and with the id of the last item so far that has one. -/
theorem send_sse_dispatches (hcarries : Carries rt tr protocol status (sseHeaders headers) emitted)
    (hitems : ∀ v ∈ items, Taken tr.sseEvent v)
    (hids : ∀ ev ∈ items.filterMap (sseItem tr.sseEvent), PlainId ev) :
    ∃ text, Emits rt tr protocol status headers emitted items text ∧
      Emits rt { tr with responseStream := none } protocol status headers emitted items text ∧
      (items.filterMap (sseItem tr.sseEvent)).length = items.length ∧
      readLines text.toList =
        (items.filterMap (sseItem tr.sseEvent)).flatMap (fun ev => blockLines (sseFields ev)) ∧
      interpret text.toList = dispatchedFrom [] (items.filterMap (sseItem tr.sseEvent)) := by
  have hbuffered : Carries rt { tr with responseStream := none } protocol status
      (sseHeaders headers) emitted := ⟨hcarries.respond, by simp, hcarries.sendStr⟩
  have hlines := sseFields_of_taken hitems
  refine ⟨_, sendSse_emits hcarries hitems, sendSse_emits hbuffered hitems,
    length_filterMap_sseItem hitems, ?_, ?_⟩
  · rw [sseText, String.toList_ofList]
    exact readLines_chunks hlines
  · rw [sseText, String.toList_ofList]
    exact interpret_chunks hlines hids

end

/-- What has been sent is kept in the world. -/
def keepText (s : PyStr) (w : World segmentMatcher String String) :
    World segmentMatcher String String :=
  { w with rest := w.rest ++ s.text }

/-- A protocol object with streams that keeps what is sent. -/
def keepingTransport : Transport segmentMatcher String String where
  responseStream := some fun _ _ w => (.ok "stream", w)
  responseFile := none
  sendStr _ v w :=
    match v with
    | .str s => (.ok (), keepText s w)
    | _ => (.error (.typeError "str"), w)
  sendBytes _ _ w := (.ok (), w)
  sseEvent r := if r = "tick" then some ⟨⟨"", false⟩, some ⟨"tick", false⟩, some ⟨"7", false⟩, none⟩
    else none
  buffer _ := none
  sseDone := "done"
  streamDone _ := "done"
  httpException _ _ := "exception"

/-- A runtime that keeps what is sent. -/
def keepingRuntime : Runtime segmentMatcher String String where
  toInspection := (plainRuntime segmentMatcher).toInspection
  call f _ _ w := (.ok (.text f), w)
  callMethod _ _ _ w := (.ok .none, w)
  intoFuture _ := .ok ()
  await v w := (.ok v, w)
  readBody _ w := (.ok (.bytes []), w)
  respond _ call w :=
    match call with
    | .responseStr _ _ body => (.ok (), keepText body w)
    | _ => (.ok (), w)
  setPathTemplate _ _ w := w
  rateLimit rl _ w := (.allowed rl.limit 0 1, w)
  others w := w
  dbQuery _ := none
  executeQuery _ _ w := (.ok (.list []), w)
  newRequest _ _ _ _ := .ok (.object "request")
  formUrlencoded _ := []
  parseBoundary _ := none
  multipartFields _ _ := ([], none)
  jsonBytesToPy _ := .error "EOF while parsing a value at line 1 column 0"
  decodeJwt _ _ _ := .error .other
  jsonToString _ := "null"
  maskOrder := (plainRuntime segmentMatcher).maskOrder
  maxBodyBytes := 8 * 1024 * 1024
  debug := false

theorem keepingTransport_carries (status : ℕ) (headers : HeaderPairs) :
    Carries keepingRuntime keepingTransport "protocol" status headers id where
  respond _ w := ⟨_, rfl, rfl⟩
  responseStream f hf w := by
    cases hf
    exact ⟨_, w, rfl, rfl⟩
  sendStr _ _ _ w := ⟨_, rfl, rfl⟩

/-- A text that looks like fields, and an event without data. -/
theorem ticks_dispatched :
    ∃ text, Emits keepingRuntime keepingTransport "protocol" 200 [] id
        [.text "a\n\nid: 3", .object "tick"] text ∧
      Emits keepingRuntime { keepingTransport with responseStream := none } "protocol" 200 [] id
        [.text "a\n\nid: 3", .object "tick"] text ∧
      ([.text "a\n\nid: 3", .object "tick"].filterMap
        (sseItem keepingTransport.sseEvent)).length = 2 ∧
      readLines text.toList = ([.text "a\n\nid: 3", .object "tick"].filterMap
        (sseItem keepingTransport.sseEvent)).flatMap (fun ev => blockLines (sseFields ev)) ∧
      interpret text.toList = dispatchedFrom [] ([.text "a\n\nid: 3", .object "tick"].filterMap
        (sseItem keepingTransport.sseEvent)) := by
  refine send_sse_dispatches (keepingTransport_carries 200 _) ?_ ?_
  · simp only [List.forall_mem_cons, List.not_mem_nil, false_implies, implies_true, and_true]
    exact ⟨⟨_, rfl, rfl⟩, _, rfl, rfl⟩
  · show ∀ ev ∈ [(⟨⟨"a\n\nid: 3", false⟩, none, none, none⟩ : SseEvent),
      ⟨⟨"", false⟩, some ⟨"tick", false⟩, some ⟨"7", false⟩, none⟩], PlainId ev
    simp only [List.forall_mem_cons, List.not_mem_nil, false_implies, implies_true, and_true]
    exact ⟨rfl, rfl⟩

-- ════════════════════════════════════════════════════════════════════════
-- The data of an event
-- ════════════════════════════════════════════════════════════════════════

/-- The text ends a line. -/
def endsLine (s : List Char) : Bool := s.getLast?.any isEol

/-- No line boundary but CR and LF. -/
def OnlyEols (s : List Char) : Prop := ∀ c ∈ s, isLineBoundary c = true → isEol c = true

/-- The event of a chunk arrives with its data, up to CRLF and CR for LF. -/
def DeliversData (data : String) (chunk : String) : Prop :=
  ∃ e, interpret chunk.toList = [e] ∧ e.data = normalizeNewlines data.toList

theorem intercalate_cons {l : List Char} {ls : List (List Char)} (h : ls ≠ []) :
    List.intercalate ['\n'] (l :: ls) = l ++ '\n' :: List.intercalate ['\n'] ls := by
  cases ls with
  | nil => exact absurd rfl h
  | cons l' ls => simp [List.intercalate]

theorem splitLinesFrom_ne_nil {line s : List Char} (h : line ≠ [] ∨ s ≠ []) :
    splitLinesFrom line s ≠ [] := by
  induction line, s using splitLinesFrom.induct with
  | case1 => simp at h
  | case2 line hne => rw [splitLinesFrom.eq_2 _ hne]; simp
  | case3 line rest ih => rw [splitLinesFrom]; simp
  | case4 line c rest hcrlf hc ih => rw [splitLinesFrom.eq_4 _ _ _ hcrlf, if_pos hc]; simp
  | case5 line c rest hcrlf hc ih =>
    rw [splitLinesFrom.eq_4 _ _ _ hcrlf, if_neg hc]
    exact ih (.inl (by simp))

theorem endsLine_cons {c : Char} {s : List Char} (h : s ≠ []) : endsLine (c :: s) = endsLine s := by
  rw [endsLine, endsLine, List.getLast?_cons, List.getLast?_eq_some_getLast h]
  rfl

/-- A line and what comes after its end. -/
theorem intercalate_line {l rest : List Char}
    (ih : List.intercalate ['\n'] (splitLinesFrom [] rest) ++
        (if endsLine rest then ['\n'] else []) = normalizeNewlines rest)
    {s : List Char} (hends : endsLine s = if rest = [] then true else endsLine rest) :
    List.intercalate ['\n'] (l :: splitLinesFrom [] rest) ++ (if endsLine s then ['\n'] else []) =
      l ++ '\n' :: normalizeNewlines rest := by
  rw [hends]
  by_cases hrest : rest = []
  · subst hrest
    simp [splitLinesFrom, normalizeNewlines, List.intercalate]
  · rw [if_neg hrest, intercalate_cons (splitLinesFrom_ne_nil (.inr hrest)), ← ih]
    simp

/-- Without other line boundaries the lines are the normalized text, without the end of its last
line. -/
theorem intercalate_splitLinesFrom (line : List Char) {s : List Char} (hs : OnlyEols s) :
    List.intercalate ['\n'] (splitLinesFrom line s) ++ (if endsLine s then ['\n'] else []) =
      line.reverse ++ normalizeNewlines s := by
  induction line, s using splitLinesFrom.induct with
  | case1 => rfl
  | case2 line hne =>
    rw [splitLinesFrom.eq_2 _ hne]
    simp [List.intercalate, endsLine, normalizeNewlines]
  | case3 line rest ih =>
    have hrest := ih fun c hc => hs c (List.mem_cons_of_mem _ (List.mem_cons_of_mem _ hc))
    rw [splitLinesFrom, normalizeNewlines]
    refine intercalate_line hrest ?_
    by_cases hnil : rest = []
    · subst hnil
      rfl
    · rw [if_neg hnil, endsLine_cons (by simp), endsLine_cons hnil]
  | case4 line c rest hcrlf hc ih =>
    have hrest := ih fun d hd => hs d (List.mem_cons_of_mem _ hd)
    have heol := hs c List.mem_cons_self hc
    have hnorm : normalizeNewlines (c :: rest) = '\n' :: normalizeNewlines rest := by
      rw [isEol, Bool.or_eq_true, beq_iff_eq, beq_iff_eq] at heol
      rw [normalizeNewlines.eq_3 _ _ hcrlf]
      rcases heol with rfl | rfl
      · rfl
      · rfl
    rw [splitLinesFrom.eq_4 _ _ _ hcrlf, if_pos hc, hnorm]
    refine intercalate_line hrest ?_
    by_cases hnil : rest = []
    · subst hnil
      simpa [endsLine] using heol
    · rw [if_neg hnil, endsLine_cons hnil]
  | case5 line c rest hcrlf hc ih =>
    have hrest := ih fun d hd => hs d (List.mem_cons_of_mem _ hd)
    have hcr : c ≠ '\r' := by
      rintro rfl
      exact hc rfl
    have hends : endsLine (c :: rest) = endsLine rest := by
      by_cases hnil : rest = []
      · subst hnil
        have heol : isEol c = false :=
          Bool.eq_false_iff.mpr fun h => hc (isLineBoundary_of_isEol h)
        simpa [endsLine] using heol
      · exact endsLine_cons hnil
    rw [splitLinesFrom.eq_4 _ _ _ hcrlf, if_neg hc, hends, hrest,
      normalizeNewlines.eq_3 _ _ hcrlf, if_neg hcr]
    simp

theorem intercalate_dataLines (data : String) :
    delivered data = List.intercalate ['\n'] (splitLinesFrom [] data.toList) := by
  rw [delivered, dataLines, splitLines]
  split
  · next h =>
    rw [List.map_eq_nil_iff.mp h]
    rfl
  · rw [List.map_map]
    congr 1
    exact (List.map_congr_left fun l _ => String.toList_ofList).trans (List.map_id _)

theorem mem_normalizeNewlines {c : Char} (hc : isEol c = false) {s : List Char} (h : c ∈ s) :
    c ∈ normalizeNewlines s := by
  induction s using normalizeNewlines.induct with
  | case1 => cases h
  | case2 s ih =>
    rw [normalizeNewlines]
    rcases List.mem_cons.mp h with rfl | h
    · cases hc
    · rcases List.mem_cons.mp h with rfl | h
      · cases hc
      · exact List.mem_cons_of_mem _ (ih h)
  | case3 d s hcrlf ih =>
    rw [normalizeNewlines.eq_3 _ _ hcrlf]
    rcases List.mem_cons.mp h with rfl | h
    · rw [if_neg]
      · exact List.mem_cons_self
      · rintro rfl
        cases hc
    · exact List.mem_cons_of_mem _ (ih h)

/-- What arrives has no line boundary but LF. -/
theorem mem_delivered {data : String} {c : Char} (h : c ∈ delivered data) :
    c = '\n' ∨ isLineBoundary c = false := by
  have hlines : ∀ l ∈ (dataLines data).map String.toList, ∀ c ∈ l, isLineBoundary c = false := by
    intro l hl
    obtain ⟨l', hl', rfl⟩ := List.mem_map.mp hl
    exact dataLines_boundary hl'
  rw [delivered] at h
  generalize (dataLines data).map String.toList = ls at h hlines
  induction ls with
  | nil => cases h
  | cons l ls ih =>
    by_cases hls : ls = []
    · subst hls
      rw [List.intercalate_singleton] at h
      exact .inr (hlines l List.mem_cons_self c h)
    · rw [intercalate_cons hls] at h
      rcases List.mem_append.mp h with h | h
      · exact .inr (hlines l List.mem_cons_self c h)
      · rcases List.mem_cons.mp h with h | h
        · exact .inl h
        · exact ih h fun l' hl' => hlines l' (List.mem_cons_of_mem l hl')

/-- The data arrive as they were exactly if they have no line boundary but CR and LF and do not end
a line. -/
theorem delivered_eq_iff (data : String) :
    delivered data = normalizeNewlines data.toList ↔
      OnlyEols data.toList ∧ endsLine data.toList = false := by
  constructor
  · intro h
    have honly : OnlyEols data.toList := by
      intro c hc hb
      by_contra heol
      have hin := mem_normalizeNewlines (Bool.eq_false_iff.mpr heol) hc
      rw [← h] at hin
      rcases mem_delivered hin with rfl | hno
      · exact heol rfl
      · rw [hno] at hb
        cases hb
    have hlines := intercalate_splitLinesFrom [] honly
    rw [← intercalate_dataLines, h] at hlines
    refine ⟨honly, ?_⟩
    by_contra hends
    rw [Bool.not_eq_false] at hends
    rw [hends, if_pos rfl] at hlines
    simpa using congrArg List.length hlines
  · rintro ⟨honly, hends⟩
    have hlines := intercalate_splitLinesFrom [] honly
    rw [hends, if_neg Bool.false_ne_true, List.append_nil, ← intercalate_dataLines] at hlines
    exact hlines

/-- **Data of an event.** For every event that is accepted, the data a client gets from its chunk
are the data of the event, up to CRLF and CR for LF, exactly if the data have no other line
boundary of `str.splitlines()` and do not end in CR or LF. -/
theorem formatSseEvent_delivers_iff {ev : SseEvent} {chunk : PyStr}
    (h : (formatSseEvent ev : Except (PyErr Ref) PyStr) = .ok chunk) :
    DeliversData ev.data.text chunk.text ↔
      OnlyEols ev.data.text.toList ∧ endsLine ev.data.text.toList = false := by
  obtain ⟨htext, hlines⟩ := formatSseEvent_eq_ok h
  obtain ⟨lastId, retry, -, hevents, -⟩ := read_sseFields {} rfl rfl ev
  have hread : interpret chunk.text.toList = [⟨sseType ev, delivered ev.data.text, lastId⟩] := by
    have hblock := readLines_writeBlock hlines []
    have hmark := withoutMark_writeBlock (fun f hf => (hlines f hf).1) []
    rw [List.append_nil] at hblock hmark
    rw [interpret, htext, hmark, hblock]
    exact (events_append _ _ _).trans (by rw [hevents]; rfl)
  rw [← delivered_eq_iff, DeliversData, hread]
  constructor
  · rintro ⟨e, he, hdata⟩
    rw [← hdata, ← (List.cons.inj he).1]
  · exact fun hdata => ⟨_, rfl, hdata⟩

/-- Two lines arrive as they were. -/
theorem lines_delivered :
    DeliversData "a\r\nb" "data: a\ndata: b\n\n" ↔
      OnlyEols "a\r\nb".toList ∧ endsLine "a\r\nb".toList = false := by
  have hchunk : (formatSseEvent ⟨⟨"a\r\nb", false⟩, none, none, none⟩ :
      Except (PyErr String) PyStr) = .ok ⟨"data: a\ndata: b\n\n", false⟩ := rfl
  exact formatSseEvent_delivers_iff hchunk

/-- The end of the last line is lost, and a line separator becomes an end of line. -/
theorem sse_data_changed :
    (formatSseEvent ⟨⟨"a\n", false⟩, none, none, none⟩ : Except (PyErr String) PyStr) =
        .ok ⟨"data: a\n\n", false⟩ ∧
      ¬ DeliversData "a\n" "data: a\n\n" ∧
      (formatSseEvent ⟨⟨"a\u2028b", false⟩, none, none, none⟩ : Except (PyErr String) PyStr) =
        .ok ⟨"data: a\ndata: b\n\n", false⟩ ∧
      ¬ DeliversData "a\u2028b" "data: a\ndata: b\n\n" := by
  refine ⟨rfl, ?_, rfl, ?_⟩
  · rintro ⟨e, he, hdata⟩
    have hread : interpret "data: a\n\n".toList = [⟨"message".toList, "a".toList, []⟩] := by decide
    rw [hread] at he
    rw [← (List.cons.inj he).1] at hdata
    exact absurd hdata (by decide)
  · rintro ⟨e, he, hdata⟩
    have hread : interpret "data: a\ndata: b\n\n".toList =
        [⟨"message".toList, "a\nb".toList, []⟩] := by decide
    rw [hread] at he
    rw [← (List.cons.inj he).1] at hdata
    exact absurd hdata (by decide)

end OxyRoute
