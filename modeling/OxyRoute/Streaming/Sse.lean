import OxyRoute.Native.HandlerMap

/-!
# Server-sent events

The text of an event, as `oxyroute/sse.py` builds it.

## Main definitions

- `splitLines` — `str.splitlines()`
- `SseEvent`, `formatSseEvent` — an event and its text
- `toSseChunk` — the text of an item, or the error for an item that is none
-/

namespace OxyRoute

variable {Ref : Type}

/-- The line boundaries of `str.splitlines()`. -/
def isLineBoundary (c : Char) : Bool :=
  let n := c.toNat
  (0x0a ≤ n && n ≤ 0x0d) || (0x1c ≤ n && n ≤ 0x1e) || n == 0x85 || n == 0x2028 || n == 0x2029

/-- The lines of a text, with the characters of the first one so far in reverse. -/
def splitLinesFrom : List Char → List Char → List (List Char)
  | [], [] => []
  | line, [] => [line.reverse]
  | line, '\r' :: '\n' :: rest => line.reverse :: splitLinesFrom [] rest
  | line, c :: rest =>
    if isLineBoundary c then line.reverse :: splitLinesFrom [] rest
    else splitLinesFrom (c :: line) rest

/-- `str.splitlines()`. -/
def splitLines (s : String) : List String := (splitLinesFrom [] s.toList).map String.ofList

example : splitLines "a\r\nb\n\nc" = ["a", "b", "", "c"] := by decide

/-- `SSEEvent`. -/
structure SseEvent where
  data : PyStr
  event : Option PyStr
  id : Option PyStr
  retry : Option ℤ
  deriving DecidableEq, Repr

/-- The line of the `event` or of the `id` field, if there is one; line breaks are refused. -/
def fieldLine (name : String) : Option PyStr → Except (PyErr Ref) (List String)
  | none => .ok []
  | some s =>
    if s.text = "" then .ok []
    else if containsCrlf s.text then
      .error (.valueError ("SSE " ++ name ++ " field must not contain newline characters"))
    else .ok [name ++ ": " ++ s.text]

/-- A field that may be missing has a text without UTF-8 form. -/
def hasSurrogates : Option PyStr → Bool
  | none => false
  | some s => s.surrogates

/-- `_format_sse_event`. -/
def formatSseEvent (ev : SseEvent) : Except (PyErr Ref) PyStr := do
  let event ← fieldLine "event" ev.event
  let id ← fieldLine "id" ev.id
  let retry := match ev.retry with
    | some n => ["retry: " ++ toString n]
    | none => []
  let data := match splitLines ev.data.text with
    | [] => ["data: "]
    | lines => lines.map ("data: " ++ ·)
  return ⟨Text.joinWith "\n" (event ++ id ++ retry ++ data) ++ "\n\n",
    hasSurrogates ev.event || hasSurrogates ev.id || ev.data.surrogates⟩

/-- `_to_sse_chunk`: `sseEvent` tells what is an `SSEEvent`. -/
def toSseChunk (sseEvent : Ref → Option SseEvent) (item : PyVal Ref) : Except (PyErr Ref) PyStr :=
  match item with
  | .str s => formatSseEvent ⟨s, none, none, none⟩
  | .object r =>
    match sseEvent r with
    | some ev => formatSseEvent ev
    | none => .error (.typeError "SSE items must be str or SSEEvent")
  | _ => .error (.typeError "SSE items must be str or SSEEvent")

end OxyRoute
