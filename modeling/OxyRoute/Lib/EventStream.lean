import OxyRoute.Lib.Text

/-!
# Event streams

How a client reads a stream of server-sent events: the lines of the stream, the field of a line,
and the events that blank lines dispatch. A writer of blocks of fields is read back field by field.

## Main definitions

- `lines`, `readLine` — the lines of a stream, and what a line says
- `State.step`, `events` — what a line does to the buffers, and the events of a run
- `interpret` — the events of a stream
- `writeBlock` — a block of fields as text
- `normalizeNewlines` — CRLF and CR as LF

## Main results

- `readLines_writeBlock` — the fields that are written are the fields that are read
- `events_append` — a stream is read block by block
-/

namespace OxyRoute

namespace EventStream

-- ════════════════════════════════════════════════════════════════════════
-- Lines
-- ════════════════════════════════════════════════════════════════════════

/-- The characters that end a line. -/
def isEol (c : Char) : Bool := c == '\r' || c == '\n'

/-- The lines of a stream, with the characters of the first one so far in reverse. What follows
the last end of a line is no line. -/
def linesFrom : List Char → List Char → List (List Char)
  | _, [] => []
  | line, '\r' :: '\n' :: rest => line.reverse :: linesFrom [] rest
  | line, c :: rest =>
    if isEol c then line.reverse :: linesFrom [] rest else linesFrom (c :: line) rest

/-- The lines of a stream. -/
def lines (s : List Char) : List (List Char) := linesFrom [] s

/-- One byte order mark at the start is dropped. -/
def withoutMark : List Char → List Char
  | [] => []
  | c :: s => if c.toNat = 0xfeff then s else c :: s

/-- CRLF and CR become LF. -/
def normalizeNewlines : List Char → List Char
  | [] => []
  | '\r' :: '\n' :: s => '\n' :: normalizeNewlines s
  | c :: s => (if c = '\r' then '\n' else c) :: normalizeNewlines s

-- ════════════════════════════════════════════════════════════════════════
-- Fields
-- ════════════════════════════════════════════════════════════════════════

/-- What a line says. -/
inductive Line
  | blank
  | comment
  | field (name value : List Char)
  deriving DecidableEq, Repr

/-- The value after the name of a field: one space after the colon is dropped. -/
def fieldValue : List Char → List Char
  | ':' :: ' ' :: value => value
  | ':' :: value => value
  | _ => []

/-- A line without a colon is a field without a value. -/
def readLine : List Char → Line
  | [] => .blank
  | c :: l =>
    if c = ':' then .comment
    else .field (c :: l.takeWhile (· ≠ ':')) (fieldValue (l.dropWhile (· ≠ ':')))

-- ════════════════════════════════════════════════════════════════════════
-- Events
-- ════════════════════════════════════════════════════════════════════════

/-- An event as a client sees it. -/
structure Event where
  type : List Char
  data : List Char
  lastEventId : List Char
  deriving DecidableEq, Repr

/-- The type of an event that names none. -/
def defaultType : List Char := "message".toList

/-- The buffers of a client, and its reconnection time if the stream has set one. -/
structure State where
  eventType : List Char := []
  data : List Char := []
  lastEventId : List Char := []
  retry : Option ℕ := none
  deriving DecidableEq, Repr

namespace State

/-- Process a field: a field of another name is ignored. -/
def setField (st : State) (name value : List Char) : State :=
  if name = "event".toList then { st with eventType := value }
  else if name = "data".toList then { st with data := st.data ++ value ++ ['\n'] }
  else if name = "id".toList then
    if value.any (·.toNat = 0) then st else { st with lastEventId := value }
  else if name = "retry".toList then
    if value ≠ [] ∧ value.all Char.isDigit then
      { st with retry := some (Text.digitsValue value) }
    else st
  else st

/-- The event of the buffers. Without data there is none. -/
def pending (st : State) : List Event :=
  if st.data = [] then []
  else [{
    type := if st.eventType = [] then defaultType else st.eventType
    data := if st.data.getLast? = some '\n' then st.data.dropLast else st.data
    lastEventId := st.lastEventId }]

/-- Dispatch the event, and empty the buffers. -/
def dispatched (st : State) : State := { st with eventType := [], data := [] }

/-- Process a line. -/
def step (st : State) : Line → List Event × State
  | .blank => (st.pending, st.dispatched)
  | .comment => ([], st)
  | .field name value => ([], st.setField name value)

end State

/-- The events that lines dispatch. -/
def events : State → List Line → List Event
  | _, [] => []
  | st, l :: ls => (st.step l).1 ++ events (st.step l).2 ls

/-- The state after lines. -/
def after : State → List Line → State
  | st, [] => st
  | st, l :: ls => after (st.step l).2 ls

/-- What the lines of a stream say. -/
def readLines (s : List Char) : List Line := (lines s).map readLine

/-- The events of a stream. -/
def interpret (s : List Char) : List Event := events {} (readLines (withoutMark s))

/-- A line that says a field. -/
def writeField (f : List Char × List Char) : List Char := f.1 ++ ": ".toList ++ f.2

/-- A block of fields with the blank line after it. -/
def writeBlock (fs : List (List Char × List Char)) : List Char :=
  (fs.flatMap fun f => writeField f ++ ['\n']) ++ ['\n']

/-- The lines of a block. -/
def blockLines (fs : List (List Char × List Char)) : List Line :=
  fs.map (fun f => .field f.1 f.2) ++ [.blank]

example : interpret "data: a\ndata:b\r\n\n: no event\n\nid: 7\nevent: e\ndata\r\rdata: c".toList =
    [⟨"message".toList, "a\nb".toList, []⟩, ⟨"e".toList, [], "7".toList⟩] := by decide

-- ════════════════════════════════════════════════════════════════════════
-- What is written is what is read
-- ════════════════════════════════════════════════════════════════════════

theorem linesFrom_append {w : List Char} (hw : ∀ c ∈ w, isEol c = false) (line s : List Char) :
    linesFrom line (w ++ '\n' :: s) = (line.reverse ++ w) :: lines s := by
  induction w generalizing line with
  | nil => simp [linesFrom, isEol, lines]
  | cons c w ih =>
    have hc := hw c List.mem_cons_self
    have hcr : c ≠ '\r' := by
      rintro rfl
      cases hc
    have hrest := ih (fun d hd => hw d (List.mem_cons_of_mem _ hd)) (c :: line)
    rw [List.cons_append, linesFrom.eq_3 _ _ _ (by simp [hcr]), hc, if_neg Bool.false_ne_true,
      hrest]
    simp

theorem lines_append {w : List Char} (hw : ∀ c ∈ w, isEol c = false) (s : List Char) :
    lines (w ++ '\n' :: s) = w :: lines s :=
  linesFrom_append hw [] s

theorem takeWhile_colon {name : List Char} (h : ':' ∉ name) (s : List Char) :
    (name ++ ':' :: s).takeWhile (· ≠ ':') = name ∧
      (name ++ ':' :: s).dropWhile (· ≠ ':') = ':' :: s := by
  induction name with
  | nil => exact ⟨rfl, rfl⟩
  | cons c name ih =>
    have hc : c ≠ ':' := fun h' => h (h' ▸ List.mem_cons_self)
    obtain ⟨htake, hdrop⟩ := ih fun hin => h (List.mem_cons_of_mem _ hin)
    simp only [List.cons_append]
    rw [List.takeWhile_cons_of_pos (by simpa using hc), htake,
      List.dropWhile_cons_of_pos (by simpa using hc), hdrop]
    exact ⟨rfl, rfl⟩

/-- The name of a field that a writer can use. -/
structure IsName (name : List Char) : Prop where
  ne_nil : name ≠ []
  colon : ':' ∉ name
  eol : ∀ c ∈ name, isEol c = false
  mark : ∀ c ∈ name, c.toNat ≠ 0xfeff

/-- A name is checked character by character. -/
theorem IsName.of_all {name : List Char} (hne : name ≠ [])
    (h : (name.all fun c => c != ':' && !isEol c && c.toNat != 0xfeff) = true) : IsName name := by
  have hchars : ∀ c ∈ name, (c ≠ ':' ∧ isEol c = false) ∧ c.toNat ≠ 0xfeff := by
    simpa using h
  exact ⟨hne, fun hin => (hchars ':' hin).1.1 rfl, fun c hc => (hchars c hc).1.2,
    fun c hc => (hchars c hc).2⟩

theorem readLine_writeField {f : List Char × List Char} (h : IsName f.1) :
    readLine (writeField f) = .field f.1 f.2 := by
  obtain ⟨name, value⟩ := f
  obtain ⟨hne, hcolon, -, -⟩ := h
  cases name with
  | nil => exact absurd rfl hne
  | cons c name =>
    have hc : c ≠ ':' := fun h' => hcolon (h' ▸ List.mem_cons_self)
    have hsplit := takeWhile_colon (fun hin => hcolon (List.mem_cons_of_mem c hin)) (' ' :: value)
    have hline : writeField (c :: name, value) = c :: (name ++ ':' :: ' ' :: value) := by
      simp [writeField]
    rw [hline, readLine, if_neg hc, hsplit.1, hsplit.2]
    rfl

theorem writeField_eol {f : List Char × List Char} (hname : IsName f.1)
    (hvalue : ∀ c ∈ f.2, isEol c = false) : ∀ c ∈ writeField f, isEol c = false := by
  intro c hc
  rw [writeField, List.append_assoc] at hc
  rcases List.mem_append.mp hc with hc | hc
  · exact hname.eol c hc
  · rcases List.mem_cons.mp hc with rfl | hc
    · rfl
    · rcases List.mem_cons.mp hc with rfl | hc
      · rfl
      · exact hvalue c hc

theorem readLines_append {w : List Char} (hw : ∀ c ∈ w, isEol c = false) (s : List Char) :
    readLines (w ++ '\n' :: s) = readLine w :: readLines s := by
  rw [readLines, lines_append hw]
  rfl

/-- A block is read as it was written, whatever follows it. -/
theorem readLines_writeBlock {fs : List (List Char × List Char)}
    (hfs : ∀ f ∈ fs, IsName f.1 ∧ ∀ c ∈ f.2, isEol c = false) (s : List Char) :
    readLines (writeBlock fs ++ s) = blockLines fs ++ readLines s := by
  induction fs with
  | nil => exact readLines_append (w := []) (by simp) s
  | cons f fs ih =>
    obtain ⟨hname, hvalue⟩ := hfs f List.mem_cons_self
    have hblock : writeBlock (f :: fs) ++ s = writeField f ++ '\n' :: (writeBlock fs ++ s) := by
      simp [writeBlock]
    rw [hblock, readLines_append (writeField_eol hname hvalue), readLine_writeField hname,
      ih fun f' hf' => hfs f' (List.mem_cons_of_mem _ hf')]
    rfl

/-- A block does not start with a byte order mark. -/
theorem withoutMark_writeBlock {fs : List (List Char × List Char)} (hfs : ∀ f ∈ fs, IsName f.1)
    (s : List Char) : withoutMark (writeBlock fs ++ s) = writeBlock fs ++ s := by
  cases fs with
  | nil => rfl
  | cons f fs =>
    have hname := hfs f List.mem_cons_self
    obtain ⟨name, value⟩ := f
    cases name with
    | nil => exact absurd rfl hname.ne_nil
    | cons c name => exact if_neg (hname.mark c List.mem_cons_self)

-- ════════════════════════════════════════════════════════════════════════
-- Runs
-- ════════════════════════════════════════════════════════════════════════

/-- A stream is read part by part. -/
theorem events_append (st : State) (ls ls' : List Line) :
    events st (ls ++ ls') = events st ls ++ events (after st ls) ls' := by
  induction ls generalizing st with
  | nil => rfl
  | cons l ls ih => rw [List.cons_append, events, ih, events, after, List.append_assoc]

theorem after_append (st : State) (ls ls' : List Line) :
    after st (ls ++ ls') = after (after st ls) ls' := by
  induction ls generalizing st with
  | nil => rfl
  | cons l ls ih => exact ih _

/-- Fields dispatch nothing. -/
theorem events_fields (st : State) (fs : List (List Char × List Char)) :
    events st (fs.map fun f => .field f.1 f.2) = [] := by
  induction fs generalizing st with
  | nil => rfl
  | cons f fs ih => exact ih _

/-- A block dispatches what its fields leave in the buffers. -/
theorem events_blockLines (st : State) (fs : List (List Char × List Char)) :
    events st (blockLines fs) = (after st (fs.map fun f => .field f.1 f.2)).pending := by
  rw [blockLines, events_append, events_fields, List.nil_append]
  exact List.append_nil _

theorem after_blockLines (st : State) (fs : List (List Char × List Char)) :
    after st (blockLines fs) = (after st (fs.map fun f => .field f.1 f.2)).dispatched := by
  rw [blockLines, after_append]
  rfl

/-- The values of `data` fields are gathered as lines. -/
theorem after_data (st : State) (values : List (List Char)) :
    after st ((values.map fun v => ("data".toList, v)).map fun f => .field f.1 f.2) =
      { st with data := st.data ++ values.flatMap (· ++ ['\n']) } := by
  induction values generalizing st with
  | nil => simp [after]
  | cons v values ih =>
    have hstep : st.setField "data".toList v = { st with data := st.data ++ v ++ ['\n'] } := rfl
    rw [List.map_cons, List.map_cons, after, State.step, hstep, ih]
    simp

theorem flatMap_eol_eq {values : List (List Char)} (h : values ≠ []) :
    values.flatMap (· ++ ['\n']) = List.intercalate ['\n'] values ++ ['\n'] := by
  induction values with
  | nil => exact absurd rfl h
  | cons v values ih =>
    cases values with
    | nil => simp [List.intercalate]
    | cons v' values =>
      rw [List.flatMap_cons, ih (by simp)]
      simp [List.intercalate]

/-- With data in the buffers there is one event, and its data are the lines. -/
theorem pending_of_data (st : State) {values : List (List Char)} (h : values ≠ []) :
    { st with data := values.flatMap (· ++ ['\n']) : State }.pending = [{
      type := if st.eventType = [] then defaultType else st.eventType
      data := List.intercalate ['\n'] values
      lastEventId := st.lastEventId }] := by
  rw [flatMap_eol_eq h]
  simp [State.pending]

end EventStream

end OxyRoute
