import Mathlib.Data.List.Forall2

/-!
# Event streams

The line grammar of server-sent events, on decoded text. A line ends with a carriage return, a line
feed or both; it adds to a field of the event that is being read, and an empty line dispatches that
event. What has not been dispatched at the end of the text is dropped.
-/

namespace EventStream

/-! ## 1. Lines -/

def isLineEnd (c : Char) : Bool := c = '\n' || c = '\r'

/-- The terminated lines of a text whose first line has begun. -/
def linesFrom (line : List Char) : List Char → List (List Char)
  | [] => []
  | '\r' :: '\n' :: rest => line :: linesFrom [] rest
  | c :: rest => if isLineEnd c then line :: linesFrom [] rest else linesFrom (line ++ [c]) rest

/-- A byte order mark at the start is no part of the first line. -/
def lines : List Char → List (List Char)
  | '\uFEFF' :: rest => linesFrom [] rest
  | text => linesFrom [] text

/-! ## 2. Events -/

structure Event where
  name : List Char
  data : List Char
  lastEventId : List Char
  deriving DecidableEq, Repr

/-- The event that is being read; the last identifier stays until another one is set. -/
structure Buffer where
  eventType : List Char
  data : List Char
  lastEventId : List Char
  deriving DecidableEq, Repr

def Buffer.empty (lastEventId : List Char) : Buffer where
  eventType := []
  data := []
  lastEventId := lastEventId

/-- The name and the value of a field; one blank after the colon is no part of the value. -/
def splitField (line : List Char) : List Char × List Char :=
  let value := (line.dropWhile (· ≠ ':')).drop 1
  (line.takeWhile (· ≠ ':'), if value.head? = some ' ' then value.drop 1 else value)

/-- A field that is not known is ignored, and so is the reconnection time, which is no part of an
event. -/
def Buffer.setField (buffer : Buffer) (name value : List Char) : Buffer :=
  if name = "event".toList then { buffer with eventType := value }
  else if name = "data".toList then { buffer with data := buffer.data ++ value ++ ['\n'] }
  else if name = "id".toList && !value.elem '\x00' then { buffer with lastEventId := value }
  else buffer

/-- An event without data is dropped. -/
def Buffer.dispatch (buffer : Buffer) : Option Event :=
  if buffer.data = [] then none
  else
    some
      { name := if buffer.eventType = [] then "message".toList else buffer.eventType
        data := buffer.data.dropLast
        lastEventId := buffer.lastEventId }

/-- A line that starts with a colon is a comment. -/
def readLine (buffer : Buffer) (line : List Char) : Buffer × Option Event :=
  match line with
  | [] => (.empty buffer.lastEventId, buffer.dispatch)
  | ':' :: _ => (buffer, none)
  | line => (buffer.setField (splitField line).1 (splitField line).2, none)

def readLines (buffer : Buffer) : List (List Char) → List Event
  | [] => []
  | line :: rest =>
    (readLine buffer line).2.toList ++ readLines (readLine buffer line).1 rest

def parse (text : List Char) : List Event := readLines (.empty []) (lines text)

/-! ## 3. Printing -/

/-- An event with a name and one line of data. -/
def print (name data : List Char) : List Char :=
  ("event: ".toList ++ name) ++ '\n' :: (("data: ".toList ++ data) ++ ['\n', '\n'])

/-- The text has no end of a line in it. -/
def OneLine (text : List Char) : Prop := ∀ c ∈ text, isLineEnd c = false

theorem linesFrom_append (line rest : List Char) {chars : List Char} (h : OneLine chars) :
    linesFrom line (chars ++ '\n' :: rest) = (line ++ chars) :: linesFrom [] rest := by
  induction chars generalizing line with
  | nil => simp [linesFrom, isLineEnd]
  | cons c chars ih =>
    obtain ⟨hc, hchars⟩ := List.forall_mem_cons.mp h
    have hreturn : c ≠ '\r' := by
      intro heq
      rw [heq] at hc
      cases hc
    rw [List.cons_append, linesFrom, if_neg (by rw [hc]; exact Bool.false_ne_true), ih (line ++ [c]) hchars,
      List.append_assoc, List.singleton_append]
    intro _ heq
    cases heq
    exact absurd rfl hreturn

theorem oneLine_append {first second : List Char} (hfirst : OneLine first)
    (hsecond : OneLine second) : OneLine (first ++ second) := by
  intro c hc
  cases List.mem_append.mp hc with
  | inl h => exact hfirst c h
  | inr h => exact hsecond c h

theorem oneLine_of_all {text : List Char} (h : (text.all fun c => !isLineEnd c) = true) :
    OneLine text := by
  intro c hc
  simpa using List.all_eq_true.mp h c hc

/-- The names of the two fields, with the blank before their values. -/
theorem oneLine_fields : OneLine "event: ".toList ∧ OneLine "data: ".toList :=
  ⟨oneLine_of_all (by decide), oneLine_of_all (by decide)⟩

section Print

variable {name data : List Char} (hname : OneLine name) (hdata : OneLine data)

include hname hdata

/-- A printed event has three lines, whatever follows it. -/
theorem linesFrom_print (rest : List Char) :
    linesFrom [] (print name data ++ rest) =
      ("event: ".toList ++ name) :: ("data: ".toList ++ data) :: [] :: linesFrom [] rest := by
  have hevent : OneLine ("event: ".toList ++ name) := oneLine_append oneLine_fields.1 hname
  have hvalue : OneLine ("data: ".toList ++ data) := oneLine_append oneLine_fields.2 hdata
  unfold print
  rw [List.append_assoc, List.cons_append, linesFrom_append [] _ hevent, List.append_assoc,
    List.cons_append, linesFrom_append [] _ hvalue]
  rfl

end Print

/-- The three lines of a printed event dispatch it, and leave nothing of it behind. -/
theorem readLines_print {name : List Char} (hname : name ≠ []) (data lastEventId : List Char)
    (rest : List (List Char)) :
    readLines (.empty lastEventId)
        (("event: ".toList ++ name) :: ("data: ".toList ++ data) :: [] :: rest) =
      { name := name, data := data, lastEventId := lastEventId } ::
        readLines (.empty lastEventId) rest := by
  have hevent : readLine (.empty lastEventId) ("event: ".toList ++ name) =
      ({ eventType := name, data := [], lastEventId := lastEventId }, none) := rfl
  have hdata : readLine { eventType := name, data := [], lastEventId := lastEventId }
      ("data: ".toList ++ data) =
        ({ eventType := name, data := data ++ ['\n'], lastEventId := lastEventId }, none) := rfl
  have hdispatch : readLine
      { eventType := name, data := data ++ ['\n'], lastEventId := lastEventId } [] =
        (.empty lastEventId, some { name := name, data := data, lastEventId := lastEventId }) := by
    unfold readLine Buffer.dispatch
    simp only [if_neg hname, List.dropLast_concat]
    rw [if_neg (by simp)]
  rw [readLines, hevent, readLines, hdata, readLines, hdispatch]
  rfl

theorem readLines_flatMap_print (events : List (List Char × List Char))
    (h : ∀ event ∈ events, event.1 ≠ [] ∧ OneLine event.1 ∧ OneLine event.2)
    (lastEventId : List Char) :
    readLines (.empty lastEventId)
        (linesFrom [] (events.flatMap fun event => print event.1 event.2)) =
      events.map fun event =>
        { name := event.1, data := event.2, lastEventId := lastEventId } := by
  induction events with
  | nil => rfl
  | cons event events ih =>
    obtain ⟨⟨hname, hnameLine, hdataLine⟩, hevents⟩ := List.forall_mem_cons.mp h
    rw [List.flatMap_cons, linesFrom_print hnameLine hdataLine, readLines_print hname,
      List.map_cons, ih hevents]

/-- Events that are printed one after the other are read as they were. -/
theorem parse_print (events : List (List Char × List Char))
    (h : ∀ event ∈ events, event.1 ≠ [] ∧ OneLine event.1 ∧ OneLine event.2) :
    parse (events.flatMap fun event => print event.1 event.2) =
      events.map fun event => { name := event.1, data := event.2, lastEventId := [] } := by
  -- no event starts with a byte order mark
  have hlines : lines (events.flatMap fun event => print event.1 event.2) =
      linesFrom [] (events.flatMap fun event => print event.1 event.2) := by
    cases events with
    | nil => rfl
    | cons event events => rfl
  rw [parse, hlines, readLines_flatMap_print events h]

end EventStream
