import Mathlib.Data.List.Basic

/-!
# Event streams

The `text/event-stream` format: how a message is written, and what a reader
dispatches of a stream, character by character. Of the messages that are written
the reader dispatches each one, once and in order. Where the stream breaks off,
it has dispatched the first of them.

The reader knows the `data` field. A line with another name is skipped, as is a
comment.
-/

namespace EventStream

def dataField : List Char := "data: ".toList

/-- A message, which is one line. -/
def message (data : List Char) : List Char := dataField ++ data ++ ['\n', '\n']

structure Reader where
  line : List Char
  afterReturn : Bool
  data : List Char
  messages : List (List Char)
  deriving DecidableEq, Repr

namespace Reader

/-- The reader between two messages. -/
def between (messages : List (List Char)) : Reader :=
  { line := [], afterReturn := false, data := [], messages }

/-- One blank behind the colon is no part of the value. -/
def fieldValue : List Char → List Char
  | ' ' :: value => value
  | value => value

def endLine (reader : Reader) : Reader :=
  if reader.line = [] then
    if reader.data = [] then reader
    else { reader with data := [], messages := reader.messages ++ [reader.data.dropLast] }
  else if reader.line.takeWhile (fun char => char ≠ ':') = "data".toList then
    { reader with
      line := []
      data :=
        reader.data ++ fieldValue ((reader.line.dropWhile fun char => char ≠ ':').drop 1) ++
          ['\n'] }
  else { reader with line := [] }

/-- A line ends with a line feed, a carriage return, or both. -/
def readChar (reader : Reader) (char : Char) : Reader :=
  if char = '\n' then
    if reader.afterReturn then { reader with afterReturn := false } else reader.endLine
  else if char = '\r' then { reader.endLine with afterReturn := true }
  else { reader with line := reader.line ++ [char], afterReturn := false }

def read (reader : Reader) (text : List Char) : Reader := text.foldl readChar reader

end Reader

/-- The messages which are dispatched from a stream. -/
def messages (text : List Char) : List (List Char) := (Reader.read (.between []) text).messages

namespace Reader

variable {reader : Reader}

theorem read_append (first second : List Char) :
    reader.read (first ++ second) = (reader.read first).read second :=
  List.foldl_append

theorem messages_endLine : reader.messages <+: reader.endLine.messages := by
  simp only [endLine]
  split
  · split
    · exact List.prefix_rfl
    · exact List.prefix_append _ _
  · split
    · exact List.prefix_rfl
    · exact List.prefix_rfl

theorem messages_readChar (char : Char) :
    reader.messages <+: (reader.readChar char).messages := by
  simp only [readChar]
  split
  · split
    · exact List.prefix_rfl
    · exact messages_endLine
  · split
    · exact messages_endLine
    · exact List.prefix_rfl

theorem messages_read (text : List Char) : reader.messages <+: (reader.read text).messages := by
  induction text generalizing reader with
  | nil => exact List.prefix_rfl
  | cons char text ih => exact (messages_readChar char).trans ih

end Reader

/-- What is dispatched stays dispatched, in its place. -/
theorem messages_append (first second : List Char) :
    messages first <+: messages (first ++ second) := by
  simp only [messages, Reader.read_append]
  exact Reader.messages_read second

/-- A text without a line break. -/
def IsLine (text : List Char) : Prop := ∀ char ∈ text, char ≠ '\n' ∧ char ≠ '\r'

namespace Reader

variable {reader : Reader}

theorem read_line {text : List Char} (isLine : IsLine text)
    (unbroken : reader.afterReturn = false) :
    reader.read text = { reader with line := reader.line ++ text } := by
  induction text generalizing reader with
  | nil => simp [read]
  | cons char text ih =>
      have plain := isLine char List.mem_cons_self
      have rest : IsLine text := fun other mem => isLine other (List.mem_cons_of_mem _ mem)
      have first : reader.readChar char = { reader with line := reader.line ++ [char] } := by
        simp [readChar, plain.1, plain.2, ← unbroken]
      calc reader.read (char :: text)
          = (reader.readChar char).read text := rfl
        _ = { reader with line := reader.line ++ [char] ++ text } := by
            rw [first]
            exact ih rest unbroken
        _ = { reader with line := reader.line ++ char :: text } := by simp

theorem read_message {data : List Char} (isLine : IsLine data) (messages : List (List Char)) :
    (between messages).read (message data) = between (messages ++ [data]) := by
  have field : IsLine (dataField ++ data) := by
    intro char mem
    rcases List.mem_append.mp mem with name | value
    · have none : dataField.all (fun char => char ≠ '\n' ∧ char ≠ '\r') = true := by decide
      simpa using List.all_eq_true.mp none char name
    · exact isLine char value
  have line := read_line field (Eq.refl (between messages).afterReturn)
  calc (between messages).read (message data)
      = (((between messages).read (dataField ++ data)).readChar '\n').readChar '\n' := by
        simp only [message, read_append]
        rw [read, List.foldl_cons, List.foldl_cons, List.foldl_nil]
    _ = between (messages ++ [data]) := by
        rw [line]
        simp [between, readChar, endLine, fieldValue, dataField]

end Reader

/-- The messages that are written are the messages that are dispatched. -/
theorem messages_flatMap {texts : List (List Char)} (lines : ∀ text ∈ texts, IsLine text) :
    messages (texts.flatMap message) = texts := by
  suffices whole : ∀ earlier, (Reader.between earlier).read (texts.flatMap message) =
      .between (earlier ++ texts) by
    rw [messages, whole []]
    rfl
  induction texts with
  | nil => simp [Reader.read]
  | cons text texts ih =>
      intro earlier
      have first := Reader.read_message (lines text List.mem_cons_self) earlier
      have rest := ih fun other mem => lines other (List.mem_cons_of_mem _ mem)
      rw [List.flatMap_cons, Reader.read_append, first, rest]
      simp

/-- Of a stream that breaks off, the first messages have been dispatched. -/
theorem messages_of_broken {texts : List (List Char)} (lines : ∀ text ∈ texts, IsLine text)
    {text : List Char} (broken : text <+: texts.flatMap message) : messages text <+: texts := by
  rcases broken with ⟨rest, whole⟩
  have dispatched := messages_append text rest
  rwa [whole, messages_flatMap lines] at dispatched

example : messages "data: one\n\n: a comment\nid: 7\ndata:two\r\ndata: lines\n\ndata: cut".toList =
    ["one".toList, "two\nlines".toList] := by
  decide

end EventStream
