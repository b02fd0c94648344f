import PercentFormat.Text

/-! # Output streams

A plain stream collects text. A counter lies over another stream, passes on what is written to
it and counts the characters. Streams are numbered in the order in which they were made.

* **`Stream`** — a plain stream or a counter.
* **`Streams`** — all streams, the latest first.
* **`Streams.write`** — writes to a stream and to all streams under it.
* **`Streams.writeAll`** — writes texts one after the other. -/

namespace PercentFormat

/-- An output stream. -/
inductive Stream where
  /-- It collects the text that is written. -/
  | plain (text : Text)
  /-- It passes text on to an earlier stream and counts its characters. -/
  | counter (under : Nat) (count : Int)
  deriving DecidableEq

/-- All streams, the latest first. The number of a stream is the number of those made before
it. -/
abbrev Streams := List Stream

namespace Streams

/-- The number of the stream that standard output goes to, the first one of all. -/
def standardOutput : Nat := 0

/-- Standard output alone, with nothing written. -/
def initial : Streams := [.plain []]

/-- The stream of a number. -/
def find? : Streams → Nat → Option Stream
  | [], _ => none
  | s :: earlier, i => if i = earlier.length then some s else find? earlier i

/-- One more stream, and its number. -/
def add (streams : Streams) (s : Stream) : Streams × Nat := (s :: streams, streams.length)

/-- Writes a text to the stream of a number. A counter counts it and passes it on. -/
def write : Streams → Nat → Text → Streams
  | [], _, _ => []
  | s :: earlier, i, text =>
    if i = earlier.length then
      match s with
      | .plain before => .plain (before ++ text) :: earlier
      | .counter under count => .counter under (count + text.length) :: write earlier under text
    else s :: write earlier i text

/-- The latest stream is found by the number of those made before it. -/
theorem find?_cons_length (s : Stream) (earlier : Streams) :
    find? (s :: earlier) earlier.length = some s := if_pos rfl

/-- Streams other than the latest one are found among those made before it. -/
theorem find?_cons_of_ne (s : Stream) {earlier : Streams} {i : Nat} (h : i ≠ earlier.length) :
    find? (s :: earlier) i = earlier.find? i := if_neg h

/-- A new stream gets its number, and is found under it. -/
@[simp] theorem find?_add (streams : Streams) (s : Stream) :
    (streams.add s).1.find? (streams.add s).2 = some s := find?_cons_length s streams

/-- Writing to the latest stream, a plain one, appends the text. -/
theorem write_plain (earlier : Streams) (before text : Text) :
    write (.plain before :: earlier) earlier.length text = .plain (before ++ text) :: earlier :=
  if_pos rfl

/-- Writing to the latest stream, a counter, counts the text and passes it on. -/
theorem write_counter (earlier : Streams) (under : Nat) (count : Int) (text : Text) :
    write (.counter under count :: earlier) earlier.length text
      = .counter under (count + text.length) :: earlier.write under text := if_pos rfl

/-- Writing to an earlier stream leaves the latest one as it is. -/
theorem write_of_ne (s : Stream) (earlier : Streams) {i : Nat} (h : i ≠ earlier.length)
    (text : Text) : write (s :: earlier) i text = s :: earlier.write i text := if_neg h

/-- Writing neither adds nor removes streams. -/
@[simp] theorem length_write (streams : Streams) (i : Nat) (text : Text) :
    (streams.write i text).length = streams.length := by
  induction streams generalizing i with
  | nil => rfl
  | cons s earlier ih =>
    by_cases h : i = earlier.length
    · subst h
      cases s with
      | plain before => rw [write_plain, List.length_cons, List.length_cons]
      | counter under count => rw [write_counter, List.length_cons, ih, List.length_cons]
    · rw [write_of_ne s earlier h, List.length_cons, ih, List.length_cons]

/-- Two texts written one after the other are one text. -/
theorem write_append (streams : Streams) (i : Nat) (text more : Text) :
    (streams.write i text).write i more = streams.write i (text ++ more) := by
  induction streams generalizing i with
  | nil => rfl
  | cons s earlier ih =>
    by_cases h : i = earlier.length
    · subst h
      cases s with
      | plain before =>
        rw [write_plain, write_plain, write_plain, List.append_assoc]
      | counter under count =>
        -- the second text goes to the same number, for writing keeps the number of streams
        have same : earlier.length = (write earlier under text).length := by simp
        rw [write_counter, write_counter]
        conv => lhs; rw [same]
        rw [write_counter, ih]
        simp [Int.add_assoc]
    · have h' : i ≠ (write earlier i text).length := by simpa using h
      rw [write_of_ne s earlier h, write_of_ne s _ h', write_of_ne s earlier h, ih]

/-- Writing no characters changes nothing. -/
@[simp] theorem write_nil (streams : Streams) (i : Nat) : streams.write i [] = streams := by
  induction streams generalizing i with
  | nil => rfl
  | cons s earlier ih =>
    by_cases h : i = earlier.length
    · subst h
      cases s with
      | plain before => rw [write_plain, List.append_nil]
      | counter under count =>
        rw [write_counter, ih, List.length_nil, Int.natCast_zero, Int.add_zero]
    · rw [write_of_ne s earlier h, ih]

/-- Writes texts to the stream of a number, one after the other. -/
def writeAll (streams : Streams) (i : Nat) (texts : List Text) : Streams :=
  texts.foldl (fun streams text => streams.write i text) streams

/-- Texts written one after the other are written as one. -/
theorem writeAll_eq_write (streams : Streams) (i : Nat) (texts : List Text) :
    streams.writeAll i texts = streams.write i texts.flatten := by
  induction texts generalizing streams with
  | nil => simp [writeAll]
  | cons text texts ih =>
    rw [List.flatten_cons, ← write_append, ← ih]
    rfl

/-- The text that the plain stream of a number has collected; nothing for a counter. -/
def text (streams : Streams) (i : Nat) : Text :=
  match streams.find? i with
  | some (.plain text) => text
  | _ => []

/-- The count of the counter of a number; zero for a plain stream. -/
def count (streams : Streams) (i : Nat) : Int :=
  match streams.find? i with
  | some (.counter _ count) => count
  | _ => 0

/-- The latest stream, a counter, has its own count. -/
theorem count_counter (under : Nat) (n : Int) (earlier : Streams) :
    count (.counter under n :: earlier) earlier.length = n := by
  rw [count, find?_cons_length]

end Streams

end PercentFormat
