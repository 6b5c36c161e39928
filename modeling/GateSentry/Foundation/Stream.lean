import GateSentry.Foundation.Outcome

/-!
# Byte streams

The receiving side of a network connection: the pieces in which the bytes
arrive, and how the stream ends once they are used up.  `io.ReadFull` sees the
concatenation of the pieces only.
-/

namespace GateSentry.Foundation

inductive StreamEnd where
  | eof
  | timeout
  | reset
  deriving DecidableEq

/-- The error of `io.ReadFull`. -/
inductive ReadError where
  | eof
  | unexpectedEOF
  | timeout
  | reset
  deriving DecidableEq

structure Stream where
  chunks : List Bytes
  ending : StreamEnd
  deriving DecidableEq

namespace Stream

def bytes (stream : Stream) : Bytes := stream.chunks.flatten

def prepend (buffered : Bytes) (stream : Stream) : Stream :=
  { stream with chunks := buffered :: stream.chunks }

def takeChunks : Nat → List Bytes → Bytes × List Bytes
  | _, [] => ([], [])
  | count, chunk :: rest =>
    if chunk.length ≤ count then
      let (more, remaining) := takeChunks (count - chunk.length) rest
      (chunk ++ more, remaining)
    else
      (chunk.take count, chunk.drop count :: rest)

def endError (ending : StreamEnd) (got : Bytes) : ReadError :=
  match ending with
  | .eof => if got.isEmpty then .eof else .unexpectedEOF
  | .timeout => .timeout
  | .reset => .reset

def readFull (stream : Stream) (count : Nat) : Bytes × Option ReadError × Stream :=
  let (got, remaining) := takeChunks count stream.chunks
  let error := if got.length < count then some (endError stream.ending got) else none
  (got, error, { stream with chunks := remaining })

variable (stream : Stream) (count : Nat)

theorem takeChunks_spec (chunks : List Bytes) :
    (takeChunks count chunks).1 = chunks.flatten.take count ∧
      (takeChunks count chunks).2.flatten = chunks.flatten.drop count := by
  induction chunks generalizing count with
  | nil => simp [takeChunks]
  | cons chunk rest ih =>
    rw [takeChunks, List.flatten_cons]
    split
    · next hfits =>
      simp [ih, List.take_append, List.drop_append, List.take_of_length_le hfits,
        List.drop_of_length_le hfits]
    · rw [List.take_append_of_le_length (by omega), List.drop_append_of_le_length (by omega)]
      exact ⟨rfl, List.flatten_cons⟩

theorem readFull_bytes :
    (stream.readFull count).1 = stream.bytes.take count :=
  (takeChunks_spec count stream.chunks).1

theorem readFull_rest :
    (stream.readFull count).2.2.bytes = stream.bytes.drop count :=
  (takeChunks_spec count stream.chunks).2

theorem readFull_complete_iff :
    (stream.readFull count).2.1 = none ↔ count ≤ stream.bytes.length := by
  have hgot : (takeChunks count stream.chunks).1.length = min count stream.bytes.length := by
    rw [(takeChunks_spec ..).1, List.length_take]
    rfl
  simp only [readFull]
  split
  · simp only [reduceCtorEq, false_iff]
    omega
  · simp only [true_iff]
    omega

@[simp] theorem prepend_bytes (buffered : Bytes) (stream : Stream) :
    (stream.prepend buffered).bytes = buffered ++ stream.bytes := rfl

theorem prepend_readFull_bytes :
    ((stream.readFull count).2.2.prepend (stream.readFull count).1).bytes = stream.bytes := by
  rw [prepend_bytes, readFull_bytes, readFull_rest, List.take_append_drop]

end Stream

end GateSentry.Foundation
