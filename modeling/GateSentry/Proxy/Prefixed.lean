import GateSentry.Foundation.ByteText
import GateSentry.Foundation.Stream

/-!
# Connections with a prefix

Wrappers that deliver bytes which were read before, ahead of those of the connection.
-/

namespace GateSentry.Proxy

open Foundation ByteText

/-- `Read` of the connection, which returns no more than what arrives at once. -/
def readConn (conn : Stream) (size : Nat) : Bytes × Stream :=
  match conn.chunks with
  | [] => ([], conn)
  | chunk :: rest =>
    (chunk.take size,
      { conn with chunks := if chunk.length ≤ size then rest else chunk.drop size :: rest })

structure PrependConn where
  conn : Stream
  buf : Bytes
  offset : Nat := 0

def PrependConn.read (c : PrependConn) (size : Nat) : Bytes × PrependConn :=
  if c.offset < c.buf.length then
    let copied := (c.buf.drop c.offset).take size
    (copied, { c with offset := c.offset + copied.length })
  else ((readConn c.conn size).1, { c with conn := (readConn c.conn size).2 })

def PrependConn.unread (c : PrependConn) : Bytes := c.buf.drop c.offset ++ c.conn.bytes

structure InsertingConn where
  conn : Stream
  extraData : Bytes

def InsertingConn.read (c : InsertingConn) (size : Nat) : Bytes × InsertingConn :=
  if c.extraData.isEmpty then
    ((readConn c.conn size).1, { c with conn := (readConn c.conn size).2 })
  else (c.extraData.take size, { c with extraData := c.extraData.drop size })

def InsertingConn.unread (c : InsertingConn) : Bytes := c.extraData ++ c.conn.bytes

structure PeekConn where
  conn : Stream
  peeked : Bytes
  used : Bool := false

def PeekConn.read (c : PeekConn) (size : Nat) : Bytes × PeekConn :=
  if !c.used && !c.peeked.isEmpty then (c.peeked.take size, { c with used := true })
  else ((readConn c.conn size).1, { c with conn := (readConn c.conn size).2 })

def PeekConn.unread (c : PeekConn) : Bytes := (if c.used then [] else c.peeked) ++ c.conn.bytes

def peekConnectionData (conn : Stream) : PeekConn :=
  { conn := (readConn conn 3).2, peeked := (readConn conn 3).1 }

section Reads

variable {α : Type} (read : α → Nat → Bytes × α) (unread : α → Bytes)

/-- What reads into buffers of these sizes return, and what is left. -/
def reads (c : α) : List Nat → Bytes × α
  | [] => ([], c)
  | size :: rest =>
    let after := reads (read c size).2 rest
    ((read c size).1 ++ after.1, after.2)

def Lossless (c : α) (sizes : List Nat) (whole : Bytes) : Prop :=
  (reads read c sizes).1 ++ unread (reads read c sizes).2 = whole

variable {read unread}

theorem lossless_of_read (good : α → Prop) (hread : ∀ c size, good c → good (read c size).2 ∧
    (read c size).1 ++ unread (read c size).2 = unread c) (sizes : List Nat) {c : α}
    (hc : good c) : Lossless read unread c sizes (unread c) := by
  unfold Lossless
  induction sizes generalizing c with
  | nil => rfl
  | cons size rest ih =>
    obtain ⟨hgood, hsame⟩ := hread c size hc
    rw [reads, List.append_assoc, ih hgood, hsame]

end Reads

theorem readConn_bytes (conn : Stream) (size : Nat) :
    (readConn conn size).1 ++ (readConn conn size).2.bytes = conn.bytes := by
  unfold readConn Stream.bytes
  split
  · rfl
  · next chunk rest hchunks =>
    rw [hchunks]
    split
    · next hfits => simp [List.take_of_length_le hfits]
    · simp [← List.append_assoc]

theorem PeekConn.lossless {c : PeekConn} (sizes : List Nat) (h : c.used = true ∨ c.peeked = []) :
    Lossless PeekConn.read PeekConn.unread c sizes c.unread := by
  refine lossless_of_read (fun c => c.used = true ∨ c.peeked = []) (fun c size h => ?_) sizes h
  have hidle : (!c.used && !c.peeked.isEmpty) = false := by rcases h with h | h <;> simp [h]
  have hnone : (if c.used then [] else c.peeked) = [] := by rcases h with h | h <;> simp [h]
  simpa [PeekConn.read, PeekConn.unread, hidle, hnone, readConn_bytes] using h

/-- Nothing is lost, but for what the first buffer leaves of the bytes that were peeked at. -/
theorem reads_lossless_iff (data : Bytes) (conn : Stream) (sizes : List Nat) :
    Lossless PrependConn.read PrependConn.unread ⟨conn, data, 0⟩ sizes (data ++ conn.bytes) ∧
    Lossless InsertingConn.read InsertingConn.unread ⟨conn, data⟩ sizes (data ++ conn.bytes) ∧
    (Lossless PeekConn.read PeekConn.unread ⟨conn, data, false⟩ sizes (data ++ conn.bytes) ↔
      ∀ size ∈ sizes.head?, data.length ≤ size) := by
  refine ⟨?_, ?_, ?_⟩
  · refine lossless_of_read (fun _ => True) (fun c size _ => ⟨trivial, ?_⟩) sizes trivial
    unfold PrependConn.read PrependConn.unread
    dsimp only
    split
    · have hrest : c.buf.drop (c.offset + ((c.buf.drop c.offset).take size).length) =
          (c.buf.drop c.offset).drop size := by
        rw [List.drop_drop, List.length_take, List.length_drop, List.drop_eq_drop_iff]
        omega
      rw [hrest, ← List.append_assoc, List.take_append_drop]
    · next hend => simp [List.drop_of_length_le (Nat.not_lt.mp hend), readConn_bytes]
  · refine lossless_of_read (fun _ => True) (fun c size _ => ⟨trivial, ?_⟩) sizes trivial
    unfold InsertingConn.read InsertingConn.unread
    split
    · next hend => simp [List.isEmpty_iff.mp hend, readConn_bytes]
    · rw [← List.append_assoc, List.take_append_drop]
  · cases sizes with
    | nil => simp [Lossless, reads, PeekConn.unread]
    | cons size rest =>
      by_cases hdata : data = []
      · subst hdata
        exact iff_of_true (PeekConn.lossless _ (.inr rfl)) (by simp)
      · have hrest := @PeekConn.lossless ⟨conn, data, true⟩ rest (.inl rfl)
        have hfirst : PeekConn.read ⟨conn, data, false⟩ size =
            (data.take size, ⟨conn, data, true⟩) := by
          simp [PeekConn.read, hdata]
        unfold Lossless at hrest ⊢
        rw [reads, hfirst, List.append_assoc, hrest]
        simp only [PeekConn.unread, if_true, List.nil_append, List.append_left_inj,
          List.head?_cons, Option.mem_some_iff, forall_eq']
        exact ⟨fun h => h ▸ List.length_take_le size data, List.take_of_length_le⟩

/-- A buffer of one byte loses the rest of what was peeked at. -/
theorem peekConn_loses :
    (reads PeekConn.read (peekConnectionData ⟨[utf8 "GET /"], .eof⟩) [1, 2]).1 = utf8 "G /" := by
  decide

end GateSentry.Proxy
