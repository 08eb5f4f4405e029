/-!
In-memory pipes.

A `Pipe` carries bytes one way and buffers at most `capacity` of them (64 KiB). A write takes as
many bytes as fit and reports how many; once the pipe is closed, writes fail. A read takes up
to a given number of bytes; an empty closed pipe reads as end of stream. Closing by either side
sets the one flag: the reader still drains what is buffered.

A `Duplex` is two pipes, one each way, between a local end and a peer end. Dropping an end
closes both of its pipes: its outgoing pipe for writing and its incoming pipe for reading.

Main statement: `write_size_le` (a pipe never holds more than its capacity after a write).
-/

namespace Affinity.Net

/-- The number of bytes a pipe buffers. -/
def pipeCapacity : Nat := 65536

/-- One direction of an in-memory pipe. -/
structure Pipe where
  buffer : ByteArray := ByteArray.empty
  closed : Bool := false
  deriving Inhabited

/-- What a read found. -/
inductive ReadResult where
  | bytes (b : ByteArray)
  | endOfStream
  | empty

namespace Pipe

/-- Room left in the buffer. -/
def room (p : Pipe) : Nat := pipeCapacity - p.buffer.size

/-- Writes the bytes that fit; `none` when the pipe is closed. -/
def write (p : Pipe) (data : ByteArray) : Option (Nat × Pipe) :=
  if p.closed then none
  else
    let n := min p.room data.size
    some (n, { p with buffer := p.buffer ++ data.extract 0 n })

/-- Reads up to `max` bytes. -/
def read (p : Pipe) (max : Nat) : ReadResult × Pipe :=
  if p.buffer.size = 0 then (if p.closed then .endOfStream else .empty, p)
  else
    let n := min max p.buffer.size
    (.bytes (p.buffer.extract 0 n), { p with buffer := p.buffer.extract n p.buffer.size })

/-- Closes the pipe. -/
def close (p : Pipe) : Pipe := { p with closed := true }

theorem write_size_le (p : Pipe) (data : ByteArray) (n : Nat) (q : Pipe)
    (hp : p.buffer.size ≤ pipeCapacity) (h : p.write data = some (n, q)) :
    q.buffer.size ≤ pipeCapacity := by
  unfold write at h
  split at h
  · cases h
  · cases h
    simp only [ByteArray.size_append, ByteArray.size_extract, room]
    omega

end Pipe

/-- The two pipes between a local end and a peer end. -/
structure Duplex where
  /-- Bytes the local end wrote, for the peer. -/
  toPeer : Pipe := {}
  /-- Bytes the peer wrote, for the local end. -/
  toLocal : Pipe := {}
  /-- Whether the peer end still exists. -/
  peerHeld : Bool := true
  deriving Inhabited

namespace Duplex

/-- The local end is dropped: its reader and writer both go away. -/
def dropLocal (d : Duplex) : Duplex :=
  { d with toPeer := d.toPeer.close, toLocal := d.toLocal.close }

/-- The peer end is dropped. -/
def dropPeer (d : Duplex) : Duplex :=
  { d with toPeer := d.toPeer.close, toLocal := d.toLocal.close, peerHeld := false }

end Duplex

end Affinity.Net
