import Trojan.Socks5Address

/-!
# What sessions share

The base class `Session` (`session/session.h`, `session/session.cpp`): the sizes
of the read buffers, how they grow, and what a read leaves in them.
-/

/-- `Session::DEFAULT_BUFFER_SIZE`, which is also `Session::MAX_LENGTH`. -/
def defaultBufferSize : ℕ := 16384

/-- `Session::MAX_BUFFER_SIZE`. -/
def maxBufferSize : ℕ := 65536

/-- `Session::MAX_LENGTH`. -/
def maxLength : ℕ := defaultBufferSize

/-- **`Session::resize_buffer`**: a buffer grows to what is required, at least
to twice its size, unless that is beyond the limit. New bytes are zero. -/
def resizeBuffer (buffer : Bytes) (requiredSize : ℕ) : Bytes :=
  if requiredSize > buffer.length ∧ requiredSize ≤ maxBufferSize then
    let newSize := min maxBufferSize (max (buffer.length * 2) requiredSize)
    buffer ++ List.replicate (newSize - buffer.length) 0
  else buffer

/-- The growth check of the read handlers: a buffer that a read has filled to
more than three quarters is grown to twice what was read. -/
def growAfterRead (buffer : Bytes) (length : ℕ) : Bytes :=
  if 3 * buffer.length < 4 * length then resizeBuffer buffer (length * 2) else buffer

/-- What a completed read leaves in its buffer. -/
def fillBuffer (buffer data : Bytes) : Bytes := data ++ buffer.drop data.length

/-- **Growing a buffer does not change what was read**: the handler still finds
the read at the front. -/
theorem take_growAfterRead (buffer data : Bytes) :
    (growAfterRead (fillBuffer buffer data) data.length).take data.length = data := by
  have htake (rest : Bytes) : (fillBuffer buffer data ++ rest).take data.length = data := by
    rw [fillBuffer, List.append_assoc]
    exact List.take_left
  unfold growAfterRead resizeBuffer
  split
  · split
    · exact htake _
    · have hnil := htake []
      rwa [List.append_nil] at hnil
  · have hnil := htake []
    rwa [List.append_nil] at hnil

/-- A buffer does not shrink. -/
theorem length_le_growAfterRead (buffer : Bytes) (length : ℕ) :
    buffer.length ≤ (growAfterRead buffer length).length := by
  unfold growAfterRead resizeBuffer
  split
  · split
    · simp
    · exact Nat.le_refl _
  · exact Nat.le_refl _

/-- A read that its buffer has room for leaves the buffer's size. -/
theorem length_fillBuffer {buffer data : Bytes} (h : data.length ≤ buffer.length) :
    (fillBuffer buffer data).length = buffer.length := by
  rw [fillBuffer, List.length_append, List.length_drop]
  omega

/-- A datagram: the length field of UDP has 16 bits. -/
def isDatagram (data : Bytes) : Bool := data.length < 65536

/-- How an operation ends whose handler tells its cancellation
(`operation_aborted`) from a failure. -/
inductive Outcome (α : Type) where
  | success (value : α)
  | aborted
  | failed
  deriving DecidableEq
