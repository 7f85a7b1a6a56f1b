import Cutout.VescCodec
import Cutout.Library.Scanner

/-! The bounded streaming decoder. Bytes accumulate in a fixed buffer between two
positions; a feed appends a chunk, then consumes complete frames and garbage
from the read position until it waits, runs dry, or holds a full batch of replies. -/

namespace Cutout.Protocols
open Library

structure VescReadOnlyStreamDecoder where
  buffer : List Byte
  readPosition : Nat
  writePosition : Nat
  deriving Repr, DecidableEq

inductive VescReadOnlyStreamResult where
  | buffered
  | replies (replies : List VescReadOnlyReply) (malformedFrames : Bool)
  deriving Repr, DecidableEq

/-- `slice.get(from..to)`. -/
def byteSlice (bytes : List Byte) (start finish : Nat) : Option (List Byte) :=
  if start ≤ finish ∧ finish ≤ bytes.length then some ((bytes.take finish).drop start) else none

namespace VescReadOnlyStreamDecoder

def new : VescReadOnlyStreamDecoder := ⟨List.replicate vescMaxFrameLen 0, 0, 0⟩

/-- Moves the unread bytes to the front of the buffer. -/
def compact (decoder : VescReadOnlyStreamDecoder) : VescReadOnlyStreamDecoder :=
  if decoder.readPosition = 0 then decoder
  else
    let unread := (decoder.buffer.take decoder.writePosition).drop decoder.readPosition
    { buffer := unread ++ decoder.buffer.drop unread.length
      readPosition := 0
      writePosition := decoder.writePosition - decoder.readPosition }

/-- `copy_from_slice` at the write position. -/
def write (decoder : VescReadOnlyStreamDecoder) (bytes : List Byte) : VescReadOnlyStreamDecoder :=
  { decoder with
    buffer := decoder.buffer.take decoder.writePosition ++ bytes ++
      decoder.buffer.drop (decoder.writePosition + bytes.length)
    writePosition := decoder.writePosition + bytes.length }

def advance (decoder : VescReadOnlyStreamDecoder) (length : Nat) : VescReadOnlyStreamDecoder :=
  { decoder with readPosition := decoder.readPosition + length }

/-- The bytes between the two positions. -/
def pending (decoder : VescReadOnlyStreamDecoder) : List Byte :=
  (decoder.buffer.take decoder.writePosition).drop decoder.readPosition

/-- The `while` loop of `feed_result`, with the replies so far and whether garbage was seen. -/
def feedLoop (vesc : VescCrate) : Nat → VescReadOnlyStreamDecoder → List VescReadOnlyReply → Bool →
    VescReadOnlyStreamDecoder × Except VescCodecError (List VescReadOnlyReply × Bool)
  | 0, decoder, replies, sawInvalidFrame => (decoder, .ok (replies, sawInvalidFrame))
  | fuel + 1, decoder, replies, sawInvalidFrame =>
    if decoder.readPosition < decoder.writePosition then
      match byteSlice decoder.buffer decoder.readPosition decoder.writePosition with
      | none => (decoder, .error .decodeFailed)
      | some frame =>
        match frameLen frame with
        | .ok (some length) =>
          match byteSlice frame 0 length with
          | none => (decoder, .error .decodeFailed)
          | some complete =>
            if vescMaxStreamReplies ≤ replies.length then (decoder, .ok (replies, sawInvalidFrame))
            else match vesc.decodeFrame complete with
              | .ok reply => feedLoop vesc fuel (decoder.advance length) (replies ++ [reply]) sawInvalidFrame
              -- A semantically invalid frame is consumed whole: its framing was already checked.
              | .error _ => feedLoop vesc fuel (decoder.advance length) replies true
        | .ok none => (decoder, .ok (replies, sawInvalidFrame))
        | .error _ =>
          feedLoop vesc fuel (decoder.advance ((recoverableFrameLen frame).getD 1)) replies true
    else (decoder, .ok (replies, sawInvalidFrame))

/-- A chunk is refused when the compacted buffer has no room for all of it. -/
def refuses (decoder : VescReadOnlyStreamDecoder) (bytes : List Byte) : Bool :=
  decide (decoder.compact.buffer.length - decoder.compact.writePosition < bytes.length)

def feedResult (vesc : VescCrate) (decoder : VescReadOnlyStreamDecoder) (bytes : List Byte) :
    VescReadOnlyStreamDecoder × Except VescCodecError VescReadOnlyStreamResult :=
  if decoder.refuses bytes then (decoder.compact, .error .decodeFailed)
  else
    let written := decoder.compact.write bytes
    match feedLoop vesc written.writePosition written [] false with
    | (decoder, .error error) => (decoder, .error error)
    | (decoder, .ok (replies, sawInvalidFrame)) =>
      if replies = [] ∧ sawInvalidFrame then (decoder, .error .decodeFailed)
      else if replies = [] then (decoder, .ok .buffered)
      else (decoder, .ok (.replies replies sawInvalidFrame))

end VescReadOnlyStreamDecoder

def feedReplies : Except VescCodecError VescReadOnlyStreamResult → List VescReadOnlyReply
  | .ok (.replies replies _) => replies
  | _ => []

namespace VescReadOnlyStreamDecoder
variable (vesc : VescCrate)

/-- Feeds the chunks in order and collects the replies of every call. -/
def feedAll (decoder : VescReadOnlyStreamDecoder) : List (List Byte) →
    VescReadOnlyStreamDecoder × List VescReadOnlyReply
  | [] => (decoder, [])
  | chunk :: chunks =>
    let (fed, result) := decoder.feedResult vesc chunk
    let (final, later) := feedAll fed chunks
    (final, feedReplies result ++ later)

/-- Feeds empty chunks until a call produces no reply. -/
def drain : Nat → VescReadOnlyStreamDecoder → VescReadOnlyStreamDecoder × List VescReadOnlyReply
  | 0, decoder => (decoder, [])
  | fuel + 1, decoder =>
    let (fed, result) := decoder.feedResult vesc []
    match feedReplies result with
    | [] => (fed, [])
    | replies =>
      let (final, later) := drain fuel fed
      (final, replies ++ later)

/-- No chunk of the sequence is refused for lack of buffer space. -/
def Accepts (decoder : VescReadOnlyStreamDecoder) : List (List Byte) → Prop
  | [] => True
  | chunk :: chunks => decoder.refuses chunk = false ∧ Accepts (decoder.feedResult vesc chunk).1 chunks

end VescReadOnlyStreamDecoder

/-- Everything a new decoder gives out for a sequence of chunks, empty feeds at the end included. -/
def streamedReplies (vesc : VescCrate) (chunks : List (List Byte)) : List VescReadOnlyReply :=
  let (decoder, replies) := VescReadOnlyStreamDecoder.new.feedAll vesc chunks
  replies ++ (decoder.drain vesc (decoder.writePosition + 1)).2

end Cutout.Protocols
