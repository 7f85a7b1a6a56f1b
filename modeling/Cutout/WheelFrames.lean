import Cutout.Wire

/-! The two wheel frame formats. Veteran frames announce their length behind a
three-byte magic and close with a checksum when they are long; Begode frames have
a fixed size between a header and a terminator. Both reassemblers take one byte
at a time, and both notification decoders stop at the first reported error. -/

namespace Cutout.Protocols

def maxVeteranFrameLen : Nat := 259
def veteranMagic : List Byte := [0xdc, 0x5a, 0x5c]
def veteranShortFrameMaxLen : Nat := 38

/-- The announced payload and four trailing bytes. -/
def veteranExpectedLen (bytes : List Byte) : Option Nat := bytes[3]?.map fun declared => declared.toNat + 4

def veteranUsesCrc (bytes : List Byte) : Bool := bytes[3]?.any fun declared => veteranShortFrameMaxLen < declared.toNat

/-- The big-endian word behind the announced bytes is their CRC-32. -/
def veteranCrcMatches (bytes : List Byte) : Bool :=
  match bytes[3]? with
  | none => false
  | some declared =>
    let trailer := (bytes.drop declared.toNat).take 4
    trailer.length = 4 ∧ crc32 (bytes.take declared.toNat) = unsignedFromBe trailer

inductive VeteranReassemblyError where
  | oversizedFrame (claimed max : Nat)
  | crcMismatch | invalidFrame
  deriving Repr, DecidableEq

/-- A complete frame: the magic, then as many bytes as the fourth one announces. -/
structure VeteranFrame where
  bytes : List Byte
  magic : veteranMagic <+: bytes
  sized : veteranExpectedLen bytes = some bytes.length
  deriving DecidableEq

/-- `try_from_slice`; the bounded copy cannot fail, since no announced length exceeds the buffer. -/
def VeteranFrame.tryFromSlice (bytes : List Byte) : Except VeteranReassemblyError VeteranFrame :=
  if magic : veteranMagic <+: bytes then
    if sized : veteranExpectedLen bytes = some bytes.length then .ok ⟨bytes, magic, sized⟩ else .error .invalidFrame
  else .error .invalidFrame

inductive VeteranFrameParseState where
  | seekingMagic0 | seekingMagic1 | seekingMagic2 | collecting
  deriving Repr, DecidableEq

inductive VeteranFrameParseResult where
  | seeking | buffered
  | complete (frame : VeteranFrame)
  deriving DecidableEq

def pushCandidateByte (buffer : List Byte) (byte : Byte) : Except VeteranReassemblyError (List Byte) :=
  if buffer.length < maxVeteranFrameLen then .ok (buffer ++ [byte])
  else .error (.oversizedFrame (buffer.length + 1) maxVeteranFrameLen)

namespace VeteranFrameParseState

/-- A finished candidate leaves the buffer. -/
def tryFinish (buffer : List Byte) : Except VeteranReassemblyError (List Byte × Option VeteranFrame) :=
  match veteranExpectedLen buffer with
  | none => .ok (buffer, none)
  | some expected =>
    if buffer.length < expected then .ok (buffer, none)
    else if veteranUsesCrc buffer && !veteranCrcMatches buffer then .error .crcMismatch
    else (VeteranFrame.tryFromSlice buffer).map fun frame => ([], some frame)

/-- A collected byte: the candidate may now be complete. -/
def collect (buffer : List Byte) (byte : Byte) :
    Except VeteranReassemblyError (VeteranFrameParseState × List Byte × Option VeteranFrame) := do
  let (buffer, frame) ← tryFinish (← pushCandidateByte buffer byte)
  return (if frame.isSome then .seekingMagic0 else .collecting, buffer, frame)

def feedByte (state : VeteranFrameParseState) (byte : Byte) (buffer : List Byte) :
    Except VeteranReassemblyError (VeteranFrameParseState × List Byte × Option VeteranFrame) := do
  match state with
  | .seekingMagic0 =>
    if byte = 0xdc then return (.seekingMagic1, ← pushCandidateByte [] byte, none)
    else return (.seekingMagic0, buffer, none)
  | .seekingMagic1 =>
    if byte = 0x5a then return (.seekingMagic2, ← pushCandidateByte buffer byte, none)
    else if byte = 0xdc then return (.seekingMagic1, ← pushCandidateByte [] byte, none)
    else return (.seekingMagic0, [], none)
  | .seekingMagic2 =>
    if byte = 0x5c then collect buffer byte
    else if byte = 0xdc then return (.seekingMagic1, ← pushCandidateByte [] byte, none)
    else return (.seekingMagic0, [], none)
  | .collecting => collect buffer byte

end VeteranFrameParseState

structure VeteranFrameReassembler where
  buffer : List Byte := []
  state : VeteranFrameParseState := .seekingMagic0
  deriving DecidableEq

/-- `feed_byte_result`; an error resets the reassembler. -/
def VeteranFrameReassembler.feedByteResult (reassembler : VeteranFrameReassembler) (byte : Byte) :
    VeteranFrameReassembler × Except VeteranReassemblyError VeteranFrameParseResult :=
  match reassembler.state.feedByte byte reassembler.buffer with
  | .error error => ({}, .error error)
  | .ok (state, buffer, frame) =>
    (⟨buffer, state⟩, .ok (match frame with
      | some frame => .complete frame
      | none => if buffer = [] then .seeking else .buffered))

/-- `reset` drops the candidate. -/
def VeteranFrameReassembler.reset (_ : VeteranFrameReassembler) : VeteranFrameReassembler := {}

def begodeFrameLen : Nat := 24
def begodeHeader : List Byte := [0x55, 0xaa]
def begodeTerminator : List Byte := [0x5a, 0x5a, 0x5a, 0x5a]

/-- A complete frame: 24 bytes between header and terminator. -/
structure BegodeFrame where
  bytes : List Byte
  sized : bytes.length = begodeFrameLen
  header : begodeHeader <+: bytes
  terminated : bytes.drop (begodeFrameLen - begodeTerminator.length) = begodeTerminator
  deriving DecidableEq

inductive BegodeFrameError where
  | invalidFrame
  deriving Repr, DecidableEq

def BegodeFrame.tryFromSlice (bytes : List Byte) : Except BegodeFrameError BegodeFrame :=
  if shape : bytes.length = begodeFrameLen ∧ begodeHeader <+: bytes ∧
      bytes.drop (begodeFrameLen - begodeTerminator.length) = begodeTerminator then
    .ok ⟨bytes, shape.1, shape.2.1, shape.2.2⟩
  else .error .invalidFrame

inductive BegodeFrameParseResult where
  | seeking | buffered
  | complete (frame : BegodeFrame)
  deriving DecidableEq

structure BegodeFrameReassembler where
  buffer : List Byte := []
  lastByteMs : Option Nat := none
  deriving DecidableEq

namespace BegodeFrameReassembler

/-- A terminator glitch in front of a new header is cut off. -/
def applyEmbeddedHeaderResync (buffer : List Byte) : List Byte :=
  if buffer = [0x55, 0xaa, 0x5a, 0x55, 0xaa] ∨ buffer = [0x55, 0xaa, 0x5a, 0x5a, 0x55, 0xaa] then begodeHeader
  else buffer

def feedByteResult (reassembler : BegodeFrameReassembler) (byte : Byte) :
    BegodeFrameReassembler × Except BegodeFrameError BegodeFrameParseResult :=
  match reassembler.buffer with
  | [] =>
    if byte = 0x55 then (⟨[byte], none⟩, .ok .buffered) else (reassembler, .ok .seeking)
  | [first] =>
    if byte = 0xaa then ({ reassembler with buffer := [first, byte] }, .ok .buffered)
    else if byte ≠ 0x55 then ({}, .ok .seeking)
    else (reassembler, .ok .buffered)
  | buffer =>
    let buffer := applyEmbeddedHeaderResync (buffer ++ [byte])
    if buffer.length ≠ begodeFrameLen then ({ reassembler with buffer }, .ok .buffered)
    else ({}, (BegodeFrame.tryFromSlice buffer).map .complete)

/-- Also notes when the last byte of a partial frame arrived. -/
def feedByteResultAt (reassembler : BegodeFrameReassembler) (byte : Byte) (time : Nat) :
    BegodeFrameReassembler × Except BegodeFrameError BegodeFrameParseResult :=
  match reassembler.feedByteResult byte with
  | (next, .error error) => (next, .error error)
  | (next, .ok result) =>
    ({ next with lastByteMs := if next.buffer = [] then none else some time }, .ok result)

/-- `reset` drops the candidate and its time. -/
def reset (_ : BegodeFrameReassembler) : BegodeFrameReassembler := {}

/-- A candidate whose last byte is older than the timeout is dropped. -/
def expireIdle (reassembler : BegodeFrameReassembler) (time timeout : Nat) : BegodeFrameReassembler × Bool :=
  match reassembler.lastByteMs with
  | none => (reassembler, false)
  | some last =>
    if reassembler.buffer = [] ∨ time - last ≤ timeout then (reassembler, false) else ({}, true)

end BegodeFrameReassembler

inductive WheelIngestOutcome where
  | semanticEvents | bufferedFragment | seekingFrameBoundary | parserDiagnostic (error : ParserError)
  deriving Repr, DecidableEq

/-- What a wheel decoder hands on. A frame stands for everything rendered from it. -/
inductive WheelOutput (Frame : Type) where
  | frame (frame : Frame)
  | parserError (error : ParserError)
  | notificationIngest (outcome : WheelIngestOutcome) (byteLen : Nat)
  deriving DecidableEq

/-- The telemetry behind a reassembler: it takes a complete frame and tells how many events it made of it. -/
structure FrameSink (κ Frame : Type) where
  push : κ → Frame → Nat → κ × Nat

structure VeteranNotificationDecoder (κ : Type) where
  reassembler : VeteranFrameReassembler := {}
  telemetry : κ

def VeteranReassemblyError.parserError : VeteranReassemblyError → ParserError
  | .crcMismatch => .badChecksum
  | .oversizedFrame claimed max => .oversizedFrame claimed max
  | .invalidFrame => .malformedFrame

namespace VeteranNotificationDecoder
variable {κ : Type} (sink : FrameSink κ VeteranFrame) (byteLen time : Nat)

/-- The byte loop of `handle_notification`, with whether a frame was completed and whether one is buffered. -/
def handleBytes : VeteranNotificationDecoder κ → Bool → Bool → List Byte →
    VeteranNotificationDecoder κ × List (WheelOutput VeteranFrame)
  | decoder, completed, buffered, [] =>
    (decoder, if completed then [] else
      [.notificationIngest (if buffered then .bufferedFragment else .seekingFrameBoundary) byteLen])
  | decoder, completed, _, byte :: later =>
    match decoder.reassembler.feedByteResult byte with
    | (reassembler, .ok (.complete frame)) =>
      let (telemetry, _) := sink.push decoder.telemetry frame time
      let (final, outputs) := handleBytes ⟨reassembler, telemetry⟩ true false later
      (final, .frame frame :: outputs)
    | (reassembler, .ok .buffered) => handleBytes { decoder with reassembler } completed true later
    | (reassembler, .ok .seeking) => handleBytes { decoder with reassembler } completed false later
    -- The rest of the notification is not looked at.
    | (reassembler, .error error) =>
      ({ decoder with reassembler },
        [.parserError error.parserError, .notificationIngest (.parserDiagnostic error.parserError) byteLen])

def handleNotification (decoder : VeteranNotificationDecoder κ) (bytes : List Byte) :
    VeteranNotificationDecoder κ × List (WheelOutput VeteranFrame) :=
  decoder.handleBytes sink bytes.length time false false bytes

end VeteranNotificationDecoder

structure BegodeNotificationDecoder (κ : Type) where
  reassembler : BegodeFrameReassembler := {}
  telemetry : κ

namespace BegodeNotificationDecoder
variable {κ : Type} (sink : FrameSink κ BegodeFrame) (byteLen time : Nat)

/-- The byte loop of `handle_notification`, with whether a frame was completed and the events so far. -/
def handleBytes : BegodeNotificationDecoder κ → Bool → Nat → List Byte →
    BegodeNotificationDecoder κ × List (WheelOutput BegodeFrame)
  | decoder, completed, eventCount, [] =>
    (decoder, if completed ∧ eventCount = 0 then [] else
      [.notificationIngest (if 0 < eventCount then .semanticEvents else .bufferedFragment) byteLen])
  | decoder, completed, eventCount, byte :: later =>
    match decoder.reassembler.feedByteResultAt byte time with
    | (reassembler, .ok (.complete frame)) =>
      let (telemetry, events) := sink.push decoder.telemetry frame time
      let (final, outputs) := handleBytes ⟨reassembler, telemetry⟩ true (eventCount + events) later
      (final, .frame frame :: outputs)
    | (reassembler, .ok .buffered) | (reassembler, .ok .seeking) =>
      handleBytes { decoder with reassembler } completed eventCount later
    | (reassembler, .error .invalidFrame) =>
      ({ decoder with reassembler },
        [.parserError .malformedFrame, .notificationIngest (.parserDiagnostic .malformedFrame) byteLen])

def handleNotification (decoder : BegodeNotificationDecoder κ) (bytes : List Byte) :
    BegodeNotificationDecoder κ × List (WheelOutput BegodeFrame) :=
  decoder.handleBytes sink bytes.length time false 0 bytes

end BegodeNotificationDecoder

end Cutout.Protocols
