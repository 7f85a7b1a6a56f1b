import Cutout.VescCodec

/-! The Refloat package codec: replies carried in VESC custom-app frames, decoded
byte by byte from a bounded buffer, and the read-only requests of the package. -/

namespace Cutout.Protocols
open Library.BinaryFloat

def vescCommCustomAppData : Byte := 36
def refloatPackageInterfaceId : Byte := 101
def refloatCommandInfo : Byte := 0
def refloatCommandRealtimeData : Byte := 31
def refloatCommandRealtimeDataIds : Byte := 32
def refloatMaxRealtimeFields : Nat := 32
def refloatMaxFieldIdLen : Nat := 48
def refloatMaxFrameLen : Nat := 512
def infoStringLen : Nat := 20
def infoV2BodyLen : Nat := 58

inductive RefloatReadOnlyRequest where
  | info | realtimeDataIds | realtimeData
  deriving Repr, DecidableEq

structure RefloatInfo where
  infoVersion : Byte
  flags : Byte
  packageName : String
  packageMajor : Byte
  packageMinor : Byte
  packagePatch : Byte
  packageVersionSuffix : String
  gitHash : Nat
  tickRateHz : Nat
  capabilities : Nat
  extraFlags : Byte
  deriving Repr, DecidableEq

structure RefloatRealtimeFieldIds where
  always : List String
  runtime : List String
  deriving Repr, DecidableEq

structure RefloatRealtimeData where
  mask : Byte
  extraFlags : Byte
  timeTicks : Nat
  packageState : Nat
  packageMode : Nat
  footpadState : Nat
  charging : Bool
  fatalError : Bool
  darkride : Bool
  wheelslip : Bool
  stopCondition : Nat
  sat : Nat
  beepReason : Nat
  values : List (String × Value)
  runtimeValues : List (String × Value)
  chargingCurrent : Option Value
  chargingVoltage : Option Value
  activeAlertMaskLow : Option Nat
  activeAlertMaskHigh : Option Nat
  firmwareFaultCode : Option Byte
  deriving Repr, DecidableEq

inductive RefloatReply where
  | info (info : RefloatInfo)
  | realtimeFieldIds (ids : RefloatRealtimeFieldIds)
  | realtimeData (data : RefloatRealtimeData)
  deriving Repr, DecidableEq

inductive RefloatCodecError where
  | frameTooLong | incompleteFrame | malformedFrame | badChecksum | unexpectedVescCommand
  | unexpectedPackageInterface | unsupportedCommand | shortPayload | tooManyItems | invalidString
  | missingRealtimeFieldIds
  deriving Repr, DecidableEq

inductive RefloatStreamResult where
  | buffered
  | replies (count : Nat) (malformedFrames : Bool)
  deriving Repr, DecidableEq

/-- The unread bytes of a payload. -/
abbrev Cursor := StateT (List Byte) (Except RefloatCodecError)

namespace Cursor

def readBytes (length : Nat) : Cursor (List Byte) := fun bytes =>
  if length ≤ bytes.length then .ok (bytes.take length, bytes.drop length) else .error .shortPayload

def readU8 : Cursor Byte := do return (← readBytes 1).headD 0
def readU16 : Cursor Nat := do return unsignedFromBe (← readBytes 2)
def readU32 : Cursor Nat := do return unsignedFromBe (← readBytes 4)

/-- Valid UTF-8 that fits an `ArrayString` of the given capacity. -/
def boundedText (capacity : Nat) (bytes : List Byte) : Except RefloatCodecError String :=
  match String.fromUTF8? ⟨bytes.toArray⟩ with
  | some text => if bytes.length ≤ capacity then .ok text else .error .invalidString
  | none => .error .invalidString

def readString : Cursor String := do
  let length ← readU8
  boundedText refloatMaxFieldIdLen (← readBytes length.toNat)

end Cursor

/-- The text before the first zero byte. -/
def readFixedString (bytes : List Byte) : Except RefloatCodecError String :=
  Cursor.boundedText infoStringLen (bytes.takeWhile (· ≠ 0))

def readInfo : Cursor RefloatInfo := do
  let infoVersion ← Cursor.readU8
  if infoVersion ≠ 2 then throw .unsupportedCommand
  let flags ← Cursor.readU8
  let packageName ← readFixedString (← Cursor.readBytes infoStringLen)
  let packageMajor ← Cursor.readU8
  let packageMinor ← Cursor.readU8
  let packagePatch ← Cursor.readU8
  let packageVersionSuffix ← readFixedString (← Cursor.readBytes infoStringLen)
  let gitHash ← Cursor.readU32
  let tickRateHz ← Cursor.readU32
  let capabilities ← Cursor.readU32
  let extraFlags ← Cursor.readU8
  return { infoVersion, flags, packageName, packageMajor, packageMinor, packagePatch, packageVersionSuffix,
           gitHash, tickRateHz, capabilities, extraFlags }

def parseInfo (bytes : List Byte) : Except RefloatCodecError RefloatInfo :=
  if bytes.length < infoV2BodyLen then .error .shortPayload else (readInfo bytes).map Prod.fst

/-- Reads a list item by item; an item beyond the collection's capacity is an error. -/
def readIds : Nat → List String → Cursor (List String)
  | 0, ids => return ids
  | count + 1, ids => do
    let id ← Cursor.readString
    if ids.length < refloatMaxRealtimeFields then readIds count (ids ++ [id]) else throw .tooManyItems

def readIdList : Cursor (List String) := do readIds (← Cursor.readU8).toNat []

def readRealtimeIds : Cursor RefloatRealtimeFieldIds := do
  let always ← readIdList
  let runtime ← readIdList
  return { always, runtime }

def parseRealtimeIds (bytes : List Byte) : Except RefloatCodecError RefloatRealtimeFieldIds :=
  (readRealtimeIds bytes).map Prod.fst

/-- The loop that shifts a subnormal fraction up to its leading bit. -/
def normalizeFloat16 : Nat → Nat → Nat → Nat × Nat
  | 0, fraction, exponent => (fraction, exponent)
  | fuel + 1, fraction, exponent =>
    if fraction / 0x400 % 2 = 0 then normalizeFloat16 fuel (fraction * 2) (exponent - 1) else (fraction, exponent)

/-- `float16_to_f32`: the largest exponent stays finite. -/
def float16ToF32 (bits : Nat) : Value :=
  let sign := bits / 2 ^ 15 % 2 * 2 ^ 31
  let exponent := bits / 2 ^ 10 % 2 ^ 5
  let fraction := bits % 2 ^ 10
  let output :=
    if exponent = 0 then
      if fraction = 0 then sign
      else
        let (normal, biased) := normalizeFloat16 10 fraction 113
        sign + biased * 2 ^ 23 + normal % 2 ^ 10 * 2 ^ 13
    else sign + (exponent + 112) * 2 ^ 23 + fraction * 2 ^ 13
  Value.ofBits32 (UInt32.ofNat output)

def readFloat16 : Cursor Value := do return float16ToF32 (← Cursor.readU16)

def readValues (ids : List String) : Cursor (List (String × Value)) :=
  ids.mapM fun id => do return (id, ← readFloat16)

def readRealtimeData (ids : RefloatRealtimeFieldIds) : Cursor RefloatRealtimeData := do
  let mask ← Cursor.readU8
  let extraFlags ← Cursor.readU8
  let timeTicks ← Cursor.readU32
  let stateFlags ← Cursor.readU32
  let values ← readValues ids.always
  let runtimeValues ← if mask.toNat.testBit 0 then readValues ids.runtime else pure []
  let (chargingCurrent, chargingVoltage) ←
    if mask.toNat.testBit 1 then do
      let current ← readFloat16
      let voltage ← readFloat16
      pure (some current, some voltage)
    else pure (none, none)
  let (activeAlertMaskLow, activeAlertMaskHigh, firmwareFaultCode) ←
    if mask.toNat.testBit 2 then do
      let low ← Cursor.readU32
      let high ← Cursor.readU32
      let fault ← Cursor.readU8
      pure (some low, some high, some fault)
    else pure (none, none, none)
  return {
    mask, extraFlags, timeTicks
    packageState := stateFlags / 2 ^ 24 % 16
    packageMode := stateFlags / 2 ^ 28 % 16
    footpadState := stateFlags / 2 ^ 22 % 4
    charging := stateFlags.testBit 21
    fatalError := stateFlags.testBit 20
    darkride := stateFlags.testBit 17
    wheelslip := stateFlags.testBit 16
    stopCondition := stateFlags / 2 ^ 8 % 16
    sat := stateFlags / 2 ^ 12 % 16
    beepReason := stateFlags % 256
    values, runtimeValues, chargingCurrent, chargingVoltage
    activeAlertMaskLow, activeAlertMaskHigh, firmwareFaultCode }

def parseRealtimeData (bytes : List Byte) (ids : RefloatRealtimeFieldIds) :
    Except RefloatCodecError RefloatRealtimeData :=
  (readRealtimeData ids bytes).map Prod.fst

structure RefloatStreamDecoder where
  buffer : List Byte := []
  fieldIds : Option RefloatRealtimeFieldIds := none
  deriving Repr, DecidableEq

/-- `header_frame_len` of a buffer that starts a frame: the announced total length. -/
def refloatHeaderFrameLen (buffer : List Byte) : Except RefloatCodecError (Option Nat) :=
  let announced : Option (Nat × Nat) :=
    match buffer with
    | [] => none
    | start :: rest =>
      if start = vescFrameStartShort then rest.head?.map fun length => (length.toNat, 5)
      else match rest with
        | high :: low :: _ => some (u16FromBe high low, 6)
        | _ => none
  match announced with
  | none => .ok none
  | some (payloadLen, extra) =>
    if payloadLen = 0 ∨ payloadLen + extra > refloatMaxFrameLen then .error .frameTooLong
    else .ok (some (payloadLen + extra))

namespace RefloatStreamDecoder

/-- How many bytes the buffered frame still lacks. -/
def pendingFrameBytes (decoder : RefloatStreamDecoder) : Option Nat :=
  match refloatHeaderFrameLen decoder.buffer with
  | .ok (some frameLen) => some (frameLen - decoder.buffer.length)
  | _ => none

/-- Drops garbage, then takes a complete terminated frame off the buffer. -/
def takeNextFrame (buffer : List Byte) : List Byte × Except RefloatCodecError (Option (List Byte)) :=
  let buffer := buffer.dropWhile fun byte => byte ≠ vescFrameStartShort ∧ byte ≠ vescFrameStartLong
  match refloatHeaderFrameLen buffer with
  | .error error => (buffer.drop 1, .error error)
  | .ok none => (buffer, .ok none)
  | .ok (some frameLen) =>
    if buffer.length < frameLen then (buffer, .ok none)
    else if buffer[frameLen - 1]? ≠ some vescFrameEnd then (buffer.drop 1, .error .malformedFrame)
    else (buffer.drop frameLen, .ok (some (buffer.take frameLen)))

def framePayload (frame : List Byte) : Except RefloatCodecError (List Byte) := do
  let (payloadStart, payloadLen) ← match frame with
    | [] => throw .incompleteFrame
    | start :: rest =>
      if start = vescFrameStartShort then
        match rest with
        | length :: _ => pure (2, length.toNat)
        | [] => throw .incompleteFrame
      else if start = vescFrameStartLong then
        match rest with
        | high :: low :: _ => pure (3, u16FromBe high low)
        | _ => throw .incompleteFrame
      else throw .malformedFrame
  let payloadEnd := payloadStart + payloadLen
  if frame.length < payloadEnd + 2 then throw .incompleteFrame
  let payload := (frame.drop payloadStart).take payloadLen
  if crc16Xmodem payload ≠ unsignedFromBe ((frame.drop payloadEnd).take 2) then throw .badChecksum
  return payload

/-- One reply, which may also replace the known field ids. -/
def decodeFrame (fieldIds : Option RefloatRealtimeFieldIds) (frame : List Byte) :
    Except RefloatCodecError (RefloatReply × Option RefloatRealtimeFieldIds) := do
  let payload ← framePayload frame
  let (command, body) ← Cursor.readU8 payload
  if command ≠ vescCommCustomAppData then throw .unexpectedVescCommand
  let (package, body) ← Cursor.readU8 body
  if package ≠ refloatPackageInterfaceId then throw .unexpectedPackageInterface
  let (request, body) ← Cursor.readU8 body
  if request = refloatCommandInfo then return (.info (← parseInfo body), fieldIds)
  else if request = refloatCommandRealtimeDataIds then
    let ids ← parseRealtimeIds body
    return (.realtimeFieldIds ids, some ids)
  else if request = refloatCommandRealtimeData then
    match fieldIds with
    | none => throw .missingRealtimeFieldIds
    | some ids => return (.realtimeData (← parseRealtimeData body ids), fieldIds)
  else throw .unsupportedCommand

def isForeignFrame : RefloatCodecError → Bool
  | .unexpectedVescCommand | .unexpectedPackageInterface | .unsupportedCommand => true
  | _ => false

/-- What a feed has produced so far: the replies in order and the first error. -/
structure Progress where
  replies : List RefloatReply := []
  firstError : Option RefloatCodecError := none
  deriving Repr, DecidableEq

def Progress.fail (progress : Progress) (error : RefloatCodecError) : Progress :=
  { progress with firstError := progress.firstError.or (some error) }

/-- Every round that does not stop shortens the buffer. -/
def decodePending : Nat → RefloatStreamDecoder → Progress → RefloatStreamDecoder × Progress
  | 0, decoder, progress => (decoder, progress)
  | fuel + 1, decoder, progress =>
    match takeNextFrame decoder.buffer with
    | (buffer, .ok none) => ({ decoder with buffer }, progress)
    | (buffer, .error error) => decodePending fuel { decoder with buffer } (progress.fail error)
    | (buffer, .ok (some frame)) =>
      match decodeFrame decoder.fieldIds frame with
      | .ok (reply, fieldIds) =>
        decodePending fuel { buffer, fieldIds } { progress with replies := progress.replies ++ [reply] }
      | .error error =>
        decodePending fuel { decoder with buffer } (if isForeignFrame error then progress else progress.fail error)

def feedByte (state : RefloatStreamDecoder × Progress) (byte : Byte) : RefloatStreamDecoder × Progress :=
  let (decoder, progress) := state
  let full := decide (refloatMaxFrameLen ≤ decoder.buffer.length)
  let buffer := (if full then decoder.buffer.drop 1 else decoder.buffer) ++ [byte]
  decodePending (buffer.length + 1) { decoder with buffer } (if full then progress.fail .frameTooLong else progress)

def feedResult (decoder : RefloatStreamDecoder) (bytes : List Byte) :
    RefloatStreamDecoder × List RefloatReply × Except RefloatCodecError RefloatStreamResult :=
  let (fed, progress) := bytes.foldl feedByte (decoder, {})
  let (decoder, progress) := decodePending (fed.buffer.length + 1) fed progress
  match progress.replies, progress.firstError with
  | [], some error => (decoder, [], .error error)
  | [], none => (decoder, [], .ok .buffered)
  | replies, firstError => (decoder, replies, .ok (.replies replies.length firstError.isSome))

end RefloatStreamDecoder

def encodeCustomAppFrame (appData : List Byte) : Except RefloatCodecError (List Byte) :=
  let payload := vescCommCustomAppData :: appData
  if payload.length < 256 then
    .ok ([vescFrameStartShort, UInt8.ofNat payload.length] ++ payload ++ u16ToBe (crc16Xmodem payload) ++ [vescFrameEnd])
  else .error .frameTooLong

def encodeRefloatRequest (request : RefloatReadOnlyRequest) : Except RefloatCodecError (List Byte) :=
  encodeCustomAppFrame (refloatPackageInterfaceId :: match request with
    | .info => [refloatCommandInfo, 2, 0]
    | .realtimeDataIds => [refloatCommandRealtimeDataIds]
    | .realtimeData => [refloatCommandRealtimeData])

end Cutout.Protocols
