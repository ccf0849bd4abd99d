import MqttProtocolCore.Packet.VariableByteInteger

namespace MqttProtocolCore.Connection

open General Packet VariableByteInteger

/-- The body of a packet; a PUBLISH keeps it in shared memory. -/
inductive PacketData where
  | normal (data : Bytes)
  | publish (data : Bytes)
deriving DecidableEq

def PacketData.asSlice : PacketData → Bytes
  | normal data => data
  | publish data => data

def PacketData.len (data : PacketData) : Outcome ℕ :=
  if data.asSlice.length ≤ u32Max then .ret data.asSlice.length else .panic

structure RawPacket where
  fixedHeader : UInt8
  data : PacketData
deriving DecidableEq

namespace RawPacket

def dataAsSlice (p : RawPacket) : Bytes := p.data.asSlice

def packetType (p : RawPacket) : UInt8 := p.fixedHeader >>> 4

def flags (p : RawPacket) : UInt8 := p.fixedHeader &&& 0x0F

def remainingLength (p : RawPacket) : Outcome ℕ := p.data.len

end RawPacket

inductive PacketBuildResult where
  | complete (packet : RawPacket)
  | incomplete
  | error (e : MqttError)
deriving DecidableEq

inductive ReadState where
  | fixedHeader | remainingLength | payload
deriving DecidableEq

structure PacketBuilder where
  state : ReadState
  headerBuf : Bytes
  remainingLength : ℕ
  multiplier : ℕ
  rawBuf : Option Bytes
  rawBufOffset : ℕ
deriving DecidableEq

namespace PacketBuilder

def new : PacketBuilder where
  state := .fixedHeader
  headerBuf := []
  remainingLength := 0
  multiplier := 1
  rawBuf := none
  rawBufOffset := 0

def reset (_ : PacketBuilder) : PacketBuilder := new

def getPacketType (b : PacketBuilder) : UInt8 := b.headerBuf.headD 0

def isPublishPacket (b : PacketBuilder) : Bool := b.getPacketType &&& 0xF0 = 0x30

def finish (b : PacketBuilder) (body : Bytes) : Outcome (PacketBuilder × PacketBuildResult) :=
  match b.headerBuf with
  | [] => .panic
  | fixedHeader :: _ =>
    let packetData := if b.isPublishPacket then .publish body else .normal body
    .ret (b.reset, .complete ⟨fixedHeader, packetData⟩)

def readFixedHeader (b : PacketBuilder) (byte : UInt8) : PacketBuilder :=
  { b with headerBuf := b.headerBuf ++ [byte], state := .remainingLength }

/-- One byte of the length field; `incomplete` means that the loop goes on. -/
def readRemainingLength (b : PacketBuilder) (byte : UInt8) :
    Outcome (PacketBuilder × PacketBuildResult) :=
  let b := { b with
    headerBuf := b.headerBuf ++ [byte]
    remainingLength := b.remainingLength + (byte &&& 0x7F).toNat * b.multiplier
    multiplier := b.multiplier * 128 }
  if b.multiplier > 128 * 128 * 128 then .ret (b.reset, .error .malformedPacket)
  else if byte &&& 0x80 = 0 then
    if b.remainingLength = 0 then b.finish []
    else .ret ({ b with rawBuf := some [], rawBufOffset := 0, state := .payload }, .incomplete)
  else .ret (b, .incomplete)

def resize (buf : Bytes) (len : ℕ) : Bytes := buf.take len ++ List.replicate (len - buf.length) 0

/-- Copy what is there of the body; the result has the bytes that are left. -/
def readPayload (b : PacketBuilder) (data : Bytes) :
    Outcome (PacketBuilder × PacketBuildResult × Bytes) :=
  match b.rawBuf with
  | none => .panic
  | some rawBuf =>
    let bytesToRead := min b.remainingLength data.length
    if bytesToRead = 0 then .ret (b, .incomplete, data)
    else
      let rawBuf := (resize rawBuf (b.rawBufOffset + bytesToRead)).take b.rawBufOffset ++
        data.take bytesToRead
      let b := { b with
        rawBuf := some rawBuf
        rawBufOffset := b.rawBufOffset + bytesToRead
        remainingLength := b.remainingLength - bytesToRead }
      if b.remainingLength = 0 then do
        let (b, result) ← b.finish rawBuf
        return (b, result, data.drop bytesToRead)
      else .ret (b, .incomplete, data.drop bytesToRead)

def feedLoop (b : PacketBuilder) : Bytes → Outcome (PacketBuilder × PacketBuildResult × Bytes)
  | [] =>
    match b.state with
    | .payload => b.readPayload []
    | _ => .ret (b, .incomplete, [])
  | byte :: data =>
    match b.state with
    | .fixedHeader => feedLoop (b.readFixedHeader byte) data
    | .remainingLength =>
      match b.readRemainingLength byte with
      | .ret (b, .incomplete) => feedLoop b data
      | .ret (b, result) => .ret (b, result, data)
      | .panic => .panic
    | .payload => b.readPayload (byte :: data)

def feed (b : PacketBuilder) (data : Bytes) : Outcome (PacketBuilder × PacketBuildResult × Bytes) :=
  if data.length = 0 then .ret (b, .incomplete, data) else b.feedLoop data

end PacketBuilder

end MqttProtocolCore.Connection
