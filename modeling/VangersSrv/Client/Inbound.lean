/-
The way in: the read loop of `Client::event_loop` in `client.rs`.

The socket is read into a buffer behind what is left there of an incomplete packet.  Then
the packets are cut out of the buffer one after the other, and what remains of the last one is
moved to its front.  Both bytes of a packet's length are looked up as soon as the first one is
there.  The server's end of the channel is taken to be open.
-/
import VangersSrv.Protocol

namespace VangersSrv

/-- The buffer of a connection.  Its first `buffOffset` bytes are still to be parsed. -/
structure ReadBuffer where
  buff : Bytes
  buffOffset : Nat

/-- What becomes of bytes that were read: the packets they are and the buffer for the next
read, unless the task panics or never gets to another read. -/
structure Parsed where
  delivered : List Packet
  rest : Option ReadBuffer

/-- `2 + ((buff[offset] as i16) | ((buff[offset + 1] as i16) << 8))` -/
def headerSize (lo hi : UInt8) : I16 :=
  2#16 + (BitVec.ofNat 16 lo.toNat ||| BitVec.ofNat 16 hi.toNat <<< 8)

/-- The size of the packet at an offset; indexing outside of the buffer panics. -/
def packetSize (buff : Bytes) (offset : Nat) : Option I16 := do
  let lo ← buff[offset]?
  let hi ← buff[offset + 1]?
  some (headerSize lo hi)

namespace ReadBuffer

def new : ReadBuffer := { buff := List.replicate i16Max 0, buffOffset := 0 }

/-- The loop over the packets in the buffer.  Every round but one on a packet of size 0 leaves
the offset further ahead; that one comes again for ever, and is what the fuel runs out on. -/
def parse (buff : Bytes) (buffReadableSize : Nat) : Nat → Nat → Parsed
  | 0, _ => { delivered := [], rest := none }
  | fuel + 1, offset =>
    if offset < buffReadableSize then
      match packetSize buff offset with
      | none => { delivered := [], rest := none }
      | some size =>
        -- `usize::try_from` fails, and the loop is left with the buffer as it is
        if size.msb then
          { delivered := [], rest := some { buff, buffOffset := buffReadableSize - offset } }
        else if buffReadableSize - offset < size.toNat then
          { delivered := []
            rest := some {
              buff := (buff.take buffReadableSize).drop offset ++
                List.replicate (i16Max - (buffReadableSize - offset)) 0
              buffOffset := buffReadableSize - offset } }
        else
          match Packet.fromSlice ((buff.drop offset).take size.toNat) with
          | none => { delivered := [], rest := none }
          | some p =>
            let after := parse buff buffReadableSize fuel (offset + size.toNat)
            { after with delivered := p :: after.delivered }
    else { delivered := [], rest := some { buff, buffOffset := buffReadableSize - offset } }

/-- The buffer after `n` more bytes came from the socket. -/
def fill (b : ReadBuffer) (chunk : Bytes) : Bytes :=
  b.buff.take b.buffOffset ++ chunk ++ b.buff.drop (b.buffOffset + chunk.length)

/-- One read. -/
def read (b : ReadBuffer) (chunk : Bytes) : Parsed :=
  parse (b.fill chunk) (b.buffOffset + chunk.length) (b.buffOffset + chunk.length + 1) 0

/-- The reads of a connection. -/
def receive : ReadBuffer → List Bytes → Parsed
  | b, [] => { delivered := [], rest := some b }
  | b, chunk :: chunks =>
    match (b.read chunk).rest with
    | none => b.read chunk
    | some b' =>
      { delivered := (b.read chunk).delivered ++ (b'.receive chunks).delivered
        rest := (b'.receive chunks).rest }

/-- What the socket may return: at least a byte at a time, and no more than there is room for. -/
def Fits : ReadBuffer → List Bytes → Prop
  | _, [] => True
  | b, chunk :: chunks =>
    chunk ≠ [] ∧ b.buffOffset + chunk.length ≤ i16Max ∧
      ∀ b', (b.read chunk).rest = some b' → Fits b' chunks

instance instDecidableFits : (b : ReadBuffer) → (chunks : List Bytes) → Decidable (b.Fits chunks)
  | _, [] => isTrue trivial
  | b, chunk :: chunks =>
    have := fun b' => instDecidableFits b' chunks
    inferInstanceAs (Decidable (chunk ≠ [] ∧ b.buffOffset + chunk.length ≤ i16Max ∧
      ∀ b' ∈ (b.read chunk).rest, Fits b' chunks))

end ReadBuffer

end VangersSrv
