import Mathlib.Data.List.Basic

/-! The default hasher: SipHash-1-3 with both keys zero. Text is hashed as its
UTF-8 octets followed by `0xff`. -/
namespace RustStd

structure SipState where
  v0 : UInt64
  v1 : UInt64
  v2 : UInt64
  v3 : UInt64

def rotateLeft (word count : UInt64) : UInt64 :=
  (word <<< count) ||| (word >>> (64 - count))

namespace SipState

/-- The state for two zero keys. -/
def initial : SipState :=
  ⟨0x736f6d6570736575, 0x646f72616e646f6d, 0x6c7967656e657261, 0x7465646279746573⟩

def round (s : SipState) : SipState :=
  let v0 := s.v0 + s.v1
  let v1 := rotateLeft s.v1 13 ^^^ v0
  let v0 := rotateLeft v0 32
  let v2 := s.v2 + s.v3
  let v3 := rotateLeft s.v3 16 ^^^ v2
  let v0 := v0 + v3
  let v3 := rotateLeft v3 21 ^^^ v0
  let v2 := v2 + v1
  let v1 := rotateLeft v1 17 ^^^ v2
  let v2 := rotateLeft v2 32
  ⟨v0, v1, v2, v3⟩

def absorb (s : SipState) (word : UInt64) : SipState :=
  let mixed := round { s with v3 := s.v3 ^^^ word }
  { mixed with v0 := mixed.v0 ^^^ word }

def finish (s : SipState) : UInt64 :=
  let mixed := round (round (round { s with v2 := s.v2 ^^^ 0xff }))
  mixed.v0 ^^^ mixed.v1 ^^^ mixed.v2 ^^^ mixed.v3

end SipState

/-- The word of at most eight octets, the first being the lowest. -/
def littleEndian (octets : List UInt8) : UInt64 :=
  octets.foldr (fun octet word => (word <<< 8) ||| octet.toUInt64) 0

/-- Absorb all whole words; the octets left over come with the state. -/
def absorbWords : SipState → List UInt8 → SipState × List UInt8
  | state, a :: b :: c :: d :: e :: f :: g :: h :: rest =>
    absorbWords (state.absorb (littleEndian [a, b, c, d, e, f, g, h])) rest
  | state, tail => (state, tail)

/-- The last word holds the octets left over and the length modulo 256. -/
def sipHash13 (octets : List UInt8) : UInt64 :=
  let (state, tail) := absorbWords .initial octets
  let last := ((UInt64.ofNat octets.length &&& 0xff) <<< 56) ||| littleEndian tail
  (state.absorb last).finish

def hashText (text : String) : UInt64 :=
  sipHash13 (text.toList.flatMap String.utf8EncodeChar ++ [0xff])

end RustStd
