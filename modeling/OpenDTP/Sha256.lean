import OpenDTP.Common

/-! The bundled SHA-256: a 64-byte buffer filled one byte at a time, a compression of every full
buffer, and two padding branches. The context lives on the stack, so its buffer starts with
whatever was there before. -/

namespace OpenDTP.Sha256
open Common

structure Context where
  data : Bytes
  datalen : Nat
  bitlen : UInt64
  state : List UInt32
  deriving DecidableEq, Repr

def rotRight (a b : UInt32) : UInt32 := (a >>> b) ||| (a <<< (32 - b))

def ch (x y z : UInt32) : UInt32 := (x &&& y) ^^^ (~~~x &&& z)
def maj (x y z : UInt32) : UInt32 := (x &&& y) ^^^ (x &&& z) ^^^ (y &&& z)
def ep0 (x : UInt32) : UInt32 := rotRight x 2 ^^^ rotRight x 13 ^^^ rotRight x 22
def ep1 (x : UInt32) : UInt32 := rotRight x 6 ^^^ rotRight x 11 ^^^ rotRight x 25
def sig0 (x : UInt32) : UInt32 := rotRight x 7 ^^^ rotRight x 18 ^^^ (x >>> 3)
def sig1 (x : UInt32) : UInt32 := rotRight x 17 ^^^ rotRight x 19 ^^^ (x >>> 10)

def k : List UInt32 := [
  0x428a2f98, 0x71374491, 0xb5c0fbcf, 0xe9b5dba5, 0x3956c25b, 0x59f111f1, 0x923f82a4, 0xab1c5ed5,
  0xd807aa98, 0x12835b01, 0x243185be, 0x550c7dc3, 0x72be5d74, 0x80deb1fe, 0x9bdc06a7, 0xc19bf174,
  0xe49b69c1, 0xefbe4786, 0x0fc19dc6, 0x240ca1cc, 0x2de92c6f, 0x4a7484aa, 0x5cb0a9dc, 0x76f988da,
  0x983e5152, 0xa831c66d, 0xb00327c8, 0xbf597fc7, 0xc6e00bf3, 0xd5a79147, 0x06ca6351, 0x14292967,
  0x27b70a85, 0x2e1b2138, 0x4d2c6dfc, 0x53380d13, 0x650a7354, 0x766a0abb, 0x81c2c92e, 0x92722c85,
  0xa2bfe8a1, 0xa81a664b, 0xc24b8b70, 0xc76c51a3, 0xd192e819, 0xd6990624, 0xf40e3585, 0x106aa070,
  0x19a4c116, 0x1e376c08, 0x2748774c, 0x34b0bcb5, 0x391c0cb3, 0x4ed8aa4a, 0x5b9cca4f, 0x682e6ff3,
  0x748f82ee, 0x78a5636f, 0x84c87814, 0x8cc70208, 0x90befffa, 0xa4506ceb, 0xbef9a3f7, 0xc67178f2]

/-- The big-endian word at byte `j`. -/
def wordAt (data : Bytes) (j : Nat) : UInt32 :=
  ((data.getD j 0).toUInt32 <<< 24) ||| ((data.getD (j + 1) 0).toUInt32 <<< 16) |||
    ((data.getD (j + 2) 0).toUInt32 <<< 8) ||| (data.getD (j + 3) 0).toUInt32

/-- The next entry of `m`, whose index is the length so far. -/
def expand (m : List UInt32) : UInt32 :=
  let i := m.length
  sig1 (m.getD (i - 2) 0) + m.getD (i - 7) 0 + sig0 (m.getD (i - 15) 0) + m.getD (i - 16) 0

def schedule (data : Bytes) : List UInt32 :=
  let first := (List.range 16).map (fun i => wordAt data (4 * i))
  (List.range 48).foldl (fun m _ => m ++ [expand m]) first

structure Working where
  a : UInt32
  b : UInt32
  c : UInt32
  d : UInt32
  e : UInt32
  f : UInt32
  g : UInt32
  h : UInt32

def round (m : List UInt32) (w : Working) (i : Nat) : Working :=
  let t1 := w.h + ep1 w.e + ch w.e w.f w.g + k.getD i 0 + m.getD i 0
  let t2 := ep0 w.a + maj w.a w.b w.c
  ⟨t1 + t2, w.a, w.b, w.c, w.d + t1, w.e, w.f, w.g⟩

def sha256Transform (ctx : Context) (data : Bytes) : Context :=
  let m := schedule data
  let s := ctx.state
  let start : Working := ⟨s.getD 0 0, s.getD 1 0, s.getD 2 0, s.getD 3 0,
    s.getD 4 0, s.getD 5 0, s.getD 6 0, s.getD 7 0⟩
  let w := (List.range 64).foldl (round m) start
  { ctx with state := [s.getD 0 0 + w.a, s.getD 1 0 + w.b, s.getD 2 0 + w.c, s.getD 3 0 + w.d,
      s.getD 4 0 + w.e, s.getD 5 0 + w.f, s.getD 6 0 + w.g, s.getD 7 0 + w.h] }

def sha256Init (ctx : Context) : Context :=
  { ctx with datalen := 0, bitlen := 0,
             state := [0x6a09e667, 0xbb67ae85, 0x3c6ef372, 0xa54ff53a,
               0x510e527f, 0x9b05688c, 0x1f83d9ab, 0x5be0cd19] }

/-- One iteration of the update loop. -/
def absorb (ctx : Context) (byte : Byte) : Context :=
  let filled := { ctx with data := ctx.data.set ctx.datalen byte, datalen := ctx.datalen + 1 }
  if filled.datalen = 64 then
    let pressed := sha256Transform filled filled.data
    { pressed with bitlen := pressed.bitlen + 512, datalen := 0 }
  else filled

def sha256Update (ctx : Context) (data : Bytes) : Context := data.foldl absorb ctx

/-- `while (i < limit) ctx->data[i++] = 0x00`, with `remaining` iterations to go before `limit`. -/
def fillZero (data : Bytes) (i : Nat) : (remaining : Nat) → Bytes
  | 0 => data
  | remaining + 1 => fillZero (data.set i 0) (i + 1) remaining

def byteOf (value : UInt64) (amount : UInt64) : Byte := (value >>> amount).toUInt8

/-- The eight stores of the bit length into `data[56..63]`, most significant byte first. -/
def storeLength (data : Bytes) (bitlen : UInt64) : Bytes :=
  ((((((((data.set 63 (byteOf bitlen 0)).set 62 (byteOf bitlen 8)).set 61 (byteOf bitlen 16)).set
    60 (byteOf bitlen 24)).set 59 (byteOf bitlen 32)).set 58 (byteOf bitlen 40)).set
    57 (byteOf bitlen 48)).set 56 (byteOf bitlen 56))

def padded (ctx : Context) : Context :=
  let marked := ctx.data.set ctx.datalen 0x80
  if ctx.datalen < 56 then
    { ctx with data := fillZero marked (ctx.datalen + 1) (56 - (ctx.datalen + 1)) }
  else
    let full := { ctx with data := fillZero marked (ctx.datalen + 1) (64 - (ctx.datalen + 1)) }
    let pressed := sha256Transform full full.data
    { pressed with data := List.replicate 56 0 ++ pressed.data.drop 56 }

def bigEndian (word : UInt32) : Bytes :=
  [(word >>> 24).toUInt8, (word >>> 16).toUInt8, (word >>> 8).toUInt8, word.toUInt8]

def sha256Final (ctx : Context) : Bytes :=
  let filled := padded ctx
  let counted := { filled with bitlen := filled.bitlen + UInt64.ofNat (filled.datalen * 8) }
  let last := { counted with data := storeLength counted.data counted.bitlen }
  (sha256Transform last last.data).state.flatMap bigEndian

/-- The digest computed in a context whose memory held `ctx` before. -/
def sha256On (ctx : Context) (data : Bytes) : Bytes :=
  sha256Final (sha256Update (sha256Init ctx) data)

def blank : Context := ⟨List.replicate 64 0, 0, 0, List.replicate 8 0⟩

def sha256 (data : Bytes) : Bytes := sha256On blank data

theorem length_sha256 (data : Bytes) : (sha256 data).length = 32 := rfl

end OpenDTP.Sha256
