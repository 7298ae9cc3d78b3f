import Mathlib.Data.Nat.NthRoot.Defs
import OpenDTP.Blocks

/-! SHA-256 as FIPS 180-4 defines it: padding to whole blocks, the message schedule by recursion,
64 rounds, and a fold of the compression over the blocks. The constants are the first 32 bits of
the fractional parts of cube and square roots of prime numbers. -/

namespace OpenDTP.Sha256.Standard
open Blocks

abbrev Word := UInt32

def rotr (amount word : Word) : Word := (word >>> amount) ||| (word <<< (32 - amount))

def ch (x y z : Word) : Word := (x &&& y) ^^^ (~~~x &&& z)
def maj (x y z : Word) : Word := (x &&& y) ^^^ (x &&& z) ^^^ (y &&& z)
def bigSigma0 (x : Word) : Word := rotr 2 x ^^^ rotr 13 x ^^^ rotr 22 x
def bigSigma1 (x : Word) : Word := rotr 6 x ^^^ rotr 11 x ^^^ rotr 25 x
def smallSigma0 (x : Word) : Word := rotr 7 x ^^^ rotr 18 x ^^^ (x >>> 3)
def smallSigma1 (x : Word) : Word := rotr 17 x ^^^ rotr 19 x ^^^ (x >>> 10)

/-- The first sixty-four prime numbers. -/
def primes : List Nat :=
  (List.range 312).filter fun n => 2 ≤ n ∧ ∀ d ∈ List.range n, 2 ≤ d → n % d ≠ 0

/-- The first 32 bits of the fractional part of a root. -/
def fraction (degree radicand : Nat) : Word :=
  UInt32.ofNat (Nat.nthRoot degree (radicand * 2 ^ (32 * degree)))

def roundConstants : List Word := primes.map (fraction 3)

structure Registers where
  a : Word
  b : Word
  c : Word
  d : Word
  e : Word
  f : Word
  g : Word
  h : Word
  deriving DecidableEq, Repr

def initial : Registers :=
  let root (index : Nat) := fraction 2 (primes.getD index 0)
  ⟨root 0, root 1, root 2, root 3, root 4, root 5, root 6, root 7⟩

/-- The `t`-th big-endian word of a block. -/
def blockWord (block : List UInt8) (t : Nat) : Word :=
  let byte (i : Nat) : Word := (block.getD (4 * t + i) 0).toUInt32
  (byte 0 <<< 24) ||| (byte 1 <<< 16) ||| (byte 2 <<< 8) ||| byte 3

/-- The message schedule. -/
def scheduled (block : List UInt8) (t : Nat) : Word :=
  if t < 16 then blockWord block t
  else
    smallSigma1 (scheduled block (t - 2)) + scheduled block (t - 7) +
      smallSigma0 (scheduled block (t - 15)) + scheduled block (t - 16)

def roundStep (block : List UInt8) (t : Nat) (r : Registers) : Registers :=
  let t1 := r.h + bigSigma1 r.e + ch r.e r.f r.g + roundConstants.getD t 0 + scheduled block t
  let t2 := bigSigma0 r.a + maj r.a r.b r.c
  ⟨t1 + t2, r.a, r.b, r.c, r.d + t1, r.e, r.f, r.g⟩

def rounds (block : List UInt8) (start : Registers) : (count : Nat) → Registers
  | 0 => start
  | count + 1 => roundStep block count (rounds block start count)

def compress (start : Registers) (block : List UInt8) : Registers :=
  let r := rounds block start 64
  ⟨r.a + start.a, r.b + start.b, r.c + start.c, r.d + start.d,
    r.e + start.e, r.f + start.f, r.g + start.g, r.h + start.h⟩

/-- The least number of zero bytes that fills the last block. -/
def zeros (length : Nat) : Nat := (119 - length % 64) % 64

/-- The big-endian bytes of a 64-bit number. -/
def lengthBytes (bits : Nat) : List UInt8 :=
  (List.range 8).map fun index => UInt8.ofNat (bits >>> (56 - 8 * index))

def pad (message : List UInt8) : List UInt8 :=
  message ++ [0x80] ++ List.replicate (zeros message.length) 0 ++
    lengthBytes (8 * message.length)

def wordBytes (word : Word) : List UInt8 :=
  [(word >>> 24).toUInt8, (word >>> 16).toUInt8, (word >>> 8).toUInt8, word.toUInt8]

def digest (r : Registers) : List UInt8 :=
  [r.a, r.b, r.c, r.d, r.e, r.f, r.g, r.h].flatMap wordBytes

def hash (message : List UInt8) : List UInt8 :=
  digest ((blocks 64 (pad message)).foldl compress initial)

theorem zeros_complete (length : Nat) : (length + 1 + zeros length + 8) % 64 = 0 := by
  unfold zeros
  omega

theorem zeros_least {length count : Nat} (complete : (length + 1 + count + 8) % 64 = 0) :
    zeros length ≤ count := by
  unfold zeros
  omega

theorem length_lengthBytes (bits : Nat) : (lengthBytes bits).length = 8 := by
  simp [lengthBytes]

theorem scheduled_early {block : List UInt8} {t : Nat} (early : t < 16) :
    scheduled block t = blockWord block t := by
  rw [scheduled, if_pos early]

theorem scheduled_late {block : List UInt8} {t : Nat} (late : 16 ≤ t) :
    scheduled block t = smallSigma1 (scheduled block (t - 2)) + scheduled block (t - 7) +
      smallSigma0 (scheduled block (t - 15)) + scheduled block (t - 16) := by
  rw [scheduled, if_neg (by omega)]

end OpenDTP.Sha256.Standard
