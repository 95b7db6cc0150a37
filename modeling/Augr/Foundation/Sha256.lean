import Mathlib.Data.List.Basic

/-! SHA-256 over byte strings, with 32-bit words as naturals below `2 ^ 32`.

The operations of `Nat` are written without their instances, so that the kernel evaluates the digest of a
concrete text.
-/

set_option autoImplicit false

namespace Augr.Foundation

abbrev Bytes := List UInt8

namespace Sha256

structure Registers where
  (a b c d e f g h : Nat)

def initial : Registers :=
  ⟨0x6a09e667, 0xbb67ae85, 0x3c6ef372, 0xa54ff53a, 0x510e527f, 0x9b05688c, 0x1f83d9ab, 0x5be0cd19⟩

def constants : List Nat := [
  0x428a2f98, 0x71374491, 0xb5c0fbcf, 0xe9b5dba5, 0x3956c25b, 0x59f111f1, 0x923f82a4, 0xab1c5ed5,
  0xd807aa98, 0x12835b01, 0x243185be, 0x550c7dc3, 0x72be5d74, 0x80deb1fe, 0x9bdc06a7, 0xc19bf174,
  0xe49b69c1, 0xefbe4786, 0x0fc19dc6, 0x240ca1cc, 0x2de92c6f, 0x4a7484aa, 0x5cb0a9dc, 0x76f988da,
  0x983e5152, 0xa831c66d, 0xb00327c8, 0xbf597fc7, 0xc6e00bf3, 0xd5a79147, 0x06ca6351, 0x14292967,
  0x27b70a85, 0x2e1b2138, 0x4d2c6dfc, 0x53380d13, 0x650a7354, 0x766a0abb, 0x81c2c92e, 0x92722c85,
  0xa2bfe8a1, 0xa81a664b, 0xc24b8b70, 0xc76c51a3, 0xd192e819, 0xd6990624, 0xf40e3585, 0x106aa070,
  0x19a4c116, 0x1e376c08, 0x2748774c, 0x34b0bcb5, 0x391c0cb3, 0x4ed8aa4a, 0x5b9cca4f, 0x682e6ff3,
  0x748f82ee, 0x78a5636f, 0x84c87814, 0x8cc70208, 0x90befffa, 0xa4506ceb, 0xbef9a3f7, 0xc67178f2]

def rotr (places word : Nat) : Nat :=
  Nat.mod (Nat.lor (Nat.shiftRight word places) (Nat.shiftLeft word (Nat.sub 32 places))) 4294967296

/-- The sixteen words of the schedule that the next ones depend on. -/
structure Window where
  (w0 w1 w2 w3 w4 w5 w6 w7 w8 w9 w10 w11 w12 w13 w14 w15 : Nat)

def slide : Window → Window
  | ⟨w0, w1, w2, w3, w4, w5, w6, w7, w8, w9, w10, w11, w12, w13, w14, w15⟩ =>
      ⟨w1, w2, w3, w4, w5, w6, w7, w8, w9, w10, w11, w12, w13, w14, w15,
        Nat.mod (Nat.add (Nat.add (Nat.add w0 (Nat.xor (Nat.xor (rotr 7 w1) (rotr 18 w1)) (Nat.shiftRight w1 3))) w9)
          (Nat.xor (Nat.xor (rotr 17 w14) (rotr 19 w14)) (Nat.shiftRight w14 10))) 4294967296⟩

def round (constant word : Nat) : Registers → Registers
  | ⟨a, b, c, d, e, f, g, h⟩ =>
      (fun t1 : Nat =>
        ⟨Nat.mod (Nat.add (Nat.add t1 (Nat.xor (Nat.xor (rotr 2 a) (rotr 13 a)) (rotr 22 a)))
            (Nat.xor (Nat.xor (Nat.land a b) (Nat.land a c)) (Nat.land b c))) 4294967296,
          a, b, c, Nat.mod (Nat.add d t1) 4294967296, e, f, g⟩)
        (Nat.add (Nat.add (Nat.add (Nat.add h (Nat.xor (Nat.xor (rotr 6 e) (rotr 11 e)) (rotr 25 e)))
          (Nat.xor (Nat.land e f) (Nat.land (Nat.sub 4294967295 e) g))) constant) word)

def rounds : List Nat → Window → Registers → Registers
  | [], _, registers => registers
  | constant :: rest, window, registers => rounds rest (slide window) (round constant window.w0 registers)

def add : Registers → Registers → Registers
  | ⟨a, b, c, d, e, f, g, h⟩, ⟨i, j, k, l, m, n, o, p⟩ =>
      ⟨Nat.mod (Nat.add a i) 4294967296, Nat.mod (Nat.add b j) 4294967296, Nat.mod (Nat.add c k) 4294967296,
        Nat.mod (Nat.add d l) 4294967296, Nat.mod (Nat.add e m) 4294967296, Nat.mod (Nat.add f n) 4294967296,
        Nat.mod (Nat.add g o) 4294967296, Nat.mod (Nat.add h p) 4294967296⟩

def word (a b c d : Nat) : Nat :=
  Nat.add (Nat.mul (Nat.add (Nat.mul (Nat.add (Nat.mul a 256) b) 256) c) 256) d

/-- What fills the last block of a message of so many bytes: zeros, and the number of its bits. -/
def filling (count : Nat) : List Nat :=
  List.replicate (Nat.mod (Nat.sub 29 (Nat.mod (Nat.div count 4) 16)) 16) 0 ++
    [Nat.div (Nat.mul 8 count) 4294967296, Nat.mod (Nat.mul 8 count) 4294967296]

/-- The words of the rest of a message after so many bytes, filled up to whole blocks. -/
def words (count : Nat) : Bytes → List Nat
  | a :: b :: c :: d :: rest => word a.toNat b.toNat c.toNat d.toNat :: words (Nat.add count 4) rest
  | [a, b, c] => word a.toNat b.toNat c.toNat 0x80 :: filling (Nat.add count 3)
  | [a, b] => word a.toNat b.toNat 0x80 0 :: filling (Nat.add count 2)
  | [a] => word a.toNat 0x80 0 0 :: filling (Nat.add count 1)
  | [] => word 0x80 0 0 0 :: filling count

def compress (chaining : Registers) (window : Window) : Registers := add chaining (rounds constants window chaining)

def blocks : List Nat → Registers → Registers
  | w0 :: w1 :: w2 :: w3 :: w4 :: w5 :: w6 :: w7 :: w8 :: w9 :: w10 :: w11 :: w12 :: w13 :: w14 :: w15 :: rest, chaining =>
      blocks rest (compress chaining ⟨w0, w1, w2, w3, w4, w5, w6, w7, w8, w9, w10, w11, w12, w13, w14, w15⟩)
  | _, chaining => chaining

def bigEndian (count value : Nat) : Bytes :=
  (List.range count).map fun index => UInt8.ofNat (value >>> (8 * (count - 1 - index)))

def Registers.bytes (r : Registers) : Bytes :=
  [r.a, r.b, r.c, r.d, r.e, r.f, r.g, r.h].flatMap (bigEndian 4)

def sum (message : Bytes) : Bytes := (blocks (words 0 message) initial).bytes

@[simp] theorem length_bigEndian (count value : Nat) : (bigEndian count value).length = count := by
  simp [bigEndian]

@[simp] theorem length_sum (message : Bytes) : (sum message).length = 32 := by
  simp [sum, Registers.bytes, List.flatMap_cons]

example : (sum [0x61, 0x62, 0x63]).take 4 = [0xba, 0x78, 0x16, 0xbf] ∧
    (sum (List.replicate 64 0x61)).take 4 = [0xff, 0xe0, 0x54, 0xfe] := by decide +kernel

end Sha256

end Augr.Foundation
