/-
Module: BoxProbe.Text.Utf8
Purpose: UTF-8, and what is wrong with bytes that are none.
Main exports: Utf8.encode, Utf8.decode, Utf8.Flaw, Utf8.flaw?
-/
import BoxProbe.Text.Basic

/-!
Binary frames hold UTF-8.  Decoding never fails: every maximal invalid part, that is the longest
beginning of a well-formed sequence that the next byte does not continue, or a byte that begins
none, becomes one U+FFFD.  Where bytes have to be UTF-8, the first such part is their flaw.
-/

namespace BoxProbe.Utf8

/-- What the first byte of a sequence says: how many bytes follow it, between which bounds the
second byte lies, and the bits it contributes. -/
structure Lead where
  following : Nat
  low : Nat
  high : Nat
  bits : Nat
deriving Repr, DecidableEq

/-- The well-formed first bytes of sequences of two to four bytes.  The bounds on the second byte
exclude overlong forms, surrogates and numbers from 0x110000 on. -/
def lead? (b : Nat) : Option Lead :=
  if 0xC2 ≤ b && b ≤ 0xDF then some ⟨1, 0x80, 0xBF, b - 0xC0⟩
  else if b == 0xE0 then some ⟨2, 0xA0, 0xBF, 0⟩
  else if b == 0xED then some ⟨2, 0x80, 0x9F, 0xD⟩
  else if 0xE1 ≤ b && b ≤ 0xEF then some ⟨2, 0x80, 0xBF, b - 0xE0⟩
  else if b == 0xF0 then some ⟨3, 0x90, 0xBF, 0⟩
  else if 0xF1 ≤ b && b ≤ 0xF3 then some ⟨3, 0x80, 0xBF, b - 0xF0⟩
  else if b == 0xF4 then some ⟨3, 0x80, 0x8F, 4⟩
  else none

/-- Reads the bytes that follow a first byte: the number read, or nothing if a byte does not
continue the sequence, and the bytes not consumed. -/
def continuation : (following low high bits : Nat) → List UInt8 → Option Nat × List UInt8
  | 0, _, _, bits, rest => (some bits, rest)
  | _ + 1, _, _, _, [] => (none, [])
  | n + 1, low, high, bits, b :: rest =>
    if low ≤ b.toNat && b.toNat ≤ high then
      continuation n 0x80 0xBF (bits * 64 + (b.toNat - 0x80)) rest
    else
      (none, b :: rest)

theorem length_continuation_le (following low high bits : Nat) (bytes : List UInt8) :
    (continuation following low high bits bytes).2.length ≤ bytes.length := by
  fun_induction continuation following low high bits bytes with
  | case1 => simp
  | case2 => simp
  | case3 _ _ _ _ _ _ _ ih => simp only [List.length_cons]; omega
  | case4 => simp

/-- The replacement character. -/
def replacement : Char := '\uFFFD'

/-- Decodes bytes, with one replacement character for each maximal invalid part. -/
def decodeChars : List UInt8 → List Char
  | [] => []
  | b :: rest =>
    if b.toNat < 0x80 then Char.ofNat b.toNat :: decodeChars rest
    else
      match lead? b.toNat with
      | none => replacement :: decodeChars rest
      | some lead =>
        let read := continuation lead.following lead.low lead.high lead.bits rest
        (match read.1 with
          | some n => Char.ofNat n
          | none => replacement) :: decodeChars read.2
termination_by bytes => bytes.length
decreasing_by
  all_goals simp only [List.length_cons]
  any_goals exact Nat.lt_succ_self _
  exact Nat.lt_succ_of_le (length_continuation_le ..)

/-- The string of a byte sequence. -/
def decode (bytes : List UInt8) : String :=
  String.ofList (decodeChars bytes)

/-- What is wrong with bytes. -/
inductive FlawKind where
  /-- A byte begins no sequence. -/
  | start
  /-- A byte does not continue the sequence before it. -/
  | continuation
  /-- The bytes end within a sequence. -/
  | incomplete
deriving DecidableEq, Repr

/-- What is wrong, in words. -/
def FlawKind.reason : FlawKind → String
  | .start => "invalid start byte"
  | .continuation => "invalid continuation byte"
  | .incomplete => "unexpected end of data"

/-- A part of bytes that is no UTF-8. -/
structure Flaw where
  kind : FlawKind
  start : Nat
  /-- The position behind the part. -/
  stop : Nat
deriving DecidableEq, Repr

/-- The first flaw of bytes that start at a position. -/
def flawFrom (position : Nat) : List UInt8 → Option Flaw
  | [] => none
  | b :: rest =>
    if b.toNat < 0x80 then flawFrom (position + 1) rest
    else
      match lead? b.toNat with
      | none => some ⟨.start, position, position + 1⟩
      | some lead =>
        let read := continuation lead.following lead.low lead.high lead.bits rest
        let stop := position + 1 + (rest.length - read.2.length)
        match read.1 with
        | some _ => flawFrom stop read.2
        | none => some ⟨if read.2 = [] then .incomplete else .continuation, position, stop⟩
termination_by bytes => bytes.length
decreasing_by
  all_goals simp only [List.length_cons]
  any_goals exact Nat.lt_succ_self _
  exact Nat.lt_succ_of_le (length_continuation_le ..)

/-- The first flaw of bytes. -/
def flaw? (bytes : List UInt8) : Option Flaw :=
  flawFrom 0 bytes

/-- The bytes of one character. -/
def encodeChar (c : Char) : List UInt8 :=
  let n := c.toNat
  if n < 0x80 then [n.toUInt8]
  else if n < 0x800 then [(0xC0 + n / 64).toUInt8, (0x80 + n % 64).toUInt8]
  else if n < 0x10000 then
    [(0xE0 + n / 4096).toUInt8, (0x80 + n / 64 % 64).toUInt8, (0x80 + n % 64).toUInt8]
  else
    [(0xF0 + n / 262144).toUInt8, (0x80 + n / 4096 % 64).toUInt8, (0x80 + n / 64 % 64).toUInt8,
      (0x80 + n % 64).toUInt8]

/-- The bytes of a string. -/
def encode (s : String) : List UInt8 :=
  s.toList.flatMap encodeChar

end BoxProbe.Utf8
