/-
Module: BoxProbe.Proofs.Text.Utf8
Purpose: What decoding bytes comes to: characters, and one replacement for each invalid part.
Trusted boundary: none
Main exports: Utf8.Invalid, Utf8.Decodes, Utf8.decodes_iff, Utf8.decode_encode, Utf8.encode_eq
-/
import BoxProbe.Text.Utf8
import Mathlib.Tactic.SplitIfs
import Mathlib.Data.List.Infix

/-!
A reader of bytes has a table of first bytes and a loop over the bytes that follow them.  What it
reads is described here without either.  Bytes are a row of characters and of maximal invalid parts
(`Decodes`), and a part is invalid (`Invalid`) if no character begins there and it is the longest
beginning of the bytes that some character begins with, or a single byte.  Every row of bytes is
decoded in exactly one way, and that is what the reader returns (`decodes_iff`).
-/

namespace BoxProbe.Utf8

/-! ### The bytes of one character -/

/-- The first bytes of sequences of two, three and four bytes. -/
theorem lead?_eq_some_iff {b : Nat} {lead : Lead} :
    lead? b = some lead ↔
      (lead.following = 1 ∧ 0xC2 ≤ b ∧ b ≤ 0xDF ∧ lead.low = 0x80 ∧ lead.high = 0xBF ∧
          lead.bits = b - 0xC0) ∨
        (lead.following = 2 ∧ 0xE0 ≤ b ∧ b ≤ 0xEF ∧
          lead.low = (if b = 0xE0 then 0xA0 else 0x80) ∧
          lead.high = (if b = 0xED then 0x9F else 0xBF) ∧ lead.bits = b - 0xE0) ∨
        (lead.following = 3 ∧ 0xF0 ≤ b ∧ b ≤ 0xF4 ∧
          lead.low = (if b = 0xF0 then 0x90 else 0x80) ∧
          lead.high = (if b = 0xF4 then 0x8F else 0xBF) ∧ lead.bits = b - 0xF0) := by
  obtain ⟨following, low, high, bits⟩ := lead
  simp only [lead?, Bool.and_eq_true, decide_eq_true_eq, beq_iff_eq]
  split_ifs <;> simp_all <;> omega

theorem continuation_zero (low high bits : Nat) (rest : List UInt8) :
    continuation 0 low high bits rest = (some bits, rest) := by
  cases rest <;> rfl

/-- A byte within the bounds is read, and the bytes that follow it have the usual bounds. -/
theorem continuation_cons {n low high bits : Nat} {b : UInt8} {rest : List UInt8}
    (within : low ≤ b.toNat ∧ b.toNat ≤ high) :
    continuation (n + 1) low high bits (b :: rest) =
      continuation n 0x80 0xBF (bits * 64 + (b.toNat - 0x80)) rest := by
  simp [continuation, within]

theorem continuation_succ_eq_some {n low high bits m : Nat} {rest behind : List UInt8}
    (h : continuation (n + 1) low high bits rest = (some m, behind)) :
    ∃ b more, rest = b :: more ∧ low ≤ b.toNat ∧ b.toNat ≤ high ∧
      continuation n 0x80 0xBF (bits * 64 + (b.toNat - 0x80)) more = (some m, behind) := by
  cases rest with
  | nil => cases h
  | cons b more =>
    rw [continuation] at h
    split at h
    next within =>
      simp only [Bool.and_eq_true, decide_eq_true_eq] at within
      exact ⟨b, more, rfl, within.1, within.2, h⟩
    next => cases h

theorem exists_lead {b : Nat} (low : 0xC2 ≤ b) (high : b ≤ 0xF4) : ∃ lead, lead? b = some lead := by
  simp only [lead?, Bool.and_eq_true, decide_eq_true_eq, beq_iff_eq]
  split_ifs
  all_goals first | exact ⟨_, rfl⟩ | omega

/-- A number that is no surrogate is that of a character. -/
theorem exists_char {n : Nat} (h : n < 0xD800 ∨ 0xDFFF < n ∧ n < 0x110000) :
    ∃ c : Char, c.toNat = n := by
  refine ⟨Char.ofNat n, ?_⟩
  rw [Char.ofNat, dif_pos h]
  rfl

theorem toNat_toUInt8 {n : Nat} (h : n < 256) : n.toUInt8.toNat = n :=
  UInt8.toNat_ofNat_of_lt' h

section

variable {c : Char}

theorem encodeChar_ascii (h : c.toNat < 0x80) :
    ∃ b₀ : UInt8, encodeChar c = [b₀] ∧ b₀.toNat = c.toNat :=
  ⟨_, if_pos h, toNat_toUInt8 (by omega)⟩

theorem encodeChar_two (h : 0x80 ≤ c.toNat) (h' : c.toNat < 0x800) :
    ∃ b₀ b₁ : UInt8, encodeChar c = [b₀, b₁] ∧ b₀.toNat = 0xC0 + c.toNat / 64 ∧
      b₁.toNat = 0x80 + c.toNat % 64 := by
  refine ⟨_, _, ?_, toNat_toUInt8 ?_, toNat_toUInt8 ?_⟩
  · rw [encodeChar, if_neg (by omega), if_pos h']
  all_goals omega

theorem encodeChar_three (h : 0x800 ≤ c.toNat) (h' : c.toNat < 0x10000) :
    ∃ b₀ b₁ b₂ : UInt8, encodeChar c = [b₀, b₁, b₂] ∧ b₀.toNat = 0xE0 + c.toNat / 4096 ∧
      b₁.toNat = 0x80 + c.toNat / 64 % 64 ∧ b₂.toNat = 0x80 + c.toNat % 64 := by
  refine ⟨_, _, _, ?_, toNat_toUInt8 ?_, toNat_toUInt8 ?_, toNat_toUInt8 ?_⟩
  · rw [encodeChar, if_neg (by omega), if_neg (by omega), if_pos h']
  all_goals omega

theorem encodeChar_four (h : 0x10000 ≤ c.toNat) :
    ∃ b₀ b₁ b₂ b₃ : UInt8, encodeChar c = [b₀, b₁, b₂, b₃] ∧ b₀.toNat = 0xF0 + c.toNat / 262144 ∧
      b₁.toNat = 0x80 + c.toNat / 4096 % 64 ∧ b₂.toNat = 0x80 + c.toNat / 64 % 64 ∧
      b₃.toNat = 0x80 + c.toNat % 64 := by
  have valid : c.toNat < 0xD800 ∨ 0xDFFF < c.toNat ∧ c.toNat < 0x110000 := c.valid
  refine ⟨_, _, _, _, ?_, toNat_toUInt8 ?_, toNat_toUInt8 ?_, toNat_toUInt8 ?_,
    toNat_toUInt8 ?_⟩
  · rw [encodeChar, if_neg (by omega), if_neg (by omega), if_neg (by omega)]
  all_goals omega

end

/-- A first byte and the bytes that continue it are the bytes of a character. -/
theorem encodeChar_of_continuation {b : UInt8} {lead : Lead} {n : Nat} {rest behind : List UInt8}
    (leads : lead? b.toNat = some lead)
    (read : continuation lead.following lead.low lead.high lead.bits rest = (some n, behind)) :
    ∃ c : Char, c.toNat = n ∧ b :: rest = encodeChar c ++ behind := by
  rcases lead?_eq_some_iff.mp leads with two | three | four
  · obtain ⟨following, first, last, low, high, bits⟩ := two
    rw [following] at read
    obtain ⟨b₁, more, rfl, low₁, high₁, read⟩ := continuation_succ_eq_some read
    rw [continuation_zero] at read
    obtain ⟨number, rfl⟩ := Prod.mk.inj read
    have number := Option.some.inj number
    obtain ⟨c, rfl⟩ := exists_char (n := n) (by omega)
    obtain ⟨c₀, c₁, bytes, eq₀, eq₁⟩ := encodeChar_two (c := c) (by omega) (by omega)
    obtain rfl : c₀ = b := UInt8.toNat_inj.mp (by omega)
    obtain rfl : c₁ = b₁ := UInt8.toNat_inj.mp (by omega)
    exact ⟨c, rfl, by rw [bytes]; rfl⟩
  · obtain ⟨following, first, last, low, high, bits⟩ := three
    rw [following] at read
    obtain ⟨b₁, more, rfl, low₁, high₁, read⟩ := continuation_succ_eq_some read
    obtain ⟨b₂, more, rfl, low₂, high₂, read⟩ := continuation_succ_eq_some read
    rw [continuation_zero] at read
    obtain ⟨number, rfl⟩ := Prod.mk.inj read
    have number := Option.some.inj number
    have tail₁ : 0x80 ≤ b₁.toNat ∧ b₁.toNat ≤ 0xBF := by split_ifs at low high <;> omega
    -- The bounds on the second byte exclude overlong forms and surrogates.
    have range : 0x800 ≤ n ∧ (n < 0xD800 ∨ 0xDFFF < n ∧ n < 0x10000) := by
      split_ifs at low high <;> omega
    obtain ⟨c, rfl⟩ := exists_char (n := n) (by omega)
    obtain ⟨c₀, c₁, c₂, bytes, eq₀, eq₁, eq₂⟩ :=
      encodeChar_three (c := c) (by omega) (by omega)
    obtain rfl : c₀ = b := UInt8.toNat_inj.mp (by omega)
    obtain rfl : c₁ = b₁ := UInt8.toNat_inj.mp (by omega)
    obtain rfl : c₂ = b₂ := UInt8.toNat_inj.mp (by omega)
    exact ⟨c, rfl, by rw [bytes]; rfl⟩
  · obtain ⟨following, first, last, low, high, bits⟩ := four
    rw [following] at read
    obtain ⟨b₁, more, rfl, low₁, high₁, read⟩ := continuation_succ_eq_some read
    obtain ⟨b₂, more, rfl, low₂, high₂, read⟩ := continuation_succ_eq_some read
    obtain ⟨b₃, more, rfl, low₃, high₃, read⟩ := continuation_succ_eq_some read
    rw [continuation_zero] at read
    obtain ⟨number, rfl⟩ := Prod.mk.inj read
    have number := Option.some.inj number
    have tail₁ : 0x80 ≤ b₁.toNat ∧ b₁.toNat ≤ 0xBF := by split_ifs at low high <;> omega
    have range : 0x10000 ≤ n ∧ n < 0x110000 := by split_ifs at low high <;> omega
    obtain ⟨c, rfl⟩ := exists_char (n := n) (by omega)
    obtain ⟨c₀, c₁, c₂, c₃, bytes, eq₀, eq₁, eq₂, eq₃⟩ := encodeChar_four (c := c) (by omega)
    obtain rfl : c₀ = b := UInt8.toNat_inj.mp (by omega)
    obtain rfl : c₁ = b₁ := UInt8.toNat_inj.mp (by omega)
    obtain rfl : c₂ = b₂ := UInt8.toNat_inj.mp (by omega)
    obtain rfl : c₃ = b₃ := UInt8.toNat_inj.mp (by omega)
    exact ⟨c, rfl, by rw [bytes]; rfl⟩

/-- The bytes of a character beyond ASCII are a first byte and bytes that continue it. -/
theorem continuation_encodeChar {c : Char} (h : 0x80 ≤ c.toNat) :
    ∃ b tail lead, encodeChar c = b :: tail ∧ lead? b.toNat = some lead ∧
      ∀ rest, continuation lead.following lead.low lead.high lead.bits (tail ++ rest) =
        (some c.toNat, rest) := by
  have valid : c.toNat < 0xD800 ∨ 0xDFFF < c.toNat ∧ c.toNat < 0x110000 := c.valid
  by_cases two : c.toNat < 0x800
  · obtain ⟨b₀, b₁, bytes, eq₀, eq₁⟩ := encodeChar_two h two
    obtain ⟨lead, leads⟩ := exists_lead (b := b₀.toNat) (by omega) (by omega)
    obtain ⟨following, low, high, bits⟩ : lead.following = 1 ∧ lead.low = 0x80 ∧
        lead.high = 0xBF ∧ lead.bits = c.toNat / 64 := by
      have cases := lead?_eq_some_iff.mp leads
      omega
    refine ⟨b₀, [b₁], lead, bytes, leads, fun rest => ?_⟩
    have number : lead.bits * 64 + (b₁.toNat - 0x80) = c.toNat := by omega
    rw [following, List.singleton_append, continuation_cons (by omega), continuation_zero, number]
  by_cases three : c.toNat < 0x10000
  · obtain ⟨b₀, b₁, b₂, bytes, eq₀, eq₁, eq₂⟩ := encodeChar_three (by omega) three
    obtain ⟨lead, leads⟩ := exists_lead (b := b₀.toNat) (by omega) (by omega)
    obtain ⟨following, bits, within⟩ : lead.following = 2 ∧ lead.bits = c.toNat / 4096 ∧
        lead.low ≤ b₁.toNat ∧ b₁.toNat ≤ lead.high := by
      have cases := lead?_eq_some_iff.mp leads
      split_ifs at cases <;> omega
    refine ⟨b₀, [b₁, b₂], lead, bytes, leads, fun rest => ?_⟩
    have number : (lead.bits * 64 + (b₁.toNat - 0x80)) * 64 + (b₂.toNat - 0x80) = c.toNat := by
      omega
    rw [following, List.cons_append, List.singleton_append, continuation_cons within,
      continuation_cons (by omega), continuation_zero, number]
  · obtain ⟨b₀, b₁, b₂, b₃, bytes, eq₀, eq₁, eq₂, eq₃⟩ := encodeChar_four (c := c) (by omega)
    obtain ⟨lead, leads⟩ := exists_lead (b := b₀.toNat) (by omega) (by omega)
    obtain ⟨following, bits, within⟩ : lead.following = 3 ∧ lead.bits = c.toNat / 262144 ∧
        lead.low ≤ b₁.toNat ∧ b₁.toNat ≤ lead.high := by
      have cases := lead?_eq_some_iff.mp leads
      split_ifs at cases <;> omega
    refine ⟨b₀, [b₁, b₂, b₃], lead, bytes, leads, fun rest => ?_⟩
    have number : ((lead.bits * 64 + (b₁.toNat - 0x80)) * 64 + (b₂.toNat - 0x80)) * 64 +
        (b₃.toNat - 0x80) = c.toNat := by
      omega
    rw [following, List.cons_append, List.cons_append, List.singleton_append,
      continuation_cons within, continuation_cons (by omega), continuation_cons (by omega),
      continuation_zero, number]

/-! ### Parts that are no character -/

/-- The beginning of the bytes of some character. -/
def Begins (part : List UInt8) : Prop :=
  ∃ c : Char, part <+: encodeChar c

/-- A maximal invalid part at the front of bytes that begin with no character: the longest beginning
of them that begins some character, or one byte if even that begins none. -/
structure Invalid (part rest : List UInt8) : Prop where
  nonempty : part ≠ []
  unreadable : ∀ c : Char, ¬ encodeChar c <+: part ++ rest
  subpart : Begins part ∨ part.length = 1
  longest : ∀ other, other <+: part ++ rest → Begins other → other.length ≤ part.length

/-- The bytes of characters and maximal invalid parts, in any order, and the characters that they
stand for: themselves, and a replacement character for each part. -/
inductive Decodes : List UInt8 → List Char → Prop where
  | nil : Decodes [] []
  | char (c : Char) {rest : List UInt8} {cs : List Char} (behind : Decodes rest cs) :
      Decodes (encodeChar c ++ rest) (c :: cs)
  | invalid {part rest : List UInt8} {cs : List Char} (front : Invalid part rest)
      (behind : Decodes rest cs) : Decodes (part ++ rest) (replacement :: cs)

/-- Only one maximal invalid part is at the front of bytes. -/
theorem Invalid.unique {part rest part' rest' : List UInt8} (h : Invalid part rest)
    (h' : Invalid part' rest') (same : part ++ rest = part' ++ rest') : rest = rest' := by
  have shorter {p r p' r' : List UInt8} (h : Invalid p r) (h' : Invalid p' r')
      (same : p ++ r = p' ++ r') : p.length ≤ p'.length := by
    rcases h.subpart with begins | single
    · exact h'.longest p (same ▸ List.prefix_append p r) begins
    · have some_byte := List.length_pos_iff.mpr h'.nonempty
      omega
  exact (List.append_inj same (Nat.le_antisymm (shorter h h' same) (shorter h' h same.symm))).2

/-- Bytes can always be added that complete a sequence. -/
theorem exists_continuation (n : Nat) {low high : Nat} (bits : Nat) (range : low ≤ high)
    (small : high < 256) : ∃ more m, continuation n low high bits more = (some m, []) := by
  induction n generalizing low high bits with
  | zero => exact ⟨[], bits, rfl⟩
  | succ n ih =>
    have first : low.toUInt8.toNat = low := toNat_toUInt8 (by omega)
    have usual : 0x80 ≤ 0xBF := by decide
    obtain ⟨more, m, read⟩ := ih (bits * 64 + (low.toUInt8.toNat - 0x80)) usual (by decide)
    refine ⟨low.toUInt8 :: more, m, ?_⟩
    rw [continuation_cons (by omega), read]

/-- Where bytes do not continue a sequence, those that were read can be completed, and the byte at
which reading stopped stops it whatever comes behind. -/
theorem continuation_eq_none {n low high bits : Nat} {rest behind : List UInt8}
    (range : low ≤ high) (small : high < 256)
    (h : continuation n low high bits rest = (none, behind)) :
    ∃ tail, rest = tail ++ behind ∧
      (∃ more m, continuation n low high bits (tail ++ more) = (some m, [])) ∧
      ∀ b more, behind = b :: more →
        ∀ other, (continuation n low high bits (tail ++ b :: other)).1 = none := by
  induction n generalizing low high bits rest with
  | zero =>
    rw [continuation_zero] at h
    cases h
  | succ n ih =>
    have completed := exists_continuation (n + 1) bits range small
    cases rest with
    | nil =>
      obtain ⟨-, rfl⟩ := Prod.mk.inj h
      exact ⟨[], rfl, completed, by rintro b more ⟨⟩⟩
    | cons b more =>
      by_cases within : low ≤ b.toNat ∧ b.toNat ≤ high
      · rw [continuation_cons within] at h
        obtain ⟨tail, rfl, ⟨added, m, read⟩, stops⟩ := ih (by decide) (by decide) h
        refine ⟨b :: tail, rfl, ⟨added, m, ?_⟩, fun b' more' at_stop other => ?_⟩
        · rw [List.cons_append, continuation_cons within, read]
        · rw [List.cons_append, continuation_cons within, stops b' more' at_stop other]
      · have stop (other : List UInt8) :
            continuation (n + 1) low high bits (b :: other) = (none, b :: other) := by
          simp [continuation, within]
        rw [stop] at h
        obtain ⟨-, rfl⟩ := Prod.mk.inj h
        refine ⟨[], rfl, completed, ?_⟩
        rintro b' more' ⟨⟩ other
        rw [List.nil_append, stop]

theorem Lead.range {b : Nat} {lead : Lead} (leads : lead? b = some lead) :
    lead.low ≤ lead.high ∧ lead.high < 256 := by
  have cases := lead?_eq_some_iff.mp leads
  split_ifs at cases <;> omega

theorem encodeChar_ne_nil (c : Char) : encodeChar c ≠ [] := by
  simp only [encodeChar]
  split_ifs <;> exact List.cons_ne_nil _ _

/-- The first byte of a sequence, where bytes begin with a character. -/
theorem encodeChar_prefix_cons {c : Char} {b : UInt8} {rest : List UInt8}
    (h : encodeChar c <+: b :: rest) : ∃ tail, encodeChar c = b :: tail ∧ tail <+: rest := by
  cases bytes : encodeChar c with
  | nil => exact absurd bytes (encodeChar_ne_nil c)
  | cons b₀ tail =>
    rw [bytes, List.cons_prefix_cons] at h
    obtain ⟨rfl, inside⟩ := h
    exact ⟨tail, rfl, inside⟩

/-- What a byte beyond ASCII begins is a sequence of more than one byte. -/
theorem continuation_of_encodeChar_cons {b : UInt8} {tail : List UInt8} {c : Char}
    (bytes : encodeChar c = b :: tail) (beyond : 0x80 ≤ b.toNat) :
    ∃ lead, lead? b.toNat = some lead ∧
      ∀ rest, continuation lead.following lead.low lead.high lead.bits (tail ++ rest) =
        (some c.toNat, rest) := by
  by_cases ascii : c.toNat < 0x80
  · obtain ⟨b₀, single, eq₀⟩ := encodeChar_ascii ascii
    obtain ⟨rfl, -⟩ := List.cons.inj (bytes.symm.trans single)
    omega
  · obtain ⟨b₀, tail₀, lead, bytes₀, leads, reads⟩ :=
      continuation_encodeChar (c := c) (by omega)
    obtain ⟨rfl, rfl⟩ := List.cons.inj (bytes.symm.trans bytes₀)
    exact ⟨lead, leads, reads⟩

/-- A byte that begins no sequence is an invalid part. -/
theorem invalid_of_lead? {b : UInt8} (beyond : 0x80 ≤ b.toNat) (unknown : lead? b.toNat = none)
    (rest : List UInt8) : Invalid [b] rest := by
  have starts_none (c : Char) (tail : List UInt8) : encodeChar c ≠ b :: tail := by
    intro bytes
    obtain ⟨lead, leads, -⟩ := continuation_of_encodeChar_cons bytes beyond
    rw [unknown] at leads
    cases leads
  refine ⟨List.cons_ne_nil b [], fun c h => ?_, .inr rfl, fun other inside begins => ?_⟩
  · obtain ⟨tail, bytes, -⟩ := encodeChar_prefix_cons h
    exact starts_none c tail bytes
  · cases other with
    | nil => exact Nat.zero_le _
    | cons b₀ more =>
      obtain ⟨rfl, -⟩ := List.cons_prefix_cons.mp inside
      obtain ⟨c, behind, bytes⟩ := begins
      exact absurd bytes.symm (starts_none c (more ++ behind))

/-- A first byte and the bytes that were read after it are an invalid part, if the next one does not
continue them. -/
theorem invalid_of_continuation {b : UInt8} {lead : Lead} {rest behind : List UInt8}
    (leads : lead? b.toNat = some lead)
    (read : continuation lead.following lead.low lead.high lead.bits rest = (none, behind)) :
    ∃ part, b :: rest = part ++ behind ∧ Invalid part behind := by
  have beyond : 0x80 ≤ b.toNat := by
    have cases := lead?_eq_some_iff.mp leads
    omega
  obtain ⟨range, small⟩ := Lead.range leads
  obtain ⟨tail, rfl, ⟨more, m, completed⟩, stops⟩ := continuation_eq_none range small read
  -- A character that begins with this byte is read by the same lead.
  have reads {c : Char} {tail' : List UInt8} (bytes : encodeChar c = b :: tail')
      (rest' : List UInt8) :
      continuation lead.following lead.low lead.high lead.bits (tail' ++ rest') =
        (some c.toNat, rest') := by
    obtain ⟨lead', leads', reads'⟩ := continuation_of_encodeChar_cons bytes beyond
    obtain rfl := Option.some.inj (leads.symm.trans leads')
    exact reads' rest'
  refine ⟨b :: tail, rfl, List.cons_ne_nil b tail, fun c h => ?_, .inl ?_, ?_⟩
  · obtain ⟨tail', bytes, rest', whole⟩ := encodeChar_prefix_cons h
    have again := (congrArg _ whole).symm.trans (reads bytes rest')
    cases read.symm.trans again
  · obtain ⟨c, -, bytes⟩ := encodeChar_of_continuation leads completed
    rw [List.append_nil] at bytes
    exact ⟨c, more, bytes⟩
  · rintro other inside ⟨c, y, bytes⟩
    by_contra longer
    obtain ⟨further, rfl⟩ := List.prefix_of_prefix_length_le (List.prefix_append _ _) inside
      (Nat.le_of_not_le longer)
    cases further with
    | nil => simp at longer
    | cons x further =>
      obtain ⟨behind', rfl⟩ := (List.prefix_append_right_inj _).mp inside
      have stopped := stops x (further ++ behind') rfl (further ++ y)
      have whole : encodeChar c = b :: (tail ++ x :: (further ++ y)) := by
        rw [← bytes]
        simp
      have again := reads whole []
      rw [List.append_nil] at again
      rw [again] at stopped
      cases stopped

/-! ### Decoding -/

theorem decodeChars_ascii {b : UInt8} (ascii : b.toNat < 0x80) (rest : List UInt8) :
    decodeChars (b :: rest) = Char.ofNat b.toNat :: decodeChars rest := by
  rw [decodeChars, if_pos ascii]

theorem decodeChars_of_lead? {b : UInt8} {lead : Lead} {rest behind : List UInt8} {n? : Option Nat}
    (leads : lead? b.toNat = some lead)
    (read : continuation lead.following lead.low lead.high lead.bits rest = (n?, behind)) :
    decodeChars (b :: rest) = (n?.elim replacement Char.ofNat) :: decodeChars behind := by
  have beyond : ¬ b.toNat < 0x80 := by
    have cases := lead?_eq_some_iff.mp leads
    omega
  rw [decodeChars, if_neg beyond]
  simp only [leads, read]
  cases n? <;> rfl

theorem decodeChars_encodeChar (c : Char) (rest : List UInt8) :
    decodeChars (encodeChar c ++ rest) = c :: decodeChars rest := by
  by_cases ascii : c.toNat < 0x80
  · obtain ⟨b, bytes, same⟩ := encodeChar_ascii ascii
    rw [bytes, List.singleton_append, decodeChars_ascii (by omega), same, Char.ofNat_toNat]
  · obtain ⟨b, tail, lead, bytes, leads, reads⟩ := continuation_encodeChar (c := c) (by omega)
    rw [bytes, List.cons_append, decodeChars_of_lead? leads (reads rest), Option.elim_some,
      Char.ofNat_toNat]

/-- Bytes begin with a character or with a maximal invalid part, and are decoded as such. -/
theorem decodeChars_cons (b : UInt8) (rest : List UInt8) :
    (∃ c behind, b :: rest = encodeChar c ++ behind ∧
        decodeChars (b :: rest) = c :: decodeChars behind) ∨
      ∃ part behind, b :: rest = part ++ behind ∧ Invalid part behind ∧
        decodeChars (b :: rest) = replacement :: decodeChars behind := by
  by_cases ascii : b.toNat < 0x80
  · obtain ⟨c, same⟩ := exists_char (n := b.toNat) (by omega)
    obtain ⟨b₀, bytes, eq₀⟩ := encodeChar_ascii (c := c) (by omega)
    obtain rfl : b₀ = b := UInt8.toNat_inj.mp (by omega)
    refine .inl ⟨c, rest, by rw [bytes]; rfl, ?_⟩
    rw [decodeChars_ascii ascii, ← same, Char.ofNat_toNat]
  cases leads : lead? b.toNat with
  | none =>
    refine .inr ⟨[b], rest, rfl, invalid_of_lead? (by omega) leads rest, ?_⟩
    rw [decodeChars, if_neg ascii]
    simp only [leads]
  | some lead =>
    cases read : continuation lead.following lead.low lead.high lead.bits rest with
    | mk n? behind =>
      cases n? with
      | some n =>
        obtain ⟨c, rfl, bytes⟩ := encodeChar_of_continuation leads read
        refine .inl ⟨c, behind, bytes, ?_⟩
        rw [decodeChars_of_lead? leads read, Option.elim_some, Char.ofNat_toNat]
      | none =>
        obtain ⟨part, bytes, invalid⟩ := invalid_of_continuation leads read
        exact .inr ⟨part, behind, bytes, invalid, decodeChars_of_lead? leads read⟩

theorem decodeChars_invalid {part rest : List UInt8} (front : Invalid part rest) :
    decodeChars (part ++ rest) = replacement :: decodeChars rest := by
  cases bytes : part ++ rest with
  | nil => exact absurd (List.append_eq_nil_iff.mp bytes).1 front.nonempty
  | cons b more =>
    rcases decodeChars_cons b more with ⟨c, behind, whole, -⟩ | ⟨part', behind, whole, invalid, h⟩
    · exact absurd ⟨behind, (bytes.trans whole).symm⟩ (front.unreadable c)
    · rw [h, front.unique invalid (bytes.trans whole)]

theorem decodes_decodeChars (bytes : List UInt8) : Decodes bytes (decodeChars bytes) := by
  induction length : bytes.length using Nat.strongRecOn generalizing bytes with
  | ind n ih =>
    cases bytes with
    | nil =>
      rw [decodeChars]
      exact .nil
    | cons b rest =>
      rcases decodeChars_cons b rest with ⟨c, behind, whole, h⟩ | ⟨part, behind, whole, invalid, h⟩
      · have some_byte := List.length_pos_iff.mpr (encodeChar_ne_nil c)
        have shorter := congrArg List.length whole
        rw [List.length_append] at shorter
        rw [h, whole]
        exact .char c (ih behind.length (by omega) behind rfl)
      · have some_byte := List.length_pos_iff.mpr invalid.nonempty
        have shorter := congrArg List.length whole
        rw [List.length_append] at shorter
        rw [h, whole]
        exact .invalid invalid (ih behind.length (by omega) behind rfl)

/-- Bytes are decoded in exactly one way. -/
theorem decodes_iff {bytes : List UInt8} {cs : List Char} :
    Decodes bytes cs ↔ cs = decodeChars bytes := by
  constructor
  · intro h
    induction h with
    | nil => rw [decodeChars]
    | char c _ ih => rw [decodeChars_encodeChar, ih]
    | invalid front _ ih => rw [decodeChars_invalid front, ih]
  · rintro rfl
    exact decodes_decodeChars bytes

/-! ### Encoding -/

/-- The bytes of a string are those of its characters, one after another. -/
theorem decodes_encode (s : String) : Decodes (encode s) s.toList := by
  unfold encode
  induction s.toList with
  | nil => exact .nil
  | cons c cs ih => exact .char c ih

/-- Encoded strings are read back. -/
theorem decode_encode (s : String) : decode (encode s) = s := by
  rw [decode, ← decodes_iff.mp (decodes_encode s), String.ofList_toList]

theorem encodeChar_eq (c : Char) : encodeChar c = String.utf8EncodeChar c := by
  have valid : c.toNat < 0xD800 ∨ 0xDFFF < c.toNat ∧ c.toNat < 0x110000 := c.valid
  have number : c.val.toNat = c.toNat := rfl
  have byte {m n : Nat} (same : m = n) : m.toUInt8 = UInt8.ofNat n := same ▸ rfl
  simp only [encodeChar, String.utf8EncodeChar, number]
  split_ifs
  any_goals omega
  all_goals
    repeat rw [byte]
  all_goals omega

/-- The bytes of a string are those that it is stored as. -/
theorem encode_eq (s : String) : encode s = s.toUTF8.data.toList := by
  have stored : s.toUTF8 = (s.toList.flatMap String.utf8EncodeChar).toByteArray :=
    String.utf8Encode_toList.symm
  rw [stored, List.data_toByteArray, encode, funext encodeChar_eq]

end BoxProbe.Utf8
