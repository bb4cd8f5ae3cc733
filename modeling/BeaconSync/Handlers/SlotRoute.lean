import BeaconSync.Basic
import Mathlib.Data.Nat.Digits

/-!
# Slot page - The path variable

The handler {lit}`Slot` of {lit}`handlers/slot.go` serves {lit}`/slot/{slotOrHash}`.
Lines 43-57 turn the path variable into what the page looks up: a block root
when the variable, with every {lit}`0x` removed, is 64 hex digits; otherwise a
slot, read by {lit}`strconv.ParseInt` from the variable as it came and kept
below {lit}`2^31`; and the not-found page for anything else.

This module models the three library calls of those lines as the Go library
computes them ({lit}`strings.Replace`, {lit}`hex.DecodeString`,
{lit}`strconv.ParseInt` in base 10 with 64 bits) over the characters of the
path variable.  A Go string is a byte string, but every test of these lines
looks at ASCII characters only, which UTF-8 never uses inside another
character, so the answers are those on the bytes; and the length test of line
46 is reached only after every character decoded as a hex digit, one byte
each.

Main results:

- Theorem {lit}`Handlers.slotLookup_wellFormed`: every lookup the route makes
  is of a 32-byte root, or of a slot in {lit}`[-2^63, 2^31)` with the empty
  root.
- Theorems {lit}`Handlers.slotLookup_hexString` and
  {lit}`Handlers.slotLookup_toDigits`: a block root written in hex, with or
  without {lit}`0x`, and a slot below {lit}`2^31` written in decimal are
  looked up as what they name.
- Theorems {lit}`Handlers.slotLookup_negative`,
  {lit}`Handlers.slotLookup_prefixed_decimal` and
  {lit}`Handlers.slotLookup_padded`: a negative number is accepted as a slot
  below zero, a decimal slot behind {lit}`0x` is rejected, and 64 decimal
  digits are read as a block root, never as a slot.
-/

namespace BeaconSync
namespace Handlers

/-! ## strings.Replace -/

/-- {lit}`strings.Replace(s, "0x", "", -1)`: every {lit}`0x`, found from the
left without overlap, removed. -/
def stringsReplace0x : List Char → List Char
  | [] => []
  | [c] => [c]
  | c :: d :: s => if c = '0' ∧ d = 'x' then stringsReplace0x s else c :: stringsReplace0x (d :: s)

@[simp] theorem stringsReplace0x_zero_x (s : List Char) :
    stringsReplace0x ('0' :: 'x' :: s) = stringsReplace0x s := by
  simp [stringsReplace0x]

/-- A string with no {lit}`x` has no {lit}`0x` to remove. -/
theorem stringsReplace0x_of_ne_x {s : List Char} (h : ∀ c ∈ s, c ≠ 'x') :
    stringsReplace0x s = s := by
  induction s using stringsReplace0x.induct with
  | case1 => rfl
  | case2 => rfl
  | case3 c d s hcd _ =>
    exact absurd hcd.2 (h d (by simp))
  | case4 c d s hcd ih =>
    rw [stringsReplace0x, if_neg hcd, ih fun x hx => h x (List.mem_cons_of_mem c hx)]

/-! ## hex.DecodeString -/

/-- {lit}`reverseHexTable` of {lit}`encoding/hex`: the value of a hex digit of
either case, {lean}`none` for every other character. -/
def hexValue (c : Char) : Option UInt8 :=
  if c.isDigit then some (UInt8.ofNat (c.toNat - 48))
  else if 'a' ≤ c ∧ c ≤ 'f' then some (UInt8.ofNat (c.toNat - 87))
  else if 'A' ≤ c ∧ c ≤ 'F' then some (UInt8.ofNat (c.toNat - 55))
  else none

/-- The errors of {lit}`hex.DecodeString`. -/
inductive HexError where
  /-- {lit}`InvalidByteError`: the first character that is no hex digit. -/
  | invalidByte (c : Char)
  /-- {lit}`ErrLength`: an odd number of digits. -/
  | length
  deriving DecidableEq, Repr

/-- {lit}`hex.DecodeString`: two digits a byte, high half first,
{lit}`(a << 4) | b`; the first pair with a character that is no digit fails,
and an odd last digit fails as {lit}`ErrLength` once it is checked. -/
def hexDecodeString : List Char → Except HexError Root
  | [] => .ok []
  | [c] => if (hexValue c).isSome then .error .length else .error (.invalidByte c)
  | p :: q :: s =>
    match hexValue p, hexValue q with
    | none, _ => .error (.invalidByte p)
    | some _, none => .error (.invalidByte q)
    | some a, some b =>
      match hexDecodeString s with
      | .ok r => .ok ((a <<< 4 ||| b) :: r)
      | .error e => .error e

/-- A pair of digits in front decodes to one byte in front. -/
theorem hexDecodeString_pair {p q : Char} {a b : UInt8} (hp : hexValue p = some a)
    (hq : hexValue q = some b) (s : List Char) :
    hexDecodeString (p :: q :: s) =
      match hexDecodeString s with
      | .ok r => .ok ((a <<< 4 ||| b) :: r)
      | .error e => .error e := by
  simp only [hexDecodeString, hp, hq]

/-- What decodes starts with a pair of digits, or is empty. -/
theorem hexDecodeString_ok_cons {p q : Char} {s : List Char} {r : Root}
    (h : hexDecodeString (p :: q :: s) = .ok r) :
    ∃ a b r', hexValue p = some a ∧ hexValue q = some b ∧ hexDecodeString s = .ok r' ∧
      r = (a <<< 4 ||| b) :: r' := by
  cases hp : hexValue p with
  | none => simp [hexDecodeString, hp] at h
  | some a =>
    cases hq : hexValue q with
    | none => simp [hexDecodeString, hp, hq] at h
    | some b =>
      rw [hexDecodeString_pair hp hq] at h
      split at h
      · cases h
        exact ⟨a, b, _, rfl, rfl, ‹_›, rfl⟩
      · cases h

/-- A decoded string has two digits a byte. -/
theorem hexDecodeString_length : ∀ {s : List Char} {r : Root}, hexDecodeString s = .ok r →
    s.length = 2 * r.length
  | [], _, h => by cases h; rfl
  | [c], _, h => by simp only [hexDecodeString] at h; split at h <;> cases h
  | p :: q :: s, _, h => by
    obtain ⟨a, b, r', -, -, hs, rfl⟩ := hexDecodeString_ok_cons h
    simp only [List.length_cons, hexDecodeString_length hs]
    omega

/-- A character that is no hex digit in front fails the decoding. -/
theorem hexDecodeString_invalid {c : Char} (hc : hexValue c = none) (s : List Char) :
    hexDecodeString (c :: s) = .error (.invalidByte c) := by
  cases s with
  | nil => simp [hexDecodeString, hc]
  | cons q s => simp [hexDecodeString, hc]

/-- A decimal digit is worth its distance from {lit}`'0'`. -/
theorem hexValue_of_isDigit {c : Char} (hc : c.isDigit) :
    hexValue c = some (UInt8.ofNat (c.toNat - 48)) := by
  simp [hexValue, hc]

/-- A string of decimal digits of even length decodes. -/
theorem hexDecodeString_digits : ∀ {s : List Char}, (∀ c ∈ s, c.isDigit) → Even s.length →
    ∃ r, hexDecodeString s = .ok r
  | [], _, _ => ⟨[], rfl⟩
  | [c], _, he => by simp at he
  | p :: q :: s, hs, he => by
    obtain ⟨r, hr⟩ := hexDecodeString_digits (s := s) (fun c hc => hs c (by simp [hc]))
      (by simpa [Nat.even_add_one] using he)
    rw [hexDecodeString_pair (hexValue_of_isDigit (hs p (by simp)))
      (hexValue_of_isDigit (hs q (by simp))), hr]
    exact ⟨_, rfl⟩

/-! ## Hex roots -/

/-- The digit of a value below sixteen, in lower case as {lit}`%x` writes it. -/
def hexDigit (d : Nat) : Char :=
  if d < 10 then Char.ofNat (48 + d) else Char.ofNat (87 + d)

/-- A block root in hex, as the explorer writes it behind {lit}`0x`. -/
def hexString (root : Root) : List Char :=
  root.flatMap fun b => [hexDigit (b.toNat / 16), hexDigit (b.toNat % 16)]

/-- Every hex digit the encoder writes reads back as its value. -/
theorem hexValue_hexDigit : ∀ d < 16, hexValue (hexDigit d) = some (UInt8.ofNat d) := by
  decide

/-- No hex digit is an {lit}`x`, so {lit}`strings.Replace` leaves it. -/
theorem hexDigit_ne_x : ∀ d < 16, hexDigit d ≠ 'x' := by
  decide

/-- A byte is its high half times sixteen plus its low half. -/
theorem hexPair_eq :
    ∀ a < 16, ∀ b < 16, UInt8.ofNat a <<< 4 ||| UInt8.ofNat b = UInt8.ofNat (a * 16 + b) := by
  decide

/-- {lit}`hex.DecodeString` reads back every root the encoder writes. -/
theorem hexDecodeString_hexString (root : Root) : hexDecodeString (hexString root) = .ok root := by
  induction root with
  | nil => rfl
  | cons b root ih =>
    have hb : b.toNat < 256 := b.toNat_lt_size
    have hpair := hexPair_eq (b.toNat / 16) (by omega) (b.toNat % 16) (by omega)
    rw [show b.toNat / 16 * 16 + b.toNat % 16 = b.toNat by omega,
      UInt8.toNat.inj (UInt8.toNat_ofNat_of_lt hb : (UInt8.ofNat b.toNat).toNat = b.toNat)] at hpair
    simp only [hexString, List.flatMap_cons, List.cons_append, List.nil_append] at ih ⊢
    rw [hexDecodeString_pair (hexValue_hexDigit _ (by omega)) (hexValue_hexDigit _ (by omega)), ih,
      hpair]

/-- The hex form of a root has two digits a byte. -/
theorem hexString_length (root : Root) : (hexString root).length = 2 * root.length := by
  induction root with
  | nil => rfl
  | cons b root ih =>
    simp only [hexString, List.flatMap_cons, List.length_append] at ih ⊢
    simp [ih]
    omega

/-- The hex form of a root has no {lit}`x`. -/
theorem hexString_ne_x (root : Root) : ∀ c ∈ hexString root, c ≠ 'x' := by
  simp only [hexString, List.mem_flatMap, List.mem_cons, List.not_mem_nil, or_false]
  rintro c ⟨b, -, rfl | rfl⟩
  · exact hexDigit_ne_x _ (by have : b.toNat < 256 := b.toNat_lt_size; omega)
  · exact hexDigit_ne_x _ (by have : b.toNat < 256 := b.toNat_lt_size; omega)

/-! ## strconv.ParseInt -/

/-- The errors of {lit}`strconv`. -/
inductive NumError where
  /-- {lit}`ErrSyntax`: not a number. -/
  | invalid
  /-- {lit}`ErrRange`: a number out of the range of the type. -/
  | range
  deriving DecidableEq, Repr

/-- {lit}`cutoff` of {lit}`strconv.ParseUint` in base 10 with 64 bits: the
smallest value whose tenfold overflows. -/
def parseCutoff : Nat := (2 ^ 64 - 1) / 10 + 1

/-- The digit loop of {lit}`strconv.ParseUint(s, 10, 64)` from the value read
so far.  A letter is a digit of value ten or more there, which base 10 rejects
with the same error as any other character; the {lit}`uint64` wrap test
{lit}`n1 < n` is the comparison with {lit}`maxVal` on natural numbers. -/
def parseDigits (n : Nat) : List Char → Except NumError Nat
  | [] => .ok n
  | c :: s =>
    if c.isDigit then
      if parseCutoff ≤ n then .error .range
      else if 2 ^ 64 - 1 < n * 10 + (c.toNat - 48) then .error .range
      else parseDigits (n * 10 + (c.toNat - 48)) s
    else .error .invalid

/-- {lit}`strconv.ParseUint(s, 10, 64)`. -/
def strconvParseUint (s : List Char) : Except NumError Nat :=
  match s with
  | [] => .error .invalid
  | _ :: _ => parseDigits 0 s

/-- {lit}`strconv.ParseInt(s, 10, 64)`: an optional sign, then
{lit}`ParseUint`, then the {lit}`int64` range.  When {lit}`ParseUint` fails
with {lit}`ErrRange` it returns {lit}`maxVal`, which the range tests reject
again. -/
def strconvParseInt (s : List Char) : Except NumError Int :=
  match s with
  | [] => .error .invalid
  | c :: rest =>
    let neg := c == '-'
    match strconvParseUint (if c = '+' ∨ c = '-' then rest else c :: rest) with
    | .error .invalid => .error .invalid
    | .error .range => .error .range
    | .ok un =>
      if !neg ∧ 2 ^ 63 ≤ un then .error .range
      else if neg ∧ 2 ^ 63 < un then .error .range
      else .ok (if neg then -(un : Int) else un)

/-- The value of decimal digits after the value {lit}`n`. -/
def decimalValue (n : Nat) (s : List Char) : Nat :=
  s.foldl (fun n c => n * 10 + (c.toNat - 48)) n

/-- Reading more digits never lowers the value. -/
theorem le_decimalValue (n : Nat) (s : List Char) : n ≤ decimalValue n s := by
  induction s generalizing n with
  | nil => exact Nat.le_refl n
  | cons c s ih => exact Nat.le_trans (by omega) (ih (n * 10 + (c.toNat - 48)))

/-- The digit loop reads the value of the digits, or fails with
{lit}`ErrRange` once it passes {lit}`2^64 - 1`. -/
theorem parseDigits_eq {n : Nat} {s : List Char} (hs : ∀ c ∈ s, c.isDigit) (hn : n < 2 ^ 64) :
    parseDigits n s =
      if decimalValue n s < 2 ^ 64 then .ok (decimalValue n s) else .error .range := by
  induction s generalizing n with
  | nil => simp only [parseDigits, decimalValue, List.foldl_nil, if_pos hn]
  | cons c s ih =>
    have hc := hs c (by simp)
    have hmono := le_decimalValue (n * 10 + (c.toNat - 48)) s
    have ih' := ih (n := n * 10 + (c.toNat - 48)) (fun x hx => hs x (by simp [hx]))
    simp only [parseDigits, hc, if_true]
    simp only [decimalValue, List.foldl_cons] at hmono ih' ⊢
    split
    · rw [if_neg (by unfold parseCutoff at *; omega)]
    · split
      · rw [if_neg (by omega)]
      · exact ih' (by omega)

/-- What the digit loop accepts is digits, read as their value. -/
theorem parseDigits_ok {n v : Nat} {s : List Char} (h : parseDigits n s = .ok v) :
    (∀ c ∈ s, c.isDigit) ∧ v = decimalValue n s ∧ v < 2 ^ 64 ∨ (s = [] ∧ v = n) := by
  induction s generalizing n with
  | nil => simp [parseDigits] at h; exact .inr ⟨rfl, h.symm⟩
  | cons c s ih =>
    simp only [parseDigits] at h
    split at h
    · rename_i hc
      split at h
      · cases h
      split at h
      · cases h
      rename_i h₁ h₂
      rcases ih h with ⟨hs, hv, hlt⟩ | ⟨rfl, rfl⟩
      · exact .inl ⟨List.forall_mem_cons.mpr ⟨hc, hs⟩, hv, hlt⟩
      · exact .inl ⟨by simp [hc], rfl, by omega⟩
    · cases h

/-- {lit}`ParseUint` accepts exactly the nonempty decimal digits with a value
below {lit}`2^64`, and reads that value. -/
theorem strconvParseUint_eq_ok {s : List Char} {v : Nat} :
    strconvParseUint s = .ok v ↔
      s ≠ [] ∧ (∀ c ∈ s, c.isDigit) ∧ v = decimalValue 0 s ∧ v < 2 ^ 64 := by
  cases s with
  | nil => simp [strconvParseUint]
  | cons c s =>
    refine ⟨fun h => ?_, fun ⟨_, hs, hv, hlt⟩ => ?_⟩
    · rcases parseDigits_ok h with ⟨hs, hv, hlt⟩ | ⟨hs, -⟩
      · exact ⟨List.cons_ne_nil c s, hs, hv, hlt⟩
      · cases hs
    · subst hv
      simp only [strconvParseUint, parseDigits_eq (n := 0) hs (by decide), if_pos hlt]

/-- {lit}`ParseInt` reads an {lit}`int64`. -/
theorem strconvParseInt_range {s : List Char} {v : Int} (h : strconvParseInt s = .ok v) :
    -2 ^ 63 ≤ v ∧ v < 2 ^ 63 := by
  cases s with
  | nil => cases h
  | cons c rest =>
    simp only [strconvParseInt] at h
    split at h
    · cases h
    · cases h
    · split at h
      · cases h
      split at h
      · cases h
      rename_i h₁ h₂
      cases h
      split <;> simp_all <;> omega

/-! ## Decimal slots -/

/-- Every decimal digit {lit}`Nat.toDigits` writes reads back as itself. -/
theorem digitChar_isDigit :
    ∀ d < 10, (Nat.digitChar d).isDigit ∧ (Nat.digitChar d).toNat - 48 = d := by
  decide

/-- {lit}`Nat.toDigitsCore` writes the digits of {lit}`n` in front of what it
has written. -/
theorem toDigitsCore_append (f n : Nat) (ds : List Char) (h : n < f) :
    Nat.toDigitsCore 10 f n ds = Nat.toDigitsCore 10 f n [] ++ ds := by
  induction f generalizing n ds with
  | zero => omega
  | succ f ih =>
    simp only [Nat.toDigitsCore]
    split
    · rfl
    · rw [ih _ _ (by omega), ih _ [_] (by omega), List.append_assoc, List.singleton_append]

/-- The decimal digits {lit}`strconv.FormatUint` and {lean}`Nat.repr` write
read back as the number. -/
theorem toDigitsCore_value (f n : Nat) (h : n < f) :
    (∀ c ∈ Nat.toDigitsCore 10 f n [], c.isDigit) ∧
      decimalValue 0 (Nat.toDigitsCore 10 f n []) = n := by
  induction f generalizing n with
  | zero => omega
  | succ f ih =>
    obtain ⟨hd, hv⟩ := digitChar_isDigit (n % 10) (Nat.mod_lt n (by decide))
    simp only [Nat.toDigitsCore]
    split
    · refine ⟨by simpa using hd, ?_⟩
      simp only [decimalValue, List.foldl_cons, List.foldl_nil, hv]
      omega
    · rw [toDigitsCore_append _ _ _ (by omega)]
      obtain ⟨hs, hn⟩ := ih (n / 10) (by omega)
      refine ⟨List.forall_mem_append.mpr ⟨hs, by simpa using hd⟩, ?_⟩
      simp only [decimalValue, List.foldl_append, List.foldl_cons, List.foldl_nil] at hn ⊢
      rw [hn, hv]
      omega

/-- The decimal form of a number is digits that read back as the number. -/
theorem toDigits_value (n : Nat) :
    (∀ c ∈ Nat.toDigits 10 n, c.isDigit) ∧ decimalValue 0 (Nat.toDigits 10 n) = n :=
  toDigitsCore_value (n + 1) n (Nat.lt_succ_self n)

/-- Every number has at least one decimal digit. -/
theorem toDigits_ne_nil (n : Nat) : Nat.toDigits 10 n ≠ [] := by
  unfold Nat.toDigits
  simp only [Nat.toDigitsCore]
  split
  · simp
  · rw [toDigitsCore_append _ _ _ (by omega)]
    simp

/-- A number below {lit}`2^64` has at most twenty decimal digits. -/
theorem toDigits_length_le (n : Nat) (h : n < 2 ^ 64) : (Nat.toDigits 10 n).length ≤ 20 :=
  Nat.toDigitsCore_length 10 (by decide) (n + 1) n 20 (by omega) (by decide)

/-- Decimal digits have no {lit}`x`. -/
theorem ne_x_of_isDigit {s : List Char} (hs : ∀ c ∈ s, c.isDigit) : ∀ c ∈ s, c ≠ 'x' := by
  rintro c hc rfl
  exact absurd (hs _ hc) (by decide)

/-- {lit}`ParseInt` of the decimal digits of a number below {lit}`2^63`. -/
theorem strconvParseInt_toDigits (n : Nat) (h : n < 2 ^ 63) :
    strconvParseInt (Nat.toDigits 10 n) = .ok n := by
  obtain ⟨hs, hv⟩ := toDigits_value n
  have hu : strconvParseUint (Nat.toDigits 10 n) = .ok n :=
    strconvParseUint_eq_ok.mpr ⟨toDigits_ne_nil n, hs, hv.symm, by omega⟩
  cases hd : Nat.toDigits 10 n with
  | nil => exact absurd hd (toDigits_ne_nil n)
  | cons c rest =>
    have hc : c.isDigit := hs c (by simp [hd])
    have hsign : ¬(c = '+' ∨ c = '-') := by rintro (rfl | rfl) <;> exact absurd hc (by decide)
    have hneg : (c == '-') = false := by simpa using fun h' => hsign (.inr h')
    rw [hd] at hu
    simp only [strconvParseInt, if_neg hsign, hu, hneg]
    simp
    omega

/-- {lit}`ParseInt` of a minus sign and the decimal digits of a number up to
{lit}`2^63`. -/
theorem strconvParseInt_neg_toDigits (n : Nat) (h : n ≤ 2 ^ 63) :
    strconvParseInt ('-' :: Nat.toDigits 10 n) = .ok (-(n : Int)) := by
  obtain ⟨hs, hv⟩ := toDigits_value n
  have hu : strconvParseUint (Nat.toDigits 10 n) = .ok n :=
    strconvParseUint_eq_ok.mpr ⟨toDigits_ne_nil n, hs, hv.symm, by omega⟩
  simp only [strconvParseInt]
  rw [if_pos (Or.inr trivial), hu]
  simp only [beq_self_eq_true, Bool.not_true, Bool.false_eq_true, false_and, if_false, true_and,
    if_true]
  rw [if_neg (by omega)]

/-! ## The route -/

/-- What the page looks a block up by: {lit}`blockSlot`, an {lit}`int64` that
is {lit}`-1` for a lookup by root, and {lit}`blockRootHash`. -/
structure SlotLookup where
  blockSlot : Int
  blockRootHash : Root
  deriving DecidableEq, Repr

/-- Lines 48-55: the path variable as it came, read as a decimal slot below
{lit}`2147483648`; {lean}`none` is the not-found page of line 50. -/
def parseBlockSlot (slotOrHash : List Char) : Option SlotLookup :=
  match strconvParseInt slotOrHash with
  | .ok n => if 2147483648 ≤ n then none else some ⟨n, []⟩
  | .error _ => none

/-- Lines 43-57 of {lit}`Slot`: a root when the variable without {lit}`0x` is
64 hex digits, a slot otherwise, or the not-found page. -/
def slotLookup (slotOrHash : List Char) : Option SlotLookup :=
  match hexDecodeString (stringsReplace0x slotOrHash) with
  | .ok root =>
    if (stringsReplace0x slotOrHash).length ≠ 64 then parseBlockSlot slotOrHash
    else some ⟨-1, root⟩
  | .error _ => parseBlockSlot slotOrHash

/-- A slot the fallback of lines 47-56 accepts has the empty root and is
between {lit}`-2^63` and {lit}`2^31`. -/
theorem parseBlockSlot_wellFormed {s : List Char} {l : SlotLookup} (h : parseBlockSlot s = some l) :
    l.blockRootHash = [] ∧ -2 ^ 63 ≤ l.blockSlot ∧ l.blockSlot < 2 ^ 31 := by
  unfold parseBlockSlot at h
  split at h
  · rename_i n hn
    split at h
    · cases h
    · cases h
      exact ⟨rfl, (strconvParseInt_range hn).1, by dsimp only; omega⟩
  · cases h

/-- Every lookup the route makes is by a 32-byte root, with {lit}`blockSlot`
at {lit}`-1`, or by a slot in {lit}`[-2^63, 2^31)` with the empty root. -/
theorem slotLookup_wellFormed (s : List Char) (l : SlotLookup) (h : slotLookup s = some l) :
    (l.blockSlot = -1 ∧ l.blockRootHash.length = 32) ∨
      (l.blockRootHash = [] ∧ -2 ^ 63 ≤ l.blockSlot ∧ l.blockSlot < 2 ^ 31) := by
  unfold slotLookup at h
  split at h
  · rename_i root hr
    split at h
    · exact .inr (parseBlockSlot_wellFormed h)
    · rename_i hlen
      cases h
      have := hexDecodeString_length hr
      exact .inl ⟨rfl, by dsimp only; omega⟩
  · exact .inr (parseBlockSlot_wellFormed h)

/-- {lit}`/slot/12` is a lookup of slot {lit}`12`. -/
theorem slotLookup_wellFormed_twelve :
    ((12 : Int) = -1 ∧ ([] : Root).length = 32) ∨
      (([] : Root) = [] ∧ -2 ^ 63 ≤ (12 : Int) ∧ (12 : Int) < 2 ^ 31) :=
  slotLookup_wellFormed ['1', '2'] ⟨12, []⟩ (by decide)

/-- A lookup with {lit}`blockSlot > -1` is by a slot below {lit}`2^31`, with the
empty root. -/
theorem slotLookup_slot {s : List Char} {l : SlotLookup} (h : slotLookup s = some l)
    (hpos : -1 < l.blockSlot) : l.blockRootHash = [] ∧ l.blockSlot < 2 ^ 31 := by
  unfold slotLookup at h
  split at h
  · split at h
    · exact ⟨(parseBlockSlot_wellFormed h).1, (parseBlockSlot_wellFormed h).2.2⟩
    · cases h
      exact absurd hpos (Int.lt_irrefl _)
  · exact ⟨(parseBlockSlot_wellFormed h).1, (parseBlockSlot_wellFormed h).2.2⟩

/-- A block root written in hex, behind {lit}`0x` or not, is looked up as that
root. -/
theorem slotLookup_hexString (root : Root) (h : root.length = 32) :
    slotLookup (hexString root) = some ⟨-1, root⟩ ∧
      slotLookup ('0' :: 'x' :: hexString root) = some ⟨-1, root⟩ := by
  have hs := stringsReplace0x_of_ne_x (hexString_ne_x root)
  have hlen : ¬(hexString root).length ≠ 64 := by rw [hexString_length, h]; decide
  simp only [slotLookup, stringsReplace0x_zero_x, hs, hexDecodeString_hexString, if_neg hlen,
    and_self]

/-- A root of 32 bytes {lit}`0xab` is looked up as itself. -/
theorem slotLookup_hexString_sample :
    slotLookup (hexString (List.replicate 32 171)) = some ⟨-1, List.replicate 32 171⟩ ∧
      slotLookup ('0' :: 'x' :: hexString (List.replicate 32 171)) =
        some ⟨-1, List.replicate 32 171⟩ :=
  slotLookup_hexString (List.replicate 32 171) (List.length_replicate 32 171)

/-- A slot below {lit}`2^31` written in decimal is looked up as that slot. -/
theorem slotLookup_toDigits (n : Nat) (h : n < 2 ^ 31) :
    slotLookup (Nat.toDigits 10 n) = some ⟨n, []⟩ := by
  obtain ⟨hs, -⟩ := toDigits_value n
  have hlen : (Nat.toDigits 10 n).length ≠ 64 := by have := toDigits_length_le n (by omega); omega
  have hp : parseBlockSlot (Nat.toDigits 10 n) = some ⟨n, []⟩ := by
    simp only [parseBlockSlot, strconvParseInt_toDigits n (by omega)]
    rw [if_neg (by omega)]
  unfold slotLookup
  rw [stringsReplace0x_of_ne_x (ne_x_of_isDigit hs)]
  split
  · rw [if_pos hlen, hp]
  · exact hp

/-- {lit}`/slot/12345` is a lookup of slot {lit}`12345`. -/
theorem slotLookup_toDigits_sample : slotLookup (Nat.toDigits 10 12345) = some ⟨12345, []⟩ :=
  slotLookup_toDigits 12345 (by decide)

/-- A negative number {lit}`-n` down to {lit}`-2^63` is accepted as a slot
below zero, with the empty root: the page then looks the empty root up. -/
theorem slotLookup_negative (n : Nat) (h₀ : 0 < n) (h : n ≤ 2 ^ 63) :
    slotLookup ('-' :: Nat.toDigits 10 n) = some ⟨-n, []⟩ := by
  have hx : ∀ c ∈ '-' :: Nat.toDigits 10 n, c ≠ 'x' := by
    simpa using ne_x_of_isDigit (toDigits_value n).1
  simp only [slotLookup, stringsReplace0x_of_ne_x hx, hexDecodeString_invalid (c := '-') (by decide),
    parseBlockSlot, strconvParseInt_neg_toDigits n h]
  rw [if_neg (by omega)]

/-- The path variable {lit}`-5` is a lookup of slot {lit}`-5`. -/
theorem slotLookup_negative_five : slotLookup ('-' :: Nat.toDigits 10 5) = some ⟨-5, []⟩ :=
  slotLookup_negative 5 (by decide) (by decide)

/-- A decimal slot behind {lit}`0x` is rejected: {lit}`ParseInt` reads the
variable as it came, with its {lit}`x`. -/
theorem slotLookup_prefixed_decimal (n : Nat) (h : n < 2 ^ 64) :
    slotLookup ('0' :: 'x' :: Nat.toDigits 10 n) = none := by
  obtain ⟨hs, -⟩ := toDigits_value n
  have hlen : (Nat.toDigits 10 n).length ≠ 64 := by have := toDigits_length_le n h; omega
  have hp : parseBlockSlot ('0' :: 'x' :: Nat.toDigits 10 n) = none := by
    simp [parseBlockSlot, strconvParseInt, strconvParseUint, parseDigits, parseCutoff]
  unfold slotLookup
  rw [stringsReplace0x_zero_x, stringsReplace0x_of_ne_x (ne_x_of_isDigit hs)]
  split
  · rw [if_pos hlen, hp]
  · exact hp

/-- {lit}`/slot/0x5` is the not-found page. -/
theorem slotLookup_prefixed_five : slotLookup ('0' :: 'x' :: Nat.toDigits 10 5) = none :=
  slotLookup_prefixed_decimal 5 (by decide)

/-- Sixty-four decimal digits, a zero-padded slot among them, are looked up as
a block root and never as a slot. -/
theorem slotLookup_padded (s : List Char) (hs : ∀ c ∈ s, c.isDigit) (hlen : s.length = 64) :
    ∃ root, slotLookup s = some ⟨-1, root⟩ := by
  obtain ⟨root, hr⟩ := hexDecodeString_digits hs (by rw [hlen]; decide)
  refine ⟨root, ?_⟩
  simp only [slotLookup, stringsReplace0x_of_ne_x (ne_x_of_isDigit hs), hr, hlen, ne_eq,
    not_true_eq_false, if_false]

/-- Slot {lit}`0` padded to 64 digits is looked up as a block root. -/
theorem slotLookup_padded_zero : ∃ root, slotLookup (List.replicate 64 '0') = some ⟨-1, root⟩ :=
  slotLookup_padded (List.replicate 64 '0') (by decide) (List.length_replicate 64 '0')

end Handlers
end BeaconSync
