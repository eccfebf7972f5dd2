/-
  SuiteExplorer/Proofs/Text/Decoding.lean
  =======================================
  **What decoding bytes as UTF-8 means, whatever they are.**

  `Decoded` says it without a decoder, from the encoding of the characters alone.  Bytes that
  begin with the encoding of a character decode to it.  Otherwise the longest stretch that
  could still have begun a character, or a single byte, decodes to the replacement character.
  Overlong forms, surrogates and ends that come too early need no rule of their own: they are
  not the beginning of any character.

  The decoder takes byte after byte and keeps a few numbers.  `Midway` says what they stand
  for: the characters that it may still come to.
-/
import Mathlib.Algebra.Group.Nat.Defs
import SuiteExplorer.Text.Utf8

namespace SuiteExplorer.Text.Utf8

/-! ## 1. What bytes decode to -/

/-- The bytes are the beginning of the encoding of a character, or all of it. -/
def Begins (bytes : List UInt8) : Prop := ∃ c, bytes <+: String.utf8EncodeChar c

/-- With `rest` after it, the stretch cannot be decoded: no character is encoded at its front,
    and it is the longest stretch that begins a character, or a single byte if there is none. -/
structure Undecodable (stretch rest : List UInt8) : Prop where
  unconvertible : ∀ c, ¬ String.utf8EncodeChar c <+: stretch ++ rest
  begins_or_single : stretch ≠ [] ∧ Begins stretch ∨ stretch.length = 1
  longest : ∀ more, more <+: rest → Begins (stretch ++ more) → more = []

/-- Bytes and the characters that they decode to. -/
inductive Decoded : List UInt8 → List Char → Prop where
  | nil : Decoded [] []
  | char (c : Char) {rest : List UInt8} {out : List Char} (h : Decoded rest out) :
    Decoded (String.utf8EncodeChar c ++ rest) (c :: out)
  | replaced {stretch rest : List UInt8} {out : List Char} (hbad : Undecodable stretch rest)
    (h : Decoded rest out) : Decoded (stretch ++ rest) (replacement :: out)

/-! ## 2. Characters as bytes -/

/-- The last bytes of the encoding of a number, six bits in each. -/
def trail : Nat → Nat → List UInt8
  | 0, _ => []
  | m + 1, v => UInt8.ofNat (v / 64 ^ m % 64 + 0x80) :: trail m v

section Encoding

variable {v : Nat}

theorem toNat_ofNat_of_valid (h : v.isValidChar) : (Char.ofNat v).val.toNat = v := by
  rw [Char.ofNat, dif_pos h]
  rfl

theorem encode_one (h : v < 0x80) : String.utf8EncodeChar (Char.ofNat v) = [UInt8.ofNat v] := by
  rw [String.utf8EncodeChar, toNat_ofNat_of_valid (.inl (by omega))]
  exact if_pos (by omega)

theorem encode_two (hlow : 0x80 ≤ v) (hhigh : v < 0x800) :
    String.utf8EncodeChar (Char.ofNat v) = UInt8.ofNat (v / 64 + 0xC0) :: trail 1 v := by
  rw [String.utf8EncodeChar, toNat_ofNat_of_valid (.inl (by omega))]
  simp only [trail]
  rw [if_neg (by omega), if_pos (by omega), Nat.mod_eq_of_lt (show v / 64 < 32 by omega)]
  simp

theorem encode_three (hlow : 0x800 ≤ v) (hhigh : v < 0x10000) (h : v.isValidChar) :
    String.utf8EncodeChar (Char.ofNat v) = UInt8.ofNat (v / 4096 + 0xE0) :: trail 2 v := by
  rw [String.utf8EncodeChar, toNat_ofNat_of_valid h]
  simp only [trail]
  rw [if_neg (by omega), if_neg (by omega), if_pos (by omega),
    Nat.mod_eq_of_lt (show v / 4096 < 16 by omega)]
  simp

theorem encode_four (hlow : 0x10000 ≤ v) (hhigh : v < 0x110000) :
    String.utf8EncodeChar (Char.ofNat v) = UInt8.ofNat (v / 262144 + 0xF0) :: trail 3 v := by
  rw [String.utf8EncodeChar, toNat_ofNat_of_valid (.inr ⟨by omega, hhigh⟩)]
  simp only [trail]
  rw [if_neg (by omega), if_neg (by omega), if_neg (by omega),
    Nat.mod_eq_of_lt (show v / 262144 < 8 by omega)]
  simp

end Encoding

/-! ## 3. In the middle of a character -/

/-- The decoder has read `bytes` of a character.  What it keeps says which numbers it may still
    come to, and these are all characters whose encoding goes on from `bytes`. -/
structure Midway (p : Pending) (bytes : List UInt8) : Prop where
  missing : p.missing ≠ 0
  low : 0x80 ≤ p.low
  range : p.low ≤ p.high
  high : p.high ≤ 0xBF
  chars : ∀ v, p.bits * 64 + (p.low - 0x80) ≤ v / 64 ^ (p.missing - 1) →
    v / 64 ^ (p.missing - 1) ≤ p.bits * 64 + (p.high - 0x80) →
    String.utf8EncodeChar (Char.ofNat v) = bytes ++ trail p.missing v

theorem Midway.begins {p : Pending} {bytes : List UInt8} (h : Midway p bytes) : Begins bytes := by
  have hpos : 0 < 64 ^ (p.missing - 1) := Nat.pow_pos (by decide)
  have hrange := h.range
  refine ⟨_, _, (h.chars ((p.bits * 64 + (p.low - 0x80)) * 64 ^ (p.missing - 1)) ?_ ?_).symm⟩
  · exact Nat.le_of_eq (Nat.mul_div_cancel _ hpos).symm
  · rw [Nat.mul_div_cancel _ hpos]
    omega

section FirstByte

variable {byte : UInt8} {bits low high : Nat}

theorem ofNat_eq_of_eq_toNat (byte : UInt8) {n : Nat} (h : n = byte.toNat) :
    UInt8.ofNat n = byte := by
  rw [h, UInt8.ofNat_toNat]

theorem midway_two (hbyte : byte.toNat = bits + 0xC0) (hlow : 2 ≤ bits) (hhigh : bits < 32) :
    Midway { bits := bits, missing := 1 } [byte] := by
  refine ⟨by simp, by simp, by simp, by simp, fun v hleast hmost => ?_⟩
  dsimp only at hleast hmost
  rw [encode_two (by omega) (by omega), ofNat_eq_of_eq_toNat byte (by omega)]
  rfl

theorem midway_three (hbyte : byte.toNat = bits + 0xE0) (hlow : 0x80 ≤ low) (hrange : low ≤ high)
    (hhigh : high ≤ 0xBF) (hbits : bits < 16)
    (hchars : ∀ v, bits * 64 + (low - 0x80) ≤ v / 64 → v / 64 ≤ bits * 64 + (high - 0x80) →
      0x800 ≤ v ∧ v.isValidChar) :
    Midway ⟨bits, 2, low, high⟩ [byte] := by
  refine ⟨by simp, hlow, hrange, hhigh, fun v hleast hmost => ?_⟩
  dsimp only at hleast hmost
  obtain ⟨hsize, hvalid⟩ := hchars v (by omega) (by omega)
  rw [encode_three hsize (by omega) hvalid, ofNat_eq_of_eq_toNat byte (by omega)]
  rfl

theorem midway_four (hbyte : byte.toNat = bits + 0xF0) (hlow : 0x80 ≤ low) (hrange : low ≤ high)
    (hhigh : high ≤ 0xBF)
    (hchars : ∀ v, bits * 64 + (low - 0x80) ≤ v / 4096 → v / 4096 ≤ bits * 64 + (high - 0x80) →
      0x10000 ≤ v ∧ v < 0x110000) :
    Midway ⟨bits, 3, low, high⟩ [byte] := by
  refine ⟨by simp, hlow, hrange, hhigh, fun v hleast hmost => ?_⟩
  dsimp only at hleast hmost
  obtain ⟨hsize, hvalid⟩ := hchars v (by omega) (by omega)
  rw [encode_four hsize hvalid, ofNat_eq_of_eq_toNat byte (by omega)]
  rfl

/-- What a first byte is: a character by itself, the beginning of one, or neither. -/
theorem start_cases (byte : UInt8) :
    (∃ c, start byte.toNat = ({}, [c]) ∧ String.utf8EncodeChar c = [byte]) ∨
      (∃ p, start byte.toNat = (p, []) ∧ Midway p [byte]) ∨
      start byte.toNat = ({}, [replacement]) := by
  have hsize : byte.toNat < 256 := UInt8.toNat_lt byte
  unfold start
  simp only [Bool.and_eq_true, decide_eq_true_eq]
  split
  · next hlead =>
    refine .inl ⟨_, rfl, ?_⟩
    rw [encode_one hlead, UInt8.ofNat_toNat]
  split
  · exact .inr (.inl ⟨_, rfl, midway_two (by omega) (by omega) (by omega)⟩)
  split
  · exact .inr (.inl ⟨_, rfl, midway_three (by omega) (by omega) (by omega) (by omega) (by omega)
      fun v _ _ => ⟨by omega, .inl (by omega)⟩⟩)
  split
  · exact .inr (.inl ⟨_, rfl, midway_three (by omega) (by omega) (by omega) (by omega) (by omega)
      fun v _ _ => ⟨by omega, .inl (by omega)⟩⟩)
  split
  · refine .inr (.inl ⟨_, rfl, midway_three (by omega) (by omega) (by omega) (by omega) (by omega)
      fun v _ _ => ⟨by omega, ?_⟩⟩)
    rw [Nat.isValidChar]
    omega
  split
  · exact .inr (.inl ⟨_, rfl, midway_four (by omega) (by omega) (by omega) (by omega)
      fun v _ _ => by omega⟩)
  split
  · exact .inr (.inl ⟨_, rfl, midway_four (by omega) (by omega) (by omega) (by omega)
      fun v _ _ => by omega⟩)
  split
  · exact .inr (.inl ⟨_, rfl, midway_four (by omega) (by omega) (by omega) (by omega)
      fun v _ _ => by omega⟩)
  · exact .inr (.inr rfl)

end FirstByte

/-! ### 3.1 One more byte -/

section Steps

variable {p : Pending} {bytes : List UInt8} {byte : UInt8}

/-- The byte may come next. -/
def Pending.Admits (p : Pending) (byte : UInt8) : Prop := p.low ≤ byte.toNat ∧ byte.toNat ≤ p.high

theorem step_start (byte : UInt8) : step {} byte = start byte.toNat := rfl

theorem feed_cons (p : Pending) (byte : UInt8) (rest : List UInt8) :
    feed p (byte :: rest) = ((feed (step p byte).1 rest).1,
      (step p byte).2 ++ (feed (step p byte).1 rest).2) := rfl

/-- A byte that may not come next is taken for a first one. -/
theorem step_of_not_admits (hmissing : p.missing ≠ 0) (hbyte : ¬ p.Admits byte) :
    step p byte = ((start byte.toNat).1, replacement :: (start byte.toNat).2) := by
  unfold step
  dsimp only
  rw [if_neg hmissing, if_neg (by simpa [Pending.Admits] using hbyte)]

theorem step_of_admits (hmissing : p.missing ≠ 0) (hbyte : p.Admits byte) :
    step p byte =
      if p.missing = 1 then ({}, [Char.ofNat (p.bits * 64 + (byte.toNat - 0x80))])
      else ({ bits := p.bits * 64 + (byte.toNat - 0x80), missing := p.missing - 1 }, []) := by
  unfold step
  dsimp only
  rw [if_neg hmissing, if_pos (by simpa [Pending.Admits] using hbyte)]

/-- The last byte that is missing ends the character. -/
theorem Midway.step_last (h : Midway p bytes) (hbyte : p.Admits byte) (hlast : p.missing = 1) :
    ∃ c, step p byte = ({}, [c]) ∧ String.utf8EncodeChar c = bytes ++ [byte] := by
  have hlow := h.low
  have hhigh := h.high
  obtain ⟨hleast, hmost⟩ := hbyte
  refine ⟨_, (step_of_admits h.missing ⟨hleast, hmost⟩).trans (if_pos hlast), ?_⟩
  have hchar := h.chars (p.bits * 64 + (byte.toNat - 0x80))
  rw [hlast, Nat.sub_self, Nat.pow_zero, Nat.div_one] at hchar
  rw [hchar (by omega) (by omega), trail, trail, Nat.pow_zero, Nat.div_one,
    ofNat_eq_of_eq_toNat byte (by omega)]

/-- Any other byte brings the decoder further. -/
theorem Midway.step_more (h : Midway p bytes) (hbyte : p.Admits byte) (hmore : p.missing ≠ 1) :
    ∃ p', step p byte = (p', []) ∧ Midway p' (bytes ++ [byte]) := by
  have hlow := h.low
  have hhigh := h.high
  obtain ⟨hleast, hmost⟩ := hbyte
  refine ⟨_, (step_of_admits h.missing ⟨hleast, hmost⟩).trans (if_neg hmore), ?_⟩
  obtain ⟨m, hm⟩ : ∃ m, p.missing = m + 2 := ⟨p.missing - 2, by have := h.missing; omega⟩
  rw [hm]
  refine ⟨by simp, by simp, by simp, by simp, fun v hfrom hto => ?_⟩
  dsimp only at hfrom hto ⊢
  have hsub : m + 2 - 1 = m + 1 := rfl
  rw [hsub, Nat.add_sub_cancel] at hfrom hto
  have hnext : v / 64 ^ (m + 1) = v / 64 ^ m / 64 := by rw [Nat.pow_succ, Nat.div_div_eq_div_mul]
  have hchar := h.chars v
  rw [hm, hsub, hnext] at hchar
  rw [hchar (by omega) (by omega), trail, hsub, hnext,
    ofNat_eq_of_eq_toNat byte (by omega), List.append_assoc, List.singleton_append]

end Steps

/-! ## 4. What is fed to the decoder -/

section Feeding

variable {p : Pending} {bytes : List UInt8}

/-- A step without output leaves something missing. -/
theorem missing_step_ne_zero {byte : UInt8} (h : (step p byte).2 = []) :
    (step p byte).1.missing ≠ 0 := by
  by_cases hzero : p.missing = 0
  · have hstart : step p byte = start byte.toNat := if_pos hzero
    rw [hstart] at h ⊢
    obtain ⟨c, hc, -⟩ | ⟨q, hq, hmidway⟩ | hbad := start_cases byte
    · simp [hc] at h
    · rw [hq]
      exact hmidway.missing
    · simp [hbad] at h
  · by_cases hbyte : p.Admits byte
    · rw [step_of_admits hzero hbyte] at h ⊢
      split at h
      · simp at h
      · next hmore =>
        rw [if_neg hmore]
        dsimp only
        omega
    · simp [step_of_not_admits hzero hbyte] at h

theorem missing_feed_ne_zero (hp : p.missing ≠ 0) (h : (feed p bytes).2 = []) :
    (feed p bytes).1.missing ≠ 0 := by
  induction bytes generalizing p with
  | nil => exact hp
  | cons byte rest ih =>
    obtain ⟨hstep, hrest⟩ := List.append_eq_nil_iff.mp h
    exact ih (missing_step_ne_zero hstep) hrest

/-- The number is one of those that the decoder may still come to. -/
structure Pending.Awaits (p : Pending) (m v : Nat) : Prop where
  missing : p.missing = m + 1
  bits : v / 64 ^ (m + 1) = p.bits
  low : p.low ≤ v / 64 ^ m % 64 + 0x80
  high : v / 64 ^ m % 64 + 0x80 ≤ p.high

theorem toNat_sixBits (n : Nat) : (UInt8.ofNat (n % 64 + 0x80)).toNat = n % 64 + 0x80 := by
  rw [UInt8.toNat_ofNat']
  omega

theorem feed_trail {m v : Nat} (h : p.Awaits m v) :
    feed p (trail (m + 1) v) = ({}, [Char.ofNat v]) := by
  induction m generalizing p with
  | zero =>
    obtain ⟨hmissing, hbits, hlow, hhigh⟩ := h
    have hbyte : p.Admits (UInt8.ofNat (v / 64 ^ 0 % 64 + 0x80)) := by
      rw [Pending.Admits, toNat_sixBits]
      exact ⟨hlow, hhigh⟩
    have hchar : p.bits * 64 + (v / 64 ^ 0 % 64 + 0x80 - 0x80) = v := by omega
    rw [trail, feed, step_of_admits (by omega) hbyte, if_pos hmissing, toNat_sixBits, hchar]
    rfl
  | succ m ih =>
    obtain ⟨hmissing, hbits, hlow, hhigh⟩ := h
    have hbyte : p.Admits (UInt8.ofNat (v / 64 ^ (m + 1) % 64 + 0x80)) := by
      rw [Pending.Admits, toNat_sixBits]
      exact ⟨hlow, hhigh⟩
    have hnext : v / 64 ^ (m + 1 + 1) = v / 64 ^ (m + 1) / 64 := by
      rw [Nat.pow_succ, Nat.div_div_eq_div_mul]
    rw [trail, feed, step_of_admits (by omega) hbyte, if_neg (by omega), toNat_sixBits]
    dsimp only
    rw [ih ⟨?_, ?_, ?_, ?_⟩]
    · rfl
    · exact congrArg (· - 1) hmissing
    · dsimp only
      omega
    · dsimp only
      omega
    · dsimp only
      omega

/-- A first byte, and the bytes that it leads to. -/
theorem feed_lead {lead m v : Nat} (hlead : lead < 256)
    (h : ∃ p, start lead = (p, []) ∧ p.Awaits m v) :
    feed {} (UInt8.ofNat lead :: trail (m + 1) v) = ({}, [Char.ofNat v]) := by
  obtain ⟨p, hstart, hawaits⟩ := h
  rw [feed_cons, step_start, UInt8.toNat_ofNat', Nat.mod_eq_of_lt hlead, hstart,
    feed_trail hawaits]
  rfl

theorem start_lead_two {v : Nat} (hlow : 0x80 ≤ v) (hhigh : v < 0x800) :
    ∃ p, start (v / 64 + 0xC0) = (p, []) ∧ p.Awaits 0 v := by
  refine ⟨{ bits := v / 64, missing := 1 }, ?_, rfl, rfl, ?_, ?_⟩
  · unfold start
    rw [if_neg (by omega), if_pos (by simp; omega), Nat.add_sub_cancel]
  · dsimp only
    omega
  · dsimp only
    omega

theorem start_lead_three {v : Nat} (hlow : 0x800 ≤ v) (hhigh : v < 0x10000) (h : v.isValidChar) :
    ∃ p, start (v / 4096 + 0xE0) = (p, []) ∧ p.Awaits 1 v := by
  rw [Nat.isValidChar] at h
  unfold start
  simp only [Bool.and_eq_true, decide_eq_true_eq]
  rw [if_neg (by omega), if_neg (by omega)]
  split
  · exact ⟨_, rfl, rfl, by dsimp only; omega, by dsimp only; omega, by dsimp only; omega⟩
  split
  · exact ⟨_, rfl, rfl, by dsimp only; omega, by dsimp only; omega, by dsimp only; omega⟩
  rw [if_pos (by omega)]
  exact ⟨_, rfl, rfl, by dsimp only; omega, by dsimp only; omega, by dsimp only; omega⟩

theorem start_lead_four {v : Nat} (hlow : 0x10000 ≤ v) (hhigh : v < 0x110000) :
    ∃ p, start (v / 262144 + 0xF0) = (p, []) ∧ p.Awaits 2 v := by
  unfold start
  simp only [Bool.and_eq_true, decide_eq_true_eq]
  rw [if_neg (by omega), if_neg (by omega), if_neg (by omega), if_neg (by omega),
    if_neg (by omega)]
  split
  · exact ⟨_, rfl, rfl, by dsimp only; omega, by dsimp only; omega, by dsimp only; omega⟩
  split
  · exact ⟨_, rfl, rfl, by dsimp only; omega, by dsimp only; omega, by dsimp only; omega⟩
  rw [if_pos (by omega)]
  exact ⟨_, rfl, rfl, by dsimp only; omega, by dsimp only; omega, by dsimp only; omega⟩

/-- **The encoding of a character** gives that character and leaves nothing behind. -/
theorem feed_encode (c : Char) : feed {} (String.utf8EncodeChar c) = ({}, [c]) := by
  have hvalid : c.toNat.isValidChar := c.valid
  have hbound : c.toNat < 0x110000 := by
    rw [Nat.isValidChar] at hvalid
    omega
  rw [← Char.ofNat_toNat c]
  generalize c.toNat = v at hvalid hbound
  rcases Nat.lt_or_ge v 0x80 with hone | hone
  · rw [encode_one hone, feed, step_start, UInt8.toNat_ofNat', Nat.mod_eq_of_lt (by omega),
      start, if_pos hone]
    rfl
  rcases Nat.lt_or_ge v 0x800 with htwo | htwo
  · rw [encode_two hone htwo]
    exact feed_lead (by omega) (start_lead_two hone htwo)
  rcases Nat.lt_or_ge v 0x10000 with hthree | hthree
  · rw [encode_three htwo hthree hvalid]
    exact feed_lead (by omega) (start_lead_three htwo hthree hvalid)
  · rw [encode_four hthree hbound]
    exact feed_lead (by omega) (start_lead_four hthree hbound)

end Feeding

/-! ## 5. The front of the bytes -/

/-- What the decoder gives from somewhere to the end of the bytes. -/
def decodeFrom (p : Pending) (bytes : List UInt8) : List Char :=
  (feed p bytes).2 ++ finish (feed p bytes).1

theorem decodeFrom_cons (p : Pending) (byte : UInt8) (rest : List UInt8) :
    decodeFrom p (byte :: rest) = (step p byte).2 ++ decodeFrom (step p byte).1 rest := by
  rw [decodeFrom, decodeFrom, feed_cons, List.append_assoc]

theorem decodeFrom_append (p : Pending) (bytes rest : List UInt8) :
    decodeFrom p (bytes ++ rest) = (feed p bytes).2 ++ decodeFrom (feed p bytes).1 rest := by
  rw [decodeFrom, decodeFrom, feed_append, List.append_assoc]

theorem toList_decode (bytes : List UInt8) : (decode bytes).toList = decodeFrom {} bytes :=
  String.toList_ofList

theorem toList_decode_encode_append (c : Char) (rest : List UInt8) :
    (decode (String.utf8EncodeChar c ++ rest)).toList = c :: (decode rest).toList := by
  rw [toList_decode, toList_decode, decodeFrom_append, feed_encode]
  rfl

theorem Begins.of_append {bytes more : List UInt8} (h : Begins (bytes ++ more)) : Begins bytes := by
  obtain ⟨c, hc⟩ := h
  exact ⟨c, (List.prefix_append _ _).trans hc⟩

/-- A character does not begin with bytes for which the decoder gives anything. -/
theorem not_encode_prefix_of_silent {bytes : List UInt8} (h : (feed {} bytes).2 = []) (c : Char) :
    ¬ String.utf8EncodeChar c <+: bytes := by
  rintro ⟨rest, rfl⟩
  simp [feed_append, feed_encode] at h

section Fronts

variable {p : Pending} {stretch rest : List UInt8} {byte : UInt8}

/-- A byte that cannot come next begins no character with those before it. -/
theorem not_begins_of_not_admits (hfeed : feed {} stretch = (p, [])) (hmissing : p.missing ≠ 0)
    (hbyte : ¬ p.Admits byte) : ¬ Begins (stretch ++ [byte]) := by
  rintro ⟨c, more, hc⟩
  have hwhole := feed_encode c
  rw [← hc, List.append_assoc, feed_append, hfeed, List.singleton_append, feed_cons,
    step_of_not_admits hmissing hbyte] at hwhole
  obtain ⟨hend, hout⟩ := Prod.mk.inj hwhole
  -- nothing comes after the replacement character, but then something is still missing
  obtain ⟨hstep, hmore⟩ := List.append_eq_nil_iff.mp (List.cons.inj hout).2
  have hleft := missing_feed_ne_zero (missing_step_ne_zero (p := {}) hstep) hmore
  rw [step_start] at hleft
  exact hleft (by rw [hend])

/-- A byte that is no first one begins no character. -/
theorem not_begins_of_replaced (h : start byte.toNat = ({}, [replacement])) : ¬ Begins [byte] := by
  rintro ⟨c, more, hc⟩
  have hwhole := feed_encode c
  rw [← hc, List.singleton_append, feed_cons, step_start, h] at hwhole
  obtain ⟨hend, hout⟩ := Prod.mk.inj hwhole
  obtain ⟨hchar, hmore⟩ := List.cons.inj hout
  cases more with
  | nil =>
    rw [← hchar] at hc
    have hlength : 1 = (String.utf8EncodeChar replacement).length := congrArg List.length hc
    exact absurd hlength (by decide)
  | cons b more =>
    have hsilent : (step {} b).2 ++ (feed (step {} b).1 more).2 = [] := hmore
    obtain ⟨hstep, hrest⟩ := List.append_eq_nil_iff.mp hsilent
    exact missing_feed_ne_zero (missing_step_ne_zero hstep) hrest (congrArg Pending.missing hend)

theorem undecodable_of_stuck (hfeed : (feed {} stretch).2 = []) (hne : stretch ≠ [])
    (hbegins : Begins stretch)
    (hstuck : ∀ b more, rest = b :: more → ¬ Begins (stretch ++ [b])) :
    Undecodable stretch rest := by
  have hlongest : ∀ more, more <+: rest → Begins (stretch ++ more) → more = [] := by
    rintro more ⟨tail, htail⟩ hmore
    cases more with
    | nil => rfl
    | cons b more =>
      rw [← List.singleton_append, ← List.append_assoc] at hmore
      exact absurd hmore.of_append (hstuck b _ htail.symm)
  refine ⟨fun c hc => ?_, .inl ⟨hne, hbegins⟩, hlongest⟩
  rcases List.prefix_or_prefix_of_prefix hc (List.prefix_append stretch rest) with hshort | hlong
  · exact not_encode_prefix_of_silent hfeed c hshort
  · obtain ⟨more, hmore⟩ := hlong
    have hrest : more <+: rest := (List.prefix_append_right_inj stretch).mp (hmore ▸ hc)
    have hnil := hlongest more hrest ⟨c, hmore ▸ List.prefix_rfl⟩
    rw [hnil, List.append_nil] at hmore
    exact not_encode_prefix_of_silent hfeed c (hmore ▸ List.prefix_rfl)

theorem undecodable_single (h : ¬ Begins [byte]) : Undecodable [byte] rest := by
  refine ⟨fun c hc => h ?_, .inr rfl, fun more _ hmore => absurd hmore.of_append h⟩
  obtain ⟨b, bytes, hencode⟩ := List.exists_cons_of_ne_nil (String.utf8EncodeChar_ne_nil (c := c))
  rw [hencode, List.singleton_append, List.cons_prefix_cons] at hc
  exact ⟨c, by rw [hencode, hc.1]; exact ⟨bytes, rfl⟩⟩

/-- At the front of the bytes there is a character, or a stretch for which the decoder gives
    one replacement character. -/
inductive Front : List UInt8 → Prop where
  | char (c : Char) (rest : List UInt8) : Front (String.utf8EncodeChar c ++ rest)
  | replaced {stretch rest : List UInt8} (hbad : Undecodable stretch rest)
    (h : (decode (stretch ++ rest)).toList = replacement :: (decode rest).toList) :
    Front (stretch ++ rest)

theorem Midway.front (h : Midway p stretch) (hne : stretch ≠ [])
    (hfeed : feed {} stretch = (p, [])) : Front (stretch ++ rest) := by
  have hsilent : (feed {} stretch).2 = [] := by rw [hfeed]
  induction rest generalizing p stretch with
  | nil =>
    refine .replaced (undecodable_of_stuck hsilent hne h.begins fun b more hnil => by cases hnil) ?_
    rw [List.append_nil, toList_decode, decodeFrom, hfeed, finish, if_neg h.missing]
    rfl
  | cons byte rest ih =>
    by_cases hbyte : p.Admits byte
    · have hcut : stretch ++ byte :: rest = stretch ++ [byte] ++ rest := by simp
      by_cases hlast : p.missing = 1
      · obtain ⟨c, -, hencode⟩ := h.step_last hbyte hlast
        rw [hcut, ← hencode]
        exact .char c rest
      · obtain ⟨p', hstep, hmidway⟩ := h.step_more hbyte hlast
        have hfeed' : feed {} (stretch ++ [byte]) = (p', []) := by
          rw [feed_append, hfeed, feed_cons, hstep]
          rfl
        rw [hcut]
        exact ih hmidway (by simp) hfeed' (by rw [hfeed'])
    · refine .replaced (undecodable_of_stuck hsilent hne h.begins ?_) ?_
      · rintro b more hcons
        rw [← (List.cons.inj hcons).1]
        exact not_begins_of_not_admits hfeed h.missing hbyte
      · rw [toList_decode, toList_decode, decodeFrom_append, hfeed, decodeFrom_cons,
          decodeFrom_cons, step_of_not_admits h.missing hbyte, step_start]
        rfl

theorem exists_front (hne : rest ≠ []) : Front rest := by
  cases rest with
  | nil => exact absurd rfl hne
  | cons byte rest =>
    obtain ⟨c, -, hencode⟩ | ⟨p, hstart, hmidway⟩ | hbad := start_cases byte
    · rw [← List.singleton_append, ← hencode]
      exact .char c rest
    · have hfeed : feed {} [byte] = (p, []) := by
        rw [feed_cons, step_start, hstart]
        rfl
      exact hmidway.front (List.cons_ne_nil _ _) hfeed
    · rw [← List.singleton_append]
      refine .replaced (undecodable_single (not_begins_of_replaced hbad)) ?_
      rw [toList_decode, toList_decode, List.singleton_append, decodeFrom_cons, step_start, hbad]
      rfl

end Fronts

/-! ## 6. The decoder decodes -/

theorem Undecodable.ne_nil {stretch rest : List UInt8} (h : Undecodable stretch rest) :
    stretch ≠ [] := by
  rcases h.begins_or_single with ⟨hne, -⟩ | hone
  · exact hne
  · rintro rfl
    cases hone

theorem Undecodable.eq_nil_of_append {stretch more rest : List UInt8}
    (h : Undecodable stretch (more ++ rest)) (h' : Undecodable (stretch ++ more) rest) :
    more = [] := by
  rcases h'.begins_or_single with ⟨-, hbegins⟩ | hone
  · exact h.longest more (List.prefix_append more rest) hbegins
  · have hpos := List.length_pos_iff.mpr h.ne_nil
    rw [List.length_append] at hone
    exact List.eq_nil_of_length_eq_zero (by omega)

/-- There is one way to cut off a stretch that cannot be decoded. -/
theorem Undecodable.unique {stretch rest stretch' rest' : List UInt8}
    (h : Undecodable stretch rest) (h' : Undecodable stretch' rest')
    (heq : stretch ++ rest = stretch' ++ rest') : rest = rest' := by
  rcases List.append_eq_append_iff.mp heq with ⟨more, rfl, rfl⟩ | ⟨more, rfl, rfl⟩
  · rw [h.eq_nil_of_append h', List.nil_append]
  · rw [h'.eq_nil_of_append h, List.nil_append]

theorem decoded_decode (bytes : List UInt8) : Decoded bytes (decode bytes).toList := by
  induction hlength : bytes.length using Nat.strongRecOn generalizing bytes with
  | ind n ih =>
    by_cases hne : bytes = []
    · rw [hne]
      exact .nil
    · cases exists_front hne with
      | char c rest =>
        have hpos := List.length_pos_iff.mpr (String.utf8EncodeChar_ne_nil (c := c))
        rw [toList_decode_encode_append]
        exact .char c (ih rest.length (by rw [← hlength, List.length_append]; omega) rest rfl)
      | @replaced stretch rest hbad h =>
        have hpos := List.length_pos_iff.mpr hbad.ne_nil
        rw [h]
        exact .replaced hbad
          (ih rest.length (by rw [← hlength, List.length_append]; omega) rest rfl)

/-- **The decoder gives what the bytes decode to**, and they decode to nothing else. -/
theorem decoded_iff {bytes : List UInt8} {out : List Char} :
    Decoded bytes out ↔ (decode bytes).toList = out := by
  constructor
  · intro h
    induction h with
    | nil => exact toList_decode []
    | char c _ ih => rw [toList_decode_encode_append, ih]
    | @replaced stretch rest out hbad _ ih =>
      have hne : stretch ++ rest ≠ [] := fun hnil => hbad.ne_nil (List.append_eq_nil_iff.mp hnil).1
      have hfront := exists_front hne
      generalize hbytes : stretch ++ rest = bytes at hfront ⊢
      cases hfront with
      | char c rest' => exact absurd ⟨rest', hbytes.symm⟩ (hbad.unconvertible c)
      | replaced hbad' h =>
        rw [h, ← hbad.unique hbad' hbytes, ih]
  · rintro rfl
    exact decoded_decode bytes

/-- A character that is cut short counts once; what begins none counts byte by byte. -/
example : decode [0xE2, 0x82, 0x41, 0xC0, 0x80, 0xED, 0xA0, 0xF0, 0x9F] =
    "\uFFFDA\uFFFD\uFFFD\uFFFD\uFFFD\uFFFD" := by
  decide +kernel

end SuiteExplorer.Text.Utf8
