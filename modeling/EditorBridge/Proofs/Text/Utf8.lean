import EditorBridge.Text.Utf8
import Mathlib.Tactic.IntervalCases

/-!
# Reading UTF-8 back

The reader of UTF-8 takes bytes one by one and knows what the character that has begun still needs.
From between two characters the bytes of a character lead it to the place behind that character, so
the bytes of a text are read as that text.

## Main results

* `Utf8.foldl_step_utf8EncodeChar`: the bytes of one character are read as that character.
* `Utf8.parts_encode`: the parts of the bytes of a text are its characters.
* `ofBytesLossy_toBytes`, `toBytes_injective`: a text is recovered from its bytes.
* `ofNat_mem_of_mem_toBytes`: the small bytes of a text are characters of it.
-/

namespace EditorBridge.Text

namespace Utf8

/-! ## The bytes behind the first one -/

/-- A byte that continues a character adds its six bits, and completes it if it is the last. -/
theorem Reader.step_of_mem {low high byte : UInt8} (hlow : low ≤ byte) (hhigh : byte ≤ high)
    (more bits : Nat) (parts : List (Option Char)) :
    Reader.step ⟨some ⟨low, high, more, bits⟩, parts⟩ byte =
      match more with
      | 0 => ⟨none, some (Char.ofNat (bits * 64 + byte.toNat % 64)) :: parts⟩
      | more + 1 => ⟨some ⟨0x80, 0xbf, more, bits * 64 + byte.toNat % 64⟩, parts⟩ := by
  have hfits : low ≤ byte ∧ byte ≤ high := ⟨hlow, hhigh⟩
  cases more with
  | zero => simp only [Reader.step, if_pos hfits]
  | succ more => simp only [Reader.step, if_pos hfits]

theorem toNat_tail (n : Nat) : (UInt8.ofNat (n % 64 + 128)).toNat = n % 64 + 128 := by
  have hlt : n % 64 + 128 < UInt8.size := by
    have := Nat.mod_lt n (by decide : 64 > 0)
    simp only [UInt8.size]
    omega
  exact UInt8.toNat_ofNat_of_lt' hlt

/-- The six bits of a number, as a byte behind the first one. -/
theorem Reader.step_tail {low high : UInt8} {n : Nat} (hlow : low.toNat ≤ n % 64 + 128)
    (hhigh : n % 64 + 128 ≤ high.toNat) (more bits : Nat) (parts : List (Option Char)) :
    Reader.step ⟨some ⟨low, high, more, bits⟩, parts⟩ (UInt8.ofNat (n % 64 + 128)) =
      match more with
      | 0 => ⟨none, some (Char.ofNat (bits * 64 + n % 64)) :: parts⟩
      | more + 1 => ⟨some ⟨0x80, 0xbf, more, bits * 64 + n % 64⟩, parts⟩ := by
  have hbyte := toNat_tail n
  have hbits : (n % 64 + 128) % 64 = n % 64 := by omega
  rw [Reader.step_of_mem, hbyte, hbits]
  · rwa [UInt8.le_iff_toNat_le, hbyte]
  · rwa [UInt8.le_iff_toNat_le, hbyte]

/-! ## The first byte -/

/-- The first byte of a character that has two. -/
theorem Reader.step_lead_two {n : Nat} (hlow : 2 ≤ n) (hhigh : n < 32)
    (parts : List (Option Char)) :
    Reader.step ⟨none, parts⟩ (UInt8.ofNat (n + 192)) = ⟨some ⟨0x80, 0xbf, 0, n⟩, parts⟩ := by
  have hbyte : (UInt8.ofNat (n + 192)).toNat = n + 192 :=
    UInt8.toNat_ofNat_of_lt' (by simp only [UInt8.size]; omega)
  have hbits : (n + 192) % 32 = n := by omega
  simp only [Reader.step, Reader.start, UInt8.lt_iff_toNat_lt, hbyte]
  rw [if_neg (by simp), if_neg (by simp; omega), if_pos (by simp; omega), hbits]

/-- The first byte of a character that has three. What may follow it depends on the byte, so that
neither a shorter form nor a surrogate is read. -/
theorem Reader.step_lead_three {n : Nat} (hhigh : n < 16) (parts : List (Option Char)) :
    Reader.step ⟨none, parts⟩ (UInt8.ofNat (n + 224)) =
      ⟨some ⟨if n = 0 then 0xa0 else 0x80, if n = 13 then 0x9f else 0xbf, 1, n⟩, parts⟩ := by
  have hbyte : (UInt8.ofNat (n + 224)).toNat = n + 224 :=
    UInt8.toNat_ofNat_of_lt' (by simp only [UInt8.size]; omega)
  have hbits : (n + 224) % 16 = n := by omega
  simp only [Reader.step, Reader.start, UInt8.lt_iff_toNat_lt, ← UInt8.toNat_inj, hbyte]
  rw [if_neg (by simp), if_neg (by simp), if_neg (by simp), hbits]
  by_cases hshort : n = 0
  · subst hshort
    rfl
  by_cases hsurrogate : n = 13
  · subst hsurrogate
    rfl
  rw [if_neg (by simpa using hshort), if_neg (by simp; omega), if_pos (by simp; omega),
    if_neg hshort, if_neg hsurrogate]

/-- The first byte of a character that has four. -/
theorem Reader.step_lead_four {n : Nat} (hhigh : n < 5) (parts : List (Option Char)) :
    Reader.step ⟨none, parts⟩ (UInt8.ofNat (n + 240)) =
      ⟨some ⟨if n = 0 then 0x90 else 0x80, if n = 4 then 0x8f else 0xbf, 2, n⟩, parts⟩ := by
  -- There are only five such bytes.
  interval_cases n <;> rfl

/-! ## Characters and texts -/

/-- The bytes of a character are read as that character. -/
theorem foldl_step_utf8EncodeChar (c : Char) (parts : List (Option Char)) :
    (String.utf8EncodeChar c).foldl Reader.step ⟨none, parts⟩ = ⟨none, some c :: parts⟩ := by
  have hvalid : c.toNat < 0xd800 ∨ 0xdfff < c.toNat ∧ c.toNat < 0x110000 := c.valid
  have hencode : ∀ n, n = c.val.toNat → Char.ofNat n = c := fun n hn => hn ▸ Char.ofNat_toNat c
  rw [String.utf8EncodeChar]
  rw [Char.toNat] at hvalid
  -- From here on only the code point counts, by whose size the cases are split.
  generalize c.val.toNat = n at hvalid hencode ⊢
  rw [← hencode n rfl]
  split
  · next hone =>
    have hbyte : (UInt8.ofNat n).toNat = n :=
      UInt8.toNat_ofNat_of_lt' (by simp only [UInt8.size]; omega)
    simp only [List.foldl, Reader.step, Reader.start, UInt8.lt_iff_toNat_lt, hbyte]
    rw [if_pos (by simp; omega)]
  split
  · next hone htwo =>
    rw [List.foldl_cons, Nat.mod_eq_of_lt (by omega : n / 64 < 32),
      Reader.step_lead_two (by omega) (by omega), List.foldl_cons,
      Reader.step_tail (by simp) (by simp; omega), List.foldl_nil]
    have hn : n / 64 * 64 + n % 64 = n := by omega
    rw [hn]
  split
  · next hone htwo hthree =>
    -- Behind 0xe0 the next byte is at least 0xa0, because the code point is at least 0x800. Behind
    -- 0xed it is at most 0x9f, because the code point is no surrogate.
    rw [List.foldl_cons, Nat.mod_eq_of_lt (by omega : n / 4096 < 16),
      Reader.step_lead_three (by omega), List.foldl_cons,
      Reader.step_tail (by split <;> simp; omega) (by split <;> simp <;> omega), List.foldl_cons,
      Reader.step_tail (by simp) (by simp; omega), List.foldl_nil]
    have hn : (n / 4096 * 64 + n / 64 % 64) * 64 + n % 64 = n := by omega
    rw [hn]
  · next hone htwo hthree =>
    -- The bounds of the byte behind 0xf0 and 0xf4 are those of the planes above the first.
    rw [List.foldl_cons, Nat.mod_eq_of_lt (by omega : n / 262144 < 8),
      Reader.step_lead_four (by omega), List.foldl_cons,
      Reader.step_tail (by split <;> simp; omega) (by split <;> simp <;> omega), List.foldl_cons,
      Reader.step_tail (by simp) (by simp; omega), List.foldl_cons,
      Reader.step_tail (by simp) (by simp; omega), List.foldl_nil]
    have hn : ((n / 262144 * 64 + n / 4096 % 64) * 64 + n / 64 % 64) * 64 + n % 64 = n := by omega
    rw [hn]

/-- The bytes of several characters are read one character after the other. -/
theorem foldl_step_encode (chars : List Char) (parts : List (Option Char)) :
    (encode chars).foldl Reader.step ⟨none, parts⟩ =
      ⟨none, (chars.map some).reverse ++ parts⟩ := by
  induction chars generalizing parts with
  | nil => rfl
  | cons c rest ih =>
    rw [encode, List.flatMap_cons, List.foldl_append, foldl_step_utf8EncodeChar]
    rw [encode] at ih
    rw [ih, List.map_cons, List.reverse_cons, List.append_assoc, List.singleton_append]

/-- The parts of the bytes of a text are its characters. -/
theorem parts_encode (chars : List Char) : parts (encode chars) = chars.map some := by
  rw [parts, foldl_step_encode, Reader.finish, List.append_nil, List.reverse_reverse]

theorem decodeLossy_encode (chars : List Char) : decodeLossy (encode chars) = chars := by
  rw [decodeLossy, parts_encode, List.map_map]
  exact List.map_id chars

end Utf8

/-- A text is recovered from its bytes. -/
@[simp]
theorem ofBytesLossy_toBytes (text : String) : ofBytesLossy (toBytes text) = text := by
  rw [ofBytesLossy, toBytes, Utf8.decodeLossy_encode, String.ofList_toList]

/-- Two texts with the same bytes are the same text. -/
theorem toBytes_injective : Function.Injective toBytes := by
  intro first second hbytes
  rw [← ofBytesLossy_toBytes first, hbytes, ofBytesLossy_toBytes]

/-- A byte below those that longer characters are made of is a character of its own. -/
theorem ofNat_mem_of_mem_toBytes {text : String} {byte : UInt8} (hmem : byte ∈ toBytes text)
    (hsmall : byte.toNat < 0x80) : Char.ofNat byte.toNat ∈ text.toList := by
  obtain ⟨c, hc, hbyte⟩ := List.mem_flatMap.mp hmem
  have hlarge : ∀ n : Nat, 0x80 ≤ n % 256 → byte ≠ UInt8.ofNat n := by
    rintro n hn rfl
    rw [UInt8.toNat_ofNat'] at hsmall
    omega
  rw [String.utf8EncodeChar] at hbyte
  split at hbyte
  · next hone =>
    have hcode : byte.toNat = c.toNat := by
      rw [List.mem_singleton.mp hbyte]
      exact UInt8.toNat_ofNat_of_lt' (by simp only [UInt8.size]; omega)
    rwa [hcode, Char.ofNat_toNat]
  -- All bytes of the longer characters have their highest bit set.
  split at hbyte
  · simp only [List.mem_cons, List.not_mem_nil, or_false] at hbyte
    rcases hbyte with h | h <;> exact absurd h (hlarge _ (by omega))
  split at hbyte
  · simp only [List.mem_cons, List.not_mem_nil, or_false] at hbyte
    rcases hbyte with h | h | h <;> exact absurd h (hlarge _ (by omega))
  · simp only [List.mem_cons, List.not_mem_nil, or_false] at hbyte
    rcases hbyte with h | h | h | h <;> exact absurd h (hlarge _ (by omega))

end EditorBridge.Text
