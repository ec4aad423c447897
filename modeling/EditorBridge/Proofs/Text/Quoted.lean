import EditorBridge.Json.Reader
import EditorBridge.Text.Quoted
import Mathlib.Tactic.IntervalCases

/-!
# Reading quoted texts back

A reader for quoted texts that takes one character after the other. It needs no look ahead: in a
quoted text a double quote stands at the end and behind a backslash only, and a backslash begins an
escape. Every escaped character leads the reader from inside the text to inside the text with this
character read, so a quoted text is read as the text that it was made of.

## Main definitions

* `QuoteReader`: where the reader stands, and what it has read.

## Main results

* `QuoteReader.foldl_step_escapeChar`: an escaped character is read as the character.
* `QuoteReader.foldl_step_escaped`: so are several, up to the quote behind them.
-/

namespace EditorBridge.Text

/-- Where a reader of a quoted text stands behind the quote that opens it. Everywhere but at the end
it has read some characters of the text. -/
inductive QuoteReader where
  /-- Between two characters. -/
  | inside (read : List Char)
  /-- Behind a backslash. -/
  | escape (read : List Char)
  /-- Behind the letter of a code point. -/
  | letter (read : List Char)
  /-- Inside the braces of a code point, with the value of its digits so far. -/
  | code (read : List Char) (value : Nat)
  /-- Behind the closing quote. -/
  | closed (read : List Char)
  /-- Behind something that does not stand in a quoted text. -/
  | refused
deriving DecidableEq, Repr

namespace QuoteReader

/-- The character that a letter behind a backslash stands for. -/
def escaped? : Char → Option Char
  | '0' => some '\x00'
  | 't' => some '\t'
  | 'r' => some '\r'
  | 'n' => some '\n'
  | '\\' => some '\\'
  | '"' => some '"'
  | _ => none

/-- Read the next character. -/
def step (reader : QuoteReader) (c : Char) : QuoteReader :=
  match reader with
  | .inside read =>
    if c = '"' then .closed read else if c = '\\' then .escape read else .inside (read ++ [c])
  | .escape read =>
    match escaped? c with
    | some meant => .inside (read ++ [meant])
    | none => if c = 'u' then .letter read else .refused
  | .letter read => if c = '\x7b' then .code read 0 else .refused
  | .code read value =>
    if c = '\x7d' then .inside (read ++ [Char.ofNat value])
    else
      match Json.hexValue? c with
      | some digit => .code read (value * 16 + digit)
      | none => .refused
  | .closed _ | .refused => .refused

/-! ## Code points -/

/-- A hexadecimal digit is read as the number that it was written for. -/
theorem step_digitChar {digit : Nat} (hdigit : digit < 16) (read : List Char) (value : Nat) :
    step (.code read value) digit.digitChar = .code read (value * 16 + digit) := by
  interval_cases digit <;> rfl

/-- The digits of a number are read as that number, behind those that were read before. -/
theorem foldl_step_hexDigits (n : Nat) (read : List Char) :
    (hexDigits n).foldl step (.code read 0) = .code read n := by
  -- The last digit is the rest by sixteen, and those before it belong to a smaller number.
  induction n using Nat.strongRecOn with
  | ind n ih =>
    by_cases hone : n < 16
    · rw [hexDigits, Nat.toDigits_of_lt_base hone, List.foldl_cons, step_digitChar hone,
        List.foldl_nil, Nat.zero_mul, Nat.zero_add]
    · have hmod : n % 16 < 16 := Nat.mod_lt n (by decide)
      have hbefore := ih (n / 16) (by omega)
      rw [hexDigits] at hbefore ⊢
      rw [Nat.toDigits_of_base_le (by decide) (by omega), List.foldl_append, hbefore,
        List.foldl_cons, step_digitChar hmod, List.foldl_nil, Nat.div_add_mod']

/-! ## Escapes -/

/-- A character that stands for itself. -/
theorem step_inside {c : Char} (hquote : c ≠ '"') (hbackslash : c ≠ '\\') (read : List Char) :
    step (.inside read) c = .inside (read ++ [c]) := by
  simp only [step]
  rw [if_neg hquote, if_neg hbackslash]

/-- A character that is written as its code point. -/
theorem foldl_step_codePoint (c : Char) (read : List Char) :
    (['\\', 'u', '\x7b'] ++ hexDigits c.toNat ++ ['\x7d']).foldl step (.inside read) =
      .inside (read ++ [c]) := by
  have hopen : ['\\', 'u', '\x7b'].foldl step (.inside read) = .code read 0 := rfl
  have hclose : step (.code read c.toNat) '\x7d' = .inside (read ++ [c]) := by
    simp only [step, if_true, Char.ofNat_toNat]
  rw [List.foldl_append, List.foldl_append, hopen, foldl_step_hexDigits, List.foldl_cons, hclose,
    List.foldl_nil]

/-- A character of a quoted text is read as that character, however it is written. -/
theorem foldl_step_escapeChar (c : Char) (read : List Char) :
    (escapeChar c).foldl step (.inside read) = .inside (read ++ [c]) := by
  unfold escapeChar
  split
  · rfl
  · rfl
  · rfl
  · rfl
  · rfl
  · rfl
  · next hnul htab hreturn hline hbackslash hquote =>
    split
    · exact foldl_step_codePoint c read
    · exact step_inside hquote hbackslash read

/-- The characters between the quotes are read one after the other. -/
theorem foldl_step_escaped (chars read : List Char) :
    (chars.flatMap escapeChar).foldl step (.inside read) = .inside (read ++ chars) := by
  induction chars generalizing read with
  | nil => rw [List.flatMap_nil, List.foldl_nil, List.append_nil]
  | cons c rest ih =>
    rw [List.flatMap_cons, List.foldl_append, foldl_step_escapeChar, ih, List.append_assoc,
      List.singleton_append]

/-- Behind the closing quote there is no way back into the text. -/
theorem foldl_step_closed_ne_inside (chars read read' : List Char) :
    chars.foldl step (.closed read) ≠ .inside read' := by
  have hrefused : ∀ chars : List Char, chars.foldl step .refused = .refused := by
    intro chars
    induction chars with
    | nil => rfl
    | cons c rest ih => exact ih
  cases chars with
  | nil => exact nofun
  | cons c rest =>
    rw [List.foldl_cons, step, hrefused]
    exact nofun

end QuoteReader

end EditorBridge.Text
