import EditorBridge.Compile.Request
import EditorBridge.Proofs.Text.Quoted
import EditorBridge.Proofs.Text.Utf8

/-!
# Reading command lines back

The command line that messages show is read back into its words. A blank inside a word makes it a
quoted one, and in a quoted word a quote stands at the end and behind a backslash only. So a word
that begins with a quote is quoted, a blank that is in no quoted word stands between two words, and
different programs, arguments or files are never shown alike.

## Main definitions

* `WordReader`: reads a command line one character after the other.
* `words?`: the words of a command line.

## Main results

* `WordReader.exists_foldl_step_displayWord`: one word is read back, quoted or not.
* `words?_intercalate`: so are the words of a command line.
* `commandLine_unambiguous`: the command line of a request is read back into its program, its
  arguments and its file.
-/

namespace EditorBridge.Compile

open Text (QuoteReader)

/-- Where a reader of a command line stands. -/
inductive Place where
  /-- Where a word begins. -/
  | start
  /-- Behind some characters of a word without quotes. -/
  | bare (read : List Char)
  /-- Behind the quote that opens a word. -/
  | quoted (reader : QuoteReader)
deriving DecidableEq, Repr

/-- The word that may end at a place. -/
def Place.word? : Place → Option String
  | .bare read | .quoted (.closed read) => some (String.ofList read)
  | _ => none

/-- Read the next character of a word. -/
def Place.step : Place → Char → Place
  | .start, c => if c = '"' then .quoted (.inside []) else .bare [c]
  | .bare read, c => .bare (read ++ [c])
  | .quoted reader, c => .quoted (reader.step c)

/-- The words of a command line that were read, and the place in the next one. -/
structure WordReader where
  /-- The words that are complete. -/
  words : List String
  /-- The place behind them. -/
  place : Place
deriving DecidableEq, Repr

namespace WordReader

/-- Read the next character: a blank where a word may end is the end of that word. -/
def step (reader : WordReader) (c : Char) : WordReader :=
  match reader.place.word? with
  | some word =>
    if c = ' ' then ⟨reader.words ++ [word], .start⟩ else ⟨reader.words, reader.place.step c⟩
  | none => ⟨reader.words, reader.place.step c⟩

/-- All words, if the command line may end here. -/
def finish? (reader : WordReader) : Option (List String) :=
  reader.place.word?.map (reader.words ++ [·])

end WordReader

/-- The words of a command line. -/
def words? (line : String) : Option (List String) :=
  (line.toList.foldl WordReader.step ⟨[], .start⟩).finish?

namespace WordReader

/-! ## Single characters -/

/-- A character that is no blank belongs to the word. -/
theorem step_of_ne {c : Char} (hc : c ≠ ' ') (words : List String) (place : Place) :
    step ⟨words, place⟩ c = ⟨words, place.step c⟩ := by
  cases hplace : place.word? with
  | none => simp only [step, hplace]
  | some word => simp only [step, hplace, if_neg hc]

/-- So does any character where no word may end. -/
theorem step_of_word?_eq_none {place : Place} (hplace : place.word? = none) (words : List String)
    (c : Char) : step ⟨words, place⟩ c = ⟨words, place.step c⟩ := by
  simp only [step, hplace]

/-- A blank where a word may end is its end. -/
theorem step_blank {place : Place} {word : String} (hplace : place.word? = some word)
    (words : List String) : step ⟨words, place⟩ ' ' = ⟨words ++ [word], .start⟩ := by
  simp only [step, hplace, if_true]

/-! ## Words -/

/-- A word without quotes is read up to the next blank. -/
theorem foldl_step_bare {chars : List Char} (hchars : ∀ c ∈ chars, c ≠ ' ') (words : List String)
    (read : List Char) :
    chars.foldl step ⟨words, .bare read⟩ = ⟨words, .bare (read ++ chars)⟩ := by
  induction chars generalizing read with
  | nil => rw [List.foldl_nil, List.append_nil]
  | cons c rest ih =>
    obtain ⟨hc, hrest⟩ := List.forall_mem_cons.mp hchars
    rw [List.foldl_cons, step_of_ne hc, Place.step, ih hrest, List.append_assoc,
      List.singleton_append]

/-- Inside a quoted word the blanks are characters like all others. -/
theorem foldl_step_quoted {chars read : List Char} {reader : QuoteReader}
    (hread : chars.foldl QuoteReader.step reader = .inside read) (words : List String) :
    chars.foldl step ⟨words, .quoted reader⟩ = ⟨words, .quoted (.inside read)⟩ := by
  induction chars generalizing reader with
  | nil =>
    rw [List.foldl_nil] at hread
    rw [hread, List.foldl_nil]
  | cons c rest ih =>
    -- The word is not closed yet, because nothing leads from there back inside.
    have hopen : (Place.quoted reader).word? = none := by
      cases reader with
      | closed read' => exact absurd hread (QuoteReader.foldl_step_closed_ne_inside _ _ _)
      | _ => rfl
    rw [List.foldl_cons] at hread
    rw [List.foldl_cons, step_of_word?_eq_none hopen, Place.step, ih hread]

/-- A word is read back as it is shown, with or without quotes. -/
theorem exists_foldl_step_displayWord (word : String) (words : List String) :
    ∃ place, (Request.displayWord word).toList.foldl step ⟨words, .start⟩ = ⟨words, place⟩ ∧
      place.word? = some word := by
  unfold Request.displayWord
  split
  · next hquotes =>
    refine ⟨.quoted (.closed word.toList), ?_, congrArg some String.ofList_toList⟩
    have hopen : step ⟨words, .start⟩ '"' = ⟨words, .quoted (.inside [])⟩ := rfl
    have hinside : (word.toList.flatMap Text.escapeChar).foldl QuoteReader.step (.inside []) =
        .inside word.toList := QuoteReader.foldl_step_escaped word.toList []
    rw [Text.quoted, String.toList_ofList, List.foldl_cons, hopen, List.foldl_append,
      foldl_step_quoted hinside]
    rfl
  · next hquotes =>
    -- The word is not empty, and it holds neither a blank nor a quote.
    simp only [Request.needsQuotes, Bool.or_eq_true, not_or, List.any_eq_true, not_exists,
      not_and, beq_iff_eq] at hquotes
    obtain ⟨hempty, hplain⟩ := hquotes
    obtain ⟨c, rest, hword⟩ : ∃ c rest, word.toList = c :: rest :=
      List.exists_cons_of_ne_nil fun h => hempty (by simpa using h)
    have hblank : ∀ d ∈ word.toList, d ≠ ' ' := by
      rintro d hd rfl
      exact absurd (by decide) (hplain ' ' hd).1.1
    have hquote : c ≠ '"' := (hplain c (hword ▸ List.mem_cons_self)).1.2
    refine ⟨.bare word.toList, ?_, congrArg some String.ofList_toList⟩
    rw [hword] at hblank ⊢
    obtain ⟨hc, hrest⟩ := List.forall_mem_cons.mp hblank
    rw [List.foldl_cons, step_of_ne hc, Place.step, if_neg hquote, foldl_step_bare hrest,
      List.singleton_append]

/-! ## Command lines -/

/-- The words of a command line are read one after the other, behind those that are complete. -/
theorem finish?_intercalate (word : String) (rest words : List String) :
    ((" ".intercalate ((word :: rest).map Request.displayWord)).toList.foldl step
      ⟨words, .start⟩).finish? = some (words ++ word :: rest) := by
  induction rest generalizing word words with
  | nil =>
    obtain ⟨place, hread, hword⟩ := exists_foldl_step_displayWord word words
    rw [List.map_cons, List.map_nil, String.intercalate_singleton, hread, finish?, hword]
    rfl
  | cons next rest ih =>
    obtain ⟨place, hread, hword⟩ := exists_foldl_step_displayWord word words
    rw [List.map_cons, List.map_cons, String.intercalate_cons_cons, String.toList_append,
      String.toList_append, List.foldl_append, List.foldl_append, hread]
    have hblank : " ".toList.foldl step ⟨words, place⟩ = ⟨words ++ [word], .start⟩ :=
      step_blank hword words
    rw [hblank, ← List.map_cons, ih, List.append_assoc, List.singleton_append]

end WordReader

/-- The words of a command line are those that it was made of. -/
theorem words?_intercalate (word : String) (rest : List String) :
    words? (" ".intercalate ((word :: rest).map Request.displayWord)) = some (word :: rest) := by
  rw [words?, WordReader.finish?_intercalate, List.nil_append]

/-- The command line of a request for a file with a readable name. -/
theorem Request.words?_commandLine {request : Request} {file : String}
    (hfile : request.filePath = .ofText file) :
    words? request.commandLine =
      some (request.compilerCommand :: (request.compilerArgs ++ [file])) := by
  have hdisplay : request.filePath.display = file := by
    rw [hfile, Path.display, Path.ofText, Text.ofBytesLossy_toBytes]
  rw [Request.commandLine, hdisplay, List.cons_append, words?_intercalate]

/-- The command line that is shown for a request whose file has a UTF-8 path is unambiguous. It is
read back into the name of the program, the arguments and the path of the file, and these are, byte
for byte, what the program is started with. So the command lines of two such requests are equal
exactly if the requests have the same program, the same arguments and the same file. -/
theorem commandLine_unambiguous :
    (∀ (request : Request) (file : String), request.filePath = .ofText file →
      words? request.commandLine =
        some (request.compilerCommand :: (request.compilerArgs ++ [file])) ∧
      (words? request.commandLine).map (·.map Text.toBytes) =
        some (request.invocation.program :: request.invocation.arguments)) ∧
    ∀ (first second : Request) (file other : String), first.filePath = .ofText file →
      second.filePath = .ofText other →
      (first.commandLine = second.commandLine ↔
        first.compilerCommand = second.compilerCommand ∧
        first.compilerArgs = second.compilerArgs ∧ first.filePath = second.filePath) := by
  refine ⟨fun request file hfile => ?_, fun first second file other hfile hother => ?_⟩
  · have hwords := Request.words?_commandLine hfile
    refine ⟨hwords, ?_⟩
    rw [hwords, Option.map_some, List.map_cons, List.map_append, Request.invocation,
      Request.arguments, hfile]
    rfl
  · constructor
    · intro hline
      have hwords : first.compilerCommand :: (first.compilerArgs ++ [file]) =
          second.compilerCommand :: (second.compilerArgs ++ [other]) := by
        apply Option.some.inj
        rw [← Request.words?_commandLine hfile, hline, Request.words?_commandLine hother]
      obtain ⟨hcommand, hrest⟩ := List.cons.inj hwords
      obtain ⟨harguments, hlast⟩ := List.append_inj' hrest rfl
      refine ⟨hcommand, harguments, ?_⟩
      rw [hfile, hother, List.cons.inj hlast |>.1]
    · rintro ⟨hcommand, harguments, hpath⟩
      rw [Request.commandLine, Request.commandLine, hcommand, harguments, hpath]

/-- Arguments that are empty, or hold blanks, quotes, a backslash, a line break or an unprintable
character, and the same request with two of its arguments joined by a blank. -/
theorem commandLine_unambiguous_blanks :
    let file := "/a b/main.z"
    let first : Request :=
      ⟨.ofText file, .ofText "/a b", "zc", ["", "it's", "\\\"\n\u200b"]⟩
    let second : Request :=
      ⟨.ofText file, .ofText "/a b", "zc", ["", "it's \\\"\n\u200b"]⟩
    first.filePath = .ofText file ∧ second.filePath = .ofText file ∧
      words? first.commandLine = some ["zc", "", "it's", "\\\"\n\u200b", file] ∧
      first.commandLine ≠ second.commandLine := by
  intro file first second
  refine ⟨rfl, rfl, (commandLine_unambiguous.1 first file rfl).1, fun hline => ?_⟩
  obtain ⟨-, harguments, -⟩ :=
    (commandLine_unambiguous.2 first second file file rfl rfl).mp hline
  exact absurd harguments (by decide)

end EditorBridge.Compile
