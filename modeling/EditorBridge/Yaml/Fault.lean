import EditorBridge.Yaml.Mark

/-!
# Faults in a YAML text

What is wrong with a text that is no YAML, where, and what was being read at that place.
-/

namespace EditorBridge.Yaml

/-- What is wrong. -/
inductive Problem where
  /-- A character outside those a text may hold. -/
  | controlCharacter
  /-- A line starts a key that no colon follows. -/
  | missingColon
  /-- No token begins with the character. -/
  | strayCharacter
  /-- A list entry where none may stand. -/
  | misplacedEntry
  /-- A key where none may stand. -/
  | misplacedKey
  /-- A value where none may stand. -/
  | misplacedValue
  /-- A directive without a name. -/
  | missingDirectiveName
  /-- A directive's name goes on with something else than letters. -/
  | badDirectiveName
  /-- A directive that does not exist. -/
  | unknownDirective
  /-- Something stands where only a comment may follow. -/
  | trailingText
  /-- A version number of more than nine digits. -/
  | longVersion
  /-- No version number. -/
  | missingVersion
  /-- No point between the numbers of a version. -/
  | missingPoint
  /-- No blank where one has to stand. -/
  | missingBlank
  /-- No blank or line break where one has to stand. -/
  | missingBlankOrBreak
  /-- No name after `&` or `*`. -/
  | missingName
  /-- No exclamation mark. -/
  | missingBang
  /-- A verbatim tag that is not closed. -/
  | unclosedTag
  /-- No address in a tag. -/
  | missingAddress
  /-- A percent sign that two hexadecimal digits do not follow. -/
  | badEscapedByte
  /-- An escaped byte that begins no character. -/
  | badLeadingByte
  /-- An escaped byte that does not continue a character. -/
  | badTrailingByte
  /-- An indentation of no columns is asked for. -/
  | zeroIndentation
  /-- A tab in the indentation of a block scalar. -/
  | tabInBlock
  /-- A document ends within quotes. -/
  | fenceInQuotes
  /-- The text ends within quotes. -/
  | endInQuotes
  /-- A backslash before a character that has no meaning there. -/
  | unknownEscape
  /-- A character code with something else than hexadecimal digits. -/
  | badHexadecimal
  /-- A character code that no character has. -/
  | badCharacterCode
  /-- A colon that a bracket or comma follows. -/
  | strayColon
  /-- A tab in the indentation of a plain scalar. -/
  | tabInPlain
  /-- No start of a document. -/
  | missingDocumentStart
  /-- A second version. -/
  | duplicateVersion
  /-- A version that is not supported. -/
  | foreignVersion
  /-- A tag handle that is declared twice. -/
  | duplicateTagHandle
  /-- A tag handle that is not declared. -/
  | undefinedTagHandle
  /-- Nothing that could be a value. -/
  | missingContent
  /-- No dash before a list entry. -/
  | missingDash
  /-- No key. -/
  | missingKey
  /-- A list in brackets that neither goes on nor ends. -/
  | brokenFlowSequence
  /-- A table in braces that neither goes on nor ends. -/
  | brokenFlowMapping
deriving DecidableEq, Repr

/-- The words for a problem. -/
def Problem.message : Problem → String
  | .controlCharacter => "control characters are not allowed"
  | .missingColon => "could not find expected ':'"
  | .strayCharacter => "found character that cannot start any token"
  | .misplacedEntry => "block sequence entries are not allowed in this context"
  | .misplacedKey => "mapping keys are not allowed in this context"
  | .misplacedValue => "mapping values are not allowed in this context"
  | .missingDirectiveName => "could not find expected directive name"
  | .badDirectiveName => "found unexpected non-alphabetical character"
  | .unknownDirective => "found unknown directive name"
  | .trailingText => "did not find expected comment or line break"
  | .longVersion => "found extremely long version number"
  | .missingVersion => "did not find expected version number"
  | .missingPoint => "did not find expected digit or '.' character"
  | .missingBlank => "did not find expected whitespace"
  | .missingBlankOrBreak => "did not find expected whitespace or line break"
  | .missingName => "did not find expected alphabetic or numeric character"
  | .missingBang => "did not find expected '!'"
  | .unclosedTag => "did not find the expected '>'"
  | .missingAddress => "did not find expected tag URI"
  | .badEscapedByte => "did not find URI escaped octet"
  | .badLeadingByte => "found an incorrect leading UTF-8 octet"
  | .badTrailingByte => "found an incorrect trailing UTF-8 octet"
  | .zeroIndentation => "found an indentation indicator equal to 0"
  | .tabInBlock => "found a tab character where an indentation space is expected"
  | .fenceInQuotes => "found unexpected document indicator"
  | .endInQuotes => "found unexpected end of stream"
  | .unknownEscape => "found unknown escape character"
  | .badHexadecimal => "did not find expected hexdecimal number"
  | .badCharacterCode => "found invalid Unicode character escape code"
  | .strayColon => "found unexpected ':'"
  | .tabInPlain => "found a tab character that violates indentation"
  | .missingDocumentStart => "did not find expected <document start>"
  | .duplicateVersion => "found duplicate %YAML directive"
  | .foreignVersion => "found incompatible YAML document"
  | .duplicateTagHandle => "found duplicate %TAG directive"
  | .undefinedTagHandle => "found undefined tag handle"
  | .missingContent => "did not find expected node content"
  | .missingDash => "did not find expected '-' indicator"
  | .missingKey => "did not find expected key"
  | .brokenFlowSequence => "did not find expected ',' or ']'"
  | .brokenFlowMapping => "did not find expected ',' or '\x7d'"

/-- What was being read when a problem was met. -/
inductive Activity where
  /-- The next token. -/
  | nextToken
  /-- A key on one line. -/
  | simpleKey
  /-- A directive. -/
  | directive
  /-- The directive for the version. -/
  | versionDirective
  /-- The directive for a tag handle. -/
  | tagDirective
  /-- The handle in a directive. -/
  | directiveHandle
  /-- The end of a handle in a directive. -/
  | directiveHandleEnd
  /-- The address in a directive. -/
  | directiveAddress
  /-- The name of a node. -/
  | anchor
  /-- The name of another node. -/
  | alias
  /-- A tag. -/
  | tag
  /-- The address in a tag. -/
  | tagAddress
  /-- A block scalar. -/
  | blockScalar
  /-- The layout of a scalar in quotes. -/
  | quotedScalar
  /-- An escape in a scalar in quotes. -/
  | quotedEscape
  /-- A plain scalar. -/
  | plainScalar
  /-- A node. -/
  | node
  /-- A node laid out by indentation. -/
  | blockNode
  /-- A node within brackets or braces. -/
  | flowNode
  /-- A list laid out by indentation. -/
  | blockSequence
  /-- A table laid out by indentation. -/
  | blockMapping
  /-- A list in brackets. -/
  | flowSequence
  /-- A table in braces. -/
  | flowMapping
deriving DecidableEq, Repr

/-- The words for an activity. -/
def Activity.message : Activity → String
  | .nextToken => "while scanning for the next token"
  | .simpleKey => "while scanning a simple key"
  | .directive => "while scanning a directive"
  | .versionDirective => "while scanning a %YAML directive"
  | .tagDirective => "while scanning a %TAG directive"
  | .directiveHandle => "while scanning a tag directive"
  | .directiveHandleEnd => "while parsing a tag directive"
  | .directiveAddress => "while parsing a %TAG directive"
  | .anchor => "while scanning an anchor"
  | .alias => "while scanning an alias"
  | .tag => "while scanning a tag"
  | .tagAddress => "while parsing a tag"
  | .blockScalar => "while scanning a block scalar"
  | .quotedScalar => "while scanning a quoted scalar"
  | .quotedEscape => "while parsing a quoted scalar"
  | .plainScalar => "while scanning a plain scalar"
  | .node => "while parsing a node"
  | .blockNode => "while parsing a block node"
  | .flowNode => "while parsing a flow node"
  | .blockSequence => "while parsing a block collection"
  | .blockMapping => "while parsing a block mapping"
  | .flowSequence => "while parsing a flow sequence"
  | .flowMapping => "while parsing a flow mapping"

/-- A place where a text stops being YAML. -/
structure Fault where
  /-- What is wrong. -/
  problem : Problem
  /-- Where; the first place of the text is not mentioned. -/
  mark : Mark
  /-- Where, in bytes from the beginning, if the text could not be read up to that place. -/
  offset : Nat := 0
  /-- What was being read, and where that began. -/
  context : Option (Activity × Mark) := none
deriving DecidableEq, Repr

namespace Fault

/-- A fault while something was being read. -/
def during (activity : Activity) (began : Mark) (problem : Problem) (mark : Mark) : Fault :=
  { problem, mark, context := some (activity, began) }

/-- The words for the place of a fault. -/
def place (fault : Fault) : String :=
  if !fault.mark.isFirst then " at " ++ fault.mark.display
  else if fault.offset ≠ 0 then " at position " ++ toString fault.offset
  else ""

/-- The words for what was being read. Its beginning is mentioned if it is not the place of the
fault itself. -/
def contextText (fault : Fault) : String :=
  match fault.context with
  | none => ""
  | some (activity, began) =>
    ", " ++ activity.message ++
      if began.isFirst || began.isAt fault.mark then "" else " at " ++ began.display

/-- The words for a fault. -/
def message (fault : Fault) : String :=
  fault.problem.message ++ fault.place ++ fault.contextText

end Fault

/-- Whether a text may hold the character. -/
def isPrintable (c : Char) : Bool :=
  c == '\t' || c == '\n' || c == '\r' || (' ' ≤ c && c ≤ '~') || c == '\u0085'
    || ('\u00a0' ≤ c && c ≤ '\ud7ff') || ('\ue000' ≤ c && c ≤ '\ufffd') || 0x10000 ≤ c.toNat

/-- The fault of the first character that a text may not hold, after some bytes. -/
def controlFault? (offset : Nat) : List Char → Option Fault
  | [] => none
  | c :: rest =>
    if isPrintable c then controlFault? (offset + c.utf8Size) rest
    else some { problem := .controlCharacter, mark := .origin, offset }

end EditorBridge.Yaml
