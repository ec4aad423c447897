import EditorBridge.Text.Utf8

/-!
# Shell commands

The commands of the shell language as data. A word is a list of pieces, each of which is known to
stand inside or outside of quotes; what a piece stands for is found out when the command runs.
-/

namespace EditorBridge.Shell

open Text (Bytes)

/-- What is done with the value of a parameter. -/
inductive ParameterUse where
  /-- The value. -/
  | value
  /-- The number of its characters. -/
  | length
  /-- Another value where it is unset, or also where it is empty. -/
  | fallback (whenEmpty : Bool)
  /-- Another value, which is assigned too. -/
  | assign (whenEmpty : Bool)
  /-- A complaint where it is unset, or also where it is empty. -/
  | demand (whenEmpty : Bool)
  /-- Another value where it is set, or also not empty. -/
  | alternative (whenEmpty : Bool)
  /-- The value without a match of a pattern at one end, the shortest or the longest. -/
  | strip (atEnd : Bool) (longest : Bool)
  /-- No known use: the substitution is bad. -/
  | unknown
deriving DecidableEq, Repr

/-- How a file is opened or a descriptor copied. -/
inductive Direction where
  /-- Open for reading. -/
  | read
  /-- Open for writing from the start. -/
  | write
  /-- Open for writing at the end. -/
  | append
  /-- Open for both. -/
  | readWrite
  /-- Copy another descriptor, or close this one. -/
  | copy
deriving DecidableEq, Repr

mutual

/-- A part of a word. -/
inductive Piece where
  /-- Bytes that stand for themselves. -/
  | bytes (quoted : Bool) (bytes : Bytes)
  /-- Quotes were here; the word is there even if nothing is in them. -/
  | quotes
  /-- The value of a parameter. -/
  | parameter (quoted : Bool) (name : Bytes) (use : ParameterUse) (argument : List Piece)
  /-- The output of commands. -/
  | output (quoted : Bool) (body : Command)
  /-- The value of an arithmetic expression. -/
  | arithmetic (quoted : Bool) (expression : List Piece)

/-- A change of one descriptor. -/
inductive Redirection where
  /-- Descriptor, kind and the word for the file or descriptor. -/
  | to (descriptor : Nat) (direction : Direction) (target : List Piece)

/-- A command. -/
inductive Command where
  /-- Nothing at all. -/
  | nothing
  /-- Assignments, words and redirections, with the line they stand on. -/
  | simple (line : Nat) (assignments : List (Bytes × List Piece)) (words : List (List Piece))
    (redirections : List Redirection)
  /-- A command under redirections. -/
  | redirected (line : Nat) (body : Command) (redirections : List Redirection)
  /-- Commands of which each reads what the one before it writes. -/
  | pipeline (commands : List Command)
  /-- A command whose success is turned around. -/
  | negation (body : Command)
  /-- The second command if the first one succeeds. -/
  | both (first second : Command)
  /-- The second command if the first one fails. -/
  | either (first second : Command)
  /-- One command after another. -/
  | sequence (first second : Command)
  /-- A command that is not waited for. -/
  | background (body : Command)
  /-- A command whose changes of the shell's state are forgotten. -/
  | subshell (body : Command)
  /-- A choice by the success of a command. -/
  | choice (condition yes no : Command)
  /-- A loop while a command succeeds, or until it does. -/
  | loop (untilSuccess : Bool) (condition body : Command)
  /-- A loop over words, or over the positional parameters. -/
  | each (line : Nat) (name : Bytes) (words : Option (List (List Piece))) (body : Command)
  /-- A choice by patterns. -/
  | select (line : Nat) (word : List Piece) (clauses : List (List (List Piece) × Command))
  /-- The definition of a function. -/
  | define (name : Bytes) (body : Command)

end

instance : Inhabited Command := ⟨.nothing⟩

/-- A word of a command. -/
abbrev Word := List Piece

end EditorBridge.Shell
