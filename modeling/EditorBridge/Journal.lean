/-!
# Journals

What is reported to the user: an append-only record of log lines and notifications. A reader sees
the two kinds separately, each in the order in which they were recorded.
-/

namespace EditorBridge

/-- How serious a notification is. -/
inductive Level where
  /-- Good news. -/
  | info
  /-- A failure. -/
  | error
deriving DecidableEq, Repr

/-- A short message shown to the user. -/
structure Notification where
  /-- How serious it is. -/
  level : Level
  /-- What it says. -/
  message : String
deriving DecidableEq, Repr

/-- One thing that is reported. -/
inductive Entry where
  /-- A line of the log. -/
  | line (text : String)
  /-- A notification. -/
  | notification (shown : Notification)
deriving DecidableEq, Repr

namespace Entry

/-- A notification of good news. -/
def info (message : String) : Entry := .notification ⟨.info, message⟩

/-- A notification of a failure. -/
def error (message : String) : Entry := .notification ⟨.error, message⟩

/-- The text of a log line. -/
def line? : Entry → Option String
  | .line text => some text
  | .notification _ => none

/-- The notification of an entry that is one. -/
def notification? : Entry → Option Notification
  | .line _ => none
  | .notification shown => some shown

end Entry

/-- Everything reported so far, in order. -/
abbrev Journal := List Entry

namespace Journal

/-- The log lines. -/
def lines (journal : Journal) : List String :=
  journal.filterMap Entry.line?

/-- The notifications. -/
def notifications (journal : Journal) : List Notification :=
  journal.filterMap Entry.notification?

/-- Whether a run of characters occurs in another. -/
def occursIn (needle : List Char) : List Char → Bool
  | [] => needle.isEmpty
  | c :: rest => needle.isPrefixOf (c :: rest) || occursIn needle rest

/-- Whether a log line contains a text. -/
def logContains (journal : Journal) (needle : String) : Bool :=
  journal.lines.any fun line => occursIn needle.toList line.toList

end Journal

end EditorBridge
