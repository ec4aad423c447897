import EditorBridge.Journal

/-!
# Reading a journal

The log lines and the notifications of a journal that is put together from parts.
-/

namespace EditorBridge.Journal

variable (journal later : Journal)

@[simp]
theorem lines_nil : lines [] = [] := rfl

@[simp]
theorem notifications_nil : notifications [] = [] := rfl

@[simp]
theorem lines_append : lines (journal ++ later) = lines journal ++ lines later :=
  List.filterMap_append

@[simp]
theorem notifications_append :
    notifications (journal ++ later) = notifications journal ++ notifications later :=
  List.filterMap_append

@[simp]
theorem lines_line (text : String) : lines (.line text :: journal) = text :: lines journal := rfl

@[simp]
theorem notifications_line (text : String) :
    notifications (.line text :: journal) = notifications journal := rfl

@[simp]
theorem lines_notification (shown : Notification) :
    lines (.notification shown :: journal) = lines journal := rfl

@[simp]
theorem notifications_notification (shown : Notification) :
    notifications (.notification shown :: journal) = shown :: notifications journal := rfl

@[simp]
theorem lines_map_line (texts : List String) : lines (texts.map .line) = texts := by
  induction texts with
  | nil => rfl
  | cons text texts ih => exact congrArg (text :: ·) ih

@[simp]
theorem notifications_map_line (texts : List String) : notifications (texts.map .line) = [] := by
  induction texts with
  | nil => rfl
  | cons text texts ih => exact ih

@[simp]
theorem lines_error (message : String) : lines (.error message :: journal) = lines journal := rfl

@[simp]
theorem notifications_error (message : String) :
    notifications (.error message :: journal) = ⟨.error, message⟩ :: notifications journal := rfl

@[simp]
theorem lines_info (message : String) : lines (.info message :: journal) = lines journal := rfl

@[simp]
theorem notifications_info (message : String) :
    notifications (.info message :: journal) = ⟨.info, message⟩ :: notifications journal := rfl

end EditorBridge.Journal
