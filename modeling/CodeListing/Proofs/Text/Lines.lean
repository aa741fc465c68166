import CodeListing.Editor.Files

/-!
# Lines that a text is written from

A text is written from lines by putting an end after each of them, a line feed with or without a
carriage return before it, and perhaps none after the last one (`Text.Written`). The ends can be
mixed: taking a text into lines is the reverse of writing it, whatever ends were chosen, and each
text is written from exactly one list of lines (`Text.lines_recover_written`). Two choices are left
out, since they read as something else: an empty line without an end is no line, and a carriage
return right before a line feed is part of the end.
-/

namespace CodeListing.Text

/-! ### Writing lines -/

/-- What ends a line. -/
inductive LineEnd where
  | feed
  | returnFeed
  deriving Repr, DecidableEq

def LineEnd.text : LineEnd → String
  | .feed => "\n"
  | .returnFeed => "\r\n"

/-- Lines and the texts that they are written as. -/
inductive Written : List String → String → Prop where
  | nil : Written [] ""
  /-- The last line may go without an end. -/
  | unended {line : String} (nonempty : line ≠ "") (noFeed : '\n' ∉ line.toList) :
      Written [line] line
  | ended {line : String} {rest : List String} {s : String} (ending : LineEnd)
      (noFeed : '\n' ∉ line.toList)
      (noReturn : ending = .feed → line.toList.getLast? ≠ some '\r') (h : Written rest s) :
      Written (line :: rest) (line ++ ending.text ++ s)

/-! ### Characters -/

variable {line cs : List Char}

theorem dropReturn_concat (line : List Char) : dropReturn (line ++ ['\r']) = line := by
  simp [dropReturn]

theorem dropReturn_of_ne (h : line.getLast? ≠ some '\r') : dropReturn line = line := by
  rw [dropReturn, if_neg h]

theorem linesOf_of_not_mem (h : '\n' ∉ cs) (hcs : cs ≠ []) : linesOf cs = [cs] := by
  simp [linesOf, List.splitOn_eq_singleton h, hcs]

/-- What stands before the first line feed is a line, and the others are those of what follows. -/
theorem linesOf_append_feed (h : '\n' ∉ line) (cs : List Char) :
    linesOf (line ++ '\n' :: cs) = dropReturn line :: linesOf cs := by
  have hne := List.splitOn_ne_nil '\n' cs
  rw [linesOf, List.splitOn_append_cons_self, List.splitOn_eq_singleton h, List.singleton_append,
    List.dropLast_cons_of_ne_nil hne, List.getLast?_cons_of_ne_nil hne]
  rfl

/-! ### Texts -/

theorem lines_empty : lines "" = [] := by rfl

theorem lines_unended {line : String} (nonempty : line ≠ "") (noFeed : '\n' ∉ line.toList) :
    lines line = [line] := by
  have hne : line.toList ≠ [] := by simpa using nonempty
  rw [lines, linesOf_of_not_mem noFeed hne]
  simp

/-- A line comes back from the text without its end. -/
theorem lines_ended {line : String} {ending : LineEnd} (noFeed : '\n' ∉ line.toList)
    (noReturn : ending = .feed → line.toList.getLast? ≠ some '\r') (s : String) :
    lines (line ++ ending.text ++ s) = line :: lines s := by
  cases ending with
  | feed =>
    have htext : (line ++ LineEnd.feed.text ++ s).toList = line.toList ++ '\n' :: s.toList := by
      simp [LineEnd.text]
    rw [lines, htext, linesOf_append_feed noFeed, dropReturn_of_ne (noReturn rfl), List.map_cons,
      String.ofList_toList, ← lines]
  | returnFeed =>
    -- the carriage return is read as the last character of the line and dropped
    have htext : (line ++ LineEnd.returnFeed.text ++ s).toList =
        (line.toList ++ ['\r']) ++ '\n' :: s.toList := by
      simp [LineEnd.text]
    have noFeed' : '\n' ∉ line.toList ++ ['\r'] := by simpa using noFeed
    rw [lines, htext, linesOf_append_feed noFeed', dropReturn_concat, List.map_cons,
      String.ofList_toList, ← lines]

theorem Written.lines_eq {ls : List String} {s : String} (h : Written ls s) : lines s = ls := by
  induction h with
  | nil => exact lines_empty
  | unended nonempty noFeed => exact lines_unended nonempty noFeed
  | ended ending noFeed noReturn h ih => rw [lines_ended noFeed noReturn, ih]

/-- A text with a line feed begins with a line that has an end. -/
theorem exists_ended {s : String} (h : '\n' ∈ s.toList) :
    ∃ (line : String) (ending : LineEnd) (rest : String), '\n' ∉ line.toList ∧
      (ending = .feed → line.toList.getLast? ≠ some '\r') ∧ s = line ++ ending.text ++ rest ∧
      rest.toList.length < s.toList.length := by
  obtain ⟨front, back, hs, hfront⟩ := List.eq_append_cons_of_mem h
  by_cases hreturn : front.getLast? = some '\r'
  · obtain ⟨line, rfl⟩ := List.getLast?_eq_some_iff.mp hreturn
    refine ⟨.ofList line, .returnFeed, .ofList back, ?_, nofun, ?_, ?_⟩
    · simpa using hfront
    · rw [← String.toList_inj, hs]
      simp [LineEnd.text]
    · simp [hs]
      omega
  · refine ⟨.ofList front, .feed, .ofList back, ?_, fun _ => ?_, ?_, ?_⟩
    · simpa using hfront
    · simpa using hreturn
    · rw [← String.toList_inj, hs]
      simp [LineEnd.text]
    · simp [hs]
      omega

theorem written_lines (s : String) : Written (lines s) s := by
  by_cases h : '\n' ∈ s.toList
  · -- the end of the first line is the first one in the text, and what follows is shorter
    obtain ⟨line, ending, rest, noFeed, noReturn, rfl, hlength⟩ := exists_ended h
    rw [lines_ended noFeed noReturn]
    exact .ended ending noFeed noReturn (written_lines rest)
  · by_cases hs : s = ""
    · rw [hs, lines_empty]
      exact .nil
    · rw [lines_unended hs h]
      exact .unended hs h
termination_by s.toList.length

/-- Whatever lines a text is written from, and whatever ends they have in it, those lines are read
from the text and no others are, so that each is found at its own index; and a file is read as these
lines exactly if its bytes spell a text that is written from them. -/
theorem lines_recover_written (ls : List String) :
    (∀ s, lines s = ls ↔ Written ls s) ∧
      ∀ bs, (DiskEntry.file bs).lines = .ok ls ↔ ∃ s, ofBytes? bs = some s ∧ Written ls s := by
  have hlines (s : String) : lines s = ls ↔ Written ls s :=
    ⟨fun h => h ▸ written_lines s, Written.lines_eq⟩
  refine ⟨hlines, fun bs => ?_⟩
  rw [DiskEntry.lines]
  cases ofBytes? bs with
  | none => simp
  | some text => simp [hlines]

/-- Mixed ends, with carriage returns inside a line and at the end of the text. -/
example : lines "a\r\r\n\nb\rc\r" = ["a\r", "", "b\rc\r"] := by decide

end CodeListing.Text
