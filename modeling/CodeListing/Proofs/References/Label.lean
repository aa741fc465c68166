import CodeListing.Proofs.Path.Relative
import CodeListing.Proofs.References.Records

/-!
# Labels lead back to their places

The last two colons of a bare label stand before its numbers, whatever the path has in it, so that a
label can be cut into the path that it shows and the numbers (`ShownPlace.ofLabel?_label`). Seen
from the directory of the label, the path that it shows is the path of the place, and the numbers
are those of the place (`Path.label_leadsBack`).
-/

namespace CodeListing

/-! ## Cutting at the end -/

namespace Text

/-- What stands before the last `sep`, and what stands after it. -/
def cutLast? (sep : Char) (cs : List Char) : Option (List Char × List Char) :=
  match cut sep cs.reverse with
  | (after, some before) => some (before.reverse, after.reverse)
  | (_, none) => none

theorem cutLast?_append {sep : Char} {before after : List Char} (h : sep ∉ after) :
    cutLast? sep (before ++ sep :: after) = some (before, after) := by
  have hcut : cut sep (after.reverse ++ sep :: before.reverse) =
      (after.reverse, some before.reverse) :=
    cut_append_elim (fun hsep => h (List.mem_reverse.mp hsep)) (some before.reverse)
  have hreverse : (before ++ sep :: after).reverse = after.reverse ++ sep :: before.reverse := by
    simp
  rw [cutLast?, hreverse, hcut]
  simp

/-- The number that decimal digits spell. -/
def decimal? (cs : List Char) : Option Nat :=
  if cs ≠ [] ∧ cs.all Char.isDigit then some (Nat.ofDigitChars 10 cs 0) else none

theorem isDigit_of_mem_toDigits {n : Nat} {c : Char} (h : c ∈ Nat.toDigits 10 n) :
    c.isDigit = true :=
  Nat.isDigit_of_mem_toDigits (by decide) (by decide) h

theorem decimal?_toDigits (n : Nat) : decimal? (Nat.toDigits 10 n) = some n := by
  have hdigits : (Nat.toDigits 10 n).all Char.isDigit = true :=
    List.all_eq_true.mpr fun _ => isDigit_of_mem_toDigits
  rw [decimal?, if_pos ⟨Nat.toDigits_ne_nil, hdigits⟩, Nat.ofDigitChars_ten_toDigits]

theorem colon_not_mem_toDigits (n : Nat) : ':' ∉ Nat.toDigits 10 n :=
  fun h => absurd (isDigit_of_mem_toDigits h) (by decide)

end Text

/-! ## Reading a label -/

/-- What a label shows: a path and two numbers. -/
structure ShownPlace where
  path : String
  line : Nat
  character : Nat
  deriving Repr, DecidableEq

namespace ShownPlace

/-- Reads a label by cutting it at its last two colons. -/
def ofLabel? (label : String) : Option ShownPlace := do
  let (before, character) ← Text.cutLast? ':' label.toList
  let (path, line) ← Text.cutLast? ':' before
  return {
    path := String.ofList path
    line := ← Text.decimal? line
    character := ← Text.decimal? character }

/-- The label that shows a place. -/
def label (p : ShownPlace) : String := s!"{p.path}:{p.line}:{p.character}"

theorem toList_label (p : ShownPlace) :
    p.label.toList = (p.path.toList ++ ':' :: Nat.toDigits 10 p.line) ++
      ':' :: Nat.toDigits 10 p.character := by
  have hcolon : ":".toList = [':'] := rfl
  have hnumber : ∀ n : Nat, (toString n).toList = Nat.toDigits 10 n := fun n =>
    String.toList_ofList
  show (p.path ++ ":" ++ toString p.line ++ ":" ++ toString p.character).toList = _
  simp only [String.toList_append, hcolon, hnumber, List.append_assoc, List.singleton_append]

/-- A label is read as what it shows, whatever colons and digits the path has in it. -/
theorem ofLabel?_label (p : ShownPlace) : ofLabel? p.label = some p := by
  rw [ofLabel?, toList_label, Text.cutLast?_append (Text.colon_not_mem_toDigits _)]
  show (Text.cutLast? ':' (p.path.toList ++ ':' :: Nat.toDigits 10 p.line) >>= _) = _
  rw [Text.cutLast?_append (Text.colon_not_mem_toDigits _)]
  show (Text.decimal? (Nat.toDigits 10 p.line) >>= _) = _
  rw [Text.decimal?_toDigits]
  show (Text.decimal? (Nat.toDigits 10 p.character) >>= _) = _
  rw [Text.decimal?_toDigits, String.ofList_toList]
  rfl

/-- A place that is shown to someone who works in `directory` leads to a position in the file that
`text` spells. -/
structure LeadsTo (shown : ShownPlace) (directory : Path) (text : String) (start : Position) :
    Prop where
  line : shown.line = start.line.toNat + 1
  character : shown.character = start.character.toNat + 1
  components : (Path.ofText shown.path).componentsIn directory = (Path.ofText text).components
  /-- A path is shown in part only below the directory, of which no component is cut. -/
  whole : shown.path ≠ text → directory.components <+: (Path.ofText text).components

/-- From one directory a place leads to one position in one file. -/
theorem LeadsTo.eq {shown : ShownPlace} {directory : Path} {text text' : String}
    {start start' : Position} (h : shown.LeadsTo directory text start)
    (h' : shown.LeadsTo directory text' start') :
    (Path.ofText text').same (Path.ofText text) = true ∧ start' = start := by
  refine ⟨Path.same_iff.mpr (h'.components.symm.trans h.components), ?_⟩
  have hline : start'.line.toNat = start.line.toNat :=
    Nat.succ.inj (h'.line.symm.trans h.line)
  have hcharacter : start'.character.toNat = start.character.toNat :=
    Nat.succ.inj (h'.character.symm.trans h.character)
  obtain ⟨line, character⟩ := start
  obtain ⟨line', character'⟩ := start'
  obtain rfl : line' = line := UInt32.toNat_inj.mp hline
  obtain rfl : character' = character := UInt32.toNat_inj.mp hcharacter
  rfl

end ShownPlace

/-! ## Leading back -/

namespace Path

variable {text : String} {directory : Path} {range : Range}

/-- The place that a label shows. -/
def shownPlace (path directory : Path) (start : Position) : ShownPlace where
  path := displayFrom directory path
  line := start.line.toNat + 1
  character := start.character.toNat + 1

theorem label_eq_ok_iff {path : Path} {placeWidth : Nat} {label : String} :
    path.label directory range none placeWidth = .ok label ↔
      range.start.IsCountable ∧ (path.shownPlace directory range.start).label = label := by
  by_cases hstart : range.start.IsCountable
  · rw [Path.label, oneBased_of_lt hstart.1, oneBased_of_lt hstart.2]
    exact ⟨fun h => ⟨hstart, Except.ok.inj h⟩, fun h => congrArg Except.ok h.2⟩
  · rw [label_of_not_isCountable hstart]
    constructor
    · intro h
      cases h
    · exact fun h => absurd h.1 hstart

theorem leadsTo_shownPlace (habsolute : (ofText text).isAbsolute = true) (directory : Path)
    (start : Position) :
    ((ofText text).shownPlace directory start).LeadsTo directory text start where
  line := rfl
  character := rfl
  components := componentsIn_displayFrom habsolute
  whole := isPrefix_of_displayFrom_ne

/-- The bare label of a file under an absolute path leads back to the place that it is made for, and
there is no other place with this label. -/
theorem label_leadsBack (habsolute : (ofText text).isAbsolute = true)
    (hstart : range.start.IsCountable) (directory : Path) (placeWidth : Nat) :
    ∃ label shown, (ofText text).label directory range none placeWidth = .ok label ∧
      ShownPlace.ofLabel? label = some shown ∧ shown.LeadsTo directory text range.start ∧
      ∀ text' range' placeWidth', (ofText text').isAbsolute = true →
        (ofText text').label directory range' none placeWidth' = .ok label →
        (ofText text').same (ofText text) = true ∧ range'.start = range.start := by
  refine ⟨_, _, label_eq_ok_iff.mpr ⟨hstart, rfl⟩, ShownPlace.ofLabel?_label _,
    leadsTo_shownPlace habsolute directory range.start, ?_⟩
  intro text' range' placeWidth' habsolute' hlabel
  have hshown : (ofText text').shownPlace directory range'.start =
      (ofText text).shownPlace directory range.start := by
    have hread := congrArg ShownPlace.ofLabel? (label_eq_ok_iff.mp hlabel).2
    rw [ShownPlace.ofLabel?_label, ShownPlace.ofLabel?_label] at hread
    exact Option.some.inj hread
  exact (leadsTo_shownPlace habsolute directory range.start).eq
    (hshown ▸ leadsTo_shownPlace habsolute' directory range'.start)

theorem label_leadsBack_colons :
    (ofText "/work:1/a:2//b/./c:3:4").label (ofText "/work:1/.") ⟨⟨4, 7⟩, ⟨5, 0⟩⟩ none 10 =
        .ok "a:2//b/./c:3:4:5:8" ∧
      ∃ shown, ShownPlace.ofLabel? "a:2//b/./c:3:4:5:8" = some shown ∧
        shown.LeadsTo (ofText "/work:1/.") "/work:1/a:2//b/./c:3:4" ⟨4, 7⟩ := by
  obtain ⟨label, shown, hlabel, hread, hleads, -⟩ :=
    @label_leadsBack "/work:1/a:2//b/./c:3:4" ⟨⟨4, 7⟩, ⟨5, 0⟩⟩ (by decide)
      ⟨by decide, by decide⟩ (ofText "/work:1/.") 10
  have hword : (ofText "/work:1/a:2//b/./c:3:4").label (ofText "/work:1/.") ⟨⟨4, 7⟩, ⟨5, 0⟩⟩ none
      10 = .ok "a:2//b/./c:3:4:5:8" := by decide +kernel
  obtain rfl : label = "a:2//b/./c:3:4:5:8" := Except.ok.inj (hlabel.symm.trans hword)
  exact ⟨hword, shown, hread, hleads⟩

end Path

end CodeListing
