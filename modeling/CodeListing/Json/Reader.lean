import CodeListing.Decimal.Scaled
import CodeListing.Json.Basic
import CodeListing.Text.Hex

/-!
# Reading JSON text

`Json.ofText?` reads one value. Two things about it matter to the rest of the library:

* a literal with a point or an exponent is a `Number.float`, and so is an integer literal beyond 64
  bits and the literal `-0`; every other number is a `Number.int`;
* the entries of an object have distinct keys in ascending order, and of several entries with one
  key the last one counts.

Every reader takes the characters that are left and hands on what it leaves of them, with the proof
that this is less; recursion ends by the number of characters left.
-/

namespace CodeListing.Json

open CodeListing.Decimal
open CodeListing.Text (hexNumber isHexDigit)

/-- What is left of `cs` after reading something. -/
abbrev Rest (cs : List Char) := { rest : List Char // rest.length < cs.length }

/-- A rest of something shorter is a rest. -/
def Rest.weaken {cs ds : List Char} (h : ds.length ≤ cs.length) (r : Rest ds) : Rest cs :=
  ⟨r.1, Nat.lt_of_lt_of_le r.2 h⟩

/-! ### Blanks and literals -/

/-- The characters that may stand between tokens. -/
def isSpace (c : Char) : Bool := c == ' ' || c == '\n' || c == '\r' || c == '\t'

/-- Drops the space before a token. -/
def skipSpace (cs : List Char) : List Char := cs.dropWhile isSpace

theorem length_skipSpace_le (cs : List Char) : (skipSpace cs).length ≤ cs.length :=
  (List.dropWhile_sublist isSpace).length_le

/-- What follows the literal `word`. -/
def afterWord? : List Char → List Char → Option (List Char)
  | [], cs => some cs
  | w :: ws, c :: cs => if w == c then afterWord? ws cs else none
  | _ :: _, [] => none

theorem length_of_afterWord? : ∀ {word cs rest : List Char},
    afterWord? word cs = some rest → rest.length + word.length = cs.length
  | [], _, _, h => by cases h; rfl
  | w :: ws, c :: cs, rest, h => by
    unfold afterWord? at h
    split at h
    · have := length_of_afterWord? h
      simp only [List.length_cons]
      omega
    · cases h
  | _ :: _, [], _, h => by cases h

theorem length_lt_of_afterWord? {word cs rest : List Char} (h : afterWord? word cs = some rest)
    (hword : word ≠ []) : rest.length < cs.length := by
  have := length_of_afterWord? h
  have := List.length_pos_iff.mpr hword
  omega

/-! ### Numbers -/

/-- The value of a run of decimal digits. -/
def digitsValue (ds : List Char) : Nat := ds.foldl (fun n d => n * 10 + digitValue d) 0

/-- The characters of number literals. -/
def isNumberChar (c : Char) : Bool :=
  c.isDigit || c == '-' || c == '+' || c == '.' || c == 'e' || c == 'E'

/-- The digits before a point. A zero in front of others is not allowed. -/
def whole? (cs : List Char) : Option (List Char × List Char) :=
  let ds := cs.takeWhile Char.isDigit
  if ds.isEmpty || (ds.head? == some '0' && 1 < ds.length) then none
  else some (ds, cs.dropWhile Char.isDigit)

/-- The digits after a point, if there is a point. -/
def places? : List Char → Option (List Char × List Char)
  | '.' :: cs =>
    let ds := cs.takeWhile Char.isDigit
    if ds.isEmpty then none else some (ds, cs.dropWhile Char.isDigit)
  | cs => some ([], cs)

/-- The exponent of a literal, `e` or `E` with an optional sign and digits; nothing is zero. -/
def exponent? : List Char → Option Int
  | [] => some 0
  | e :: cs =>
    if e != 'e' && e != 'E' then none
    else
      let (negative, ds) := match cs with
        | '-' :: ds => (true, ds)
        | '+' :: ds => (false, ds)
        | ds => (false, ds)
      if ds.isEmpty || ds.any (!·.isDigit) then none
      else some (if negative then -(digitsValue ds : Int) else digitsValue ds)

/-- The float of a decimal literal. -/
def float? (negative : Bool) (whole places : List Char) (exponent : Int) : Option Number :=
  (Scaled.ofDigits whole places exponent).toFloat?.map fun x => .float (if negative then -x else x)

/-- The number of an integer literal: an integer if it fits 64 bits, else a float. -/
def integer? (negative : Bool) (whole : List Char) : Option Number :=
  let n := digitsValue whole
  if !negative && n < UInt64.size then some (.int n)
  else if negative && 0 < n && n ≤ Int64.minValue.toInt.natAbs then some (.int (-n))
  else float? negative whole [] 0

/-- The number that a literal without sign spells. -/
def unsigned? (negative : Bool) (cs : List Char) : Option Number := do
  let (whole, rest) ← whole? cs
  if rest.isEmpty then integer? negative whole
  else
    let (places, rest) ← places? rest
    float? negative whole places (← exponent? rest)

/-- The number that a literal spells. -/
def number? : List Char → Option Number
  | '-' :: cs => unsigned? true cs
  | cs => unsigned? false cs

/-! ### Strings -/

/-- The value of four hexadecimal digits. -/
def hex4? (a b c d : Char) : Option Nat :=
  if [a, b, c, d].all isHexDigit then some (hexNumber [a, b, c, d]) else none

/-- The character that a letter after a backslash stands for. -/
def escape? : Char → Option Char
  | 'n' => some '\n'
  | 't' => some '\t'
  | 'r' => some '\r'
  | 'b' => some '\x08'
  | 'f' => some '\x0c'
  | '/' => some '/'
  | '\\' => some '\\'
  | '\x22' => some '\x22'
  | _ => none

/-- The character of a UTF-16 unit or of a pair of them. -/
def ofUnits? (high : Nat) (low : Option Nat) : Option Char :=
  match low with
  | none => if 0xD800 ≤ high ∧ high < 0xE000 then none else some (Char.ofNat high)
  | some low =>
    if 0xD800 ≤ high ∧ high < 0xDC00 ∧ 0xDC00 ≤ low ∧ low < 0xE000 then
      some (Char.ofNat ((high - 0xD800) * 0x400 + (low - 0xDC00) + 0x10000))
    else none

/-- The characters of a string up to its closing quote, and what follows the quote. -/
def stringBody? : (cs : List Char) → Option (List Char × Rest cs)
  | [] => none
  | c :: cs =>
    if c == '\x22' then some ([], ⟨cs, by simp⟩)
    else if c == '\\' then
      match cs with
      | 'u' :: a :: b :: c :: d :: cs =>
        match hex4? a b c d with
        | none => none
        | some unit =>
          match ofUnits? unit none with
          | some x =>
            (stringBody? cs).map fun (xs, r) => (x :: xs, r.weaken (by simp; omega))
          | none =>
            match cs with
            | '\\' :: 'u' :: a :: b :: c :: d :: cs =>
              match (hex4? a b c d).bind fun low => ofUnits? unit (some low) with
              | some x =>
                (stringBody? cs).map fun (xs, r) => (x :: xs, r.weaken (by simp; omega))
              | none => none
            | _ => none
      | e :: cs =>
        match escape? e with
        | some x => (stringBody? cs).map fun (xs, r) => (x :: xs, r.weaken (by simp; omega))
        | none => none
      | [] => none
    else (stringBody? cs).map fun (xs, r) => (c :: xs, r.weaken (by simp))
termination_by cs => cs.length

/-! ### Values -/

/-- Puts an entry among entries in ascending order of their keys, in place of one with its key. -/
def insertEntry (key : String) (v : Json) : Entries → Entries
  | [] => [(key, v)]
  | (k, w) :: entries =>
    if key == k then (key, v) :: entries
    else if key < k then (key, v) :: (k, w) :: entries
    else (k, w) :: insertEntry key v entries

/-- The object of entries in the order they were written in. -/
def ofEntries (entries : Entries) : Json :=
  .obj (entries.foldl (fun done (k, v) => insertEntry k v done) [])

/-- Steps over one expected character. -/
def expect (c : Char) : (cs : List Char) → Option (Rest cs)
  | [] => none
  | x :: cs => if x == c then some ⟨cs, by simp⟩ else none

mutual

/-- Reads one value that starts at the first character. -/
def value? (cs : List Char) : Option (Json × Rest cs) :=
  match cs with
  | [] => none
  | c :: cs =>
    if c == '\x22' then
      (stringBody? cs).map fun (xs, r) => (.str (String.ofList xs), r.weaken (Nat.le_succ _))
    else if c == '[' then
      match h : skipSpace cs with
      | [] => none
      | d :: ds =>
        have hle : ds.length + 1 ≤ cs.length := by
          have := length_skipSpace_le cs
          rw [h] at this
          exact this
        have hds : (d :: ds).length ≤ (c :: cs).length := Nat.le_succ_of_le hle
        if d == ']' then some (.arr [], ⟨ds, Nat.lt_succ_of_lt hle⟩)
        else (items? (d :: ds)).map fun (vs, r) => (.arr vs, r.weaken hds)
    else if c == '{' then
      match h : skipSpace cs with
      | [] => none
      | d :: ds =>
        have hle : ds.length + 1 ≤ cs.length := by
          have := length_skipSpace_le cs
          rw [h] at this
          exact this
        have hds : (d :: ds).length ≤ (c :: cs).length := Nat.le_succ_of_le hle
        if d == '}' then some (.obj [], ⟨ds, Nat.lt_succ_of_lt hle⟩)
        else (entries? (d :: ds)).map fun (es, r) => (ofEntries es, r.weaken hds)
    else
      match h : afterWord? ['n', 'u', 'l', 'l'] (c :: cs),
          ht : afterWord? ['t', 'r', 'u', 'e'] (c :: cs),
          hf : afterWord? ['f', 'a', 'l', 's', 'e'] (c :: cs) with
      | some r, _, _ => some (.null, ⟨r, length_lt_of_afterWord? h (List.cons_ne_nil _ _)⟩)
      | none, some r, _ =>
        some (.bool true, ⟨r, length_lt_of_afterWord? ht (List.cons_ne_nil _ _)⟩)
      | none, none, some r =>
        some (.bool false, ⟨r, length_lt_of_afterWord? hf (List.cons_ne_nil _ _)⟩)
      | none, none, none =>
        if isNumberChar c then
          (number? ((c :: cs).takeWhile isNumberChar)).map fun n =>
            (.num n, ⟨cs.dropWhile isNumberChar,
              Nat.lt_succ_of_le (List.dropWhile_sublist isNumberChar).length_le⟩)
        else none
termination_by (cs.length, 0)

/-- Reads the items of an array up to its closing bracket. -/
def items? (cs : List Char) : Option (List Json × Rest cs) :=
  match value? cs with
  | none => none
  | some (v, r) =>
    match h : skipSpace r.1 with
    | [] => none
    | d :: ds =>
      have hle : ds.length + 1 < cs.length := by
        have := length_skipSpace_le r.1
        have := r.2
        rw [h] at *
        simp at *
        omega
      if d == ']' then some ([v], ⟨ds, by omega⟩)
      else if d == ',' then
        have hskip := length_skipSpace_le ds
        (items? (skipSpace ds)).map fun (vs, r) => (v :: vs, r.weaken (by omega))
      else none
termination_by (cs.length, 1)
decreasing_by
  · exact Prod.Lex.right _ (by omega)
  · exact Prod.Lex.left _ _ (by omega)

/-- Reads the entries of an object up to its closing brace. -/
def entries? (cs : List Char) : Option (Entries × Rest cs) :=
  match cs with
  | [] => none
  | c :: cs =>
    if c != '\x22' then none
    else
      match stringBody? cs with
      | none => none
      | some (key, r) =>
        match expect ':' (skipSpace r.1) with
        | none => none
        | some r' =>
          have h1 := r.2
          have h2 := length_skipSpace_le r.1
          have h3 := r'.2
          have h4 := length_skipSpace_le r'.1
          match value? (skipSpace r'.1) with
          | none => none
          | some (v, r'') =>
            match h : skipSpace r''.1 with
            | [] => none
            | d :: ds =>
              have hle : ds.length + 1 < cs.length := by
                have := length_skipSpace_le r''.1
                have := r''.2
                rw [h] at *
                simp at *
                omega
              if d == '}' then some ([(String.ofList key, v)], ⟨ds, by simp; omega⟩)
              else if d == ',' then
                have hskip := length_skipSpace_le ds
                (entries? (skipSpace ds)).map fun (es, r) =>
                  ((String.ofList key, v) :: es, r.weaken (by simp; omega))
              else none
termination_by (cs.length, 1)

end

/-- The value that a text holds, if it holds one and nothing else. -/
def ofText? (s : String) : Option Json :=
  match value? (skipSpace s.toList) with
  | some (v, r) => if (skipSpace r.1).isEmpty then some v else none
  | none => none

end CodeListing.Json
