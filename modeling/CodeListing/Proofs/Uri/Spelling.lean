import CodeListing.Proofs.References.Loading
import CodeListing.Proofs.Uri.Host
import CodeListing.Proofs.Uri.RoundTrip

/-!
# The spellings of a file URI

A file of this machine has many URIs: the scheme and the host may be in any case, the host may be
left out, every byte of a name may be escaped, and between the names there may be single dots and
empty segments. `Uri.Spells` says that a URI spells the names on the way to a file. All URIs that do
point to one path, up to the spelling of the path (`Uri.Spells.toPath_same`), so that the file is
read once however often and in whatever spelling a response mentions it
(`Uri.toPath_of_spells`).

A relation between texts and what they spell comes first, without mention of how a URI is read.
-/

namespace CodeListing

open Text

/-! ## Spellings -/

namespace Uri

/-- How a byte of a name may be written: as a character that a path may show, or as an escape with
digits in either case. -/
inductive SpellsByte : UInt8 → List Char → Prop where
  | bare {c : Char} : isPathChar c = true → SpellsByte c.toUInt8 [c]
  | escape {high low : Char} : isHexDigit high = true → isHexDigit low = true →
      SpellsByte (UInt8.ofNat (hexValue high * 16 + hexValue low)) ['%', high, low]

/-- How a name may be written: byte after byte. -/
inductive SpellsSegment : Path.Segment → List Char → Prop where
  | nil : SpellsSegment [] []
  | cons {b : UInt8} {bs : List UInt8} {written cs : List Char} : SpellsByte b written →
      SpellsSegment bs cs → SpellsSegment (b :: bs) (written ++ cs)

/-- What may be written between the slashes of a path that takes these steps: each of them, and
single dots and nothing anywhere. -/
inductive SpellsSegments : List Path.Segment → List (List Char) → Prop where
  | nil : SpellsSegments [] []
  | step {segment : Path.Segment} {segments : List Path.Segment} {s : List Char}
      {spelled : List (List Char)} : SpellsSegment segment s → SpellsSegments segments spelled →
      SpellsSegments (segment :: segments) (s :: spelled)
  | dot {segments : List Path.Segment} {s : List Char} {spelled : List (List Char)} :
      SpellsSegment [Path.dot] s → SpellsSegments segments spelled →
      SpellsSegments segments (s :: spelled)
  | empty {segments : List Path.Segment} {spelled : List (List Char)} :
      SpellsSegments segments spelled → SpellsSegments segments ([] :: spelled)

/-- The pieces that a file URI is written with. -/
structure FileSpelling where
  scheme : List Char
  host : List Char
  /-- What stands between the slashes of the path. -/
  spelled : List (List Char)
  query : Option (List Char)
  fragment : Option (List Char)

namespace FileSpelling

/-- The path after its first slash. -/
def rest (s : FileSpelling) : List Char := ['/'].intercalate s.spelled

/-- What stands before the query and the fragment. -/
def front (s : FileSpelling) : List Char :=
  s.scheme ++ ':' :: '/' :: '/' :: (s.host ++ '/' :: s.rest)

/-- The text of a URI that is written with these pieces. -/
def text (s : FileSpelling) : List Char :=
  s.front ++ s.query.elim [] ('?' :: ·) ++ s.fragment.elim [] ('#' :: ·)

/-- The pieces spell a file of this machine that is reached by these steps from the root. -/
structure Spells (s : FileSpelling) (segments : List Path.Segment) : Prop where
  scheme : Domain.lowerCase s.scheme = ['f', 'i', 'l', 'e']
  host : s.host = [] ∨ Domain.lowerCase s.host = localhost
  path : SpellsSegments segments s.spelled
  query : ∀ q ∈ s.query, '#' ∉ q

end FileSpelling

/-- A URI spells a file of this machine that is reached by these steps from the root. -/
def Spells (u : Uri) (segments : List Path.Segment) : Prop :=
  ∃ s : FileSpelling, s.Spells segments ∧ u.text.toList = s.text

/-! ## Names -/

variable {segment : Path.Segment} {segments : List Path.Segment} {s : List Char}
  {spelled : List (List Char)}

theorem SpellsByte.decode_append {b : UInt8} {written : List Char} (h : SpellsByte b written)
    (cs : List Char) : decode (written ++ cs) = b :: decode cs := by
  cases h with
  | @bare c hc =>
    have hpercent : c ≠ '%' := by
      rintro rfl
      exact absurd hc (by decide)
    exact decode_cons_of_ne hpercent cs
  | escape hhigh hlow =>
    simp only [List.cons_append, List.nil_append, decode, hhigh, hlow, Bool.and_self, if_true]

theorem SpellsSegment.decode_eq (h : SpellsSegment segment s) : decode s = segment := by
  induction h with
  | nil => rfl
  | cons hb _ ih => rw [hb.decode_append, ih]

/-- What is spelled has no delimiters in it. -/
theorem SpellsSegment.not_mem {delimiter : Char} (hpath : isPathChar delimiter = false)
    (hpercent : delimiter ≠ '%') (hdigit : isHexDigit delimiter = false)
    (h : SpellsSegment segment s) : delimiter ∉ s := by
  induction h with
  | nil => exact List.not_mem_nil
  | cons hb _ ih =>
    rw [List.mem_append, not_or]
    refine ⟨fun hmem => ?_, ih⟩
    cases hb with
    | bare hc =>
      obtain rfl := List.mem_singleton.mp hmem
      exact absurd hc (Bool.eq_false_iff.mp hpath)
    | escape hhigh hlow =>
      simp only [List.mem_cons, List.not_mem_nil, or_false] at hmem
      rcases hmem with rfl | rfl | rfl
      · exact hpercent rfl
      · exact absurd hhigh (Bool.eq_false_iff.mp hdigit)
      · exact absurd hlow (Bool.eq_false_iff.mp hdigit)

theorem SpellsSegments.not_mem {delimiter : Char} (hpath : isPathChar delimiter = false)
    (hpercent : delimiter ≠ '%') (hdigit : isHexDigit delimiter = false)
    (h : SpellsSegments segments spelled) : ∀ s ∈ spelled, delimiter ∉ s := by
  induction h with
  | nil => simp
  | step hs _ ih => exact List.forall_mem_cons.mpr ⟨hs.not_mem hpath hpercent hdigit, ih⟩
  | dot hs _ ih => exact List.forall_mem_cons.mpr ⟨hs.not_mem hpath hpercent hdigit, ih⟩
  | empty _ ih => exact List.forall_mem_cons.mpr ⟨List.not_mem_nil, ih⟩

end Uri

/-! ## The parts of a spelling -/

namespace Uri

theorem cutScheme_append {scheme : List Char} (hcolon : ':' ∉ scheme) (hslash : '/' ∉ scheme)
    (rest : List Char) : cutScheme (scheme ++ ':' :: rest) = (some scheme, rest) := by
  have hscheme : ∀ c ∈ scheme, (c != ':' && c != '/') = true := by
    intro c hc
    have hne : c ≠ ':' := fun h => hcolon (h ▸ hc)
    have hne' : c ≠ '/' := fun h => hslash (h ▸ hc)
    simp [hne, hne']
  rw [cutScheme, List.dropWhile_append_of_pos hscheme, List.takeWhile_append_of_pos hscheme]
  simp

theorem cutAuthority_append {host : List Char} (hslash : '/' ∉ host) (rest : List Char) :
    cutAuthority ('/' :: '/' :: (host ++ '/' :: rest)) = (some host, '/' :: rest) := by
  have hhost : ∀ c ∈ host, (c != '/') = true := by
    intro c hc
    have hne : c ≠ '/' := fun h => hslash (h ▸ hc)
    simp [hne]
  rw [cutAuthority, List.dropWhile_append_of_pos hhost, List.takeWhile_append_of_pos hhost]
  simp

namespace FileSpelling

variable {s : FileSpelling} {segments : List Path.Segment}

theorem Spells.not_mem_scheme (h : s.Spells segments) {c : Char}
    (hc : c.toLower ∉ ['f', 'i', 'l', 'e']) : c ∉ s.scheme :=
  Domain.not_mem_of_lowerCase (h.scheme ▸ hc)

theorem Spells.not_mem_host (h : s.Spells segments) {c : Char} (hc : c.toLower ∉ localhost) :
    c ∉ s.host := by
  rcases h.host with hhost | hhost
  · rw [hhost]
    exact List.not_mem_nil
  · exact Domain.not_mem_of_lowerCase (hhost ▸ hc)

theorem Spells.not_mem_rest (h : s.Spells segments) {c : Char} (hpath : isPathChar c = false)
    (hpercent : c ≠ '%') (hdigit : isHexDigit c = false) (hslash : c ≠ '/') : c ∉ s.rest :=
  not_mem_intercalate hslash (h.path.not_mem hpath hpercent hdigit)

/-- Neither of the delimiters of a query and a fragment occurs before them. -/
theorem Spells.not_mem_front (h : s.Spells segments) {c : Char} (hc : c = '?' ∨ c = '#') :
    c ∉ s.front := by
  have hscheme : c ∉ s.scheme := h.not_mem_scheme (by rcases hc with rfl | rfl <;> decide)
  have hhost : c ∉ s.host := h.not_mem_host (by rcases hc with rfl | rfl <;> decide)
  have hrest : c ∉ s.rest := by
    rcases hc with rfl | rfl <;>
      exact h.not_mem_rest (by decide) (by decide) (by decide) (by decide)
  rcases hc with rfl | rfl <;> simp [front, hscheme, hhost, hrest]

/-- The parts of a spelling are the pieces that it was written with. -/
theorem Spells.ofChars_text (h : s.Spells segments) :
    Parts.ofChars s.text = ⟨some s.scheme, some s.host, '/' :: s.rest, s.query, s.fragment⟩ := by
  have hfragment : '#' ∉ s.front ++ s.query.elim [] ('?' :: ·) := by
    rw [List.mem_append, not_or]
    refine ⟨h.not_mem_front (.inr rfl), ?_⟩
    cases hq : s.query with
    | none => exact List.not_mem_nil
    | some q => simpa using h.query q hq
  have hquery : '?' ∉ s.front := h.not_mem_front (.inl rfl)
  have hscheme : cutScheme s.front = (some s.scheme, '/' :: '/' :: (s.host ++ '/' :: s.rest)) :=
    cutScheme_append (h.not_mem_scheme (by decide)) (h.not_mem_scheme (by decide)) _
  have hhost : '/' ∉ s.host := h.not_mem_host (by decide)
  simp only [Parts.ofChars, text, cut_append_elim hfragment, cut_append_elim hquery, hscheme,
    cutAuthority_append hhost]

end FileSpelling

/-! ## The path -/

/-- The steps that spelled segments take. -/
def stepsAlong (spelled : List (List Char)) : List Path.Component :=
  spelled.flatMap fun s => Path.stepsIn (decode s)

theorem stepsAlong_append (front back : List (List Char)) :
    stepsAlong (front ++ back) = stepsAlong front ++ stepsAlong back :=
  List.flatMap_append

theorem stepsAlong_singleton (s : List Char) : stepsAlong [s] = Path.stepsIn (decode s) :=
  List.flatMap_singleton _ s

/-- Empty segments take no step, so it does not matter that they are left out at the beginning. -/
theorem components_pathOfSegments (path : List (List Char)) :
    (pathOfSegments path).components = .root :: stepsAlong path := by
  have hdrop : stepsAlong (path.dropWhile List.isEmpty) = stepsAlong path := by
    induction path with
    | nil => rfl
    | cons s path ih =>
      cases s with
      | nil => exact ih
      | cons c cs => rfl
  rw [pathOfSegments, Path.components_closeDrive, Path.components_slash_cons, ← hdrop]
  refine congrArg _ ((Path.stepsIn_intercalate _).trans ?_)
  rw [List.flatMap_map]
  rfl

theorem resolve_cons_enter {s : List Char} (h : stepOf s = .enter s)
    (path rest : List (List Char)) : resolve path (s :: rest) = resolve (path ++ [s]) rest := by
  cases rest with
  | nil =>
    show _ = path ++ [s]
    rw [resolve, h]
  | cons s' rest =>
    rw [resolve, h]
    exact List.cons_ne_nil s' rest

/-- A single dot takes no step. At the end it leaves an empty segment, which takes none either. -/
theorem stepsAlong_resolve_cons_stay {s : List Char} (h : stepOf s = .stay)
    (path rest : List (List Char)) :
    stepsAlong (resolve path (s :: rest)) = stepsAlong (resolve path rest) := by
  cases rest with
  | nil =>
    show _ = stepsAlong path
    rw [resolve, h]
    show stepsAlong (path ++ [[]]) = _
    rw [stepsAlong_append]
    exact List.append_nil _
  | cons s' rest =>
    rw [resolve, h]
    exact List.cons_ne_nil s' rest

/-- Walking along spelled segments takes the steps that they spell. -/
theorem SpellsSegments.stepsAlong_resolve {segments : List Path.Segment}
    {spelled : List (List Char)} (h : SpellsSegments segments spelled)
    (hparent : [Path.dot, Path.dot] ∉ segments) (path : List (List Char)) :
    stepsAlong (resolve path spelled) = stepsAlong path ++ segments.flatMap Path.stepsIn := by
  induction h generalizing path with
  | nil => rw [resolve, List.flatMap_nil, List.append_nil]
  | @step segment segments s spelled hs _ ih =>
    rw [List.mem_cons, not_or] at hparent
    -- a single dot among the steps is read as one, so it is not entered
    by_cases hdot : segment = [Path.dot]
    · have hstay : stepOf s = .stay := by rw [stepOf, hs.decode_eq, if_pos hdot]
      rw [stepsAlong_resolve_cons_stay hstay, ih hparent.2, List.flatMap_cons, hdot]
      rfl
    · have henter : stepOf s = .enter s := by
        rw [stepOf, hs.decode_eq, if_neg hdot, if_neg (Ne.symm hparent.1)]
      rw [resolve_cons_enter henter, ih hparent.2, stepsAlong_append, stepsAlong_singleton,
        hs.decode_eq, List.flatMap_cons, List.append_assoc]
  | @dot segments s spelled hs _ ih =>
    have hstay : stepOf s = .stay := by rw [stepOf, hs.decode_eq, if_pos rfl]
    rw [stepsAlong_resolve_cons_stay hstay, ih hparent]
  | empty _ ih =>
    rw [resolve_cons_enter rfl, ih hparent, stepsAlong_append]
    exact congrArg (· ++ _) (List.append_nil _)

namespace FileSpelling

variable {s : FileSpelling} {segments : List Path.Segment}

theorem Spells.ofChars?_host (h : s.Spells segments) : Host.ofChars? s.host = some .here := by
  rcases h.host with hhost | hhost
  · rw [hhost]
    rfl
  · exact Host.ofChars?_localhost hhost

theorem Spells.isDriveLetter_host (h : s.Spells segments) : isDriveLetter s.host = false := by
  unfold isDriveLetter
  split
  next letter hhost =>
    -- a colon is in no host
    have hcolon : ':' ∉ s.host := h.not_mem_host (by decide)
    rw [hhost] at hcolon
    exact absurd (List.mem_cons_of_mem _ List.mem_cons_self) hcolon
  next => rfl

/-- What is read between the slashes is what was written there; nothing is read as one empty
segment. -/
theorem Spells.splitOn_rest (h : s.Spells segments) :
    SpellsSegments segments (s.rest.splitOn '/') := by
  have hslash : ∀ cs ∈ s.spelled, '/' ∉ cs :=
    h.path.not_mem (by decide) (by decide) (by decide)
  have hpath := h.path
  rw [rest]
  cases hspelled : s.spelled with
  | nil =>
    rw [hspelled] at hpath
    exact .empty hpath
  | cons first others =>
    rw [hspelled] at hslash hpath
    rwa [List.splitOn_intercalate '/' hslash (List.cons_ne_nil first others)]

theorem Spells.filePath? (h : s.Spells segments) :
    (Parts.ofChars s.text).filePath? =
      some (pathOfSegments (resolve [] (s.rest.splitOn '/'))) := by
  have hfile : (Parts.ofChars s.text).file? = some (.here, s.rest.splitOn '/') := by
    rw [h.ofChars_text, Parts.file?, Option.map_some, h.scheme, if_neg (by simp)]
    simp [h.isDriveLetter_host, h.ofChars?_host]
  rw [Parts.filePath?, hfile]
  rfl

end FileSpelling

/-- A URI points to the path that it spells. -/
theorem Spells.toPath_same {u : Uri} {segments : List Path.Segment} (h : u.Spells segments)
    (hparent : [Path.dot, Path.dot] ∉ segments) :
    u.toPath.same (.fromRoot segments) = true := by
  obtain ⟨s, hs, htext⟩ := h
  have hpath : u.toPath = pathOfSegments (resolve [] (s.rest.splitOn '/')) := by
    rw [toPath, parts, htext, hs.filePath?]
    rfl
  have hsteps : stepsAlong (resolve [] (s.rest.splitOn '/')) = segments.flatMap Path.stepsIn :=
    hs.splitOn_rest.stepsAlong_resolve hparent []
  rw [Path.same_iff, hpath, components_pathOfSegments, hsteps, Path.components_fromRoot]

end Uri

/-! ## One file -/

namespace Uri

/-- All spellings of a file of this machine point to one path, up to its spelling, and where they
occur in a response there is one entry for it in the table of lines. The file is loaded under one of
its spellings, and its lines are found under each of them. -/
theorem toPath_of_spells {segments : List Path.Segment}
    (hparent : [Path.dot, Path.dot] ∉ segments) :
    (∀ u : Uri, u.Spells segments → u.toPath.same (.fromRoot segments) = true) ∧
    ∀ locations : List Location, (∃ l ∈ locations, l.uri.Spells segments) →
      ∃ key : Path,
        (Location.paths locations).filter (·.same (.fromRoot segments)) = [key] ∧
        ∀ (files : Files) (lines : LineTable), (LineTable.load files locations).result = .ok lines →
          ∃ content : List String,
            lines.filter (·.1.same (.fromRoot segments)) = [(key, content)] ∧
            ∀ l ∈ locations, l.uri.Spells segments →
              lines.lookup l.uri.toPath = some content := by
  constructor
  · intro u hu
    exact hu.toPath_same hparent
  · rintro locations ⟨l, hl, hspells⟩
    have hmentioned : ∃ p ∈ locations.map (·.uri.toPath), p.same (.fromRoot segments) = true :=
      ⟨l.uri.toPath, List.mem_map_of_mem hl, hspells.toPath_same hparent⟩
    obtain ⟨key, hkey⟩ := Path.exists_filter_distinct hmentioned
    refine ⟨key, hkey, fun files lines hlines => ?_⟩
    obtain ⟨content, hentry⟩ := LineTable.exists_filter_of_load hlines hkey
    refine ⟨content, hentry, fun l' _ hspells' => ?_⟩
    have hlookup : lines.filter (·.1.same l'.uri.toPath) = [(key, content)] := by
      simp only [Path.same_congr (hspells'.toPath_same hparent), hentry]
    exact LineTable.lookup_of_filter hlookup

/-- The file at `/p/a`, with everything that makes no difference. -/
def oddSpelling : Uri := { text := "FILE://LocalHost/.//p/%2E/%61?./#/.." }

/-- The same file, with another byte escaped. -/
def escapedSpelling : Uri := { text := "file:///%70/a/" }

/-- Places in the file under both spellings, and a place in another file between them. -/
def oddPlace : Location := ⟨oddSpelling, ⟨⟨0, 3⟩, ⟨0, 4⟩⟩⟩

def escapedPlace : Location := ⟨escapedSpelling, ⟨⟨1, 4⟩, ⟨1, 5⟩⟩⟩

def spelledPlaces : List Location :=
  [oddPlace, ⟨{ text := "file:///p/c" }, ⟨⟨0, 0⟩, ⟨0, 1⟩⟩⟩, escapedPlace]

theorem SpellsByte.segment {b : UInt8} {written : List Char} (h : SpellsByte b written) :
    SpellsSegment [b] written := by
  simpa using SpellsSegment.cons h .nil

theorem oddSpelling_spells : oddSpelling.Spells [[0x70], [0x61]] := by
  have hp : SpellsSegment [0x70] ['p'] := (SpellsByte.bare (c := 'p') (by decide)).segment
  have ha : SpellsSegment [0x61] ['%', '6', '1'] :=
    (SpellsByte.escape (by decide) (by decide) : SpellsByte _ ['%', '6', '1']).segment
  have hdot : SpellsSegment [Path.dot] ['.'] := (SpellsByte.bare (c := '.') (by decide)).segment
  have hescaped : SpellsSegment [Path.dot] ['%', '2', 'E'] :=
    (SpellsByte.escape (by decide) (by decide) : SpellsByte _ ['%', '2', 'E']).segment
  refine ⟨⟨['F', 'I', 'L', 'E'], ['L', 'o', 'c', 'a', 'l', 'H', 'o', 's', 't'],
    [['.'], [], ['p'], ['%', '2', 'E'], ['%', '6', '1']], some ['.', '/'], some ['/', '.', '.']⟩,
    ⟨by decide, .inr (by decide), ?_, by decide⟩, by decide⟩
  exact .dot hdot (.empty (.step hp (.dot hescaped (.step ha .nil))))

theorem escapedSpelling_spells : escapedSpelling.Spells [[0x70], [0x61]] := by
  have hp : SpellsSegment [0x70] ['%', '7', '0'] :=
    (SpellsByte.escape (by decide) (by decide) : SpellsByte _ ['%', '7', '0']).segment
  have ha : SpellsSegment [0x61] ['a'] := (SpellsByte.bare (c := 'a') (by decide)).segment
  refine ⟨⟨['f', 'i', 'l', 'e'], [], [['%', '7', '0'], ['a'], []], none, none⟩,
    ⟨by decide, .inl rfl, .step hp (.step ha (.empty .nil)), by decide⟩, by decide⟩

theorem toPath_of_spells_spelledPlaces :
    [Path.dot, Path.dot] ∉ ([[0x70], [0x61]] : List Path.Segment) ∧
      oddSpelling.Spells [[0x70], [0x61]] ∧ escapedSpelling.Spells [[0x70], [0x61]] ∧
      oddSpelling.toPath.same (.fromRoot [[0x70], [0x61]]) = true ∧
      escapedSpelling.toPath.same (.fromRoot [[0x70], [0x61]]) = true ∧
      ∃ (key : Path) (lines : LineTable) (content : List String),
        (LineTable.load (Location.oneOnDisk (.ok [])) spelledPlaces).result = .ok lines ∧
        lines.filter (·.1.same (.fromRoot [[0x70], [0x61]])) = [(key, content)] ∧
        lines.lookup oddPlace.uri.toPath = some content ∧
        lines.lookup escapedPlace.uri.toPath = some content := by
  have hparent : [Path.dot, Path.dot] ∉ ([[0x70], [0x61]] : List Path.Segment) := by decide
  obtain ⟨hsame, hload⟩ := toPath_of_spells hparent
  have hodd : oddPlace ∈ spelledPlaces := by simp [spelledPlaces]
  have hescaped : escapedPlace ∈ spelledPlaces := by simp [spelledPlaces]
  obtain ⟨key, -, htable⟩ := hload spelledPlaces ⟨oddPlace, hodd, oddSpelling_spells⟩
  have hlines : ∃ lines,
      (LineTable.load (Location.oneOnDisk (.ok [])) spelledPlaces).result = .ok lines := ⟨_, rfl⟩
  obtain ⟨lines, hlines⟩ := hlines
  obtain ⟨content, hentry, hlookup⟩ := htable _ lines hlines
  exact ⟨hparent, oddSpelling_spells, escapedSpelling_spells, hsame _ oddSpelling_spells,
    hsame _ escapedSpelling_spells, key, lines, content, hlines, hentry,
    hlookup oddPlace hodd oddSpelling_spells, hlookup escapedPlace hescaped escapedSpelling_spells⟩

end Uri

end CodeListing
