import LoxTokens.Proofs.Piece.Standing
import LoxTokens.Proofs.Scan.Lines
import LoxTokens.Proofs.Session.Unlimited
import LoxTokens.Proofs.Text.Replaced
import LoxTokens.Proofs.Unicode.Prefixes
import Mathlib.Data.List.Forall2

/-! Broken stretches of a script are reported one by one, but for those in strings and comments. -/

namespace LoxTokens

/-- An item that is related to others by position is related to one of them. -/
theorem exists_of_sublistForall₂ {α β : Type} {related : α → β → Prop} {items : List α}
    {others : List β} (found : items.SublistForall₂ related others) {item : α}
    (member : item ∈ items) : ∃ other ∈ others, related item other := by
  -- The others that are left out only move on to the next one.
  induction found with
  | nil => cases member
  | cons here _ ih =>
    rcases List.mem_cons.mp member with rfl | member
    · exact ⟨_, List.mem_cons_self, here⟩
    · obtain ⟨other, inside, there⟩ := ih member
      exact ⟨other, .tail _ inside, there⟩
  | cons_right _ ih =>
    obtain ⟨other, inside, there⟩ := ih member
    exact ⟨other, .tail _ inside, there⟩

/-- Whether a piece of some role may hold any characters: strings and comments may. -/
def Role.takesAny : Role → Bool
  | .token .string | .unterminated | .comment => true
  | _ => false

namespace Piece

/-- A piece after some text holds the character that stands after another text. -/
def Holds (entry : List Char × Piece) (place : List Char) : Prop :=
  ∃ left c right, entry.2.text = left ++ c :: right ∧ entry.1 ++ left = place

/-- The character at a place in a text is in a string, closed or not, or in a comment. -/
def Enclosed (text place : List Char) : Prop :=
  ∃ entry ∈ placed [] (ofText text), entry.2.role.takesAny ∧ Holds entry place

/-- What other rules than those of strings, comments and faults take is ASCII. -/
theorem isAscii_of_cuts {role : Role} {taken later : List Grapheme} (cut : Cuts role taken later)
    (narrow : role.takesAny = false) (expected : role ≠ .unexpected) :
    ∀ c ∈ taken.flatten, isAscii c := by
  have single {c : Char} (ascii : isAscii c) : ∀ d ∈ [[c]].flatten, isAscii d := by simpa
  cases role with
  | token kind =>
    have notString : kind ≠ .string := by
      rintro rfl
      simp [Role.takesAny] at narrow
    -- The other lexemes are made of single ASCII characters.
    intro c inside
    obtain ⟨grapheme, member, found⟩ := List.mem_flatten.mp inside
    obtain ⟨d, rfl, ascii⟩ := ascii_of_cuts cut notString grapheme member
    rwa [List.mem_singleton.mp found]
  | blank =>
    cases cut with
    | blank blank => exact single (isAscii_of_separator (.inl blank))
  | newline =>
    cases cut with
    | newline => exact single rfl
  | unexpected => exact absurd rfl expected
  | comment | unterminated => simp [Role.takesAny] at narrow

/-- Outside strings and comments, replacement characters are single faults. -/
theorem replacement_of_mem {text : List Char} {piece : Piece} (member : piece ∈ ofText text)
    (narrow : piece.role.takesAny = false) : piece.text.count '\uFFFD' ≤ 1 ∧
      ('\uFFFD' ∈ piece.text → piece.role = .unexpected) := by
  obtain ⟨before, after, divided⟩ := List.append_of_mem member
  obtain ⟨earlier, taken, later, whole, cut, same, _⟩ := exists_cuts_of_divide divided
  by_cases unexpected : piece.role = .unexpected
  · -- A fault is one grapheme, and there is one of them at most in that.
    rw [unexpected] at cut
    obtain ⟨grapheme, rfl, _⟩ := eq_of_cuts_unexpected cut
    have inside : grapheme ∈ graphemes text := by simp [whole]
    have once := count_replacement_le_one inside
    exact ⟨by simpa [same] using once, fun _ => unexpected⟩
  · -- No other piece goes beyond ASCII.
    have absent : '\uFFFD' ∉ piece.text := by
      intro inside
      rw [same] at inside
      have ascii := isAscii_of_cuts cut narrow unexpected _ inside
      contradiction
    exact ⟨by simp [List.count_eq_zero.mpr absent], fun inside => absurd inside absent⟩

/-- No piece starts before the text that is in front of all of them ends. -/
theorem length_le_of_mem_placed {before : List Char} {pieces : List Piece}
    {entry : List Char × Piece} (member : entry ∈ placed before pieces) :
    before.length ≤ entry.1.length := by
  obtain ⟨earlier, later, _, place⟩ := exists_of_mem_placed member
  rw [place, List.length_append]
  omega

/-- There is one piece at most that holds the character at a place. -/
theorem eq_of_holds {before place : List Char} {pieces : List Piece}
    {entry other : List Char × Piece} (member : entry ∈ placed before pieces)
    (memberToo : other ∈ placed before pieces) (holds : Holds entry place)
    (holdsToo : Holds other place) : entry = other := by
  -- The first piece ends before any of the others starts.
  induction pieces generalizing before with
  | nil => cases member
  | cons piece later ih =>
    have ends {next : List Char × Piece} (inside : next ∈ placed (before ++ piece.text) later)
        (holdsFirst : Holds (before, piece) place) (holdsNext : Holds next place) : False := by
      have starts := length_le_of_mem_placed inside
      obtain ⟨left, c, right, spelled, rfl⟩ := holdsFirst
      obtain ⟨leftToo, d, rightToo, _, same⟩ := holdsNext
      have length : piece.text.length = left.length + (right.length + 1) := by
        simp [show piece.text = left ++ c :: right from spelled]
      have lengths := congrArg List.length same
      simp only [List.length_append] at starts lengths
      omega
    rcases List.mem_cons.mp member with rfl | inside
    · rcases List.mem_cons.mp memberToo with rfl | insideToo
      · rfl
      · exact (ends insideToo holds holdsToo).elim
    · rcases List.mem_cons.mp memberToo with rfl | insideToo
      · exact (ends inside holdsToo holds).elim
      · exact ih inside insideToo

end Piece

namespace Scan

/-- The reports on some pieces, each with the text in front of the piece that it is on. -/
def reportsAmong (lastLine : Nat) (entries : List (List Char × Piece)) :
    List (List Char × Diagnostic) :=
  entries.filterMap fun entry => (diagnosticAt? lastLine entry).map (entry.1, ·)

/-- The diagnostics of a text, each with the text in front of what it is on. -/
def reported (text : List Char) : List (List Char × Diagnostic) :=
  reportsAmong (lineAfter text) (Piece.placed [] (Piece.ofText text))

/-- Without the places, these are the diagnostics of the text. -/
theorem map_snd_reported (text : List Char) :
    (reported text).map Prod.snd = (ofText text).diagnostics := by
  have counted := (linesCounted (String.ofList text)).diagnostics
  rw [tokenize, String.toList_ofList] at counted
  rw [counted, reported, reportsAmong, List.map_filterMap]
  apply List.filterMap_congr
  intro entry _
  -- A place is put in front of each diagnostic, and taken away again.
  cases diagnosticAt? (lineAfter text) entry <;> rfl

/-- A report is on an unexpected character with a replacement character at some place in it. -/
def ShowsAt (place : List Char) (entry : List Char × Diagnostic) : Prop :=
  ∃ left right, entry.1 ++ left = place ∧
    entry.2.fault = .unexpectedCharacter (String.ofList (left ++ '\uFFFD' :: right))

/-- Where one more piece comes first, the reports on the others are still there. -/
theorem sublistForall₂_cons {lastLine : Nat} {first : List Char × Piece}
    {entries : List (List Char × Piece)} {places : List (List Char)}
    (found : places.SublistForall₂ ShowsAt (reportsAmong lastLine entries)) :
    places.SublistForall₂ ShowsAt (reportsAmong lastLine (first :: entries)) := by
  rw [reportsAmong, List.filterMap_cons]
  cases diagnosticAt? lastLine first with
  | none => exact found
  | some diagnostic => exact .cons_right found

/-- Outside strings and comments, each replacement is in a report of its own. -/
theorem sublistForall₂_replacedFrom {lastLine : Nat} {before : List Char} {pieces : List Piece}
    {stretches : List Utf8.Stretch}
    (same : stretches.map Utf8.Stretch.shown = pieces.flatMap Piece.text)
    (narrow : ∀ piece ∈ pieces, piece.role.takesAny = false → piece.text.count '\uFFFD' ≤ 1 ∧
      ('\uFFFD' ∈ piece.text → piece.role = .unexpected))
    (outside : ∀ place ∈ Utf8.replacedFrom before stretches, ∀ entry ∈ Piece.placed before pieces,
      entry.2.role.takesAny → ¬Piece.Holds entry place) :
    (Utf8.replacedFrom before stretches).SublistForall₂ ShowsAt
      (reportsAmong lastLine (Piece.placed before pieces)) := by
  -- The induction takes off one piece at a time, with the stretches that make it up.
  induction pieces generalizing before stretches with
  | nil =>
    obtain rfl : stretches = [] := by simpa using same
    exact .nil
  | cons piece later ih =>
    rw [List.flatMap_cons] at same
    obtain ⟨here, others, rfl, spelled, rest⟩ := List.map_eq_append_iff.mp same
    obtain ⟨narrowHere, narrowLater⟩ := List.forall_mem_cons.mp narrow
    rw [Utf8.replacedFrom_append, spelled] at outside ⊢
    have laterReported := ih rest narrowLater fun place member entry inside =>
      outside place (List.mem_append_right _ member) entry (.tail _ inside)
    cases places : Utf8.replacedFrom before here with
    | nil => exact sublistForall₂_cons laterReported
    | cons place more =>
      -- Something is replaced in the piece, so it is neither a string nor a comment.
      have member : place ∈ Utf8.replacedFrom before here := by simp [places]
      obtain ⟨left, right, shown, covered⟩ := Utf8.exists_of_mem_replacedFrom member
      rw [spelled] at shown
      have notEnclosed : piece.role.takesAny = false := by
        by_contra takes
        exact outside place (List.mem_append_left _ member) (before, piece) List.mem_cons_self
          (by simpa using takes) ⟨left, '\uFFFD', right, shown, covered⟩
      obtain ⟨once, fault⟩ := narrowHere notEnclosed
      -- It is a fault with a single replacement character, and so replaces a single stretch.
      obtain rfl : more = [] := by
        have bound := Utf8.length_replacedFrom_le before here
        rw [spelled, places, List.length_cons] at bound
        exact List.length_eq_zero_iff.mp (by omega)
      have unexpected : piece.role = .unexpected := fault (by simp [shown])
      obtain ⟨role, text⟩ := piece
      obtain rfl : role = .unexpected := unexpected
      obtain rfl : text = left ++ '\uFFFD' :: right := shown
      exact .cons ⟨left, right, covered, rfl⟩ laterReported

/-- Each replacement has a report of its own exactly when none is in a string or a comment. -/
theorem sublistForall₂_replaced_iff (bytes : List UInt8) :
    (Utf8.replaced bytes).SublistForall₂ ShowsAt (reported (Utf8.decodeLossy bytes)) ↔
      ∀ place ∈ Utf8.replaced bytes, ¬Piece.Enclosed (Utf8.decodeLossy bytes) place := by
  constructor
  · rintro found place member ⟨entry, inside, takes, holds⟩
    -- The piece that is reported would be the string or the comment.
    obtain ⟨⟨start, diagnostic⟩, listed, left, right, covered, fault⟩ :=
      exists_of_sublistForall₂ found member
    obtain ⟨⟨before, role, text⟩, placed, made⟩ := List.mem_filterMap.mp listed
    cases role with
    | unexpected =>
      obtain ⟨rfl, rfl⟩ : before = start ∧
          ⟨lineAfter before, .unexpectedCharacter (String.ofList text)⟩ = diagnostic := by
        simpa [diagnosticAt?] using made
      have shown : text = left ++ '\uFFFD' :: right :=
        String.ofList_injective (Fault.unexpectedCharacter.inj fault)
      have holdsToo : Piece.Holds (before, ⟨.unexpected, text⟩) place :=
        ⟨left, '\uFFFD', right, shown, covered⟩
      obtain rfl := Piece.eq_of_holds inside placed holds holdsToo
      contradiction
    | unterminated =>
      -- That report is on no character at all.
      obtain ⟨rfl, rfl⟩ : before = start ∧ ⟨_, .unterminatedString⟩ = diagnostic := by
        simpa [diagnosticAt?] using made
      cases fault
    | _ => cases made
  · intro outside
    apply sublistForall₂_replacedFrom
    · rw [Utf8.map_shown_stretches, Piece.flatMap_text_ofText]
    · intro piece member
      exact Piece.replacement_of_mem member
    · intro place member entry inside takes holds
      exact outside place member ⟨entry, inside, takes, holds⟩

end Scan

namespace Session

/-- Broken stretches make a script faulty, and each of them is reported. -/
structure ReplacedReported (session : Session) (path : String) (bytes : List UInt8) : Prop where
  outcome : (session.runScript path (.ok bytes)).1 = .ok .faulty
  told : (session.runScript path (.ok bytes)).2.reporter = session.reporter.told
    [.report ((Scan.reported (Utf8.decodeLossy bytes)).map Prod.snd), .flush]
  /-- In order, each of them has a report to itself, on the grapheme with its replacement in it. -/
  reports : (Utf8.replaced bytes).SublistForall₂ Scan.ShowsAt
    (Scan.reported (Utf8.decodeLossy bytes))

/--
All that is replaced in a script that is no text is reported exactly when none of it is in a string
or in a comment.
-/
theorem replacedReported_iff {session : Session} (unlimited : session.out.settings = {})
    (path : String) {bytes : List UInt8} (noText : ∀ text, bytes ≠ Utf8.encode text) :
    session.ReplacedReported path bytes ↔
      ∀ place ∈ Utf8.replaced bytes, ¬Piece.Enclosed (Utf8.decodeLossy bytes) place := by
  rw [← Scan.sublistForall₂_replaced_iff]
  constructor
  · intro reported
    exact reported.reports
  · intro found
    have ran := runScript_of_unlimited unlimited path bytes
    -- Something is replaced, so there is a report.
    have faults : (Scan.ofText (Utf8.decodeLossy bytes)).diagnostics ≠ [] := by
      obtain ⟨place, member⟩ := List.exists_mem_of_ne_nil _ (Utf8.replaced_ne_nil noText)
      obtain ⟨entry, listed, _⟩ := exists_of_sublistForall₂ found member
      rw [← Scan.map_snd_reported]
      exact List.ne_nil_of_mem (List.mem_map_of_mem listed)
    have remembered : (session.reporter.told
        [.report (Scan.ofText (Utf8.decodeLossy bytes)).diagnostics, .flush]).hadError = true := by
      show (session.reporter.report _).flush.hadError = true
      simp [faults]
    refine ⟨?_, ?_, found⟩
    · rw [ran, remembered]
      rfl
    · rw [ran, Scan.map_snd_reported]
      rfl

/-- A replacement behind a prefix, one for two bytes, and a comment that holds the character. -/
theorem replacedReported_iff_apart :
    let session : Session := { reporter := .collecting [] }
    let bytes := [0xD8, 0x80, 0xFF, 0xF0, 0x9F] ++ Utf8.encode "1 // \uFFFD".toList
    session.out.settings = {} ∧ (∀ text, bytes ≠ Utf8.encode text) ∧
      session.ReplacedReported "apart.lox" bytes := by
  intro session bytes
  have noText : ∀ text, bytes ≠ Utf8.encode text :=
    Utf8.ne_encode_of_decode? (by decide +kernel)
  -- Of all the pieces, only the comment takes any characters, and it starts after the replacements.
  have early : ∀ place ∈ Utf8.replaced bytes, place.length < 3 := by decide +kernel
  have late : ∀ entry ∈ Piece.placed [] (Piece.ofText (Utf8.decodeLossy bytes)),
      entry.2.role.takesAny → 3 ≤ entry.1.length := by
    decide +kernel
  refine ⟨rfl, noText, (replacedReported_iff rfl "apart.lox" noText).mpr ?_⟩
  rintro place member ⟨entry, inside, takes, left, c, right, _, rfl⟩
  have before := early _ member
  have after := late entry inside takes
  rw [List.length_append] at before
  omega

/-- Between two quotes, a byte is replaced and nothing is said of it. -/
theorem not_replacedReported_quoted :
    let session : Session := { reporter := .collecting [] }
    let bytes : List UInt8 := [0x22, 0xFF, 0x22]
    session.reporter.hadError = false ∧ session.out.settings = {} ∧
      (∀ text, bytes ≠ Utf8.encode text) ∧ ¬session.ReplacedReported "quoted.lox" bytes := by
  intro session bytes
  have noText : ∀ text, bytes ≠ Utf8.encode text :=
    Utf8.ne_encode_of_decode? (by decide +kernel)
  have outcome : (session.runScript "quoted.lox" (.ok bytes)).1 = .ok .success := by
    decide +kernel
  refine ⟨rfl, rfl, noText, ?_⟩
  intro reported
  have faulty := reported.outcome
  rw [outcome] at faulty
  contradiction

end Session

end LoxTokens
