import Poco.Proofs.Encoding
import Poco.Proofs.Events
import Poco.Proofs.FileLines
import Poco.Proofs.Sessions

namespace Poco

/-- The level and the code of what is logged. -/
abbrev Stamp := Level × String

/-- What every debug entry is stamped with. -/
def debugStamp : Stamp := (.debug, "D000")

def Entry.stamp (entry : Entry) : Stamp :=
  (entry.level, entry.code)

def Event.stamp (event : Event) : Stamp :=
  (event.level, event.code)

theorem stamp_event (entry : Entry) (limits : LogLimits) (source : Option String) :
    (entry.event limits source).stamp = entry.stamp := by
  obtain ⟨level, code, -, -⟩ := entry.event_frame limits source
  exact Prod.ext level code

namespace Files

/-- The name ends in a dot and the extension, with something before the dot. -/
def HasExtension (name extension : String) : Prop :=
  ∃ stem, name.toList = stem ++ '.' :: extension.toList ∧ stem ≠ [] ∧ '.' ∉ extension.toList

/-- What is noted about a file before its text is known. -/
structure Describes (metadata : FileMetadata) (fullPath : String) (bytes : ByteArray) : Prop where
  path : metadata.path = fullPath
  size : metadata.size = bytes.size
  extension : ∀ extension, metadata.extension = some extension ↔
    ∃ name written, fileName? fullPath = some name ∧ HasExtension name written ∧
      Text.lowercase written = extension
  uncounted : metadata.lines = 0

/-- A file that the checks on its size and its extension let pass. -/
structure Admits (limits : FileLimits) (preferences : FilePreferences) (metadata : FileMetadata) :
    Prop where
  bounded : metadata.size ≤ limits.maxFileSize
  named : preferences.requireExtension = true → metadata.extension = some "poco"

/-- What is to become of a path, given what is known of it.  Each objection
counts where none before it applies. -/
inductive Verdict (limits : FileLimits) (preferences : FilePreferences) (elapsed : Duration)
    (path : String) : FileAnswer → Except FileError SourceFile → Prop
  | noPath {answer : FileAnswer} (unnamed : path = "") :
      Verdict limits preferences elapsed path answer (.error (.invalidPath path))
  | missing (named : path ≠ "") :
      Verdict limits preferences elapsed path .missing (.error (.fileNotFound path))
  | notRegular (named : path ≠ "") :
      Verdict limits preferences elapsed path .notRegular (.error (.invalidPath path))
  | tooLarge {fullPath : String} {bytes : ByteArray} (named : path ≠ "")
      (large : limits.maxFileSize < bytes.size) :
      Verdict limits preferences elapsed path (.regular fullPath bytes)
        (.error (.fileTooLarge bytes.size limits.maxFileSize))
  | otherExtension {fullPath : String} {bytes : ByteArray} {metadata : FileMetadata}
      (named : path ≠ "") (described : Describes metadata fullPath bytes)
      (bounded : bytes.size ≤ limits.maxFileSize) (required : preferences.requireExtension = true)
      (other : metadata.extension ≠ some "poco") :
      Verdict limits preferences elapsed path (.regular fullPath bytes)
        (.error (.invalidExtension metadata.extension))
  | notText {fullPath : String} {bytes : ByteArray} {metadata : FileMetadata} {length : Nat}
      (named : path ≠ "") (described : Describes metadata fullPath bytes)
      (admitted : Admits limits preferences metadata)
      (unspelled : ∀ source : String, source.toUTF8 ≠ bytes)
      (text : TextUpTo bytes length) :
      Verdict limits preferences elapsed path (.regular fullPath bytes)
        (.error (.invalidEncoding path length))
  | tooManyLines {fullPath source : String} {metadata : FileMetadata} (named : path ≠ "")
      (described : Describes metadata fullPath source.toUTF8)
      (admitted : Admits limits preferences metadata)
      (many : limits.maxLineCount < (linePieces source.toList).length) :
      Verdict limits preferences elapsed path (.regular fullPath source.toUTF8)
        (.error (.tooManyLines (linePieces source.toList).length limits.maxLineCount))
  | accepted {fullPath source : String} {metadata : FileMetadata} (named : path ≠ "")
      (described : Describes metadata fullPath source.toUTF8)
      (admitted : Admits limits preferences metadata)
      (few : (linePieces source.toList).length ≤ limits.maxLineCount) :
      Verdict limits preferences elapsed path (.regular fullPath source.toUTF8)
        (.ok
          { source
            metadata := { metadata with lines := (linePieces source.toList).length }
            elapsed })

/-- The file is read with a warning, whatever is found in it. -/
def Warned (limits : FileLimits) (preferences : FilePreferences) (path : String)
    (answer : FileAnswer) : Prop :=
  path ≠ "" ∧ ∃ fullPath bytes metadata, answer = .regular fullPath bytes ∧
    Describes metadata fullPath bytes ∧ Admits limits preferences metadata ∧
    limits.largeFileThreshold < bytes.size

theorem extensionOf_eq_some_iff (name extension : String) :
    extensionOf name = some extension ↔ HasExtension name extension := by
  have parts := List.takeWhile_append_dropWhile (p := (· != '.')) (l := name.toList.reverse)
  constructor
  · intro found
    rw [extensionOf] at found
    cases behind : name.toList.reverse.dropWhile (· != '.') with
    | nil => simp [behind] at found
    | cons dot rest =>
        cases rest with
        | nil => simp [behind] at found
        | cons last rest =>
            simp only [behind, Option.some.injEq] at found
            have isDot : dot = '.' := by
              have stops := List.head?_dropWhile_not (· != '.') name.toList.reverse
              simpa [behind] using stops
            refine ⟨(last :: rest).reverse, ?_, by simp, ?_⟩
            · rw [← List.reverse_inj, ← parts, behind, ← found, isDot]
              simp
            · rw [← found]
              intro inside
              have passed := List.mem_takeWhile_imp (by simpa using inside)
              simp at passed
  · rintro ⟨stem, split, nonempty, last⟩
    have reversed : name.toList.reverse = extension.toList.reverse ++ '.' :: stem.reverse := by
      simp [split]
    have plain : ∀ c ∈ extension.toList.reverse, (c != '.') = true := by
      intro c member
      rw [bne_iff_ne]
      rintro rfl
      exact last (List.mem_reverse.mp member)
    rw [extensionOf, reversed, List.takeWhile_append_of_pos plain,
      List.dropWhile_append_of_pos plain]
    cases shape : stem.reverse with
    | nil => exact absurd (List.reverse_eq_nil_iff.mp shape) nonempty
    | cons c rest => simp

theorem describes_iff {metadata : FileMetadata} {fullPath : String} {bytes : ByteArray} :
    Describes metadata fullPath bytes ↔ metadata = FileMetadata.ofFile fullPath bytes := by
  have noted (extension : String) :
      (FileMetadata.ofFile fullPath bytes).extension = some extension ↔
        ∃ name written, fileName? fullPath = some name ∧ HasExtension name written ∧
          Text.lowercase written = extension := by
    simp only [FileMetadata.ofFile, Option.map_eq_some_iff, Option.bind_eq_some_iff,
      extensionOf_eq_some_iff]
    constructor
    · rintro ⟨written, ⟨name, named, ends⟩, lower⟩
      exact ⟨name, written, named, ends, lower⟩
    · rintro ⟨name, written, named, ends, lower⟩
      exact ⟨written, ⟨name, named, ends⟩, lower⟩
  constructor
  · intro described
    have extension : metadata.extension = (FileMetadata.ofFile fullPath bytes).extension :=
      Option.ext fun extension => (described.extension extension).trans (noted extension).symm
    obtain ⟨path, size, ext, lines⟩ := metadata
    obtain rfl : path = fullPath := described.path
    obtain rfl : size = bytes.size := described.size
    obtain rfl : lines = 0 := described.uncounted
    obtain rfl : ext = (FileMetadata.ofFile path bytes).extension := extension
    rfl
  · rintro rfl
    exact ⟨rfl, rfl, noted, rfl⟩

/-- The stamps of what is logged, debug entries aside. -/
def stamps (entries : List Entry) : List Stamp :=
  (entries.map Entry.stamp).filter (· != debugStamp)

@[simp] theorem stamps_append (first second : List Entry) :
    stamps (first ++ second) = stamps first ++ stamps second := by
  simp [stamps]

@[simp] theorem stamps_debugFor (logging : LoggingPreferences) (message : String)
    (context : List (String × String)) : stamps (Entry.debugFor logging message context) = [] := by
  rw [Entry.debugFor]
  split <;> rfl

/-- The warning about a file, if it is large. -/
def notes (limits : FileLimits) (metadata : FileMetadata) : List Stamp :=
  if limits.largeFileThreshold < metadata.size then [(.warning, "W001")] else []

/-- How an end is logged. -/
def closing : Except FileError SourceFile → Stamp
  | .error error => (.error, error.code)
  | .ok _ => (.info, "I006")

/-- What a part of the reading comes to, and what it logs. -/
structure Ends {α : Type} (outcome : Outcome α) (result : Except FileError α)
    (logged : List Stamp) : Prop where
  result : outcome.result = result
  logged : stamps outcome.entries = logged

section Parts

variable {α β : Type} {limits : FileLimits} {preferences : FilePreferences}
  {path fullPath : String} {bytes : ByteArray} {metadata : FileMetadata}

theorem Ends.later {first : Outcome α} {next : α → Outcome β} {value : α}
    {result : Except FileError β} {before behind : List Stamp}
    (ran : Ends first (.ok value) before) (rest : Ends (next value) result behind) :
    Ends (first >>= next) result (before ++ behind) := by
  have bound : first >>= next =
      { result := (next value).result, entries := first.entries ++ (next value).entries } := by
    change Outcome.bind first next = _
    rw [Outcome.bind, ran.result]
  rw [bound]
  refine ⟨rest.result, ?_⟩
  rw [stamps_append, ran.logged, rest.logged]

theorem Ends.quiet {first : Outcome α} {next : α → Outcome β} {value : α}
    {result : Except FileError β} {behind : List Stamp}
    (ran : Ends first (.ok value) []) (rest : Ends (next value) result behind) :
    Ends (first >>= next) result behind :=
  ran.later rest

theorem Ends.stop {first : Outcome α} {next : α → Outcome β} {error : FileError}
    {before : List Stamp} (failed : Ends first (.error error) before) :
    Ends (first >>= next) (.error error) before := by
  have bound : first >>= next = { result := .error error, entries := first.entries } := by
    change Outcome.bind first next = _
    rw [Outcome.bind, failed.result]
  rw [bound]
  exact ⟨rfl, failed.logged⟩

theorem ends_debug (logging : LoggingPreferences) (message : String)
    (context : List (String × String)) :
    Ends (.log (Entry.debugFor logging message context)) (.ok ()) [] :=
  ⟨rfl, stamps_debugFor logging message context⟩

theorem ends_fail (error : FileError) (message : String) (context : List (String × String)) :
    Ends (.fail error message context : Outcome α) (.error error) [(.error, error.code)] :=
  ⟨rfl, rfl⟩

theorem findFile_unnamed (unnamed : path = "") (answer : FileAnswer) :
    Ends (findFile path answer) (.error (.invalidPath path)) [(.error, "E012")] := by
  unfold findFile
  rw [if_pos (by simpa using unnamed)]
  exact ends_fail _ _ _

theorem findFile_missing (named : path ≠ "") :
    Ends (findFile path .missing) (.error (.fileNotFound path)) [(.error, "E005")] := by
  rw [findFile, if_neg (by simpa using named)]
  exact ends_fail _ _ _

theorem findFile_notRegular (named : path ≠ "") :
    Ends (findFile path .notRegular) (.error (.invalidPath path)) [(.error, "E012")] := by
  rw [findFile, if_neg (by simpa using named)]
  exact ends_fail _ _ _

theorem findFile_regular (named : path ≠ "") :
    Ends (findFile path (.regular fullPath bytes)) (.ok (fullPath, bytes)) [] := by
  rw [findFile, if_neg (by simpa using named)]
  exact ⟨rfl, rfl⟩

theorem isSourceFile_iff : metadata.isSourceFile = true ↔ metadata.extension = some "poco" := by
  rw [FileMetadata.isSourceFile, beq_iff_eq]
  rfl

theorem checkMetadata_tooLarge (large : limits.maxFileSize < metadata.size) :
    Ends (checkMetadata limits preferences path metadata)
      (.error (.fileTooLarge metadata.size limits.maxFileSize)) [(.error, "E007")] := by
  rw [checkMetadata, if_pos large]
  exact ends_fail _ _ _

theorem checkMetadata_otherExtension (bounded : metadata.size ≤ limits.maxFileSize)
    (required : preferences.requireExtension = true) (other : metadata.extension ≠ some "poco") :
    Ends (checkMetadata limits preferences path metadata)
      (.error (.invalidExtension metadata.extension)) [(.error, "E006")] := by
  have refused : metadata.isSourceFile = false :=
    Bool.eq_false_iff.mpr (mt isSourceFile_iff.mp other)
  rw [checkMetadata, if_neg (Nat.not_lt.mpr bounded), if_pos (by simp [required, refused])]
  exact ends_fail _ _ _

theorem checkMetadata_admitted (admitted : Admits limits preferences metadata) :
    Ends (checkMetadata limits preferences path metadata) (.ok ()) (notes limits metadata) := by
  have passes : ¬ (preferences.requireExtension && !metadata.isSourceFile) = true := by
    simp only [Bool.and_eq_true, Bool.not_eq_true', Bool.not_eq_false, not_and]
    exact fun required => isSourceFile_iff.mpr (admitted.named required)
  rw [checkMetadata, if_neg (Nat.not_lt.mpr admitted.bounded), if_neg passes]
  by_cases large : limits.largeFileThreshold < metadata.size
  · rw [if_pos (by simpa [FileMetadata.isLarge] using large), notes, if_pos large]
    exact ⟨rfl, rfl⟩
  · rw [if_neg (by simpa [FileMetadata.isLarge] using large), notes, if_neg large]
    exact ⟨rfl, rfl⟩

theorem decodeSource_text (source : String) :
    Ends (decodeSource path source.toUTF8) (.ok source) [] := by
  have valid : source.toUTF8.IsValidUTF8 := source.isValidUTF8
  rw [decodeSource, String.fromUTF8?, dif_pos valid]
  exact ⟨rfl, rfl⟩

theorem decodeSource_notText {length : Nat} (unspelled : ∀ source : String, source.toUTF8 ≠ bytes)
    (text : TextUpTo bytes length) :
    Ends (decodeSource path bytes) (.error (.invalidEncoding path length)) [(.error, "E010")] := by
  have invalid : ¬ bytes.IsValidUTF8 := fun valid => unspelled (String.fromUTF8 bytes valid) rfl
  obtain rfl := (textUpTo_iff bytes length).mp text
  rw [decodeSource, String.fromUTF8?, dif_neg invalid]
  exact ends_fail _ _ _

theorem checkLines_many {lines : Nat} (many : limits.maxLineCount < lines) :
    Ends (checkLines limits path lines) (.error (.tooManyLines lines limits.maxLineCount))
      [(.error, "E008")] := by
  rw [checkLines, if_pos many]
  exact ends_fail _ _ _

theorem checkLines_few {lines : Nat} (few : lines ≤ limits.maxLineCount) :
    Ends (checkLines limits path lines) (.ok ()) [] := by
  rw [checkLines, if_neg (Nat.not_lt.mpr few)]
  exact ⟨rfl, rfl⟩

theorem successEntry_ends (file : SourceFile) :
    Ends (.log [successEntry limits preferences path file]) (.ok ()) [(.info, "I006")] := by
  refine ⟨rfl, ?_⟩
  unfold successEntry
  cases preferences.performanceLogging <;> rfl

end Parts

section Reading

variable {limits : FileLimits} {preferences : FilePreferences} {path : String}
  {answer : FileAnswer} {elapsed : Duration} {result : Except FileError SourceFile}

theorem Verdict.exists (limits : FileLimits) (preferences : FilePreferences) (elapsed : Duration)
    (path : String) (answer : FileAnswer) :
    ∃ result, Verdict limits preferences elapsed path answer result := by
  by_cases unnamed : path = ""
  · exact ⟨_, .noPath unnamed⟩
  · cases answer with
    | missing => exact ⟨_, .missing unnamed⟩
    | notRegular => exact ⟨_, .notRegular unnamed⟩
    | regular fullPath bytes =>
        have described := describes_iff.mpr (rfl : FileMetadata.ofFile fullPath bytes = _)
        by_cases large : limits.maxFileSize < bytes.size
        · exact ⟨_, .tooLarge unnamed large⟩
        · have bounded := Nat.le_of_not_lt large
          by_cases named : preferences.requireExtension = true →
              (FileMetadata.ofFile fullPath bytes).extension = some "poco"
          · have admitted : Admits limits preferences (FileMetadata.ofFile fullPath bytes) :=
              ⟨bounded, named⟩
            by_cases spelled : ∃ source : String, source.toUTF8 = bytes
            · obtain ⟨source, rfl⟩ := spelled
              by_cases many : limits.maxLineCount < (linePieces source.toList).length
              · exact ⟨_, .tooManyLines unnamed described admitted many⟩
              · exact ⟨_, .accepted unnamed described admitted (Nat.le_of_not_lt many)⟩
            · exact ⟨_, .notText unnamed described admitted (not_exists.mp spelled)
                ((textUpTo_iff _ _).mpr rfl)⟩
          · obtain ⟨required, other⟩ := Classical.not_imp.mp named
            exact ⟨_, .otherExtension unnamed described bounded required other⟩

theorem warned_regular {fullPath : String} {bytes : ByteArray} {metadata : FileMetadata}
    (described : Describes metadata fullPath bytes) :
    Warned limits preferences path (.regular fullPath bytes) ↔
      path ≠ "" ∧ Admits limits preferences metadata ∧
        limits.largeFileThreshold < metadata.size := by
  constructor
  · rintro ⟨named, _, _, other, same, noted, admitted, large⟩
    cases same
    obtain rfl := (describes_iff.mp noted).trans (describes_iff.mp described).symm
    exact ⟨named, admitted, noted.size ▸ large⟩
  · rintro ⟨named, admitted, large⟩
    exact ⟨named, fullPath, bytes, metadata, rfl, described, admitted, described.size ▸ large⟩

/-- What is noted on the way to the end: the warning where it is due. -/
structure Notes (limits : FileLimits) (preferences : FilePreferences) (path : String)
    (answer : FileAnswer) (noted : List Stamp) : Prop where
  due : Warned limits preferences path answer → noted = [(.warning, "W001")]
  undue : ¬ Warned limits preferences path answer → noted = []

theorem Notes.none (spared : ¬ Warned limits preferences path answer) :
    Notes limits preferences path answer [] :=
  ⟨fun warned => absurd warned spared, fun _ => rfl⟩

theorem Notes.admitted {fullPath : String} {bytes : ByteArray} {metadata : FileMetadata}
    (named : path ≠ "") (described : Describes metadata fullPath bytes)
    (admitted : Admits limits preferences metadata) :
    Notes limits preferences path (.regular fullPath bytes) (notes limits metadata) := by
  have warned : Warned limits preferences path (.regular fullPath bytes) ↔ _ :=
    warned_regular described
  constructor
  · intro due
    exact if_pos (warned.mp due).2.2
  · intro undue
    exact if_neg fun large => undue (warned.mpr ⟨named, admitted, large⟩)

/-- Reading comes to the verdict, and logs the warning where it is due and then the end. -/
theorem readSource_ends (logging : LoggingPreferences)
    (verdict : Verdict limits preferences elapsed path answer result) :
    ∃ noted, Notes limits preferences path answer noted ∧
      Ends (readSource limits preferences logging path answer elapsed) result
        (noted ++ [closing result]) := by
  cases verdict with
  | noPath unnamed =>
      refine ⟨[], .none fun warned => warned.1 unnamed, ?_⟩
      exact .quiet (ends_debug ..) (.stop (findFile_unnamed unnamed answer))
  | missing named =>
      refine ⟨[], .none ?_, ?_⟩
      · rintro ⟨-, _, _, _, same, -⟩
        contradiction
      · exact .quiet (ends_debug ..) (.stop (findFile_missing named))
  | notRegular named =>
      refine ⟨[], .none ?_, ?_⟩
      · rintro ⟨-, _, _, _, same, -⟩
        contradiction
      · exact .quiet (ends_debug ..) (.stop (findFile_notRegular named))
  | @tooLarge fullPath bytes named large =>
      have described := describes_iff.mpr (rfl : FileMetadata.ofFile fullPath bytes = _)
      refine ⟨[], .none ?_, ?_⟩
      · intro warned
        exact absurd ((warned_regular described).mp warned).2.1.bounded (Nat.not_le.mpr large)
      · exact .quiet (ends_debug ..) (.quiet (findFile_regular named) (.quiet (ends_debug ..)
          (.stop (checkMetadata_tooLarge large))))
  | otherExtension named described bounded required other =>
      refine ⟨[], .none ?_, ?_⟩
      · intro warned
        exact other (((warned_regular described).mp warned).2.1.named required)
      · obtain rfl := describes_iff.mp described
        exact .quiet (ends_debug ..) (.quiet (findFile_regular named) (.quiet (ends_debug ..)
          (.stop (checkMetadata_otherExtension bounded required other))))
  | notText named described admitted unspelled text =>
      refine ⟨_, .admitted named described admitted, ?_⟩
      obtain rfl := describes_iff.mp described
      exact .quiet (ends_debug ..) (.quiet (findFile_regular named) (.quiet (ends_debug ..)
        (.later (checkMetadata_admitted admitted) (.stop (decodeSource_notText unspelled text)))))
  | @tooManyLines fullPath source metadata named described admitted many =>
      refine ⟨_, .admitted named described admitted, ?_⟩
      obtain rfl := describes_iff.mp described
      rw [← lineCount_eq_length_linePieces] at many ⊢
      exact .quiet (ends_debug ..) (.quiet (findFile_regular named) (.quiet (ends_debug ..)
        (.later (checkMetadata_admitted admitted) (.quiet (decodeSource_text source)
          (.stop (checkLines_many many))))))
  | @accepted fullPath source metadata named described admitted few =>
      refine ⟨_, .admitted named described admitted, ?_⟩
      obtain rfl := describes_iff.mp described
      rw [← lineCount_eq_length_linePieces] at few ⊢
      exact .quiet (ends_debug ..) (.quiet (findFile_regular named) (.quiet (ends_debug ..)
        (.later (checkMetadata_admitted admitted) (.quiet (decodeSource_text source)
          (.quiet (checkLines_few few) (.later (successEntry_ends _) ⟨rfl, rfl⟩))))))

theorem verdict_iff (logging : LoggingPreferences) :
    Verdict limits preferences elapsed path answer result ↔
      (readSource limits preferences logging path answer elapsed).result = result := by
  constructor
  · intro verdict
    obtain ⟨_, -, ends⟩ := readSource_ends logging verdict
    exact ends.result
  · rintro rfl
    obtain ⟨_, verdict⟩ := Verdict.exists limits preferences elapsed path answer
    obtain ⟨_, -, ends⟩ := readSource_ends logging verdict
    rwa [ends.result]

end Reading

def failureStamps : Except FileError SourceFile → List Stamp
  | .error error => [(.error, error.code)]
  | .ok _ => []

def successStamps : Except FileError SourceFile → List Stamp
  | .error _ => []
  | .ok _ => [(.info, "I006")]

/-- The events of a reading agree with what it came to. -/
structure LogsReading (limits : FileLimits) (preferences : FilePreferences) (path : String)
    (answer : FileAnswer) (result : Except FileError SourceFile) (events : List Event) :
    Prop where
  failures : (events.filter (·.level == .error)).map Event.stamp = failureStamps result
  successes : (events.filter (·.code == "I006")).map Event.stamp = successStamps result
  warned : Warned limits preferences path answer →
    (events.filter (·.code == "W001")).map Event.stamp = [(.warning, "W001")]
  spared : ¬ Warned limits preferences path answer → ∀ event ∈ events, event.code ≠ "W001"

theorem filter_stamps {entries : List Entry} {events : List Event} {kept : Stamp → Bool}
    (told : events.map Event.stamp = entries.map Entry.stamp) (loud : kept debugStamp = false) :
    (events.filter (kept ·.stamp)).map Event.stamp = (stamps entries).filter kept := by
  have loudly (stamp : Stamp) : kept stamp = (kept stamp && stamp != debugStamp) := by
    by_cases debug : stamp = debugStamp
    · simp [debug, loud]
    · simp [debug]
  calc
    (events.filter (kept ·.stamp)).map Event.stamp = (events.map Event.stamp).filter kept :=
      List.filter_map.symm
    _ = (entries.map Entry.stamp).filter kept := by rw [told]
    _ = (stamps entries).filter kept := by
      rw [stamps, List.filter_filter]
      exact List.filter_congr fun stamp _ => loudly stamp

/-- The codes of file errors. -/
def errorCodes : List String :=
  [Code.fileNotFound, Code.invalidExtension, Code.fileTooLarge, Code.tooManyLines,
    Code.permissionDenied, Code.invalidEncoding, Code.ioError, Code.invalidPath]

theorem FileError.code_ne (error : FileError) (code : String) (other : code ∉ errorCodes) :
    (error.code == code) = false := by
  refine beq_false_of_ne ?_
  rintro rfl
  cases error <;> simp [FileError.code, errorCodes] at other

theorem logsReading {limits : FileLimits} {preferences : FilePreferences} {path : String}
    {answer : FileAnswer} {result : Except FileError SourceFile} {noted : List Stamp}
    {entries : List Entry} {events : List Event}
    (notes : Notes limits preferences path answer noted)
    (logged : stamps entries = noted ++ [closing result])
    (told : events.map Event.stamp = entries.map Entry.stamp) :
    LogsReading limits preferences path answer result events := by
  have stamped (kept : Stamp → Bool) (loud : kept debugStamp = false) :
      (events.filter (kept ·.stamp)).map Event.stamp =
        noted.filter kept ++ [closing result].filter kept := by
    rw [filter_stamps told loud, logged, List.filter_append]
  have kinds : noted = [] ∨ noted = [(.warning, "W001")] := by
    by_cases warned : Warned limits preferences path answer
    · exact .inr (notes.due warned)
    · exact .inl (notes.undue warned)
  have unwarning : ([closing result].filter fun stamp => stamp.2 == "W001") = [] := by
    cases result with
    | error error => simp [closing, error.code_ne "W001" (by decide)]
    | ok file => rfl
  refine ⟨?_, ?_, ?_, ?_⟩
  · refine (stamped (fun stamp => stamp.1 == .error) rfl).trans ?_
    rcases kinds with rfl | rfl <;> cases result <;> rfl
  · refine (stamped (fun stamp => stamp.2 == "I006") rfl).trans ?_
    have unsuccessful : (noted.filter fun stamp => stamp.2 == "I006") = [] := by
      rcases kinds with rfl | rfl <;> decide
    rw [unsuccessful, List.nil_append]
    cases result with
    | error error => simp [closing, successStamps, error.code_ne "I006" (by decide)]
    | ok file => rfl
  · intro due
    refine (stamped (fun stamp => stamp.2 == "W001") rfl).trans ?_
    rw [notes.due due, unwarning]
    rfl
  · intro undue event member warning
    have none := stamped (fun stamp => stamp.2 == "W001") rfl
    rw [notes.undue undue, unwarning, List.filter_nil, List.append_nil, List.map_eq_nil_iff,
      List.filter_eq_nil_iff] at none
    exact none event member (beq_iff_eq.mpr warning)

/-- What reading a path comes to is its verdict, and the journal tells of it. -/
theorem file_outcomes_match_log (limits : FileLimits) (preferences : FilePreferences)
    (journal : Journal) (path : String) (answer : FileAnswer) (elapsed : Duration) :
    let outcome := readSource limits preferences journal.preferences path answer elapsed
    (∀ result, Verdict limits preferences elapsed path answer result ↔ outcome.result = result) ∧
      ∃ events,
        (journal.logAll outcome.entries).events.toList = journal.events.toList ++ events ∧
        LogsReading limits preferences path answer outcome.result events := by
  intro outcome
  refine ⟨fun result => verdict_iff journal.preferences, _, journal.events_logAll _, ?_⟩
  -- What the reading came to is its verdict, so its entries are known, and the events are theirs.
  obtain ⟨noted, notes, ends⟩ :=
    readSource_ends journal.preferences ((verdict_iff journal.preferences).mpr rfl)
  refine logsReading notes ends.logged ?_
  rw [List.map_map]
  exact List.map_congr_left fun entry _ => stamp_event entry _ _

end Files

end Poco
