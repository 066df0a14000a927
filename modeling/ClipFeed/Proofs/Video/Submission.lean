import ClipFeed.Proofs.Checklist
import ClipFeed.Proofs.Text.Blank
import ClipFeed.Video.Service
/-!
Submissions that can be stored. Their texts, trimmed, have as many characters as their columns hold,
and only a description may be missing. What is stored is what was handed in, trimmed, and handing
that in again changes nothing; a submission that is refused costs the store and the cache nothing.
-/

namespace ClipFeed

open Text

namespace Text

private theorem one_le_length_trim_iff {s : String} : 1 ≤ (trim s).length ↔ ¬ Blank s := by
  rw [← trim_eq_empty_iff, ← String.length_eq_zero_iff]
  omega

private theorem trimmed?_eq_none_iff {s : String} : trimmed? s = none ↔ Blank s := by
  by_cases blank : Blank s
  · exact iff_of_true (trimmed?_of_blank blank) blank
  · simp [trimmed?_of_not_blank blank, blank]

private theorem trimmed?_bind (s : String) : (trimmed? s).bind trimmed? = trimmed? s := by
  by_cases blank : Blank s
  · rw [trimmed?_of_blank blank, Option.bind_none]
  · have solid : ¬ Blank (trim s) := by
      rwa [← trim_eq_empty_iff, trim_trim, trim_eq_empty_iff]
    rw [trimmed?_of_not_blank blank, Option.bind_some, trimmed?_of_not_blank solid, trim_trim]

private theorem bind_trimmed?_eq_none_iff {text? : Option String} :
    text?.bind trimmed? = none ↔ ∀ text ∈ text?, Blank text := by
  rw [Option.bind_eq_none_iff]
  simp only [trimmed?_eq_none_iff, Option.mem_def]

end Text

namespace Submission

variable {s v : Submission}

/-- The texts of a submission. -/
inductive Field where
  | title
  | playUrl
  | coverUrl
  | description
  deriving DecidableEq, Repr

namespace Field

/-- All fields in the order in which they are checked. -/
def all : List Field := [.title, .playUrl, .coverUrl, .description]

theorem mem_all (field : Field) : field ∈ all := by
  cases field <;> decide

def name : Field → String
  | .title => "title"
  | .playUrl => "play_url"
  | .coverUrl => "cover_url"
  | .description => "description"

def text? (s : Submission) : Field → Option String
  | .title => some s.title
  | .playUrl => some s.playUrl
  | .coverUrl => some s.coverUrl
  | .description => s.description

/-- Only a description may be left out. -/
def Needed (field : Field) : Prop :=
  field ≠ .description

instance (field : Field) : Decidable field.Needed :=
  inferInstanceAs (Decidable (_ ≠ _))

/-- Whether a field cannot be stored, and why. -/
inductive Fails (s : Submission) : Field → SubmissionFault → Prop where
  | missing {field : Field} {text : String} (needed : field.Needed)
      (given : field.text? s = some text) (blank : Blank text) : Fails s field (.missing field.name)
  | tooLong {field : Field} {text : String} (given : field.text? s = some text)
      (long : columnWidth < (trim text).length) : Fails s field (.tooLong field.name columnWidth)

theorem not_fails_iff {field : Field} : (∀ fault, ¬ field.Fails s fault) ↔
    ∀ text ∈ field.text? s, (field.Needed → 1 ≤ (trim text).length) ∧
      (trim text).length ≤ columnWidth := by
  constructor
  · intro sound text given
    constructor
    · intro needed
      rw [one_le_length_trim_iff]
      intro blank
      exact sound _ (.missing needed given blank)
    · apply Nat.le_of_not_lt
      intro long
      exact sound _ (.tooLong given long)
  · intro fits fault failed
    cases failed with
    | missing needed given blank => exact one_le_length_trim_iff.mp ((fits _ given).1 needed) blank
    | tooLong given long => exact Nat.not_lt.mpr (fits _ given).2 long

end Field

theorem bounded_eq_ok_iff {name text kept : String} :
    bounded name text = .ok kept ↔ text.length ≤ columnWidth ∧ kept = text := by
  unfold bounded
  split
  · next long => simp [Nat.not_le.mpr long]
  · next fits => simp [Nat.not_lt.mp fits, eq_comm]

theorem bounded_eq_error_iff {name text : String} {fault : SubmissionFault} :
    bounded name text = .error fault ↔
      columnWidth < text.length ∧ fault = .tooLong name columnWidth := by
  unfold bounded
  split
  · next long => simp [long, eq_comm]
  · next fits => simp [fits]

private theorem required_eq_ok_iff {name text kept : String} : required name text = .ok kept ↔
    1 ≤ (trim text).length ∧ (trim text).length ≤ columnWidth ∧ kept = trim text := by
  rw [one_le_length_trim_iff, required]
  by_cases blank : Blank text
  · simp [trimmed?_of_blank blank, blank]
  · simp [trimmed?_of_not_blank blank, blank, bounded_eq_ok_iff]

private theorem required_eq_error_iff {name text : String} {fault : SubmissionFault} :
    required name text = .error fault ↔ (Blank text ∧ fault = .missing name) ∨
      (columnWidth < (trim text).length ∧ fault = .tooLong name columnWidth) := by
  rw [required]
  by_cases blank : Blank text
  · simp [trimmed?_of_blank blank, blank, trim_eq_empty_iff.mpr blank, eq_comm]
  · simp [trimmed?_of_not_blank blank, blank, bounded_eq_error_iff]

/-- A field that has to be there is checked for its text and for its length. -/
theorem reports_required {field : Field} {text : String} (needed : field.Needed)
    (given : field.text? s = some text) :
    Reports (Field.Fails s) [field] (required field.name text) := by
  apply Reports.single
  · intro kept passed
    obtain ⟨present, fits, -⟩ := required_eq_ok_iff.mp passed
    rw [Field.not_fails_iff, given]
    rintro _ ⟨⟩
    exact ⟨fun _ => present, fits⟩
  · intro fault refused
    rcases required_eq_error_iff.mp refused with ⟨blank, rfl⟩ | ⟨long, rfl⟩
    · exact .missing needed given blank
    · exact .tooLong given long

/-- The description that is stored, if it is not too long. -/
def describe (s : Submission) : Except SubmissionFault (Option String) :=
  (s.description.bind trimmed?).mapM (bounded Field.description.name)

private theorem describe_eq_ok_iff {kept : Option String} : s.describe = .ok kept ↔
    (∀ text ∈ s.description, (trim text).length ≤ columnWidth) ∧
      kept = s.description.bind trimmed? := by
  rw [describe]
  cases s.description with
  | none => simp [pure, Except.pure, eq_comm]
  | some text =>
    by_cases blank : Blank text
    · simp [trimmed?_of_blank blank, trim_eq_empty_iff.mpr blank, pure, Except.pure, eq_comm]
    · simp only [Option.bind_some, trimmed?_of_not_blank blank, Option.mapM_some]
      cases made : bounded Field.description.name (trim text) with
      | ok stored => simp [bounded_eq_ok_iff.mp made, eq_comm]
      | error fault => simp [Nat.not_le.mpr (bounded_eq_error_iff.mp made).1]

private theorem describe_eq_error_iff {fault : SubmissionFault} : s.describe = .error fault ↔
    ∃ text ∈ s.description, columnWidth < (trim text).length ∧
      fault = .tooLong Field.description.name columnWidth := by
  rw [describe]
  cases s.description with
  | none => simp [pure, Except.pure]
  | some text =>
    by_cases blank : Blank text
    · simp [trimmed?_of_blank blank, trim_eq_empty_iff.mpr blank, pure, Except.pure]
    · simp only [Option.bind_some, trimmed?_of_not_blank blank, Option.mapM_some]
      cases made : bounded Field.description.name (trim text) with
      | ok stored => simp [Nat.not_lt.mpr (bounded_eq_ok_iff.mp made).1]
      | error fault => simp [bounded_eq_error_iff.mp made, eq_comm]

/-- A description is refused only for its length. -/
theorem reports_describe : Reports (Field.Fails s) [.description] s.describe := by
  apply Reports.single
  · intro kept passed
    rw [Field.not_fails_iff]
    intro text given
    exact ⟨fun needed => absurd rfl needed, (describe_eq_ok_iff.mp passed).1 text given⟩
  · intro fault refused
    obtain ⟨text, given, long, rfl⟩ := describe_eq_error_iff.mp refused
    exact .tooLong given long

/-- The submission with its texts trimmed, and without a description that is blank. -/
def trimmed (s : Submission) : Submission :=
  ⟨s.authorId, trim s.title, s.description.bind trimmed?, trim s.playUrl, trim s.coverUrl⟩

private theorem validate_eq (s : Submission) : s.validate = do
    let title ← required Field.title.name s.title
    let playUrl ← required Field.playUrl.name s.playUrl
    let coverUrl ← required Field.coverUrl.name s.coverUrl
    let description ← s.describe
    return ⟨s.authorId, title, description, playUrl, coverUrl⟩ := rfl

/-- Validation tells of the first field that cannot be stored. -/
theorem reports_validate (s : Submission) : Reports (Field.Fails s) Field.all s.validate := by
  rw [validate_eq, Field.all]
  apply Reports.cons (reports_required (by decide) rfl)
  intro _ _
  apply Reports.cons (reports_required (by decide) rfl)
  intro _ _
  apply Reports.cons (reports_required (by decide) rfl)
  intro _ _
  apply Reports.cons reports_describe
  intro _ _
  exact .passed nofun

/-- What can be stored is stored trimmed. -/
theorem eq_trimmed_of_validate (valid : s.validate = .ok v) : v = s.trimmed := by
  rw [validate_eq] at valid
  obtain ⟨title, titled, valid⟩ := bind_eq_ok_iff.mp valid
  obtain ⟨playUrl, played, valid⟩ := bind_eq_ok_iff.mp valid
  obtain ⟨coverUrl, covered, valid⟩ := bind_eq_ok_iff.mp valid
  obtain ⟨description, described, valid⟩ := bind_eq_ok_iff.mp valid
  obtain rfl := Except.ok.inj valid
  obtain ⟨-, -, rfl⟩ := required_eq_ok_iff.mp titled
  obtain ⟨-, -, rfl⟩ := required_eq_ok_iff.mp played
  obtain ⟨-, -, rfl⟩ := required_eq_ok_iff.mp covered
  obtain ⟨-, rfl⟩ := describe_eq_ok_iff.mp described
  rfl

/-- Every text of the trimmed submission was handed in with blanks around it. -/
theorem exists_given_of_trimmed (field : Field) {text : String}
    (kept : text ∈ field.text? s.trimmed) : ∃ given ∈ field.text? s, text = trim given := by
  cases field with
  | title => exact ⟨s.title, rfl, (Option.some.inj kept).symm⟩
  | playUrl => exact ⟨s.playUrl, rfl, (Option.some.inj kept).symm⟩
  | coverUrl => exact ⟨s.coverUrl, rfl, (Option.some.inj kept).symm⟩
  | description =>
    obtain ⟨given, present, left⟩ := Option.bind_eq_some_iff.mp kept
    refine ⟨given, present, ?_⟩
    by_cases blank : Blank given
    · rw [trimmed?_of_blank blank] at left
      cases left
    · rw [trimmed?_of_not_blank blank] at left
      exact (Option.some.inj left).symm

private theorem not_fails_trimmed {field : Field} (sound : ∀ fault, ¬ field.Fails s fault) :
    ∀ fault, ¬ field.Fails s.trimmed fault := by
  rw [Field.not_fails_iff] at sound ⊢
  intro text kept
  obtain ⟨given, present, rfl⟩ := exists_given_of_trimmed field kept
  rw [trim_trim]
  exact sound given present

private theorem trimmed_trimmed (s : Submission) : s.trimmed.trimmed = s.trimmed := by
  have description : (s.description.bind trimmed?).bind trimmed? = s.description.bind trimmed? := by
    cases s.description with
    | none => rfl
    | some text => rw [Option.bind_some, trimmed?_bind]
  simp only [trimmed, trim_trim, description]

private theorem length_le_of_validate (valid : s.validate = .ok v) {field : Field} {text : String}
    (kept : text ∈ field.text? v) : text.length ≤ columnWidth := by
  have sound := s.reports_validate.exists_ok_iff.mp ⟨v, valid⟩ field field.mem_all
  obtain rfl := eq_trimmed_of_validate valid
  obtain ⟨given, present, rfl⟩ := exists_given_of_trimmed field kept
  exact (Field.not_fails_iff.mp sound given present).2

/-- What can be stored is valid as it is stored. -/
theorem validate_of_validate (valid : s.validate = .ok v) : v.validate = .ok v := by
  obtain rfl := eq_trimmed_of_validate valid
  have sound := s.reports_validate.exists_ok_iff.mp ⟨_, valid⟩
  obtain ⟨w, again⟩ := s.trimmed.reports_validate.exists_ok_iff.mpr fun field member =>
    not_fails_trimmed (sound field member)
  rw [again, eq_trimmed_of_validate again, trimmed_trimmed]

/-- No field fails if the texts that have to be there have some characters, and no text has more
than fit. -/
theorem not_fails_all_iff : (∀ field ∈ Field.all, ∀ fault, ¬ field.Fails s fault) ↔
    (∀ text ∈ [s.title, s.playUrl, s.coverUrl],
      1 ≤ (trim text).length ∧ (trim text).length ≤ columnWidth) ∧
    ∀ text ∈ s.description, (trim text).length ≤ columnWidth := by
  simp only [Field.not_fails_iff]
  constructor
  · intro sound
    have whole (field : Field) (needed : field.Needed) (text : String)
        (given : field.text? s = some text) :
        1 ≤ (trim text).length ∧ (trim text).length ≤ columnWidth := by
      obtain ⟨present, fits⟩ := sound field field.mem_all text given
      exact ⟨present needed, fits⟩
    constructor
    · have title := whole .title (by decide) s.title rfl
      have playUrl := whole .playUrl (by decide) s.playUrl rfl
      have coverUrl := whole .coverUrl (by decide) s.coverUrl rfl
      simpa using ⟨title, playUrl, coverUrl⟩
    · intro text given
      exact (sound .description (by decide) text given).2
  · rintro ⟨needed, described⟩ field - text given
    have of_mem (member : text ∈ [s.title, s.playUrl, s.coverUrl]) :
        (field.Needed → 1 ≤ (trim text).length) ∧ (trim text).length ≤ columnWidth :=
      ⟨fun _ => (needed text member).1, (needed text member).2⟩
    cases field with
    | title => exact of_mem (by simp [Option.some.inj given])
    | playUrl => exact of_mem (by simp [Option.some.inj given])
    | coverUrl => exact of_mem (by simp [Option.some.inj given])
    | description => exact ⟨fun needed => absurd rfl needed, described text given⟩

end Submission

/-- A submission can be stored exactly if its title and its addresses have one to 255 characters and
its description has no more, blanks at their ends apart. Then it is stored under its author with its
texts trimmed and without a blank description, so that all of them fit their columns, and what is
stored is valid as it is. Otherwise the fault is that of the first field that cannot be stored, and
publishing it ends with this fault without asking for anything. -/
theorem submissions_validated (s : Submission) :
    ((∃ v, s.validate = .ok v) ↔
      (∀ text ∈ [s.title, s.playUrl, s.coverUrl],
        1 ≤ (trim text).length ∧ (trim text).length ≤ 255) ∧
      ∀ text ∈ s.description, (trim text).length ≤ 255) ∧
    (∀ v, s.validate = .ok v →
      v.authorId = s.authorId ∧ v.title = trim s.title ∧ v.playUrl = trim s.playUrl ∧
      v.coverUrl = trim s.coverUrl ∧
      (v.description = none ↔ ∀ text ∈ s.description, Blank text) ∧
      (∀ text ∈ v.description, ∃ given ∈ s.description, text = trim given) ∧
      (∀ field, ∀ text ∈ Submission.Field.text? v field, text.length ≤ Submission.columnWidth) ∧
      v.validate = .ok v) ∧
    ∀ fault, s.validate = .error fault →
      (∃ before field behind, Submission.Field.all = before ++ field :: behind ∧
        (∀ earlier ∈ before, ∀ fault, ¬ earlier.Fails s fault) ∧ field.Fails s fault) ∧
      Video.Service.publish s = .done (.error (.submission fault)) := by
  have reports := s.reports_validate
  refine ⟨?_, ?_, ?_⟩
  · rw [reports.exists_ok_iff]
    exact Submission.not_fails_all_iff
  · intro v valid
    have again := Submission.validate_of_validate valid
    have fits (field : Submission.Field) (text : String) (kept : text ∈ field.text? v) :=
      Submission.length_le_of_validate valid kept
    obtain rfl := Submission.eq_trimmed_of_validate valid
    refine ⟨rfl, rfl, rfl, rfl, bind_trimmed?_eq_none_iff, ?_, fits, again⟩
    intro text kept
    exact Submission.exists_given_of_trimmed .description kept
  · intro fault refused
    rw [refused] at reports
    refine ⟨reports.exists_of_error, ?_⟩
    rw [Video.Service.publish, refused]
    rfl

end ClipFeed
