import ClipFeed.Text.Blank
/-!
Videos handed in for publication. Title and both addresses must hold something, and no text may be
longer than its column; texts are trimmed and a blank description is dropped.
-/

namespace ClipFeed

inductive SubmissionFault where
  | missing (field : String)
  | tooLong (field : String) (limit : Nat)
  deriving DecidableEq, Repr

def SubmissionFault.message : SubmissionFault → String
  | .missing field => "`" ++ field ++ "` is required"
  | .tooLong field limit =>
    "`" ++ field ++ "` must be at most " ++ toString limit ++ " characters"

/-- A video before it has an identity. -/
structure Submission where
  authorId : Int64
  title : String
  description : Option String
  playUrl : String
  coverUrl : String
  deriving DecidableEq, Repr

namespace Submission

def columnWidth : Nat := 255

def bounded (field value : String) : Except SubmissionFault String :=
  if columnWidth < value.length then .error (.tooLong field columnWidth) else .ok value

def required (field value : String) : Except SubmissionFault String :=
  match Text.trimmed? value with
  | none => .error (.missing field)
  | some t => bounded field t

/-- The submission as it can be stored, or its first fault: title, addresses, description. -/
def validate (s : Submission) : Except SubmissionFault Submission := do
  let title ← required "title" s.title
  let playUrl ← required "play_url" s.playUrl
  let coverUrl ← required "cover_url" s.coverUrl
  let description ← (s.description.bind Text.trimmed?).mapM (bounded "description")
  return ⟨s.authorId, title, description, playUrl, coverUrl⟩

end Submission

end ClipFeed
