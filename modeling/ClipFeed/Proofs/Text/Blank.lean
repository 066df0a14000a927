import ClipFeed.Text.Blank
import Mathlib.Data.List.TakeWhile
/-!
What trimming leaves: a text is its trimmed form between blanks, and blanks around a text make no
difference to its trimmed form.
-/

namespace ClipFeed.Text

def AllBlank (cs : List Char) : Prop :=
  ∀ c ∈ cs, isBlank c = true

private theorem takeWhile_append_dropBlanks (cs : List Char) :
    cs.takeWhile isBlank ++ dropBlanks cs = cs :=
  List.takeWhile_append_dropWhile

private theorem allBlank_takeWhile (cs : List Char) : AllBlank (cs.takeWhile isBlank) :=
  fun _ member => List.mem_takeWhile_imp member

/-- Whatever stands behind a character that is not blank stays when blanks are dropped. -/
theorem dropBlanks_concat {cs : List Char} (solid : dropBlanks cs ≠ []) (behind : List Char) :
    dropBlanks (cs ++ behind) = dropBlanks cs ++ behind := by
  rw [dropBlanks, List.dropWhile_append, if_neg]
  · rfl
  · intro empty
    exact solid (List.isEmpty_iff.mp empty)

namespace AllBlank

variable {before behind : List Char}

private theorem dropBlanks_eq_nil (blank : AllBlank before) : dropBlanks before = [] :=
  List.dropWhile_eq_nil_iff.mpr blank

private theorem dropBlanks_append (blank : AllBlank before) (cs : List Char) :
    dropBlanks (before ++ cs) = dropBlanks cs :=
  List.dropWhile_append_of_pos blank

theorem reverse (blank : AllBlank behind) : AllBlank behind.reverse := by
  intro c member
  exact blank c (List.mem_reverse.mp member)

private theorem of_dropBlanks {cs : List Char} (nothing : dropBlanks cs = []) : AllBlank cs :=
  List.dropWhile_eq_nil_iff.mp nothing

theorem append (first : AllBlank before) (last : AllBlank behind) :
    AllBlank (before ++ behind) := by
  intro c member
  rcases List.mem_append.mp member with front | back
  · exact first c front
  · exact last c back

private theorem trimChars_between
    (first : AllBlank before) (last : AllBlank behind) (cs : List Char) :
    trimChars (before ++ cs ++ behind) = trimChars cs := by
  have opened : dropBlanks (before ++ cs ++ behind) = dropBlanks (cs ++ behind) := by
    rw [List.append_assoc, first.dropBlanks_append]
  by_cases nothing : dropBlanks cs = []
  · have all : dropBlanks (cs ++ behind) = [] :=
      ((of_dropBlanks nothing).append last).dropBlanks_eq_nil
    rw [trimChars, trimChars, opened, all, nothing]
  · rw [trimChars, trimChars, opened, dropBlanks_concat nothing, List.reverse_append,
      last.reverse.dropBlanks_append]

end AllBlank

/-- A list of characters is its trimmed form between blanks. -/
theorem exists_around_trimChars (cs : List Char) :
    ∃ before behind, AllBlank before ∧ AllBlank behind ∧
      cs = before ++ trimChars cs ++ behind := by
  have closing : trimChars cs ++ ((dropBlanks cs).reverse.takeWhile isBlank).reverse =
      dropBlanks cs := by
    rw [trimChars, ← List.reverse_append, takeWhile_append_dropBlanks, List.reverse_reverse]
  refine ⟨_, _, allBlank_takeWhile cs, (allBlank_takeWhile (dropBlanks cs).reverse).reverse, ?_⟩
  rw [List.append_assoc, closing, takeWhile_append_dropBlanks]

private theorem trimChars_trimChars (cs : List Char) : trimChars (trimChars cs) = trimChars cs := by
  obtain ⟨before, behind, first, last, split⟩ := exists_around_trimChars cs
  calc trimChars (trimChars cs)
    _ = trimChars (before ++ trimChars cs ++ behind) := (first.trimChars_between last _).symm
    _ = trimChars cs := by rw [← split]

/-- A text of nothing but blanks. -/
def Blank (s : String) : Prop :=
  AllBlank s.toList

instance (s : String) : Decidable (Blank s) :=
  decidable_of_iff (s.toList.all isBlank = true) List.all_eq_true

theorem trim_between {before behind : String} (first : Blank before) (last : Blank behind)
    (s : String) : trim (before ++ s ++ behind) = trim s := by
  rw [trim, trim, String.toList_append, String.toList_append, first.trimChars_between last]

theorem trim_trim (s : String) : trim (trim s) = trim s := by
  rw [trim, trim, String.toList_ofList, trimChars_trimChars]

theorem trim_eq_empty_iff {s : String} : trim s = "" ↔ Blank s := by
  constructor
  · intro empty
    obtain ⟨before, behind, first, last, split⟩ := exists_around_trimChars s.toList
    have nothing : trimChars s.toList = [] := String.ofList_injective empty
    rw [Blank, split, nothing, List.append_nil]
    exact first.append last
  · intro blank
    rw [trim, trimChars, AllBlank.dropBlanks_eq_nil blank]
    rfl

theorem trimmed?_of_blank {s : String} (blank : Blank s) : trimmed? s = none := by
  simp [trimmed?, trim_eq_empty_iff.mpr blank]

theorem trimmed?_of_not_blank {s : String} (solid : ¬ Blank s) : trimmed? s = some (trim s) := by
  rw [← trim_eq_empty_iff] at solid
  simp [trimmed?, solid]

theorem trimmed?_eq (s : String) : trimmed? s = if Blank s then none else some (trim s) := by
  split
  · next blank => exact trimmed?_of_blank blank
  · next solid => exact trimmed?_of_not_blank solid

end ClipFeed.Text
