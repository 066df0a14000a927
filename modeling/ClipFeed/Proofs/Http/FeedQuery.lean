import ClipFeed.Http.FeedQuery
import ClipFeed.Proofs.Feed.Limits
import ClipFeed.Proofs.Text.Integer
/-!
The fields of a feed query. A field that is given once is read as it is, and a page size that is not
granted reads as if none were given: the size of a page is what its text denotes, if that lies
within the limits, and the default otherwise.
-/

namespace ClipFeed

open Text

namespace Http.FeedQuery

def text? (query : Option String) (name : String) : Option String :=
  (Form.pairs (query.getD "")).lookup name

/-- Whether both fields are given once at most. -/
def Single (query : Option String) : Prop :=
  ∀ name ∈ ["limit", "cursor"], ((Form.pairs (query.getD "")).map Prod.fst).count name ≤ 1

instance (query : Option String) : Decidable (Single query) :=
  inferInstanceAs (Decidable (∀ name ∈ _, _))

/-- The draft behind pairs that give no field twice, nor one that was given before. -/
theorem foldlM_add (pairs : List (String × String)) (d : Draft)
    (limits : (pairs.map Prod.fst).count "limit" + d.limit.toList.length ≤ 1)
    (cursors : (pairs.map Prod.fst).count "cursor" + d.cursor.toList.length ≤ 1) :
    pairs.foldlM add d =
      .ok ⟨d.limit.or (pairs.lookup "limit"), d.cursor.or (pairs.lookup "cursor")⟩ := by
  induction pairs generalizing d with
  | nil => simp [pure, Except.pure]
  | cons pair more ih =>
    obtain ⟨name, value⟩ := pair
    obtain ⟨limit, cursor⟩ := d
    simp only [List.map_cons, List.count_cons, beq_iff_eq] at limits cursors
    rw [List.foldlM_cons]
    by_cases isLimit : name = "limit"
    · subst isLimit
      cases limit with
      | some given => simp at limits
      | none =>
        have next := ih ⟨some value, cursor⟩ (by simpa using limits) (by simpa using cursors)
        simp [add, bind, Except.bind, next, List.lookup_cons]
    · by_cases isCursor : name = "cursor"
      · subst isCursor
        cases cursor with
        | some given => simp at cursors
        | none =>
          have next := ih ⟨limit, some value⟩ (by simpa using limits) (by simpa using cursors)
          simp [add, bind, Except.bind, next, List.lookup_cons]
      · have next := ih ⟨limit, cursor⟩ (by simpa [isLimit] using limits)
          (by simpa [isCursor] using cursors)
        have limitLater : ("limit" == name) = false := by simpa using Ne.symm isLimit
        have cursorLater : ("cursor" == name) = false := by simpa using Ne.symm isCursor
        simp [add, bind, Except.bind, next, List.lookup_cons, isLimit, isCursor, limitLater,
          cursorLater]

/-- A query that gives no field twice is read. -/
theorem ofQuery_of_single {query : Option String} (single : Single query) :
    ofQuery query = .ok ⟨(text? query "limit").bind parseLimit?, text? query "cursor"⟩ := by
  have limits := single "limit" (by decide)
  have cursors := single "cursor" (by decide)
  rw [ofQuery, foldlM_add (Form.pairs (query.getD "")) ⟨none, none⟩ limits cursors]
  rfl

theorem one_le_iff {size : UInt32} : 1 ≤ size ↔ 0 < (size.toNat : Int) := by
  rw [UInt32.le_iff_toNat_le, Int.natCast_pos]
  rfl

private theorem toNat_ofNat_of_lt
    {n : Int64} (positive : 0 < n.toInt) (small : n.toInt < UInt32.size) :
    ((UInt32.ofNat n.toNatClampNeg).toNat : Int) = n.toInt := by
  have clamped : (n.toNatClampNeg : Int) = n.toInt := by
    rw [← Int64.toNat_toInt]
    exact Int.toNat_of_nonneg (Int.le_of_lt positive)
  rw [UInt32.toNat_ofNat_of_lt' (by omega), clamped]

/-- A page size is asked for by a text that denotes it, blanks at the ends apart. -/
theorem parseLimit?_eq_some_iff {s : String} {size : UInt32} :
    parseLimit? s = some size ↔ 1 ≤ size ∧ Denotes (trim s).toList size.toNat := by
  rw [one_le_iff, parseLimit?]
  constructor
  · intro asked
    split at asked
    · next n parsed =>
      simp only [Bool.and_eq_true, decide_eq_true_eq, Option.ite_none_right_eq_some,
        Option.some.injEq] at asked
      obtain ⟨⟨positive, small⟩, rfl⟩ := asked
      rw [toNat_ofNat_of_lt positive small]
      exact ⟨positive, parseInt64?_eq_some_iff.mp parsed⟩
    · cases asked
  · rintro ⟨positive, denotes⟩
    have small : (size.toNat : Int) < UInt32.size := Int.ofNat_lt.mpr size.toNat_lt
    have fits : Fits64 size.toNat := by
      constructor
      · exact Int.le_trans (by decide) (Int.le_of_lt positive)
      · exact Int.le_trans (Int.le_of_lt small) (by decide)
    have same := toInt_ofInt fits
    have parsed : parseInt64? (trim s) = some (Int64.ofInt size.toNat) := by
      rw [parseInt64?_eq_some_iff, same]
      exact denotes
    rw [parsed]
    simp only [same, positive, small, decide_true, Bool.and_self, if_true, Option.some.injEq]
    rw [← same] at positive small
    apply UInt32.toNat_inj.mp
    exact Int.ofNat_inj.mp ((toNat_ofNat_of_lt positive small).trans same)

end Http.FeedQuery

/-- Whether a size is what limits grant to a text, if one is given: the number that the text denotes
where that lies between one and the maximum, and the default in every other case. -/
inductive Feed.Limits.Grants (l : Limits) (text? : Option String) : UInt32 → Prop where
  | asked {text : String} {size : UInt32} (given : text? = some text)
      (denotes : Denotes (trim text).toList size.toNat) (positive : 1 ≤ size)
      (below : size ≤ l.max) : Grants l text? size
  | default (unusable : ∀ text n, text? = some text → Denotes (trim text).toList n →
      ¬ (1 ≤ n ∧ n ≤ l.max.toNat)) : Grants l text? l.default

namespace Feed.Limits

variable {l : Limits} {text? : Option String} {size : UInt32}

open Http.FeedQuery

theorem Grants.eq_clamp (grants : l.Grants text? size) :
    size = l.clamp (text?.bind parseLimit?) := by
  cases grants with
  | asked given denotes positive below =>
    rw [given, Option.bind_some, parseLimit?_eq_some_iff.mpr ⟨positive, denotes⟩,
      clamp_of_le positive below]
  | default unusable =>
    cases asked : text?.bind parseLimit? with
    | none => rfl
    | some size =>
      obtain ⟨text, given, parsed⟩ := Option.bind_eq_some_iff.mp asked
      obtain ⟨positive, denotes⟩ := parseLimit?_eq_some_iff.mp parsed
      have outside : ¬ (1 ≤ size ∧ size ≤ l.max) := by
        rintro ⟨_, below⟩
        exact unusable text _ given denotes
          ⟨one_le_iff.mp positive, Int.ofNat_le.mpr (UInt32.le_iff_toNat_le.mp below)⟩
      rw [clamp_of_not_le outside]

theorem grants_clamp (l : Limits) (text? : Option String) :
    l.Grants text? (l.clamp (text?.bind parseLimit?)) := by
  by_cases usable : ∃ text size, text? = some text ∧ Denotes (trim text).toList size.toNat ∧
      1 ≤ size ∧ size ≤ l.max
  · obtain ⟨text, size, given, denotes, positive, below⟩ := usable
    have grants : l.Grants text? size := .asked given denotes positive below
    rwa [← grants.eq_clamp]
  · have grants : l.Grants text? l.default := by
      apply Grants.default
      rintro text n given denotes ⟨positive, below⟩
      obtain ⟨m, rfl⟩ := Int.eq_ofNat_of_zero_le (Int.le_of_lt positive)
      have small : m < UInt32.size :=
        Nat.lt_of_le_of_lt (Int.ofNat_le.mp below) (UInt32.toNat_lt l.max)
      have same : (UInt32.ofNat m).toNat = m := UInt32.toNat_ofNat_of_lt' small
      refine usable ⟨text, UInt32.ofNat m, given, ?_, ?_, ?_⟩
      · rwa [same]
      · rw [one_le_iff, same]
        exact positive
      · rw [UInt32.le_iff_toNat_le, same]
        exact Int.ofNat_le.mp below
    rwa [← grants.eq_clamp]

end Feed.Limits

end ClipFeed
