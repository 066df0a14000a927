import ClipFeed.Cache.Key
import ClipFeed.Proofs.Feed.Cursor
/-!
Keys against their names. Two keys have one name only if they name one query, where a position
among the newest counts by its microsecond and its row; and no lock has the name of an entry.
-/

namespace ClipFeed.Cache

open Feed Json Text

/-- Bytes that may stand inside a written number. -/
def Numeric (bs : Bytes) : Prop :=
  ∀ b ∈ bs, Json.isDigit b ∨ b = 45

private theorem Numeric.not_mem {bs : Bytes} (numeric : Numeric bs) {b : UInt8}
    (other : Json.isDigit b = false) (sign : b ≠ 45) : b ∉ bs := by
  intro member
  rcases numeric b member with digit | minus
  · rw [digit] at other
    cases other
  · exact sign minus

private theorem numeric_toDigits (n : Nat) : Numeric (asciiBytes (Nat.toDigits 10 n)) := by
  intro b member
  obtain ⟨c, digit, rfl⟩ := List.mem_map.mp member
  exact .inl (isDigit_byte (toDigits_isDigit digit))

theorem numeric_int64 (n : Int64) : Numeric (bytes (toString n)) := by
  have spelled : toString n = toString n.toInt := rfl
  rw [spelled]
  by_cases negative : n.toInt < 0
  · obtain ⟨m, size⟩ : ∃ m : Nat, n.toInt = -(m : Int) := ⟨n.toInt.natAbs, by omega⟩
    rw [size, bytes_toString_neg (by omega)]
    intro b member
    rcases List.mem_cons.mp member with rfl | digit
    · exact .inr rfl
    · exact numeric_toDigits m b digit
  · obtain ⟨m, size⟩ : ∃ m : Nat, n.toInt = (m : Int) := ⟨n.toInt.toNat, by omega⟩
    rw [size, bytes_toString_ofNat]
    exact numeric_toDigits m

theorem int64_injective {m n : Int64} (same : bytes (toString m) = bytes (toString n)) :
    m = n := by
  have left : (Value.int64 m).print = bytes (toString m) := by
    rw [Value.int64, Value.print, printInteger]; rfl
  have right : (Value.int64 n).print = bytes (toString n) := by
    rw [Value.int64, Value.print, printInteger]; rfl
  have first := (Payload.takes_int64 m).whole
  rw [left, same, ← right, (Payload.takes_int64 n).whole] at first
  exact (Except.ok.inj first).symm

private theorem numeric_uint32 (n : UInt32) : Numeric (bytes (toString n)) := by
  have spelled : toString n = n.toNat.repr := rfl
  rw [spelled, bytes_repr]
  exact numeric_toDigits n.toNat

private theorem uint32_injective {m n : UInt32} (same : bytes (toString m) = bytes (toString n)) :
    m = n := by
  have left : toString m = m.toNat.repr := rfl
  have right : toString n = n.toNat.repr := rfl
  rw [left, right, bytes_repr, bytes_repr] at same
  have value := congrArg Moment.number same
  rw [number_toDigits, number_toDigits] at value
  exact UInt32.toNat_inj.mp value

/-- Numbers in front of a byte that no number holds are read off alike. -/
theorem split_at {ds es rest others : Bytes} {b : UInt8} (first : b ∉ ds) (second : b ∉ es)
    (same : ds ++ b :: rest = es ++ b :: others) : ds = es ∧ rest = others := by
  induction ds generalizing es with
  | nil =>
    cases es with
    | nil => exact ⟨rfl, (List.cons.inj same).2⟩
    | cons e es =>
      obtain ⟨rfl, _⟩ := List.cons.inj same
      exact absurd (List.mem_cons_self ..) second
  | cons d ds ih =>
    cases es with
    | nil =>
      obtain ⟨rfl, _⟩ := List.cons.inj same
      exact absurd (List.mem_cons_self ..) first
    | cons e es =>
      obtain ⟨rfl, later⟩ := List.cons.inj same
      obtain ⟨rfl, rfl⟩ := ih (fun member => first (List.mem_cons_of_mem d member))
        (fun member => second (List.mem_cons_of_mem d member)) later
      exact ⟨rfl, rfl⟩

private theorem no_colon {bs : Bytes} (numeric : Numeric bs) : 58 ∉ bs :=
  numeric.not_mem rfl (by decide)

private theorem no_point {bs : Bytes} (numeric : Numeric bs) : 46 ∉ bs :=
  numeric.not_mem rfl (by decide)

/-- The start is told from every position by its first letter. -/
theorem start_ne (n : Int64) (rest : Bytes) : bytes "start" ≠ bytes (toString n) ++ rest := by
  obtain ⟨b, more, spelled, _⟩ := (Payload.takes_int64 n).opens
  have written : (Value.int64 n).print = bytes (toString n) := by
    rw [Value.int64, Value.print, printInteger]; rfl
  have numeric := numeric_int64 n
  rw [← written, spelled] at numeric
  rw [← written, spelled]
  intro same
  have first : 115 = b := (List.cons.inj same).1
  rcases numeric b (List.mem_cons_self ..) with digit | sign
  · rw [← first] at digit
    cases digit
  · rw [← first] at sign
    cases sign

/-- What a name tells of a position among the newest. -/
def latestMark (cursor : Option LatestCursor) : Option (Int64 × Option Int64) :=
  cursor.map fun c => (c.beforeMicros, c.id)

def rowBytes : Option Int64 → Bytes
  | some id => 46 :: bytes (toString id)
  | none => []

private theorem bytes_latestPosition (c : LatestCursor) :
    bytes (Key.latestPosition (some c)) = bytes (toString c.beforeMicros) ++ rowBytes c.id := by
  rw [Key.latestPosition, bytes_append]
  cases c.id with
  | none => rfl
  | some id => rw [bytes_append]; rfl

private theorem latestPosition_injective {c d : Option LatestCursor}
    (same : Key.latestPosition c = Key.latestPosition d) : latestMark c = latestMark d := by
  have spelled := congrArg bytes same
  match c, d with
  | none, none => rfl
  | none, some d =>
    rw [bytes_latestPosition] at spelled
    exact absurd spelled (start_ne _ _)
  | some c, none =>
    rw [bytes_latestPosition] at spelled
    exact absurd spelled.symm (start_ne _ _)
  | some c, some d =>
    rw [bytes_latestPosition, bytes_latestPosition] at spelled
    have left := no_point (numeric_int64 c.beforeMicros)
    have right := no_point (numeric_int64 d.beforeMicros)
    cases rowOf : c.id with
    | none =>
      cases rowIn : d.id with
      | none =>
        simp only [rowOf, rowIn, rowBytes, List.append_nil] at spelled
        simp [latestMark, rowOf, rowIn, int64_injective spelled]
      | some id =>
        simp only [rowOf, rowIn, rowBytes, List.append_nil] at spelled
        rw [spelled] at left
        exact absurd (List.mem_append_right _ (List.mem_cons_self ..)) left
    | some id =>
      cases rowIn : d.id with
      | none =>
        simp only [rowOf, rowIn, rowBytes, List.append_nil] at spelled
        rw [← spelled] at right
        exact absurd (List.mem_append_right _ (List.mem_cons_self ..)) right
      | some other =>
        simp only [rowOf, rowIn, rowBytes] at spelled
        obtain ⟨times, rows⟩ := split_at left right spelled
        simp [latestMark, rowOf, rowIn, int64_injective times, int64_injective rows]

private theorem bytes_popularPosition (c : PopularCursor) :
    bytes (Key.popularPosition (some c)) =
      bytes (toString c.likesCount) ++ 46 :: bytes (toString c.id) := by
  rw [Key.popularPosition, bytes_append, bytes_append, List.append_assoc]
  rfl

private theorem popularPosition_injective {c d : Option PopularCursor}
    (same : Key.popularPosition c = Key.popularPosition d) : c = d := by
  have spelled := congrArg bytes same
  match c, d with
  | none, none => rfl
  | none, some d =>
    rw [bytes_popularPosition] at spelled
    exact absurd spelled (start_ne _ _)
  | some c, none =>
    rw [bytes_popularPosition] at spelled
    exact absurd spelled.symm (start_ne _ _)
  | some c, some d =>
    rw [bytes_popularPosition, bytes_popularPosition] at spelled
    obtain ⟨likes, ids⟩ := split_at (no_point (numeric_int64 c.likesCount))
      (no_point (numeric_int64 d.likesCount)) spelled
    change some (PopularCursor.mk c.likesCount c.id) = some ⟨d.likesCount, d.id⟩
    rw [int64_injective likes, int64_injective ids]

namespace Key

/-- What the name of a key tells of it. -/
inductive Mark where
  | video (id : Int64)
  | latest (limit : UInt32) (position : Option (Int64 × Option Int64))
  | popular (limit : UInt32) (position : Option PopularCursor)
  | following (viewer : Int64) (limit : UInt32) (position : Option (Int64 × Option Int64))
  deriving DecidableEq, Repr

def mark : Key → Mark
  | .video id => .video id
  | .latest limit cursor => .latest limit (latestMark cursor)
  | .popular limit cursor => .popular limit cursor
  | .following viewer limit cursor => .following viewer limit (latestMark cursor)

theorem name_video (id : Int64) : (video id).name = "video:detail:id=" ++ toString id := rfl

theorem name_latest (limit : UInt32) (cursor : Option LatestCursor) :
    (latest limit cursor).name =
      "feed:latest:limit=" ++ toString limit ++ ":before=" ++ latestPosition cursor := rfl

theorem name_popular (limit : UInt32) (cursor : Option PopularCursor) :
    (popular limit cursor).name =
      "feed:popular:limit=" ++ toString limit ++ ":after=" ++ popularPosition cursor := rfl

theorem name_following (viewer : Int64) (limit : UInt32) (cursor : Option LatestCursor) :
    (following viewer limit cursor).name =
      "feed:following:viewer=" ++ toString viewer ++ ":limit=" ++ toString limit ++ ":before=" ++
        latestPosition cursor := rfl

private theorem bytes_name (k : Key) : bytes k.name =
    match k with
    | .video id => bytes "video:detail:id=" ++ bytes (toString id)
    | .latest limit cursor => bytes "feed:latest:limit=" ++ (bytes (toString limit) ++
        58 :: (bytes "before=" ++ bytes (latestPosition cursor)))
    | .popular limit cursor => bytes "feed:popular:limit=" ++ (bytes (toString limit) ++
        58 :: (bytes "after=" ++ bytes (popularPosition cursor)))
    | .following viewer limit cursor => bytes "feed:following:viewer=" ++
        (bytes (toString viewer) ++ 58 :: (bytes "limit=" ++ (bytes (toString limit) ++
        58 :: (bytes "before=" ++ bytes (latestPosition cursor))))) := by
  have before : bytes ":before=" = 58 :: bytes "before=" := rfl
  have after : bytes ":after=" = 58 :: bytes "after=" := rfl
  have limit : bytes ":limit=" = 58 :: bytes "limit=" := rfl
  cases k <;> simp only [name_video, name_latest, name_popular, name_following, bytes_append,
    List.append_assoc, List.cons_append, before, after, limit]

/-- The first letters of a name tell what kind of key it is. -/
theorem take_name (k : Key) : (bytes k.name).take 6 =
    match k with
    | .video _ => [118, 105, 100, 101, 111, 58]
    | .latest .. => [102, 101, 101, 100, 58, 108]
    | .popular .. => [102, 101, 101, 100, 58, 112]
    | .following .. => [102, 101, 101, 100, 58, 102] := by
  have kept (words rest : Bytes) (long : 6 ≤ words.length) :
      (words ++ rest).take 6 = words.take 6 := List.take_append_of_le_length long
  cases k with
  | video => exact (congrArg _ (bytes_name _)).trans (kept (bytes "video:detail:id=") _ (by decide))
  | latest =>
    exact (congrArg _ (bytes_name _)).trans (kept (bytes "feed:latest:limit=") _ (by decide))
  | popular =>
    exact (congrArg _ (bytes_name _)).trans (kept (bytes "feed:popular:limit=") _ (by decide))
  | following =>
    exact (congrArg _ (bytes_name _)).trans (kept (bytes "feed:following:viewer=") _ (by decide))

theorem mark_eq_of_name_eq {k l : Key} (same : k.name = l.name) : k.mark = l.mark := by
  have letters := take_name k
  rw [same, take_name l] at letters
  have spelled := congrArg bytes same
  rw [bytes_name, bytes_name] at spelled
  cases k <;> cases l <;> try cases letters
  case video.video id other =>
    exact congrArg Mark.video (int64_injective (List.append_cancel_left spelled))
  case latest.latest limit cursor other position =>
    obtain ⟨limits, rest⟩ := split_at (no_colon (numeric_uint32 limit))
      (no_colon (numeric_uint32 other)) (List.append_cancel_left spelled)
    have positions := bytes_injective (List.append_cancel_left rest)
    rw [mark, mark, uint32_injective limits, latestPosition_injective positions]
  case popular.popular limit cursor other position =>
    obtain ⟨limits, rest⟩ := split_at (no_colon (numeric_uint32 limit))
      (no_colon (numeric_uint32 other)) (List.append_cancel_left spelled)
    have positions := bytes_injective (List.append_cancel_left rest)
    rw [mark, mark, uint32_injective limits, popularPosition_injective positions]
  case following.following viewer limit cursor reader other position =>
    obtain ⟨viewers, behind⟩ := split_at (no_colon (numeric_int64 viewer))
      (no_colon (numeric_int64 reader)) (List.append_cancel_left spelled)
    obtain ⟨limits, rest⟩ := split_at (no_colon (numeric_uint32 limit))
      (no_colon (numeric_uint32 other)) (List.append_cancel_left behind)
    have positions := bytes_injective (List.append_cancel_left rest)
    rw [mark, mark, int64_injective viewers, uint32_injective limits,
      latestPosition_injective positions]

/-- A key whose position could come from a token. -/
def Canonical : Key → Prop
  | .video _ => True
  | .latest _ cursor => ∀ c ∈ cursor, c.Canonical
  | .popular .. => True
  | .following _ _ cursor => ∀ c ∈ cursor, c.Canonical

private theorem latest_eq_of_mark {c d : Option LatestCursor} (first : ∀ x ∈ c, x.Canonical)
    (second : ∀ x ∈ d, x.Canonical) (same : latestMark c = latestMark d) : c = d := by
  match c, d with
  | none, none => rfl
  | none, some d => cases same
  | some c, none => cases same
  | some c, some d =>
    obtain ⟨times, rows⟩ := Prod.mk.inj (Option.some.inj same)
    have time : c.before = d.before := by
      rw [(first c rfl).micros, (second d rfl).micros, times]
    change some (LatestCursor.mk c.before c.id) = some ⟨d.before, d.id⟩
    rw [time, rows]

theorem eq_of_name_eq {k l : Key} (first : k.Canonical) (second : l.Canonical)
    (same : k.name = l.name) : k = l := by
  have marks := mark_eq_of_name_eq same
  cases k <;> cases l <;> try cases marks
  case video.video => rfl
  case latest.latest limit cursor other position =>
    obtain ⟨rfl, positions⟩ := Mark.latest.inj marks
    rw [latest_eq_of_mark first second positions]
  case popular.popular => rfl
  case following.following viewer limit cursor reader other position =>
    obtain ⟨rfl, rfl, positions⟩ := Mark.following.inj marks
    rw [latest_eq_of_mark first second positions]

/-- Among keys with positions from tokens, one name means one key. -/
theorem name_eq_iff_eq {k l : Key} (first : k.Canonical) (second : l.Canonical) :
    k.name = l.name ↔ k = l :=
  ⟨eq_of_name_eq first second, congrArg name⟩

private theorem bytes_lockName (k : Key) : bytes k.lockName = bytes "lock:" ++ bytes k.name :=
  bytes_append ..

theorem lockName_ne_name (k l : Key) : k.lockName ≠ l.name := by
  intro same
  have first := congrArg (fun s => (bytes s).head?) same
  have letters := take_name l
  have head : (bytes l.name).head? = ((bytes l.name).take 6).head? := by
    cases bytes l.name <;> rfl
  simp only [bytes_lockName, head, letters] at first
  cases l <;> cases first

theorem name_eq_of_lockName_eq {k l : Key} (same : k.lockName = l.lockName) :
    k.name = l.name := by
  have spelled := congrArg bytes same
  rw [bytes_lockName, bytes_lockName] at spelled
  exact bytes_injective (List.append_cancel_left spelled)

end Key

end ClipFeed.Cache
