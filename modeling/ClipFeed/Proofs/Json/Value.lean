import ClipFeed.Proofs.Json.Scan
import Mathlib.Data.List.Forall2
/-!
Readers against printed text. A reader takes a piece if it reads the same value off the front of
any text that the piece opens; a list of pieces with commas between them is taken element by
element.
-/

namespace ClipFeed.Json

open Text

/-- A piece that opens with a byte which is no blank and closes no list. -/
def Opens (piece : Bytes) : Prop :=
  ∃ b more, piece = b :: more ∧ isSpace b = false ∧ b ≠ 93

theorem skipSpace_cons {b : UInt8} (solid : isSpace b = false) (rest : Bytes) :
    skipSpace (b :: rest) = b :: rest := by
  simp [skipSpace, solid]

theorem Opens.skipSpace {piece : Bytes} (opens : Opens piece) (rest : Bytes) :
    skipSpace (piece ++ rest) = piece ++ rest := by
  obtain ⟨b, more, rfl, solid, _⟩ := opens
  exact skipSpace_cons solid (more ++ rest)

@[simp] theorem within_ok {α : Type} (place : Place) (a : α) : within place (.ok a) = .ok a := rfl

/-- The reader takes exactly the piece for the value, whatever closes the text behind it. -/
structure Takes {α : Type} (read : Reader α) (a : α) (piece : Bytes) : Prop where
  opens : Opens piece
  value : ∀ rest, Delimited rest → read (piece ++ rest) = .ok (a, rest)

theorem Takes.whole {α : Type} {read : Reader α} {a : α} {piece : Bytes}
    (takes : Takes read a piece) : whole read piece = .ok a := by
  have value := takes.value [] delimited_nil
  rw [List.append_nil] at value
  simp [Json.whole, value, bind, Except.bind, pure, Except.pure, Json.skipSpace]

def behindFirst (pieces : List Bytes) : Bytes :=
  pieces.flatMap (44 :: ·)

theorem joined_cons (piece : Bytes) (more : List Bytes) :
    joined (piece :: more) = piece ++ behindFirst more := by
  induction more generalizing piece with
  | nil => simp [joined, behindFirst]
  | cons next more ih =>
    rw [joined, ih next]
    · simp [behindFirst]
    · simp

theorem length_le_joined (pieces : List Bytes) : pieces.length ≤ (joined pieces).length + 1 := by
  cases pieces with
  | nil => exact Nat.zero_le _
  | cons piece more =>
    have behind : more.length ≤ (behindFirst more).length := by
      induction more with
      | nil => exact Nat.le_refl 0
      | cons next more ih =>
        simp only [behindFirst, List.flatMap_cons, List.length_append, List.length_cons] at ih ⊢
        omega
    rw [joined_cons, List.length_append, List.length_cons]
    omega

theorem delimited_behindFirst (pieces : List Bytes) {rest : Bytes} (closed : Delimited rest) :
    Delimited (behindFirst pieces ++ rest) := by
  cases pieces with
  | nil => exact closed
  | cons piece more => exact delimited_comma _

private theorem elements_behindFirst
    {α : Type} {read : Reader α} {vs : List α} {pieces : List Bytes}
    (takes : List.Forall₂ (Takes read) vs pieces) (rest : Bytes) (fuel index : Nat)
    (enough : vs.length < fuel) (later : index ≠ 0) :
    elements read fuel index (behindFirst pieces ++ 93 :: rest) = .ok (vs, rest) := by
  induction takes generalizing fuel index with
  | nil =>
    obtain ⟨fuel, rfl⟩ := Nat.exists_eq_succ_of_ne_zero (by omega : fuel ≠ 0)
    simp [behindFirst, elements, nextElement, skipSpace, isSpace, bind, Except.bind, pure,
      Except.pure]
  | @cons v piece vs pieces head tail ih =>
    obtain ⟨fuel, rfl⟩ := Nat.exists_eq_succ_of_ne_zero (by omega : fuel ≠ 0)
    have opened := head.opens.skipSpace (behindFirst pieces ++ 93 :: rest)
    have value := head.value (behindFirst pieces ++ 93 :: rest)
      (delimited_behindFirst pieces (delimited_bracket rest))
    have others := ih fuel (index + 1)
      (by simp only [List.length_cons] at enough; omega) (by omega)
    obtain ⟨b, more, rfl, _, open_⟩ := head.opens
    rw [List.cons_append] at opened value
    have next : nextElement (index = 0) (44 :: b :: (more ++ (behindFirst pieces ++ 93 :: rest))) =
        .ok (some (b :: (more ++ (behindFirst pieces ++ 93 :: rest)))) := by
      simp [nextElement, skipSpace_cons (show isSpace 44 = false by rfl), opened, later, open_]
    simp only [behindFirst, List.flatMap_cons, List.cons_append, List.append_assoc, elements]
    simp only [behindFirst] at next value others
    simp [next, value, others, bind, Except.bind, pure, Except.pure]

theorem elements_joined {α : Type} {read : Reader α} {vs : List α} {pieces : List Bytes}
    (takes : List.Forall₂ (Takes read) vs pieces) (rest : Bytes) (fuel : Nat)
    (enough : vs.length < fuel) :
    elements read fuel 0 (joined pieces ++ 93 :: rest) = .ok (vs, rest) := by
  obtain ⟨fuel, rfl⟩ := Nat.exists_eq_succ_of_ne_zero (by omega : fuel ≠ 0)
  cases takes with
  | nil =>
    simp [joined, elements, nextElement, skipSpace, isSpace, bind, Except.bind, pure, Except.pure]
  | @cons v piece vs pieces head tail =>
    have opened := head.opens.skipSpace (behindFirst pieces ++ 93 :: rest)
    have value := head.value (behindFirst pieces ++ 93 :: rest)
      (delimited_behindFirst pieces (delimited_bracket rest))
    have others := elements_behindFirst tail rest fuel 1
      (by simp only [List.length_cons] at enough; omega) (by omega)
    obtain ⟨b, more, rfl, _, open_⟩ := head.opens
    rw [List.cons_append] at opened value
    have next : nextElement true (b :: (more ++ (behindFirst pieces ++ 93 :: rest))) =
        .ok (some (b :: (more ++ (behindFirst pieces ++ 93 :: rest)))) := by
      simp [nextElement, opened, open_]
    simp [joined_cons, elements, next, value, others, bind, Except.bind, pure, Except.pure]

theorem printAll_eq (vs : List Value) : printAll vs = vs.map Value.print := by
  induction vs with
  | nil => rfl
  | cons v vs ih => simp [printAll, ih]

def printMember (member : String × Value) : Bytes :=
  printText member.1 ++ 58 :: member.2.print

theorem printMembers_eq (ms : List (String × Value)) : printMembers ms = ms.map printMember := by
  induction ms with
  | nil => rfl
  | cons m ms ih => simp [printMembers, printMember, ih]

theorem bytes_toString_ofNat (n : Nat) :
    bytes (toString (n : Int)) = asciiBytes (Nat.toDigits 10 n) :=
  bytes_repr n

theorem bytes_toString_neg {n : Nat} (positive : 0 < n) :
    bytes (toString (-(n : Int))) = 45 :: asciiBytes (Nat.toDigits 10 n) := by
  obtain ⟨m, rfl⟩ := Nat.exists_eq_succ_of_ne_zero (by omega : n ≠ 0)
  have spelled : toString (-((m + 1 : Nat) : Int)) = "-" ++ (m + 1).repr := rfl
  rw [spelled, bytes_append, bytes_repr]
  rfl

end ClipFeed.Json
