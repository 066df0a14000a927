import Mathlib.Data.String.Basic
/-!
Texts split at one character. The pieces are those of the list of characters, so a split text can be
told from the text.
-/

namespace ClipFeed.Text

open String

/-- A split that has come to the end of `m` and has left the pieces `acc` behind goes on with the
rest `r` as a list of characters would. -/
theorem splitOnAux_singleton {s sep : String} {c : Char} (sign : sep = ofList [c])
    (r : List Char) : ∀ (l m : List Char) (acc : List String), s = ofList (l ++ m ++ r) →
      splitOnAux s sep ⟨utf8Len l⟩ ⟨utf8Len (l ++ m)⟩ 0 acc =
        acc.reverse ++ (List.splitOnPPrepend (· == c) r m.reverse).map ofList := by
  have signed : (0 : Pos.Raw).get sep = c := sign ▸ get_of_valid [] [c]
  have beyond : (0 : Pos.Raw).next sep = ⟨utf8Len [c]⟩ := sign ▸ next_of_valid [] c []
  have single : (⟨utf8Len [c]⟩ : Pos.Raw).atEnd sep := sign ▸ (atEnd_of_valid [c] []).mpr rfl
  induction r with
  | nil =>
    intro l m acc whole
    have ended : (⟨utf8Len (l ++ m)⟩ : Pos.Raw).atEnd s := by
      rw [whole, atEnd_of_valid]
    have piece : Pos.Raw.extract s ⟨utf8Len l⟩ ⟨utf8Len (l ++ m)⟩ = ofList m := by
      rw [whole, utf8Len_append, extract_of_valid]
    unfold splitOnAux
    rw [if_pos ended, piece]
    simp
  | cons d r ih =>
    intro l m acc whole
    have more : ¬ (⟨utf8Len (l ++ m)⟩ : Pos.Raw).atEnd s := by
      rw [whole, atEnd_of_valid]
      exact List.cons_ne_nil d r
    have here : (⟨utf8Len (l ++ m)⟩ : Pos.Raw).get s = d :=
      whole ▸ get_of_valid (l ++ m) (d :: r)
    have past : (⟨utf8Len (l ++ m)⟩ : Pos.Raw).next s = ⟨utf8Len (l ++ m ++ [d])⟩ := by
      rw [whole, next_of_valid, utf8Len_append (l ++ m), utf8Len_cons, utf8Len_nil, Nat.zero_add]
    have piece : Pos.Raw.extract s ⟨utf8Len l⟩ ⟨utf8Len (l ++ m)⟩ = ofList m := by
      rw [whole, utf8Len_append, extract_of_valid]
    unfold splitOnAux
    rw [if_neg more, here, signed, past, beyond, List.splitOnPPrepend_cons_eq_if]
    by_cases same : d = c
    · subst same
      have back : (⟨utf8Len (l ++ m ++ [d])⟩ : Pos.Raw).unoffsetBy ⟨utf8Len [d]⟩ =
          ⟨utf8Len (l ++ m)⟩ := by
        rw [Pos.Raw.unoffsetBy, utf8Len_append (l ++ m), Nat.add_sub_cancel]
      have behind := ih (l ++ m ++ [d]) [] (ofList m :: acc) (by simp [whole])
      rw [List.append_nil] at behind
      simp only [beq_self_eq_true, if_true, single, back, piece, behind]
      simp
    · have stay : (⟨utf8Len (l ++ m)⟩ : Pos.Raw).unoffsetBy 0 = ⟨utf8Len (l ++ m)⟩ := rfl
      have behind := ih l (m ++ [d]) acc (by simp [whole])
      rw [← List.append_assoc] at behind
      simp only [beq_iff_eq, same, if_false, stay, past, behind]
      simp

theorem splitOn_singleton (s : String) (c : Char) :
    s.splitOn (ofList [c]) = (s.toList.splitOn c).map ofList := by
  have solid : (ofList [c] == "") = false := by simp
  rw [splitOn, solid]
  exact splitOnAux_singleton rfl s.toList [] [] [] (by simp)

end ClipFeed.Text
