import ClipFeed.Payload.Shape
import ClipFeed.Proofs.Moment.Rfc3339
/-!
Which values have a written form: those whose moments all have one.
-/

namespace ClipFeed.Payload

open Json

theorem exists_map_iff {ε α β : Type} {f : α → β} {x : Except ε α} :
    (∃ b, x.map f = .ok b) ↔ ∃ a, x = .ok a := by
  cases x <;> simp [Except.map]

theorem exists_mapError_iff {ε ε' α : Type} {f : ε → ε'} {x : Except ε α} :
    (∃ a, x.mapError f = .ok a) ↔ ∃ a, x = .ok a := by
  cases x <;> simp [Except.mapError]

theorem exists_bind_iff {ε α β : Type} {x : Except ε α} {f : α → Except ε β} :
    (∃ b, x >>= f = .ok b) ↔ ∃ a, x = .ok a ∧ ∃ b, f a = .ok b := by
  cases x <;> simp [bind, Except.bind]

private theorem exists_mapM_iff {ε α β : Type} {f : α → Except ε β} {as : List α} :
    (∃ bs, as.mapM f = .ok bs) ↔ ∀ a ∈ as, ∃ b, f a = .ok b := by
  induction as with
  | nil => simp [pure, Except.pure]
  | cons a as ih =>
    rw [List.mapM_cons, exists_bind_iff, List.forall_mem_cons, ← ih]
    simp [exists_bind_iff, pure, Except.pure]

mutual

def Shape.moments : (s : Shape) → s.Val → List Moment
  | .int64, _ => []
  | .text, _ => []
  | .flag, _ => []
  | .moment, m => [m]
  | .optional _, .none => []
  | .optional s, some v => s.moments v
  | .list s, vs => vs.flatMap s.moments
  | .record _ fields, v => fields.moments v

def Fields.moments : (fields : Fields) → fields.Val → List Moment
  | .none, _ => []
  | .field _ _ s more, (v, vs) => s.moments v ++ more.moments vs

end

mutual

theorem exists_toJson_iff : (s : Shape) → (v : s.Val) →
    ((∃ json, s.toJson v = .ok json) ↔ ∀ m ∈ s.moments v, m.Writable)
  | .int64, _ => by simp [Shape.toJson, Shape.moments]
  | .text, _ => by simp [Shape.toJson, Shape.moments]
  | .flag, _ => by simp [Shape.toJson, Shape.moments]
  | .moment, m => by simp [Shape.toJson, Shape.moments, exists_map_iff, Moment.exists_render_iff]
  | .optional _, .none => by simp [Shape.toJson, Shape.moments]
  | .optional s, some v => exists_toJson_iff s v
  | .list s, vs => by
    rw [Shape.toJson, exists_map_iff, exists_mapM_iff, Shape.moments]
    simp only [exists_toJson_iff s, List.mem_flatMap]
    exact ⟨fun each m ⟨v, member, inside⟩ => each v member m inside,
      fun all v member m inside => all m ⟨v, member, inside⟩⟩
  | .record _ fields, v => by
    rw [Shape.toJson, exists_map_iff, exists_toMembers_iff fields v, Shape.moments]

theorem exists_toMembers_iff : (fields : Fields) → (v : fields.Val) →
    ((∃ members, fields.toMembers v = .ok members) ↔ ∀ m ∈ fields.moments v, m.Writable)
  | .none, _ => by simp [Fields.toMembers, Fields.moments]
  | .field _ _ s more, (v, vs) => by
    rw [Fields.toMembers, exists_bind_iff, Fields.moments, List.forall_mem_append,
      ← exists_toJson_iff s v, ← exists_toMembers_iff more vs]
    simp only [exists_bind_iff, pure, Except.pure]
    simp

end

/-- A value has a written form if and only if each of its moments has one. -/
theorem exists_write_iff {s : Shape} {v : s.Val} :
    (∃ bs, s.write v = .ok bs) ↔ ∀ m ∈ s.moments v, m.Writable := by
  rw [Shape.write, exists_map_iff, exists_toJson_iff]

end ClipFeed.Payload
