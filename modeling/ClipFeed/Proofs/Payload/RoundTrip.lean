import ClipFeed.Payload.Shape
import ClipFeed.Proofs.Json.Value
import ClipFeed.Proofs.Moment.Rfc3339
/-!
The written form of a value reads back as that value, for every shape in which nothing optional is
optional twice and no record has two fields of one name.
-/

namespace ClipFeed.Payload

open Text Json

def Fields.names : Fields → List String
  | .none => []
  | .field name _ _ more => name :: more.names

mutual

/-- Whether what is written for the values of a shape tells them apart. -/
def Shape.Faithful : Shape → Prop
  | .int64 => True
  | .text => True
  | .flag => True
  | .moment => True
  | .optional s => s.absent? = Option.none ∧ s.Faithful
  | .list s => s.Faithful
  | .record _ fields => fields.names.Nodup ∧ fields.Faithful

def Fields.Faithful : Fields → Prop
  | .none => True
  | .field _ _ s more => s.Faithful ∧ more.Faithful

end

theorem ne_of_isDigit {b c : UInt8} (digit : Json.isDigit b) (other : Json.isDigit c = false) :
    b ≠ c := by
  rintro rfl
  rw [digit] at other
  cases other

theorem isSpace_of_isDigit {b : UInt8} (digit : Json.isDigit b) : isSpace b = false := by
  simp [isSpace, ne_of_isDigit digit (c := 32) rfl, ne_of_isDigit digit (c := 10) rfl,
    ne_of_isDigit digit (c := 9) rfl, ne_of_isDigit digit (c := 13) rfl]

theorem takes_int64 (n : Int64) : Takes Shape.int64.read n (Value.int64 n).print := by
  have low := Int64.le_toInt n
  have high := Int64.toInt_lt n
  by_cases negative : n.toInt < 0
  · obtain ⟨m, size⟩ : ∃ m : Nat, n.toInt = -(m : Int) := ⟨n.toInt.natAbs, by omega⟩
    have positive : 0 < m := by omega
    have written : (Value.int64 n).print = 45 :: asciiBytes (Nat.toDigits 10 m) := by
      rw [Value.int64, Value.print, printInteger, size, bytes_toString_neg positive]
    have fits : int64? (-(m : Int)) = some n := by rw [← size, int64?_toInt]
    have small : ¬ (m = 0 ∨ Nat.pow 2 63 < m) := by
      have power : Nat.pow 2 63 = 9223372036854775808 := rfl
      omega
    refine ⟨⟨45, _, written, rfl, by decide⟩, ?_⟩
    intro rest closed
    have value := numeral_toDigits true (n := m) (by simp only [UInt64.size]; omega) closed
    rw [afterWhole_delimited true m closed] at value
    simp [written, Shape.read, skipSpace_cons, isSpace, value, small, fits, bind, Except.bind, pure,
      Except.pure]
  · obtain ⟨m, size⟩ : ∃ m : Nat, n.toInt = (m : Int) := ⟨n.toInt.toNat, by omega⟩
    obtain ⟨c, cs, digits⟩ := List.exists_cons_of_ne_nil (toDigits_ne_nil m)
    have digit : Json.isDigit _ :=
      isDigit_byte (toDigits_isDigit (n := m) (digits ▸ List.mem_cons_self ..))
    have written : (Value.int64 n).print = UInt8.ofNat c.toNat :: asciiBytes cs := by
      rw [Value.int64, Value.print, printInteger, size, bytes_toString_ofNat, digits,
        asciiBytes_cons]
    have fits : int64? (m : Int) = some n := by rw [← size, int64?_toInt]
    refine ⟨⟨_, _, written, isSpace_of_isDigit digit, ne_of_isDigit digit rfl⟩,
      fun rest closed => ?_⟩
    have value := numeral_toDigits false (n := m) (by simp only [UInt64.size]; omega) closed
    rw [afterWhole_delimited false m closed, digits, asciiBytes_cons] at value
    rw [List.cons_append] at value
    have plain := ne_of_isDigit digit (c := 45) rfl
    simp [written, Shape.read, skipSpace_cons, isSpace_of_isDigit digit, digit, plain, value, fits,
      bind, Except.bind, pure, Except.pure]

theorem takes_text (s : String) : Takes (readText "a string") s (printText s) := by
  refine ⟨⟨34, _, rfl, rfl, by decide⟩, ?_⟩
  intro rest _
  have value := string_quoted s rest
  simp [printText, readText, skipSpace, isSpace, value]

theorem takes_flag (b : Bool) : Takes Shape.flag.read b (Value.flag b).print := by
  cases b with
  | false => exact ⟨⟨102, _, rfl, rfl, by decide⟩, fun rest _ => rfl⟩
  | true => exact ⟨⟨116, _, rfl, rfl, by decide⟩, fun rest _ => rfl⟩

theorem takes_moment {m : Moment} {text : String} (written : m.render = .ok text) :
    Takes Shape.moment.read m (printText text) := by
  refine ⟨⟨34, _, rfl, rfl, by decide⟩, ?_⟩
  intro rest _
  have value := string_quoted text rest
  simp [printText, Shape.read, readText, skipSpace, isSpace, value, Moment.parse_render written,
    bind, Except.bind, pure, Except.pure]

theorem map_eq_ok {ε α β : Type} {f : α → β} {x : Except ε α} {b : β} (done : x.map f = .ok b) :
    ∃ a, x = .ok a ∧ f a = b := by
  cases x with
  | error e => cases done
  | ok a => exact ⟨a, rfl, Except.ok.inj done⟩

theorem head_print {s : Shape} {v : s.Val} {json : Value} (written : s.toJson v = .ok json)
    (present : s.absent? = Option.none) : json.print.head? ≠ some 110 := by
  cases s with
  | int64 =>
    cases written
    obtain ⟨b, more, spelled, solid, _⟩ := (takes_int64 v).opens
    have value := (takes_int64 v).value [] delimited_nil
    rw [List.append_nil, spelled] at value
    rw [Value.int64] at spelled
    rw [Value.int64, spelled]
    rintro null
    obtain rfl := Option.some.inj null
    simp [Shape.read, skipSpace_cons solid, Json.isDigit, mismatch] at value
  | text => cases written; simp [Value.print, printText]
  | flag => cases written; cases v <;> simp [Value.print]
  | moment =>
    obtain ⟨text, _, rfl⟩ := map_eq_ok written
    simp [Value.print, printText]
  | optional s => cases present
  | list s =>
    obtain ⟨items, _, rfl⟩ := map_eq_ok written
    simp [Value.print]
  | record name fields =>
    obtain ⟨members, _, rfl⟩ := map_eq_ok written
    simp [Value.print]

theorem takes_null {s : Shape} : Takes (Shape.optional s).read Option.none Value.null.print :=
  ⟨⟨110, _, rfl, rfl, by decide⟩, fun rest _ => rfl⟩

theorem takes_some {s : Shape} {v : s.Val} {piece : Bytes} (takes : Takes s.read v piece)
    (other : piece.head? ≠ some 110) : Takes (Shape.optional s).read (some v) piece := by
  refine ⟨takes.opens, ?_⟩
  intro rest closed
  have value := takes.value rest closed
  obtain ⟨b, more, rfl, solid, _⟩ := takes.opens
  rw [Shape.read, List.cons_append, skipSpace_cons solid]
  rw [List.cons_append] at value
  split
  · next rest' same =>
    obtain ⟨rfl, _⟩ := List.cons.inj same
    exact absurd rfl other
  · simp [value, bind, Except.bind, pure, Except.pure]

theorem mapM_eq_ok {ε α β : Type} {f : α → Except ε β} {as : List α} {bs : List β}
    (done : as.mapM f = .ok bs) : List.Forall₂ (fun a b => f a = .ok b) as bs := by
  induction as generalizing bs with
  | nil =>
    cases done
    exact .nil
  | cons a as ih =>
    rw [List.mapM_cons] at done
    cases head : f a with
    | error e => simp [head, bind, Except.bind] at done
    | ok b =>
      cases tail : as.mapM f with
      | error e => simp [head, tail, bind, Except.bind] at done
      | ok rest =>
        simp only [head, tail, bind, Except.bind, pure, Except.pure] at done
        obtain rfl := Except.ok.inj done
        exact .cons head (ih tail)

theorem takes_list {s : Shape} {vs : List s.Val} {items : List Value}
    (takes : List.Forall₂ (fun v json => Takes s.read v json.print) vs items) :
    Takes (Shape.list s).read vs (Value.list items).print := by
  have printed : List.Forall₂ (Takes s.read) vs (printAll items) := by
    rw [printAll_eq, List.forall₂_map_right_iff]
    exact takes
  refine ⟨⟨91, _, by rw [Value.print]; rfl, rfl, by decide⟩, ?_⟩
  intro rest _
  have long := length_le_joined (printAll items)
  have value := elements_joined printed rest
    ((joined (printAll items) ++ 93 :: rest).length + 1) (by
      rw [printed.length_eq, List.length_append, List.length_cons]; omega)
  simp only [Value.print, Shape.read, List.cons_append, List.append_assoc, List.nil_append,
    skipSpace_cons (show isSpace 91 = false by rfl)]
  exact value

/-- The draft in which every field has been read. -/
def Fields.full : (fields : Fields) → fields.Val → fields.Draft
  | .none, _ => ()
  | .field _ _ _ more, (v, vs) => (some v, more.full vs)

theorem finish_full (fields : Fields) (v : fields.Val) : fields.finish (fields.full v) = .ok v := by
  induction fields using Fields.rec (motive_1 := fun _ => True) with
  | none => rfl
  | field name lenient s more _ ih =>
    obtain ⟨v, vs⟩ := v
    simp [Fields.finish, Fields.full, ih vs, Except.map]
  | _ => trivial

/-- The way from one draft to another along written members. -/
inductive Fills {δ : Type} (assign : String → δ → Option (Except Fault (Reader δ))) :
    δ → List (String × Value) → δ → Prop where
  | nil (draft : δ) : Fills assign draft [] draft
  | cons {draft next last : δ} {name : String} {json : Value} {more : List (String × Value)}
      (read : Reader δ) (field : assign name draft = some (.ok read))
      (takes : Takes read next json.print) (others : Fills assign next more last) :
      Fills assign draft ((name, json) :: more) last

theorem membersInto_behindFirst {δ : Type}
    {assign : String → δ → Option (Except Fault (Reader δ))} {draft last : δ}
    {members : List (String × Value)} (fills : Fills assign draft members last) (rest : Bytes)
    (fuel : Nat) (enough : members.length < fuel) :
    membersInto assign fuel false draft (behindFirst (printMembers members) ++ 125 :: rest) =
      .ok (last, 125 :: rest) := by
  induction fills generalizing fuel with
  | nil draft =>
    obtain ⟨fuel, rfl⟩ := Nat.exists_eq_succ_of_ne_zero (by omega : fuel ≠ 0)
    simp [behindFirst, printMembers, membersInto, nextName, skipSpace, isSpace, bind, Except.bind,
      pure, Except.pure, Except.mapError]
  | @cons draft next last name json more read field takes others ih =>
    obtain ⟨fuel, rfl⟩ := Nat.exists_eq_succ_of_ne_zero (by omega : fuel ≠ 0)
    have later := ih fuel (by simp only [List.length_cons] at enough; omega)
    have value := takes.value (behindFirst (printMembers more) ++ 125 :: rest)
      (delimited_behindFirst _ (delimited_brace rest))
    have key := string_quoted name
      (58 :: (json.print ++ (behindFirst (printMembers more) ++ 125 :: rest)))
    simp only [behindFirst] at later value key
    simp [behindFirst, printMembers, printText, membersInto, nextName, skipSpace, isSpace, bind,
      Except.bind, Except.mapError, key, field, later, value, colon]

theorem membersInto_joined {δ : Type}
    {assign : String → δ → Option (Except Fault (Reader δ))} {draft last : δ}
    {members : List (String × Value)} (fills : Fills assign draft members last) (rest : Bytes)
    (fuel : Nat) (enough : members.length < fuel) :
    membersInto assign fuel true draft (joined (printMembers members) ++ 125 :: rest) =
      .ok (last, 125 :: rest) := by
  obtain ⟨fuel, rfl⟩ := Nat.exists_eq_succ_of_ne_zero (by omega : fuel ≠ 0)
  cases fills with
  | nil =>
    simp [joined, printMembers, membersInto, nextName, skipSpace, isSpace, bind, Except.bind, pure,
      Except.pure, Except.mapError]
  | @cons _ next _ name json more read field takes others =>
    have later := membersInto_behindFirst others rest fuel
      (by simp only [List.length_cons] at enough; omega)
    have value := takes.value (behindFirst (printMembers more) ++ 125 :: rest)
      (delimited_behindFirst _ (delimited_brace rest))
    have key := string_quoted name
      (58 :: (json.print ++ (behindFirst (printMembers more) ++ 125 :: rest)))
    simp [joined_cons, printMembers, printText, membersInto, nextName, skipSpace, isSpace, bind,
      Except.bind, Except.mapError, key, field, later, value, colon]

/-- Members that name other fields fill the rest of a draft as if the first field were not there. -/
theorem Fills.behind (name : String) (lenient : Bool) {s : Shape} {more : Fields}
    {draft last : more.Draft} {members : List (String × Value)} (first : Option s.Val)
    (fills : Fills more.assign draft members last) (others : ∀ m ∈ members, m.1 ≠ name) :
    Fills (Fields.field name lenient s more).assign (first, draft) members (first, last) := by
  induction fills with
  | nil draft => exact .nil _
  | @cons draft next last key json rest read field takes _ ih =>
    have other := others (key, json) (List.mem_cons_self ..)
    refine .cons (fun bs => (fun found => ((first, found.1), found.2)) <$> read bs) ?_
      ⟨takes.opens, fun tail closed => ?_⟩
      (ih fun m member => others m (List.mem_cons_of_mem _ member))
    · simp only at other
      simp [Fields.assign, other, field, Except.map]
    · rw [takes.value tail closed]
      rfl

theorem names_toMembers {fields : Fields} {v : fields.Val} {members : List (String × Value)}
    (written : fields.toMembers v = .ok members) : members.map (·.1) = fields.names := by
  induction fields using Fields.rec (motive_1 := fun _ => True) generalizing members with
  | none => cases written; rfl
  | field name lenient s more _ ih =>
    obtain ⟨v, vs⟩ := v
    simp only [Fields.toMembers, bind, Except.bind] at written
    split at written
    · cases written
    · split at written
      · cases written
      · next tail rest =>
        cases written
        simp [Fields.names, ih rest]
  | _ => trivial

theorem takes_record {name : String} {fields : Fields} {v : fields.Val}
    {members : List (String × Value)}
    (fills : Fills fields.assign fields.blank members (fields.full v)) :
    Takes (Shape.record name fields).read v (Value.object members).print := by
  refine ⟨⟨123, _, by rw [Value.print]; rfl, rfl, by decide⟩, ?_⟩
  intro rest _
  have long := length_le_joined (printMembers members)
  rw [printMembers_eq, List.length_map, ← printMembers_eq] at long
  have value := membersInto_joined fills rest
    ((joined (printMembers members) ++ 125 :: rest).length + 1) (by
      rw [List.length_append, List.length_cons]; omega)
  have other : (123 : UInt8) ≠ 91 := by decide
  simp only [Value.print, Shape.read, List.cons_append, List.append_assoc, List.nil_append,
    skipSpace_cons (show isSpace 123 = false by rfl), other, ↓reduceIte, value, finish_full]
  rfl

mutual

/-- What is written for a value is taken for it. -/
theorem takes_written : (s : Shape) → s.Faithful → {v : s.Val} → {json : Value} →
    s.toJson v = .ok json → Takes s.read v json.print
  | .int64, _, v, _, written => by
    cases written
    exact takes_int64 v
  | .text, _, v, _, written => by
    cases written
    exact takes_text v
  | .flag, _, v, _, written => by
    cases written
    exact takes_flag v
  | .moment, _, v, _, written => by
    obtain ⟨text, rendered, rfl⟩ := map_eq_ok written
    exact takes_moment rendered
  | .optional s, faithful, .none, _, written => by
    cases written
    exact takes_null
  | .optional s, faithful, some v, _, written =>
    takes_some (takes_written s faithful.2 written) (head_print (s := s) written faithful.1)
  | .list s, faithful, vs, _, written => by
    obtain ⟨items, each, rfl⟩ := map_eq_ok written
    exact takes_list ((mapM_eq_ok each).imp fun _ _ done => takes_written s faithful done)
  | .record name fields, faithful, v, _, written => by
    obtain ⟨members, each, rfl⟩ := map_eq_ok written
    exact takes_record (fills_written fields faithful.1 faithful.2 each)

theorem fills_written : (fields : Fields) → fields.names.Nodup → fields.Faithful →
    {v : fields.Val} → {members : List (String × Value)} → fields.toMembers v = .ok members →
    Fills fields.assign fields.blank members (fields.full v)
  | .none, _, _, _, _, written => by
    cases written
    exact .nil _
  | .field name lenient s more, distinct, faithful, (v, vs), members, written => by
    simp only [Fields.toMembers, bind, Except.bind] at written
    split at written
    · cases written
    · next json head =>
      split at written
      · cases written
      · next tail rest =>
        cases written
        have takes := takes_written s faithful.1 head
        have apart := List.nodup_cons.mp distinct
        have others := (fills_written more apart.2 faithful.2 rest).behind name lenient
          (some v) fun m member same => apart.1 (by
            rw [← same, ← names_toMembers rest]
            exact List.mem_map_of_mem member)
        refine .cons (fun bs => do
          let (v, rest) ← s.read bs
          return ((some v, more.blank), rest)) ?_ ⟨takes.opens, fun tail closed => ?_⟩ others
        · simp [Fields.assign, Fields.blank]
        · simp [takes.value tail closed, bind, Except.bind, pure, Except.pure]

end

/-- The bytes of a value read back as that value. -/
theorem parse_write {s : Shape} (faithful : s.Faithful) {v : s.Val} {bs : Bytes}
    (written : s.write v = .ok bs) : s.parse bs = .ok v := by
  obtain ⟨json, made, rfl⟩ := map_eq_ok written
  exact (takes_written s faithful made).whole

theorem write_ne_nil {s : Shape} (faithful : s.Faithful) {v : s.Val} {bs : Bytes}
    (written : s.write v = .ok bs) : bs ≠ [] := by
  obtain ⟨json, made, rfl⟩ := map_eq_ok written
  obtain ⟨b, more, spelled, _⟩ := (takes_written s faithful made).opens
  simp [spelled]

end ClipFeed.Payload
