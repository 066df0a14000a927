import ClipFeed.Http.Layers
import ClipFeed.Proofs.Text.Ascii
import ClipFeed.Proofs.Text.Blank
import ClipFeed.Proofs.Text.Decimal
/-!
Identifiers of requests. One that was forwarded is kept, trimmed, if it is plain text that is
neither blank nor too long. What is left of plain text is plain, so a kept identifier is again the
value of a header, as one that was minted is, and a response that is marked with a value has no
other of that name.
-/

namespace ClipFeed

namespace Text

private theorem ofBytes?_eq_some_iff {bs : Bytes} {s : String} :
    ofBytes? bs = some s ↔ bytes s = bs := by
  constructor
  · intro read
    unfold ofBytes? String.fromUTF8? at read
    split at read
    · obtain rfl := Option.some.inj read
      rfl
    · cases read
  · rintro rfl
    exact ofBytes?_bytes s

/-- What is left of a text stands within it. -/
theorem bytes_trim_within (s : String) : bytes (trim s) <:+: bytes s := by
  obtain ⟨before, behind, _, _, split⟩ := exists_around_trimChars s.toList
  have around : String.ofList before ++ trim s ++ String.ofList behind = s := by
    rw [trim, ← String.ofList_append, ← String.ofList_append, ← split, String.ofList_toList]
  refine ⟨bytes (String.ofList before), bytes (String.ofList behind), ?_⟩
  rw [← bytes_append, ← bytes_append, around]

private theorem length_bytes {s : String} (ascii : ∀ b ∈ bytes s, b.toNat < 128) :
    (bytes s).length = s.length := by
  have spelled := bytes_injective (bytes_spelled ascii)
  calc (bytes s).length
    _ = ((bytes s).map fun b => Char.ofNat b.toNat).length := (List.length_map _).symm
    _ = s.length := by rw [← String.length_ofList, spelled]

end Text

namespace Http

open Text

def Plain (b : UInt8) : Prop :=
  (33 ≤ b ∧ b ≤ 126) ∨ b = 32 ∨ b = 9

private theorem isPlain_iff {b : UInt8} : isPlain b = true ↔ Plain b := by
  simp only [isPlain, Plain, Bool.or_eq_true, Bool.and_eq_true, decide_eq_true_eq, beq_iff_eq,
    UInt8.le_iff_toNat_le, UInt8.lt_iff_toNat_lt, ← UInt8.toNat_inj]
  simp only [UInt8.reduceToNat]
  omega

theorem Plain.ascii {b : UInt8} (plain : Plain b) : b.toNat < 128 := by
  simp only [Plain, UInt8.le_iff_toNat_le, ← UInt8.toNat_inj, UInt8.reduceToNat] at plain
  omega

theorem Plain.isHeaderByte {b : UInt8} (plain : Plain b) : isHeaderByte b = true := by
  simp only [Http.isHeaderByte, Plain, Bool.or_eq_true, Bool.and_eq_true, decide_eq_true_eq,
    beq_iff_eq, bne_iff_ne, UInt8.le_iff_toNat_le, ne_eq, ← UInt8.toNat_inj,
    UInt8.reduceToNat] at plain ⊢
  omega

private theorem plainText?_eq_some_iff {value : Bytes} {text : String} :
    plainText? value = some text ↔ (∀ b ∈ value, Plain b) ∧ bytes text = value := by
  rw [plainText?, Option.ite_none_right_eq_some, List.all_eq_true, ofBytes?_eq_some_iff]
  simp only [isPlain_iff]

/-- Plain text can be written as the value of a header. -/
theorem headerValue?_of_plain {s : String} (plain : ∀ b ∈ bytes s, Plain b) :
    headerValue? s = some (bytes s) := by
  rw [headerValue?, if_pos]
  exact List.all_eq_true.mpr fun b member => (plain b member).isHeaderByte

namespace Outbound

/-- A header that is given a value has this value alone. -/
theorem values_insert {name : String} (lower : name.toLower = name) (m : Outbound)
    (value : Bytes) : (m.insert name value).values name = [value] := by
  have others : (m.headers.filter fun h => h.1.toLower != name).filter
      (fun h => h.1.toLower == name) = [] := by
    rw [List.filter_filter, List.filter_eq_nil_iff]
    intro h _
    simp
  simp [values, insert, List.filter_append, others, lower]

end Outbound

/-- A request forwards an identifier: the first header of the name holds it as plain text, with
nothing but blanks around it, and it has between one and 64 bytes. -/
def Request.Forwards (r : Request) (id : String) : Prop :=
  ∃ value text, r.header? Exchange.idHeader = some value ∧ (∀ b ∈ value, Plain b) ∧
    bytes text = value ∧ ¬ Blank text ∧ id = trim text ∧ (bytes id).length ≤ 64

/-- How identifiers are minted: they are written in hexadecimal digits and hyphens. -/
def Minted (id : String) : Prop :=
  ∀ c ∈ id.toList, c.isDigit ∨ c ∈ ['a', 'b', 'c', 'd', 'e', 'f'] ∨ c = '-'

instance (id : String) : Decidable (Minted id) :=
  List.decidableBAll _ id.toList

variable {r : Request} {id : String}

theorem Request.Forwards.plain (forwards : r.Forwards id) : ∀ b ∈ bytes id, Plain b := by
  obtain ⟨_, text, _, plain, rfl, _, rfl, _⟩ := forwards
  exact fun b member => plain b ((bytes_trim_within text).subset member)

/-- What is kept of a header: its text trimmed, if it is not blank and not too long. -/
theorem forwardedId?_eq_trim_iff : Exchange.forwardedId? r = some id ↔
    ∃ value text, r.header? Exchange.idHeader = some value ∧ plainText? value = some text ∧
      id = trim text ∧ id ≠ "" ∧ id.length ≤ 64 := by
  have kept : Exchange.forwardedId? r = some id ↔
      ((r.header? Exchange.idHeader).bind plainText?).map trim = some id ∧ id ≠ "" ∧
        id.length ≤ 64 := by
    unfold Exchange.forwardedId?
    cases ((r.header? Exchange.idHeader).bind plainText?).map trim with
    | none => simp
    | some found =>
      simp only [Option.ite_none_right_eq_some, Option.some.injEq, Bool.and_eq_true,
        Bool.not_eq_true', String.isEmpty_eq_false_iff, decide_eq_true_eq]
      constructor
      · rintro ⟨fits, rfl⟩
        exact ⟨rfl, fits⟩
      · rintro ⟨rfl, fits⟩
        exact ⟨fits, rfl⟩
  rw [kept]
  constructor
  · rintro ⟨named, fits⟩
    obtain ⟨text, held, trimmed⟩ := Option.map_eq_some_iff.mp named
    obtain ⟨value, given, read⟩ := Option.bind_eq_some_iff.mp held
    exact ⟨value, text, given, read, trimmed.symm, fits⟩
  · rintro ⟨value, text, given, read, rfl, fits⟩
    exact ⟨by rw [given, Option.bind_some, read, Option.map_some], fits⟩

/-- Exactly what is forwarded is kept. -/
theorem forwardedId?_eq_some_iff : Exchange.forwardedId? r = some id ↔ r.Forwards id := by
  rw [forwardedId?_eq_trim_iff, Request.Forwards]
  refine exists_congr fun value => exists_congr fun text => and_congr_right fun _ => ?_
  rw [plainText?_eq_some_iff, and_assoc]
  refine and_congr_right fun plain => and_congr_right fun written => ?_
  have single : ∀ b ∈ bytes (trim text), b.toNat < 128 :=
    fun b member => (plain b (written ▸ (bytes_trim_within text).subset member)).ascii
  constructor
  · rintro ⟨rfl, solid, short⟩
    exact ⟨mt trim_eq_empty_iff.mpr solid, rfl, (length_bytes single).trans_le short⟩
  · rintro ⟨solid, rfl, short⟩
    exact ⟨rfl, mt trim_eq_empty_iff.mp solid, (length_bytes single).symm.trans_le short⟩

theorem forwardedId?_eq_none_iff :
    Exchange.forwardedId? r = none ↔ ∀ id, ¬ r.Forwards id := by
  simp only [← forwardedId?_eq_some_iff, Option.eq_none_iff_forall_ne_some]

theorem Minted.plain (minted : Minted id) : ∀ b ∈ bytes id, Plain b := by
  have visible : ∀ c ∈ id.toList, 33 ≤ c.toNat ∧ c.toNat ≤ 126 := by
    intro c member
    rcases minted c member with digit | letter | rfl
    · have := toNat_of_isDigit digit
      omega
    · simp only [List.mem_cons, List.not_mem_nil, or_false] at letter
      rcases letter with rfl | rfl | rfl | rfl | rfl | rfl <;> decide
    · decide
  intro b member
  rw [← String.ofList_toList (s := id), bytes_ofList_ascii fun c member => by
    have := visible c member
    omega] at member
  obtain ⟨c, present, rfl⟩ := List.mem_map.mp member
  have := visible c present
  left
  simp only [UInt8.le_iff_toNat_le, UInt8.toNat_ofNat', UInt8.reduceToNat]
  omega

end Http

end ClipFeed
