import PageEditor.Proofs.StableDecoding
import PageEditor.Proofs.WrittenValues

/-!
How deep the values are that a reader gives, and that a page is not written deeper than it was read.
-/

namespace PageEditor

namespace Json

section Containers

variable {read : List Char → Except Stop (Json × List Char)}

/-- Every item of a list was read. -/
theorem read_of_mem_readItems {fuel : Nat} {first : Bool} {text rest : List Char} {items : List Json}
    (taken : readItems read fuel first text = .ok (items, rest)) :
    ∀ item ∈ items, ∃ part left, read part = .ok (item, left) := by
  induction fuel generalizing first text items with
  | zero => cases taken
  | succ fuel ih =>
    rw [readItems, bind_eq_ok] at taken
    obtain ⟨next, _, taken⟩ := taken
    cases next with
    | closed closing =>
      cases taken
      exact List.forall_mem_nil _
    | part text =>
      obtain ⟨⟨item, left⟩, own, taken⟩ := bind_eq_ok.mp taken
      obtain ⟨⟨others, after⟩, later, answered⟩ := bind_eq_ok.mp taken
      cases answered
      intro found member
      rcases List.mem_cons.mp member with rfl | member
      · exact ⟨text, left, own⟩
      · exact ih later found member

theorem read_of_mem_readMembers {fuel : Nat} {first : Bool} {text rest : List Char} {members : List (String × Json)}
    (taken : readMembers read fuel first text = .ok (members, rest)) :
    ∀ member ∈ members, ∃ part left, read part = .ok (member.2, left) := by
  induction fuel generalizing first text members with
  | zero => cases taken
  | succ fuel ih =>
    rw [readMembers, bind_eq_ok] at taken
    obtain ⟨next, _, taken⟩ := taken
    cases next with
    | closed closing =>
      cases taken
      exact List.forall_mem_nil _
    | part text =>
      obtain ⟨⟨key, afterKey⟩, _, taken⟩ := bind_eq_ok.mp taken
      obtain ⟨part, _, taken⟩ := bind_eq_ok.mp taken
      obtain ⟨⟨value, left⟩, own, taken⟩ := bind_eq_ok.mp taken
      obtain ⟨⟨others, after⟩, later, answered⟩ := bind_eq_ok.mp taken
      cases answered
      intro found member
      rcases List.mem_cons.mp member with rfl | member
      · exact ⟨part, left, own⟩
      · exact ih later found member

end Containers

/-- A value that is no container. -/
def Scalar : Json → Prop
  | .array _ | .object _ => False
  | _ => True

theorem scalar_of_readScalar {text rest : List Char} {value : Json} (taken : readScalar text = .ok (value, rest)) :
    Scalar value := by
  unfold readScalar at taken
  repeat' split at taken
  all_goals first
    | cases taken
    | obtain ⟨_, _, answered⟩ := bind_eq_ok.mp taken
      cases answered
      trivial

/-- A value that was read is a scalar, or a container of values that were read one level deeper. -/
theorem readValue_induct {motive : Nat → Json → Prop} (scalar : ∀ {depth value}, Scalar value → motive depth value)
    (array : ∀ {depth items}, (∀ item ∈ items, motive depth item) → motive (depth + 1) (.array items))
    (object : ∀ {depth members}, (Entries.keys members).Nodup → (∀ member ∈ members, motive depth member.2) →
      motive (depth + 1) (.object members))
    {size depth : Nat} {text rest : List Char} {value : Json} (taken : readValue size depth text = .ok (value, rest)) :
    motive depth value := by
  induction depth generalizing text rest value with
  | zero =>
    unfold readValue at taken
    split at taken
    next => cases taken
    next => cases taken
    next => exact scalar (scalar_of_readScalar taken)
  | succ depth ih =>
    unfold readValue at taken
    split at taken
    next =>
      obtain ⟨⟨items, after⟩, listed, answered⟩ := bind_eq_ok.mp taken
      cases answered
      refine array fun item member => ?_
      obtain ⟨part, left, own⟩ := read_of_mem_readItems listed item member
      exact ih own
    next =>
      obtain ⟨⟨members, after⟩, listed, answered⟩ := bind_eq_ok.mp taken
      cases answered
      refine object (Entries.nodup_keys_setAll members List.nodup_nil) fun member present => ?_
      have source := (Entries.mem_of_mem_setAll present).resolve_left List.not_mem_nil
      obtain ⟨part, left, own⟩ := read_of_mem_readMembers listed member source
      exact ih own
    next => exact scalar (scalar_of_readScalar taken)

/-- A value that was read has its containers within the depth it was read at, and each key of an object once. -/
theorem plain_of_readValue {size depth : Nat} {text rest : List Char} {value : Json}
    (taken : readValue size depth text = .ok (value, rest)) (whole : Whole value) : Plain depth value := by
  refine readValue_induct (motive := fun depth value => Whole value → Plain depth value) ?_ ?_ ?_ taken whole
  · intro depth value scalar whole
    cases whole with
    | null => exact .null
    | bool value => exact .bool value
    | integer value fits => exact .integer value fits
    | string text => exact .string text
    | array | object => exact scalar.elim
  · intro depth items plain whole
    cases whole with
    | array each => exact .array fun item member => plain item member (each item member)
  · intro depth members distinct plain whole
    cases whole with
    | object each => exact .object distinct fun member present => plain member present (each member present)

theorem readAll_eq_ok {α : Type} {read : List Char → Except Stop (α × List Char)} {text : String} {value : α} :
    readAll read text = .ok value ↔ ∃ rest, read text.toList = .ok (value, rest) ∧ finish rest = .ok () := by
  unfold readAll
  cases taken : read text.toList with
  | error => simp [bind, Except.bind, Document.mapError_error]
  | ok result =>
    obtain ⟨found, rest⟩ := result
    cases finished : finish rest with
    | error => simp [bind, Except.bind, Document.mapError_error, finished]
    | ok => simp [bind, Except.bind, pure, Except.pure, Document.mapError_ok, finished]

theorem plain_of_parse {text : String} {value : Json} (parsed : parse text = .ok value) (whole : Whole value) :
    Plain depthLimit value := by
  obtain ⟨rest, taken, _⟩ := readAll_eq_ok.mp parsed
  exact plain_of_readValue taken whole

end Json

end PageEditor
