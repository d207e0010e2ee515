import Mathlib.Tactic.SplitIfs
import PageEditor.PropValue

/-!
Reading back what was written of prop values and actions. The writer has one form for each kind of
value and the reader takes several, so only what was read is written in a form that means the same. A
value nobody could read is written as it stood, and is as unreadable as before.
-/

namespace PageEditor

namespace MessageKind

theorem name_of_ofName? {name : String} {kind : MessageKind} (found : ofName? name = some kind) : kind.name = name := by
  unfold ofName? at found
  repeat' split at found
  all_goals grind [MessageKind.name]

theorem isIdentifier_of_ofName? {name : String} {kind : MessageKind} (found : ofName? name = some kind) :
    Text.isIdentifier name = true := by
  unfold ofName? at found
  split_ifs at found with success error info warning loading identifier
  · exact success ▸ rfl
  · exact error ▸ rfl
  · exact info ▸ rfl
  · exact warning ▸ rfl
  · exact loading ▸ rfl
  · exact identifier

def Named (kind : MessageKind) : Prop := ofName? kind.name = some kind

theorem named_of_ofName? {name : String} {kind : MessageKind} (found : ofName? name = some kind) : kind.Named := by
  rw [Named, name_of_ofName? found]
  exact found

end MessageKind

namespace Action

theorem id?_ofId (id : ComponentId) : Json.id? (.number (.ofId id)) = some id := by
  simp [Json.id?, Json.Number.ofId]

/-- An action the reader can have made of something it understood. -/
def Understood : Action → Prop
  | .callMethod .. | .domOperation .. => True
  | .showMessage kind _ => kind.Named
  | .unsupported _ => False

theorem named_of_messageConfig? {config : Json} {kind : MessageKind} {text : String}
    (decoded : messageConfig? config = some (kind, text)) : kind.Named := by
  unfold messageConfig? at decoded
  split at decoded
  next members =>
    simp only [Option.bind_eq_bind, Option.bind_eq_some_iff] at decoded
    obtain ⟨_, _, name, _, known, found, answered⟩ := decoded
    have same : known = kind := by
      split at answered <;> simp [Option.bind_eq_some_iff] at answered
      · exact answered.2
      · exact answered.1
    exact same ▸ MessageKind.named_of_ofName? found
  next =>
    simp only [Option.bind_eq_bind, Option.bind_eq_some_iff] at decoded
    obtain ⟨name, _, known, found, answered⟩ := decoded
    obtain ⟨rfl, _⟩ := Prod.mk.inj (Option.some.inj answered)
    exact MessageKind.named_of_ofName? found
  next =>
    simp only [Option.bind_eq_bind, Option.bind_eq_some_iff] at decoded
    obtain ⟨name, _, known, found, _, _, answered⟩ := decoded
    obtain ⟨rfl, _⟩ := Prod.mk.inj (Option.some.inj answered)
    exact MessageKind.named_of_ofName? found
  next => cases decoded

theorem understood_of_decode? {value : Json} {action : Action} (decoded : decode? value = some action) :
    action.Understood := by
  unfold decode? at decoded
  split at decoded
  next members =>
    split at decoded
    next kind typed =>
      simp only [Option.bind_eq_bind] at decoded
      split at decoded
      · simp only [Option.bind_eq_some_iff] at decoded
        obtain ⟨_, _, ⟨target, method⟩, _, answered⟩ := decoded
        cases answered
        trivial
      · split at decoded
        · simp only [domOperation?, Option.bind_eq_bind, Option.bind_eq_some_iff] at decoded
          obtain ⟨_, _, _, _, ⟨_, _⟩, _, target, _, operation, _, answered⟩ := decoded
          cases answered
          trivial
        · split at decoded
          · simp only [Option.bind_eq_some_iff] at decoded
            obtain ⟨_, _, ⟨known, text⟩, configured, answered⟩ := decoded
            cases answered
            exact named_of_messageConfig? configured
          · cases decoded
    next => cases decoded
  next => cases decoded

theorem decode?_toJson {action : Action} (understood : action.Understood) : decode? action.toJson = some action := by
  cases action with
  | callMethod target method =>
    simp [toJson, decode?, List.lookup_cons, methodConfig?, id?_ofId, Json.string?]
  | domOperation target operation =>
    simp [toJson, decode?, List.lookup_cons, domOperation?, domConfig?, optional?, id?_ofId, Json.string?]
  | showMessage kind text =>
    have known : MessageKind.ofName? kind.name = some kind := understood
    simp [toJson, decode?, List.lookup_cons, messageConfig?, Json.string?, known]
  | unsupported value => cases understood

theorem ofJson_toJson_ofJson (value : Json) : ofJson (ofJson value).toJson = ofJson value := by
  cases decoded : decode? value with
  | none => simp [ofJson, decoded, toJson]
  | some action =>
    have again := decode?_toJson (understood_of_decode? decoded)
    simp [ofJson, decoded, again]

theorem toJson_of_unsupported {value kept : Json} (unread : ofJson value = .unsupported kept) :
    (ofJson value).toJson = value := by
  cases decoded : decode? value with
  | none => simp [ofJson, decoded, toJson]
  | some action =>
    have understood := understood_of_decode? decoded
    have same : action = .unsupported kept := by simpa [ofJson, decoded] using unread
    cases same
    cases understood

end Action

namespace PropValue

theorem ofMembers_cases (members : List (String × Json)) :
    (∃ items : List Json, ofMembers members = .actions (items.map Action.ofJson)) ∨
      (∃ kind value, ofMembers members = .bound ⟨kind, value⟩) ∨ ofMembers members = .unsupported (.object members) := by
  unfold ofMembers
  split
  next items _ => exact .inl ⟨items, rfl⟩
  next =>
    split
    next kind value _ _ => exact .inr (.inl ⟨exprText kind, value, rfl⟩)
    next => exact .inr (.inr rfl)

theorem ofJson_toJson_ofJson (value : Json) : ofJson (ofJson value).toJson = ofJson value := by
  cases value with
  | null | bool | number | string | array => rfl
  | object members =>
    rw [ofJson]
    rcases ofMembers_cases members with ⟨items, read⟩ | ⟨kind, value, read⟩ | read
    · have reread : ofJson (actionsToJson (items.map Action.ofJson)) =
          .actions (((items.map Action.ofJson).map Action.toJson).map Action.ofJson) := rfl
      rw [read, toJson, reread]
      simp [Action.ofJson_toJson_ofJson]
    · rw [read]
      rfl
    · rw [read, toJson, ofJson, read]

theorem toJson_of_unsupported {value kept : Json} (unread : ofJson value = .unsupported kept) :
    (ofJson value).toJson = value := by
  cases value with
  | null | bool | array => rfl
  | number | string => cases unread
  | object members =>
    rw [ofJson] at unread ⊢
    rcases ofMembers_cases members with ⟨items, read⟩ | ⟨kind, value, read⟩ | read
    · rw [read] at unread
      cases unread
    · rw [read] at unread
      cases unread
    · rw [read]
      rfl

end PropValue

end PageEditor
