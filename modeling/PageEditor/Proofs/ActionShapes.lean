import PageEditor.Proofs.StableValues

/-!
The shapes in which the editor writes an action. Each kind of action is written with a configuration, as an object or
as a list, and of a DOM operation every part may also be left out or null in one place and given in another. A value
that has none of the shapes is no action the editor knows, however little is wrong with it.
-/

namespace PageEditor

namespace Json

/-- What may be left out or null, or else is written for a value. -/
inductive Optional {α : Type} (write : α → Json) : Option Json → Option α → Prop where
  | missing : Optional write none none
  | null : Optional write (some .null) none
  | given (value : α) : Optional write (some (write value)) (some value)

def ofId (id : UInt64) : Json := .number (.ofId id)

theorem id?_eq_some_iff {value : Json} {id : UInt64} : value.id? = some id ↔ value = ofId id := by
  constructor
  · intro decoded
    cases value with
    | number number =>
      cases number with
      | integer value fits =>
        simp only [id?, Option.ite_none_left_eq_some, Option.some.injEq] at decoded
        obtain ⟨unsigned, rfl⟩ := decoded
        have below : value.toNat < UInt64.size := by
          have := fits.2
          simp only [UInt64.size]
          omega
        have same : (UInt64.ofNat value.toNat).toNat = value := by
          rw [UInt64.toNat_ofNat_of_lt' below]
          omega
        simp only [ofId, Number.ofId, same]
      | real value => cases decoded
    | null | bool | string | array | object => cases decoded
  · rintro rfl
    simp [id?, ofId, Number.ofId]

theorem string?_eq_some_iff {value : Json} {text : String} : value.string? = some text ↔ value = .string text := by
  cases value <;> simp [string?]

end Json

namespace MessageKind

def known : List MessageKind := [.success, .error, .info, .warning, .loading]

/-- The name is an identifier, and a name the editor knows stands for the kind that has it. -/
structure Shaped (kind : MessageKind) : Prop where
  identifier : Text.isIdentifier kind.name = true
  unique : ∀ other ∈ known, kind.name = other.name → kind = other

theorem ofName?_of_known {kind : MessageKind} (member : kind ∈ known) : ofName? kind.name = some kind := by
  simp only [known, List.mem_cons, List.not_mem_nil, or_false] at member
  rcases member with rfl | rfl | rfl | rfl | rfl <;> rfl

theorem ofName?_eq_some_iff {name : String} {kind : MessageKind} :
    ofName? name = some kind ↔ name = kind.name ∧ kind.Shaped := by
  constructor
  · intro found
    have same := name_of_ofName? found
    refine ⟨same.symm, same ▸ isIdentifier_of_ofName? found, ?_⟩
    intro other member named
    rw [← same, named, ofName?_of_known member] at found
    exact (Option.some.inj found).symm
  · rintro ⟨rfl, shaped⟩
    cases kind with
    | success | error | info | warning | loading => rfl
    | other name =>
      have apart : ∀ kind ∈ known, name ≠ kind.name := by
        rintro kind member named
        obtain rfl := shaped.unique kind member named
        simp [known] at member
      have identifier : Text.isIdentifier name = true := shaped.identifier
      simp only [known, List.forall_mem_cons, List.not_mem_nil, false_implies, implies_true, and_true,
        MessageKind.name] at apart
      obtain ⟨success, error, info, warning, loading⟩ := apart
      rw [MessageKind.name, ofName?, if_neg success, if_neg error, if_neg info, if_neg warning, if_neg loading,
        if_pos identifier]

end MessageKind

namespace Action

open Json (Optional ofId)

inductive MethodConfig : Json → ComponentId → String → Prop where
  | members {members : List (String × Json)} {target : ComponentId} {method : String}
      (givesTarget : members.lookup "componentId" = some (ofId target))
      (givesMethod : members.lookup "method" = some (.string method)) : MethodConfig (.object members) target method
  | list (target : ComponentId) (method : String) : MethodConfig (.array [ofId target, .string method]) target method

/-- A message without a text is an empty one. -/
inductive MessageConfig : Json → MessageKind → String → Prop where
  | members {members : List (String × Json)} {kind : MessageKind} {text : String} (shaped : kind.Shaped)
      (givesKind : members.lookup "type" = some (.string kind.name))
      (givesText : members.lookup "text" = some (.string text)) : MessageConfig (.object members) kind text
  | textless {members : List (String × Json)} {kind : MessageKind} (shaped : kind.Shaped)
      (givesKind : members.lookup "type" = some (.string kind.name)) (noText : members.lookup "text" = none) :
      MessageConfig (.object members) kind ""
  | list {kind : MessageKind} (shaped : kind.Shaped) (text : String) :
      MessageConfig (.array [.string kind.name, .string text]) kind text
  | textlessList {kind : MessageKind} (shaped : kind.Shaped) : MessageConfig (.array [.string kind.name]) kind ""

/-- The configuration of a DOM operation, which may be left out as a whole and in its parts. -/
inductive DomConfig : Option Json → Option ComponentId → Option String → Prop where
  | missing : DomConfig none none none
  | null : DomConfig (some .null) none none
  | members {members : List (String × Json)} {target : Option ComponentId} {operation : Option String}
      (givesTarget : Optional ofId (members.lookup "componentId") target)
      (givesOperation : Optional .string (members.lookup "operation") operation) :
      DomConfig (some (.object members)) target operation
  | list {first second : Json} {target : Option ComponentId} {operation : Option String}
      (givesTarget : Optional ofId (some first) target) (givesOperation : Optional .string (some second) operation) :
      DomConfig (some (.array [first, second])) target operation

/-- How the editor writes an action. The parts of a DOM operation are taken from the top where they are given there,
and from the configuration otherwise. -/
inductive Spelled : Json → Action → Prop where
  | callMethod {members : List (String × Json)} {config : Json} {target : ComponentId} {method : String}
      (type : members.lookup "type" = some (.string "componentMethod"))
      (configured : members.lookup "config" = some config) (spelled : MethodConfig config target method) :
      Spelled (.object members) (.callMethod target method)
  | showMessage {members : List (String × Json)} {config : Json} {kind : MessageKind} {text : String}
      (type : members.lookup "type" = some (.string "showMessage"))
      (configured : members.lookup "config" = some config) (spelled : MessageConfig config kind text) :
      Spelled (.object members) (.showMessage kind text)
  | domOperation {members : List (String × Json)} {topTarget configTarget : Option ComponentId}
      {topOperation configOperation : Option String} {target : ComponentId} {operation : String}
      (type : members.lookup "type" = some (.string "domOperation"))
      (givesTarget : Optional ofId (members.lookup "targetComponentId") topTarget)
      (givesOperation : Optional .string (members.lookup "operation") topOperation)
      (configured : DomConfig (members.lookup "config") configTarget configOperation)
      (chosenTarget : topTarget.or configTarget = some target)
      (chosenOperation : topOperation.or configOperation = some operation) :
      Spelled (.object members) (.domOperation target operation)

theorem optional?_eq_some_iff {α : Type} {decode : Json → Option α} {write : α → Json}
    (exact : ∀ value content, decode value = some content ↔ value = write content) (null : decode .null = none)
    {given : Option Json} {content : Option α} :
    optional? decode given = some content ↔ Optional write given content := by
  constructor
  · intro decoded
    unfold optional? at decoded
    split at decoded
    next =>
      obtain rfl := Option.some.inj decoded
      exact .missing
    next =>
      obtain rfl := Option.some.inj decoded
      exact .null
    next value _ =>
      obtain ⟨own, read, rfl⟩ := Option.map_eq_some_iff.mp decoded
      obtain rfl := (exact value own).mp read
      exact .given own
  · rintro (_ | _ | own)
    · rfl
    · rfl
    · have read : decode (write own) = some own := (exact _ own).mpr rfl
      unfold optional?
      split
      next absent => cases absent
      next isNull =>
        rw [Option.some.inj isNull, null] at read
        cases read
      next value _ same =>
        obtain rfl := Option.some.inj same
        rw [read, Option.map_some]

theorem optionalId_eq_some_iff {given : Option Json} {target : Option ComponentId} :
    optional? Json.id? given = some target ↔ Optional ofId given target :=
  optional?_eq_some_iff (fun _ _ => Json.id?_eq_some_iff) rfl

theorem optionalString_eq_some_iff {given : Option Json} {text : Option String} :
    optional? Json.string? given = some text ↔ Optional .string given text :=
  optional?_eq_some_iff (fun _ _ => Json.string?_eq_some_iff) rfl

theorem methodConfig?_eq_some_iff {config : Json} {target : ComponentId} {method : String} :
    methodConfig? config = some (target, method) ↔ MethodConfig config target method := by
  constructor
  · intro decoded
    unfold methodConfig? at decoded
    split at decoded
    next members =>
      simp only [Option.bind_eq_bind, Option.bind_eq_some_iff, Json.id?_eq_some_iff, Json.string?_eq_some_iff] at decoded
      obtain ⟨_, givesTarget, _, rfl, _, givesMethod, _, rfl, answered⟩ := decoded
      cases answered
      exact .members givesTarget givesMethod
    next first second =>
      simp only [Option.bind_eq_bind, Option.bind_eq_some_iff, Json.id?_eq_some_iff, Json.string?_eq_some_iff] at decoded
      obtain ⟨_, rfl, _, rfl, answered⟩ := decoded
      cases answered
      exact .list target method
    next => cases decoded
  · have id := Json.id?_eq_some_iff.mpr (rfl : ofId target = ofId target)
    rintro (⟨givesTarget, givesMethod⟩ | _)
    · simp [methodConfig?, givesTarget, givesMethod, id, Json.string?]
    · simp [methodConfig?, id, Json.string?]

theorem messageConfig?_eq_some_iff {config : Json} {kind : MessageKind} {text : String} :
    messageConfig? config = some (kind, text) ↔ MessageConfig config kind text := by
  constructor
  · intro decoded
    unfold messageConfig? at decoded
    split at decoded
    next members =>
      simp only [Option.bind_eq_bind, Option.bind_eq_some_iff, Json.string?_eq_some_iff,
        MessageKind.ofName?_eq_some_iff] at decoded
      obtain ⟨_, givesKind, _, rfl, known, ⟨rfl, shaped⟩, answered⟩ := decoded
      split at answered
      next value givesText =>
        simp only [Option.bind_eq_some_iff, Json.string?_eq_some_iff] at answered
        obtain ⟨_, rfl, answered⟩ := answered
        cases answered
        exact .members shaped givesKind givesText
      next noText =>
        cases answered
        exact .textless shaped givesKind noText
    next =>
      simp only [Option.bind_eq_bind, Option.bind_eq_some_iff, Json.string?_eq_some_iff,
        MessageKind.ofName?_eq_some_iff] at decoded
      obtain ⟨_, rfl, known, ⟨rfl, shaped⟩, answered⟩ := decoded
      cases answered
      exact .textlessList shaped
    next =>
      simp only [Option.bind_eq_bind, Option.bind_eq_some_iff, Json.string?_eq_some_iff,
        MessageKind.ofName?_eq_some_iff] at decoded
      obtain ⟨_, rfl, known, ⟨rfl, shaped⟩, _, rfl, answered⟩ := decoded
      cases answered
      exact .list shaped text
    next => cases decoded
  · have named (shaped : kind.Shaped) : MessageKind.ofName? kind.name = some kind :=
      MessageKind.ofName?_eq_some_iff.mpr ⟨rfl, shaped⟩
    rintro (⟨shaped, givesKind, givesText⟩ | ⟨shaped, givesKind, noText⟩ | ⟨shaped⟩ | ⟨shaped⟩)
    · simp [messageConfig?, givesKind, givesText, Json.string?, named shaped]
    · simp [messageConfig?, givesKind, noText, Json.string?, named shaped]
    · simp [messageConfig?, Json.string?, named shaped]
    · simp [messageConfig?, Json.string?, named shaped]

theorem domConfig?_eq_some_iff {config : Option Json} {target : Option ComponentId} {operation : Option String} :
    domConfig? config = some (target, operation) ↔ DomConfig config target operation := by
  constructor
  · intro decoded
    unfold domConfig? at decoded
    split at decoded
    next =>
      cases decoded
      exact .missing
    next =>
      cases decoded
      exact .null
    next members =>
      simp only [Option.bind_eq_bind, Option.bind_eq_some_iff, optionalId_eq_some_iff, optionalString_eq_some_iff]
        at decoded
      obtain ⟨_, givesTarget, _, givesOperation, answered⟩ := decoded
      cases answered
      exact .members givesTarget givesOperation
    next first second =>
      simp only [Option.bind_eq_bind, Option.bind_eq_some_iff, optionalId_eq_some_iff, optionalString_eq_some_iff]
        at decoded
      obtain ⟨_, givesTarget, _, givesOperation, answered⟩ := decoded
      cases answered
      exact .list givesTarget givesOperation
    next => cases decoded
  · rintro (_ | _ | ⟨givesTarget, givesOperation⟩ | ⟨givesTarget, givesOperation⟩)
    · rfl
    · rfl
    · simp [domConfig?, optionalId_eq_some_iff.mpr givesTarget, optionalString_eq_some_iff.mpr givesOperation]
    · simp [domConfig?, optionalId_eq_some_iff.mpr givesTarget, optionalString_eq_some_iff.mpr givesOperation]

theorem decode?_eq_some_iff {value : Json} {action : Action} : decode? value = some action ↔ Spelled value action := by
  constructor
  · intro decoded
    unfold decode? at decoded
    split at decoded
    next members =>
      split at decoded
      next type found =>
        simp only [Option.bind_eq_bind] at decoded
        split_ifs at decoded with callMethod domOperation showMessage
        · simp only [Option.bind_eq_some_iff] at decoded
          obtain ⟨_, configured, ⟨_, _⟩, spelled, answered⟩ := decoded
          cases answered
          exact .callMethod (callMethod ▸ found) configured (methodConfig?_eq_some_iff.mp spelled)
        · simp only [domOperation?, Option.bind_eq_bind, Option.bind_eq_some_iff, optionalId_eq_some_iff,
            optionalString_eq_some_iff] at decoded
          obtain ⟨_, givesTarget, _, givesOperation, ⟨_, _⟩, configured, _, chosenTarget, _, chosenOperation, answered⟩ :=
            decoded
          cases answered
          exact .domOperation (domOperation ▸ found) givesTarget givesOperation (domConfig?_eq_some_iff.mp configured)
            chosenTarget chosenOperation
        · simp only [Option.bind_eq_some_iff] at decoded
          obtain ⟨_, configured, ⟨_, _⟩, spelled, answered⟩ := decoded
          cases answered
          exact .showMessage (showMessage ▸ found) configured (messageConfig?_eq_some_iff.mp spelled)
      next => cases decoded
    next => cases decoded
  · intro spelled
    cases spelled with
    | callMethod type configured spelled =>
      simp [decode?, type, configured, methodConfig?_eq_some_iff.mpr spelled]
    | showMessage type configured spelled =>
      simp [decode?, type, configured, messageConfig?_eq_some_iff.mpr spelled]
    | domOperation type givesTarget givesOperation configured chosenTarget chosenOperation =>
      simp [decode?, type, domOperation?, optionalId_eq_some_iff.mpr givesTarget,
        optionalString_eq_some_iff.mpr givesOperation, domConfig?_eq_some_iff.mpr configured, chosenTarget,
        chosenOperation]

theorem ofJson_of_spelled {value : Json} {action : Action} (spelled : Spelled value action) : ofJson value = action := by
  rw [ofJson, decode?_eq_some_iff.mpr spelled, Option.getD_some]

theorem ofJson_of_unspelled {value : Json} (unspelled : ∀ action, ¬ Spelled value action) :
    ofJson value = .unsupported value := by
  cases decoded : decode? value with
  | none => rw [ofJson, decoded, Option.getD_none]
  | some action => exact absurd (decode?_eq_some_iff.mp decoded) (unspelled action)

/-- A DOM operation of which some part is given, at the top or in the configuration, and is of another type than it
has to be. -/
inductive Malformed (members : List (String × Json)) : Prop where
  | target (wrong : ∀ target, ¬ Optional ofId (members.lookup "targetComponentId") target)
  | operation (wrong : ∀ operation, ¬ Optional .string (members.lookup "operation") operation)
  | config (wrong : ∀ target operation, ¬ DomConfig (members.lookup "config") target operation)

/-- A value is decoded as an action exactly if the action can be written so, and kept as it is if no action can. A part
of the wrong type is not made good by the same part in another place. -/
theorem ofJson_exact :
    (∀ value action, ofJson value = action ↔
      Spelled value action ∨ (∀ other, ¬ Spelled value other) ∧ action = .unsupported value) ∧
      ∀ members, members.lookup "type" = some (.string "domOperation") → Malformed members →
        ofJson (.object members) = .unsupported (.object members) := by
  constructor
  · intro value action
    constructor
    · rintro rfl
      by_cases spelled : ∃ action, Spelled value action
      · obtain ⟨action, spelled⟩ := spelled
        exact .inl (ofJson_of_spelled spelled ▸ spelled)
      · have unspelled : ∀ action, ¬ Spelled value action := fun action own => spelled ⟨action, own⟩
        exact .inr ⟨unspelled, ofJson_of_unspelled unspelled⟩
    · rintro (spelled | ⟨unspelled, rfl⟩)
      · exact ofJson_of_spelled spelled
      · exact ofJson_of_unspelled unspelled
  · intro members type malformed
    apply ofJson_of_unspelled
    rintro action (⟨other, _, _⟩ | ⟨other, _, _⟩ | ⟨_, givesTarget, givesOperation, configured, _, _⟩)
    · simp [type] at other
    · simp [type] at other
    · cases malformed with
      | target wrong => exact wrong _ givesTarget
      | operation wrong => exact wrong _ givesOperation
      | config wrong => exact wrong _ _ configured

/-- The target is given twice, at the top as a text. -/
def textTarget : List (String × Json) :=
  [("type", .string "domOperation"), ("targetComponentId", .string "4"),
    ("config", .object [("componentId", ofId 4), ("operation", .string "focus()")])]

/-- The target stands in a list, the operation at the top. -/
def splitOperation : List (String × Json) :=
  [("operation", .string "blur()"), ("config", .array [ofId 4, .null]), ("type", .string "domOperation")]

theorem ofJson_exact_textTarget :
    textTarget.lookup "type" = some (.string "domOperation") ∧ Malformed textTarget ∧
      ofJson (.object textTarget) = .unsupported (.object textTarget) ∧
      Spelled (.object splitOperation) (.domOperation 4 "blur()") ∧
      ofJson (.object splitOperation) = .domOperation 4 "blur()" := by
  obtain ⟨exact, unmade⟩ := ofJson_exact
  have type : textTarget.lookup "type" = some (.string "domOperation") := rfl
  have malformed : Malformed textTarget := by
    refine .target fun target given => ?_
    have text : textTarget.lookup "targetComponentId" = some (.string "4") := rfl
    rw [text] at given
    cases given
  have spelled : Spelled (.object splitOperation) (.domOperation 4 "blur()") :=
    .domOperation rfl .missing (.given "blur()") (.list (.given 4) .null) rfl rfl
  exact ⟨type, malformed, unmade _ type malformed, spelled, (exact _ _).mpr (.inl spelled)⟩

end Action

end PageEditor
