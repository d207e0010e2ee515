import Mathlib.Data.List.Nodup
import PageEditor.Proofs.Events
import PageEditor.Proofs.Names

/-!
Where ids are distinct, a handler that an attribute names is declared once, and it is the one for the
event of the attribute.
-/

namespace PageEditor.Generate

/-- What a module declares for its markup to name. -/
inductive Declared where
  | handler (handler : Handler)
  | reference (reference : Reference)

namespace Declared

def name : Declared → String
  | .handler own => own.name
  | .reference own => own.name

end Declared

def declared (options : Options) (indent : Nat) (forest : Forest) : List Declared :=
  (forestMarkup options indent forest).handlers.map .handler ++ (references options forest).map .reference

/-- The prefix of event keys starts with an ASCII letter. -/
def LetterPrefix (options : Options) : Prop :=
  ∃ c rest, options.eventPrefix.toList = c :: rest ∧ c.isAlpha = true

variable {options : Options} {forest : Forest}

/-- The keys of events all start with the same letter. -/
theorem LetterPrefix.key (lettered : LetterPrefix options) :
    ∃ c, c.isAlpha = true ∧ ∀ key, options.isEventKey key = true → ∃ rest, key.toList = c :: rest := by
  obtain ⟨c, rest, spelled, letter⟩ := lettered
  refine ⟨c, letter, ?_⟩
  intro key own
  rw [Options.isEventKey, spelled, List.isPrefixOf_iff_prefix] at own
  obtain ⟨more, written⟩ := own
  exact ⟨rest ++ more, written.symm⟩

/-- An event is told from all others of a page by the id of its component and its key. -/
theorem pairwise_events (distinct : (Forest.ids forest).Nodup) :
    (events options forest).Pairwise fun first second =>
      ¬(first.component.id = second.component.id ∧ first.key = second.key) := by
  rw [events, List.pairwise_flatMap]
  -- Within a component the keys differ, between two components the ids.
  constructor
  · intro component _
    rw [componentEvents, List.pairwise_filterMap]
    have keys := component.props.distinct
    rw [Entries.keys, List.nodup_iff_pairwise_ne, List.pairwise_map] at keys
    apply keys.imp
    intro entry entry' different event found event' found' same
    apply different
    rw [← (ofEntry?_eq_some found).2.1, ← (ofEntry?_eq_some found').2.1, same.2]
  · rw [Forest.ids, List.nodup_iff_pairwise_ne, List.pairwise_map] at distinct
    apply distinct.imp
    intro component component' different event member event' member' same
    apply different
    rw [← (of_mem_componentEvents member).1, ← (of_mem_componentEvents member').1, same.1]

theorem nodup_handler_names (distinct : (Forest.ids forest).Nodup) (lettered : LetterPrefix options) :
    ((events options forest).map fun event => (event.handler options).name).Nodup := by
  obtain ⟨c, letter, key⟩ := lettered.key
  rw [List.nodup_iff_pairwise_ne, List.pairwise_map]
  apply (pairwise_events distinct).imp_of_mem
  intro event event' member member' different same
  obtain ⟨rest, spelled⟩ := key event.key (isEventKey_of_mem_events member)
  obtain ⟨rest', spelled'⟩ := key event'.key (isEventKey_of_mem_events member')
  exact different (handlerName_injective spelled spelled' letter same)

theorem nodup_reference_names (distinct : (Forest.ids forest).Nodup) :
    ((references options forest).map Reference.name).Nodup := by
  have declared : ((if options.nestedRefs then Forest.nodes forest else forest).map Component.id).Nodup := by
    split
    · exact distinct
    · exact distinct.sublist (Forest.roots_sublist_ids forest)
  rw [references, List.map_map, List.nodup_iff_pairwise_ne, List.pairwise_map]
  rw [List.nodup_iff_pairwise_ne, List.pairwise_map] at declared
  apply declared.imp
  intro component component' different same
  exact different (referenceName_injective same)

theorem nodup_declared_names (indent : Nat) (distinct : (Forest.ids forest).Nodup) (lettered : LetterPrefix options) :
    ((declared options indent forest).map Declared.name).Nodup := by
  have handlers : ((forestMarkup options indent forest).handlers.map Handler.name).Nodup := by
    rw [handlers_forestMarkup_eq_map, List.map_map]
    exact nodup_handler_names distinct lettered
  have names : (declared options indent forest).map Declared.name =
      (forestMarkup options indent forest).handlers.map Handler.name ++
        (references options forest).map Reference.name := by
    rw [declared, List.map_append, List.map_map, List.map_map]
    rfl
  rw [names, List.nodup_append]
  refine ⟨handlers, nodup_reference_names distinct, ?_⟩
  intro name ofHandler name' ofReference same
  rw [handlers_forestMarkup_eq_map, List.map_map] at ofHandler
  obtain ⟨event, _, rfl⟩ := List.mem_map.mp ofHandler
  obtain ⟨own, own', rfl⟩ := List.mem_map.mp ofReference
  obtain ⟨component, _, rfl⟩ := List.mem_map.mp own'
  exact referenceName_ne_handlerName event.key same.symm

private theorem filter_eq_singleton {α β : Type} [DecidableEq β] {f : α → β} {items : List α} {item : α}
    (distinct : (items.map f).Nodup) (member : item ∈ items) :
    items.filter (fun other => f other = f item) = [item] := by
  obtain ⟨before, after, rfl⟩ := List.append_of_mem member
  rw [List.map_append, List.map_cons, List.nodup_middle, List.nodup_cons, List.mem_append, not_or] at distinct
  obtain ⟨⟨earlier, later⟩, _⟩ := distinct
  have none : ∀ others : List α, f item ∉ others.map f → others.filter (fun other => f other = f item) = [] := by
    intro others absent
    rw [List.filter_eq_nil_iff]
    intro other present same
    apply absent
    exact List.mem_map.mpr ⟨other, present, of_decide_eq_true same⟩
  rw [List.filter_append, List.filter_cons_of_pos (by simp), none before earlier, none after later, List.nil_append]

/-- The handlers of a page are those of its events, and the attributes that its lines hold for events name
them one after the other. With distinct ids and an event prefix that starts with a letter, each of these
names is declared once, by the handler of its own event. -/
theorem event_wiring (options : Options) (start : Nat) (forest : Forest) :
    (forestMarkup options start forest).handlers =
        (events options forest).map (fun event => handler options event.component.id event.key event.list) ∧
      (forestMarkup options start forest).lines = (forestLines 0 forest).map (Line.text options start) ∧
      (∀ component, tagText options component =
        component.name ++ " " ++
          " ".intercalate ((sourcedAttributes options component).map fun written => written.2.text)) ∧
      (eventAttributes options (forestLines 0 forest)).map Attribute.text =
        (forestMarkup options start forest).handlers.map (fun own => own.event ++ "=\x7b" ++ own.name ++ "\x7d") ∧
      ((Forest.ids forest).Nodup → LetterPrefix options →
        ((declared options start forest).map Declared.name).Nodup ∧
          ∀ event ∈ events options forest,
            (declared options start forest).filter
                (fun entry => entry.name = handlerName event.component.id event.key) =
              [.handler (handler options event.component.id event.key event.list)]) := by
  have handlers := handlers_forestMarkup_eq_map options start forest
  refine ⟨handlers, lines_forestMarkup options start 0 forest, ?_, ?_, ?_⟩
  · intro component
    rw [tagText, ← map_sourcedAttributes, List.map_map]
    rfl
  · rw [eventAttributes_forestLines, handlers, List.map_map, List.map_map]
    rfl
  · intro distinct lettered
    have names := nodup_declared_names start distinct lettered
    refine ⟨names, ?_⟩
    intro event member
    have present : Declared.handler (event.handler options) ∈ declared options start forest := by
      apply List.mem_append_left
      rw [handlers]
      exact List.mem_map_of_mem (List.mem_map_of_mem member)
    exact filter_eq_singleton names present

/-- A row with two events around a button with one that has the key of one of them. -/
def sharedKeyPage : Forest :=
  [⟨1, "Row", ⟨[("onClick", .actions []), ("gap", .literal (.string "8")), ("onOpen", .actions [.unsupported .null])],
      by decide⟩, none, "",
    some [⟨12, "Button", ⟨[("onClick", .actions [.callMethod 1 "open"])], by decide⟩, none, "", none, some 1⟩], none⟩]

theorem event_wiring_sharedKey :
    (Forest.ids sharedKeyPage).Nodup ∧ LetterPrefix .standard ∧
      (eventAttributes .standard (forestLines 0 sharedKeyPage)).map Attribute.text =
        ["onClick=\x7bhandle1OnClick\x7d", "onOpen=\x7bhandle1OnOpen\x7d", "onClick=\x7bhandle12OnClick\x7d"] ∧
      (["handle1OnClick", "handle1OnOpen", "handle12OnClick", "1_ref"] : List String).Nodup ∧
      (declared .standard 6 sharedKeyPage).filter (fun entry => entry.name = handlerName 12 "onClick") =
        [.handler ⟨"handle12OnClick", 12, "onClick", ["1_ref.current?.open();"]⟩] := by
  obtain ⟨_, _, _, written, resolved⟩ := event_wiring .standard 6 sharedKeyPage
  have distinct : (Forest.ids sharedKeyPage).Nodup := by
    rw [Forest.ids_eq_map]
    decide
  have lettered : LetterPrefix .standard := ⟨'o', ['n'], rfl, rfl⟩
  obtain ⟨names, each⟩ := resolved distinct lettered
  have spelled : (declared .standard 6 sharedKeyPage).map Declared.name =
      ["handle1OnClick", "handle1OnOpen", "handle12OnClick", "1_ref"] := by decide +kernel
  have button : ⟨⟨12, "Button", ⟨[("onClick", .actions [.callMethod 1 "open"])], by decide⟩, none, "", none, some 1⟩,
      "onClick", [.callMethod 1 "open"]⟩ ∈ events .standard sharedKeyPage := by
    rw [events, Forest.nodes_eq_preorder]
    exact List.mem_of_mem_getLast? rfl
  rw [spelled] at names
  have compiled : handler .standard 12 "onClick" [.callMethod 1 "open"] =
      ⟨"handle12OnClick", 12, "onClick", ["1_ref.current?.open();"]⟩ := by decide +kernel
  have resolves := each _ button
  rw [compiled] at resolves
  refine ⟨distinct, lettered, ?_, names, resolves⟩
  rw [written]
  decide +kernel

end PageEditor.Generate
