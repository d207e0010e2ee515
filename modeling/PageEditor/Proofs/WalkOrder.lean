import PageEditor.Proofs.ForestInduction

/-!
The walk over a page. A step visits the first of the components still to visit and puts its children in its place. It
can make this list longer, but it takes one component out of all that are in it or below it; so the walk ends after
as many steps as there are components, and it has met each of them once and in pre-order.
-/

namespace PageEditor.Forest

/-- What a number of steps visit and where they lead, or nothing if the walk ends before. -/
def run? {State : Type} (step : State → Option (Component × State)) :
    Nat → State → Option (List Component × State)
  | 0, state => some ([], state)
  | count + 1, state =>
    (step state).bind fun (component, next) =>
      (run? step count next).map fun (later, last) => (component :: later, last)

/-- The step on a stack with its top at the end: the top is popped and its children are pushed in reverse. -/
def pop? (stack : List Component) : Option (Component × List Component) :=
  stack.getLast?.map fun top => (top, stack.dropLast ++ top.childList.reverse)

/-- The component at an address: the index of a root, and then of a child at every level below it. -/
def at? : Forest → List Nat → Option Component
  | _, [] => none
  | forest, [index] => forest[index]?
  | forest, index :: next :: address => forest[index]?.bind fun component => at? component.childList (next :: address)

/-- All addresses of a page, a component before those below it and these before its later siblings, and what the
walk meets at each of them. -/
structure Addressed (forest : Forest) (addresses : List (List Nat)) : Prop where
  ordered : addresses.Pairwise (List.Lex (· < ·))
  complete : ∀ address, address ∈ addresses ↔ (at? forest address).isSome = true
  visited : addresses.map (at? forest) = (nodes forest).map some

section Steps

variable {pending : Forest}

theorem run?_succ {State : Type} {step : State → Option (Component × State)} {state next : State}
    {component : Component} (taken : step state = some (component, next)) (count : Nat) :
    run? step (count + 1) state = (run? step count next).map fun (later, last) => (component :: later, last) := by
  rw [run?, taken]
  rfl

theorem pop?_reverse (pending : Forest) :
    pop? pending.reverse = (visit? pending).map fun (component, left) => (component, left.reverse) := by
  cases pending with
  | nil => rfl
  | cons component rest => simp [pop?, visit?]

/-- A stack is what is still to visit in reverse. -/
theorem run?_pop (count : Nat) (pending : Forest) :
    run? pop? count pending.reverse =
      (run? visit? count pending).map fun (visited, left) => (visited, left.reverse) := by
  induction count generalizing pending with
  | zero => rfl
  | succ count ih =>
    cases step : visit? pending with
    | none =>
      rw [run?, run?, pop?_reverse, step]
      rfl
    | some result =>
      obtain ⟨component, left⟩ := result
      have popped : pop? pending.reverse = some (component, left.reverse) := by rw [pop?_reverse, step, Option.map_some]
      rw [run?_succ popped, run?_succ step, ih, Option.map_map, Option.map_map]
      rfl

theorem length_preorder (forest : Forest) : (preorder forest).length = size forest := by
  induction forest using induct with
  | nil => rfl
  | cons component rest below beside =>
    rw [preorder_cons, List.length_cons, List.length_append, below, beside, size, Component.size_eq]
    omega

theorem size_of_visit {left : Forest} {component : Component} (visited : visit? pending = some (component, left)) :
    size pending = size left + 1 := by
  rw [← length_preorder, ← length_preorder, preorder_visit visited, List.length_cons]

/-- As many steps as there are components, or fewer, follow the pre-order and leave the rest of it. -/
theorem run?_of_le {count : Nat} (within : count ≤ size pending) :
    ∃ left, run? visit? count pending = some ((preorder pending).take count, left) ∧
      preorder left = (preorder pending).drop count := by
  induction count generalizing pending with
  | zero => exact ⟨pending, rfl, rfl⟩
  | succ count ih =>
    cases step : visit? pending with
    | none =>
      cases pending with
      | nil => cases within
      | cons first rest => cases step
    | some result =>
      obtain ⟨component, left⟩ := result
      rw [size_of_visit step] at within
      obtain ⟨last, run, remaining⟩ := ih (Nat.le_of_succ_le_succ within)
      refine ⟨last, ?_, ?_⟩
      · rw [run?_succ step, run, preorder_visit step]
        rfl
      · rw [remaining, preorder_visit step]
        rfl

theorem run?_of_lt {count : Nat} (beyond : size pending < count) : run? visit? count pending = none := by
  induction count generalizing pending with
  | zero => cases beyond
  | succ count ih =>
    cases step : visit? pending with
    | none =>
      rw [run?, step]
      rfl
    | some result =>
      obtain ⟨component, left⟩ := result
      rw [size_of_visit step] at beyond
      rw [run?_succ step, ih (Nat.lt_of_succ_lt_succ beyond)]
      rfl

end Steps

section Addresses

theorem at?_nil (address : List Nat) : at? [] address = none := by
  cases address with
  | nil => rfl
  | cons index address => cases address <;> rfl

/-- Below the first root an address goes on among its children. -/
theorem at?_first (component : Component) (rest : Forest) {address : List Nat} (below : address ≠ []) :
    at? (component :: rest) (0 :: address) = at? component.childList address := by
  cases address with
  | nil => exact absurd rfl below
  | cons next address => rfl

theorem at?_later (component : Component) (rest : Forest) (index : Nat) (address : List Nat) :
    at? (component :: rest) ((index + 1) :: address) = at? rest (index :: address) := by
  cases address <;> rfl

/-- The address of the same component once a root is put in front of the page. -/
def shifted : List Nat → List Nat
  | [] => []
  | index :: address => (index + 1) :: address

theorem at?_shifted (component : Component) (rest : Forest) (address : List Nat) :
    at? (component :: rest) (shifted address) = at? rest address := by
  cases address with
  | nil => rfl
  | cons index address => exact at?_later component rest index address

theorem shifted_lex {address other : List Nat} (earlier : List.Lex (· < ·) address other) :
    List.Lex (· < ·) (shifted address) (shifted other) := by
  cases earlier with
  | nil => exact .nil
  | rel less => exact .rel (Nat.succ_lt_succ less)
  | cons later => exact .cons later

theorem Addressed.ne_nil {forest : Forest} {addresses : List (List Nat)} (addressed : Addressed forest addresses)
    {address : List Nat} (member : address ∈ addresses) : address ≠ [] := by
  rintro rfl
  cases (addressed.complete []).mp member

theorem Addressed.cons {component : Component} {rest : Forest} {inner later : List (List Nat)}
    (below : Addressed component.childList inner) (beside : Addressed rest later) :
    Addressed (component :: rest) ([0] :: (inner.map (0 :: ·) ++ later.map shifted)) where
  ordered := by
    have after : ∀ address ∈ later, ∃ index more, shifted address = (index + 1) :: more := by
      intro address member
      obtain ⟨index, more, rfl⟩ := List.exists_cons_of_ne_nil (beside.ne_nil member)
      exact ⟨index, more, rfl⟩
    rw [List.pairwise_cons, List.pairwise_append, List.pairwise_map, List.pairwise_map]
    refine ⟨?_, below.ordered.imp .cons, beside.ordered.imp shifted_lex, ?_⟩
    · intro other member
      rcases List.mem_append.mp member with inside | outside
      · obtain ⟨address, listed, rfl⟩ := List.mem_map.mp inside
        obtain ⟨index, more, rfl⟩ := List.exists_cons_of_ne_nil (below.ne_nil listed)
        exact .cons .nil
      · obtain ⟨address, listed, rfl⟩ := List.mem_map.mp outside
        obtain ⟨index, more, same⟩ := after address listed
        rw [same]
        exact .rel (Nat.succ_pos index)
    · intro first inside second outside
      obtain ⟨_, _, rfl⟩ := List.mem_map.mp inside
      obtain ⟨address, listed, rfl⟩ := List.mem_map.mp outside
      obtain ⟨index, more, same⟩ := after address listed
      rw [same]
      exact .rel (Nat.succ_pos index)
  complete := by
    intro address
    rw [List.mem_cons, List.mem_append, List.mem_map, List.mem_map]
    constructor
    · rintro (rfl | ⟨inside, listed, rfl⟩ | ⟨outside, listed, rfl⟩)
      · rfl
      · rw [at?_first component rest (below.ne_nil listed)]
        exact (below.complete inside).mp listed
      · rw [at?_shifted]
        exact (beside.complete outside).mp listed
    · intro present
      match address with
      | [] => cases present
      | [0] => exact .inl rfl
      | 0 :: next :: address =>
        rw [at?_first component rest (by simp)] at present
        exact .inr (.inl ⟨next :: address, (below.complete _).mpr present, rfl⟩)
      | (index + 1) :: address =>
        rw [at?_later] at present
        exact .inr (.inr ⟨index :: address, (beside.complete _).mpr present, rfl⟩)
  visited := by
    have first : inner.map (fun address => at? (component :: rest) (0 :: address)) =
        inner.map (at? component.childList) :=
      List.map_congr_left fun address member => at?_first component rest (below.ne_nil member)
    have others : later.map (fun address => at? (component :: rest) (shifted address)) = later.map (at? rest) :=
      List.map_congr_left fun address _ => at?_shifted component rest address
    rw [nodes_eq_preorder, preorder_cons, List.map_cons, List.map_cons, List.map_append, List.map_append, List.map_map,
      List.map_map]
    simp only [Function.comp_def, first, others, below.visited, beside.visited, nodes_eq_preorder]
    rfl

theorem exists_addressed (forest : Forest) : ∃ addresses, Addressed forest addresses := by
  induction forest using induct with
  | nil => exact ⟨[], .nil, fun address => by simp [at?_nil], by simp⟩
  | cons component rest below beside =>
    obtain ⟨inner, inside⟩ := below
    obtain ⟨later, outside⟩ := beside
    exact ⟨_, inside.cons outside⟩

end Addresses

theorem size_eq_zero_iff {forest : Forest} : size forest = 0 ↔ forest = [] := by
  cases forest with
  | nil => simp [size]
  | cons component rest =>
    rw [size, Component.size_eq]
    simp

/-- A step on a stack is a step of the walk. There are as many steps as there are components, and after each of them the
walk has met that much of the pre-order. So it lists what is at every address, in the order of the addresses, and
a search finds the first component with an id or, if there is none, nothing. -/
theorem walk_exact (forest : Forest) :
    (∀ count, run? pop? count forest.reverse =
        (run? visit? count forest).map fun (visited, left) => (visited, left.reverse)) ∧
      (∀ count ≤ size forest, ∃ left, run? visit? count forest = some ((preorder forest).take count, left) ∧
        (left = [] ↔ count = size forest)) ∧
      (∀ count > size forest, run? visit? count forest = none) ∧
      nodes forest = preorder forest ∧ (nodes forest).length = size forest ∧
      (∃ addresses, Addressed forest addresses) ∧
      ∀ id, (find? forest id = none ↔ ∀ component ∈ nodes forest, component.id ≠ id) ∧
        ∀ found, find? forest id = some found ↔
          found.id = id ∧ ∃ before after, preorder forest = before ++ found :: after ∧
            ∀ component ∈ before, component.id ≠ id := by
  have length : (nodes forest).length = size forest := by rw [nodes_eq_preorder, length_preorder]
  refine ⟨fun count => run?_pop count forest, ?_, fun count => run?_of_lt, nodes_eq_preorder forest, length,
    exists_addressed forest, ?_⟩
  · intro count within
    obtain ⟨left, run, remaining⟩ := run?_of_le within
    refine ⟨left, run, ?_⟩
    have sizes := congrArg List.length remaining
    rw [List.length_drop, length_preorder, length_preorder] at sizes
    rw [← size_eq_zero_iff, sizes]
    omega
  · intro id
    exact ⟨by simp [find?], fun _ => find?_eq_some_iff⟩

/-- A text in a container is met before a button behind the container, and shown for the id of both. -/
theorem walk_exact_sharedId :
    let page : Forest := [{ Component.new 1 "Container" with children := some [.new 2 "Text"] }, .new 2 "Button"]
    3 ≤ size page ∧ run? visit? 3 page = some (preorder page, []) ∧
      run? pop? 3 page.reverse = some (preorder page, []) ∧
      4 > size page ∧ run? visit? 4 page = none ∧
      find? page 2 = some (.new 2 "Text") := by
  intro page
  have three : size page = 3 := by decide
  obtain ⟨stack, within, beyond, _, _, _, search⟩ := walk_exact page
  obtain ⟨left, run, ended⟩ := within 3 (Nat.le_of_eq three.symm)
  obtain rfl := ended.mpr three.symm
  have whole : (preorder page).take 3 = preorder page := by
    rw [List.take_of_length_le (Nat.le_of_eq ((length_preorder page).trans three))]
  rw [whole] at run
  refine ⟨Nat.le_of_eq three.symm, run, ?_, by omega, beyond 4 (by omega), ?_⟩
  · rw [stack, run]
    rfl
  · apply ((search 2).2 _).mpr
    refine ⟨rfl, [{ Component.new 1 "Container" with children := some [.new 2 "Text"] }], [.new 2 "Button"], rfl, ?_⟩
    simp [Component.new]

end PageEditor.Forest
