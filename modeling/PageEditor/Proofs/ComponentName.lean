import PageEditor.Proofs.Clusters
import PageEditor.Proofs.ModuleText
import PageEditor.Proofs.NameCharacters

/-!
The name of the generated component. Pascal case drops the separators of a name and maps its other characters one by
one, so it leaves a character of names where there was one. Only a name of which nothing is left is replaced; one of
which something else is left is written as it comes out.
-/

namespace PageEditor.Text.Pascal

section Separators

/-- The clusters that are no separators. -/
def kept (list : List Cluster) : List Cluster := list.filter fun cluster => !isSeparator cluster

theorem isSeparator_iff {cluster : Cluster} :
    isSeparator cluster = true ↔ ∃ c, cluster = [c] ∧ (c = ' ' ∨ c = '-' ∨ c = '_') := by
  simp only [isSeparator, Bool.or_eq_true, beq_iff_eq]
  grind

theorem joining_of_separator {c : Char} (separator : c = ' ' ∨ c = '-' ∨ c = '_') : joining c = .other := by
  rcases separator with rfl | rfl | rfl <;> rfl

/-- A text that consists of separators has no other clusters. -/
theorem kept_clustersFrom_eq_nil_iff (pending : Pending) (text : List Char) :
    kept (clustersFrom pending text) = [] ↔ ∀ c ∈ text, c = ' ' ∨ c = '-' ∨ c = '_' := by
  induction text generalizing pending with
  | nil => simp [kept, clustersFrom]
  | cons c rest ih =>
    rcases clustersFrom_cons pending c rest with ⟨split, _⟩ | ⟨next, more, cluster, others, rfl, joins, later, split⟩
    · have single : isSeparator [c] = true ↔ c = ' ' ∨ c = '-' ∨ c = '_' := by simp [isSeparator_iff]
      rw [split, List.forall_mem_cons, ← ih (pending.after (joining c)), ← single]
      by_cases separator : isSeparator [c] = true <;> simp [kept, separator]
    · have some : isSeparator (c :: cluster) = false := by
        have filled := nil_notMem_clustersFrom (pending.after (joining c)) (next :: more)
        rw [later, List.mem_cons, not_or] at filled
        rw [Bool.eq_false_iff]
        intro separator
        obtain ⟨_, alone, _⟩ := isSeparator_iff.mp separator
        exact filled.1 (List.cons.inj alone).2.symm
      have apart : ¬ ((c = ' ' ∨ c = '-' ∨ c = '_') ∧ (next = ' ' ∨ next = '-' ∨ next = '_')) := by
        rintro ⟨separator, another⟩
        rw [joining_of_separator separator, joining_of_separator another, apart_of_other] at joins
        cases joins
      simp only [split, kept, some, List.filter_cons, Bool.not_false, ite_true, List.forall_mem_cons]
      exact iff_of_false (List.cons_ne_nil _ _) fun all => apart ⟨all.1, all.2.1⟩

/-- Among controls alone there is no case. -/
theorem ofCluster_of_standsAlone {cluster : Cluster} (filled : cluster ≠ [])
    (alone : ∀ c ∈ cluster, (joining c).standsAlone = true) :
    isSeparator cluster = false ∧ Kind.ofCluster cluster = .other := by
  obtain ⟨c, rest, rfl⟩ := List.exists_cons_of_ne_nil filled
  have digit : (c :: rest).all Char.isDigit = false := by
    rw [List.all_cons, (control_fixed (alone c List.mem_cons_self)).2.2, Bool.false_and]
  have raised : upperText (c :: rest) = c :: rest := by
    rw [upperText, List.flatMap_congr fun d member => (control_fixed (alone d member)).1, List.flatMap_singleton']
  have lowered : lowerText (c :: rest) = c :: rest := lowerAfter_of_standsAlone [] alone
  constructor
  · rw [Bool.eq_false_iff]
    intro separator
    obtain ⟨d, same, ordinary⟩ := isSeparator_iff.mp separator
    obtain ⟨rfl, _⟩ := List.cons.inj same
    have control := alone c List.mem_cons_self
    rw [joining_of_separator ordinary] at control
    cases control
  · simp [Kind.ofCluster, digit, raised, lowered]

/-- A cluster that starts with the character stands behind one that neither separates words nor lets one start. -/
def Unannounced (c : Char) (earlier later : Cluster) : Prop :=
  later.head? = some c → isSeparator earlier = false ∧ Kind.ofCluster earlier = .other

theorem unannounced_clusters {c : Char} (joins : (joining c).goesOn = true) (text : List Char) :
    (clusters text).IsChain (Unannounced c) := by
  have filled := nil_notMem_clustersFrom .nothing text
  apply (parted_clustersFrom .nothing text).imp_of_mem_imp
  intro earlier later member _ parted starts
  apply ofCluster_of_standsAlone (ne_of_mem_of_not_mem member filled)
  exact parted c starts joins

end Separators

section Words

theorem split_cons (previous : Kind) (cluster : Cluster) (rest : List Cluster) :
    split previous (cluster :: rest) =
      let later := split (Kind.ofCluster cluster) rest
      if isSeparator cluster then ([], later.1 :: later.2)
      else if startsWord previous (Kind.ofCluster cluster) (kindOfNext rest) then ([], (cluster ++ later.1) :: later.2)
      else (cluster ++ later.1, later.2) := rfl

theorem flatten_split (previous : Kind) (list : List Cluster) :
    ((split previous list).1 :: (split previous list).2).flatten = (kept list).flatten := by
  induction list generalizing previous with
  | nil => rfl
  | cons cluster rest ih =>
    have later := ih (Kind.ofCluster cluster)
    rw [split_cons]
    by_cases separator : isSeparator cluster = true
    · simpa [kept, separator] using later
    · by_cases starts : startsWord previous (Kind.ofCluster cluster) (kindOfNext rest) = true
      · simpa [kept, separator, starts] using later
      · simpa [kept, separator, starts] using later

/-- The word that goes on starts with the first cluster, if it has any. -/
theorem head_of_split {previous : Kind} {list : List Cluster} (filled : [] ∉ list) {c : Char}
    (starts : (split previous list).1.head? = some c) : ∃ cluster ∈ list.head?, cluster.head? = some c := by
  cases list with
  | nil => cases starts
  | cons cluster rest =>
    rw [List.mem_cons, not_or] at filled
    obtain ⟨first, more, rfl⟩ := List.exists_cons_of_ne_nil (Ne.symm filled.1)
    rw [split_cons] at starts
    split at starts
    · cases starts
    · split at starts
      · cases starts
      · exact ⟨_, rfl, starts⟩

/-- No later word starts with such a character, unless the first cluster does. -/
theorem head_of_mem_split {previous : Kind} {list : List Cluster} (filled : [] ∉ list) {c : Char}
    (chain : list.IsChain (Unannounced c)) {word : List Char} (member : word ∈ (split previous list).2)
    (starts : word.head? = some c) : previous ≠ .other ∧ ∃ cluster ∈ list.head?, cluster.head? = some c := by
  induction list generalizing previous with
  | nil => cases member
  | cons cluster rest ih =>
    rw [List.mem_cons, not_or] at filled
    obtain ⟨unannounced, behind⟩ := List.isChain_cons.mp chain
    have noLater : word ∉ (split (Kind.ofCluster cluster) rest).2 := by
      intro later
      obtain ⟨notOther, next, first, same⟩ := ih filled.2 behind later
      exact notOther (unannounced next first same).2
    rw [split_cons] at member
    by_cases separator : isSeparator cluster = true
    · simp only [separator, ite_true, List.mem_cons, noLater, or_false] at member
      rw [member] at starts
      obtain ⟨next, first, same⟩ := head_of_split filled.2 starts
      rw [(unannounced next first same).1] at separator
      cases separator
    · by_cases announced : startsWord previous (Kind.ofCluster cluster) (kindOfNext rest) = true
      · simp only [separator, announced, Bool.false_eq_true, ite_true, ite_false, List.mem_cons, noLater,
          or_false] at member
        obtain ⟨first, more, rfl⟩ := List.exists_cons_of_ne_nil (Ne.symm filled.1)
        rw [member] at starts
        refine ⟨?_, _, rfl, starts⟩
        rintro rfl
        cases announced
      · simp only [separator, announced, Bool.false_eq_true, ite_false] at member
        exact absurd member noLater

variable {text : List Char}

theorem flatten_words (text : List Char) : (words text).flatten = (kept (clusters text)).flatten := by
  rw [words, List.flatten_filter_not_isEmpty, flatten_split]

theorem nil_notMem_words (text : List Char) : [] ∉ words text := by simp [words]

theorem flatten_eq_nil_iff {list : List (List Char)} (filled : [] ∉ list) : list.flatten = [] ↔ list = [] := by
  rw [List.flatten_eq_nil_iff]
  constructor
  · intro empty
    rw [List.eq_nil_iff_forall_not_mem]
    intro own member
    exact filled (empty own member ▸ member)
  · rintro rfl own member
    cases member

theorem words_eq_nil_iff (text : List Char) : words text = [] ↔ ∀ c ∈ text, c = ' ' ∨ c = '-' ∨ c = '_' := by
  have kept_filled : [] ∉ kept (clusters text) :=
    fun member => nil_notMem_clustersFrom .nothing text (List.mem_filter.mp member).1
  rw [← kept_clustersFrom_eq_nil_iff .nothing, ← clusters, ← flatten_eq_nil_iff (nil_notMem_words text), flatten_words,
    flatten_eq_nil_iff kept_filled]

theorem head_of_mem_words {word : List Char} {c : Char} (joins : (joining c).goesOn = true)
    (member : word ∈ words text) (starts : word.head? = some c) : text.head? = some c := by
  have filled := nil_notMem_clustersFrom .nothing text
  have chain : (clusters text).IsChain (Unannounced c) := unannounced_clusters joins text
  obtain ⟨cluster, first, same⟩ : ∃ cluster ∈ (clusters text).head?, cluster.head? = some c := by
    rcases List.mem_cons.mp (List.mem_filter.mp member).1 with rfl | later
    · exact head_of_split filled starts
    · exact (head_of_mem_split filled chain later starts).2
  obtain ⟨others, whole⟩ := List.head?_eq_some_iff.mp first
  rw [← head_of_clustersFrom whole, same]

/-- The first word starts with the first character, if that is no separator. -/
theorem exists_first_word {c : Char} {rest : List Char} (other : ¬ (c = ' ' ∨ c = '-' ∨ c = '_')) :
    ∃ word ∈ words (c :: rest), word.head? = some c := by
  obtain ⟨cluster, others, split⟩ : ∃ cluster others, clusters (c :: rest) = cluster :: others :=
    List.exists_cons_of_ne_nil (clustersFrom_ne_nil .nothing c rest)
  have head := head_of_clustersFrom split
  have some : isSeparator cluster = false := by
    rw [Bool.eq_false_iff]
    intro separator
    obtain ⟨d, rfl, own⟩ := isSeparator_iff.mp separator
    obtain rfl : d = c := by simpa using head
    exact other own
  have plain : startsWord .other (Kind.ofCluster cluster) (kindOfNext others) = false := rfl
  obtain ⟨first, more, rfl⟩ : ∃ first more, cluster = first :: more := by
    cases cluster with
    | nil => cases head
    | cons first more => exact ⟨first, more, rfl⟩
  refine ⟨_, List.mem_filter.mpr ⟨List.mem_cons_self, ?_⟩, ?_⟩
  · rw [split, split_cons]
    simp [some, plain]
  · rw [split, split_cons]
    simpa [some, plain] using head

end Words

section Names

theorem any_capitalizedWord (word : List Char) :
    (capitalizedWord word).any isNameChar = (word.any isNameChar || word.head? == some combiningIota) := by
  cases word with
  | nil => rfl
  | cons c rest =>
    rw [capitalizedWord, List.any_append, lowerText, any_lowerAfter, List.any_cons, List.head?_cons]
    by_cases iota : c = combiningIota
    · simp [iota, upper_combiningIota]
    · simp [iota, any_upper iota]

/-- Pascal case leaves a character of names where something other than a separator is one or has one, or where the
combining iota stands in front. -/
theorem any_pascalCase (text : List Char) :
    ((words text).flatMap capitalizedWord).any isNameChar = true ↔
      (∃ cluster ∈ clusters text, isSeparator cluster = false ∧ ∃ c ∈ cluster, isNameChar c = true) ∨
        text.head? = some combiningIota := by
  have kept_any : (words text).any (fun word => word.any isNameChar) = true ↔
      ∃ cluster ∈ clusters text, isSeparator cluster = false ∧ ∃ c ∈ cluster, isNameChar c = true := by
    rw [← List.any_flatten, flatten_words, List.any_flatten]
    simp [kept]
  have head_any : (words text).any (fun word => word.head? == some combiningIota) = true ↔
      text.head? = some combiningIota := by
    simp only [List.any_eq_true, beq_iff_eq]
    constructor
    · rintro ⟨word, member, starts⟩
      exact head_of_mem_words (by decide +kernel) member starts
    · intro starts
      cases text with
      | nil => cases starts
      | cons c rest =>
        obtain rfl := Option.some.inj starts
        exact exists_first_word (by decide)
  have parts : (words text).any (fun word => word.any isNameChar || word.head? == some combiningIota) =
      ((words text).any (fun word => word.any isNameChar) ||
        (words text).any fun word => word.head? == some combiningIota) := by
    induction words text with
    | nil => rfl
    | cons word others ih =>
      simp only [List.any_cons, ih]
      ac_rfl
  simp only [List.any_flatMap, any_capitalizedWord, parts, Bool.or_eq_true, kept_any, head_any]

theorem flatMap_capitalizedWord_eq_nil_iff (text : List Char) :
    (words text).flatMap capitalizedWord = [] ↔ ∀ c ∈ text, c = ' ' ∨ c = '-' ∨ c = '_' := by
  rw [← words_eq_nil_iff, List.flatMap_eq_nil_iff]
  constructor
  · intro empty
    rw [List.eq_nil_iff_forall_not_mem]
    intro word member
    have own := empty word member
    cases word with
    | nil => exact nil_notMem_words text member
    | cons c rest => exact upper_ne_nil c (List.append_eq_nil_iff.mp own).1
  · intro empty word member
    rw [empty] at member
    cases member

end Names

end PageEditor.Text.Pascal

namespace PageEditor.Generate

/-- Nothing is left of a blank name in Pascal case. -/
def IsBlank (name : String) : Prop := ∀ c ∈ name.toList, c = ' ' ∨ c = '-' ∨ c = '_'

instance (name : String) : Decidable (IsBlank name) := List.decidableBAll _ name.toList

theorem pascalCase_eq_empty_iff (name : String) : Text.pascalCase name = "" ↔ IsBlank name := by
  rw [IsBlank, ← Text.Pascal.flatMap_capitalizedWord_eq_nil_iff, Text.pascalCase, ← String.toList_inj,
    String.toList_ofList, String.toList_empty]

/-- An underscore that carries a mark separates nothing. -/
example : Text.pascalCase "_\u0903" = "_\u0903" := by decide +kernel

theorem moduleText_names (options : Options) (forest : Forest) :
    ∃ before between, moduleText options forest =
      .ok (before ++ "\nconst " ++ constantName options ++ " = () => \x7b\n" ++ between ++ "\nexport default "
        ++ constantName options ++ ";\n") := by
  have closing : "    </>\n  );\n\x7d;\n\nexport default " = "    </>\n  );\n\x7d;\n" ++ "\nexport default " := rfl
  refine ⟨String.join ((moduleParts options forest).take 4),
    String.join (((moduleParts options forest).drop 7).take 4) ++ "    </>\n  );\n\x7d;\n", ?_⟩
  rw [moduleText_eq]
  simp only [moduleParts, closing, List.take_succ_cons, List.take_zero, List.drop_succ_cons, List.drop_zero,
    String.join_cons, String.join_nil, String.append_assoc, String.append_empty]

/-- The name of the component stands in its declaration and in the export. It is the Pascal case of the name that
the options give, or replaces that if it is blank. It has a character of names iff the name is blank or keeps one
beside its separators, unless it starts with the combining iota, which is raised to a letter. -/
theorem constantName_usable_iff (options : Options) (forest : Forest) :
    let name := options.componentName
    (∃ before between, generate options forest =
        if options.strict && (findings options forest).any Finding.isError then
          .error (.invalidPage (findings options forest))
        else .ok (before ++ "\nconst " ++ constantName options ++ " = () => \x7b\n" ++ between ++ "\nexport default "
          ++ constantName options ++ ";\n")) ∧
      (constantName options = if IsBlank name then "GeneratedComponent" else Text.pascalCase name) ∧
      ((∃ c ∈ (constantName options).toList, Text.isNameChar c = true) ↔
        IsBlank name ∨ name.toList.head? = some Text.combiningIota ∨
          ∃ cluster ∈ Text.clusters name.toList, Text.Pascal.isSeparator cluster = false ∧
            ∃ c ∈ cluster, Text.isNameChar c = true) := by
  intro name
  have named : constantName options = if IsBlank name then "GeneratedComponent" else Text.pascalCase name := by
    simp only [constantName_eq, pascalCase_eq_empty_iff, name]
  obtain ⟨before, between, written⟩ := moduleText_names options forest
  refine ⟨⟨before, between, ?_⟩, named, ?_⟩
  · rw [generate, written]
  · rw [named]
    by_cases blank : IsBlank name
    · rw [if_pos blank]
      simp only [blank, true_or, iff_true]
      exact ⟨'G', by decide, by decide +kernel⟩
    · rw [if_neg blank, Text.pascalCase, String.toList_ofList, ← List.any_eq_true, Text.Pascal.any_pascalCase]
      simp only [blank, false_or]
      exact or_comm

/-- Exclamation marks are left, and no name. -/
theorem marks_named : ¬ ∀ options : Options, ∃ c ∈ (constantName options).toList, Text.isNameChar c = true := by
  intro always
  have named := always { Options.standard with componentName := "!!!" }
  rw [← List.any_eq_true] at named
  revert named
  decide +kernel

end PageEditor.Generate
