import Mathlib.Data.List.Chain
import PageEditor.Generate.Module
import PageEditor.Proofs.WrittenScalars

/-!
Templates that are written from their pieces. Texts stand as they are, expressions between doubled braces. Where
no text holds doubled braces or stands next to another one, the template is read as the pieces it was written
from. The template of a module is one of these.
-/

namespace PageEditor.Template

def pathText (names : List String) : List Char := ['.'].intercalate (names.map String.toList)

def Argument.written : Argument → List Char
  | .path names => pathText names
  | .text value => Json.quoted value

def argumentsText (arguments : List Argument) : List Char := arguments.flatMap (' ' :: ·.written)

def expressionText (names : List String) (arguments : List Argument) : List Char :=
  '{' :: '{' :: (pathText names ++ argumentsText arguments ++ ['}', '}'])

def Piece.written : Piece → List Char
  | .text copied => copied.toList
  | .value path => expressionText path []
  | .pascal argument => expressionText ["pascal_case"] argument.toList

/-- Names that can stand in a path. -/
def Path (names : List String) : Prop :=
  names ≠ [] ∧ ∀ name ∈ names, name ≠ "" ∧ name.toList.all fun c => isPathChar c && c != '.'

instance (names : List String) : Decidable (Path names) := inferInstanceAs (Decidable (_ ∧ _))

def Argument.Readable : Argument → Prop
  | .path names => Path names
  | .text _ => True

instance : DecidablePred Argument.Readable
  | .path names => inferInstanceAs (Decidable (Path names))
  | .text _ => isTrue trivial

/-- A text has no doubled braces, nor makes some with the braces that follow it. -/
def Piece.Readable : Piece → Prop
  | .text copied => copied ≠ "" ∧ ¬ ['{', '{'] <:+: copied.toList ++ ['{']
  | .value path => path ≠ ["pascal_case"] ∧ Path path
  | .pascal argument => ∀ own ∈ argument, own.Readable

instance : DecidablePred Piece.Readable
  | .text _ | .value _ => inferInstanceAs (Decidable (_ ∧ _))
  | .pascal argument => inferInstanceAs (Decidable (∀ own ∈ argument, own.Readable))

def Piece.isText : Piece → Bool
  | .text _ => true
  | _ => false

structure Readable (pieces : List Piece) : Prop where
  each : ∀ piece ∈ pieces, piece.Readable
  apart : pieces.IsChain fun piece next => ¬(piece.isText ∧ next.isText)

section Paths

variable {names : List String} {rest : List Char}

theorem Path.chars (path : Path names) {name : String} (listed : name ∈ names) :
    ∀ c ∈ name.toList, isPathChar c = true ∧ c ≠ '.' := by
  intro c member
  simpa using List.all_eq_true.mp (path.2 name listed).2 c member

theorem Path.tail {name next : String} (path : Path (name :: next :: names)) : Path (next :: names) :=
  ⟨by simp, (List.forall_mem_cons.mp path.2).2⟩

theorem splitPath_cons {c : Char} (other : c ≠ '.') {text : List Char} {name : List Char} {names : List (List Char)}
    (split : splitPath text = name :: names) : splitPath (c :: text) = (c :: name) :: names := by
  rw [splitPath, split]
  exact other

theorem splitPath_name {name : List Char} (plain : ∀ c ∈ name, c ≠ '.') : splitPath name = [name] := by
  induction name with
  | nil => rw [splitPath]
  | cons c name ih =>
    obtain ⟨own, others⟩ := List.forall_mem_cons.mp plain
    exact splitPath_cons own (ih others)

theorem splitPath_append {name : List Char} (plain : ∀ c ∈ name, c ≠ '.') (text : List Char) :
    splitPath (name ++ '.' :: text) = name :: splitPath text := by
  induction name with
  | nil => rw [List.nil_append, splitPath]
  | cons c name ih =>
    obtain ⟨own, others⟩ := List.forall_mem_cons.mp plain
    exact splitPath_cons own (ih others)

theorem pathText_singleton (name : String) : pathText [name] = name.toList := by
  rw [pathText, List.map_cons, List.map_nil, List.intercalate_singleton]

theorem pathText_cons_cons (name next : String) (names : List String) :
    pathText (name :: next :: names) = name.toList ++ '.' :: pathText (next :: names) := by
  rw [pathText, List.map_cons, List.map_cons, List.intercalate_cons_cons, List.append_assoc, List.singleton_append]
  rfl

theorem splitPath_pathText (path : Path names) : splitPath (pathText names) = names.map String.toList := by
  induction names with
  | nil => exact absurd rfl path.1
  | cons name names ih =>
    have undotted : ∀ c ∈ name.toList, c ≠ '.' := fun c member => (path.chars List.mem_cons_self c member).2
    cases names with
    | nil => rw [pathText_singleton, splitPath_name undotted, List.map_cons, List.map_nil]
    | cons next names =>
      rw [pathText_cons_cons, splitPath_append undotted, ih path.tail]
      rfl

theorem isPathChar_of_mem_pathText (path : Path names) : ∀ c ∈ pathText names, isPathChar c = true := by
  induction names with
  | nil => exact absurd rfl path.1
  | cons name names ih =>
    have own : ∀ c ∈ name.toList, isPathChar c = true := fun c member => (path.chars List.mem_cons_self c member).1
    cases names with
    | nil =>
      rw [pathText_singleton]
      exact own
    | cons next names =>
      rw [pathText_cons_cons, List.forall_mem_append, List.forall_mem_cons]
      exact ⟨own, by decide, ih path.tail⟩

/-- A path starts with a character of its first name. -/
theorem pathText_eq_cons (path : Path names) :
    ∃ c text, pathText names = c :: text ∧ isPathChar c = true := by
  have chars := isPathChar_of_mem_pathText path
  cases spelled : pathText names with
  | nil =>
    have split := splitPath_pathText path
    rw [spelled, splitPath] at split
    cases names with
    | nil => cases split
    | cons name names =>
      have empty : name = "" := String.toList_eq_nil_iff.mp (List.cons.inj split).1.symm
      exact absurd empty (path.2 name List.mem_cons_self).1
  | cons c text => exact ⟨c, text, rfl, chars c (by rw [spelled]; exact List.mem_cons_self)⟩

theorem takePath_pathText (path : Path names) (stops : ∀ c ∈ rest.head?, isPathChar c = false) :
    takePath (pathText names ++ rest) = .ok (names, rest) := by
  have chars := isPathChar_of_mem_pathText path
  have ended : rest.takeWhile isPathChar = [] ∧ rest.dropWhile isPathChar = rest := by
    cases rest with
    | nil => exact ⟨rfl, rfl⟩
    | cons c rest => simp [stops c rfl]
  have filled : ((names.map String.toList).any List.isEmpty) = false := by
    rw [List.any_map, List.any_eq_false]
    intro name member
    simpa using (path.2 name member).1
  rw [takePath, List.takeWhile_append_of_pos chars, List.dropWhile_append_of_pos chars, ended.1, ended.2, List.append_nil,
    splitPath_pathText path]
  simp only [filled, Bool.false_eq_true, ite_false, List.map_map]
  simp [Function.comp_def]

end Paths

section Expressions

theorem takeArguments_blank (fuel : Nat) (text : List Char) :
    takeArguments ['}', '}'] (fuel + 1) (' ' :: text) = takeArguments ['}', '}'] (fuel + 1) text := by
  rw [takeArguments, takeArguments]
  rfl

theorem takeArguments_closing (fuel : Nat) (rest : List Char) :
    takeArguments ['}', '}'] (fuel + 1) ('}' :: '}' :: rest) = .ok ([], rest) := by
  rw [takeArguments]
  rfl

theorem ne_of_isPathChar {c d : Char} (starts : isPathChar c = true) (apart : isPathChar d = false) : c ≠ d := by
  rintro rfl
  cases starts.symm.trans apart

theorem not_isBlank_of_isPathChar {c : Char} (starts : isPathChar c = true) : ¬isBlank c = true := by
  have other {d : Char} (apart : isPathChar d = false) : c ≠ d := ne_of_isPathChar starts apart
  simp only [isBlank, Bool.or_eq_true, beq_iff_eq, not_or]
  exact ⟨⟨⟨other (by decide), other (by decide)⟩, other (by decide)⟩, other (by decide)⟩

theorem takeArguments_name (fuel : Nat) {c : Char} {text : List Char} (starts : isPathChar c = true) :
    takeArguments ['}', '}'] (fuel + 1) (c :: text) = (do
      let (names, rest) ← takePath (c :: text)
      let (arguments, rest) ← takeArguments ['}', '}'] fuel rest
      return (.path names :: arguments, rest)) := by
  have closed : ['}', '}'].isPrefixOf (c :: text) = false := by
    rw [List.isPrefixOf, beq_eq_false_iff_ne.mpr (ne_of_isPathChar starts (by decide)).symm, Bool.false_and]
  rw [takeArguments]
  simp only [List.dropWhile_cons_of_neg (not_isBlank_of_isPathChar starts), closed, Bool.false_eq_true, ite_false]
  split
  next more quote => exact absurd (List.cons.inj quote).1 (ne_of_isPathChar starts (by decide))
  next => cases takePath (c :: text) <;> rfl

theorem takeArguments_quoted (fuel : Nat) (value : String) (rest : List Char) :
    takeArguments ['}', '}'] (fuel + 1) (Json.quoted value ++ rest) = (do
      let (arguments, rest) ← takeArguments ['}', '}'] fuel rest
      return (.text value :: arguments, rest)) := by
  have spelled : Json.quoted value ++ rest = '"' :: (value.toList.flatMap Json.escaped ++ '"' :: rest) := by
    simp [Json.quoted]
  have unblanked (text : List Char) : ('"' :: text).dropWhile isBlank = '"' :: text :=
    List.dropWhile_cons_of_neg (by decide)
  have closed (text : List Char) : ['}', '}'].isPrefixOf ('"' :: text) = false := rfl
  rw [spelled, takeArguments]
  simp only [unblanked, closed, Bool.false_eq_true, ite_false, Json.readQuoted_flatMap_escaped, String.ofList_toList]
  rfl

/-- A path ends where arguments or closing braces follow. -/
theorem ended_arguments (arguments : List Argument) (rest : List Char) :
    ∀ c ∈ (argumentsText arguments ++ '}' :: '}' :: rest).head?, isPathChar c = false := by
  cases arguments with
  | nil => rintro _ ⟨rfl⟩; decide
  | cons => rintro _ ⟨rfl⟩; decide

theorem takeArguments_written {arguments : List Argument} (readable : ∀ own ∈ arguments, own.Readable) {fuel : Nat}
    (enough : arguments.length < fuel) (rest : List Char) :
    takeArguments ['}', '}'] fuel (argumentsText arguments ++ '}' :: '}' :: rest) = .ok (arguments, rest) := by
  induction arguments generalizing fuel with
  | nil =>
    obtain ⟨fuel, rfl⟩ := Nat.exists_eq_add_of_lt enough
    exact takeArguments_closing _ rest
  | cons own arguments ih =>
    obtain ⟨first, others⟩ := List.forall_mem_cons.mp readable
    obtain ⟨fuel, rfl⟩ : ∃ more, fuel = more + 1 := Nat.exists_eq_add_one.mpr (Nat.zero_lt_of_lt enough)
    have later := ih others (Nat.lt_of_succ_lt_succ enough)
    rw [argumentsText, List.flatMap_cons, List.cons_append, List.cons_append, takeArguments_blank, List.append_assoc]
    change takeArguments _ _ (own.written ++ (argumentsText arguments ++ _)) = _
    cases own with
    | text value =>
      rw [Argument.written, takeArguments_quoted, later]
      rfl
    | path names =>
      obtain ⟨c, text, spelled, starts⟩ := pathText_eq_cons first
      have taken := takePath_pathText first (ended_arguments arguments rest)
      rw [Argument.written, spelled, List.cons_append, takeArguments_name _ starts, ← List.cons_append, ← spelled,
        taken]
      simp only [bind, Except.bind, later]
      rfl

theorem length_le_argumentsText (arguments : List Argument) : arguments.length ≤ (argumentsText arguments).length := by
  induction arguments with
  | nil => exact Nat.zero_le _
  | cons own arguments ih =>
    rw [argumentsText, List.flatMap_cons, List.length_append, List.length_cons, List.length_cons]
    rw [argumentsText] at ih
    omega

theorem takeExpression_written {names : List String} (path : Path names) {arguments : List Argument}
    (readable : ∀ own ∈ arguments, own.Readable) (rest : List Char) :
    takeExpression ['}', '}'] (pathText names ++ (argumentsText arguments ++ '}' :: '}' :: rest)) =
      if names = ["pascal_case"] then .ok (.pascal arguments.head?, rest)
      else if arguments.isEmpty then .ok (.value names, rest)
      else .error (.unknownHelper (".".intercalate names)) := by
  obtain ⟨c, text, spelled, starts⟩ := pathText_eq_cons path
  have unblanked : (pathText names ++ (argumentsText arguments ++ '}' :: '}' :: rest)).dropWhile isBlank =
      pathText names ++ (argumentsText arguments ++ '}' :: '}' :: rest) := by
    rw [spelled, List.cons_append, List.dropWhile_cons_of_neg (not_isBlank_of_isPathChar starts)]
  have enough : arguments.length < (argumentsText arguments ++ '}' :: '}' :: rest).length + 1 := by
    have fewer := length_le_argumentsText arguments
    rw [List.length_append]
    omega
  rw [takeExpression, unblanked, takePath_pathText path (ended_arguments arguments rest)]
  simp only [bind, Except.bind, takeArguments_written readable enough]
  rfl

end Expressions

section Reading

variable {text : List Char} {pieces : List Piece}

/-- What is made of a text, if the number of steps is not bounded. -/
def Reads (text : List Char) (pieces : List Piece) : Prop :=
  ∀ fuel, text.length < fuel → parseChars fuel text = .ok pieces

theorem reads_nil : Reads [] [] := by
  intro fuel _
  cases fuel <;> rfl

theorem Reads.char {c : Char} (single : ¬ ['{', '{'] <+: c :: text) (reads : Reads text pieces) :
    Reads (c :: text) (putChar c pieces) := by
  intro fuel enough
  obtain ⟨fuel, rfl⟩ : ∃ more, fuel = more + 1 := Nat.exists_eq_add_one.mpr (Nat.zero_lt_of_lt enough)
  have later := reads fuel (Nat.lt_of_succ_lt_succ enough)
  rw [parseChars, later]
  · rfl
  · rintro more rfl rfl
    exact single ⟨_, rfl⟩
  · rintro more rfl rfl
    exact single ⟨_, rfl⟩

theorem Reads.expression {piece : Piece} {rest : List Char} (reads : Reads rest pieces)
    (taken : takeExpression ['}', '}'] text = .ok (piece, rest)) (shorter : rest.length ≤ text.length)
    (apart : text.head? ≠ some '{') : Reads ('{' :: '{' :: text) (piece :: pieces) := by
  intro fuel enough
  obtain ⟨fuel, rfl⟩ : ∃ more, fuel = more + 1 := Nat.exists_eq_add_one.mpr (Nat.zero_lt_of_lt enough)
  have later := reads fuel (by simp only [List.length_cons] at enough; omega)
  rw [parseChars, taken]
  · simp only [bind, Except.bind, later]
    rfl
  · rintro more rfl
    exact apart rfl

/-- A text is read up to the piece that follows it, which is no text. -/
theorem Reads.copied {copied : List Char} (filled : copied ≠ []) (plain : ¬ ['{', '{'] <:+: copied ++ ['{'])
    (apart : ∀ piece ∈ pieces.head?, ¬piece.isText) (reads : Reads text pieces) :
    Reads (copied ++ text) (.text (String.ofList copied) :: pieces) := by
  induction copied with
  | nil => exact absurd rfl filled
  | cons c copied ih =>
    have inside : ¬ ['{', '{'] <:+: copied ++ ['{'] := fun found => plain (found.trans (List.suffix_cons ..).isInfix)
    cases copied with
    | nil =>
      have single : ¬ ['{', '{'] <+: c :: text := by
        intro doubled
        obtain ⟨rfl, _⟩ := List.cons_prefix_cons.mp doubled
        exact plain (List.infix_rfl ..)
      have put : putChar c pieces = .text (String.ofList [c]) :: pieces := by
        cases pieces with
        | nil => rfl
        | cons piece pieces =>
          cases piece with
          | text value => exact absurd rfl (apart _ rfl)
          | value path | pascal argument => rfl
      rw [← put]
      exact reads.char single
    | cons d copied =>
      have single : ¬ ['{', '{'] <+: c :: (d :: copied ++ text) := by
        intro doubled
        obtain ⟨rfl, next⟩ := List.cons_prefix_cons.mp doubled
        obtain ⟨rfl, _⟩ := List.cons_prefix_cons.mp next
        exact plain ⟨[], copied ++ ['{'], rfl⟩
      have put : putChar c (.text (String.ofList (d :: copied)) :: pieces) =
          .text (String.ofList (c :: d :: copied)) :: pieces := by
        rw [putChar, String.toList_ofList]
      rw [← put]
      exact (ih (by simp) inside).char single

/-- An expression is read up to its closing braces. -/
theorem Reads.written {names : List String} (path : Path names) {arguments : List Argument} {piece : Piece}
    (taken : takeExpression ['}', '}'] (pathText names ++ (argumentsText arguments ++ '}' :: '}' :: text)) =
      .ok (piece, text)) (reads : Reads text pieces) :
    Reads (expressionText names arguments ++ text) (piece :: pieces) := by
  have whole : expressionText names arguments ++ text =
      '{' :: '{' :: (pathText names ++ (argumentsText arguments ++ '}' :: '}' :: text)) := by
    simp [expressionText]
  obtain ⟨c, name, spelled, starts⟩ := pathText_eq_cons path
  rw [whole]
  refine reads.expression taken ?_ ?_
  · simp only [List.length_append, List.length_cons]
    omega
  · rw [spelled]
    exact fun same => ne_of_isPathChar starts (by decide) (Option.some.inj same)

theorem reads_written (readable : Readable pieces) : Reads (pieces.flatMap Piece.written) pieces := by
  obtain ⟨each, apart⟩ := readable
  induction pieces with
  | nil => exact reads_nil
  | cons piece pieces ih =>
    obtain ⟨own, others⟩ := List.forall_mem_cons.mp each
    obtain ⟨next, later⟩ := List.isChain_cons.mp apart
    have rest := ih others later
    rw [List.flatMap_cons]
    cases piece with
    | text copied =>
      obtain ⟨filled, plain⟩ := own
      have read := rest.copied (by simpa using filled) plain fun piece member both => next piece member ⟨rfl, both⟩
      rwa [String.ofList_toList] at read
    | value path =>
      obtain ⟨other, path⟩ := own
      refine rest.written path ?_
      rw [takeExpression_written path (List.forall_mem_nil _), if_neg other]
      rfl
    | pascal argument =>
      have known : Path ["pascal_case"] := by decide +kernel
      refine rest.written known ?_
      rw [takeExpression_written known fun given member => own given (Option.mem_toList.mp member), if_pos rfl]
      cases argument <;> rfl

end Reading

/-- A template that is written from readable pieces is read as these pieces. -/
theorem parse_written {pieces : List Piece} (readable : Readable pieces) :
    parse (String.ofList (pieces.flatMap Piece.written)) = .ok pieces := by
  rw [parse, String.toList_ofList]
  exact reads_written readable _ (by simp)

end PageEditor.Template

namespace PageEditor.Generate

open Template

def moduleTemplate : String :=
  "import React, \x7b useState, useRef \x7d from 'react';\n" ++
  "import \x7b message \x7d from '\x7b\x7blibrary\x7d\x7d';\n" ++
  "\x7b\x7bimports\x7d\x7d\n" ++
  "const \x7b\x7bpascal_case component\x7d\x7d = () => \x7b\n" ++
  "\x7b\x7bdeclarations\x7d\x7d\x7b\x7bhandlers\x7d\x7d  return (\n" ++
  "    <>\n" ++
  "\x7b\x7bmarkup\x7d\x7d    </>\n" ++
  "  );\n" ++
  "\x7d;\n" ++
  "\n" ++
  "export default \x7b\x7bpascal_case component\x7d\x7d;\n"

theorem readable_moduleLayout : Readable moduleLayout := by
  constructor
  · decide +kernel
  · decide +kernel

theorem moduleTemplate_eq : moduleTemplate = String.ofList (moduleLayout.flatMap Piece.written) := by
  simp only [moduleLayout, List.flatMap_cons, List.flatMap_nil, Piece.written, String.ofList_append, String.ofList_toList]
  decide +kernel

theorem fill_moduleTemplate (data : Json) : fill moduleTemplate data = render data moduleLayout := by
  rw [fill, moduleTemplate_eq, parse_written readable_moduleLayout]
  rfl

end PageEditor.Generate
