/-
The batch configuration as job parameters.

`FlexibleFileProcessor` writes the column names into one parameter, joined with
commas, and the step-scoped reader and writer get them back by the conversion of a
text to an array.  A Java string is its sequence of UTF-16 code units.  The tokenizer
is the framework's; what an empty text becomes when it is bound to an array is a
parameter too.
-/

import Mathlib.Logic.Function.Basic
import SpringExamples.Foundation.DelimitedText

set_option autoImplicit false

namespace SpringExamples.Batch

open DelimitedText

abbrev JavaString := List UInt16

/-- The code units of a literal without characters outside the basic plane. -/
def literal (text : String) : JavaString := text.toList.map fun c => UInt16.ofNat c.toNat

def comma : UInt16 := 44

def HashMap (Key Value : Type) : Type := Key → Option Value

namespace HashMap

variable {Key Value : Type}

def empty : HashMap Key Value := fun _ => none

def put [DecidableEq Key] (map : HashMap Key Value) (key : Key) (value : Value) :
    HashMap Key Value :=
  Function.update map key (some value)

end HashMap

structure FileBatchProcessContext where
  columnNames : List JavaString
  delimiter : UInt16
  /-- The milliseconds of the date. -/
  date : Int64
  /-- The absolute path of the file. -/
  file : JavaString

inductive JobParameter where
  | text (value : JavaString)
  | long (value : Int64)

abbrev JobParameters := HashMap String JobParameter

def StringUtils.join (items : List JavaString) (separator : JavaString) : JavaString :=
  separator.intercalate items

def FlexibleFileProcessor.process {JobExecution : Type} (run : JobParameters → JobExecution)
    (fileBatchProcessContext : FileBatchProcessContext) : JobExecution :=
  let parameterMap : JobParameters := HashMap.empty
  let parameterMap := parameterMap.put "file" (.text fileBatchProcessContext.file)
  let parameterMap := parameterMap.put "delimiter" (.text [fileBatchProcessContext.delimiter])
  let parameterMap := parameterMap.put "timestamp" (.long fileBatchProcessContext.date)
  let parameterMap := parameterMap.put "columnNames"
    (.text (StringUtils.join fileBatchProcessContext.columnNames [comma]))
  run parameterMap

def JobParameters.text (jobParameters : JobParameters) (key : String) : Option JavaString :=
  match jobParameters key with
  | some (.text value) => some value
  | some (.long _) => none
  | none => none

/-- Only a text of one character is a character. -/
def toCharacter : JavaString → Option UInt16
  | [character] => some character
  | _ => none

/-- Every comma separates two names, and nothing is trimmed. -/
def toStringArray (emptyText : List JavaString) (text : JavaString) : List JavaString :=
  if text = [] then emptyText else text.splitOn comma

structure DelimitedLineTokenizer where
  delimiter : UInt16
  names : List JavaString

structure MyCustomItemWriter where
  names : List JavaString
  delimiter : JavaString

def flexibleReader (emptyText : List JavaString) (jobParameters : JobParameters) :
    Option DelimitedLineTokenizer :=
  (jobParameters.text "delimiter").bind fun delimiter =>
    (toCharacter delimiter).bind fun character =>
      (jobParameters.text "columnNames").map fun columnNames =>
        { delimiter := character, names := toStringArray emptyText columnNames }

def myCustomItemWriter (emptyText : List JavaString) (jobParameters : JobParameters) :
    Option MyCustomItemWriter :=
  (jobParameters.text "delimiter").bind fun delimiter =>
    (jobParameters.text "columnNames").map fun columnNames =>
      { names := toStringArray emptyText columnNames, delimiter := delimiter }

/-- A tokenizer without names makes a field set without names. -/
structure FieldSet where
  tokens : List JavaString
  names : Option (List JavaString)

/-- `Unit` stands for the exception about a wrong number of tokens. -/
def DelimitedLineTokenizer.tokenize (doTokenize : UInt16 → JavaString → List JavaString)
    (tokenizer : DelimitedLineTokenizer) (line : JavaString) : Except Unit FieldSet :=
  let values := doTokenize tokenizer.delimiter line
  if tokenizer.names.length = 0 then .ok ⟨values, none⟩
  else if values.length ≠ tokenizer.names.length then .error ()
  else .ok ⟨values, some tokenizer.names⟩

def isBlank (unit : UInt16) : Bool := decide (unit ≤ 32)

def trim (text : JavaString) : JavaString :=
  ((text.dropWhile isBlank).reverse.dropWhile isBlank).reverse

namespace FieldSet

def getNames (fieldSet : FieldSet) : Except Unit (List JavaString) :=
  match fieldSet.names with
  | none => .error ()
  | some names => .ok names

/-- The trimmed token at the first position of the name. -/
def readString (fieldSet : FieldSet) (name : JavaString) : Except Unit JavaString :=
  match fieldSet.getNames with
  | .error () => .error ()
  | .ok names =>
      match fieldSet.tokens[names.idxOf name]? with
      | none => .error ()
      | some token => .ok (trim token)

end FieldSet

structure RowDTO where
  row : HashMap JavaString JavaString

namespace FlexibleFieldSetMapper

/-- One round of the loop over the column names. -/
def putColumn (fieldSet : FieldSet) (kvs : HashMap JavaString JavaString) (colName : JavaString) :
    Except Unit (HashMap JavaString JavaString) :=
  (fieldSet.readString colName).map fun value => kvs.put colName value

def mapFieldSet (fieldSet : FieldSet) : Except Unit RowDTO :=
  fieldSet.getNames.bind fun colNames =>
    (colNames.foldlM (putColumn fieldSet) HashMap.empty).map RowDTO.mk

end FlexibleFieldSetMapper

def mapLine (doTokenize : UInt16 → JavaString → List JavaString)
    (tokenizer : DelimitedLineTokenizer) (line : JavaString) : Except Unit RowDTO :=
  (tokenizer.tokenize doTokenize line).bind FlexibleFieldSetMapper.mapFieldSet

theorem readString_of_mem {tokens names : List JavaString} (enough : tokens.length = names.length)
    {name : JavaString} (member : name ∈ names) :
    ∃ token, tokens[names.idxOf name]? = some token ∧
      FieldSet.readString ⟨tokens, some names⟩ name = .ok (trim token) := by
  have within : names.idxOf name < tokens.length := by
    rw [enough]
    exact List.idxOf_lt_length_of_mem member
  refine ⟨tokens[names.idxOf name], List.getElem?_eq_getElem within, ?_⟩
  simp only [FieldSet.readString, FieldSet.getNames, List.getElem?_eq_getElem within]

/-- The loop writes the names it visits and no others. -/
theorem foldlM_putColumn {tokens names : List JavaString} (enough : tokens.length = names.length)
    (visited : List JavaString) (known : visited ⊆ names) (kvs : HashMap JavaString JavaString) :
    ∃ row, visited.foldlM (FlexibleFieldSetMapper.putColumn ⟨tokens, some names⟩) kvs =
        .ok row ∧
      (∀ name ∈ visited, ∃ token, tokens[names.idxOf name]? = some token ∧
        row name = some (trim token)) ∧
      ∀ name, name ∉ visited → row name = kvs name := by
  induction visited generalizing kvs with
  | nil => exact ⟨kvs, rfl, nofun, fun _ _ => rfl⟩
  | cons colName rest ih =>
      obtain ⟨token, found, read⟩ := readString_of_mem enough (known List.mem_cons_self)
      obtain ⟨row, folded, written, kept⟩ :=
        ih (fun name member => known (List.mem_cons_of_mem colName member))
          (kvs.put colName (trim token))
      refine ⟨row, ?_, ?_, ?_⟩
      · rw [List.foldlM_cons, FlexibleFieldSetMapper.putColumn, read]
        exact folded
      · intro name member
        by_cases again : name ∈ rest
        · exact written name again
        · have same : name = colName := (List.mem_cons.mp member).resolve_right again
          subst same
          refine ⟨token, found, ?_⟩
          rw [kept name again]
          exact Function.update_self name _ kvs
      · intro name absent
        rw [List.mem_cons, not_or] at absent
        rw [kept name absent.2]
        exact Function.update_of_ne absent.1 _ kvs

/-- The row has the column names as its keys, each with the trimmed token in its place. -/
structure RowOf (names tokens : List JavaString) (dto : RowDTO) : Prop where
  keys : ∀ key, (dto.row key).isSome = true ↔ key ∈ names
  value : ∀ (i : Nat) name token, names[i]? = some name → tokens[i]? = some token →
    dto.row name = some (trim token)

theorem mapFieldSet_rowOf {tokens names : List JavaString}
    (enough : tokens.length = names.length) (distinct : names.Nodup) :
    ∃ dto, FlexibleFieldSetMapper.mapFieldSet ⟨tokens, some names⟩ = .ok dto ∧
      RowOf names tokens dto := by
  obtain ⟨row, folded, written, kept⟩ :=
    foldlM_putColumn enough names (List.Subset.refl names) HashMap.empty
  refine ⟨⟨row⟩, ?_, ?_, ?_⟩
  · change Except.map RowDTO.mk (names.foldlM _ HashMap.empty) = _
    rw [folded]
    rfl
  · intro key
    by_cases member : key ∈ names
    · obtain ⟨token, _, stored⟩ := written key member
      change (row key).isSome = true ↔ _
      rw [stored]
      exact iff_of_true rfl member
    · change (row key).isSome = true ↔ _
      rw [kept key member]
      exact iff_of_false nofun member
  · intro i name token named stands
    obtain ⟨within, same⟩ := List.getElem?_eq_some_iff.mp named
    obtain ⟨first, found, stored⟩ := written name (same ▸ List.getElem_mem within)
    have place : names.idxOf name = i := by
      rw [← same]
      exact distinct.idxOf_getElem i within
    rw [place, stands] at found
    cases found
    exact stored

section Binding

variable (emptyText : List JavaString) (doTokenize : UInt16 → JavaString → List JavaString)

/-- What the reader and the writer of the launched step are given, and what the reader
makes of each record with as many tokens as there are columns. -/
structure Survives (context : FileBatchProcessContext) : Prop where
  reader : FlexibleFileProcessor.process (flexibleReader emptyText) context =
    some { delimiter := context.delimiter, names := context.columnNames }
  writer : FlexibleFileProcessor.process (myCustomItemWriter emptyText) context =
    some { names := context.columnNames, delimiter := [context.delimiter] }
  rows : ∀ tokenizer line,
    FlexibleFileProcessor.process (flexibleReader emptyText) context = some tokenizer →
      (doTokenize context.delimiter line).length = context.columnNames.length →
        ∃ dto, mapLine doTokenize tokenizer line = .ok dto ∧
          RowOf context.columnNames (doTokenize context.delimiter line) dto

def boundNames (context : FileBatchProcessContext) : List JavaString :=
  toStringArray emptyText (StringUtils.join context.columnNames [comma])

theorem process_reader (context : FileBatchProcessContext) :
    FlexibleFileProcessor.process (flexibleReader emptyText) context =
      some { delimiter := context.delimiter, names := boundNames emptyText context } := by
  rfl

theorem process_writer (context : FileBatchProcessContext) :
    FlexibleFileProcessor.process (myCustomItemWriter emptyText) context =
      some { names := boundNames emptyText context, delimiter := [context.delimiter] } := by
  rfl

theorem boundNames_eq_iff {context : FileBatchProcessContext}
    (nonempty : context.columnNames ≠ []) :
    boundNames emptyText context = context.columnNames ↔
      (∀ name ∈ context.columnNames, comma ∉ name) ∧
        (context.columnNames = [[]] → emptyText = [[]]) := by
  unfold boundNames toStringArray StringUtils.join
  by_cases blank : [comma].intercalate context.columnNames = []
  · have single := (join_eq_nil_iff comma nonempty).mp blank
    rw [if_pos blank, single]
    constructor
    · intro same
      exact ⟨by simp, fun _ => same⟩
    · intro given
      exact given.2 rfl
  · have several : context.columnNames ≠ [[]] :=
      fun single => blank ((join_eq_nil_iff comma nonempty).mpr single)
    rw [if_neg blank, splitOn_join_iff comma nonempty]
    constructor
    · intro free
      exact ⟨free, fun single => absurd single several⟩
    · intro given
      exact given.1

/-- The configuration survives exactly when no column name contains a comma, and the
array of one empty name only if that is what an empty text is bound to. -/
theorem survives_iff_no_comma (context : FileBatchProcessContext)
    (nonempty : context.columnNames ≠ []) (distinct : context.columnNames.Nodup) :
    Survives emptyText doTokenize context ↔
      (∀ name ∈ context.columnNames, comma ∉ name) ∧
        (context.columnNames = [[]] → emptyText = [[]]) := by
  rw [← boundNames_eq_iff emptyText nonempty]
  constructor
  · intro survives
    have reader := survives.reader
    rw [process_reader, Option.some_inj] at reader
    exact congrArg DelimitedLineTokenizer.names reader
  · intro same
    constructor
    · rw [process_reader, same]
    · rw [process_writer, same]
    · intro tokenizer line bound enough
      rw [process_reader, same] at bound
      cases bound
      obtain ⟨dto, mapped, row⟩ := mapFieldSet_rowOf enough distinct
      refine ⟨dto, ?_, row⟩
      have filled : context.columnNames.length ≠ 0 :=
        fun zero => nonempty (List.eq_nil_of_length_eq_zero zero)
      unfold mapLine DelimitedLineTokenizer.tokenize
      dsimp only
      rw [if_neg filled, if_neg (not_not.mpr enough)]
      exact mapped

end Binding

def cityCuisine (columnNames : List String) : FileBatchProcessContext :=
  { columnNames := columnNames.map literal
    delimiter := 9
    date := 0
    file := literal "/files/city_cuisine.csv" }

theorem two_columns_survive :
    Survives [] (fun delimiter line => line.splitOn delimiter)
      (cityCuisine ["cat_id", "city_id"]) :=
  (survives_iff_no_comma [] (fun delimiter line => line.splitOn delimiter)
    (cityCuisine ["cat_id", "city_id"]) (by decide) (by decide)).mpr
    ⟨by decide, fun single => absurd single (by decide)⟩

/-- One column whose name contains a comma arrives as two columns. -/
theorem comma_splits_column :
    ¬Survives [] (fun delimiter line => line.splitOn delimiter) (cityCuisine ["cat,city"]) := by
  intro survives
  have names := congrArg (Option.map DelimitedLineTokenizer.names) survives.reader
  exact absurd names (by decide)

end SpringExamples.Batch
