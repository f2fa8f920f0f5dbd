import Mathlib.Data.List.Basic
import Mathlib.Tactic.Common

/-! Tables as text: a field is quoted where it has to be, and a machine that takes one symbol
after another reads the rows back. -/
namespace Csv

structure Dialect (α : Type) where
  delimiter : α
  quote : α
  carriage : α
  feed : α
  distinct : [delimiter, quote, carriage, feed].Nodup

variable {α : Type} [DecidableEq α] (d : Dialect α)

namespace Dialect

/-! Writing. -/

def special (c : α) : Bool := [d.delimiter, d.quote, d.carriage, d.feed].contains c

def doubled (field : List α) : List α := field.flatMap fun c => if c = d.quote then [c, c] else [c]

def fieldText (field : List α) : List α :=
  if field.any d.special then d.quote :: (d.doubled field ++ [d.quote]) else field

/- An empty field that is alone on its row is quoted: a row of none is a blank line. -/
def rowText (row : List (List α)) : List α :=
  if row = [[]] then [d.quote, d.quote] else List.intercalate [d.delimiter] (row.map d.fieldText)

def write (rows : List (List (List α))) : List α := rows.flatMap fun row => d.rowText row ++ [d.carriage, d.feed]

end Dialect

/-! Reading. -/

inductive State where
  | startRecord
  | startField
  | inField
  | inQuoted
  | quoteInQuoted
  | afterCarriage
  deriving DecidableEq, Repr

structure Reader (α : Type) where
  state : State
  field : List α
  row : List (List α)
  rows : List (List (List α))
  deriving DecidableEq, Repr

namespace Reader

def start : Reader α := ⟨.startRecord, [], [], []⟩

def add (r : Reader α) (c : α) (state : State) : Reader α := { r with state, field := r.field ++ [c] }

def saveField (r : Reader α) : Reader α := ⟨.startField, [], r.row ++ [r.field], r.rows⟩

def saveRow (r : Reader α) (state : State) : Reader α := ⟨state, [], [], r.rows ++ [r.row]⟩

def lineEnd (r : Reader α) (c : α) : Reader α :=
  r.saveRow (if c = d.carriage then .afterCarriage else .startRecord)

def startField (r : Reader α) (c : α) : Reader α :=
  if c = d.carriage ∨ c = d.feed then r.saveField.lineEnd d c
  else if c = d.quote then { r with state := .inQuoted }
  else if c = d.delimiter then r.saveField
  else r.add c .inField

def startRecord (r : Reader α) (c : α) : Reader α :=
  if c = d.carriage ∨ c = d.feed then r.lineEnd d c else r.startField d c

def step (r : Reader α) (c : α) : Reader α :=
  match r.state with
  | .startRecord => r.startRecord d c
  | .startField => r.startField d c
  | .inField =>
    if c = d.carriage ∨ c = d.feed then r.saveField.lineEnd d c
    else if c = d.delimiter then r.saveField
    else r.add c .inField
  | .inQuoted => if c = d.quote then { r with state := .quoteInQuoted } else r.add c .inQuoted
  | .quoteInQuoted =>
    if c = d.quote then r.add c .inQuoted
    else if c = d.carriage ∨ c = d.feed then r.saveField.lineEnd d c
    else if c = d.delimiter then r.saveField
    else r.add c .inField
  | .afterCarriage => if c = d.feed then { r with state := .startRecord } else r.startRecord d c

def finish (r : Reader α) : List (List (List α)) :=
  match r.state with
  | .startRecord | .afterCarriage => r.rows
  | _ => (r.saveField.saveRow .startRecord).rows

def feed (r : Reader α) (text : List α) : Reader α := text.foldl (step d) r

end Reader

def Dialect.read (text : List α) : List (List (List α)) := (Reader.start.feed d text).finish

section RoundTrip
variable {d : Dialect α} {c : α} {field : List α} {row : List (List α)} {rows : List (List (List α))}
open Reader

theorem feedAppend (r : Reader α) (first second : List α) : r.feed d (first ++ second) = (r.feed d first).feed d second :=
  List.foldl_append

structure Plain (d : Dialect α) (c : α) : Prop where
  delimiter : c ≠ d.delimiter
  quote : c ≠ d.quote
  carriage : c ≠ d.carriage
  feed : c ≠ d.feed

theorem plainOf (plain : d.special c = false) : Plain d c := by
  simp only [Dialect.special, List.contains_eq_mem, decide_eq_false_iff_not, List.mem_cons, List.not_mem_nil, or_false,
    not_or] at plain
  exact ⟨plain.1, plain.2.1, plain.2.2.1, plain.2.2.2⟩

omit [DecidableEq α] in
theorem symbols (d : Dialect α) : d.delimiter ≠ d.quote ∧ d.delimiter ≠ d.carriage ∧ d.delimiter ≠ d.feed ∧
    d.quote ≠ d.carriage ∧ d.quote ≠ d.feed ∧ d.carriage ≠ d.feed := by
  have distinct := d.distinct
  simp only [List.nodup_cons, List.mem_cons, List.not_mem_nil, or_false, not_or] at distinct
  exact ⟨distinct.1.1, distinct.1.2.1, distinct.1.2.2, distinct.2.1.1, distinct.2.1.2, distinct.2.2.1⟩

inductive Ended (field : List α) (row : List (List α)) (rows : List (List (List α))) : Reader α → Prop where
  | plain : Ended field row rows ⟨.inField, field, row, rows⟩
  | quoted : Ended field row rows ⟨.quoteInQuoted, field, row, rows⟩
  | empty (none : field = []) : Ended field row rows ⟨.startField, [], row, rows⟩

theorem endedDelimiter {r : Reader α} (ended : Ended field row rows r) :
    r.step d d.delimiter = ⟨.startField, [], row ++ [field], rows⟩ := by
  obtain ⟨quote, carriage, feed, -, -, -⟩ := symbols d
  cases ended with
  | plain | quoted => simp [step, quote, carriage, feed, saveField]
  | empty none => simp [step, startField, quote, carriage, feed, saveField, none]

theorem endedCarriage {r : Reader α} (ended : Ended field row rows r) :
    r.step d d.carriage = ⟨.afterCarriage, [], [], rows ++ [row ++ [field]]⟩ := by
  obtain ⟨-, -, -, quote, -, -⟩ := symbols d
  cases ended with
  | plain => simp [step, saveField, lineEnd, saveRow]
  | quoted => simp [step, saveField, lineEnd, saveRow, quote.symm]
  | empty none => simp [step, startField, saveField, lineEnd, saveRow, none]

theorem plainFeed (plain : ∀ c ∈ field, Plain d c) (before : List α) :
    (⟨.inField, before, row, rows⟩ : Reader α).feed d field = ⟨.inField, before ++ field, row, rows⟩ := by
  induction field generalizing before with
  | nil =>
    rw [List.append_nil]
    rfl
  | cons c field ih =>
    obtain ⟨first, others⟩ := List.forall_mem_cons.mp plain
    have one : (⟨.inField, before, row, rows⟩ : Reader α).step d c = ⟨.inField, before ++ [c], row, rows⟩ := by
      simp [step, add, first.delimiter, first.carriage, first.feed]
    have rest := ih others (before ++ [c])
    rw [List.append_assoc, List.singleton_append] at rest
    rw [← rest, ← one]
    rfl

theorem doubledFeed (before : List α) : (⟨.inQuoted, before, row, rows⟩ : Reader α).feed d (d.doubled field) =
    ⟨.inQuoted, before ++ field, row, rows⟩ := by
  induction field generalizing before with
  | nil =>
    rw [List.append_nil]
    rfl
  | cons c field ih =>
    have one : (⟨.inQuoted, before, row, rows⟩ : Reader α).feed d (if c = d.quote then [c, c] else [c]) =
        ⟨.inQuoted, before ++ [c], row, rows⟩ := by
      by_cases same : c = d.quote
      · simp [same, feed, step, add]
      · simp [same, feed, step, add]
    have rest := ih (before ++ [c])
    rw [List.append_assoc, List.singleton_append] at rest
    rw [Dialect.doubled, List.flatMap_cons, feedAppend, one]
    exact rest

inductive Begins (row : List (List α)) (rows : List (List (List α))) : Reader α → Prop where
  | first (none : row = []) : Begins row rows ⟨.startRecord, [], [], rows⟩
  | later : Begins row rows ⟨.startField, [], row, rows⟩

theorem beginsPlain {r : Reader α} (begins : Begins row rows r) (plain : Plain d c) :
    r.step d c = ⟨.inField, [c], row, rows⟩ := by
  cases begins with
  | first none => simp [step, startRecord, startField, add, plain.carriage, plain.feed, plain.quote, plain.delimiter, none]
  | later => simp [step, startField, add, plain.carriage, plain.feed, plain.quote, plain.delimiter]

theorem beginsQuote {r : Reader α} (begins : Begins row rows r) : r.step d d.quote = ⟨.inQuoted, [], row, rows⟩ := by
  obtain ⟨-, -, -, carriage, feed, -⟩ := symbols d
  cases begins with
  | first none => simp [step, startRecord, startField, carriage, feed, none]
  | later => simp [step, startField, carriage, feed]

theorem quotedFeed {r : Reader α} (begins : Begins row rows r) :
    Ended field row rows (r.feed d (d.quote :: (d.doubled field ++ [d.quote]))) := by
  have inside : r.feed d (d.quote :: (d.doubled field ++ [d.quote])) =
      ((⟨.inQuoted, [], row, rows⟩ : Reader α).feed d (d.doubled field)).feed d [d.quote] := by
    rw [← feedAppend, ← beginsQuote begins]
    rfl
  have closed : (⟨.inQuoted, field, row, rows⟩ : Reader α).feed d [d.quote] = ⟨.quoteInQuoted, field, row, rows⟩ := by
    simp [feed, step]
  rw [inside, doubledFeed, List.nil_append, closed]
  exact .quoted

theorem fieldFeed {r : Reader α} (begins : Begins row rows r) (some : d.fieldText field ≠ []) :
    Ended field row rows (r.feed d (d.fieldText field)) := by
  unfold Dialect.fieldText at some ⊢
  cases quoted : field.any d.special with
  | true => exact quotedFeed begins
  | false =>
    rw [quoted] at some
    have plain : ∀ c ∈ field, Plain d c := fun c inside => plainOf (by
      have none := List.any_eq_false.mp quoted c inside
      simpa using none)
    cases field with
    | nil => exact absurd rfl some
    | cons c rest =>
      obtain ⟨first, others⟩ := List.forall_mem_cons.mp plain
      have after : (⟨.inField, [c], row, rows⟩ : Reader α).feed d rest = ⟨.inField, [c] ++ rest, row, rows⟩ :=
        plainFeed others [c]
      have whole : r.feed d (c :: rest) = ⟨.inField, c :: rest, row, rows⟩ := by
        rw [← beginsPlain begins first] at after
        exact after
      simp only [Bool.false_eq_true, if_false, whole]
      exact .plain

theorem fieldTextNil (none : d.fieldText field = []) : field = [] := by
  unfold Dialect.fieldText at none
  split at none
  · cases none
  · exact none

theorem fieldDelimiter {r : Reader α} (begins : Begins row rows r) :
    r.feed d (d.fieldText field ++ [d.delimiter]) = ⟨.startField, [], row ++ [field], rows⟩ := by
  obtain ⟨quote, carriage, feed, -, -, -⟩ := symbols d
  by_cases none : d.fieldText field = []
  · rw [none, fieldTextNil none]
    cases begins with
    | first only => simp [Reader.feed, step, startRecord, startField, quote, carriage, feed, saveField, only]
    | later => exact endedDelimiter (.empty rfl)
  · rw [feedAppend]
    exact endedDelimiter (fieldFeed begins none)

theorem carriageFeed {r : Reader α} (ended : Ended field row rows r) :
    r.feed d [d.carriage, d.feed] = ⟨.startRecord, [], [], rows ++ [row ++ [field]]⟩ := by
  have first : r.step d d.carriage = ⟨.afterCarriage, [], [], rows ++ [row ++ [field]]⟩ := endedCarriage ended
  simp only [feed, List.foldl_cons, List.foldl_nil, first]
  simp [step]

theorem fieldsFeed (fields : List (List α)) (some : fields ≠ []) (row : List (List α)) :
    (⟨.startField, [], row, rows⟩ : Reader α).feed d
      (List.intercalate [d.delimiter] (fields.map d.fieldText) ++ [d.carriage, d.feed]) =
      ⟨.startRecord, [], [], rows ++ [row ++ fields]⟩ := by
  induction fields generalizing row with
  | nil => exact absurd rfl some
  | cons field rest ih =>
    cases rest with
    | nil =>
      rw [List.map_cons, List.map_nil, List.intercalate_singleton, feedAppend]
      by_cases none : d.fieldText field = []
      · rw [none, fieldTextNil none]
        exact carriageFeed (.empty rfl)
      · exact carriageFeed (fieldFeed .later none)
    | cons second rest =>
      have later := ih (List.cons_ne_nil _ _) (row ++ [field])
      rw [List.append_assoc, List.singleton_append] at later
      rw [List.map_cons, List.map_cons, List.intercalate_cons_cons, List.append_assoc, feedAppend,
        fieldDelimiter .later]
      exact later

theorem rowFeed (row : List (List α)) : (⟨.startRecord, [], [], rows⟩ : Reader α).feed d
    (d.rowText row ++ [d.carriage, d.feed]) = ⟨.startRecord, [], [], rows ++ [row]⟩ := by
  unfold Dialect.rowText
  by_cases empty : row = [[]]
  · have closed : Ended [] [] rows ((⟨.startRecord, [], [], rows⟩ : Reader α).feed d [d.quote, d.quote]) :=
      quotedFeed (.first rfl)
    rw [if_pos empty, feedAppend, carriageFeed closed, empty]
    rfl
  · rw [if_neg empty]
    cases row with
    | nil => simp [feed, step, startRecord, lineEnd, saveRow]
    | cons field rest =>
      cases rest with
      | nil =>
        have some : d.fieldText field ≠ [] := fun none => empty (by rw [fieldTextNil none])
        rw [List.map_cons, List.map_nil, List.intercalate_singleton, feedAppend,
          carriageFeed (fieldFeed (.first rfl) some)]
        rfl
      | cons second rest =>
        rw [List.map_cons, List.map_cons, List.intercalate_cons_cons, List.append_assoc, feedAppend,
          fieldDelimiter (.first rfl)]
        exact fieldsFeed (second :: rest) (List.cons_ne_nil _ _) [field]

/- Whatever the fields hold, the rows that are written are the rows that are read. -/
theorem readWrite (rows : List (List (List α))) : d.read (d.write rows) = rows := by
  have all : ∀ before, (⟨.startRecord, [], [], before⟩ : Reader α).feed d (d.write rows) =
      ⟨.startRecord, [], [], before ++ rows⟩ := by
    induction rows with
    | nil =>
      intro before
      rw [List.append_nil]
      rfl
    | cons row rows ih =>
      intro before
      rw [Dialect.write, List.flatMap_cons, feedAppend, rowFeed]
      have rest := ih (before ++ [row])
      rw [List.append_assoc, List.singleton_append] at rest
      exact rest
  rw [Dialect.read, start, all]
  rfl

end RoundTrip
end Csv
