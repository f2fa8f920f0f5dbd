import SentinelGpt.ExecFrames
import SentinelGpt.JsonRoundTrip
import SentinelGpt.HttpTransport
import Mathlib.Tactic.Ring

/-! Times, and the cursors of a listing: what `_encode_cursor` writes and `_decode_cursor` reads. -/
namespace SentinelGpt
open JsonScan

/-! Times. -/

def isLeap (year : Nat) : Bool := year % 4 = 0 && (year % 100 ≠ 0 || year % 400 = 0)

def daysInMonth (year month : Nat) : Nat :=
  if month = 2 then if isLeap year then 29 else 28 else if [4, 6, 9, 11].contains month then 30 else 31

/- `datetime`: the clock counts the microseconds of the day, the offset those to UTC, none for a naive one. -/
structure DateTime where
  year : Nat
  month : Nat
  day : Nat
  clock : Nat
  utcoffset : Option Int
  date : 1 ≤ year ∧ year ≤ 9999 ∧ 1 ≤ month ∧ month ≤ 12 ∧ 1 ≤ day ∧ day ≤ daysInMonth year month
  inDay : clock < 86400000000
  nearUtc : ∀ offset ∈ utcoffset, offset.natAbs < 86400000000
  deriving DecidableEq

def daysBefore (year month : Nat) : Nat :=
  (year - 1) * 365 + (year - 1) / 4 - (year - 1) / 100 + (year - 1) / 400 +
    ((List.range (month - 1)).map fun m => daysInMonth year (m + 1)).sum

def DateTime.instant (d : DateTime) : Option Int :=
  d.utcoffset.map fun offset => ((daysBefore d.year d.month + d.day : Nat) : Int) * 86400000000 + d.clock - offset

def decText : Nat → Nat → PyStr
  | 0, _ => []
  | width + 1, n => hexDigit (n / 10 ^ width % 10) :: decText width n

def fractionText (us : Nat) : PyStr := if us % 1000000 = 0 then [] else 0x2E :: decText 6 (us % 1000000)

def clockText (us : Nat) : PyStr :=
  decText 2 (us / 3600000000) ++ 0x3A :: (decText 2 (us / 60000000 % 60) ++
    0x3A :: (decText 2 (us / 1000000 % 60) ++ fractionText us))

/- The seconds of an offset are left out where it has none. -/
def offsetText (offset : Int) : PyStr :=
  let us := offset.natAbs
  (if offset < 0 then 0x2D else 0x2B) :: (decText 2 (us / 3600000000) ++ 0x3A :: (decText 2 (us / 60000000 % 60) ++
    if us % 60000000 = 0 then [] else 0x3A :: (decText 2 (us / 1000000 % 60) ++ fractionText us)))

def DateTime.isoformat (d : DateTime) : PyStr :=
  decText 4 d.year ++ 0x2D :: (decText 2 d.month ++ 0x2D :: (decText 2 d.day ++
    0x54 :: (clockText d.clock ++ d.utcoffset.elim [] offsetText)))

def readDigits : Nat → Nat → PyStr → Option (Nat × PyStr)
  | 0, n, text => some (n, text)
  | _ + 1, _, [] => none
  | width + 1, n, c :: rest => if isDigit c then readDigits width (n * 10 + (c.val - 0x30)) rest else none

def readMark (mark : CodePoint) : PyStr → Option PyStr
  | [] => none
  | c :: rest => if c = mark then some rest else none

/- `HH:MM[:SS[.ffffff]]`, in microseconds. -/
def readClock (text : PyStr) : Option (Nat × PyStr) := do
  let (hour, rest) ← readDigits 2 0 text
  let (minute, rest) ← readDigits 2 0 (← readMark 0x3A rest)
  if hour < 24 ∧ minute < 60 then
    match readMark 0x3A rest with
    | none => some ((hour * 60 + minute) * 60000000, rest)
    | some rest => do
      let (second, rest) ← readDigits 2 0 rest
      if second < 60 then
        match readMark 0x2E rest with
        | none => some (((hour * 60 + minute) * 60 + second) * 1000000, rest)
        | some rest => do
          let (us, rest) ← readDigits 6 0 rest
          some (((hour * 60 + minute) * 60 + second) * 1000000 + us, rest)
      else none
  else none

def readOffset (text : PyStr) : Option (Option Int) :=
  match text with
  | [] => some none
  | c :: rest => do
    let (us, rest) ← readClock rest
    if rest = [] then
      if c = 0x2B then some (some us) else if c = 0x2D then some (some (-us)) else none
    else none

/- The texts of the form that `isoformat` writes. -/
def readIso (text : PyStr) : Option DateTime := do
  let (year, rest) ← readDigits 4 0 text
  let (month, rest) ← readDigits 2 0 (← readMark 0x2D rest)
  let (day, rest) ← readDigits 2 0 (← readMark 0x2D rest)
  let (clock, rest) ← readClock (← readMark 0x54 rest)
  let utcoffset ← readOffset rest
  if valid : (1 ≤ year ∧ year ≤ 9999 ∧ 1 ≤ month ∧ month ≤ 12 ∧ 1 ≤ day ∧ day ≤ daysInMonth year month) ∧
      clock < 86400000000 ∧ ∀ offset ∈ utcoffset, offset.natAbs < 86400000000 then
    some ⟨year, month, day, clock, utcoffset, valid.1, valid.2.1, valid.2.2⟩
  else none

theorem digitOf : ∀ d < 10, isDigit (hexDigit d) = true ∧ (hexDigit d).val - 0x30 = d := by decide

theorem readDec (width n before : Nat) (rest : PyStr) :
    readDigits width before (decText width n ++ rest) = some (before * 10 ^ width + n % 10 ^ width, rest) := by
  induction width generalizing before with
  | zero => simp [readDigits, decText, Nat.mod_one]
  | succ width ih =>
    obtain ⟨digit, value⟩ := digitOf (n / 10 ^ width % 10) (Nat.mod_lt _ (by decide))
    rw [decText, List.cons_append, readDigits, if_pos digit, value, ih, Nat.mod_pow_succ]
    congr 2
    ring

theorem readSame (c : CodePoint) (rest : PyStr) : readMark c (c :: rest) = some rest := if_pos rfl

theorem readOther {c : CodePoint} {text : PyStr} (other : c ∉ text.head?) : readMark c text = none := by
  cases text with
  | nil => rfl
  | cons d rest => exact if_neg fun same => other (congrArg some same)

def ClockStops (rest : PyStr) : Prop := (0x3A : CodePoint) ∉ rest.head? ∧ (0x2E : CodePoint) ∉ rest.head?

theorem stopsEmpty : ClockStops [] := by
  unfold ClockStops
  decide

theorem secondsRead (seconds us : Nat) {rest : PyStr} (stops : ClockStops rest) :
    (match readMark 0x2E (fractionText us ++ rest) with
      | none => some (seconds * 1000000, fractionText us ++ rest)
      | some rest' => (readDigits 6 0 rest').bind fun (us', rest') => some (seconds * 1000000 + us', rest')) =
      some (seconds * 1000000 + us % 1000000, rest) := by
  unfold fractionText
  by_cases whole : us % 1000000 = 0
  · rw [if_pos whole, List.nil_append, readOther stops.2, whole]
    exact congrArg (fun n => some (n, rest)) (Nat.add_zero _).symm
  · rw [if_neg whole, List.cons_append, readSame]
    dsimp only
    rw [readDec, Option.bind_some, Nat.zero_mul, Nat.zero_add, Nat.mod_mod_of_dvd us (by decide)]
    rfl

theorem clockRead {us : Nat} (inDay : us < 86400000000) {rest : PyStr} (stops : ClockStops rest) :
    readClock (clockText us ++ rest) = some (us, rest) := by
  have hour : us / 3600000000 < 24 := by omega
  have minute : us / 60000000 % 60 < 60 := Nat.mod_lt _ (by decide)
  have second : us / 1000000 % 60 < 60 := Nat.mod_lt _ (by decide)
  have fraction := secondsRead ((us / 3600000000 * 60 + us / 60000000 % 60) * 60 + us / 1000000 % 60) us stops
  have whole : ((us / 3600000000 * 60 + us / 60000000 % 60) * 60 + us / 1000000 % 60) * 1000000 + us % 1000000 = us := by
    omega
  have two : ∀ n, n < 60 → 0 * 10 ^ 2 + n % 10 ^ 2 = n := by omega
  unfold readClock clockText
  simp only [List.append_assoc, List.cons_append, readDec, two _ (hour.trans (by decide)), two _ minute, two _ second,
    readSame, Option.bind_eq_bind, Option.bind_some]
  rw [if_pos ⟨hour, minute⟩, if_pos second]
  rw [whole] at fraction
  exact fraction

theorem offsetRead {offset : Int} (near : offset.natAbs < 86400000000) :
    readOffset (offsetText offset) = some (some offset) := by
  have hour : offset.natAbs / 3600000000 < 24 := by omega
  have minute : offset.natAbs / 60000000 % 60 < 60 := Nat.mod_lt _ (by decide)
  have second : offset.natAbs / 1000000 % 60 < 60 := Nat.mod_lt _ (by decide)
  have two : ∀ n, n < 60 → 0 * 10 ^ 2 + n % 10 ^ 2 = n := by omega
  have clock : readClock (decText 2 (offset.natAbs / 3600000000) ++ 0x3A ::
      (decText 2 (offset.natAbs / 60000000 % 60) ++ if offset.natAbs % 60000000 = 0 then [] else
        0x3A :: (decText 2 (offset.natAbs / 1000000 % 60) ++ fractionText offset.natAbs))) =
      some (offset.natAbs, []) := by
    by_cases short : offset.natAbs % 60000000 = 0
    · have whole : (offset.natAbs / 3600000000 * 60 + offset.natAbs / 60000000 % 60) * 60000000 = offset.natAbs := by
        omega
      rw [if_pos short]
      unfold readClock
      simp only [readDec, two _ (hour.trans (by decide)), two _ minute, readSame, Option.bind_eq_bind, Option.bind_some]
      rw [if_pos ⟨hour, minute⟩, readOther stopsEmpty.1]
      exact congrArg (fun n => some (n, [])) whole
    · rw [if_neg short]
      have read := clockRead near stopsEmpty
      rw [List.append_nil] at read
      exact read
  unfold readOffset offsetText
  simp only [clock, Option.bind_eq_bind, Option.bind_some]
  rw [if_pos trivial]
  by_cases negative : offset < 0
  · have back : -(offset.natAbs : Int) = offset := by omega
    rw [if_pos negative, if_neg (by decide), if_pos rfl, back]
  · have back : (offset.natAbs : Int) = offset := by omega
    rw [if_neg negative, if_pos rfl, back]

theorem isoRead (d : DateTime) : readIso d.isoformat = some d := by
  obtain ⟨year, month, day, clock, utcoffset, date, inDay, near⟩ := d
  have days : daysInMonth year month ≤ 31 := by
    unfold daysInMonth
    split
    · split <;> decide
    · split <;> decide
  have four : 0 * 10 ^ 4 + year % 10 ^ 4 = year := by omega
  have two : ∀ n, n < 60 → 0 * 10 ^ 2 + n % 10 ^ 2 = n := by omega
  have stops : ClockStops (utcoffset.elim [] offsetText) := by
    cases utcoffset with
    | none => exact stopsEmpty
    | some offset =>
      unfold ClockStops
      simp only [Option.elim_some, offsetText, List.head?_cons, Option.mem_some_iff]
      split <;> decide
  have offset : readOffset (utcoffset.elim [] offsetText) = some utcoffset := by
    cases utcoffset with
    | none => rfl
    | some offset => exact offsetRead (near offset rfl)
  unfold readIso DateTime.isoformat
  simp only [readDec, four, two month (by omega), two day (by omega), readSame, Option.bind_eq_bind, Option.bind_some,
    clockRead inDay stops, offset]
  exact dif_pos ⟨date, inDay, near⟩

/-! The text of a UUID. -/

def hexNumber : Nat → PyStr → Option Nat
  | n, [] => some n
  | n, c :: rest => (hexValue c).bind fun v => hexNumber (n * 16 + v) rest

def readUuid (text : PyStr) : Option Nat :=
  let hex := text.filter (· != 0x2D)
  if hex.length = 32 then hexNumber 0 hex else none

theorem hexTextSucc (width n : Nat) : hexText (width + 1) n = hexDigit (n / 16 ^ width) :: hexText width n := by
  rw [hexText, List.range_succ, List.map_append, List.reverse_append]
  rfl

theorem hexTextNumber (width n before : Nat) :
    hexNumber before (hexText width n) = some (before * 16 ^ width + n % 16 ^ width) := by
  induction width generalizing before with
  | zero => simp [hexText, hexNumber, Nat.mod_one]
  | succ width ih =>
    rw [hexTextSucc, hexNumber, hexDigitRead, Option.bind_some, ih, Nat.mod_pow_succ]
    congr 1
    ring

theorem hexTextPlain (width n : Nat) : ∀ c ∈ hexText width n, (c != 0x2D) = true := by
  have each : ∀ d < 16, (hexDigit d != 0x2D) = true := by decide
  intro c inside
  rw [hexText, List.mem_reverse, List.mem_map] at inside
  obtain ⟨i, -, rfl⟩ := inside
  have same : hexDigit (n / 16 ^ i) = hexDigit (n / 16 ^ i % 16) := by rw [hexDigit, hexDigit, Nat.mod_mod]
  rw [same]
  exact each _ (Nat.mod_lt _ (by decide))

theorem uuidHex (id : Nat) : (uuidText id).filter (· != 0x2D) = hexText 32 id := by
  have plain := hexTextPlain 32 id
  have part : ∀ {text : PyStr}, text.Sublist (hexText 32 id) → text.filter (· != 0x2D) = text := fun sub =>
    List.filter_eq_self.mpr fun c inside => plain c (sub.subset inside)
  have joined : uuidText id = (hexText 32 id).take 8 ++ 0x2D :: (((hexText 32 id).drop 8).take 4 ++ 0x2D ::
      (((hexText 32 id).drop 12).take 4 ++ 0x2D :: (((hexText 32 id).drop 16).take 4 ++ 0x2D ::
        (hexText 32 id).drop 20))) := by
    simp [uuidText, join, List.intercalate]
    rfl
  have hyphen : ((0x2D : CodePoint) != 0x2D) = false := rfl
  rw [joined]
  simp only [List.filter_append, List.filter_cons, hyphen, part (List.take_sublist ..), part (List.drop_sublist ..),
    part ((List.take_sublist ..).trans (List.drop_sublist ..)), Bool.false_eq_true, if_false]
  have whole : ∀ (text : PyStr) (a b : Nat), (text.drop a).take b ++ text.drop (a + b) = text.drop a := by
    intro text a b
    rw [← List.drop_drop, List.take_append_drop]
  rw [whole _ 16 4, whole _ 12 4, whole _ 8 4, List.take_append_drop]

theorem uuidRead {id : Nat} (small : id < 2 ^ 128) : readUuid (uuidText id) = some id := by
  have length : (hexText 32 id).length = 32 := by simp [hexText]
  have value : 0 * 16 ^ 32 + id % 16 ^ 32 = id := by omega
  rw [readUuid, uuidHex]
  exact (if_pos length).trans (by rw [hexTextNumber, value])

/-! The cursors. -/

def invalidPaginationCursorError : PyError := .other (py "InvalidPaginationCursorError")

/- What Python reads beyond the texts of this module: JSON in bytes that are not all ASCII, a time in another
ISO 8601 form, and a UUID with what may stand around its digits. -/
structure OtherReads where
  jsonText : List Byte → Option PyStr
  time : PyStr → Option DateTime
  uuid : PyStr → Option Nat

def plainByte (b : Byte) : Bool := 0 < b.val && b.val < 0x80

/- The text of a JSON document, as `json.loads` finds it in bytes. -/
def jsonText (other : OtherReads) (data : List Byte) : Option PyStr :=
  if data.all plainByte then some (data.map (Fin.castLE bytesAreCodePoints)) else other.jsonText data

def fromisoformat (other : OtherReads) (text : PyStr) : Option DateTime := (readIso text).orElse fun _ => other.time text

def uuidOf (other : OtherReads) (text : PyStr) : Option Nat := (readUuid text).orElse fun _ => other.uuid text

def encodeCursor (createdAt : DateTime) (targetId : Nat) : PyStr :=
  let raw := dumps (.dict [(py "c", .str createdAt.isoformat), (py "i", .str (uuidText targetId))])
  codesText (Base64.urlEncode (raw.map fun c => Base64.byte c.val))

/- What is not ASCII in a cursor is passed over with all else that is not of the alphabet. -/
def cursorFields (python : Python) (other : OtherReads) (cursor : PyStr) : Option (DateTime × Nat) := do
  let cursor ← (encode cursor).toOption
  let text ← jsonText other (← Base64.urlDecode (cursor.map Fin.val))
  let raw ← (loads python text).toOption
  let createdAt ← (item raw (py "c") >>= strJson python).toOption
  let targetId ← (item raw (py "i") >>= strJson python).toOption
  return (← fromisoformat other createdAt, ← uuidOf other targetId)

def decodeCursor (python : Python) (other : OtherReads) (cursor : PyStr) : Except PyError (DateTime × Nat) :=
  (cursorFields python other cursor).elim (.error invalidPaginationCursorError) .ok

def IsPlain (text : PyStr) : Prop := ∀ c ∈ text, 0 < c.val ∧ c.val < 0x80

instance (text : PyStr) : Decidable (IsPlain text) := List.decidableBAll (fun c : CodePoint => 0 < c.val ∧ c.val < 0x80) text

theorem plainAppend {first second : PyStr} (front : IsPlain first) (back : IsPlain second) : IsPlain (first ++ second) := by
  intro c inside
  rcases List.mem_append.mp inside with h | h
  · exact front c h
  · exact back c h

theorem hexDigitPlain (n : Nat) : 0 < (hexDigit n).val ∧ (hexDigit n).val < 0x80 := by
  have each : ∀ d < 16, 0 < (hexDigit d).val := by decide
  have same : hexDigit n = hexDigit (n % 16) := by rw [hexDigit, hexDigit, Nat.mod_mod]
  exact ⟨same ▸ each _ (Nat.mod_lt n (by decide)), hexDigitSmall n⟩

theorem hexTextIsPlain (width n : Nat) : IsPlain (hexText width n) := by
  intro c inside
  rw [hexText, List.mem_reverse, List.mem_map] at inside
  obtain ⟨i, -, rfl⟩ := inside
  exact hexDigitPlain _

theorem escapePlain (c : CodePoint) : IsPlain (asciiEscape c) := by
  unfold asciiEscape
  split; · decide
  split; · decide
  split; · decide
  split; · decide
  split; · decide
  split; · decide
  split; · decide
  split
  · rename_i printable
    intro d only
    rw [List.mem_singleton.mp only]
    omega
  split
  · exact plainAppend (by decide) (hexTextIsPlain 4 _)
  · exact plainAppend (plainAppend (by decide) (hexTextIsPlain 4 _)) (plainAppend (by decide) (hexTextIsPlain 4 _))

theorem dumpsStrPlain (s : PyStr) : IsPlain (dumpsStr s) := by
  refine plainAppend (plainAppend (by decide) fun c inside => ?_) (by decide)
  obtain ⟨d, -, inside⟩ := List.mem_flatMap.mp inside
  exact escapePlain d c inside

theorem plainUnpaired {text : PyStr} (plain : IsPlain text) : Unpaired text :=
  unpairedSmall fun c inside => (plain c inside).2.trans (by decide)

theorem plainText (other : OtherReads) {text : PyStr} (plain : IsPlain text) :
    jsonText other (text.map fun c => Base64.byte c.val) = some text := by
  have value : ∀ c ∈ text, (Base64.byte c.val).val = c.val := by
    intro c inside
    have small := (plain c inside).2
    rw [Base64.byte, Fin.val_ofNat, Nat.mod_eq_of_lt (by omega)]
  have all : (text.map fun c => Base64.byte c.val).all plainByte = true := by
    rw [List.all_map, List.all_eq_true]
    intro c inside
    have code := plain c inside
    simp only [Function.comp, plainByte, value c inside, Bool.and_eq_true, decide_eq_true_eq]
    exact code
  rw [jsonText, if_pos all, List.map_map]
  refine congrArg some ((List.map_congr_left fun c inside => ?_).trans (List.map_id _))
  apply Fin.ext
  exact value c inside

section RoundTrip

theorem decTextPlain (width n : Nat) : IsPlain (decText width n) := by
  induction width with
  | zero => exact fun c none => by cases none
  | succ width ih => exact List.forall_mem_cons.mpr ⟨hexDigitPlain _, ih⟩

theorem fractionPlain (us : Nat) : IsPlain (fractionText us) := by
  unfold fractionText
  split
  · decide
  · exact plainAppend (by decide : IsPlain [0x2E]) (decTextPlain 6 _)

theorem clockPlain (us : Nat) : IsPlain (clockText us) := by
  have colon : IsPlain [0x3A] := by decide
  have seconds := plainAppend colon (plainAppend (decTextPlain 2 (us / 1000000 % 60)) (fractionPlain us))
  exact plainAppend (decTextPlain 2 _) (plainAppend colon (plainAppend (decTextPlain 2 _) seconds))

theorem offsetPlain (offset : Int) : IsPlain (offsetText offset) := by
  have colon : IsPlain [0x3A] := by decide
  have sign : IsPlain [if offset < 0 then 0x2D else 0x2B] := by split <;> decide
  have seconds : IsPlain (if offset.natAbs % 60000000 = 0 then [] else
      0x3A :: (decText 2 (offset.natAbs / 1000000 % 60) ++ fractionText offset.natAbs)) := by
    split
    · decide
    · exact plainAppend colon (plainAppend (decTextPlain 2 _) (fractionPlain _))
  exact plainAppend sign (plainAppend (decTextPlain 2 _) (plainAppend colon (plainAppend (decTextPlain 2 _) seconds)))

theorem isoPlain (d : DateTime) : IsPlain d.isoformat := by
  have hyphen : IsPlain [0x2D] := by decide
  have mark : IsPlain [0x54] := by decide
  have offset : IsPlain (d.utcoffset.elim [] offsetText) := by
    cases d.utcoffset with
    | none => decide
    | some offset => exact offsetPlain offset
  have time := plainAppend mark (plainAppend (clockPlain d.clock) offset)
  exact plainAppend (decTextPlain 4 _)
    (plainAppend hyphen (plainAppend (decTextPlain 2 _) (plainAppend hyphen (plainAppend (decTextPlain 2 _) time))))

theorem uuidPlain (id : Nat) : IsPlain (uuidText id) := by
  intro c inside
  by_cases hyphen : c = 0x2D
  · rw [hyphen]
    decide
  · have digit : c ∈ (uuidText id).filter (· != 0x2D) := List.mem_filter.mpr ⟨inside, bne_iff_ne.mpr hyphen⟩
    rw [uuidHex] at digit
    exact hexTextIsPlain 32 id c digit

def cursorJson (createdAt : DateTime) (targetId : Nat) : Json :=
  .dict [(py "c", .str createdAt.isoformat), (py "i", .str (uuidText targetId))]

theorem cursorReadable (createdAt : DateTime) (targetId depth : Nat) :
    Readable false (depth + 1) (cursorJson createdAt targetId) :=
  ⟨(by decide : [py "c", py "i"].Nodup), plainUnpaired (by decide), plainUnpaired (isoPlain createdAt),
    plainUnpaired (by decide), plainUnpaired (uuidPlain targetId), trivial⟩

theorem cursorPlain (createdAt : DateTime) (targetId : Nat) : IsPlain (dumps (cursorJson createdAt targetId)) := by
  have colon : IsPlain (py ": ") := by decide
  have first := plainAppend (plainAppend (dumpsStrPlain (py "c")) colon) (dumpsStrPlain createdAt.isoformat)
  have second := plainAppend (plainAppend (dumpsStrPlain (py "i")) colon) (dumpsStrPlain (uuidText targetId))
  have members := plainAppend (plainAppend first (by decide : IsPlain (py ", "))) second
  exact plainAppend (plainAppend (by decide : IsPlain (py "\x7b")) members) (by decide : IsPlain (py "\x7d"))

theorem cursorDecoded (python : Python) (room : 1 ≤ python.loadsDepth) (other : OtherReads) (createdAt : DateTime)
    {targetId : Nat} (small : targetId < 2 ^ 128) :
    decodeCursor python other (encodeCursor createdAt targetId) = .ok (createdAt, targetId) := by
  obtain ⟨depth, enough⟩ := Nat.exists_eq_add_of_le' room
  have readable := cursorReadable createdAt targetId depth
  rw [← enough] at readable
  have loaded := loadsDumps python readable
  have text := plainText other (cursorPlain createdAt targetId)
  have below : ∀ code ∈ Base64.urlEncode ((dumps (cursorJson createdAt targetId)).map fun c => Base64.byte c.val),
      code < 0x80 := fun _ => Base64.urlEncodedSmall
  have encoded : encode (encodeCursor createdAt targetId) = .ok (encodeCursor createdAt targetId) := by
    refine if_pos (List.all_eq_true.mpr fun c inside => ?_)
    rw [smallEncodable (codesSmall below c inside)]
    rfl
  have data : Base64.urlDecode ((encodeCursor createdAt targetId).map Fin.val) =
      some ((dumps (cursorJson createdAt targetId)).map fun c => Base64.byte c.val) := by
    have codes := codesVal below
    rw [← Base64.urlDecodeEncode, ← codes]
    rfl
  have time : fromisoformat other createdAt.isoformat = some createdAt := by
    rw [fromisoformat, isoRead]
    rfl
  have id : uuidOf other (uuidText targetId) = some targetId := by
    rw [uuidOf, uuidRead small]
    rfl
  have first : item (cursorJson createdAt targetId) (py "c") = .ok (.str createdAt.isoformat) := rfl
  have second : item (cursorJson createdAt targetId) (py "i") = .ok (.str (uuidText targetId)) := rfl
  have fields : cursorFields python other (encodeCursor createdAt targetId) = some (createdAt, targetId) := by
    unfold cursorFields
    simp only [encoded, Except.toOption, Option.bind_eq_bind, Option.bind_some, data, text, loaded, first, second]
    simp only [bind, Except.bind, strJson, Option.bind, time, id]
    rfl
  rw [decodeCursor, fields]
  rfl

end RoundTrip
end SentinelGpt
