import Intake.Proofs.Layout.Digits
import Intake.Proofs.Text.ByteOrder
import Intake.Proofs.Text.Trim
import Intake.Settings.Basic
import Intake.Text.Utf8
import Mathlib.Data.Nat.Cast.Basic
import Mathlib.Data.String.Basic

/-!
# The names of zones

Which texts name a zone on a host is said by `Zone.Names`, of the name without the blanks around it,
and which zones have a name by `Zone.Nameable`. `Zone.parse_exactly_names` says that reading accepts
these names and no others, that a text which is refused is quoted as it was given, and that what is
written for a zone that was read names the same zone.

A name is read along its bytes: signs and digits are looked up by their places, and a place may lie
past the end of a text or inside a character. `Zone.parseByBytes?` has no answer where that happens,
and it is shown to have one for every text.
-/

namespace Intake

/-! ## Places among bytes -/

namespace Utf8

/-- The text before a byte and the text from that byte on. There are none where the text is too
short, or where a character lies across the place. -/
def splitAt? : Nat → List Char → Option (List Char × List Char)
  | 0, text => some ([], text)
  | _ + 1, [] => none
  | place + 1, c :: rest =>
    if c.utf8Size ≤ place + 1 then
      (splitAt? (place + 1 - c.utf8Size) rest).map fun parts => (c :: parts.1, parts.2)
    else none

theorem length_encode_cons (c : Char) (text : List Char) :
    (encode (c :: text)).length = c.utf8Size + (encode text).length := by
  simp [encode, List.flatMap_cons]

/-- A text is split exactly at the places where one of its characters ends. -/
theorem splitAt?_eq_some_iff {place : Nat} {text front back : List Char} :
    splitAt? place text = some (front, back) ↔
      text = front ++ back ∧ (encode front).length = place := by
  fun_induction splitAt? place text generalizing front with
  | case1 text =>
    constructor
    · rintro ⟨⟩
      exact ⟨rfl, rfl⟩
    · rintro ⟨rfl, nothing⟩
      cases front with
      | nil => rfl
      | cons c rest =>
        have := c.utf8Size_pos
        rw [length_encode_cons] at nothing
        omega
  | case2 place =>
    refine iff_of_false nofun ?_
    rintro ⟨nothing, size⟩
    rw [(List.append_eq_nil_iff.1 nothing.symm).1] at size
    cases size
  | case3 place c rest fits ih =>
    rw [Option.map_eq_some_iff]
    constructor
    · rintro ⟨⟨first, second⟩, split, same⟩
      obtain ⟨rfl, rfl⟩ := Prod.mk.inj same
      obtain ⟨rfl, size⟩ := ih.1 split
      refine ⟨rfl, ?_⟩
      rw [length_encode_cons, size]
      omega
    · rintro ⟨whole, size⟩
      cases front with
      | nil => cases size
      | cons d front =>
        obtain ⟨rfl, rfl⟩ := List.cons.inj whole
        rw [length_encode_cons] at size
        exact ⟨(front, back), ih.2 ⟨rfl, by omega⟩, rfl⟩
  | case4 place c rest wide =>
    refine iff_of_false nofun ?_
    rintro ⟨whole, size⟩
    cases front with
    | nil => cases size
    | cons d front =>
      obtain ⟨rfl, -⟩ := List.cons.inj whole
      rw [length_encode_cons] at size
      omega

theorem exists_first_byte (c : Char) (rest : List Char) :
    ∃ byte, (encode (c :: rest))[0]? = some byte := by
  obtain ⟨byte, others, shape⟩ := List.exists_cons_of_ne_nil (@String.utf8EncodeChar_ne_nil c)
  exact ⟨byte, by simp [encode, shape]⟩

/-- The first byte of a text is an ASCII character exactly where its first character is. -/
theorem getElem?_encode_zero {byte : UInt8} (ascii : byte < 0x80) (c : Char) (rest : List Char) :
    (encode (c :: rest))[0]? = some byte ↔ c.val.toNat = byte.toNat := by
  have bound := codePoint_lt c
  have small : byte.toNat < 128 := ascii
  simp only [encode, List.flatMap_cons]
  unfold String.utf8EncodeChar
  generalize c.val.toNat = point at *
  dsimp only
  repeat' split
  all_goals
    simp only [List.cons_append, List.getElem?_cons_zero, Option.some.injEq, ← UInt8.toNat_inj,
      UInt8.toNat_ofNat']
    omega

theorem length_encode_of_ascii {text : List Char} (ascii : ∀ c ∈ text, c.val.toNat < 128) :
    (encode text).length = text.length := by
  induction text with
  | nil => rfl
  | cons c rest ih =>
    obtain ⟨first, others⟩ := List.forall_mem_cons.1 ascii
    have narrow : c.utf8Size = 1 := Char.utf8Size_eq_one_iff.2 (Nat.le_of_lt_succ first)
    rw [length_encode_cons, narrow, ih others, List.length_cons, Nat.add_comm]

end Utf8

/-! ## Offsets -/

namespace Zone

/-- Four digits give hours and minutes of less than a day, and so the seconds in them. -/
inductive HoursMinutes : List Char → Nat → Prop where
  | mk {h₁ h₂ m₁ m₂ : Char} (digits : ∀ c ∈ [h₁, h₂, m₁, m₂], isDigit c = true)
      (hours : digitValue h₁ * 10 + digitValue h₂ ≤ 23)
      (minutes : digitValue m₁ * 10 + digitValue m₂ ≤ 59) :
      HoursMinutes [h₁, h₂, m₁, m₂]
        ((digitValue h₁ * 10 + digitValue h₂) * 3600 + (digitValue m₁ * 10 + digitValue m₂) * 60)

theorem ofSeconds?_seconds (offset : UtcOffset) :
    UtcOffset.ofSeconds? offset.seconds = some offset :=
  dif_pos offset.inRange

theorem offsetOfDigits?_eq_some_iff {negative : Bool} {digits : List Char} {offset : UtcOffset} :
    offsetOfDigits? negative digits = some offset ↔ ∃ size : Nat, HoursMinutes digits size ∧
      offset.seconds = if negative then -(size : Int) else size := by
  constructor
  · intro made
    unfold offsetOfDigits? at made
    split at made
    · rename_i h₁ h₂ m₁ m₂
      obtain ⟨all, made⟩ := Option.ite_none_right_eq_some.1 made
      obtain ⟨minutes, made⟩ := Option.ite_none_right_eq_some.1 made
      obtain ⟨small, same⟩ := Option.dite_none_right_eq_some.1 made
      -- An offset of less than a day has at most 23 hours.
      have hours : digitValue h₁ * 10 + digitValue h₂ ≤ 23 := by
        cases negative <;> simp only [if_true, Bool.false_eq_true, if_false] at small <;> omega
      refine ⟨_, .mk (by simpa using all) hours (Nat.le_of_lt_succ minutes), ?_⟩
      cases same
      cases negative <;> simp
    · cases made
  · rintro ⟨_, ⟨all, hours, minutes⟩, isOffset⟩
    have digits := List.all_eq_true.2 all
    dsimp only [offsetOfDigits?]
    rw [if_pos digits, if_pos (Nat.lt_succ_of_le minutes)]
    push_cast at isOffset ⊢
    rw [← isOffset, ofSeconds?_seconds]

/-- A text without blanks around it is a name of a zone on a host with some rule. -/
inductive Names (rule : DaylightRule) : List Char → Zone → Prop where
  /-- Universal time is `UTC` or `Z` in either case, and where there is no name. -/
  | utc {name : List Char} (word : name.map Char.toLower = "utc".toList ∨
      name.map Char.toLower = "z".toList ∨ name = []) : Names rule name utc
  /-- The zone of the host is `Local`, in either case. -/
  | host {name : List Char} (word : name.map Char.toLower = "local".toList) :
      Names rule name (host rule)
  /-- A constant offset is a sign and four digits, with colons anywhere after the sign. -/
  | ahead {rest : List Char} {size : Nat} {offset : UtcOffset}
      (digits : HoursMinutes (rest.filter (· != ':')) size) (isOffset : offset.seconds = size) :
      Names rule ('+' :: rest) (fixed offset)
  | behind {rest : List Char} {size : Nat} {offset : UtcOffset}
      (digits : HoursMinutes (rest.filter (· != ':')) size) (isOffset : offset.seconds = -size) :
      Names rule ('-' :: rest) (fixed offset)

variable {rule : DaylightRule}

theorem parse_eq_ok_iff {text : String} {zone : Zone} :
    parse rule text = .ok zone ↔ ofText? rule text = some zone := by
  unfold parse
  cases ofText? rule text <;> simp

/-- Zones are read from their names. -/
theorem ofText?_eq_some_iff {text : String} {zone : Zone} :
    ofText? rule text = some zone ↔ Names rule (trim text.toList) zone := by
  unfold ofText?
  dsimp only
  generalize trim text.toList = name
  simp only [String.ofList_eq]
  constructor
  · intro read
    split at read
    · rename_i word
      cases read
      exact .utc (by simpa using word)
    · split at read
      · rename_i word
        cases read
        exact .host word
      · split at read
        · obtain ⟨offset, made, rfl⟩ := Option.map_eq_some_iff.1 read
          obtain ⟨size, digits, isOffset⟩ := offsetOfDigits?_eq_some_iff.1 made
          exact .ahead digits isOffset
        · obtain ⟨offset, made, rfl⟩ := Option.map_eq_some_iff.1 read
          obtain ⟨size, digits, isOffset⟩ := offsetOfDigits?_eq_some_iff.1 made
          exact .behind digits isOffset
        · cases read
  · intro named
    cases named with
    | utc word => rw [if_pos (by simpa using word)]
    | host word => simp [word]
    | ahead digits isOffset =>
      have made := (@offsetOfDigits?_eq_some_iff false _ _).2 ⟨_, digits, isOffset⟩
      simp [made]
    | behind digits isOffset =>
      have made := (@offsetOfDigits?_eq_some_iff true _ _).2 ⟨_, digits, isOffset⟩
      simp [made]

/-! ## Written names -/

/-- The written form of an offset of whole minutes. -/
theorem toList_written {offset : UtcOffset} (whole : offset.seconds % 60 = 0) :
    offset.written.toList = (if offset.seconds < 0 then '-' else '+') ::
      (fixedDigits 2 (offset.seconds.natAbs / 3600) ++
        ':' :: fixedDigits 2 (offset.seconds.natAbs / 60 % 60)) := by
  have noSeconds : offset.seconds.natAbs % 60 = 0 := by omega
  simp only [UtcOffset.written, noSeconds, if_true, String.toList_append, String.toList_ofList]
  split <;> simp

theorem HoursMinutes.of_values {h₁ h₂ m₁ m₂ : Char} {hours minutes : Nat}
    (digits : ∀ c ∈ [h₁, h₂, m₁, m₂], isDigit c = true)
    (isHours : digitValue h₁ * 10 + digitValue h₂ = hours) (hoursInRange : hours ≤ 23)
    (isMinutes : digitValue m₁ * 10 + digitValue m₂ = minutes) (minutesInRange : minutes ≤ 59) :
    HoursMinutes [h₁, h₂, m₁, m₂] (hours * 3600 + minutes * 60) := by
  subst isHours isMinutes
  exact .mk digits hoursInRange minutesInRange

/-- Two digits each for the hours and the minutes, with a colon between them, are read as what they
were written for. -/
theorem hoursMinutes_fixedDigits {hours minutes : Nat} (hoursInRange : hours ≤ 23)
    (minutesInRange : minutes ≤ 59) :
    HoursMinutes ((fixedDigits 2 hours ++ ':' :: fixedDigits 2 minutes).filter (· != ':'))
      (hours * 3600 + minutes * 60) := by
  have digit (value : Nat) : digitOf value ≠ ':' := fun same =>
    absurd (isDigit_digitOf value) (by rw [same]; decide)
  have kept : (fixedDigits 2 hours ++ ':' :: fixedDigits 2 minutes).filter (· != ':') =
      [digitOf (hours / 10), digitOf hours, digitOf (minutes / 10), digitOf minutes] := by
    simp [fixedDigits, digit]
  have value {number : Nat} (small : number < 100) :
      digitValue (digitOf (number / 10)) * 10 + digitValue (digitOf number) = number := by
    rw [digitValue_digitOf, digitValue_digitOf]
    omega
  rw [kept]
  exact .of_values (by simp [isDigit_digitOf]) (value (by omega)) hoursInRange (value (by omega))
    minutesInRange

theorem HoursMinutes.whole {digits : List Char} {size : Nat} (isSize : HoursMinutes digits size) :
    size % 60 = 0 := by
  cases isSize
  omega

/-- The zones that have a name on a host with some rule. -/
inductive Nameable (rule : DaylightRule) : Zone → Prop where
  | utc : Nameable rule utc
  | host : Nameable rule (host rule)
  /-- Names of constant offsets give hours and minutes. -/
  | fixed {offset : UtcOffset} (whole : offset.seconds % 60 = 0) : Nameable rule (fixed offset)

theorem nameable_of_ofText? {text : String} {zone : Zone} (named : ofText? rule text = some zone) :
    zone.Nameable rule := by
  rw [ofText?_eq_some_iff] at named
  generalize trim text.toList = name at named
  cases named with
  | utc => exact .utc
  | host => exact .host
  | ahead digits isOffset | behind digits isOffset =>
    have whole := digits.whole
    exact .fixed (by omega)

/-- The written name of a zone that has a name names the zone. -/
theorem ofText?_name {zone : Zone} (nameable : zone.Nameable rule) :
    ofText? rule zone.name = some zone := by
  cases nameable with
  | utc => exact ofText?_eq_some_iff.2 (.utc (by decide))
  | host =>
    have word : (trim "Local".toList).map Char.toLower = "local".toList := by decide
    exact ofText?_eq_some_iff.2 (.host word)
  | @fixed offset wholeOffset =>
    have inRange := offset.inRange
    have written := toList_written wholeOffset
    have isMinutes : offset.seconds.natAbs / 3600 * 3600 +
        offset.seconds.natAbs / 60 % 60 * 60 = offset.seconds.natAbs := by omega
    have digits := @hoursMinutes_fixedDigits (offset.seconds.natAbs / 3600)
      (offset.seconds.natAbs / 60 % 60) (by omega) (by omega)
    rw [isMinutes] at digits
    have visible : trim offset.written.toList = offset.written.toList := by
      rw [written]
      refine trim_eq_self (fun c first => ?_) fun c last => ?_
      · cases first
        split <;> decide
      · have isLast : c = digitOf (offset.seconds.natAbs / 60 % 60) := by
          simpa [fixedDigits, List.getLast?_append, eq_comm] using last
        rw [isLast]
        exact isBlank_of_isDigit (isDigit_digitOf _)
    refine ofText?_eq_some_iff.2 ?_
    rw [name, visible, written]
    by_cases negative : offset.seconds < 0
    · rw [if_pos negative]
      exact .behind digits (by omega)
    · rw [if_neg negative]
      exact .ahead digits (by omega)

/-! ## Reading along the bytes -/

/-- The offset that a text of four digits names. There is no answer where the text cannot be cut
after its second byte. -/
def offsetByBytes? (negative : Bool) (digits : List Char) : Option (Option UtcOffset) :=
  if (Utf8.encode digits).length = 4 ∧ digits.all isDigit then do
    let (hours, minutes) ← Utf8.splitAt? 2 digits
    let minutes := digitsValue minutes 0
    let size : Int := digitsValue hours 0 * 3600 + minutes * 60
    some (if minutes < 60 then UtcOffset.ofSeconds? (if negative then -size else size) else none)
  else some none

/-- The zone that a text names, where signs and digits are looked up by their bytes. There is no
answer where no byte is where one is looked up, or where a text is cut inside a character. -/
def parseByBytes? (rule : DaylightRule) (text : String) : Option (Except Failure Zone) :=
  let name := trim text.toList
  let lower := String.ofList (name.map Char.toLower)
  if lower = "utc" ∨ lower = "z" ∨ lower = "" then some (.ok utc)
  else if lower = "local" then some (.ok (host rule))
  else do
    let first ← (Utf8.encode name)[0]?
    if first = 0x2B ∨ first = 0x2D then
      let (_, rest) ← Utf8.splitAt? 1 name
      match ← offsetByBytes? (first = 0x2D) (rest.filter (· != ':')) with
      | some offset => some (.ok (fixed offset))
      | none => some (.error (.zone text))
    else some (.error (.zone text))

theorem toNat_of_isDigit {c : Char} (digit : isDigit c = true) : c.val.toNat < 128 :=
  Nat.lt_of_le_of_lt (isDigit_iff.1 digit).2 (by decide)

theorem digitsValue_two (high low : Char) :
    digitsValue [high, low] 0 = digitValue high * 10 + digitValue low := by
  change (0 * 10 + digitValue high) * 10 + digitValue low = _
  rw [Nat.zero_mul, Nat.zero_add]

/-- Four bytes that are digits can be cut in the middle. -/
theorem offsetByBytes?_eq (negative : Bool) (digits : List Char) :
    offsetByBytes? negative digits = some (offsetOfDigits? negative digits) := by
  unfold offsetByBytes?
  split
  · rename_i four
    obtain ⟨size, all⟩ := four
    have each := List.all_eq_true.1 all
    rw [Utf8.length_encode_of_ascii fun c inside => toNat_of_isDigit (each c inside)] at size
    match digits, size with
    | [h₁, h₂, m₁, m₂], _ =>
      have cut : Utf8.splitAt? 2 [h₁, h₂, m₁, m₂] = some ([h₁, h₂], [m₁, m₂]) := by
        refine Utf8.splitAt?_eq_some_iff.2 ⟨rfl, ?_⟩
        exact Utf8.length_encode_of_ascii fun c inside =>
          toNat_of_isDigit (each c (List.mem_append_left [m₁, m₂] inside))
      rw [cut]
      dsimp only [offsetOfDigits?, bind, Option.bind]
      rw [if_pos all, digitsValue_two, digitsValue_two]
  · rename_i other
    unfold offsetOfDigits?
    split
    · rename_i h₁ h₂ m₁ m₂
      rw [if_neg]
      intro all
      have each := List.all_eq_true.1 all
      refine other ⟨?_, all⟩
      exact Utf8.length_encode_of_ascii fun c inside => toNat_of_isDigit (each c inside)
    · rfl

/-- No text makes the reading along the bytes look up a byte that is not there or cut a text inside
a character, and what is read is the same. -/
theorem parseByBytes?_eq (rule : DaylightRule) (text : String) :
    parseByBytes? rule text = some (parse rule text) := by
  unfold parseByBytes? parse ofText?
  dsimp only
  split
  · rfl
  · rename_i unnamed
    split
    · rfl
    · cases given : trim text.toList with
      | nil =>
        rw [given] at unnamed
        exact absurd rfl (not_or.1 (not_or.1 unnamed).2).2
      | cons c rest =>
        obtain ⟨first, isFirst⟩ := Utf8.exists_first_byte c rest
        have isByte {byte : UInt8} (ascii : byte < 0x80) :
            first = byte ↔ c.val.toNat = byte.toNat := by
          rw [← Utf8.getElem?_encode_zero ascii c rest, isFirst, Option.some.injEq]
        have cut (narrow : c.val.toNat < 128) : Utf8.splitAt? 1 (c :: rest) = some ([c], rest) := by
          refine Utf8.splitAt?_eq_some_iff.2 ⟨rfl, ?_⟩
          exact Utf8.length_encode_of_ascii fun _ inside => List.mem_singleton.1 inside ▸ narrow
        by_cases ahead : c = '+'
        · subst ahead
          obtain rfl : first = 0x2B := (isByte (by decide)).2 rfl
          cases made : offsetOfDigits? false (rest.filter (· != ':')) <;>
            simp [isFirst, cut, offsetByBytes?_eq, made]
        · by_cases behind : c = '-'
          · subst behind
            obtain rfl : first = 0x2D := (isByte (by decide)).2 rfl
            cases made : offsetOfDigits? true (rest.filter (· != ':')) <;>
              simp [isFirst, cut, offsetByBytes?_eq, made]
          · have notAhead : first ≠ 0x2B := fun same =>
              ahead (Char.ext (UInt32.toNat_inj.1 ((isByte (by decide)).1 same)))
            have notBehind : first ≠ 0x2D := fun same =>
              behind (Char.ext (UInt32.toNat_inj.1 ((isByte (by decide)).1 same)))
            simp [isFirst, ahead, behind, notAhead, notBehind]

/-- Reading a text gives the zone that the text names, without the blanks around it.

Every text is read, even along its bytes, where no sign and no digit is ever looked for in vain. A
text that names no zone is refused with a failure that quotes it as it was given. The written name
of a zone that was read is read as the same zone. -/
theorem parse_exactly_names (rule : DaylightRule) (text : String) :
    ∃ name, Stripped text.toList name ∧
      (∀ zone, parse rule text = .ok zone ↔ Names rule name zone) ∧
      (∀ failure, parse rule text = .error failure ↔
        failure = .zone text ∧ ∀ zone, ¬Names rule name zone) ∧
      parseByBytes? rule text = some (parse rule text) ∧
      ∀ zone, parse rule text = .ok zone → parse rule zone.name = .ok zone := by
  refine ⟨trim text.toList, stripped_trim _, fun zone => ?_, fun failure => ?_,
    parseByBytes?_eq rule text, fun zone read => ?_⟩
  · rw [parse_eq_ok_iff, ofText?_eq_some_iff]
  · simp only [← ofText?_eq_some_iff, parse]
    cases ofText? rule text <;> simp [eq_comm]
  · rw [parse_eq_ok_iff] at read ⊢
    exact ofText?_name (nameable_of_ofText? read)

/-- Blanks may stand around a name, and colons anywhere among the digits of an offset. -/
example : parse .eastern " -0:530:\n" = .ok (.fixed { seconds := -19800 }) := by decide

end Zone

end Intake
