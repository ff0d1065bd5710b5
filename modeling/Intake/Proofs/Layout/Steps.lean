import Intake.Layout.Basic
import Intake.Proofs.Layout.Digits

/-!
# The steps of patterns

What each step of a pattern takes from a text and what it takes note of, and which patterns never
read one text. Two patterns are `apart` where this can be seen from their steps: after the steps
that they share, the texts that they read start with characters of different kinds. Whether they are
is computed, so that it can be decided for patterns that are given; `not_both_of_apart` says what
follows.
-/

namespace Intake

namespace Item

variable {fields result : Fields} {text rest : List Char} {items : List Item}

/-! ## Steps one by one -/

theorem scanAll_cons_eq_some {item : Item} :
    scanAll (item :: items) fields text = some (result, rest) ↔
      ∃ middle between, item.scan fields text = some (middle, between) ∧
        scanAll items middle between = some (result, rest) := by
  simp only [scanAll, bind, StateT.bind, Option.bind_eq_some_iff, Prod.exists]

theorem scanAll_nil_eq_some :
    scanAll [] fields text = some (result, rest) ↔ result = fields ∧ rest = text := by
  change some (fields, text) = some (result, rest) ↔ _
  simp only [Option.some.injEq, Prod.mk.injEq, eq_comm]

theorem scan_literal_eq_some {c : Char} :
    (literal c).scan fields text = some (result, rest) ↔ text = c :: rest ∧ result = fields := by
  cases text with
  | nil => simp [scan, Scanner.char, bind, StateT.bind]
  | cons first others =>
    simp only [scan, Scanner.char, bind, StateT.bind]
    by_cases same : first = c
    · simp only [same, if_true, Option.bind_some]
      change some (fields, others) = some (result, rest) ↔ _
      simp [eq_comm, and_comm]
    · simp [same]

/-- A step that scans and then takes note of what it scanned. -/
theorem scan_then_note {α : Type} {scanner : Scanner α} {note : α → Option Fields} :
    (do let value ← scanner; note value : Scanner Fields) text = some (result, rest) ↔
      ∃ value, scanner text = some (value, rest) ∧ note value = some result := by
  have noted : ∀ {value between}, (liftM (note value) : Scanner Fields) between =
      some (result, rest) ↔ note value = some result ∧ between = rest := by
    intro value between
    cases note value <;> simp [liftM, monadLift, MonadLift.monadLift, StateT.lift]
  simp only [bind, StateT.bind, Option.bind_eq_some_iff, Prod.exists, noted]
  constructor
  · rintro ⟨value, _, scanned, made, rfl⟩
    exact ⟨value, scanned, made⟩
  · rintro ⟨value, scanned, made⟩
    exact ⟨value, rest, scanned, made, rfl⟩

theorem scan_numeric_eq_some {kind : Numeric} :
    (numeric kind).scan fields text = some (result, rest) ↔
      ∃ value, kind.scan (trimStart text) = some (value, rest) ∧
        kind.record? fields value = some result :=
  @scan_then_note result (trimStart text) rest _ _ _

theorem scanAll_literal_eq_some {c : Char} :
    scanAll (literal c :: items) fields text = some (result, rest) ↔
      ∃ after, text = c :: after ∧ scanAll items fields after = some (result, rest) := by
  rw [scanAll_cons_eq_some]
  constructor
  · rintro ⟨middle, after, scanned, readRest⟩
    obtain ⟨isText, rfl⟩ := scan_literal_eq_some.1 scanned
    exact ⟨after, isText, readRest⟩
  · rintro ⟨after, isText, readRest⟩
    exact ⟨fields, after, scan_literal_eq_some.2 ⟨isText, rfl⟩, readRest⟩

/-- A step for a number that has no sign. -/
theorem scanAll_number_eq_some {kind : Numeric} {most : Nat}
    (unsigned : kind.scan (trimStart text) = (Scanner.number 1 (some most) (trimStart text)).map
      fun (value, rest) => ((value : Int), rest)) :
    scanAll (numeric kind :: items) fields text = some (result, rest) ↔
      ∃ value after noted, Scanner.number 1 (some most) (trimStart text) = some (value, after) ∧
        kind.record? fields value = some noted ∧
        scanAll items noted after = some (result, rest) := by
  simp only [scanAll_cons_eq_some, scan_numeric_eq_some, unsigned]
  constructor
  · rintro ⟨noted, after, ⟨_, scanned, isNoted⟩, readRest⟩
    obtain ⟨⟨value, _⟩, taken, same⟩ := Option.map_eq_some_iff.1 scanned
    cases same
    exact ⟨value, _, noted, taken, isNoted, readRest⟩
  · rintro ⟨value, after, noted, scanned, isNoted, readRest⟩
    exact ⟨noted, after, ⟨value, by rw [scanned]; rfl, isNoted⟩, readRest⟩

/-- The steps for a number that has no sign and the mark after it. -/
theorem scanAll_number_then_eq_some {kind : Numeric} {most : Nat} {mark : Char}
    (unsigned : kind.scan (trimStart text) = (Scanner.number 1 (some most) (trimStart text)).map
      fun (value, rest) => ((value : Int), rest)) :
    scanAll (numeric kind :: literal mark :: items) fields text = some (result, rest) ↔
      ∃ value after noted,
        Scanner.number 1 (some most) (trimStart text) = some (value, mark :: after) ∧
        kind.record? fields value = some noted ∧
        scanAll items noted after = some (result, rest) := by
  rw [scanAll_number_eq_some unsigned]
  constructor
  · rintro ⟨value, _, noted, scanned, isNoted, readRest⟩
    obtain ⟨after, rfl, readItems⟩ := scanAll_literal_eq_some.1 readRest
    exact ⟨value, after, noted, scanned, isNoted, readItems⟩
  · rintro ⟨value, after, noted, scanned, isNoted, readRest⟩
    have marked : scanAll (literal mark :: items) noted (mark :: after) = some (result, rest) :=
      scanAll_literal_eq_some.2 ⟨after, rfl, readRest⟩
    exact ⟨value, _, noted, scanned, isNoted, marked⟩

theorem scan_month_eq_some :
    (month false).scan fields text = some (result, rest) ↔
      ∃ index, Scanner.shortName Scanner.monthNames text = some (index, rest) ∧
        fields.record? .month (index + 1) = some result :=
  scan_then_note

theorem scan_offset_eq_some :
    offset.scan fields text = some (result, rest) ↔
      ∃ seconds, Scanner.offset offsetForm (trimStart text) = some (seconds, rest) ∧
        fields.record? .offset seconds = some result :=
  @scan_then_note result (trimStart text) rest _ _ _

theorem scan_fraction_eq_some :
    fraction.scan fields text = some (result, rest) ↔
      (∃ inner nano, text = '.' :: inner ∧ Scanner.fraction inner = some (nano, rest) ∧
        fields.record? .nano nano = some result) ∨
      (text.head? ≠ some '.' ∧ result = fields ∧ rest = text) := by
  simp only [scan]
  split
  · rename_i inner
    simp only [bind, Option.bind_eq_some_iff, Option.some.injEq, Prod.mk.injEq, Prod.exists]
    constructor
    · rintro ⟨nano, _, scanned, _, noted, rfl, rfl⟩
      exact .inl ⟨inner, nano, rfl, scanned, noted⟩
    · rintro (⟨_, nano, same, scanned, noted⟩ | ⟨differs, -⟩)
      · cases same
        exact ⟨nano, rest, scanned, result, noted, rfl, rfl⟩
      · exact absurd rfl differs
  · rename_i noPoint
    have differs : text.head? ≠ some '.' := by
      cases text with
      | nil => simp
      | cons c others =>
        intro same
        cases same
        exact noPoint others rfl
    constructor
    · intro same
      cases same
      exact .inr ⟨differs, rfl, rfl⟩
    · rintro (⟨inner, _, point, -⟩ | ⟨-, rfl, rfl⟩)
      · exact absurd point (noPoint inner)
      · rfl

/-! ## Blanks that need no step of their own -/

/-- The step skips blanks before it reads. -/
def skipsBlanks : Item → Bool
  | blanks | numeric _ | offset | looseOffset | namedOffset => true
  | _ => false

theorem scan_trimStart {item : Item} (skips : item.skipsBlanks = true) :
    item.scan fields (trimStart text) = item.scan fields text := by
  have begins : ∃ next : Scanner Fields,
      item.scan fields = (do Scanner.blanks; next : Scanner Fields) := by
    cases item with
    | blanks | numeric | offset | looseOffset | namedOffset => exact ⟨_, rfl⟩
    | _ => cases skips
  obtain ⟨next, isNext⟩ := begins
  rw [isNext]
  change next (trimStart (trimStart text)) = next (trimStart text)
  rw [trimStart_idem]

/-- The steps without blanks in front of a step that skips them. -/
def squeeze : List Item → List Item
  | blanks :: item :: items =>
    if item.skipsBlanks then squeeze (item :: items) else blanks :: squeeze (item :: items)
  | item :: items => item :: squeeze items
  | [] => []

theorem scanAll_squeeze (items : List Item) (fields : Fields) (text : List Char) :
    scanAll (squeeze items) fields text = scanAll items fields text := by
  induction items using squeeze.induct generalizing fields text with
  | case1 item items skips ih =>
    rw [squeeze, if_pos skips, ih]
    change (do let fields ← item.scan fields; scanAll items fields : Scanner Fields) text =
      (do let fields ← item.scan fields; scanAll items fields : Scanner Fields) (trimStart text)
    simp only [bind, StateT.bind, scan_trimStart skips]
  | case2 item items keeps ih =>
    rw [squeeze, if_neg keeps]
    exact ih fields (trimStart text)
  | case3 item items notBlanks ih =>
    rw [squeeze]
    · exact congrArg (fun next => (item.scan fields >>= next) text)
        (funext fun fields => funext fun text => ih fields text)
    · exact notBlanks
  | case4 => rfl

/-! ## What a text starts with -/

/-- The kind of the character that a text starts with. -/
inductive Front where
  | nothing
  | digit
  | letter
  | mark (c : Char)
  deriving DecidableEq

/-- The kind of a character. -/
def Front.ofChar (c : Char) : Front :=
  if isDigit c then .digit else if Rfc2822.isLetter c then .letter else .mark c

/-- What a text starts with. -/
def Front.of : List Char → Front
  | [] => .nothing
  | c :: _ => ofChar c

/-- What the texts that steps read can start with after blanks, where there is little to choose
from. -/
def fronts? : List Item → Option (List Front)
  | [] => some [.nothing]
  | literal c :: _ => if isBlank c then none else some [.ofChar c]
  | numeric kind :: _ =>
    some (if kind = .year ∨ kind = .isoYear then [.digit, .mark '-', .mark '+'] else [.digit])
  | month false :: _ => some [.letter]
  | fraction :: items => (fronts? items).map (.mark '.' :: ·)
  | offset :: _ => some [.mark '+', .mark '-', .mark '\u2212']
  | _ => none

theorem Front.ofChar_of_isDigit {c : Char} (digit : isDigit c = true) :
    ofChar c = .digit := if_pos digit

/-- A letter is neither a digit nor a blank. -/
theorem isLetter_apart {c : Char} (letter : Rfc2822.isLetter c = true) :
    isDigit c = false ∧ isBlank c = false := by
  simp only [Rfc2822.isLetter, Bool.or_eq_true, Bool.and_eq_true, decide_eq_true_eq, Char.le_def,
    UInt32.le_iff_toNat_le] at letter
  have bounds : 97 ≤ c.toNat ∧ c.toNat ≤ 122 ∨ 65 ≤ c.toNat ∧ c.toNat ≤ 90 := letter
  constructor
  · simp only [isDigit, Bool.and_eq_false_iff, decide_eq_false_iff_not, Char.le_def,
      UInt32.le_iff_toNat_le]
    change ¬48 ≤ c.toNat ∨ ¬c.toNat ≤ 57
    omega
  · simp only [isBlank, Bool.or_eq_false_iff, Bool.and_eq_false_iff, decide_eq_false_iff_not,
      beq_eq_false_iff_ne]
    omega

theorem Front.ofChar_of_isLetter {c : Char} (letter : Rfc2822.isLetter c = true) :
    ofChar c = .letter := by
  simp [ofChar, letter, (isLetter_apart letter).1]

/-- A character is a letter if it becomes one in lower case. -/
theorem isLetter_of_toLower {c : Char} (letter : Rfc2822.isLetter c.toLower = true) :
    Rfc2822.isLetter c = true := by
  unfold Char.toLower at letter
  split at letter
  · rename_i upper
    simp only [Rfc2822.isLetter, Bool.or_eq_true, Bool.and_eq_true, decide_eq_true_eq]
    exact .inr upper
  · exact letter

theorem front_of_number {least value : Nat} {most : Option Nat} (pos : 0 < least)
    (scanned : Scanner.number least most text = some (value, rest)) :
    Front.of text = .digit := by
  simp only [Scanner.number, Option.ite_none_right_eq_some] at scanned
  have some_digit := Nat.lt_of_lt_of_le pos scanned.1.1
  cases text with
  | nil => cases most <;> simp [Scanner.digitRun] at some_digit
  | cons c others =>
    cases digit : isDigit c with
    | true => exact Front.ofChar_of_isDigit digit
    | false =>
      cases most with
      | none => simp [Scanner.digitRun, digit] at some_digit
      | some most => cases most <;> simp [Scanner.digitRun, digit] at some_digit

theorem front_of_scan {kind : Numeric} {value : Int}
    (scanned : kind.scan text = some (value, rest)) : Front.of text ∈
      if kind = .year ∨ kind = .isoYear then [.digit, .mark '-', .mark '+'] else [.digit] := by
  have of_year {most : Nat} (scanned : Scanner.signedNumber most text = some (value, rest)) :
      Front.of text ∈ [Front.digit, .mark '-', .mark '+'] := by
    unfold Scanner.signedNumber at scanned
    split at scanned
    · simp [Front.of, Front.ofChar, isDigit, Rfc2822.isLetter]
    · simp [Front.of, Front.ofChar, isDigit, Rfc2822.isLetter]
    · obtain ⟨_, scanned, -⟩ := Option.map_eq_some_iff.1 scanned
      rw [front_of_number (by decide) scanned]
      exact List.mem_cons_self
  have of_number {most : Option Nat} {widen : Nat × List Char → Int × List Char}
      (scanned : (Scanner.number 1 most text).map widen = some (value, rest)) :
      Front.of text ∈ [Front.digit] := by
    obtain ⟨_, scanned, -⟩ := Option.map_eq_some_iff.1 scanned
    rw [front_of_number (by decide) scanned]
    exact List.mem_cons_self
  cases kind with
  | year | isoYear => exact of_year scanned
  | _ => exact of_number scanned

/-- No number starts with a letter. -/
theorem not_scan_letter {kind : Numeric} {c : Char} (letter : Rfc2822.isLetter c = true)
    {value : Int} : kind.scan (c :: text) ≠ some (value, rest) := by
  intro scanned
  have front := front_of_scan scanned
  change Front.ofChar c ∈ _ at front
  rw [Front.ofChar_of_isLetter letter] at front
  split at front <;> simp at front

/-- A name starts with a letter. -/
theorem exists_letter_of_shortName {names : List (List Char × List Char)}
    (lettered : (names.all fun name => name.1.head?.any Rfc2822.isLetter) = true) {index : Nat}
    (scanned : Scanner.shortName names text = some (index, rest)) :
    ∃ c others, text = c :: others ∧ Rfc2822.isLetter c = true := by
  unfold Scanner.shortName at scanned
  split at scanned
  · rename_i found
    obtain ⟨inside, same, -⟩ := List.findIdx?_eq_some_iff_getElem.1 found
    obtain ⟨c, isHead, letter⟩ :=
      (Option.any_eq_true _ _).1 (List.all_eq_true.1 lettered _ (List.getElem_mem inside))
    rw [← of_decide_eq_true same] at isHead
    cases text with
    | nil => simp at isHead
    | cons first others =>
      simp at isHead
      exact ⟨first, others, rfl, isLetter_of_toLower (isHead ▸ letter)⟩
  · cases scanned

theorem monthNames_lettered :
    (Scanner.monthNames.all fun name => name.1.head?.any Rfc2822.isLetter) = true := by
  decide

/-- An offset of a pattern starts with a sign. -/
theorem front_of_offset {seconds : Int}
    (scanned : Scanner.offset offsetForm text = some (seconds, rest)) :
    Front.of text ∈ [Front.mark '+', .mark '-', .mark '\u2212'] := by
  have signed : ∃ negative others, Scanner.offsetSign true text = some (negative, others) := by
    unfold Scanner.offset at scanned
    split at scanned
    · cases scanned
    · cases scanned
    · obtain ⟨⟨negative, others⟩, signed, -⟩ := Option.bind_eq_some_iff.1 scanned
      exact ⟨negative, others, signed⟩
  obtain ⟨negative, others, signed⟩ := signed
  unfold Scanner.offsetSign at signed
  split at signed
  · change Front.ofChar '+' ∈ _
    decide
  · change Front.ofChar '-' ∈ _
    decide
  · change Front.ofChar '\u2212' ∈ _
    decide
  · cases signed

/-- A text that steps read starts with what they say. -/
theorem front_mem {fronts : List Front} (isFronts : fronts? items = some fronts)
    (read : scanAll items fields text = some (result, [])) :
    Front.of (trimStart text) ∈ fronts := by
  induction items generalizing fields text fronts with
  | nil =>
    cases isFronts
    obtain ⟨-, rfl⟩ := scanAll_nil_eq_some.1 read
    exact List.mem_cons_self
  | cons item items ih =>
    obtain ⟨middle, between, scanned, readRest⟩ := scanAll_cons_eq_some.1 read
    cases item with
    | literal c =>
      simp only [fronts?, Option.ite_none_left_eq_some, Option.some.injEq] at isFronts
      obtain ⟨visible, rfl⟩ := isFronts
      obtain ⟨rfl, -⟩ := scan_literal_eq_some.1 scanned
      rw [trimStart_cons_of_not_blank (by simpa using visible)]
      exact List.mem_cons_self
    | numeric kind =>
      cases isFronts
      obtain ⟨value, scanned, -⟩ := scan_numeric_eq_some.1 scanned
      exact front_of_scan scanned
    | month long =>
      cases long with
      | true => cases isFronts
      | false =>
        cases isFronts
        obtain ⟨index, scanned, -⟩ := scan_month_eq_some.1 scanned
        obtain ⟨c, others, rfl, letter⟩ :=
          exists_letter_of_shortName monthNames_lettered scanned
        rw [trimStart_cons_of_not_blank (isLetter_apart letter).2]
        exact List.mem_singleton.2 (Front.ofChar_of_isLetter letter)
    | fraction =>
      obtain ⟨later, isLater, rfl⟩ := Option.map_eq_some_iff.1 isFronts
      rcases scan_fraction_eq_some.1 scanned with ⟨inner, nano, rfl, -⟩ | ⟨-, rfl, rfl⟩
      · rw [trimStart_cons_of_not_blank (by decide)]
        exact List.mem_cons_self
      · exact List.mem_cons_of_mem _ (ih isLater readRest)
    | offset =>
      cases isFronts
      obtain ⟨seconds, scanned, -⟩ := scan_offset_eq_some.1 scanned
      exact front_of_offset scanned
    | _ => cases isFronts

/-! ## Patterns that never read one text -/

/-- The texts that the steps read start with characters of different kinds. -/
def startApart (left right : List Item) : Bool :=
  match fronts? left, fronts? right with
  | some left, some right => left.all fun front => !right.contains front
  | _, _ => false

/-- The steps start apart after the steps that they share. A day and a year count as shared where a
mark ends both, for then both take the same digits. -/
def apart : List Item → List Item → Bool
  | numeric .day :: literal left :: lefts, numeric .year :: literal right :: rights =>
    !isDigit left && (left != right || startApart lefts rights)
  | left :: lefts, right :: rights =>
    startApart (left :: lefts) (right :: rights) || left == right && apart lefts rights
  | lefts, rights => startApart lefts rights

theorem not_both_of_startApart {left right : List Item} (apart : startApart left right = true)
    {lefts rights leftResult rightResult : Fields}
    (readLeft : scanAll left lefts text = some (leftResult, []))
    (readRight : scanAll right rights text = some (rightResult, [])) : False := by
  unfold startApart at apart
  split at apart
  · rename_i isLeft isRight
    have inside := List.all_eq_true.1 apart _ (front_mem isLeft readLeft)
    have := front_mem isRight readRight
    simp [this] at inside
  · cases apart

/-- Steps that are apart read no text in common. -/
theorem not_both_of_apart {left right : List Item} (isApart : apart left right = true)
    {leftResult rightResult : Fields}
    (readLeft : scanAll left fields text = some (leftResult, []))
    (readRight : scanAll right fields text = some (rightResult, [])) : False := by
  induction left, right using apart.induct generalizing fields text with
  | case1 left lefts right rights =>
    simp only [apart, Bool.and_eq_true, Bool.not_eq_true', Bool.or_eq_true, bne_iff_ne] at isApart
    obtain ⟨stop, isApart⟩ := isApart
    obtain ⟨_, _, _, day, -, readLefts⟩ := (scanAll_number_then_eq_some rfl).1 readLeft
    obtain ⟨_, _, scannedYear, readRight⟩ := scanAll_cons_eq_some.1 readRight
    obtain ⟨_, rfl, readRights⟩ := scanAll_literal_eq_some.1 readRight
    obtain ⟨_, year, -⟩ := scan_numeric_eq_some.1 scannedYear
    -- The year takes the same digits, so the same mark follows.
    have same : Scanner.signedNumber 4 _ = _ :=
      Scanner.signedNumber_of_number day (by decide) (by decide) stop
    cases same.symm.trans year
    exact isApart.elim (fun differ => differ rfl) fun isApart =>
      not_both_of_startApart isApart readLefts readRights
  | case2 left lefts right rights different ih =>
    rw [apart] at isApart
    · simp only [Bool.or_eq_true, Bool.and_eq_true, beq_iff_eq] at isApart
      rcases isApart with starts | ⟨rfl, isApart⟩
      · exact not_both_of_startApart starts readLeft readRight
      · obtain ⟨middle, between, scanned, readLeft⟩ := scanAll_cons_eq_some.1 readLeft
        obtain ⟨_, _, again, readRight⟩ := scanAll_cons_eq_some.1 readRight
        cases scanned.symm.trans again
        exact ih isApart readLeft readRight
    · exact different
  | case3 lefts rights _ _ =>
    rw [apart] at isApart
    · exact not_both_of_startApart isApart readLeft readRight
    all_goals assumption

end Item

end Intake
