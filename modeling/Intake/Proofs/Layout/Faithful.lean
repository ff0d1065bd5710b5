import Intake.Proofs.Layout.WallTime

/-!
# Layouts that keep what they read

The class of a pattern layout is found by looking for a few specifiers in the text of the pattern,
and the steps of a pattern may read more, or less, than its class has a use for. What was read
stands for an instant (`Fields.StandsFor`) where a wall time accounts for every component. A layout
that `Keeps` what it read makes the instant that this stands for, in every zone, and a layout whose
class `Suits` its steps keeps whatever it reads. Otherwise there is a zone in which something that
was read is lost: `Layout.ofText_stands_for` says all of this, and `Layout.padded_hour_lost` is a
pattern whose hour is lost.

One case is left open: a count of seconds that is read by a zoned layout without an offset.
-/

namespace Intake

/-- What was read stands for an instant in a zone: a wall time accounts for all of it, and a wall
with the offset that was read, or a wall of the zone where none was, shows this wall time at the
instant. -/
def Fields.StandsFor (fields : Fields) (zone : Zone) (instant : Instant) : Prop :=
  ∃ wall, fields.Accounts instant.seconds wall ∧
    match fields.read .offset with
    | some offset => wall.atOffset? offset = some instant
    | none => zone.localize? wall = some instant

namespace Fields.Accounts

variable {fields : Fields}

/-- Without a count of seconds, only one wall time accounts for what was read. -/
theorem unique (noCount : fields.read .timestamp = none) {leftSeconds rightSeconds : Int}
    {left right : WallTime} (ofLeft : fields.Accounts leftSeconds left)
    (ofRight : fields.Accounts rightSeconds right) : left = right := by
  obtain ⟨leftDate, leftClock⟩ := left
  obtain ⟨rightDate, rightClock⟩ := right
  have sameDate : leftDate = rightDate :=
    Except.ok.inj ((ofLeft.dated noCount).symm.trans (ofRight.dated noCount))
  have sameClock : leftClock = rightClock := by
    refine Clock.eq_of_component? fun component inside => ?_
    have ofClock (wall : WallTime) : wall.component? component = wall.clock.component? component :=
      if_pos inside
    cases held : fields.read component with
    | none =>
      exact ⟨0, (ofClock _).symm.trans (ofLeft.zero noCount component inside held),
        (ofClock _).symm.trans (ofRight.zero noCount component inside held)⟩
    | some value =>
      have inner : component ≠ .timestamp ∧ component ≠ .offset := by
        constructor <;> rintro rfl <;> simp [clockComponents] at inside
      exact ⟨value, (ofClock _).symm.trans (ofLeft.shown _ _ inner.1 inner.2 held),
        (ofClock _).symm.trans (ofRight.shown _ _ inner.1 inner.2 held)⟩
  rw [sameDate, sameClock]

end Fields.Accounts

namespace Layout

/-- A layout keeps what was read: a zoned one with an offset, any other with neither an offset nor a
count of seconds, and one that stands for midnight with no time of day but midnight. -/
def Keeps (fields : Fields) : Layout → Prop
  | rfc3339 | rfc2822 => True
  | zoned _ => fields.read .offset ≠ none
  | naive _ => fields.read .offset = none ∧ fields.read .timestamp = none
  | date _ => (fields.read .offset = none ∧ fields.read .timestamp = none) ∧
    ∀ component ∈ clockComponents, ∀ value, fields.read component = some value → value = 0

/-- The class of a layout suits steps: they have an offset where it is zoned, and otherwise neither
an offset nor a count of seconds and, where it stands for midnight, nothing of a time of day. -/
def Suits (items : List Item) : Layout → Prop
  | rfc3339 | rfc2822 => True
  | zoned _ => .offset ∈ Item.footprint items
  | naive _ => .offset ∉ Item.footprint items ∧ .timestamp ∉ Item.footprint items
  | date _ => (.offset ∉ Item.footprint items ∧ .timestamp ∉ Item.footprint items) ∧
    ∀ component ∈ clockComponents, component ∉ Item.footprint items

instance (items : List Item) : DecidablePred (Suits items)
  | rfc3339 | rfc2822 => inferInstanceAs (Decidable True)
  | zoned _ => inferInstanceAs (Decidable (_ ∈ _))
  | naive _ => inferInstanceAs (Decidable (_ ∧ _))
  | date _ => inferInstanceAs (Decidable ((_ ∧ _) ∧ ∀ component ∈ clockComponents, _))

variable {layout : Layout} {fields : Fields} {value : String}

/-- A layout whose class suits steps keeps what the steps read. -/
theorem keeps_of_suits {items : List Item} {text rest : List Char}
    (taken : Item.scanAll items .empty text = some (fields, rest)) (suits : layout.Suits items) :
    layout.Keeps fields := by
  have unread {component : Component} (outside : component ∉ Item.footprint items) :
      fields.read component = none := (Item.scanAll_gains taken).frame component outside
  cases layout with
  | rfc3339 | rfc2822 => trivial
  | zoned pattern =>
    obtain ⟨seconds, held⟩ := Item.offset_of_scanAll suits taken
    exact Option.ne_none_iff_exists'.2 ⟨seconds, held⟩
  | naive pattern => exact ⟨unread suits.1, unread suits.2⟩
  | date pattern =>
    refine ⟨⟨unread suits.1.1, unread suits.1.2⟩, fun component inside value held => ?_⟩
    rw [unread (suits.2 component inside)] at held
    cases held

/-- The layout of a text that is no name of a standard form is a pattern with this text. -/
theorem ofText_of_pattern {text : String} (strict : ofText text ≠ rfc3339)
    (mail : ofText text ≠ rfc2822) :
    ofText text = zoned text ∨ ofText text = naive text ∨ ofText text = date text := by
  unfold ofText at *
  dsimp only at *
  split
  · rename_i isStrict
    exact absurd (if_pos isStrict) strict
  · rename_i notStrict
    rw [if_neg notStrict] at mail
    split
    · rename_i isMail
      exact absurd (if_pos isMail) mail
    · split
      · exact .inl rfl
      · split
        · exact .inr (.inl rfl)
        · exact .inr (.inr rfl)

theorem scanAll_of_read? {pattern : String} (read : Pattern.read? pattern value = some fields) :
    Item.scanAll (Pattern.items pattern.toList) .empty value.toList = some (fields, []) := by
  unfold Pattern.read? at read
  split at read
  · rename_i taken
    cases read
    exact taken
  · cases read

theorem eq_ok_of_toOption {ε α : Type} {result : Except ε α} {answer : α}
    (isSome : result.toOption = some answer) : result = .ok answer := by
  cases result with
  | error fault => cases isSome
  | ok value =>
    cases isSome
    rfl

/-- A clock that shows midnight accounts for a date and a time of day that is midnight. -/
theorem accounts_midnight {day : Date} (isDate : fields.toDate = .ok day)
    (noCount : fields.read .timestamp = none) (midnight : ∀ component ∈ clockComponents,
      ∀ value, fields.read component = some value → value = 0) (seconds : Int) :
    fields.Accounts seconds { date := day, clock := Clock.midnight } where
  shown component value notCount notOffset held := by
    by_cases ofClock : component ∈ clockComponents
    · rw [WallTime.component?, if_pos ofClock, Clock.component?_midnight component ofClock,
        midnight component ofClock value held]
    · rw [WallTime.component?, if_neg ofClock]
      exact Fields.component?_of_toDate isDate _
        (Component.mem_dateComponents ofClock notCount notOffset) _ held
  dated _ := isDate
  zero _ component inside _ := by
    rw [WallTime.component?, if_pos inside, Clock.component?_midnight component inside]
  counted count isCount := by simp [noCount] at isCount

/-- What a zoned layout makes of components that have an offset. -/
theorem stands_of_toInstant? (inRange : fields.InRange) (hasOffset : fields.read .offset ≠ none)
    (zone : Zone) {instant : Instant} (made : fields.toInstant? = some instant) :
    fields.StandsFor zone instant := by
  obtain ⟨offset, wall, isWall, placed, isOffset | ⟨noOffset, -⟩⟩ :=
    Fields.exists_of_toInstant? made
  · have isSeconds : instant.seconds = wall.seconds - offset :=
      (Instant.seconds_of_ofSeconds? placed).1
    refine ⟨wall, isSeconds ▸ Fields.accounts_of_toWallTime? inRange isWall, ?_⟩
    rw [isOffset]
    exact placed
  · exact absurd noOffset hasOffset

/-- What a layout keeps stands for the instant that it makes of it. -/
theorem stands_of_keeps {pattern : String}
    (isPattern : layout = zoned pattern ∨ layout = naive pattern ∨ layout = date pattern)
    (read : Pattern.read? pattern value = some fields) (keeps : layout.Keeps fields) {zone : Zone}
    {instant : Instant} (made : layout.read? zone value = some instant) :
    fields.StandsFor zone instant := by
  have inRange : fields.InRange :=
    (Item.scanAll_gains (scanAll_of_read? read)).inRange Fields.InRange.empty
  rcases isPattern with rfl | rfl | rfl
  · simp only [read?, read, Option.bind_some] at made
    exact stands_of_toInstant? inRange keeps zone made
  · simp only [read?, read, Option.bind_eq_bind, Option.bind_some] at made
    obtain ⟨wall, isWall, placed⟩ := Option.bind_eq_some_iff.1 made
    have accounts := Fields.accounts_of_toWallTime? inRange isWall
    refine ⟨wall, ⟨accounts.shown, accounts.dated, accounts.zero, fun count isCount => ?_⟩, ?_⟩
    · simp [keeps.2] at isCount
    · rw [keeps.1]
      exact placed
  · simp only [read?, read, Option.bind_eq_bind, Option.bind_some] at made
    obtain ⟨day, isDay, placed⟩ := Option.bind_eq_some_iff.1 made
    refine ⟨_, accounts_midnight (eq_ok_of_toOption isDay) keeps.1.2 keeps.2 _, ?_⟩
    rw [keeps.1.1]
    exact placed

/-- Away from universal time, a wall shows a wall time an hour earlier or later. -/
theorem exists_elsewhere (wall : WallTime) : ∃ (zone : Zone) (instant : Instant),
    zone.localize? wall = some instant ∧
      (instant.seconds = wall.seconds - 3600 ∨ instant.seconds = wall.seconds + 3600) := by
  have bounds := wall.atUtc.inRange
  change firstSecond ≤ wall.seconds ∧ wall.seconds ≤ lastSecond at bounds
  have nano := wall.clock.nano_lt
  by_cases future : 0 ≤ wall.seconds
  · have inside : firstSecond ≤ wall.seconds - 3600 ∧ wall.seconds - 3600 ≤ lastSecond := by
      unfold firstSecond firstDay at *
      omega
    exact ⟨.fixed ⟨3600, by decide⟩, _, dif_pos ⟨inside, nano⟩, .inl rfl⟩
  · have inside : firstSecond ≤ wall.seconds - -3600 ∧ wall.seconds - -3600 ≤ lastSecond := by
      unfold lastSecond lastDay at *
      omega
    exact ⟨.fixed ⟨-3600, by decide⟩, _, dif_pos ⟨inside, nano⟩, .inr (by simp)⟩

/-- A wall time that a zone alone places stands for what was read, in every zone, only where neither
an offset nor a count of seconds was read. -/
theorem plain_of_stands {wall : WallTime} (stands : ∀ zone instant,
    Zone.localize? zone wall = some instant → fields.StandsFor zone instant) :
    fields.read .offset = none ∧ fields.read .timestamp = none := by
  obtain ⟨zone, elsewhere, isElsewhere, apart⟩ := exists_elsewhere wall
  obtain ⟨first, ofFirst, placedFirst⟩ := stands .utc wall.atUtc rfl
  obtain ⟨second, ofSecond, placedSecond⟩ := stands zone elsewhere isElsewhere
  have isUtc : wall.atUtc.seconds = wall.seconds := rfl
  have noCount : fields.read .timestamp = none := by
    refine Option.eq_none_iff_forall_ne_some.2 fun count isCount => ?_
    have here := ofFirst.counted count isCount
    have there := ofSecond.counted count isCount
    omega
  refine ⟨Option.eq_none_iff_forall_ne_some.2 fun offset isOffset => ?_, noCount⟩
  rw [isOffset] at placedFirst placedSecond
  rw [ofFirst.unique noCount ofSecond] at placedFirst
  have same : wall.atUtc = elsewhere := Option.some.inj (placedFirst.symm.trans placedSecond)
  have sameSeconds := congrArg Instant.seconds same
  omega

/-- A count of seconds that is kept comes with an offset. -/
theorem counted_of_keeps {pattern : String}
    (isPattern : layout = zoned pattern ∨ layout = naive pattern ∨ layout = date pattern)
    (keeps : layout.Keeps fields) : fields.read .timestamp ≠ none → fields.read .offset ≠ none := by
  rcases isPattern with rfl | rfl | rfl
  · exact fun _ => keeps
  · exact fun isCount => absurd keeps.2 isCount
  · exact fun isCount => absurd keeps.1.2 isCount

/-- What stands for an instant in every zone was kept. -/
theorem keeps_of_stands {pattern : String}
    (isPattern : layout = zoned pattern ∨ layout = naive pattern ∨ layout = date pattern)
    (read : Pattern.read? pattern value = some fields)
    (counted : fields.read .timestamp ≠ none → fields.read .offset ≠ none)
    {somewhere : Zone} {sometime : Instant} (made : layout.read? somewhere value = some sometime)
    (stands : ∀ zone instant, layout.read? zone value = some instant →
      fields.StandsFor zone instant) : layout.Keeps fields := by
  rcases isPattern with rfl | rfl | rfl
  · simp only [read?, read, Option.bind_some] at made
    obtain ⟨offset, _, -, -, isOffset | ⟨-, isCount, -⟩⟩ := Fields.exists_of_toInstant? made
    · exact Option.ne_none_iff_exists'.2 ⟨offset, isOffset⟩
    · exact counted isCount
  · simp only [read?, read, Option.bind_eq_bind, Option.bind_some] at made stands
    obtain ⟨wall, isWall, -⟩ := Option.bind_eq_some_iff.1 made
    simp only [isWall, Option.bind_some] at stands
    exact plain_of_stands stands
  · simp only [read?, read, Option.bind_eq_bind, Option.bind_some] at made stands
    obtain ⟨day, isDay, -⟩ := Option.bind_eq_some_iff.1 made
    simp only [isDay, Option.bind_some] at stands
    have plain := plain_of_stands stands
    refine ⟨plain, fun component inside value held => ?_⟩
    -- In universal time the wall time that accounts for what was read is this midnight.
    obtain ⟨wall, accounts, placed⟩ := stands .utc _ rfl
    rw [plain.1] at placed
    have isMidnight := congrArg Instant.toWallTime (Option.some.inj placed)
    rw [WallTime.toWallTime_atUtc, WallTime.toWallTime_atUtc] at isMidnight
    have inner : component ≠ .timestamp ∧ component ≠ .offset := by
      constructor <;> rintro rfl <;> simp [clockComponents] at inside
    have shown := accounts.shown component value inner.1 inner.2 held
    rw [isMidnight, WallTime.component?, if_pos inside,
      Clock.component?_midnight component inside] at shown
    exact (Option.some.inj shown).symm

/-- A pattern layout makes an instant of what the steps of the pattern read. -/
theorem exists_read?_of_pattern {pattern : String}
    (isPattern : layout = zoned pattern ∨ layout = naive pattern ∨ layout = date pattern)
    {zone : Zone} {instant : Instant} (made : layout.read? zone value = some instant) :
    ∃ fields, Pattern.read? pattern value = some fields := by
  rcases isPattern with rfl | rfl | rfl <;>
  · obtain ⟨fields, read, -⟩ := Option.bind_eq_some_iff.1 made
    exact ⟨fields, read⟩

/-- What a layout keeps stands for the instant that it makes, and what it does not keep does not.

Let a pattern make an instant of a value, in whichever zone. Then its steps read the value, and they
read only what the layout keeps if its class suits them. What they read is kept exactly where it
stands for the instant that the layout makes in every zone, as long as a count of seconds comes with
an offset. -/
theorem ofText_stands_for (text : String) (strict : ofText text ≠ rfc3339)
    (mail : ofText text ≠ rfc2822) (value : String) (zone : Zone) (instant : Instant)
    (made : (ofText text).read? zone value = some instant) :
    ∃ fields, Pattern.read? text value = some fields ∧
      ((ofText text).Suits (Pattern.items text.toList) → (ofText text).Keeps fields) ∧
      ((ofText text).Keeps fields ↔
        (fields.read .timestamp ≠ none → fields.read .offset ≠ none) ∧
        ∀ other otherInstant, (ofText text).read? other value = some otherInstant →
          fields.StandsFor other otherInstant) := by
  have isPattern := ofText_of_pattern strict mail
  obtain ⟨fields, read⟩ := exists_read?_of_pattern isPattern made
  refine ⟨fields, read, keeps_of_suits (scanAll_of_read? read), ?_⟩
  constructor
  · exact fun keeps => ⟨counted_of_keeps isPattern keeps,
      fun other otherInstant => stands_of_keeps isPattern read keeps⟩
  · exact fun ⟨counted, stands⟩ => keeps_of_stands isPattern read counted made stands

/-- A pattern with an hour and no offset. -/
theorem hour_stands_for : ∃ fields instant,
    Pattern.read? "%Y-%m-%d %H:%M" "2021-01-02 15:04" = some fields ∧
      (ofText "%Y-%m-%d %H:%M").read? .utc "2021-01-02 15:04" = some instant ∧
      instant.written = "2021-01-02T15:04:00Z" ∧ fields.StandsFor .utc instant := by
  have written : ((ofText "%Y-%m-%d %H:%M").read? .utc "2021-01-02 15:04").map Instant.written =
      some "2021-01-02T15:04:00Z" := by decide +kernel
  obtain ⟨instant, made, isWritten⟩ := Option.map_eq_some_iff.1 written
  obtain ⟨fields, read, suits, keeps⟩ := ofText_stands_for "%Y-%m-%d %H:%M" (by decide +kernel)
    (by decide +kernel) "2021-01-02 15:04" .utc instant made
  exact ⟨fields, instant, read, made, isWritten,
    (keeps.1 (suits (by decide +kernel))).2 .utc instant made⟩

/-- A pattern whose hour is not padded counts as a date, and its hour is lost. -/
theorem padded_hour_lost : ∃ fields instant,
    Pattern.read? "%Y-%m-%d %-H:%M" "2021-01-02 15:04" = some fields ∧
      (fields.read .halfOfDay = some 1 ∧ fields.read .hourOfHalf = some 3) ∧
      (ofText "%Y-%m-%d %-H:%M").read? .utc "2021-01-02 15:04" = some instant ∧
      instant.written = "2021-01-02T00:00:00Z" ∧ ¬fields.StandsFor .utc instant := by
  have shows : ((ofText "%Y-%m-%d %-H:%M").read? .utc "2021-01-02 15:04").map (fun instant =>
      (instant.written, instant.toWallTime.clock.hour)) = some ("2021-01-02T00:00:00Z", 0) := by
    decide +kernel
  have reads : (Pattern.read? "%Y-%m-%d %-H:%M" "2021-01-02 15:04").map (fun fields =>
      (fields.read .halfOfDay, fields.read .hourOfHalf, fields.read .offset)) =
      some (some 1, some 3, none) := by decide +kernel
  obtain ⟨instant, made, isShown⟩ := Option.map_eq_some_iff.1 shows
  obtain ⟨fields, read, isRead⟩ := Option.map_eq_some_iff.1 reads
  obtain ⟨written, midnight⟩ := Prod.mk.inj isShown
  obtain ⟨half, rest⟩ := Prod.mk.inj isRead
  obtain ⟨hour, noOffset⟩ := Prod.mk.inj rest
  refine ⟨fields, instant, read, ⟨half, hour⟩, made, written, ?_⟩
  rintro ⟨wall, accounts, placed⟩
  rw [noOffset] at placed
  obtain rfl : wall.atUtc = instant := Option.some.inj placed
  rw [WallTime.toWallTime_atUtc] at midnight
  have shown := accounts.shown .halfOfDay 1 (by decide) (by decide) half
  rw [WallTime.component?, if_pos (by decide), Clock.component?, midnight] at shown
  exact absurd shown (by decide)

end Layout

end Intake
