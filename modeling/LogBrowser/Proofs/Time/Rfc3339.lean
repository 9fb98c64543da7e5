import LogBrowser.Proofs.Time.Calendar
import LogBrowser.Time.Instant
import Mathlib.Tactic.SplitIfs

/-!
# Reading back a rendered timestamp

`Instant.toMillisText` writes an instant as `YYYY-MM-DDTHH:MM:SS.mmm+00:00`, and `parseRfc3339`
reads that text back to the instant cut to whole milliseconds (`parseRfc3339_toMillisText`). The
instant has to be one `parseRfc3339` can build, `Instant.Valid`, and its year has to be written
with four digits.

The proof reads the text field by field: the text is `millisChars` of the fields
(`toMillisText_toList`), every field is a number with its zeros in front that `scanNumber` reads
back whole (`scanNumber_padded`), so that `parseRfc3339` hands the fields to `Instant.ofFields`
(`parseRfc3339_millisChars`); and the fields of an instant build it again
(`ofFields_toMillis`), because the calendar counts the date of a day back to the day
(`daysFromCivil_civilFromDays`).

`Instant.Valid` is no extra assumption on what the page reads: every instant `parseRfc3339`
gives has that form (`valid_of_parseRfc3339`), since a fraction is read from at most nine
digits and an offset is whole minutes.
-/

namespace LogBrowser.Time

section Digits

theorem digitsValue_eq (ds : List Char) : digitsValue ds = Nat.ofDigitChars 10 ds 0 := by
  rw [digitsValue, Nat.ofDigitChars_eq_foldl]

theorem padded_toList (w n : Nat) :
    (padded w n).toList =
      List.replicate (w - (Nat.toDigits 10 n).length) '0' ++ Nat.toDigits 10 n := by
  simp [padded, String.toList_append, Nat.toList_repr, ← String.length_toList]

theorem length_padded {w n : Nat} (hw : 0 < w) (hn : n < 10 ^ w) :
    (padded w n).toList.length = w := by
  have := (Nat.length_toDigits_le_iff (by decide) hw).2 hn
  rw [padded_toList, List.length_append, List.length_replicate]
  omega

theorem isDigit_of_mem_padded {w n : Nat} {c : Char} (h : c ∈ (padded w n).toList) :
    c.isDigit = true := by
  rw [padded_toList, List.mem_append, List.mem_replicate] at h
  rcases h with ⟨-, rfl⟩ | h
  · decide
  · exact Nat.isDigit_of_mem_toDigits (by decide) (by decide) h

theorem digitsValue_padded (w n : Nat) : digitsValue (padded w n).toList = n := by
  rw [digitsValue_eq, padded_toList, Nat.ofDigitChars_append, Nat.ofDigitChars_replicate_zero,
    Nat.mul_zero, Nat.ofDigitChars_ten_toDigits]

theorem toNat_sub_zero_le_nine {c : Char} (h : c.isDigit = true) : c.toNat - '0'.toNat ≤ 9 := by
  simp only [Char.isDigit, Bool.and_eq_true, decide_eq_true_eq] at h
  have h2 : c.toNat ≤ 57 := h.2
  have h0 : '0'.toNat = 48 := rfl
  omega

theorem foldl_digits_lt {ds : List Char} (hds : ∀ c ∈ ds, c.isDigit = true) (a : Nat) :
    ds.foldl (fun n c => 10 * n + (c.toNat - '0'.toNat)) a < (a + 1) * 10 ^ ds.length := by
  induction ds generalizing a with
  | nil => simp
  | cons c ds ih =>
    have hc := toNat_sub_zero_le_nine (hds c List.mem_cons_self)
    have hrest := ih (fun d hd => hds d (List.mem_cons_of_mem c hd)) (10 * a + (c.toNat - '0'.toNat))
    rw [List.foldl_cons, List.length_cons, Nat.pow_succ]
    calc _ < (10 * a + (c.toNat - '0'.toNat) + 1) * 10 ^ ds.length := hrest
      _ ≤ (10 * (a + 1)) * 10 ^ ds.length := Nat.mul_le_mul_right _ (by omega)
      _ = (a + 1) * (10 ^ ds.length * 10) := by
        rw [Nat.mul_comm 10 (a + 1), Nat.mul_assoc, Nat.mul_comm 10]

/-- Decimal digits are worth less than ten to their number. -/
theorem digitsValue_lt {ds : List Char} (hds : ∀ c ∈ ds, c.isDigit = true) :
    digitsValue ds < 10 ^ ds.length := by
  have h := foldl_digits_lt hds 0
  rw [Nat.zero_add, Nat.one_mul] at h
  exact h

end Digits

section Scanners

theorem hasBytes_of_le {n : Nat} {cs : List Char} (h : n ≤ cs.length) : hasBytes n cs = true := by
  induction cs generalizing n with
  | nil =>
    rw [List.length_nil, Nat.le_zero] at h
    subst h
    rfl
  | cons c cs ih =>
    cases n with
    | zero => rfl
    | succ n =>
      -- a character takes at least one byte, so the count left never outruns the characters
      have := Char.utf8Size_pos c
      rw [hasBytes]
      exact ih (by simp at h; omega)

/-- The digits in front are split off whole when they fill the width or stop at a non-digit. -/
theorem leadingDigits_append {ds rest : List Char} {k : Nat} (hds : ∀ c ∈ ds, c.isDigit = true)
    (hk : ds.length ≤ k) (hstop : ds.length = k ∨ ∀ c ∈ rest.head?, c.isDigit = false) :
    leadingDigits k (ds ++ rest) = (ds, rest) := by
  induction ds generalizing k with
  | nil =>
    match k, rest, hstop with
    | 0, _, _ => rfl
    | _ + 1, [], _ => rfl
    | _ + 1, c :: r, .inr h => simp [leadingDigits, h c rfl]
  | cons d ds ih =>
    obtain ⟨k, rfl⟩ : ∃ k', k = k' + 1 := ⟨k - 1, by simp at hk; omega⟩
    have hd := hds d List.mem_cons_self
    simp only [List.cons_append, leadingDigits, hd, ↓reduceIte]
    rw [ih (fun c hc => hds c (List.mem_cons_of_mem d hc)) (by simp at hk; omega)
      (by simpa using hstop)]

theorem scanNumber_digits {ds rest : List Char} {lo hi : Nat} (hds : ∀ c ∈ ds, c.isDigit = true)
    (hlo : lo ≤ ds.length) (hhi : ds.length ≤ hi)
    (hstop : ds.length = hi ∨ ∀ c ∈ rest.head?, c.isDigit = false) :
    scanNumber lo hi (ds ++ rest) = .ok (digitsValue ds, rest) := by
  have hb : hasBytes lo (ds ++ rest) = true := hasBytes_of_le (by simp; omega)
  simp only [scanNumber, hb, Bool.not_true, Bool.false_eq_true, ↓reduceIte,
    leadingDigits_append hds hhi hstop]
  rw [if_neg (by omega)]

/-- A field written with its zeros in front to a width it fits in is read back. -/
theorem scanNumber_padded {w n : Nat} (hw : 0 < w) (hn : n < 10 ^ w) (rest : List Char) :
    scanNumber w w ((padded w n).toList ++ rest) = .ok (n, rest) := by
  have hl := length_padded hw hn
  rw [scanNumber_digits (fun c hc => isDigit_of_mem_padded hc) (by omega) (by omega) (.inl hl),
    digitsValue_padded]

/-- `leadingDigits` splits the text: at most `k` digits, then the rest. -/
theorem leadingDigits_spec (k : Nat) (cs : List Char) :
    (leadingDigits k cs).1 ++ (leadingDigits k cs).2 = cs ∧ (leadingDigits k cs).1.length ≤ k ∧
      ∀ c ∈ (leadingDigits k cs).1, c.isDigit = true := by
  induction cs generalizing k with
  | nil => cases k <;> simp [leadingDigits]
  | cons c cs ih =>
    cases k with
    | zero => simp [leadingDigits]
    | succ k =>
      by_cases hc : c.isDigit = true
      · obtain ⟨h1, h2, h3⟩ := ih k
        rcases hl : leadingDigits k cs with ⟨ds, rest⟩
        rw [hl] at h1 h2 h3
        dsimp only at h1 h2 h3
        simp only [leadingDigits, hc, ↓reduceIte, hl]
        refine ⟨by rw [List.cons_append, h1], by simp only [List.length_cons]; omega, ?_⟩
        intro d hd
        rcases List.mem_cons.1 hd with rfl | hd
        · exact hc
        · exact h3 d hd
      · simp [leadingDigits, hc]

/-- A number read takes at most `hi` characters from the front and is worth less than ten to
their number. -/
theorem scanNumber_spec {lo hi v : Nat} {cs rest : List Char}
    (h : scanNumber lo hi cs = .ok (v, rest)) :
    ∃ ds, cs = ds ++ rest ∧ ds.length ≤ hi ∧ v < 10 ^ ds.length := by
  obtain ⟨h1, h2, h3⟩ := leadingDigits_spec hi cs
  rcases hl : leadingDigits hi cs with ⟨ds, r⟩
  rw [hl] at h1 h2 h3
  unfold scanNumber at h
  split at h
  · simp at h
  · simp only [hl] at h
    split at h
    · simp at h
    · simp only [Except.ok.injEq, Prod.mk.injEq] at h
      obtain ⟨rfl, rfl⟩ := h
      exact ⟨ds, h1.symm, h2, digitsValue_lt h3⟩

@[simp] theorem ok_bind {ε α β : Type} (a : α) (f : α → Except ε β) :
    (Except.ok a >>= f) = f a :=
  rfl

/-- Three digits of milliseconds before an offset are read as that many nanoseconds. -/
theorem scanNanos_millis {ms : Nat} (hms : ms < 1000) (rest : List Char) :
    scanNanos ((padded 3 ms).toList ++ '+' :: rest) = .ok (ms * 1000000, '+' :: rest) := by
  have hl := length_padded (w := 3) (by decide) (by simpa using hms)
  simp only [scanNanos]
  rw [scanNumber_digits (fun c hc => isDigit_of_mem_padded hc) (by omega) (by omega)
    (.inr (by simp)), digitsValue_padded]
  simp [hl, Except.map_ok]

/-- A fraction read is less than a second. -/
theorem scanNanos_lt {cs : List Char} {p : Nat × List Char} (h : scanNanos cs = .ok p) :
    p.1 < 1000000000 := by
  unfold scanNanos at h
  cases hs : scanNumber 1 9 cs with
  | error e => simp [hs] at h
  | ok q =>
    obtain ⟨v0, r⟩ := q
    obtain ⟨ds, hcs, hlen, hv⟩ := scanNumber_spec hs
    simp only [hs, ok_bind, pure, Except.pure, Except.ok.injEq] at h
    subst h
    have hused : cs.length - r.length = ds.length := by simp [hcs]
    show v0 * Nat.pow 10 (9 - (cs.length - r.length)) < 1000000000
    rw [hused]
    calc v0 * Nat.pow 10 (9 - ds.length) < 10 ^ ds.length * 10 ^ (9 - ds.length) :=
          Nat.mul_lt_mul_of_pos_right hv (Nat.pow_pos (by decide))
      _ = 1000000000 := by rw [← Nat.pow_add, Nat.add_sub_cancel' hlen]

theorem scanChar_cons (c : Char) (rest : List Char) : scanChar c (c :: rest) = .ok ((), rest) := by
  simp [scanChar]

theorem scanOffset_utc : scanOffset ['+', '0', '0', ':', '0', '0'] = .ok (0, []) := by
  simp [scanOffset, offsetHours, offsetMinutes, scanChar, digitsValue, maxOffset]

/-- An offset read is a whole number of minutes. -/
theorem scanOffset_emod {cs : List Char} {p : Int × List Char} (h : scanOffset cs = .ok p) :
    p.1 % 60 = 0 := by
  unfold scanOffset at h
  simp only [bind, Except.bind] at h
  repeat' (split at h)
  all_goals try (simp at h; done)
  all_goals
    simp only [Except.ok.injEq] at h
    subst h
    omega

theorem inRange_ok {v lo hi : Nat} (h : lo ≤ v ∧ v ≤ hi) : inRange v lo hi = .ok () := by
  simp [inRange, h.1, h.2]

theorem daysInMonth_le (y : Int) (m : Nat) : daysInMonth y m ≤ 31 := by
  unfold daysInMonth
  split_ifs <;> simp

end Scanners

/-- The characters of a timestamp in UTC with milliseconds, `YYYY-MM-DDTHH:MM:SS.mmm+00:00`, from
its fields. -/
def millisChars (y mo d h mi s ms : Nat) : List Char :=
  (padded 4 y).toList ++ '-' :: ((padded 2 mo).toList ++ '-' :: ((padded 2 d).toList ++ 'T' ::
    ((padded 2 h).toList ++ ':' :: ((padded 2 mi).toList ++ ':' :: ((padded 2 s).toList ++ '.' ::
    ((padded 3 ms).toList ++ ['+', '0', '0', ':', '0', '0']))))))

/-- Fields that fit their widths give a text of 29 characters. -/
theorem length_millisChars {y mo d h mi s ms : Nat} (hy : y < 10000) (hmo : mo < 100)
    (hd : d < 100) (hh : h < 100) (hmi : mi < 100) (hs : s < 100) (hms : ms < 1000) :
    (millisChars y mo d h mi s ms).length = 29 := by
  simp only [millisChars, List.length_append, List.length_cons, List.length_nil,
    length_padded (w := 4) (n := y) (by decide) hy, length_padded (w := 2) (n := mo) (by decide) hmo,
    length_padded (w := 2) (n := d) (by decide) hd, length_padded (w := 2) (n := h) (by decide) hh,
    length_padded (w := 2) (n := mi) (by decide) hmi, length_padded (w := 2) (n := s) (by decide) hs,
    length_padded (w := 3) (n := ms) (by decide) hms]

/-- Every field in range is read from its place, and the timestamp is the instant of its
fields. -/
theorem parseRfc3339_millisChars {y mo d h mi s ms : Nat} (hy : y ≤ 9999) (hmo1 : 1 ≤ mo)
    (hmo2 : mo ≤ 12) (hd1 : 1 ≤ d) (hd2 : d ≤ daysInMonth y mo) (hh : h ≤ 23) (hmi : mi ≤ 59)
    (hs : s ≤ 60) (hms : ms ≤ 999) {str : String}
    (hstr : str.toList = millisChars y mo d h mi s ms) :
    parseRfc3339 str = .ok (Instant.ofFields y mo d h mi s (ms * 1000000) 0) := by
  have hd31 := daysInMonth_le y mo
  have hlen : 19 ≤ str.toList.length := by
    rw [hstr, length_millisChars (by omega) (by omega) (by omega) (by omega) (by omega) (by omega)
      (by omega)]
    decide
  unfold parseRfc3339
  simp only [hasBytes_of_le hlen, Bool.not_true, Bool.false_eq_true, ↓reduceIte]
  rw [hstr, millisChars]
  -- each scanner takes its field, each range check passes, and nothing is left after the offset
  simp only [scanNumber_padded (w := 4) (n := y) (by decide) (by omega),
    scanNumber_padded (w := 2) (n := mo) (by decide) (by omega),
    scanNumber_padded (w := 2) (n := d) (by decide) (by omega),
    scanNumber_padded (w := 2) (n := h) (by decide) (by omega),
    scanNumber_padded (w := 2) (n := mi) (by decide) (by omega),
    scanNumber_padded (w := 2) (n := s) (by decide) (by omega),
    scanNanos_millis (by omega : ms < 1000), scanChar_cons, ok_bind, pure_bind,
    inRange_ok ⟨hmo1, hmo2⟩, inRange_ok ⟨hd1, (by omega : d ≤ 31)⟩, inRange_ok ⟨Nat.zero_le h, hh⟩,
    inRange_ok ⟨Nat.zero_le mi, hmi⟩, inRange_ok ⟨Nat.zero_le s, hs⟩, scanOffset_utc,
    decide_true, Bool.true_or, ↓reduceIte, List.isEmpty_nil, Bool.not_true, Bool.false_eq_true,
    Nat.not_lt.2 hd2]
  rfl

theorem mem_millisChars {y mo d h mi s ms : Nat} {c : Char} (hc : c ∈ millisChars y mo d h mi s ms) :
    c.isDigit = true ∨ c ∈ ['-', 'T', ':', '.', '+'] := by
  simp only [millisChars, List.mem_append, List.mem_cons, List.not_mem_nil, or_false] at hc
  -- seven fields of digits between the separators, then the offset
  rcases hc with hc | hc | hc | hc | hc | hc | hc | hc | hc | hc | hc | hc | hc | hc | hc | hc |
    hc | hc | hc <;>
    first
    | exact .inl (isDigit_of_mem_padded hc)
    | (subst hc; decide)

namespace Instant

/-- The form an instant is documented to have: a second of the day, and nanoseconds of which a
second billion marks the leap second that ends a minute. -/
structure Valid (t : Instant) : Prop where
  second_lt : t.second < 86400
  nano_lt : t.nano < 2000000000
  leap : 1000000000 ≤ t.nano → t.second % 60 = 59

/-- Nanoseconds below a billion and an offset of whole minutes give an instant of that form,
whatever the other fields: a leap second stays the last second of its minute after the offset
is taken off. -/
theorem valid_ofFields {y : Int} {mo d h mi s nano : Nat} {off : Int} (hn : nano < 1000000000)
    (hoff : off % 60 = 0) :
    (ofFields y mo d h mi s nano off).Valid := by
  simp only [ofFields]
  by_cases h60 : s = 60
  · simp only [h60, if_true]
    refine ⟨?_, ?_, fun _ => ?_⟩ <;> dsimp only <;> omega
  · simp only [h60, if_false]
    refine ⟨?_, ?_, fun hleap => ?_⟩ <;> dsimp only at * <;> omega

/-- The instant cut to whole milliseconds, as `toMillisText` writes it. -/
def toMillis (t : Instant) : Instant := { t with nano := t.nano / 1000000 * 1000000 }

theorem ofFields_toMillis {t : Instant} (ht : t.Valid) :
    ofFields t.date.1 t.date.2.1 t.date.2.2 (t.second / 3600) (t.second / 60 % 60)
      t.shownSecond (t.subNanos / 1000000 * 1000000) 0 = t.toMillis := by
  have hday := daysFromCivil_civilFromDays t.day
  have := ht.second_lt
  have := ht.nano_lt
  have hleap := ht.leap
  simp only [ofFields, date, shownSecond, subNanos, toMillis, hday]
  -- a leap second is written as second 60 and read back into the second billion
  by_cases h60 : t.second % 60 + t.nano / 1000000000 = 60
  · simp only [h60, if_true, Instant.mk.injEq]
    omega
  · simp only [h60, if_false, Instant.mk.injEq]
    omega

theorem toMillisText_toList {t : Instant} (hy : 0 ≤ t.date.1 ∧ t.date.1 ≤ 9999) :
    t.toMillisText.toList = millisChars t.date.1.toNat t.date.2.1 t.date.2.2 (t.second / 3600)
      (t.second / 60 % 60) t.shownSecond (t.subNanos / 1000000) := by
  rcases hd : t.date with ⟨y, m, d⟩
  rw [hd] at hy
  simp only [toMillisText, dateText, clockText, hd, yearText, hy.1, hy.2, decide_true,
    Bool.and_true, ↓reduceIte, String.toList_append, millisChars]
  simp

/-- The rendering with milliseconds reads back as the instant cut to milliseconds. -/
theorem parseRfc3339_toMillisText {t : Instant} (ht : t.Valid)
    (hy : 0 ≤ t.date.1 ∧ t.date.1 ≤ 9999) : parseRfc3339 t.toMillisText = .ok t.toMillis := by
  obtain ⟨hm1, hm2, hd1, hd2⟩ : 1 ≤ t.date.2.1 ∧ t.date.2.1 ≤ 12 ∧ 1 ≤ t.date.2.2 ∧
      t.date.2.2 ≤ daysInMonth t.date.1 t.date.2.1 := civilFromDays_valid t.day
  have hyear : ((t.date.1.toNat : Nat) : Int) = t.date.1 := Int.toNat_of_nonneg hy.1
  have := ht.second_lt
  have := ht.nano_lt
  rw [parseRfc3339_millisChars (by omega) hm1 hm2 hd1 (by rw [hyear]; exact hd2) (by omega)
    (by omega) (by simp only [shownSecond]; omega) (by simp only [subNanos]; omega)
    (toMillisText_toList hy), hyear, ofFields_toMillis ht]

theorem toMillisText_chars {t : Instant} (hy : 0 ≤ t.date.1 ∧ t.date.1 ≤ 9999) {c : Char}
    (hc : c ∈ t.toMillisText.toList) : c.isDigit = true ∨ c ∈ ['-', 'T', ':', '.', '+'] := by
  rw [toMillisText_toList hy] at hc
  exact mem_millisChars hc

end Instant

/-- Every instant the parser gives has the documented form: its fraction comes from at most nine
digits and its offset is whole minutes. -/
theorem valid_of_parseRfc3339 {str : String} {t : Instant} (h : parseRfc3339 str = .ok t) :
    t.Valid := by
  unfold parseRfc3339 at h
  simp only [bind, Except.bind, pure, Except.pure, throw, throwThe, MonadExceptOf.throw] at h
  -- one case per way through the scanners; every way that throws contradicts `h`
  repeat' (split at h)
  all_goals try (simp at h; done)
  all_goals
    simp only [Except.ok.injEq] at h
    subst h
  -- the timestamp with a fraction, and without one
  · exact Instant.valid_ofFields (scanNanos_lt ‹_›) (scanOffset_emod ‹_›)
  · exact Instant.valid_ofFields (by decide) (scanOffset_emod ‹_›)

end LogBrowser.Time
