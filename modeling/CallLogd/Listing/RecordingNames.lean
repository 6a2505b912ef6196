/-
The names of the files of recordings: `Recording.filename`, and the pattern by which
`CDRService.list` reads them.

The pattern begins with a greedy wildcard.  It takes the date and no more, since the
thirty-six characters of the uuid, none of which is a dot, must come before the extension
(`eq_of_later_match`); so the call log and the uuid that are read are those of the
recording (`matchStart_filename`).
-/
import CallLogd.Lib.Calendar
import CallLogd.Listing.Query

namespace CallLogd

open Regex Calendar

/-- A `datetime`: the reading of a clock in microseconds, and its offset from UTC, if it is
known. -/
structure ZonedTime where
  reading : ℤ
  utcoffset : Option ℤ
deriving DecidableEq, Repr

/-- The reading of a clock in UTC at the same time. -/
def ZonedTime.dateUtc (time : ZonedTime) : ℤ := time.reading - time.utcoffset.getD 0

/-- A row of the recordings, as far as its file name shows it. -/
structure NamedRecording where
  startTime : ZonedTime
  callLogId : ℤ
  uuid : String
deriving DecidableEq, Repr

/-- A number in two digits at least. -/
def twoDigits (n : ℕ) : String := if n < 10 then "0" ++ toString n else toString n

/-- `strftime('%Y-%m-%dT%H_%M_%SUTC')`. -/
def formatUtc (wall : ℤ) : String :=
  let date := Date.ofOrdinal (ordinalOf wall)
  toString date.year ++ "-" ++ twoDigits date.month ++ "-" ++ twoDigits date.day ++ "T" ++
    twoDigits (hourOf wall) ++ "_" ++ twoDigits (wall / (60 * second) % 60).toNat ++ "_" ++
    twoDigits (wall / second % 60).toNat ++ "UTC"

/-- `Recording.filename`. -/
def NamedRecording.filename (recording : NamedRecording) : String :=
  formatUtc recording.startTime.dateUtc ++ "-" ++ toString recording.callLogId ++ "-" ++
    recording.uuid ++ ".wav"

/-- A small hexadecimal digit. -/
def isLowerHexDigit (c : Char) : Bool := c.isDigit || ('a' ≤ c && c ≤ 'f')

/-- The canonical form of a uuid, in small letters. -/
def IsCanonicalUuid (uuid : String) : Prop :=
  ∃ a b c d e : List Char, (a.length = 8 ∧ b.length = 4 ∧ c.length = 4 ∧ d.length = 4 ∧
      e.length = 12) ∧ (∀ digit ∈ a ++ b ++ c ++ d ++ e, isLowerHexDigit digit = true) ∧
    uuid.toList = a ++ '-' :: (b ++ '-' :: (c ++ '-' :: (d ++ '-' :: e)))

/-- The characters of a uuid in the pattern. -/
def isUuidChar (c : Char) : Bool := ('a' ≤ c ∧ c ≤ 'z') ∨ c.isDigit ∨ c = '-'

variable {date digits uuid extension u ds w rest : List Char} {c : Char}

/-! ### The parts of a name -/

lemma dot_of_isDigit (h : c.isDigit = true) : dot c = true := by
  have hne : c ≠ '\n' := by
    rintro rfl
    exact absurd h (by decide)
  simpa [dot] using hne

lemma isUuidChar_of_isLowerHexDigit (h : isLowerHexDigit c = true) : isUuidChar c = true := by
  rw [isLowerHexDigit, Bool.or_eq_true, Bool.and_eq_true, decide_eq_true_eq,
    decide_eq_true_eq] at h
  rw [isUuidChar, decide_eq_true_eq]
  rcases h with h | ⟨h, h'⟩
  · exact .inr (.inl h)
  · exact .inl ⟨h, h'.trans (by decide)⟩

lemma IsCanonicalUuid.spec {uuid : String} (h : IsCanonicalUuid uuid) :
    uuid.toList.length = 36 ∧ ∀ c ∈ uuid.toList, isUuidChar c = true := by
  obtain ⟨a, b, c, d, e, ⟨ha, hb, hc, hd, he⟩, hdigits, huuid⟩ := h
  rw [huuid]
  refine ⟨by simp [ha, hb, hc, hd, he], fun x hx => ?_⟩
  by_cases hdash : x = '-'
  · subst hdash
    rfl
  · refine isUuidChar_of_isLowerHexDigit (hdigits x ?_)
    simpa [hdash, or_assoc] using hx

lemma toList_toString (n : ℕ) : (toString n).toList = Nat.toDigits 10 n := Nat.toList_repr

lemma isDigit_toString {n : ℕ} (h : c ∈ (toString n).toList) : c.isDigit = true := by
  rw [toList_toString] at h
  exact Nat.isDigit_of_mem_toDigits (by decide) (by decide) h

lemma digitsValue_toString (n : ℕ) : digitsValue (toString n).toList = n := by
  have hfold := Nat.ofDigitChars_ten_toDigits (n := n)
  rw [Nat.ofDigitChars_eq_foldl] at hfold
  rw [toList_toString]
  exact hfold

/-! ### The match -/

/-- The pattern after the wildcard. -/
def afterDateRegex : Regex :=
  .seq (lit "-") <| .seq (.group 1 (many1 Char.isDigit)) <| .seq (lit "-") <|
  .seq (.group 2 (times isUuidChar 36)) <| .seq (.alt (.group 3 (.many dot)) .eps) .eos

/-- The captures of a pattern are those that it has at the end of the text. -/
abbrev atEnd : Cont Captures := fun _ _ caps => some caps

/-- After the date, the number, the uuid and the extension are captured. -/
lemma run_afterDateRegex (hne : digits ≠ []) (hdigits : ∀ c ∈ digits, c.isDigit = true)
    (hlength : uuid.length = 36) (huuid : ∀ c ∈ uuid, isUuidChar c = true)
    (hextension : ∀ c ∈ extension, dot c = true) (start : Bool) :
    run afterDateRegex start ('-' :: (digits ++ '-' :: (uuid ++ extension))) [] atEnd =
      some [(3, extension), (2, uuid), (1, digits)] := by
  have hdash : ∀ (start : Bool) (s : List Char) (caps : Captures) (k : Cont Captures),
      run (lit "-") start ('-' :: s) caps k = k false s caps := fun _ _ _ _ => rfl
  have htake : (digits ++ '-' :: (uuid ++ extension)).takeWhile Char.isDigit = digits := by
    rw [List.takeWhile_append_of_pos hdigits]
    simp
  have hdrop : (digits ++ '-' :: (uuid ++ extension)).dropWhile Char.isDigit =
      '-' :: (uuid ++ extension) := by
    rw [List.dropWhile_append_of_pos hdigits]
    simp
  have hcapture : ∀ u v : List Char, (u ++ v).take ((u ++ v).length - v.length) = u := by simp
  have hend : ∀ caps : Captures, (run (.group 3 (.many dot)) false extension caps
      fun start s caps => run .eos start s caps atEnd) = some ((3, extension) :: caps) := by
    intro caps
    have hrest : extension.dropWhile dot = [] := List.dropWhile_eq_nil_iff.2 hextension
    rw [run, run, runMany_eq, hrest]
    · simp [run]
    · -- a line feed at the end is not taken by a dot
      intro start c s hc
      rw [run, if_neg]
      rintro (h | h)
      · cases h
      · obtain ⟨rfl, -⟩ := List.cons.inj h
        exact absurd hc (by decide)
  rw [afterDateRegex, run, hdash, run, run, run_many1_eq, htake, if_neg hne, hdrop, hcapture, run,
    hdash, run, run, run_times hlength huuid, hcapture, run, run, hend, Option.some_or]
  -- a digit is no dash
  intro start c s hc
  refine if_neg fun hdash => ?_
  obtain rfl : c = '-' := beq_iff_eq.1 hdash
  exact absurd hc (by decide)

/-- What the pattern reads after the date. -/
lemma exists_of_run_afterDateRegex {start : Bool} {s : List Char} {caps : Captures}
    (h : run afterDateRegex start s [] atEnd = some caps) :
    ∃ ds w rest, s = '-' :: (ds ++ '-' :: (w ++ rest)) ∧ w.length = 36 ∧
      ∀ c ∈ w, isUuidChar c = true := by
  obtain ⟨s', v, _, _, rfl, hmatch, -⟩ := run_sound h
  obtain ⟨dash, s₁, _, rfl, hdash, ds, s₂, _, rfl, -, dash', s₃, _, rfl, hdash', w, s₄, _, rfl,
    ⟨_, hw, -⟩, -⟩ := hmatch
  obtain ⟨rfl, -⟩ := matches_lit.1 hdash
  obtain ⟨rfl, -⟩ := matches_lit.1 hdash'
  obtain ⟨⟨hlength, hw⟩, -⟩ := matches_times.1 hw
  exact ⟨ds, w, s₄ ++ v, by simp, hlength, hw⟩

/-- Thirty-six characters of a uuid do not fit after a part of the uuid. -/
lemma not_window {before : List Char} (hbefore : before ≠ []) (hlength : uuid.length = 36)
    (hext : extension.length < 35) (hw : w.length = 36) (hclass : ∀ c ∈ w, isUuidChar c = true)
    (h : uuid ++ '.' :: extension = before ++ (w ++ rest)) : False := by
  rcases List.append_eq_append_iff.1 h with ⟨a, rfl, ha⟩ | ⟨a, rfl, ha⟩
  · have hlong := congrArg List.length ha
    simp only [List.length_cons, List.length_append] at hlong
    omega
  · have hpos := List.length_pos_iff.2 hbefore
    rw [List.length_append] at hlength
    rcases List.append_eq_append_iff.1 ha with ⟨b, rfl, -⟩ | ⟨b, rfl, hb⟩
    · rw [List.length_append] at hlength
      omega
    · -- the dot is among the characters
      cases b with
      | nil =>
        rw [List.append_nil] at hw
        omega
      | cons c b =>
        obtain ⟨rfl, -⟩ := List.cons.inj hb
        exact absurd (hclass '.' (by simp)) (by decide)

/-- Nothing after the date can be taken by the wildcard. -/
lemma eq_of_later_match (hdigits : ∀ c ∈ digits, c.isDigit = true) (hlength : uuid.length = 36)
    (hext : extension.length < 35) (hw : w.length = 36) (hclass : ∀ c ∈ w, isUuidChar c = true)
    (h : '-' :: (digits ++ '-' :: (uuid ++ '.' :: extension)) =
      u ++ '-' :: (ds ++ '-' :: (w ++ rest))) : u = [] := by
  cases u with
  | nil => rfl
  | cons dash u =>
    exfalso
    rcases List.append_eq_append_iff.1 (List.cons.inj h).2 with ⟨a, -, ha⟩ | ⟨a, rfl, ha⟩
    · cases a with
      | nil =>
        exact not_window (by simp : ds ++ ['-'] ≠ []) hlength hext hw hclass
          (by simpa using (List.cons.inj ha).2)
      | cons dash' a =>
        exact not_window (by simp : a ++ '-' :: (ds ++ ['-']) ≠ []) hlength hext hw hclass
          (by simpa using (List.cons.inj ha).2)
    · cases a with
      | nil =>
        exact not_window (by simp : ds ++ ['-'] ≠ []) hlength hext hw hclass
          (by simpa using (List.cons.inj ha).2.symm)
      | cons c a =>
        -- the number has no dash
        obtain ⟨rfl, -⟩ := List.cons.inj ha
        exact absurd (hdigits '-' (by simp)) (by decide)

/-- The name of a file is matched, and the number and the uuid are captured. -/
lemma matchStart_recordingFilenameRegex (hdate : date ≠ []) (hdot : ∀ c ∈ date, dot c = true)
    (hne : digits ≠ []) (hdigits : ∀ c ∈ digits, c.isDigit = true) (hlength : uuid.length = 36)
    (huuid : ∀ c ∈ uuid, isUuidChar c = true) (hext : extension.length < 35)
    (hextension : ∀ c ∈ '.' :: extension, dot c = true) :
    matchStart recordingFilenameRegex
        (date ++ '-' :: (digits ++ '-' :: (uuid ++ '.' :: extension))) =
      some [(3, '.' :: extension), (2, uuid), (1, digits)] := by
  have hrun := run_afterDateRegex hne hdigits hlength huuid hextension
  generalize htail : '-' :: (digits ++ '-' :: (uuid ++ '.' :: extension)) = tail at hrun ⊢
  obtain ⟨c, date, rfl⟩ := List.exists_cons_of_ne_nil hdate
  obtain ⟨hc, hdate⟩ := List.forall_mem_cons.1 hdot
  have hmatch : matchStart recordingFilenameRegex (c :: date ++ tail) =
      runMany dot [] (fun start s caps => run afterDateRegex start s caps atEnd) false
        (date ++ tail) := if_pos hc
  have hsome : (runMany dot [] (fun start s caps => run afterDateRegex start s caps atEnd) false
      (date ++ tail)).isSome := runMany_isSome hdate (Option.isSome_of_eq_some (hrun _))
  obtain ⟨caps, hcaps⟩ := Option.isSome_iff_exists.1 hsome
  obtain ⟨u, v, start', hsplit, -, hfound, hlongest⟩ := runMany_longest hcaps
  have hv : v = tail := by
    rcases List.append_eq_append_iff.1 hsplit with ⟨a, -, ha⟩ | ⟨a, rfl, ha⟩
    · -- the wildcard took no more than the date
      obtain ⟨ds, w, rest, rfl, hw, hclass⟩ := exists_of_run_afterDateRegex hfound
      rw [← htail] at ha
      obtain rfl := eq_of_later_match hdigits hlength hext hw hclass ha
      exact (htail ▸ ha).symm
    · -- and no less
      by_contra hne
      have ha' : a ≠ [] := fun h => hne (by rw [ha, h, List.nil_append])
      have hnone := hlongest a tail ha ha' fun d hd => hdate d (List.mem_append_right u hd)
      cases (hrun false).symm.trans hnone
  subst hv
  rw [hmatch, hcaps, ← hfound, hrun]

/-! ### The date -/

/-- A text without line feeds. -/
def OneLine (s : String) : Prop := ∀ c ∈ s.toList, dot c = true

instance (s : String) : Decidable (OneLine s) :=
  inferInstanceAs (Decidable (∀ c ∈ s.toList, dot c = true))

lemma OneLine.append {s t : String} (hs : OneLine s) (ht : OneLine t) : OneLine (s ++ t) := by
  intro c hc
  rw [String.toList_append] at hc
  exact (List.mem_append.1 hc).elim (hs c) (ht c)

lemma oneLine_nat (n : ℕ) : OneLine (toString n) := fun _ hc => dot_of_isDigit (isDigit_toString hc)

lemma oneLine_int (n : ℤ) : OneLine (toString n) := by
  cases n with
  | ofNat n => exact oneLine_nat n
  | negSucc n => exact OneLine.append (s := "-") (by decide) (oneLine_nat (n + 1))

lemma oneLine_twoDigits (n : ℕ) : OneLine (twoDigits n) := by
  unfold twoDigits
  split
  · exact OneLine.append (by decide) (oneLine_nat n)
  · exact oneLine_nat n

lemma oneLine_formatUtc (wall : ℤ) : OneLine (formatUtc wall) := by
  have hdash : OneLine "-" := by decide
  have hunderscore : OneLine "_" := by decide
  have hyear := (oneLine_int (Date.ofOrdinal (ordinalOf wall)).year).append hdash
  have hmonth := (hyear.append
    (oneLine_twoDigits (Date.ofOrdinal (ordinalOf wall)).month)).append hdash
  have hday := (hmonth.append (oneLine_twoDigits (Date.ofOrdinal (ordinalOf wall)).day)).append
    (by decide : OneLine "T")
  have hhour := (hday.append (oneLine_twoDigits (hourOf wall))).append hunderscore
  have hminute := (hhour.append
    (oneLine_twoDigits (wall / (60 * second) % 60).toNat)).append hunderscore
  exact (hminute.append (oneLine_twoDigits (wall / second % 60).toNat)).append (by decide)

lemma formatUtc_ne_nil (wall : ℤ) : (formatUtc wall).toList ≠ [] := by
  have hend : (formatUtc wall).toList = _ ++ "UTC".toList := String.toList_append
  rw [hend]
  exact List.append_ne_nil_of_right_ne_nil _ (by decide)

/-! ### The names -/

/-- The name of the file of a recording is read as its call log and its uuid, whatever the
time of its start and the digits of its uuid. -/
theorem matchStart_filename (recording : NamedRecording) (hid : 0 ≤ recording.callLogId)
    (huuid : IsCanonicalUuid recording.uuid) :
    ∃ caps, matchStart recordingFilenameRegex recording.filename.toList = some caps ∧
      caps.get 1 = (toString recording.callLogId).toList ∧
      (digitsValue (caps.get 1) : ℤ) = recording.callLogId ∧
      caps.get 2 = recording.uuid.toList ∧
      CDRService.readRecordingFilename { search := some recording.filename } =
        { id := some recording.callLogId.toNat } := by
  obtain ⟨startTime, callLogId, uuid⟩ := recording
  obtain ⟨n, rfl⟩ := Int.eq_ofNat_of_zero_le hid
  obtain ⟨hlength, hclass⟩ := huuid.spec
  have hname : (NamedRecording.filename ⟨startTime, n, uuid⟩).toList =
      (formatUtc startTime.dateUtc).toList ++
        '-' :: ((toString n).toList ++ '-' :: (uuid.toList ++ '.' :: "wav".toList)) := by
    simp only [NamedRecording.filename, String.toList_append, List.append_assoc]
    rfl
  have hdigits : (toString n).toList ≠ [] := by
    rw [toList_toString]
    exact Nat.toDigits_ne_nil
  have hmatch := matchStart_recordingFilenameRegex (formatUtc_ne_nil startTime.dateUtc)
    (oneLine_formatUtc _) hdigits (fun _ => isDigit_toString) hlength hclass
    (by decide : "wav".toList.length < 35) (by decide)
  rw [← hname] at hmatch
  refine ⟨_, hmatch, rfl, ?_, rfl, ?_⟩
  · exact congrArg Int.ofNat (digitsValue_toString n)
  · have hgiven : givenText (some (NamedRecording.filename ⟨startTime, n, uuid⟩)) =
        some (NamedRecording.filename ⟨startTime, n, uuid⟩) := by
      refine Option.filter_eq_some_iff.2 ⟨rfl, decide_eq_true fun hempty => ?_⟩
      rw [hempty] at hname
      exact absurd hname (by simp)
    rw [CDRService.readRecordingFilename_eq, hgiven, Option.bind_some, hmatch, Option.elim_some]
    have hvalue : digitsValue (Captures.get [(3, '.' :: "wav".toList), (2, uuid.toList),
        (1, (toString n).toList)] 1) = n := digitsValue_toString n
    rw [hvalue, Int.toNat_natCast]

/-- A recording of the first night of the calendar, two hours and a half east of UTC, with
groups of digits in its uuid. -/
def nightRecording : NamedRecording where
  startTime := ⟨10000 * second, some (9000 * second)⟩
  callLogId := 12
  uuid := "11111111-2222-3333-4444-555555555555"

lemma isCanonicalUuid_nightRecording : IsCanonicalUuid nightRecording.uuid :=
  ⟨"11111111".toList, "2222".toList, "3333".toList, "4444".toList, "555555555555".toList,
    by decide, by decide, by decide⟩

theorem matchStart_filename_nightRecording :
    ∃ caps, matchStart recordingFilenameRegex nightRecording.filename.toList = some caps ∧
      caps.get 1 = (toString nightRecording.callLogId).toList ∧
      (digitsValue (caps.get 1) : ℤ) = nightRecording.callLogId ∧
      caps.get 2 = nightRecording.uuid.toList ∧
      CDRService.readRecordingFilename { search := some nightRecording.filename } =
        { id := some nightRecording.callLogId.toNat } :=
  matchStart_filename nightRecording (by decide) isCanonicalUuid_nightRecording

end CallLogd
