import WorkWithMe.Lib.Decimal
import WorkWithMe.Lib.Lines
import WorkWithMe.Lib.Rust
import WorkWithMe.Lib.Search

/-!
# The list of devices

`ffmpeg -list_devices` prints the video devices and then the audio devices, a line for each, with
its index in brackets and its name behind them.  `recorder.rs` reads the microphones from it, and
the index of the first screen.  Both readers look for the *last* opening bracket of a line.

* `printed` is what is printed of some devices, and `parseAudioDevices` and
  `findScreenDeviceIndex` are the two readers.
* `ReadBack` is that they find what was printed.  It does not hold of a microphone with a bracket in
  its name: `not_readBack`.
* **`readBack_iff`** says for which devices it holds.
-/

set_option autoImplicit false

namespace WorkWithMe.Recorder

/-! ## The readers -/

/-- A microphone. -/
structure MicDevice where
  /-- The number by which ffmpeg knows it. -/
  index : ℕ
  /-- What it is called. -/
  name : String
  deriving DecidableEq

/-- The heading of the video devices. -/
def videoHeading : List Char := "AVFoundation video devices".toList

/-- The heading of the audio devices. -/
def audioHeading : List Char := "AVFoundation audio devices".toList

/-- The name of a screen, in lower-case letters. -/
def captureScreen : List Char := "capture screen".toList

/-- What is between the last opening bracket of a line and the closing one behind it, and what is
behind that. -/
def lastBracket (line : List Char) : Option (List Char × List Char) :=
  (Rust.rsplitOnce '[' line).bind fun p ↦ Rust.splitOnce ']' p.2

/-- The microphone of a line. -/
def micOfLine (line : List Char) : Option MicDevice :=
  (lastBracket line).bind fun p ↦
    (Decimal.parse 32 p.1).bind fun index ↦
      let name := Rust.trim (.ofList p.2)
      if name = "" then none else some ⟨index, name⟩

/-- The variables of `parse_audio_devices`. -/
structure AudioScan where
  /-- The heading has been seen. -/
  inAudio : Bool
  /-- The microphones that have been found. -/
  devices : List MicDevice

/-- A line of the output. -/
def AudioScan.next (st : AudioScan) (line : List Char) : AudioScan :=
  if Search.contains audioHeading line then { st with inAudio := true }
  else if st.inAudio then { st with devices := st.devices ++ (micOfLine line).toList }
  else st

/-- `parse_audio_devices`. -/
def parseAudioDevices (output : String) : List MicDevice :=
  ((Lines.strLines output.toList).foldl AudioScan.next ⟨false, []⟩).devices

/-- The index text of a line, if it is a number. -/
def indexOfLine (line : List Char) : Option (List Char) :=
  (lastBracket line).bind fun p ↦ if (Decimal.parse 32 p.1).isSome then some p.1 else none

section Reader

variable (t : Search.Lowercase)

/-- The loop of `find_screen_device_index`. -/
def findScreen : Bool → List (List Char) → String
  | _, [] => "1"
  | inVideo, line :: rest =>
    if Search.contains videoHeading line then findScreen true rest
    else if inVideo && Search.contains audioHeading line then "1"
    else if inVideo && Search.contains captureScreen (t.toLowercase line) then
      match indexOfLine line with
      | some index => .ofList index
      | none => findScreen inVideo rest
    else findScreen inVideo rest

/-- `find_screen_device_index`. -/
def findScreenDeviceIndex (output : String) : String :=
  findScreen t false (Lines.strLines output.toList)

end Reader

/-! ## What is printed -/

/-- The name of a device, which is a line of its own without white space around it. -/
structure DeviceName where
  /-- The name. -/
  text : List Char
  /-- It is not empty. -/
  ne_nil : text ≠ []
  /-- It does not begin with white space. -/
  head : ∀ c ∈ text.head?, Rust.isWhitespace c = false
  /-- It does not end with white space. -/
  last : ∀ c ∈ text.getLast?, Rust.isWhitespace c = false
  /-- It is a single line. -/
  line : '\n' ∉ text
  /-- It is not the heading of the video devices. -/
  not_video : ¬ videoHeading <:+: text
  /-- It is not the heading of the audio devices. -/
  not_audio : ¬ audioHeading <:+: text

/-- An audio device, with the number ffmpeg gives it. -/
structure AudioDevice where
  /-- The number. -/
  index : ℕ
  /-- It has 32 bits. -/
  index_lt : index < 2 ^ 32
  /-- The name. -/
  name : DeviceName

/-- An address in memory, in hexadecimal digits. -/
structure Address where
  /-- The digits. -/
  digits : List Char
  /-- They are digits. -/
  hex : ∀ c ∈ digits, c ∈ "0123456789abcdefABCDEF".toList

/-- What the lines begin with, up to the closing bracket. -/
def Address.origin (addr : Address) : List Char :=
  "[AVFoundation indev @ 0x".toList ++ addr.digits

/-- The line of a heading. -/
def headingLine (addr : Address) (heading : List Char) : List Char :=
  addr.origin ++ ']' :: ' ' :: (heading ++ [':'])

/-- The line of a device. -/
def deviceLine (addr : Address) (index : ℕ) (name : List Char) : List Char :=
  addr.origin ++ ']' :: (' ' :: '[' :: Nat.toDigits 10 index ++ ']' :: ' ' :: name)

/-- The lines that ffmpeg prints.  The number of a video device is its place in the list. -/
def printedLines (addr : Address) (videos : List DeviceName) (audios : List AudioDevice) :
    List (List Char) :=
  headingLine addr videoHeading :: (videos.zipIdx.map fun p ↦ deviceLine addr p.2 p.1.text) ++
    headingLine addr audioHeading :: audios.map fun d ↦ deviceLine addr d.index d.name.text

/-- What ffmpeg prints. -/
def printed (addr : Address) (videos : List DeviceName) (audios : List AudioDevice) : String :=
  .ofList (Lines.terminated (printedLines addr videos audios))

/-! ## The law -/

/-- The name has `capture screen` in it, in any letter case. -/
def DeviceName.IsScreen (name : DeviceName) : Prop :=
  captureScreen <:+: name.text.map Char.toLower

instance (name : DeviceName) : Decidable name.IsScreen :=
  decidable_of_iff _ Search.contains_iff

/-- The video devices that are screens, with their numbers. -/
def screens (videos : List DeviceName) : List (DeviceName × ℕ) :=
  videos.zipIdx.filter fun p ↦ p.1.IsScreen

/-- **What was printed is found**: all the audio devices in order, and the number of the first
screen, or `1`. -/
structure ReadBack (t : Search.Lowercase) (addr : Address) (videos : List DeviceName)
    (audios : List AudioDevice) : Prop where
  /-- The audio devices. -/
  audio : parseAudioDevices (printed addr videos audios) =
    audios.map fun d ↦ ⟨d.index, .ofList d.name.text⟩
  /-- The screen. -/
  screen : findScreenDeviceIndex t (printed addr videos audios) =
    ((screens videos).head?.map fun p ↦ String.ofList (Nat.toDigits 10 p.2)).getD "1"

/-- The number that is read for a screen: its own, if its name has no bracket and the number has 32
bits; else the one in the last brackets of its name, if there is one. -/
def numberRead (p : DeviceName × ℕ) : Option (List Char) :=
  if '[' ∈ p.1.text then indexOfLine p.1.text
  else if p.2 < 2 ^ 32 then some (Nat.toDigits 10 p.2) else none

/-- The number that is read for the first screen is its own; or none is, and the one that is read
for another screen, or `1`, happens to be the same. -/
def FirstScreenRead (videos : List DeviceName) : Prop :=
  ∀ p rest, screens videos = p :: rest →
    numberRead p = some (Nat.toDigits 10 p.2) ∨
      numberRead p = none ∧ (rest.findSome? numberRead).getD ['1'] = Nat.toDigits 10 p.2

/-! ## Lines -/

section Lines

variable {addr : Address} {index : ℕ} {name : List Char}

/-- A character that the origin of a line does not have. -/
theorem forall_mem_origin {p : Char → Bool}
    (hconst : "[AVFoundation indev @ 0x".toList.all p = true)
    (hhex : "0123456789abcdefABCDEF".toList.all p = true) : ∀ c ∈ addr.origin, p c = true := by
  intro c hc
  rcases List.mem_append.mp hc with hc | hc
  · exact List.all_eq_true.mp hconst c hc
  · exact List.all_eq_true.mp hhex c (addr.hex c hc)

theorem notMem_toDigits {c : Char} (hc : c.isDigit = false) : c ∉ Nat.toDigits 10 index := by
  intro h
  rw [Nat.isDigit_of_mem_toDigits (by decide) (by decide) h] at hc
  cases hc

/-- A text is found in the line of a device if and only if it is found in the name, where it has no
closing bracket, does not begin with a blank and has a character that the rest does not have. -/
theorem infix_line_iff {p origin digits : List Char} {x : Char} (hclose : ']' ∉ p) (hx : x ∈ p)
    (horigin : x ∉ origin) (hdigits : x ∉ ' ' :: '[' :: digits) (hhead : p.head? ≠ some ' ') :
    p <:+: origin ++ ']' :: (' ' :: '[' :: digits ++ ']' :: ' ' :: name) ↔ p <:+: name := by
  rw [Search.infix_append_cons_iff hclose, Search.infix_append_cons_iff hclose]
  constructor
  · rintro (h | h | h)
    · exact absurd (h.subset hx) horigin
    · exact absurd (h.subset hx) hdigits
    · rcases List.infix_cons_iff.mp h with h | h
      · obtain ⟨c, p, rfl⟩ := List.exists_cons_of_ne_nil (List.ne_nil_of_mem hx)
        rw [(List.cons_prefix_cons.mp h).1] at hhead
        exact absurd rfl hhead
      · exact h
  · exact fun h ↦ .inr (.inr (List.infix_cons h))

theorem s_notMem_origin : 's' ∉ addr.origin :=
  fun h ↦ absurd (forall_mem_origin (p := fun c ↦ c ≠ 's') (by decide) (by decide) 's' h)
    (by decide)

theorem s_notMem_digits : 's' ∉ ' ' :: '[' :: Nat.toDigits 10 index := by
  intro h
  simp only [List.mem_cons] at h
  rcases h with h | h | h
  · cases h
  · cases h
  · exact notMem_toDigits (by decide) h

theorem audioHeading_deviceLine_iff :
    audioHeading <:+: deviceLine addr index name ↔ audioHeading <:+: name :=
  infix_line_iff (by decide) (by decide : 's' ∈ audioHeading) s_notMem_origin s_notMem_digits
    (by decide)

theorem videoHeading_deviceLine_iff :
    videoHeading <:+: deviceLine addr index name ↔ videoHeading <:+: name :=
  infix_line_iff (by decide) (by decide : 's' ∈ videoHeading) s_notMem_origin s_notMem_digits
    (by decide)

/-- **The name of a screen is looked for in the whole line**, and found in the name or nowhere. -/
theorem captureScreen_deviceLine_iff (t : Search.Lowercase) :
    captureScreen <:+: t.toLowercase (deviceLine addr index name) ↔
      captureScreen <:+: name.map Char.toLower := by
  have hlower : ∀ c : Char, c.isDigit = true → c.toLower ≠ 's' := by
    intro c hc h
    have hrange := Decimal.toNat_of_isDigit hc
    have hsame : c.toLower = c := by
      apply Char.toLower_eq_of_not_isUpper
      intro hu
      rw [Char.isUpper, decide_eq_true_eq, ge_iff_le, UInt32.le_iff_toNat_le,
        UInt32.le_iff_toNat_le] at hu
      have hle : 65 ≤ c.toNat := hu.1
      omega
    rw [hsame] at h
    rw [h] at hc
    cases hc
  have hascii : captureScreen.all (fun c ↦ c.toNat < 128) = true := by decide
  rw [Search.infix_toLowercase_iff t
    (fun c hc ↦ of_decide_eq_true (List.all_eq_true.mp hascii c hc)) (by decide) (by decide),
    deviceLine,
    List.map_append, List.map_cons, List.map_append, List.map_cons, List.map_cons, List.map_cons,
    List.map_cons]
  refine infix_line_iff (by decide) (by decide : 's' ∈ captureScreen) ?_ ?_ (by decide)
  · rw [List.mem_map]
    rintro ⟨c, hc, h⟩
    have hnot := forall_mem_origin (p := fun c ↦ c.toLower ≠ 's') (by decide) (by decide) c hc
    exact of_decide_eq_true hnot h
  · simp only [List.mem_cons, List.mem_map]
    rintro (h | h | ⟨c, hc, h⟩)
    · cases h
    · cases h
    · exact hlower c (Nat.isDigit_of_mem_toDigits (by decide) (by decide) hc) h

/-- Of the two headings, a line has its own. -/
theorem heading_headingLine (heading : List Char) : heading <:+: headingLine addr heading :=
  ⟨addr.origin ++ [']', ' '], [':'], by simp [headingLine]⟩

theorem not_audioHeading_headingLine : ¬ audioHeading <:+: headingLine addr videoHeading := by
  rw [headingLine, Search.infix_append_cons_iff (by decide)]
  rintro (h | h)
  · exact absurd (h.subset (by decide : 's' ∈ audioHeading)) s_notMem_origin
  · exact absurd (h.sublist.count_le 'u') (by decide)

theorem not_videoHeading_headingLine : ¬ videoHeading <:+: headingLine addr audioHeading := by
  rw [headingLine, Search.infix_append_cons_iff (by decide)]
  rintro (h | h)
  · exact absurd (h.subset (by decide : 's' ∈ videoHeading)) s_notMem_origin
  · exact absurd (h.sublist.count_le 'v') (by decide)

/-- **A name without brackets** leaves the index in the last brackets. -/
theorem lastBracket_of_notMem (h : '[' ∉ name) :
    lastBracket (deviceLine addr index name) = some (Nat.toDigits 10 index, ' ' :: name) := by
  have hopen : '[' ∉ Nat.toDigits 10 index ++ ']' :: ' ' :: name := by
    rw [List.mem_append, not_or]
    exact ⟨notMem_toDigits (by decide), by simp [h]⟩
  have hline : deviceLine addr index name =
      (addr.origin ++ [']', ' ']) ++ '[' :: (Nat.toDigits 10 index ++ ']' :: ' ' :: name) := by
    simp [deviceLine]
  rw [lastBracket, hline, Rust.rsplitOnce_append_cons hopen, Option.bind_some,
    Rust.splitOnce_append_cons (notMem_toDigits (by decide))]

/-- **A bracket in the name** is taken for the one before the index. -/
theorem lastBracket_of_mem (h : '[' ∈ name) :
    lastBracket (deviceLine addr index name) = lastBracket name := by
  obtain ⟨p, hp⟩ := Option.ne_none_iff_exists'.mp
    (mt Rust.rsplitOnce_eq_none_iff.mp (not_not.mpr h))
  obtain ⟨hname, hopen⟩ := Rust.rsplitOnce_eq_some_iff.mp hp
  have hline : deviceLine addr index name =
      (addr.origin ++ ']' :: (' ' :: '[' :: Nat.toDigits 10 index ++ ']' :: ' ' :: p.1)) ++
        '[' :: p.2 := by
    rw [deviceLine, hname]
    simp
  rw [lastBracket, lastBracket, hp, hline, Rust.rsplitOnce_append_cons hopen]
  rfl

end Lines

/-! ## What the readers find -/

section Scan

variable {t : Search.Lowercase} {addr : Address} {videos : List DeviceName}
  {audios : List AudioDevice}

/-- **The output is the lines that were printed.** -/
theorem strLines_printed (addr : Address) (videos : List DeviceName) (audios : List AudioDevice) :
    Lines.strLines (printed addr videos audios).toList = printedLines addr videos audios := by
  have horigin : '\n' ∉ addr.origin :=
    fun h ↦ absurd (forall_mem_origin (p := fun c ↦ c ≠ '\n') (by decide) (by decide) '\n' h)
      (by decide)
  have hheading : ∀ heading : List Char, '\n' ∉ heading →
      '\n' ∉ headingLine addr heading ∧ (headingLine addr heading).getLast? ≠ some '\r' := by
    intro heading hnot
    have hlast : (headingLine addr heading).getLast? = some ':' := by
      rw [headingLine, ← List.cons_append, ← List.cons_append, ← List.append_assoc,
        List.getLast?_concat]
    rw [hlast]
    exact ⟨by simp [headingLine, horigin, hnot], by decide⟩
  have hdevice : ∀ (index : ℕ) (name : DeviceName),
      '\n' ∉ deviceLine addr index name.text ∧
        (deviceLine addr index name.text).getLast? ≠ some '\r' := by
    intro index name
    have hdigits : '\n' ∉ Nat.toDigits 10 index := notMem_toDigits (by decide)
    refine ⟨by simp [deviceLine, horigin, hdigits, name.line], fun h ↦ ?_⟩
    have hline : deviceLine addr index name.text =
        (addr.origin ++ ']' :: (' ' :: '[' :: Nat.toDigits 10 index ++ [']', ' '])) ++
          name.text := by
      simp [deviceLine]
    rw [hline, List.getLast?_append_of_ne_nil _ name.ne_nil] at h
    exact absurd (name.last '\r' h) (by decide)
  have hall : ∀ line ∈ printedLines addr videos audios,
      '\n' ∉ line ∧ line.getLast? ≠ some '\r' := by
    intro line hline
    rw [printedLines, List.cons_append, List.mem_cons, List.mem_append, List.mem_cons] at hline
    rcases hline with rfl | hline | rfl | hline
    · exact hheading videoHeading (by decide)
    · obtain ⟨p, -, rfl⟩ := List.mem_map.mp hline
      exact hdevice p.2 p.1
    · exact hheading audioHeading (by decide)
    · obtain ⟨d, -, rfl⟩ := List.mem_map.mp hline
      exact hdevice d.index d.name
  rw [printed, String.toList_ofList]
  exact Lines.strLines_terminated (fun line h ↦ (hall line h).1) fun line h ↦ (hall line h).2

/-- Before the heading, nothing is found. -/
theorem foldl_next_of_not_inAudio {lines : List (List Char)}
    (h : ∀ line ∈ lines, ¬ audioHeading <:+: line) :
    lines.foldl AudioScan.next ⟨false, []⟩ = ⟨false, []⟩ := by
  induction lines with
  | nil => rfl
  | cons line lines ih =>
    obtain ⟨hline, hlines⟩ := List.forall_mem_cons.mp h
    have hnext : AudioScan.next ⟨false, []⟩ line = ⟨false, []⟩ := by
      rw [AudioScan.next, if_neg (mt Search.contains_iff.mp hline)]
      rfl
    rw [List.foldl_cons, hnext, ih hlines]

/-- Behind it, the microphones of the lines. -/
theorem foldl_next_of_inAudio {lines : List (List Char)} (ds : List MicDevice)
    (h : ∀ line ∈ lines, ¬ audioHeading <:+: line) :
    lines.foldl AudioScan.next ⟨true, ds⟩ = ⟨true, ds ++ lines.filterMap micOfLine⟩ := by
  induction lines generalizing ds with
  | nil => rw [List.foldl_nil, List.filterMap_nil, List.append_nil]
  | cons line lines ih =>
    obtain ⟨hline, hlines⟩ := List.forall_mem_cons.mp h
    have hnext : AudioScan.next ⟨true, ds⟩ line = ⟨true, ds ++ (micOfLine line).toList⟩ := by
      rw [AudioScan.next, if_neg (mt Search.contains_iff.mp hline)]
      rfl
    rw [List.foldl_cons, hnext, ih _ hlines, List.append_assoc]
    cases hmic : micOfLine line with
    | none => rw [List.filterMap_cons_none hmic, Option.toList_none, List.nil_append]
    | some d => rw [List.filterMap_cons_some hmic, Option.toList_some, List.singleton_append]

/-- **The microphones that are found** are those of the audio lines. -/
theorem parseAudioDevices_printed (addr : Address) (videos : List DeviceName)
    (audios : List AudioDevice) :
    parseAudioDevices (printed addr videos audios) =
      audios.filterMap fun d ↦ micOfLine (deviceLine addr d.index d.name.text) := by
  have hvideo : ∀ line ∈ headingLine addr videoHeading ::
      (videos.zipIdx.map fun p ↦ deviceLine addr p.2 p.1.text), ¬ audioHeading <:+: line := by
    intro line hline
    rcases List.mem_cons.mp hline with rfl | hline
    · exact not_audioHeading_headingLine
    · obtain ⟨p, -, rfl⟩ := List.mem_map.mp hline
      exact mt audioHeading_deviceLine_iff.mp p.1.not_audio
  have haudio : ∀ line ∈ audios.map fun d ↦ deviceLine addr d.index d.name.text,
      ¬ audioHeading <:+: line := by
    intro line hline
    obtain ⟨d, -, rfl⟩ := List.mem_map.mp hline
    exact mt audioHeading_deviceLine_iff.mp d.name.not_audio
  have hheading : AudioScan.next ⟨false, []⟩ (headingLine addr audioHeading) = ⟨true, []⟩ := by
    rw [AudioScan.next, if_pos (Search.contains_iff.mpr (heading_headingLine audioHeading))]
  rw [parseAudioDevices, strLines_printed, printedLines, List.foldl_append,
    foldl_next_of_not_inAudio hvideo, List.foldl_cons, hheading, foldl_next_of_inAudio [] haudio,
    List.nil_append, List.filterMap_map]
  rfl

/-- The number in the last brackets of the line of a screen. -/
theorem indexOfLine_deviceLine (addr : Address) (p : DeviceName × ℕ) :
    indexOfLine (deviceLine addr p.2 p.1.text) = numberRead p := by
  rw [numberRead]
  by_cases hopen : '[' ∈ p.1.text
  · rw [if_pos hopen, indexOfLine, lastBracket_of_mem hopen, indexOfLine]
  · rw [if_neg hopen, indexOfLine, lastBracket_of_notMem hopen, Option.bind_some]
    by_cases hlt : p.2 < 2 ^ 32
    · rw [if_pos hlt, Decimal.parse_toDigits hlt]
      rfl
    · have hvalue : Decimal.value (Nat.toDigits 10 p.2) = p.2 := Nat.ofDigitChars_ten_toDigits
      rw [if_neg hlt, Decimal.parse_eq_none_of_le (Decimal.numeral_toDigits p.2)
        (by rw [hvalue]; exact Nat.not_lt.mp hlt)]
      rfl

/-- The loop, within the video devices. -/
theorem findScreen_videos (t : Search.Lowercase) (addr : Address) (rest : List (List Char))
    (ps : List (DeviceName × ℕ)) :
    findScreen t true ((ps.map fun p ↦ deviceLine addr p.2 p.1.text) ++
      headingLine addr audioHeading :: rest) =
        .ofList (((ps.filter fun p ↦ p.1.IsScreen).findSome? numberRead).getD ['1']) := by
  induction ps with
  | nil =>
    have hvideo : Search.contains videoHeading (headingLine addr audioHeading) = false :=
      Bool.eq_false_iff.mpr (mt Search.contains_iff.mp not_videoHeading_headingLine)
    have haudio : Search.contains audioHeading (headingLine addr audioHeading) = true :=
      Search.contains_iff.mpr (heading_headingLine audioHeading)
    rw [List.map_nil, List.nil_append, findScreen, hvideo, haudio]
    rfl
  | cons p ps ih =>
    have hvideo : Search.contains videoHeading (deviceLine addr p.2 p.1.text) = false :=
      Bool.eq_false_iff.mpr
        (mt (Search.contains_iff.trans videoHeading_deviceLine_iff).mp p.1.not_video)
    have haudio : Search.contains audioHeading (deviceLine addr p.2 p.1.text) = false :=
      Bool.eq_false_iff.mpr
        (mt (Search.contains_iff.trans audioHeading_deviceLine_iff).mp p.1.not_audio)
    have hscreen : Search.contains captureScreen (t.toLowercase (deviceLine addr p.2 p.1.text)) =
        true ↔ p.1.IsScreen := Search.contains_iff.trans (captureScreen_deviceLine_iff t)
    rw [List.map_cons, List.cons_append, findScreen, hvideo, haudio, if_neg Bool.false_ne_true,
      Bool.and_false, if_neg Bool.false_ne_true, Bool.true_and, indexOfLine_deviceLine, ih]
    by_cases h : p.1.IsScreen
    · rw [if_pos (hscreen.mpr h), List.filter_cons_of_pos (by simpa using h),
        List.findSome?_cons]
      cases numberRead p <;> rfl
    · rw [if_neg (mt hscreen.mp h), List.filter_cons_of_neg (by simpa using h)]

/-- **The number that is found** is the first that is read for a screen. -/
theorem findScreenDeviceIndex_printed (t : Search.Lowercase) (addr : Address)
    (videos : List DeviceName) (audios : List AudioDevice) :
    findScreenDeviceIndex t (printed addr videos audios) =
      .ofList (((screens videos).findSome? numberRead).getD ['1']) := by
  have hheading : Search.contains videoHeading (headingLine addr videoHeading) = true :=
    Search.contains_iff.mpr (heading_headingLine videoHeading)
  rw [findScreenDeviceIndex, strLines_printed, printedLines, List.cons_append, findScreen,
    hheading, if_pos rfl, findScreen_videos]
  rfl

end Scan

/-! ## When everything is found -/

section ReadBack

variable {addr : Address} {videos : List DeviceName} {audios : List AudioDevice}

/-- **A microphone without brackets in its name** is found as it was printed. -/
theorem micOfLine_of_notMem (d : AudioDevice) (h : '[' ∉ d.name.text) :
    micOfLine (deviceLine addr d.index d.name.text) =
      some ⟨d.index, .ofList d.name.text⟩ := by
  have htrim : Rust.trim (.ofList (' ' :: d.name.text)) = .ofList d.name.text := by
    have hspace : ∀ c ∈ [' '], Rust.isWhitespace c = true :=
      List.forall_mem_singleton.mpr (by decide)
    have h := Rust.trim_append hspace (List.forall_mem_nil _) d.name.head d.name.last
    rwa [List.append_nil] at h
  have hname : String.ofList d.name.text ≠ "" := by
    intro h
    have hnil := congrArg String.toList h
    rw [String.toList_ofList] at hnil
    exact d.name.ne_nil hnil
  rw [micOfLine, lastBracket_of_notMem h, Option.bind_some, Decimal.parse_toDigits d.index_lt,
    Option.bind_some, htrim]
  exact if_neg hname

/-- **Of a microphone with a bracket in its name**, what is found is shorter, if anything is. -/
theorem micOfLine_of_mem (d : AudioDevice) (h : '[' ∈ d.name.text) :
    micOfLine (deviceLine addr d.index d.name.text) ≠
      some ⟨d.index, .ofList d.name.text⟩ := by
  intro hmic
  rw [micOfLine, lastBracket_of_mem h] at hmic
  obtain ⟨p, hp, hmic⟩ := Option.bind_eq_some_iff.mp hmic
  obtain ⟨q, hq, hsplit⟩ := Option.bind_eq_some_iff.mp hp
  obtain ⟨index, -, hmic⟩ := Option.bind_eq_some_iff.mp hmic
  have hname : Rust.trim (.ofList p.2) = .ofList d.name.text := by
    dsimp only at hmic
    split at hmic
    · cases hmic
    · exact (MicDevice.mk.inj (Option.some.inj hmic)).2
  have htext := (Rust.rsplitOnce_eq_some_iff.mp hq).1
  have hrest := (Rust.splitOnce_eq_some_iff.mp hsplit).1
  have hle := Rust.length_trim_le (.ofList p.2)
  rw [hname, String.toList_ofList, String.toList_ofList, htext, hrest] at hle
  simp only [List.length_append, List.length_cons] at hle
  omega

variable (addr videos audios) in
theorem parseAudioDevices_eq_iff :
    parseAudioDevices (printed addr videos audios) =
        audios.map (fun d ↦ ⟨d.index, .ofList d.name.text⟩) ↔
      ∀ d ∈ audios, '[' ∉ d.name.text := by
  rw [parseAudioDevices_printed, List.filterMap_eq_map_iff_forall_eq_some]
  exact forall₂_congr fun d _ ↦
    ⟨fun hmic hopen ↦ micOfLine_of_mem d hopen hmic, fun hopen ↦ micOfLine_of_notMem d hopen⟩

variable (addr videos audios) in
theorem findScreenDeviceIndex_eq_iff (t : Search.Lowercase) :
    findScreenDeviceIndex t (printed addr videos audios) =
        ((screens videos).head?.map fun p ↦ String.ofList (Nat.toDigits 10 p.2)).getD "1" ↔
      FirstScreenRead videos := by
  rw [findScreenDeviceIndex_printed, FirstScreenRead]
  cases hscreens : screens videos with
  | nil => exact iff_of_true rfl fun _ _ h ↦ by cases h
  | cons p rest =>
    have hsole : (∀ q rest', p :: rest = q :: rest' →
        numberRead q = some (Nat.toDigits 10 q.2) ∨
          numberRead q = none ∧ (rest'.findSome? numberRead).getD ['1'] = Nat.toDigits 10 q.2) ↔
        numberRead p = some (Nat.toDigits 10 p.2) ∨
          numberRead p = none ∧ (rest.findSome? numberRead).getD ['1'] = Nat.toDigits 10 p.2 :=
      ⟨fun h ↦ h p rest rfl, fun h q rest' heq ↦ by cases heq; exact h⟩
    rw [hsole, List.head?_cons, Option.map_some, Option.getD_some, String.ofList_inj,
      List.findSome?_cons]
    cases numberRead p with
    | none => simp
    | some number => simp

end ReadBack

/-- **When the list of devices is read back.**  That is so if and only if no microphone has an
opening bracket in its name, and the number that is read for the first screen is its own or happens
to be the one that is found. -/
theorem readBack_iff (t : Search.Lowercase) (addr : Address) (videos : List DeviceName)
    (audios : List AudioDevice) :
    ReadBack t addr videos audios ↔
      (∀ d ∈ audios, '[' ∉ d.name.text) ∧ FirstScreenRead videos := by
  rw [← parseAudioDevices_eq_iff addr videos audios,
    ← findScreenDeviceIndex_eq_iff addr videos audios t]
  exact ⟨fun h ↦ ⟨h.audio, h.screen⟩, fun h ↦ ⟨h.1, h.2⟩⟩

/-- A microphone with a bracket in its name. -/
def bracketedMic : AudioDevice where
  index := 0
  index_lt := by decide
  name :=
    { text := "Mic [2]".toList
      ne_nil := by decide
      head := fun c hc ↦ by cases hc; decide
      last := fun c hc ↦ by cases hc; decide
      line := by decide
      not_video := fun h ↦ absurd (h.sublist.length_le) (by decide)
      not_audio := fun h ↦ absurd (h.sublist.length_le) (by decide) }

/-- An address. -/
def exampleAddress : Address := ⟨"0".toList, fun _ hc ↦ List.mem_singleton.mp hc ▸ .head _⟩

/-- It is lost: it is taken for the device number 2, which has no name. -/
theorem not_readBack : ¬ ReadBack .asciiOnly exampleAddress [] [bracketedMic] := by
  intro h
  exact absurd (List.mem_singleton_self bracketedMic)
    (fun hmem ↦ (parseAudioDevices_eq_iff _ _ _).mp h.audio bracketedMic hmem (by decide))

end WorkWithMe.Recorder
