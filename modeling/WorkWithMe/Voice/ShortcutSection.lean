import WorkWithMe.Lib.Rust
import WorkWithMe.Voice.Shortcuts

/-!
# The settings of the hotkeys

`ShortcutSection.tsx` makes the text of a shortcut from the keys that are pressed, and
`voice_shortcuts.rs` reads it.  The keys are known by tables on both sides: regular expressions on
the one, a list of spellings on the other.  Before a new shortcut is sent to the back end, it is
compared with the shortcuts of the other actions.

* `denotes_formatShortcutForRust_iff`: the text is read as the modifiers that were held and the key
  that was pressed, except for the keys from F20 on, which `formatShortcutForRust` takes for some of
  the first twelve and `parse` does not know.
* `reports_iff_conflict`: the only complaint about another action is that of the comparison.
* **`agree_iff`** says where the two sides agree.  The comparison is one of texts, and a hotkey has
  several: `not_agree` is a shortcut of which the other text is taken.
-/

set_option autoImplicit false

namespace WorkWithMe.Voice

open JsonFile

/-! ## The text of a shortcut -/

/-- A key that is pressed, while modifiers are held. -/
structure KeyboardEvent where
  /-- What the key is called. -/
  key : String
  /-- Command is held. -/
  metaKey : Bool
  /-- Control. -/
  ctrlKey : Bool
  /-- Shift. -/
  shiftKey : Bool
  /-- Option. -/
  altKey : Bool
  deriving DecidableEq

/-- The names of the modifiers. -/
def modifierParts (e : KeyboardEvent) : List String :=
  (if e.metaKey then ["Super"] else []) ++ (if e.ctrlKey then ["Ctrl"] else []) ++
    (if e.shiftKey then ["Shift"] else []) ++ if e.altKey then ["Alt"] else []

/-- `toUpperCase`, of a letter from A to Z. -/
def toUpperCase (key : String) : String := .ofList (key.toList.map Char.toUpper)

/-- The name of the key: the regular expressions are `^[0-9]$`, `^[a-zA-Z]$` and
`^F[1-9][0-2]?$`. -/
def keyPart (key : String) : Option String :=
  if key = " " then some "Space"
  else if key = "Enter" then some "Enter"
  else if key = "Escape" then some "Escape"
  else match key.toList with
    | [c] =>
      if '0' ≤ c ∧ c ≤ '9' then some ("Digit" ++ key)
      else if 'a' ≤ c ∧ c ≤ 'z' ∨ 'A' ≤ c ∧ c ≤ 'Z' then some ("Key" ++ toUpperCase key)
      else none
    | ['F', c] => if '1' ≤ c ∧ c ≤ '9' then some key else none
    | ['F', c, d] => if ('1' ≤ c ∧ c ≤ '9') ∧ '0' ≤ d ∧ d ≤ '2' then some key else none
    | _ => none

/-- `formatShortcutForRust`. -/
def formatShortcutForRust (e : KeyboardEvent) : Option String :=
  if e.key ∈ ["Meta", "Control", "Shift", "Alt"] then none
  else if modifierParts e = [] then none
  else (keyPart e.key).map fun part ↦ "+".intercalate (modifierParts e ++ [part])

/-! ## What was pressed -/

/-- The keys, by what an event calls them. -/
def keys : List (String × Code) :=
  [(" ", .space), ("Enter", .enter), ("Escape", .escape), ("0", .digit0), ("1", .digit1),
    ("2", .digit2), ("3", .digit3), ("4", .digit4), ("5", .digit5), ("6", .digit6),
    ("7", .digit7), ("8", .digit8), ("9", .digit9), ("a", .keyA), ("A", .keyA), ("b", .keyB),
    ("B", .keyB), ("c", .keyC), ("C", .keyC), ("d", .keyD), ("D", .keyD), ("e", .keyE),
    ("E", .keyE), ("f", .keyF), ("F", .keyF), ("g", .keyG), ("G", .keyG), ("h", .keyH),
    ("H", .keyH), ("i", .keyI), ("I", .keyI), ("j", .keyJ), ("J", .keyJ), ("k", .keyK),
    ("K", .keyK), ("l", .keyL), ("L", .keyL), ("m", .keyM), ("M", .keyM), ("n", .keyN),
    ("N", .keyN), ("o", .keyO), ("O", .keyO), ("p", .keyP), ("P", .keyP), ("q", .keyQ),
    ("Q", .keyQ), ("r", .keyR), ("R", .keyR), ("s", .keyS), ("S", .keyS), ("t", .keyT),
    ("T", .keyT), ("u", .keyU), ("U", .keyU), ("v", .keyV), ("V", .keyV), ("w", .keyW),
    ("W", .keyW), ("x", .keyX), ("X", .keyX), ("y", .keyY), ("Y", .keyY), ("z", .keyZ),
    ("Z", .keyZ), ("F1", .f1), ("F2", .f2), ("F3", .f3), ("F4", .f4), ("F5", .f5), ("F6", .f6),
    ("F7", .f7), ("F8", .f8), ("F9", .f9), ("F10", .f10), ("F11", .f11), ("F12", .f12)]

/-- The modifiers that are held. -/
def KeyboardEvent.modifiers (e : KeyboardEvent) : Modifiers :=
  ⟨e.metaKey, e.shiftKey, e.ctrlKey, e.altKey⟩

/-- **The text denotes what was pressed.** -/
def Denotes (shortcut : String) (e : KeyboardEvent) : Prop :=
  ∃ code, keys.lookup e.key = some code ∧ parse shortcut = some (e.modifiers, code)

/-- An F, a digit from 2 to 9, and one from 0 to 2. -/
def isPastF12 (key : String) : Bool :=
  match key.toList with
  | ['F', c, d] => '2' ≤ c && c ≤ '9' && '0' ≤ d && d ≤ '2'
  | _ => false

/-! ## The key -/

/-- What `keyPart` makes of a key: a name that `parse_code` reads as this very key, if it is not
past the twelfth of the function keys. -/
structure Agrees (key part : String) : Prop where
  /-- The name does not fall into parts. -/
  whole : '+' ∉ part.toList
  /-- The two tables agree. -/
  code : parseCode part = keys.lookup key
  /-- The key is known. -/
  known : (keys.lookup key).isSome = !isPastF12 key

instance (key part : String) : Decidable (Agrees key part) :=
  decidable_of_iff ('+' ∉ part.toList ∧ parseCode part = keys.lookup key ∧
      (keys.lookup key).isSome = !isPastF12 key)
    ⟨fun h ↦ ⟨h.1, h.2.1, h.2.2⟩, fun h ↦ ⟨h.1, h.2, h.3⟩⟩

/-- The characters from one to another. -/
def charRange (lo hi : Char) : List Char :=
  (List.range' lo.toNat (hi.toNat + 1 - lo.toNat)).map Char.ofNat

theorem mem_charRange {lo hi c : Char} (hlo : lo ≤ c) (hhi : c ≤ hi) : c ∈ charRange lo hi := by
  have hlo : lo.toNat ≤ c.toNat := hlo
  have hhi : c.toNat ≤ hi.toNat := hhi
  refine List.mem_map.mpr ⟨c.toNat, List.mem_range'_1.mpr (by omega), Char.ofNat_toNat c⟩

theorem agrees_digit {c : Char} (hlo : '0' ≤ c) (hhi : c ≤ '9') :
    Agrees (.ofList [c]) ("Digit" ++ .ofList [c]) := by
  have hall : (charRange '0' '9').all (fun c ↦
      decide (Agrees (.ofList [c]) ("Digit" ++ .ofList [c]))) = true := by decide
  exact of_decide_eq_true (List.all_eq_true.mp hall c (mem_charRange hlo hhi))

theorem agrees_letter {c : Char} (h : 'a' ≤ c ∧ c ≤ 'z' ∨ 'A' ≤ c ∧ c ≤ 'Z') :
    Agrees (.ofList [c]) ("Key" ++ toUpperCase (.ofList [c])) := by
  have hall : (charRange 'a' 'z' ++ charRange 'A' 'Z').all (fun c ↦
      decide (Agrees (.ofList [c]) ("Key" ++ toUpperCase (.ofList [c])))) = true := by decide
  refine of_decide_eq_true (List.all_eq_true.mp hall c (List.mem_append.mpr ?_))
  exact h.imp (fun h ↦ mem_charRange h.1 h.2) fun h ↦ mem_charRange h.1 h.2

theorem agrees_function {c : Char} (hlo : '1' ≤ c) (hhi : c ≤ '9') :
    Agrees (.ofList ['F', c]) (.ofList ['F', c]) := by
  have hall : (charRange '1' '9').all (fun c ↦
      decide (Agrees (.ofList ['F', c]) (.ofList ['F', c]))) = true := by decide
  exact of_decide_eq_true (List.all_eq_true.mp hall c (mem_charRange hlo hhi))

theorem agrees_function_two {c d : Char} (hc : '1' ≤ c ∧ c ≤ '9') (hd : '0' ≤ d ∧ d ≤ '2') :
    Agrees (.ofList ['F', c, d]) (.ofList ['F', c, d]) := by
  have hall : (charRange '1' '9').all (fun c ↦ (charRange '0' '2').all fun d ↦
      decide (Agrees (.ofList ['F', c, d]) (.ofList ['F', c, d]))) = true := by decide
  have hall := List.all_eq_true.mp hall c (mem_charRange hc.1 hc.2)
  exact of_decide_eq_true (List.all_eq_true.mp hall d (mem_charRange hd.1 hd.2))

/-- **The tables agree**, on every key that has a name. -/
theorem agrees_keyPart {key part : String} (h : keyPart key = some part) : Agrees key part := by
  unfold keyPart at h
  split_ifs at h with hspace henter hescape
  · obtain rfl := Option.some.inj h
    subst hspace
    decide
  · obtain rfl := Option.some.inj h
    subst henter
    decide
  · obtain rfl := Option.some.inj h
    subst hescape
    decide
  split at h
  · rename_i c hkey
    obtain rfl : key = .ofList [c] := by rw [← hkey, String.ofList_toList]
    split_ifs at h with hdigit hletter
    · obtain rfl := Option.some.inj h
      exact agrees_digit hdigit.1 hdigit.2
    · obtain rfl := Option.some.inj h
      exact agrees_letter hletter
  · rename_i c hkey
    obtain rfl : key = .ofList ['F', c] := by rw [← hkey, String.ofList_toList]
    obtain ⟨hdigit, h⟩ := Option.ite_none_right_eq_some.mp h
    obtain rfl := Option.some.inj h
    exact agrees_function hdigit.1 hdigit.2
  · rename_i c d hkey
    obtain rfl : key = .ofList ['F', c, d] := by rw [← hkey, String.ofList_toList]
    obtain ⟨⟨hc, hd⟩, h⟩ := Option.ite_none_right_eq_some.mp h
    obtain rfl := Option.some.inj h
    exact agrees_function_two hc hd
  · cases h

/-! ## The modifiers -/

/-- `parse` reads the parts that were put together. -/
theorem parse_intercalate {parts : List String} {part : String}
    (hparts : ∀ p ∈ parts, '+' ∉ p.toList) (hpart : '+' ∉ part.toList) :
    parse ("+".intercalate (parts ++ [part])) =
      (parts.foldlM addModifier Modifiers.empty).bind fun mods ↦
        (parseCode part).map fun code ↦ (mods, code) := by
  have hall : ∀ p ∈ parts ++ [part], '+' ∉ p.toList := by
    intro p hp
    rcases List.mem_append.mp hp with hp | hp
    · exact hparts p hp
    · rwa [List.mem_singleton.mp hp]
  have hsplit := Rust.map_ofList_splitOn_intercalate (List.concat_ne_nil part parts) hall
  have hplus : String.singleton '+' = "+" := rfl
  rw [hplus] at hsplit
  rw [parse, hsplit, List.getLast?_concat, List.dropLast_concat, Option.bind_some]

theorem foldlM_modifierParts (e : KeyboardEvent) :
    (modifierParts e).foldlM addModifier Modifiers.empty = some e.modifiers := by
  obtain ⟨key, metaKey, ctrlKey, shiftKey, altKey⟩ := e
  cases metaKey <;> cases ctrlKey <;> cases shiftKey <;> cases altKey <;> rfl

theorem plus_notMem_modifierParts (e : KeyboardEvent) :
    ∀ p ∈ modifierParts e, '+' ∉ p.toList := by
  rw [modifierParts]
  split_ifs <;> decide

/-- **The text is read as what was pressed**, unless this is a key past the twelfth of the function
keys. -/
theorem denotes_formatShortcutForRust_iff {e : KeyboardEvent} {shortcut : String}
    (h : formatShortcutForRust e = some shortcut) :
    Denotes shortcut e ↔ isPastF12 e.key = false := by
  unfold formatShortcutForRust at h
  split_ifs at h
  obtain ⟨part, hpart, rfl⟩ := Option.map_eq_some_iff.mp h
  have hagrees := agrees_keyPart hpart
  have hparse := parse_intercalate (plus_notMem_modifierParts e) hagrees.whole
  rw [foldlM_modifierParts, hagrees.code, Option.bind_some] at hparse
  have hknown := hagrees.known
  rw [Denotes, hparse]
  cases hlookup : keys.lookup e.key with
  | none =>
    rw [hlookup] at hknown
    refine iff_of_false (fun ⟨_, hcode, _⟩ ↦ nomatch hcode) fun hpast ↦ ?_
    rw [hpast] at hknown
    cases hknown
  | some code =>
    rw [hlookup] at hknown
    refine iff_of_true ⟨code, rfl, rfl⟩ ?_
    cases hpast : isPastF12 e.key with
    | false => rfl
    | true =>
      rw [hpast] at hknown
      cases hknown

/-! ## Saving a shortcut -/

/-- A row of the settings. -/
structure ShortcutDef where
  /-- The action. -/
  action : ShortcutAction
  /-- What it is called. -/
  label : String
  deriving DecidableEq

/-- `SHORTCUT_DEFS`. -/
def shortcutDefs : List ShortcutDef :=
  [⟨.dictate, "Dictate"⟩, ⟨.captureRegion, "Capture Region"⟩, ⟨.captureWindow, "Capture Window"⟩,
    ⟨.screenRecording, "Record Screen"⟩, ⟨.newMeeting, "New Meeting"⟩]

/-- What the back end calls an action. -/
def ShortcutAction.name : ShortcutAction → String
  | .dictate => "dictate"
  | .captureRegion => "capture_region"
  | .captureWindow => "capture_window"
  | .screenRecording => "screen_recording"
  | .newMeeting => "new_meeting"

/-- The settings. -/
structure ShortcutSection where
  /-- The shortcuts that are shown. -/
  shortcuts : ShortcutsConfig
  /-- The row that is being edited. -/
  editingAction : Option ShortcutAction
  /-- What is complained of. -/
  error : Option String
  deriving DecidableEq

/-- The complaint about another action. -/
def ShortcutDef.assigned (d : ShortcutDef) : String := "Already assigned to \"" ++ d.label ++ "\""

/-- The action that has the shortcut already. -/
def conflict (shortcuts : ShortcutsConfig) (action : ShortcutAction) (newShortcut : String) :
    Option ShortcutDef :=
  shortcutDefs.find? fun d ↦ d.action ≠ action ∧ shortcuts.get d.action = newShortcut

/-- `handleSave`, with what the system says of a pair that is registered already and the file
operations that fail. -/
def handleSave (s : ShortcutSection) (back : HotkeyState) (taken : String) (faults : Faults)
    (action : ShortcutAction) (newShortcut : String) : ShortcutSection × HotkeyState :=
  match conflict s.shortcuts action newShortcut with
  | some d => ({ s with error := some d.assigned }, back)
  | none =>
    match voiceSetShortcut back ⟨action.name, newShortcut, taken, faults⟩ with
    | (.ok (), back) => (⟨s.shortcuts.set action newShortcut, none, none⟩, back)
    | (.error e, back) => ({ s with error := some e }, back)

/-- **A conflict is reported.** -/
def Reports (s : ShortcutSection) : Prop := ∃ d ∈ shortcutDefs, s.error = some d.assigned

theorem conflict_isSome_iff {shortcuts : ShortcutsConfig} {action : ShortcutAction}
    {newShortcut : String} : (conflict shortcuts action newShortcut).isSome ↔
      ∃ b, b ≠ action ∧ shortcuts.get b = newShortcut := by
  rw [conflict, List.find?_isSome]
  constructor
  · rintro ⟨d, -, hd⟩
    exact ⟨d.action, of_decide_eq_true hd⟩
  · rintro ⟨b, hb⟩
    obtain ⟨d, hd, rfl⟩ : ∃ d ∈ shortcutDefs, d.action = b := by
      cases b <;> decide
    exact ⟨d, hd, decide_eq_true hb⟩

/-- What a text begins with. -/
theorem head?_toList_append {s : String} {c : Char} (h : s.toList.head? = some c) (t : String) :
    (s ++ t).toList.head? = some c := by
  rw [String.toList_append, List.head?_append, h, Option.some_or]

/-- The complaints of the back end are others. -/
theorem head?_error_voiceSetShortcut {s : HotkeyState} {call : SetShortcut} {e : String}
    (h : (voiceSetShortcut s call).1 = .error e) :
    ∃ c ∈ ['c', 'u', 'r', 'w'], e.toList.head? = some c := by
  unfold voiceSetShortcut at h
  split at h
  · obtain rfl := Except.error.inj h
    exact ⟨'c', by decide, head?_toList_append (head?_toList_append rfl _) _⟩
  split at h
  · obtain rfl := Except.error.inj h
    exact ⟨'u', by decide, head?_toList_append (head?_toList_append rfl _) _⟩
  split at h
  · cases h
  dsimp only at h
  split at h
  · obtain rfl := Except.error.inj h
    exact ⟨'r', by decide, head?_toList_append rfl _⟩
  · dsimp only [save] at h
    split at h
    · obtain rfl := Except.error.inj h
      exact ⟨'c', by decide, head?_toList_append rfl _⟩
    · obtain rfl := Except.error.inj h
      exact ⟨'w', by decide, head?_toList_append rfl _⟩
    · cases h

/-- **The only complaint about another action is that of the comparison.** -/
theorem reports_iff_conflict (s : ShortcutSection) (back : HotkeyState) (taken : String)
    (faults : Faults) (action : ShortcutAction) (newShortcut : String) :
    Reports (handleSave s back taken faults action newShortcut).1 ↔
      ∃ b, b ≠ action ∧ s.shortcuts.get b = newShortcut := by
  rw [← conflict_isSome_iff, handleSave]
  cases hconflict : conflict s.shortcuts action newShortcut with
  | some d => exact iff_of_true ⟨d, List.mem_of_find?_eq_some hconflict, rfl⟩ rfl
  | none =>
    refine iff_of_false ?_ (by simp)
    rintro ⟨d, -, hd⟩
    dsimp only at hd
    split at hd
    · cases hd
    · rename_i e _ hset
      obtain rfl : e = d.assigned := Option.some.inj hd
      obtain ⟨c, hc, hhead⟩ := head?_error_voiceSetShortcut (congrArg Prod.fst hset)
      have hassigned : d.assigned.toList.head? = some 'A' :=
        head?_toList_append (head?_toList_append rfl _) _
      obtain rfl := Option.some.inj (hassigned.symm.trans hhead)
      revert hc
      decide

/-! ## Where the two sides agree -/

/-- **Where the two sides agree**: a text that is made from what is pressed is read as this, unless
it is a key past the twelfth of the function keys; and a conflict is reported exactly where another
action has the hotkey, unless one has it and none has its very text. -/
theorem agree_iff (e : KeyboardEvent) (shortcut : String) (s : ShortcutSection)
    (back : HotkeyState) (taken : String) (faults : Faults) (action : ShortcutAction)
    (newShortcut : String) :
    (formatShortcutForRust e = some shortcut →
      (Denotes shortcut e ↔ isPastF12 e.key = false)) ∧
    ((Reports (handleSave s back taken faults action newShortcut).1 ↔
        ∃ b, b ≠ action ∧ parse newShortcut = parse (s.shortcuts.get b)) ↔
      (∃ b, b ≠ action ∧ s.shortcuts.get b = newShortcut) ∨
        ∀ b, b ≠ action → parse newShortcut ≠ parse (s.shortcuts.get b)) := by
  refine ⟨denotes_formatShortcutForRust_iff, ?_⟩
  rw [reports_iff_conflict]
  constructor
  · intro h
    by_cases hsame : ∃ b, b ≠ action ∧ s.shortcuts.get b = newShortcut
    · exact .inl hsame
    · exact .inr fun b hb hparse ↦ hsame (h.mpr ⟨b, hb, hparse⟩)
  · rintro (⟨b, hb, rfl⟩ | hnone)
    · exact iff_of_true ⟨b, hb, rfl⟩ ⟨b, hb, rfl⟩
    · refine iff_of_false ?_ ?_
      · rintro ⟨b, hb, rfl⟩
        exact hnone b hb rfl
      · rintro ⟨b, hb, hparse⟩
        exact hnone b hb hparse

/-- The settings with the configuration there is when none has been saved. -/
def exampleSection : ShortcutSection := ⟨.default, some .dictate, none⟩

/-- Command and the first of the function keys. -/
theorem agree_iff_example : formatShortcutForRust ⟨"F1", true, false, false, false⟩ =
      some "Super+F1" ∧ Denotes "Super+F1" ⟨"F1", true, false, false, false⟩ :=
  ⟨rfl, ((agree_iff ⟨"F1", true, false, false, false⟩ "Super+F1" exampleSection (.start none) ""
    .none .dictate "Super+F1").1 rfl).mpr rfl⟩

/-- **A key that the back end does not know, and a shortcut of which the other text is taken.** -/
theorem not_agree :
    (∃ e shortcut, formatShortcutForRust e = some shortcut ∧ parse shortcut = none) ∧
    ∃ newShortcut back, newShortcut = "Super+Ctrl+Digit4" ∧
      parse newShortcut = parse (exampleSection.shortcuts.get .captureRegion) ∧
      ¬ Reports (handleSave exampleSection back "" .none .dictate newShortcut).1 := by
  refine ⟨⟨⟨"F20", true, false, false, false⟩, "Super+F20", rfl, rfl⟩, _, .start none, rfl, rfl, ?_⟩
  rw [reports_iff_conflict]
  rintro ⟨b, -, hb⟩
  revert hb
  cases b <;> decide

end WorkWithMe.Voice
