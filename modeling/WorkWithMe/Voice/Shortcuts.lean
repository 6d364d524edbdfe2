import Mathlib.Data.Finset.Basic
import WorkWithMe.Lib.JsonFile
import WorkWithMe.Lib.Machine

/-!
# The global hotkeys

`voice_shortcuts.rs` keeps a shortcut for each of five actions, as text.  What the text denotes is a
pair of modifiers and a key, and the pairs are what the system has registered; the texts are in
memory and in a file, from which `run` of `lib.rs` registers them when the program starts.  A pair
can be registered once only, and two different texts may denote the same pair.

`voice_set_shortcut` takes back the old registration, makes the new one, changes the configuration
in memory and saves it; each of the last three steps may be the end of the call, and nothing is ever
undone.

* `Matches` says that the registered pairs are those of the configuration, that there are five of
  them, and that the file holds the configuration, so that the next start succeeds.
* `voiceSetShortcut_cases` says what a call can do.
* `matches_iff_guarded`: all along a sequence of calls everything matches, and a call that fails
  changes nothing, if and only if no call asks for the pair of another action, and none fails to
  save.
* `not_matches_of_exec` is a call that does the former.
-/

set_option autoImplicit false

namespace WorkWithMe.Voice

open JsonFile

/-! ## Shortcuts -/

/-- The set of modifiers. -/
structure Modifiers where
  /-- `SUPER`. -/
  super : Bool
  /-- `SHIFT`. -/
  shift : Bool
  /-- `CONTROL`. -/
  control : Bool
  /-- `ALT`. -/
  alt : Bool
  deriving DecidableEq

/-- `Modifiers::empty`. -/
def Modifiers.empty : Modifiers := ⟨false, false, false, false⟩

/-- The keys that `parse_code` knows. -/
inductive Code where
  | space | enter | escape | tab
  | digit0 | digit1 | digit2 | digit3 | digit4 | digit5 | digit6 | digit7 | digit8 | digit9
  | keyA | keyB | keyC | keyD | keyE | keyF | keyG | keyH | keyI | keyJ | keyK | keyL | keyM
  | keyN | keyO | keyP | keyQ | keyR | keyS | keyT | keyU | keyV | keyW | keyX | keyY | keyZ
  | f1 | f2 | f3 | f4 | f5 | f6 | f7 | f8 | f9 | f10 | f11 | f12
  deriving DecidableEq

/-- What a shortcut denotes. -/
abbrev Hotkey := Modifiers × Code

/-- The spellings of the keys. -/
def codes : List (String × Code) :=
  [("Space", .space), ("Enter", .enter), ("Return", .enter), ("Escape", .escape),
    ("Esc", .escape), ("Tab", .tab),
    ("0", .digit0), ("Digit0", .digit0), ("1", .digit1), ("Digit1", .digit1),
    ("2", .digit2), ("Digit2", .digit2), ("3", .digit3), ("Digit3", .digit3),
    ("4", .digit4), ("Digit4", .digit4), ("5", .digit5), ("Digit5", .digit5),
    ("6", .digit6), ("Digit6", .digit6), ("7", .digit7), ("Digit7", .digit7),
    ("8", .digit8), ("Digit8", .digit8), ("9", .digit9), ("Digit9", .digit9),
    ("A", .keyA), ("a", .keyA), ("KeyA", .keyA), ("B", .keyB), ("b", .keyB), ("KeyB", .keyB),
    ("C", .keyC), ("c", .keyC), ("KeyC", .keyC), ("D", .keyD), ("d", .keyD), ("KeyD", .keyD),
    ("E", .keyE), ("e", .keyE), ("KeyE", .keyE), ("F", .keyF), ("f", .keyF), ("KeyF", .keyF),
    ("G", .keyG), ("g", .keyG), ("KeyG", .keyG), ("H", .keyH), ("h", .keyH), ("KeyH", .keyH),
    ("I", .keyI), ("i", .keyI), ("KeyI", .keyI), ("J", .keyJ), ("j", .keyJ), ("KeyJ", .keyJ),
    ("K", .keyK), ("k", .keyK), ("KeyK", .keyK), ("L", .keyL), ("l", .keyL), ("KeyL", .keyL),
    ("M", .keyM), ("m", .keyM), ("KeyM", .keyM), ("N", .keyN), ("n", .keyN), ("KeyN", .keyN),
    ("O", .keyO), ("o", .keyO), ("KeyO", .keyO), ("P", .keyP), ("p", .keyP), ("KeyP", .keyP),
    ("Q", .keyQ), ("q", .keyQ), ("KeyQ", .keyQ), ("R", .keyR), ("r", .keyR), ("KeyR", .keyR),
    ("S", .keyS), ("s", .keyS), ("KeyS", .keyS), ("T", .keyT), ("t", .keyT), ("KeyT", .keyT),
    ("U", .keyU), ("u", .keyU), ("KeyU", .keyU), ("V", .keyV), ("v", .keyV), ("KeyV", .keyV),
    ("W", .keyW), ("w", .keyW), ("KeyW", .keyW), ("X", .keyX), ("x", .keyX), ("KeyX", .keyX),
    ("Y", .keyY), ("y", .keyY), ("KeyY", .keyY), ("Z", .keyZ), ("z", .keyZ), ("KeyZ", .keyZ),
    ("F1", .f1), ("F2", .f2), ("F3", .f3), ("F4", .f4), ("F5", .f5), ("F6", .f6), ("F7", .f7),
    ("F8", .f8), ("F9", .f9), ("F10", .f10), ("F11", .f11), ("F12", .f12)]

/-- `parse_code`. -/
def parseCode (key : String) : Option Code := codes.lookup key

/-- A modifier is added; an unknown one is an error. -/
def addModifier (mods : Modifiers) (part : String) : Option Modifiers :=
  if part ∈ ["Super", "Cmd", "Command"] then some { mods with super := true }
  else if part = "Shift" then some { mods with shift := true }
  else if part ∈ ["Ctrl", "Control"] then some { mods with control := true }
  else if part ∈ ["Alt", "Option"] then some { mods with alt := true }
  else none

/-- `parse`: the last part is the key, and the others are modifiers. -/
def parse (shortcut : String) : Option Hotkey :=
  let parts := (shortcut.toList.splitOn '+').map String.ofList
  parts.getLast?.bind fun key ↦
    (parts.dropLast.foldlM addModifier Modifiers.empty).bind fun mods ↦
      (parseCode key).map fun code ↦ (mods, code)

/-! ## The configuration -/

/-- The five actions. -/
inductive ShortcutAction where
  | dictate | captureRegion | captureWindow | screenRecording | newMeeting
  deriving DecidableEq

/-- The action that a name stands for. -/
def shortcutAction (action : String) : Option ShortcutAction :=
  [("dictate", ShortcutAction.dictate), ("capture_region", .captureRegion),
    ("capture_window", .captureWindow), ("screen_recording", .screenRecording),
    ("new_meeting", .newMeeting)].lookup action

/-- The shortcuts, one for each action. -/
structure ShortcutsConfig where
  /-- Start or stop dictating. -/
  dictate : String
  /-- Capture a region of the screen. -/
  captureRegion : String
  /-- Capture a window. -/
  captureWindow : String
  /-- Record the screen. -/
  screenRecording : String
  /-- Start a meeting. -/
  newMeeting : String
  deriving DecidableEq

namespace ShortcutsConfig

/-- The configuration there is when none has been saved. -/
def default : ShortcutsConfig where
  dictate := "Super+Shift+Space"
  captureRegion := "Super+Ctrl+4"
  captureWindow := "Super+Ctrl+5"
  screenRecording := "Super+Ctrl+6"
  newMeeting := "Super+Ctrl+7"

/-- The shortcut of an action. -/
def get (c : ShortcutsConfig) : ShortcutAction → String
  | .dictate => c.dictate
  | .captureRegion => c.captureRegion
  | .captureWindow => c.captureWindow
  | .screenRecording => c.screenRecording
  | .newMeeting => c.newMeeting

/-- The configuration with another shortcut for an action. -/
def set (c : ShortcutsConfig) (a : ShortcutAction) (shortcut : String) : ShortcutsConfig :=
  match a with
  | .dictate => { c with dictate := shortcut }
  | .captureRegion => { c with captureRegion := shortcut }
  | .captureWindow => { c with captureWindow := shortcut }
  | .screenRecording => { c with screenRecording := shortcut }
  | .newMeeting => { c with newMeeting := shortcut }

variable (c : ShortcutsConfig) (a b : ShortcutAction) (shortcut : String)

@[simp] theorem get_set_self : (c.set a shortcut).get a = shortcut := by
  cases a <;> rfl

theorem get_set : (c.set a shortcut).get b = if b = a then shortcut else c.get b := by
  cases a <;> cases b <;> rfl

end ShortcutsConfig

/-- `load`: a file that is not there, or that does not hold a configuration, is `none`. -/
def load (file : Option ShortcutsConfig) : ShortcutsConfig := file.getD .default

/-- `save`. -/
def save (f : Faults) (config : ShortcutsConfig) (file : Option ShortcutsConfig) :
    Except String Unit × Option ShortcutsConfig :=
  match f.dir, f.write with
  | some e, _ => (.error ("create dir: " ++ e), file)
  | none, some e => (.error ("write shortcuts: " ++ e), file)
  | none, none => (.ok (), some config)

/-! ## The registrations -/

/-- `unregister`: the pair is not registered afterwards. -/
def unregister (shortcut : String) (registered : Finset Hotkey) : Finset Hotkey :=
  (parse shortcut).elim registered registered.erase

/-- `register`: it fails when the pair is registered already, with a text of the plugin. -/
def register (taken : String) (registered : Finset Hotkey) (shortcut : String) :
    Except String (Finset Hotkey) :=
  match parse shortcut with
  | none => .error taken
  | some hotkey => if hotkey ∈ registered then .error taken else .ok (insert hotkey registered)

/-- The five actions, in the order in which `run` registers their hotkeys. -/
def ShortcutAction.all : List ShortcutAction :=
  [.dictate, .captureRegion, .captureWindow, .screenRecording, .newMeeting]

/-- The registrations of `run`: the first that fails ends the start. -/
def startUp (taken : String) (config : ShortcutsConfig) : Except String (Finset Hotkey) :=
  (ShortcutAction.all.map config.get).foldlM (register taken) ∅

/-! ## The command -/

/-- The three copies of the configuration. -/
structure HotkeyState where
  /-- What the system has registered. -/
  registered : Finset Hotkey
  /-- The configuration in memory. -/
  memory : ShortcutsConfig
  /-- The configuration in the file. -/
  file : Option ShortcutsConfig
  deriving DecidableEq

/-- A call of `voice_set_shortcut`, with what the environment contributes to it. -/
structure SetShortcut where
  /-- The name of the action. -/
  action : String
  /-- The shortcut it shall have. -/
  shortcut : String
  /-- What the plugin says of a pair that is registered already. -/
  taken : String
  /-- The file operations of `save` that fail. -/
  faults : Faults

/-- `voice_set_shortcut`. -/
def voiceSetShortcut (s : HotkeyState) (call : SetShortcut) : Except String Unit × HotkeyState :=
  if parse call.shortcut = none then
    (.error ("cannot parse shortcut '" ++ call.shortcut ++ "'"), s)
  else match shortcutAction call.action with
    | none => (.error ("unknown shortcut action '" ++ call.action ++ "'"), s)
    | some a =>
      if s.memory.get a = call.shortcut then (.ok (), s)
      else
        let registered := unregister (s.memory.get a) s.registered
        match register call.taken registered call.shortcut with
        | .error e => (.error ("register shortcut: " ++ e), { s with registered })
        | .ok registered =>
          let memory := s.memory.set a call.shortcut
          let saved := save call.faults memory s.file
          (saved.1, ⟨registered, memory, saved.2⟩)

/-- A call, as a step. -/
def shortcutStep (s : HotkeyState) (call : SetShortcut) : Option HotkeyState :=
  some (voiceSetShortcut s call).2

/-- The default configuration, with all of its hotkeys registered. -/
def HotkeyState.start (file : Option ShortcutsConfig) : HotkeyState where
  registered := ((ShortcutAction.all.map ShortcutsConfig.default.get).filterMap parse).toFinset
  memory := .default
  file := file

/-! ## The law -/

/-- **The three copies agree.** -/
structure Matches (s : HotkeyState) : Prop where
  /-- Every shortcut can be parsed. -/
  parsed : ∀ a, ∃ hotkey, parse (s.memory.get a) = some hotkey
  /-- No two actions have the same hotkey. -/
  distinct : ∀ a b, parse (s.memory.get a) = parse (s.memory.get b) → a = b
  /-- What is registered is what is configured. -/
  registered : ∀ hotkey, hotkey ∈ s.registered ↔ ∃ a, parse (s.memory.get a) = some hotkey
  /-- The file holds what is in memory. -/
  saved : load s.file = s.memory
  /-- The registrations at the next start succeed. -/
  starts : ∀ taken, ∃ registered, startUp taken (load s.file) = .ok registered

/-- A call that fails changes nothing. -/
def FailsUnchanged (s : HotkeyState) (call : SetShortcut) : Prop :=
  ∀ e, (voiceSetShortcut s call).1 = .error e → (voiceSetShortcut s call).2 = s

/-- **The condition on a call**: a shortcut that is changed is changed to one that denotes the
hotkey of no other action, and then `save` succeeds. -/
def Allowed (s : HotkeyState) (call : SetShortcut) : Prop :=
  ∀ a hotkey, shortcutAction call.action = some a → parse call.shortcut = some hotkey →
    s.memory.get a ≠ call.shortcut →
      (∀ b, b ≠ a → parse (s.memory.get b) ≠ some hotkey) ∧
        call.faults.dir = none ∧ call.faults.write = none

/-! ## The start of the program -/

/-- Registering pairs that are all different, and none of them registered. -/
theorem exists_foldlM_register {taken : String} {shortcuts : List String} {hotkeys : List Hotkey}
    (hparse : shortcuts.map parse = hotkeys.map some) (hnodup : hotkeys.Nodup)
    {registered : Finset Hotkey} (hnew : ∀ h ∈ hotkeys, h ∉ registered) :
    ∃ registered', shortcuts.foldlM (register taken) registered = .ok registered' := by
  induction shortcuts generalizing hotkeys registered with
  | nil => exact ⟨registered, rfl⟩
  | cons shortcut shortcuts ih =>
    obtain _ | ⟨h, hotkeys⟩ := hotkeys
    · cases hparse
    obtain ⟨hhead, htail⟩ := List.cons.inj hparse
    obtain ⟨hh, hnodup⟩ := List.nodup_cons.mp hnodup
    have hreg : register taken registered shortcut = .ok (insert h registered) := by
      rw [register, hhead]
      exact if_neg (hnew h List.mem_cons_self)
    have hnew' : ∀ j ∈ hotkeys, j ∉ insert h registered := by
      intro j hj
      rw [Finset.mem_insert, not_or]
      exact ⟨fun hjh ↦ hh (hjh ▸ hj), hnew j (List.mem_cons_of_mem h hj)⟩
    obtain ⟨registered', hrest⟩ := ih htail hnodup hnew'
    refine ⟨registered', ?_⟩
    rw [List.foldlM_cons, hreg]
    exact hrest

/-- **The program starts** when the five shortcuts denote five different hotkeys. -/
theorem exists_startUp_eq_ok {c : ShortcutsConfig}
    (hparsed : ∀ a, ∃ hotkey, parse (c.get a) = some hotkey)
    (hdistinct : ∀ a b, parse (c.get a) = parse (c.get b) → a = b) (taken : String) :
    ∃ registered, startUp taken c = .ok registered := by
  choose hotkey hhotkey using hparsed
  have hinj : Function.Injective hotkey := by
    intro a b hab
    exact hdistinct a b (by rw [hhotkey, hhotkey, hab])
  have hparse : (ShortcutAction.all.map c.get).map parse =
      (ShortcutAction.all.map hotkey).map some := by
    rw [List.map_map, List.map_map]
    exact List.map_congr_left fun a _ ↦ hhotkey a
  exact exists_foldlM_register hparse (List.Nodup.map hinj (by decide))
    fun h _ ↦ Finset.notMem_empty h

/-! ## What a call can do -/

/-- **What a call can do**: nothing; or take back a registration and fail; or take it back, make
the new one, change the configuration in memory, and save it or not. -/
theorem voiceSetShortcut_cases (s : HotkeyState) (call : SetShortcut) :
    (∃ r, voiceSetShortcut s call = (r, s) ∧ Allowed s call) ∨
      ∃ a hotkey, shortcutAction call.action = some a ∧ parse call.shortcut = some hotkey ∧
        s.memory.get a ≠ call.shortcut ∧
        ((hotkey ∈ unregister (s.memory.get a) s.registered ∧
            ∃ e, voiceSetShortcut s call =
              (.error e, { s with registered := unregister (s.memory.get a) s.registered })) ∨
          (hotkey ∉ unregister (s.memory.get a) s.registered ∧
            voiceSetShortcut s call =
              ((save call.faults (s.memory.set a call.shortcut) s.file).1,
                ⟨insert hotkey (unregister (s.memory.get a) s.registered),
                  s.memory.set a call.shortcut,
                  (save call.faults (s.memory.set a call.shortcut) s.file).2⟩))) := by
  unfold voiceSetShortcut
  by_cases hparse : parse call.shortcut = none
  · rw [if_pos hparse]
    refine Or.inl ⟨_, rfl, fun a hotkey _ hh ↦ ?_⟩
    rw [hparse] at hh
    cases hh
  rw [if_neg hparse]
  obtain ⟨hotkey, hhotkey⟩ := Option.ne_none_iff_exists'.mp hparse
  cases ha : shortcutAction call.action with
  | none =>
    refine Or.inl ⟨_, rfl, fun a hotkey ha' ↦ ?_⟩
    rw [ha] at ha'
    cases ha'
  | some a =>
    dsimp only
    by_cases hsame : s.memory.get a = call.shortcut
    · rw [if_pos hsame]
      refine Or.inl ⟨_, rfl, fun b hotkey hb _ hne ↦ ?_⟩
      obtain rfl := Option.some.inj (ha.symm.trans hb)
      exact absurd hsame hne
    · rw [if_neg hsame, register, hhotkey]
      refine Or.inr ⟨a, hotkey, rfl, rfl, hsame, ?_⟩
      dsimp only
      by_cases hmem : hotkey ∈ unregister (s.memory.get a) s.registered
      · rw [if_pos hmem]
        exact Or.inl ⟨hmem, _, rfl⟩
      · rw [if_neg hmem]
        exact Or.inr ⟨hmem, rfl⟩

/-- **What `save` can do**: write, or nothing. -/
theorem save_cases (f : Faults) (config : ShortcutsConfig) (file : Option ShortcutsConfig) :
    (f.dir = none ∧ f.write = none ∧ save f config file = (.ok (), some config)) ∨
      (¬ (f.dir = none ∧ f.write = none) ∧ ∃ e, save f config file = (.error e, file)) := by
  unfold save
  cases f.dir with
  | some e => exact Or.inr ⟨by simp, _, rfl⟩
  | none =>
    cases f.write with
    | some e => exact Or.inr ⟨by simp, _, rfl⟩
    | none => exact Or.inl ⟨rfl, rfl, rfl⟩

section Step

variable {s : HotkeyState} {call : SetShortcut} {a : ShortcutAction} {hotkey : Hotkey}

/-- When the old registration has been taken back, the hotkeys of the other actions are left. -/
theorem Matches.mem_unregister (h : Matches s) :
    hotkey ∈ unregister (s.memory.get a) s.registered ↔
      ∃ b, b ≠ a ∧ parse (s.memory.get b) = some hotkey := by
  obtain ⟨old, hold⟩ := h.parsed a
  rw [unregister, hold, Option.elim_some, Finset.mem_erase, h.registered]
  constructor
  · rintro ⟨hne, b, hb⟩
    refine ⟨b, fun hba ↦ hne ?_, hb⟩
    rw [hba, hold] at hb
    exact (Option.some.inj hb).symm
  · rintro ⟨b, hba, hb⟩
    refine ⟨fun hh ↦ hba (h.distinct b a ?_), b, hb⟩
    rw [hb, hold, hh]

/-- An action gets a hotkey that no other action has, and the configuration is saved. -/
theorem Matches.set (h : Matches s) (hhotkey : parse call.shortcut = some hotkey)
    (hnew : ∀ b, b ≠ a → parse (s.memory.get b) ≠ some hotkey) :
    Matches ⟨insert hotkey (unregister (s.memory.get a) s.registered),
      s.memory.set a call.shortcut, some (s.memory.set a call.shortcut)⟩ := by
  have hparsed : ∀ b, ∃ k, parse ((s.memory.set a call.shortcut).get b) = some k := by
    intro b
    rw [ShortcutsConfig.get_set]
    split
    · exact ⟨hotkey, hhotkey⟩
    · exact h.parsed b
  have hdistinct : ∀ b c, parse ((s.memory.set a call.shortcut).get b) =
      parse ((s.memory.set a call.shortcut).get c) → b = c := by
    intro b c hbc
    simp only [ShortcutsConfig.get_set] at hbc
    by_cases hb : b = a
    · by_cases hc : c = a
      · exact hb.trans hc.symm
      · rw [if_pos hb, if_neg hc, hhotkey] at hbc
        exact absurd hbc.symm (hnew c hc)
    · by_cases hc : c = a
      · rw [if_neg hb, if_pos hc, hhotkey] at hbc
        exact absurd hbc (hnew b hb)
      · rw [if_neg hb, if_neg hc] at hbc
        exact h.distinct b c hbc
  refine ⟨hparsed, hdistinct, fun k ↦ ?_, rfl, exists_startUp_eq_ok hparsed hdistinct⟩
  dsimp only
  rw [Finset.mem_insert, h.mem_unregister]
  constructor
  · rintro (rfl | ⟨b, hba, hb⟩)
    · exact ⟨a, by rw [ShortcutsConfig.get_set_self, hhotkey]⟩
    · exact ⟨b, by rw [ShortcutsConfig.get_set, if_neg hba, hb]⟩
  · rintro ⟨b, hb⟩
    rw [ShortcutsConfig.get_set] at hb
    split at hb
    · rw [hhotkey] at hb
      exact Or.inl (Option.some.inj hb).symm
    · rename_i hba
      exact Or.inr ⟨b, hba, hb⟩

/-- **A call obeys the law if and only if it is allowed**, where everything matches. -/
theorem matches_voiceSetShortcut_iff (h : Matches s) :
    Matches (voiceSetShortcut s call).2 ∧ FailsUnchanged s call ↔ Allowed s call := by
  rw [FailsUnchanged]
  obtain ⟨r, hr, hallowed⟩ | ⟨a, hotkey, ha, hhotkey, hne, hcases⟩ := voiceSetShortcut_cases s call
  · rw [hr]
    exact iff_of_true ⟨h, fun _ _ ↦ rfl⟩ hallowed
  obtain ⟨hmem, e, he⟩ | ⟨hmem, hok⟩ := hcases
  · -- the hotkey is that of another action, and the old one is lost
    rw [he]
    refine iff_of_false (fun hlaw ↦ ?_) fun hallowed ↦ ?_
    · obtain ⟨old, hold⟩ := h.parsed a
      have hlost : unregister (s.memory.get a) s.registered = s.registered :=
        congrArg HotkeyState.registered (hlaw.2 e rfl)
      rw [unregister, hold, Option.elim_some, Finset.erase_eq_self] at hlost
      exact hlost ((h.registered old).mpr ⟨a, hold⟩)
    · obtain ⟨b, hba, hb⟩ := h.mem_unregister.mp hmem
      exact (hallowed a hotkey ha hhotkey hne).1 b hba hb
  · have hnew : ∀ b, b ≠ a → parse (s.memory.get b) ≠ some hotkey :=
      fun b hba hb ↦ hmem (h.mem_unregister.mpr ⟨b, hba, hb⟩)
    rw [hok]
    obtain ⟨hdir, hwrite, hsave⟩ | ⟨hfault, e, hsave⟩ :=
      save_cases call.faults (s.memory.set a call.shortcut) s.file
    · rw [hsave]
      refine iff_of_true ⟨h.set hhotkey hnew, fun e he ↦ nomatch he⟩ ?_
      intro b k hb hk _
      obtain rfl := Option.some.inj (ha.symm.trans hb)
      obtain rfl := Option.some.inj (hhotkey.symm.trans hk)
      exact ⟨hnew, hdir, hwrite⟩
    · -- the configuration is changed in memory and not in the file
      rw [hsave]
      refine iff_of_false (fun hlaw ↦ ?_) fun hallowed ↦ ?_
      · have hmemory : s.memory.set a call.shortcut = s.memory :=
          congrArg HotkeyState.memory (hlaw.2 e rfl)
        have hget := ShortcutsConfig.get_set_self s.memory a call.shortcut
        rw [hmemory] at hget
        exact hne hget
      · exact hfault (hallowed a hotkey ha hhotkey hne).2

end Step

/-! ## The law over runs -/

theorem matches_start {file : Option ShortcutsConfig} (hfile : load file = .default) :
    Matches (.start file) := by
  have hparsed : ∀ a, ∃ hotkey, parse (ShortcutsConfig.default.get a) = some hotkey := by
    intro a
    rw [← Option.isSome_iff_exists]
    cases a <;> decide
  have hdistinct : ∀ a b, parse (ShortcutsConfig.default.get a) =
      parse (ShortcutsConfig.default.get b) → a = b := by
    intro a b
    cases a <;> cases b <;> decide
  refine ⟨hparsed, hdistinct, fun hotkey ↦ ?_, hfile, fun taken ↦ ?_⟩
  · have hall : ∀ a, a ∈ ShortcutAction.all := fun a ↦ by cases a <;> decide
    simp [HotkeyState.start, hall]
  · rw [HotkeyState.start, hfile]
    exact exists_startUp_eq_ok hparsed hdistinct taken

/-- **The copies agree all along a run, and a call that fails changes nothing**, if and only if
every call is allowed. -/
theorem matches_iff_guarded {file : Option ShortcutsConfig} (hfile : load file = .default)
    (calls : List SetShortcut) :
    ((∀ pre post s, calls = pre ++ post → Machine.exec shortcutStep (.start file) pre = some s →
        Matches s) ∧
      ∀ pre call post s, calls = pre ++ call :: post →
        Machine.exec shortcutStep (.start file) pre = some s → FailsUnchanged s call) ↔
      Machine.Guarded shortcutStep Allowed (.start file) calls := by
  obtain ⟨final, hrun⟩ : ∃ final, Machine.exec shortcutStep (.start file) calls = some final :=
    Machine.exists_exec_eq_some (fun _ _ ↦ ⟨_, rfl⟩) _ calls
  have htrue : Machine.Guarded shortcutStep (fun _ _ ↦ True) (.start file) calls :=
    Machine.guarded_of_forall_mem (fun _ _ _ ↦ trivial) _
  refine Machine.inv_and_law_iff_guarded (fun s call t h _ ht ↦ ?_) (matches_start hfile) htrue hrun
  obtain rfl := Option.some.inj ht
  exact matches_voiceSetShortcut_iff h

/-- From a first start, with one call: the shortcut for dictating is spelled in another way. -/
theorem matches_iff_guarded_example :
    load none = .default ∧
      (((∀ pre post s, [SetShortcut.mk "dictate" "Cmd+Shift+Space" "" .none] = pre ++ post →
          Machine.exec shortcutStep (.start none) pre = some s → Matches s) ∧
        ∀ pre call post s, [SetShortcut.mk "dictate" "Cmd+Shift+Space" "" .none] =
            pre ++ call :: post →
          Machine.exec shortcutStep (.start none) pre = some s → FailsUnchanged s call) ↔
        Machine.Guarded shortcutStep Allowed (.start none)
          [SetShortcut.mk "dictate" "Cmd+Shift+Space" "" .none]) :=
  ⟨rfl, matches_iff_guarded rfl _⟩

/-- **The law fails without the condition.**  The hotkey for dictating is asked for a capture of a
region: the call fails, and the capture has no hotkey any more. -/
theorem not_matches_of_exec :
    ¬ ∀ (calls : List SetShortcut) (s : HotkeyState),
      Machine.exec shortcutStep (.start none) calls = some s → Matches s := by
  intro hall
  have h := hall [⟨"capture_region", "Super+Shift+Space", "already registered", .none⟩] _ rfl
  obtain ⟨hotkey, hhotkey⟩ := h.parsed .captureRegion
  have hmem := (h.registered hotkey).mpr ⟨.captureRegion, hhotkey⟩
  revert hotkey
  decide

end WorkWithMe.Voice
