import Facet.Input

/-!
# Key codes

The physical keys of a keyboard by the names that window systems give them, whatever is printed
on the caps. A key that the viewer does not tell apart is known by its place in this table.
-/

namespace Facet

/-- The names of the physical keys, in the order of their codes. -/
def keyCodeNames : List String :=
  [ "Backquote", "Backslash", "BracketLeft", "BracketRight", "Comma", "Digit0", "Digit1",
    "Digit2", "Digit3", "Digit4", "Digit5", "Digit6", "Digit7", "Digit8", "Digit9", "Equal",
    "IntlBackslash", "IntlRo", "IntlYen", "KeyA", "KeyB", "KeyC", "KeyD", "KeyE", "KeyF", "KeyG",
    "KeyH", "KeyI", "KeyJ", "KeyK", "KeyL", "KeyM", "KeyN", "KeyO", "KeyP", "KeyQ", "KeyR",
    "KeyS", "KeyT", "KeyU", "KeyV", "KeyW", "KeyX", "KeyY", "KeyZ", "Minus", "Period", "Quote",
    "Semicolon", "Slash", "AltLeft", "AltRight", "Backspace", "CapsLock", "ContextMenu",
    "ControlLeft", "ControlRight", "Enter", "SuperLeft", "SuperRight", "ShiftLeft", "ShiftRight",
    "Space", "Tab", "Convert", "KanaMode", "Lang1", "Lang2", "Lang3", "Lang4", "Lang5",
    "NonConvert", "Delete", "End", "Help", "Home", "Insert", "PageDown", "PageUp", "ArrowDown",
    "ArrowLeft", "ArrowRight", "ArrowUp", "NumLock", "Numpad0", "Numpad1", "Numpad2", "Numpad3",
    "Numpad4", "Numpad5", "Numpad6", "Numpad7", "Numpad8", "Numpad9", "NumpadAdd",
    "NumpadBackspace", "NumpadClear", "NumpadClearEntry", "NumpadComma", "NumpadDecimal",
    "NumpadDivide", "NumpadEnter", "NumpadEqual", "NumpadHash", "NumpadMemoryAdd",
    "NumpadMemoryClear", "NumpadMemoryRecall", "NumpadMemoryStore", "NumpadMemorySubtract",
    "NumpadMultiply", "NumpadParenLeft", "NumpadParenRight", "NumpadStar", "NumpadSubtract",
    "Escape", "Fn", "FnLock", "PrintScreen", "ScrollLock", "Pause", "BrowserBack",
    "BrowserFavorites", "BrowserForward", "BrowserHome", "BrowserRefresh", "BrowserSearch",
    "BrowserStop", "Eject", "LaunchApp1", "LaunchApp2", "LaunchMail", "MediaPlayPause",
    "MediaSelect", "MediaStop", "MediaTrackNext", "MediaTrackPrevious", "Power", "Sleep",
    "AudioVolumeDown", "AudioVolumeMute", "AudioVolumeUp", "WakeUp", "Meta", "Hyper", "Turbo",
    "Abort", "Resume", "Suspend", "Again", "Copy", "Cut", "Find", "Open", "Paste", "Props",
    "Select", "Undo", "Hiragana", "Katakana", "F1", "F2", "F3", "F4", "F5", "F6", "F7", "F8",
    "F9", "F10", "F11", "F12", "F13", "F14", "F15", "F16", "F17", "F18", "F19", "F20", "F21",
    "F22", "F23", "F24", "F25", "F26", "F27", "F28", "F29", "F30", "F31", "F32", "F33", "F34",
    "F35" ]

/-- A physical key, by its place in the table. -/
structure KeyCode where
  index : Nat
deriving DecidableEq, Repr

namespace KeyCode

/-- The physical key of a name, if the table has it. -/
def ofName? (name : String) : Option KeyCode := (keyCodeNames.idxOf? name).map KeyCode.mk

/-- The code of the letter A; the other letters follow it. -/
def letterA : Nat := 19

end KeyCode

/-- The key on a physical key: a letter, a key that has the same name, or its code. -/
def Key.ofCode (code : KeyCode) : Key :=
  if h : KeyCode.letterA ≤ code.index ∧ code.index < KeyCode.letterA + 26 then
    .letter ⟨code.index - KeyCode.letterA, by omega⟩
  else
    ((keyCodeNames[code.index]?).bind Key.ofName?).getD (.other (UInt32.ofNat code.index))

/-- The key of a physical key that the window system may not have identified. -/
def Key.ofPhysical : Option KeyCode → Key
  | some code => Key.ofCode code
  | none => .other 0

end Facet
