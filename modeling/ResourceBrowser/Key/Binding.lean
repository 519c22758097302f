import ResourceBrowser.Number.Decimal
import ResourceBrowser.Text.Quoted

/-!
# Keys

The keys of a terminal and what they are bound to. Terminals disagree on whether a capital letter
comes with the shift modifier, so a binding of a character key never has it: the character alone
tells. Bindings are read from texts such as `Ctrl-s`, `Shift-F` or `F1` and shown as `<ctrl-s>`,
`<shift-f>` or `<f1>`.
-/

namespace ResourceBrowser.Key

open Text Number

/-- A key for media. -/
inductive MediaKey where
  | play
  | pause
  | playPause
  | reverse
  | stop
  | fastForward
  | rewind
  | trackNext
  | trackPrevious
  | record
  | lowerVolume
  | raiseVolume
  | muteVolume
deriving DecidableEq, Repr

/-- A modifier as a key of its own. -/
inductive ModifierKey where
  | leftShift
  | leftControl
  | leftAlt
  | leftSuper
  | leftHyper
  | leftMeta
  | rightShift
  | rightControl
  | rightAlt
  | rightSuper
  | rightHyper
  | rightMeta
  | isoLevel3Shift
  | isoLevel5Shift
deriving DecidableEq, Repr

/-- A key. -/
inductive Code where
  | char (c : Char)
  | function (n : Nat)
  | enter
  | esc
  | tab
  | backTab
  | backspace
  | delete
  | insert
  | up
  | down
  | left
  | right
  | home
  | last
  | pageUp
  | pageDown
  | null
  | capsLock
  | scrollLock
  | numLock
  | printScreen
  | pause
  | menu
  | keypadBegin
  | media (key : MediaKey)
  | modifier (key : ModifierKey)
deriving DecidableEq, Repr, Inhabited

/-- The modifiers held down with a key. -/
structure Modifiers where
  shift : Bool := false
  control : Bool := false
  alt : Bool := false
  super : Bool := false
  hyper : Bool := false
  metaKey : Bool := false
deriving DecidableEq, Repr

/-- A key pressed with modifiers, as the terminal reports it. -/
structure Press where
  code : Code
  modifiers : Modifiers := {}
deriving DecidableEq, Repr

/-- The name of a key for media. -/
def MediaKey.name : MediaKey → String
  | .play => "Play"
  | .pause => "Pause"
  | .playPause => "PlayPause"
  | .reverse => "Reverse"
  | .stop => "Stop"
  | .fastForward => "FastForward"
  | .rewind => "Rewind"
  | .trackNext => "TrackNext"
  | .trackPrevious => "TrackPrevious"
  | .record => "Record"
  | .lowerVolume => "LowerVolume"
  | .raiseVolume => "RaiseVolume"
  | .muteVolume => "MuteVolume"

/-- The name of a modifier as a key. -/
def ModifierKey.name : ModifierKey → String
  | .leftShift => "LeftShift"
  | .leftControl => "LeftControl"
  | .leftAlt => "LeftAlt"
  | .leftSuper => "LeftSuper"
  | .leftHyper => "LeftHyper"
  | .leftMeta => "LeftMeta"
  | .rightShift => "RightShift"
  | .rightControl => "RightControl"
  | .rightAlt => "RightAlt"
  | .rightSuper => "RightSuper"
  | .rightHyper => "RightHyper"
  | .rightMeta => "RightMeta"
  | .isoLevel3Shift => "IsoLevel3Shift"
  | .isoLevel5Shift => "IsoLevel5Shift"

namespace Code

/-- True for the keys that type a character. -/
def isChar : Code → Bool
  | .char _ => true
  | _ => false

/-- The name of a key in the text of a binding. -/
def name : Code → String
  | .char c =>
    if c = ' ' then "space"
    else if c.isUpper then "shift-" ++ .singleton c.toLower
    else .singleton c
  | .function n => "f" ++ toString n
  | .enter => "enter"
  | .esc => "esc"
  | .tab => "tab"
  | .backTab => "BackTab"
  | .backspace => "Backspace"
  | .delete => "Delete"
  | .insert => "Insert"
  | .up => "Up"
  | .down => "Down"
  | .left => "Left"
  | .right => "Right"
  | .home => "Home"
  | .last => "End"
  | .pageUp => "PageUp"
  | .pageDown => "PageDown"
  | .null => "Null"
  | .capsLock => "CapsLock"
  | .scrollLock => "ScrollLock"
  | .numLock => "NumLock"
  | .printScreen => "PrintScreen"
  | .pause => "Pause"
  | .menu => "Menu"
  | .keypadBegin => "KeypadBegin"
  | .media key => "Media(" ++ key.name ++ ")"
  | .modifier key => "Modifier(" ++ key.name ++ ")"

end Code

/-- A key with modifiers that an action can be bound to. -/
structure Binding where
  code : Code
  modifiers : Modifiers
  /-- A character key goes without shift. -/
  noShift : code.isChar = true → modifiers.shift = false
deriving DecidableEq, Repr

namespace Binding

/-- The binding of a key with modifiers. -/
def of (code : Code) (modifiers : Modifiers) : Binding :=
  { code
    modifiers := { modifiers with shift := modifiers.shift && !code.isChar }
    noShift := by intro h; simp [h] }

instance : Inhabited Binding := ⟨of .null {}⟩

/-- The binding that a key press stands for. -/
def ofPress (p : Press) : Binding := of p.code p.modifiers

/-- The binding of a character key. -/
def char (c : Char) : Binding := of (.char c) {}

/-- The binding of a letter key with shift. -/
def shift (c : Char) : Binding := char c.toUpper

/-- The binding of a character key with control. -/
def control (c : Char) : Binding := of (.char c) { control := true }

/-- The binding as it is shown. -/
def text (b : Binding) : String :=
  "<" ++ (if b.modifiers.control then "ctrl-" else "") ++
    (if b.modifiers.alt then "alt-" else "") ++ b.code.name ++ ">"

/-! ## Reading -/

/-- Adds the modifier with a name. -/
def addModifier? (m : Modifiers) (name : List Char) : Option Modifiers :=
  let name := name.map Char.toLower
  if name == "shift".toList then some { m with shift := true }
  else if name == "ctrl".toList then some { m with control := true }
  else if name == "alt".toList then some { m with alt := true }
  else none

/-- The bound on the numbers that function keys are read with. -/
def functionBound : Nat := 256

/-- The key with a name of several characters. -/
def namedCode? (name : List Char) : Option Code :=
  let name := name.map Char.toLower
  if name == "enter".toList then some .enter
  else if name == "esc".toList then some .esc
  else if name == "tab".toList then some .tab
  else if name == "space".toList then some (.char ' ')
  else match name with
    | 'f' :: digits => do
      let n ← readBelow? functionBound digits
      if 1 ≤ n && n ≤ 12 then some (.function n) else none
    | _ => none

/-- The key that the last part of a text names. -/
def code? (m : Modifiers) : List Char → Option Code
  | [] => none
  | [c] => some (.char (if m.shift && c.isAlpha then c.toUpper else c))
  | name => namedCode? name

/-- Reads a binding: names of modifiers, each followed by a dash, and a key. -/
def read? (text : String) : Option Binding := do
  let parts := splitAll '-' (trimChars text.toList)
  let key ← parts.getLast?
  let m ← parts.dropLast.foldlM addModifier? {}
  let code ← code? m key
  some (of code m)

end Binding

end ResourceBrowser.Key
