import Mathlib.Data.Fintype.Basic
import Mathlib.Logic.Function.Basic

/-!
# Keys, axes and the key map

The enumerations of `types.h` and its compile-time tables. The engine handles the four movement keys only: they are what the
keyboard hook recognises (`ScanToKeyIndex`) and what every per-key array of the engine is read at. `Mouse1` has a slot in
the injection boundary and a timer slot, so `Key` is a movement key or `Mouse1`.
-/

namespace MarcoEngine

/-- The movement keys of `enum class Key`, in the order of the enum. -/
inductive MoveKey where
  | W | S | A | D
  deriving DecidableEq, Repr

/-- `enum class Key`: a movement key or the left mouse button. -/
inductive Key where
  | move (k : MoveKey)
  | Mouse1
  deriving DecidableEq, Repr

/-- `enum class Axis`. -/
inductive Axis where
  | X | Y
  deriving DecidableEq, Repr

/-- `enum class AxisState`: which keys of the axis are physically down. -/
inductive AxisState where
  | none | positive | negative | conflict
  deriving DecidableEq, Repr

/-- `enum class AxisDir`. -/
inductive AxisDir where
  | none | positive | negative
  deriving DecidableEq, Repr

/-- `enum class ReleaseReason`: the two reasons `HandleKeyUp` tells apart. -/
inductive ReleaseReason where
  | normal | conflict
  deriving DecidableEq, Repr

/-- `enum class SocdMode`: what the engine does with two opposing keys. A value cast from an integer need not be one of the three
enumerators. -/
inductive SocdMode where
  | full | humanized | off
  | unlisted (value : { n : Int // n ≠ 0 ∧ n ≠ 1 ∧ n ≠ 2 })
  deriving DecidableEq, Repr

/-- `static_cast<int>` of a mode. -/
def SocdMode.toInt : SocdMode → Int
  | .full => 0
  | .humanized => 1
  | .off => 2
  | .unlisted value => value

namespace MoveKey

/-- The keys in the order of the enum, the order of every loop over them. -/
def all : List MoveKey := [.W, .S, .A, .D]

/-- `keymap::Opposite`. -/
def opposite : MoveKey → MoveKey
  | .W => .S
  | .S => .W
  | .A => .D
  | .D => .A

/-- `keymap::KeyAxis`. -/
def axis : MoveKey → Axis
  | .W | .S => .Y
  | .A | .D => .X

/-- `keymap::ScanCode`: the Windows Set 1 scan codes. -/
def scanCode : MoveKey → Nat
  | .W => 0x11
  | .S => 0x1F
  | .A => 0x1E
  | .D => 0x20

@[simp] theorem mem_all (k : MoveKey) : k ∈ all := by cases k <;> decide

theorem nodup_all : all.Nodup := by decide

instance : Fintype MoveKey := ⟨⟨all, nodup_all⟩, mem_all⟩

@[simp] theorem opposite_opposite (k : MoveKey) : k.opposite.opposite = k := by cases k <;> rfl

@[simp] theorem opposite_ne (k : MoveKey) : k.opposite ≠ k := by cases k <;> decide

@[simp] theorem ne_opposite (k : MoveKey) : k ≠ k.opposite := by cases k <;> decide

@[simp] theorem axis_opposite (k : MoveKey) : k.opposite.axis = k.axis := by cases k <;> rfl

/-- Two keys of one axis are the same key or opposite keys. -/
theorem eq_or_eq_opposite {j k : MoveKey} (h : j.axis = k.axis) : j = k ∨ j = k.opposite := by
  cases j <;> cases k <;> simp_all [axis, opposite]

end MoveKey

/-- `keymap::SpaceScanCode`. -/
def spaceScanCode : Nat := 0x39

namespace Axis

instance : Fintype Axis := ⟨⟨([.X, .Y] : List Axis), by decide⟩, by intro ax; cases ax <;> decide⟩

/-- `keymap::AxisPosKey`. -/
def posKey : Axis → MoveKey
  | .X => .D
  | .Y => .W

/-- `keymap::AxisNegKey`. -/
def negKey : Axis → MoveKey
  | .X => .A
  | .Y => .S

/-- The other axis. -/
def orthogonal : Axis → Axis
  | .X => .Y
  | .Y => .X

@[simp] theorem axis_posKey (ax : Axis) : ax.posKey.axis = ax := by cases ax <;> rfl

@[simp] theorem axis_negKey (ax : Axis) : ax.negKey.axis = ax := by cases ax <;> rfl

@[simp] theorem opposite_posKey (ax : Axis) : ax.posKey.opposite = ax.negKey := by cases ax <;> rfl

@[simp] theorem opposite_negKey (ax : Axis) : ax.negKey.opposite = ax.posKey := by cases ax <;> rfl

@[simp] theorem posKey_ne_negKey (ax : Axis) : ax.posKey ≠ ax.negKey := by cases ax <;> decide

@[simp] theorem negKey_ne_posKey (ax : Axis) : ax.negKey ≠ ax.posKey := by cases ax <;> decide

end Axis

/-- A key is the positive or the negative key of its axis. -/
theorem MoveKey.eq_pos_or_neg (k : MoveKey) : k = k.axis.posKey ∨ k = k.axis.negKey := by cases k <;> decide

/-- The axis state the handlers compute from the physical state of the two keys. -/
def AxisState.ofPhys (posDown negDown : Bool) : AxisState :=
  if posDown && negDown then .conflict
  else if posDown then .positive
  else if negDown then .negative
  else .none

/-- The `AxisState` of an axis on which only `k` is down. -/
def MoveKey.single (k : MoveKey) : AxisState :=
  if k = k.axis.posKey then .positive else .negative

@[simp] theorem MoveKey.single_ne_conflict (k : MoveKey) : k.single ≠ .conflict := by cases k <;> decide

@[simp] theorem MoveKey.single_ne_none (k : MoveKey) : k.single ≠ .none := by cases k <;> decide

end MarcoEngine
