import MarcoEngine.ConfigIo

/-!
# Saving, call by call

`config_io::Save` with the calls of the system that may fail. The keys go to a temporary file, which replaces the file once every key
was written and the file was flushed. What a failed write leaves of the temporary file is up to the system.
-/

namespace MarcoEngine

namespace ConfigIo

/-- `marco.ini` and the temporary file beside it; `replacements` is history: how often `marco.ini` was replaced. -/
structure Disk where
  target : Option Ini
  temp : Option Ini
  replacements : Nat

/-- Which calls of a `Save` fail. -/
structure SaveFailures where
  /-- The temporary file of an earlier `Save` cannot be deleted. -/
  deleteFails : Bool
  /-- The write of the key with this number fails, and leaves this of the temporary file. -/
  writeFails : Nat → Option (Option Ini)
  openFails : Bool
  flushFails : Bool
  /-- The attributes of a file that is there cannot be read. -/
  attributesFail : Bool
  moveFails : Bool
  replaceFails : Bool
  /-- The temporary file cannot be deleted after it was not used. -/
  discardFails : Bool

/-- `WritePrivateProfileStringW` in `WriteInt`, `WriteDbl` and `WriteBool`: the temporary file, and `s_writeFailed`. -/
def writeKey (failure : Option (Option Ini)) (write : IniKey × String) (s : Option Ini × Bool) : Option Ini × Bool :=
  match failure with
  | none => (some (Function.update (s.1.getD fun _ => none) write.1 (some write.2)), s.2)
  | some left => (left, true)

/-- The writes from number `n` on. -/
def writeKeys (failure : Nat → Option (Option Ini)) : Nat → List (IniKey × String) → Option Ini × Bool → Option Ini × Bool
  | _, [], s => s
  | n, write :: writes, s => writeKeys failure (n + 1) writes (writeKey (failure n) write s)

/-- `MoveFileExW` and `ReplaceFileW`: they replace the file by the temporary one, or do nothing. -/
def replaceBy (fails : Bool) (disk : Disk) : Bool × Disk :=
  match fails, disk.temp with
  | false, some ini => (true, ⟨some ini, none, disk.replacements + 1⟩)
  | _, _ => (false, disk)

/-- What `Save` does once the keys are written: `written` is the temporary file and `s_writeFailed`. -/
def finishSave (failures : SaveFailures) (written : Option Ini × Bool) (disk : Disk) : Bool × Disk :=
  let disk := { disk with temp := written.1 }
  -- only a file that is there can be opened
  let writeFailed := written.2 || written.1.isNone || failures.openFails || failures.flushFails
  let outcome :=
    if writeFailed then (false, disk)
    else if disk.target.isNone || failures.attributesFail then replaceBy failures.moveFails disk
    else replaceBy failures.replaceFails disk
  if outcome.1 then outcome
  else (false, { outcome.2 with temp := if failures.discardFails then outcome.2.temp else none })

variable {R : Type} [ScalarText R]

/-- `Save`. -/
def save (failures : SaveFailures) (c : RuntimeConfig R) (disk : Disk) : Bool × Disk :=
  let temp := if failures.deleteFails then disk.temp else none
  finishSave failures (writeKeys failures.writeFails 0 (saveWrites c) (temp, false)) disk

end ConfigIo

end MarcoEngine
