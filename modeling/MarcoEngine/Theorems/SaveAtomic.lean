import MarcoEngine.ConfigSave
import MarcoEngine.Theorems.SaveLoad

/-!
# Saving is atomic

Whichever calls fail: `Save` reports success exactly if it has replaced the file by one in which every key that it writes has its new
value, and leaves the file alone otherwise. If no temporary file was left from an earlier `Save`, the new file has these keys and no
others.
-/

namespace MarcoEngine

namespace ConfigIo

variable {R : Type} [ScalarText R]

/-- The file was replaced, once, by one in which every key that `Save` writes has its new value. -/
def Saved (c : RuntimeConfig R) (disk disk' : Disk) : Prop :=
  disk'.replacements = disk.replacements + 1 ∧ ∃ ini, disk'.target = some ini ∧ ∀ w ∈ saveWrites c, ini w.1 = some w.2

namespace SaveAtomicAux

variable {failure : Nat → Option (Option Ini)} {writes : List (IniKey × String)} {disk : Disk} {c : RuntimeConfig R}

/-- Once a write has failed, that is not forgotten. -/
theorem writeKeys_failed (n : Nat) (writes : List (IniKey × String)) (temp : Option Ini) :
    (writeKeys failure n writes (temp, true)).2 = true := by
  induction writes generalizing n temp with
  | nil => rfl
  | cons write writes ih =>
    unfold writeKeys writeKey
    split
    · exact ih (n + 1) _
    · exact ih (n + 1) _

/-- If no write failed, the temporary file has them all. -/
theorem writeKeys_overlay {n : Nat} {temp : Option Ini} (h : (writeKeys failure n writes (temp, false)).2 = false) :
    (writeKeys failure n writes (temp, false)).1.getD (fun _ => none) =
      Overlay.overlay (temp.getD fun _ => none) (writes.map fun w => (w.1, some w.2)) := by
  induction writes generalizing n temp with
  | nil => rfl
  | cons write writes ih =>
    unfold writeKeys writeKey at h ⊢
    cases hfailure : failure n with
    | none =>
      rw [hfailure] at h
      exact ih h
    | some left =>
      rw [hfailure] at h
      exact absurd ((writeKeys_failed (n + 1) writes left).symm.trans h) (by decide)

theorem overlay_saveWrites (ini : Ini) {w : IniKey × String} (hw : w ∈ saveWrites c) :
    Overlay.overlay ini ((saveWrites c).map fun w => (w.1, some w.2)) w.1 = some w.2 := by
  have hcells : (((saveWrites c).map fun w => (w.1, some w.2)).map Prod.fst).Nodup := by
    rw [List.map_map]
    exact SaveLoadAux.saveWrites_nodup c
  exact Overlay.overlay_of_mem ini hcells (List.mem_map_of_mem hw)

/-- The two calls replace the file, and say so, or leave it. -/
theorem replaceBy_cases (fails : Bool) (disk : Disk) :
    (∃ ini, disk.temp = some ini ∧ replaceBy fails disk = (true, ⟨some ini, none, disk.replacements + 1⟩)) ∨
      replaceBy fails disk = (false, disk) := by
  unfold replaceBy
  cases fails with
  | true => exact .inr rfl
  | false => cases htemp : disk.temp with
    | none => exact .inr rfl
    | some ini => exact .inl ⟨ini, rfl, rfl⟩

/-- A `Save` ends in one of two ways: the file was replaced by the temporary one, which every write has reached, or it is as it
was. -/
theorem finishSave_cases (failures : SaveFailures) (written : Option Ini × Bool) (disk : Disk) :
    (∃ ini, written = (some ini, false) ∧ finishSave failures written disk = (true, ⟨some ini, none, disk.replacements + 1⟩)) ∨
      ∃ temp, finishSave failures written disk = (false, { disk with temp }) := by
  unfold finishSave
  dsimp only
  by_cases hfailed : (written.2 || written.1.isNone || failures.openFails || failures.flushFails) = true
  · rw [if_pos hfailed]
    exact .inr ⟨_, rfl⟩
  · rw [if_neg hfailed]
    simp only [Bool.or_eq_true, not_or, Bool.not_eq_true] at hfailed
    have hreplaced : ∀ fails, (∃ ini, written = (some ini, false) ∧
          replaceBy fails { disk with temp := written.1 } = (true, ⟨some ini, none, disk.replacements + 1⟩)) ∨
        replaceBy fails { disk with temp := written.1 } = (false, { disk with temp := written.1 }) := by
      intro fails
      rcases replaceBy_cases fails { disk with temp := written.1 } with ⟨ini, htemp, hreplace⟩ | hreplace
      · exact .inl ⟨ini, Prod.ext htemp hfailed.1.1.1, hreplace⟩
      · exact .inr hreplace
    split
    · rcases hreplaced failures.moveFails with ⟨ini, hwritten, hmove⟩ | hmove
      · rw [hmove]
        exact .inl ⟨ini, hwritten, rfl⟩
      · rw [hmove]
        exact .inr ⟨_, rfl⟩
    · rcases hreplaced failures.replaceFails with ⟨ini, hwritten, hreplace⟩ | hreplace
      · rw [hreplace]
        exact .inl ⟨ini, hwritten, rfl⟩
      · rw [hreplace]
        exact .inr ⟨_, rfl⟩

theorem save_cases (failures : SaveFailures) (c : RuntimeConfig R) (disk : Disk) :
    (∃ ini, writeKeys failures.writeFails 0 (saveWrites c) (if failures.deleteFails then disk.temp else none, false) =
        (some ini, false) ∧ save failures c disk = (true, ⟨some ini, none, disk.replacements + 1⟩)) ∨
      ∃ temp, save failures c disk = (false, { disk with temp }) :=
  finishSave_cases failures _ disk

end SaveAtomicAux

open SaveAtomicAux

/-- Whichever calls fail. -/
theorem save_atomic (failures : SaveFailures) (c : RuntimeConfig R) (disk : Disk) :
    ((save failures c disk).1 = true ↔ Saved c disk (save failures c disk).2) ∧
      ((save failures c disk).1 = false → (save failures c disk).2.target = disk.target) := by
  rcases save_cases failures c disk with ⟨ini, hwritten, hsave⟩ | ⟨temp, hsave⟩
  · rw [hsave]
    refine ⟨⟨fun _ => ⟨rfl, ini, rfl, ?_⟩, fun _ => rfl⟩, by simp⟩
    intro w hw
    have hoverlay := writeKeys_overlay (congrArg Prod.snd hwritten)
    rw [hwritten] at hoverlay
    rw [show ini = _ from hoverlay]
    exact overlay_saveWrites _ hw
  · rw [hsave]
    refine ⟨⟨by simp, fun hsaved => ?_⟩, fun _ => rfl⟩
    exact absurd hsaved.1 (by simp)

/-- Over no temporary file that is left, the new file is exactly what `Save` writes. -/
theorem save_fresh {failures : SaveFailures} {c : RuntimeConfig R} {disk : Disk}
    (hfresh : failures.deleteFails = false ∨ disk.temp = none) (h : (save failures c disk).1 = true) :
    (save failures c disk).2.target = some (savedFile c) := by
  rcases save_cases failures c disk with ⟨ini, hwritten, hsave⟩ | ⟨temp, hsave⟩
  · have hoverlay := writeKeys_overlay (congrArg Prod.snd hwritten)
    rw [hwritten] at hoverlay
    have hnone : (if failures.deleteFails then disk.temp else none) = none := by
      rcases hfresh with hdelete | htemp
      · simp [hdelete]
      · simp [htemp]
    rw [hnone] at hoverlay
    rw [hsave]
    exact congrArg some hoverlay
  · rw [hsave] at h
    cases h

end ConfigIo

end MarcoEngine
