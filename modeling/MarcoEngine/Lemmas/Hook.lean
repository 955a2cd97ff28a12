import MarcoEngine.MessageLoop

/-!
# What the hook leaves alone

The hook decides on an edge by its own records and queues it. It touches neither the engine nor the bhop, and the same goes for
putting the hook in place and for taking it away.
-/

namespace MarcoEngine

namespace System

variable {R : Type} [Scalar R] {rc : RuntimeConfig R} {s s' s'' : System R}

/-- Neither the engine nor the bhop is touched, nor what the message thread has left to do. -/
structure Aside (s s' : System R) : Prop where
  engine : s'.engine = s.engine
  bhop : s'.bhop = s.bhop
  tasks : s'.tasks = s.tasks

omit [Scalar R]

namespace Aside

theorem refl (s : System R) : Aside s s := ⟨rfl, rfl, rfl⟩

theorem capture (h : Aside s s') (capture : Capture) : Aside s { s' with capture } := ⟨h.engine, h.bhop, h.tasks⟩

theorem post (h : Aside s s') (msg : Message) : Aside s (s'.post msg) := ⟨h.engine, h.bhop, h.tasks⟩

theorem queueRoutedEvent (h : Aside s s') (event : RoutedKeyEvent) : Aside s (s'.queueRoutedEvent event).2 := by
  unfold System.queueRoutedEvent
  split
  · exact h.post _
  · dsimp only
    split
    · exact h.capture _
    · exact (h.capture _).post _

theorem shouldRoute (h : Aside s s') : Aside s s'.shouldRoute.2 := by
  unfold System.shouldRoute isTargetActiveFast
  dsimp only
  split
  · exact h.post _
  · exact h

theorem hookMoveKey (k : MoveKey) (down : Bool) : Aside s (s.hookMoveKey rc k down).2 := by
  have hroute := (refl s).shouldRoute
  unfold System.hookMoveKey
  dsimp only
  split
  · split
    · exact hroute
    · exact ((hroute.capture _).queueRoutedEvent _).capture _
  · split
    · exact ((hroute.capture _).queueRoutedEvent _).capture _
    · exact hroute.capture _

theorem hookModifier (key : Modifier) (down : Bool) : Aside s (s.hookModifier key down) := by
  have hroute := (refl s).shouldRoute
  unfold System.hookModifier
  dsimp only
  split <;> split
  all_goals first
    | exact hroute
    | exact (hroute.capture _).queueRoutedEvent _

theorem hookSpace (down : Bool) : Aside s (s.hookSpace rc down).2 := by
  have hroute := ((refl s).capture { s.capture with physSpaceDown := down }).shouldRoute
  unfold System.hookSpace
  dsimp only
  split
  · split
    · exact (hroute.queueRoutedEvent _).capture _
    · exact hroute
  · split
    · exact (hroute.queueRoutedEvent _).capture _
    · exact hroute.capture _

theorem uninstall (h : Aside s s') : Aside s s'.uninstall := ⟨h.engine, h.bhop, h.tasks⟩

theorem install (h : Aside s s') (hooks : Bool) : Aside s (s'.install hooks) := by
  unfold System.install
  dsimp only
  split <;> exact ⟨h.engine, h.bhop, h.tasks⟩

theorem reinstall (h : Aside s s') (hooks : Bool) : Aside s (s'.reinstall hooks) := by
  unfold System.reinstall
  split
  · exact h
  · exact h.uninstall.install hooks

theorem completeDrain (h : Aside s s') : Aside s s'.completeDrain := by
  unfold System.completeDrain
  split
  · exact h.post _
  · exact h.capture _

end Aside

end System

end MarcoEngine
